import SqlPreview.Preview.Query
import SqlPreview.Proofs.Sql.Fragments
import SqlPreview.Proofs.Sql.Literal
import SqlPreview.Proofs.Sql.Registries

/-!
# Tests and their truth

A test decides whether a tag renders, and whether a choice takes a branch. Nothing else of it
counts: not how it is written, nor whether it is there at all, nor why it has no value.

This file defines:
1. when a test holds in a context (`Holds`), and tags whose tests hold alike (`SameTruth`);
2. nodes, statements and registries that differ in nothing but such tests (`Retested`,
   `StatementRetested`, `RegistryRetested`).

Results:
1. `element_retested`: a tag renders alike with other tests of the same truth, if what is inside
   tags does.
2. `nodes_retested`: so do nodes at any depth, through every fragment that they include.
3. `statement_same_retested`: so do statements, and a tag or a branch whose test does not hold is
   passed over, whatever the reason.
-/

namespace SqlPreview.Render

/-! ## Tests of the same truth -/

/-- A test holds where its expression has a value that counts as true. One that is missing, that is
not an expression, or that fails does not hold. -/
def Holds (context : Context) (element : Element) : Prop :=
  ∃ test v, element.attribute? "test" = some test ∧ evaluate context.get? test = .ok v ∧
    v.truthy = true

/-- The tags that have a test. -/
def IsTested (element : Element) : Prop := element.kind = .test ∨ element.kind = .when

/-- Two tags with one name whose tests hold in the same contexts. A tag that has a test reads no
other attribute; all others have the same attributes. -/
structure SameTruth (element element' : Element) : Prop where
  name : element.name = element'.name
  attributes : ¬ IsTested element → element.attributes = element'.attributes
  truth : ∀ context, Holds context element ↔ Holds context element'

/-- Nodes that differ only in tests, at any places, and not in their truth. -/
inductive Retested : List Node → List Node → Prop
  | nil : Retested [] []
  | text (text : String) {rest rest' : List Node} :
      Retested rest rest' → Retested (.text text :: rest) (.text text :: rest')
  | tag {element element' : Element} {rest rest' : List Node} :
      SameTruth element element' → Retested element.children element'.children →
      Retested rest rest' → Retested (.tag element :: rest) (.tag element' :: rest')

/-- Tags that differ only in tests, their own and those below. -/
structure TagRetested (element element' : Element) : Prop where
  own : SameTruth element element'
  below : Retested element.children element'.children

/-- Statements that differ only in the tests of their bodies. -/
structure StatementRetested (statement statement' : Statement) : Prop where
  kind : statement.kind = statement'.kind
  parameterType : statement.parameterType = statement'.parameterType
  body : Retested statement.body statement'.body

/-- Mappers of one namespace that differ only in the tests of what they hold under each id. -/
structure MapperRetested (mapper mapper' : Mapper) : Prop where
  ns : mapper.ns = mapper'.ns
  statements : ∀ id,
    Option.Rel StatementRetested (mapper.statements.get? id) (mapper'.statements.get? id)
  fragments : ∀ id, Option.Rel (fun fragment fragment' => Retested fragment.body fragment'.body)
    (mapper.fragments.get? id) (mapper'.fragments.get? id)

/-- Registries that differ only in the tests of their statements and fragments. -/
def RegistryRetested (registry registry' : Registry) : Prop :=
  ∀ ns, Option.Rel MapperRetested (registry.find? ns) (registry'.find? ns)

theorem IsTested.kind_ne {element : Element} {kind : TagKind} (tested : IsTested element)
    (other : kind ≠ .test ∧ kind ≠ .when) : element.kind ≠ kind := by
  rintro rfl
  exact tested.elim other.1 other.2

theorem holds_iff_truthy {context : Context} {element : Element} {test : String} {v : Value}
    (found : element.attribute? "test" = some test) (run : evaluate context.get? test = .ok v) :
    Holds context element ↔ v.truthy = true := by
  unfold Holds
  constructor
  · rintro ⟨test', w, same, ran, truthy⟩
    cases found.symm.trans same
    cases run.symm.trans ran
    exact truthy
  · intro truthy
    exact ⟨test, v, found, run, truthy⟩

theorem testHolds_iff {scope : Scope} {element : Element} :
    testHolds scope element = true ↔ Holds scope.context element := by
  unfold testHolds Holds
  cases element.attribute? "test" with
  | none => simp
  | some test =>
    constructor
    · intro holds
      cases run : evaluate scope.context.get? test with
      | error e => simp [run] at holds
      | ok v => exact ⟨test, v, rfl, run, by simpa [run] using holds⟩
    · rintro ⟨_, v, ⟨⟩, run, truthy⟩
      simpa [run] using truthy

namespace SameTruth

variable {element element' : Element}

theorem kind (same : SameTruth element element') : element.kind = element'.kind :=
  congrArg TagKind.ofName same.name

theorem testHolds (same : SameTruth element element') (scope : Scope) :
    testHolds scope element = testHolds scope element' := by
  rw [Bool.eq_iff_iff, testHolds_iff, testHolds_iff]
  exact same.truth scope.context

theorem attribute? (same : SameTruth element element') (plain : ¬ IsTested element)
    (name : String) : element.attribute? name = element'.attribute? name :=
  congrArg (Dict.get? · name) (same.attributes plain)

theorem binding? (same : SameTruth element element') : element.binding? = element'.binding? := by
  by_cases plain : IsTested element
  · have other : element.kind ≠ .bind := plain.kind_ne (by decide)
    rw [binding?_of_kind_ne other, binding?_of_kind_ne (same.kind ▸ other)]
  · unfold Tag.binding?
    rw [same.kind, same.attribute? plain, same.attribute? plain]

end SameTruth

/-! ## Corresponding options -/

section

variable {α β : Type} {r : α → α → Prop} {q : β → β → Prop} {a b : Option α}

theorem rel_cases (same : Option.Rel r a b) :
    (a = none ∧ b = none) ∨ ∃ x y, a = some x ∧ b = some y ∧ r x y := by
  cases same with
  | none => exact .inl ⟨rfl, rfl⟩
  | some here => exact .inr ⟨_, _, rfl, rfl, here⟩

theorem rel_bind {f g : α → Option β} (same : Option.Rel r a b)
    (next : ∀ x y, r x y → Option.Rel q (f x) (g y)) : Option.Rel q (a.bind f) (b.bind g) := by
  cases same with
  | none => exact .none
  | some here => exact next _ _ here

/-- Dictionaries with the same names in the same places have corresponding values. -/
theorem rel_get? {dict dict' : Dict α}
    (entries :
      List.Forall₂ (fun entry entry' => entry.1 = entry'.1 ∧ r entry.2 entry'.2) dict dict')
    (name : String) : Option.Rel r (dict.get? name) (dict'.get? name) := by
  induction entries with
  | nil => exact .none
  | @cons entry entry' _ _ here _ ih =>
    obtain ⟨same, value⟩ := here
    rw [Dict.get?_cons, Dict.get?_cons, same]
    split
    · exact .some value
    · exact ih

theorem rel_orElse {a' b' : Option α} (same : Option.Rel r a b) (same' : Option.Rel r a' b') :
    Option.Rel r (a <|> a') (b <|> b') := by
  cases same with
  | none => exact same'
  | some here => exact .some here

end

/-! ## Choices, properties and fragments -/

theorem Retested.childElements {xs ys : List Node} (retested : Retested xs ys) :
    List.Forall₂ TagRetested (xs.filterMap Node.element?) (ys.filterMap Node.element?) := by
  induction retested with
  | nil => exact .nil
  | text _ _ ih => exact ih
  | tag own below _ _ ih => exact .cons ⟨own, below⟩ ih

theorem TagRetested.childElements {element element' : Element}
    (retested : TagRetested element element') :
    List.Forall₂ TagRetested element.childElements element'.childElements :=
  retested.below.childElements

/-- A search that looks at kinds and truth ends at corresponding tags. -/
theorem find?_retested {p : Element → Bool}
    (alike : ∀ element element', SameTruth element element' → p element = p element')
    {xs ys : List Element} (retested : List.Forall₂ TagRetested xs ys) :
    Option.Rel TagRetested (xs.find? p) (ys.find? p) := by
  induction retested with
  | nil => exact .none
  | @cons element element' _ _ here _ ih =>
    rw [List.find?_cons, List.find?_cons, alike _ _ here.own]
    cases p element' with
    | true => exact .some here
    | false => exact ih

theorem chosen?_retested (scope : Scope) {xs ys : List Element}
    (retested : List.Forall₂ TagRetested xs ys) :
    Option.Rel TagRetested (chosen? scope xs) (chosen? scope ys) := by
  refine rel_orElse (find?_retested (fun _ _ same => ?_) retested)
    (find?_retested (fun _ _ same => ?_) retested)
  · rw [same.kind, same.testHolds]
  · rw [same.kind]

variable {setting : Setting} {registry registry' : Registry} {options : RenderOptions}
  {path : StatementPath}

theorem includeProperties_retested {scope : Scope} {tag : String} {xs ys : List Element}
    (retested : List.Forall₂ TagRetested xs ys) (properties : Dict String) :
    includeProperties setting scope tag properties xs =
      includeProperties setting scope tag properties ys := by
  induction retested generalizing properties with
  | nil => rfl
  | @cons element element' _ _ here _ ih =>
    by_cases property : element.kind = .property
    · have plain : ¬ IsTested element := fun tested => tested.kind_ne (by decide) property
      unfold includeProperties
      rw [← here.own.kind, ← here.own.attribute? plain, ← here.own.attribute? plain]
      simp only [ih]
    · rw [includeProperties_skip property, includeProperties_skip (here.own.kind ▸ property), ih]

/-- Fragments found in two registries: of one namespace, and different only in tests. -/
def FoundRetested (found found' : String × Fragment) : Prop :=
  found.1 = found'.1 ∧ Retested found.2.body found'.2.body

theorem fragmentIn?_retested (retested : RegistryRetested registry registry') (ns id : String) :
    Option.Rel FoundRetested (fragmentIn? registry ns id) (fragmentIn? registry' ns id) :=
  rel_bind (retested ns) fun _ _ mappers =>
    rel_bind (mappers.fragments id) fun _ _ bodies => .some ⟨mappers.ns, bodies⟩

theorem fragment?_retested (retested : RegistryRetested registry registry') (refid ns : String) :
    Option.Rel FoundRetested (fragment? registry refid ns) (fragment? registry' refid ns) := by
  refine rel_orElse ?_ (fragmentIn?_retested retested ns refid)
  cases Text.splitLast? (· == '.') refid.toList with
  | none => exact .none
  | some parts => exact fragmentIn?_retested retested _ _

/-! ## Tags and nodes -/

/-- What is inside tags renders alike where only tests differ. -/
def BodiesAlike (body body' : Body) : Prop :=
  ∀ scope parent xs ys, Retested xs ys → body scope parent xs = body' scope parent ys

variable {body body' : Body} {element element' : Element}

theorem inside_retested (alike : BodiesAlike body body') (retested : TagRetested element element')
    (scope : Scope) : inside body scope element = inside body' scope element' := by
  unfold inside
  rw [alike _ _ _ _ retested.below, retested.own.name]

theorem loop_retested (alike : BodiesAlike body body') (retested : TagRetested element element')
    (plain : ¬ IsTested element) (scope : Scope) :
    loop ⟨registry, options, path⟩ body scope element =
      loop ⟨registry', options, path⟩ body' scope element' := by
  have passes : ∀ index item entry, inside body (loopScope scope index item entry) element =
      inside body' (loopScope scope index item entry) element' :=
    fun _ _ _ => inside_retested alike retested _
  unfold loop joinPasses
  simp only [passes, retested.own.attribute? plain, retested.own.name]
  rfl

theorem inclusion_retested (alike : BodiesAlike body body')
    (registries : RegistryRetested registry registry') (retested : TagRetested element element')
    (plain : ¬ IsTested element) (scope : Scope) :
    inclusion ⟨registry, options, path⟩ body scope element =
      inclusion ⟨registry', options, path⟩ body' scope element' := by
  have given : includeProperties ⟨registry, options, path⟩ scope element.name scope.properties
        element.childElements =
      includeProperties ⟨registry', options, path⟩ scope element'.name scope.properties
        element'.childElements := by
    rw [includeProperties_same_path registry registry' options options, retested.own.name,
      includeProperties_retested retested.childElements]
  unfold inclusion
  rw [retested.own.attribute? plain, given, retested.own.name]
  cases element'.attribute? "refid" with
  | none => rfl
  | some refid =>
    dsimp only
    congr 1
    funext properties
    show (attributeText ⟨registry', options, path⟩ { scope with properties } element'.name refid >>=
      fun refid => _) = _
    congr 1
    funext refid
    rcases rel_cases (fragment?_retested registries refid scope.ns) with
      ⟨missing, missing'⟩ | ⟨_, _, found, found', same, bodies⟩
    · simp only [missing, missing']
    · simp only [found, found', same, alike _ _ _ _ bodies]

/-- A tag renders alike with other tests of the same truth, its own and those of its branches. -/
theorem element_retested (alike : BodiesAlike body body')
    (registries : RegistryRetested registry registry') (retested : TagRetested element element')
    (scope : Scope) :
    Render.element ⟨registry, options, path⟩ body scope element =
      Render.element ⟨registry', options, path⟩ body' scope element' := by
  have inner := inside_retested alike retested scope
  unfold Render.element
  rw [← retested.own.kind, ← retested.own.testHolds, inner]
  -- Beyond that, only tags without a test look at their attributes.
  cases kind : element.kind with
  | test | «when» => rfl
  | «include» =>
    have plain : ¬ IsTested element := fun tested => tested.kind_ne (by decide) kind
    exact inclusion_retested alike registries retested plain scope
  | foreach =>
    have plain : ¬ IsTested element := fun tested => tested.kind_ne (by decide) kind
    exact loop_retested alike retested plain scope
  | choose =>
    rcases rel_cases (chosen?_retested scope retested.childElements) with
      ⟨none, none'⟩ | ⟨_, _, found, found', branch⟩
    · simp only [none, none']
    · simp only [found, found', inside_retested alike branch scope]
  | trim =>
    have plain : ¬ IsTested element := fun tested => tested.kind_ne (by decide) kind
    rw [retested.own.attributes plain]
  | whereClause | setClause => rfl
  | property | selectKey | bind => rfl
  | «otherwise» | other => rfl

theorem siblings_retested {setting : Setting} {tag tag' : Scope → Element → Rendered}
    (tags : ∀ scope element element', TagRetested element element' →
      tag scope element = tag' scope element')
    {parent : String} {xs ys : List Node} (retested : Retested xs ys) (scope : Scope) :
    siblings setting tag parent scope xs = siblings setting tag' parent scope ys := by
  induction retested generalizing scope with
  | nil => rfl
  | text text _ ih =>
    rw [siblings_cons, siblings_cons]
    simp only [ih]
    rfl
  | @tag element element' _ _ same below _ _ ih =>
    have own : own setting tag parent scope (.tag element) =
        own setting tag' parent scope (.tag element') := by
      rw [Render.own, Render.own, same.kind, tags _ _ _ ⟨same, below⟩]
    rw [siblings_cons, siblings_cons, own, Node.binding?, Node.binding?, same.binding?]
    simp only [ih]

/-- Nodes at any depth render alike. The induction is on the levels left, because an inclusion
leads to a fragment that is no part of the nodes. -/
theorem nodes_retested (registries : RegistryRetested registry registry') (room : Nat) :
    BodiesAlike (nodes ⟨registry, options, path⟩ room) (nodes ⟨registry', options, path⟩ room) := by
  induction room with
  | zero =>
    intro scope parent xs ys retested
    rw [nodes_eq_siblings, nodes_eq_siblings, siblings_registry registry registry']
    exact siblings_retested (fun _ _ _ _ => rfl) retested scope
  | succ room ih =>
    intro scope parent xs ys retested
    rw [nodes_eq_siblings, nodes_eq_siblings, siblings_registry registry registry']
    exact siblings_retested (fun scope _ _ same => element_retested ih registries same scope)
      retested scope

/-! ## Tests that do not hold -/

/-- A tag whose test does not hold is passed over. -/
theorem nodes_failing {scope : Scope} {element : Element} (tested : IsTested element)
    (fails : ¬ Holds scope.context element) (room : Nat) (parent : String) (rest : List Node) :
    nodes setting (room + 1) scope parent (.tag element :: rest) =
      nodes setting (room + 1) scope parent rest := by
  have binds : element.kind ≠ .bind := tested.kind_ne (by decide)
  have nothing : Render.element setting (nodes setting room) scope element = .ok [] := by
    rw [← testHolds_iff] at fails
    unfold Render.element
    rcases tested with kind | kind <;> rw [kind] <;> exact if_neg fails
  rw [nodes_tag binds, nothing, ok_bind]
  exact bind_pure _

theorem chosen?_failing {scope : Scope} {element : Element} (tested : IsTested element)
    (fails : ¬ Holds scope.context element) (before after : List Element) :
    chosen? scope (before ++ element :: after) = chosen? scope (before ++ after) := by
  have skipWhen : (element.kind == .when && testHolds scope element) = false := by
    rw [Bool.eq_false_iff.2 (mt testHolds_iff.1 fails), Bool.and_false]
  have skipOtherwise : (element.kind == .otherwise) = false :=
    beq_eq_false_iff_ne.2 (tested.kind_ne (by decide))
  unfold chosen?
  simp only [List.find?_append, List.find?_cons, skipWhen, skipOtherwise]

theorem element_choice {choice : Element} (kind : choice.kind = .choose) (body : Body)
    (scope : Scope) :
    Render.element setting body scope choice =
      ((chosen? scope choice.childElements).map (inside body scope)).getD (.ok []) := by
  unfold Render.element
  rw [kind]
  cases chosen? scope choice.childElements with
  | none => rfl
  | some branch => rfl

/-- A choice goes on past a branch whose test does not hold. -/
theorem nodes_choice_failing {scope : Scope} {element : Element} (tested : IsTested element)
    (fails : ¬ Holds scope.context element) (room : Nat) (parent : String) (rest : List Node)
    (attributes : Dict String) (before after : List Node) :
    nodes setting (room + 1) scope parent
        (.tag ⟨"choose", attributes, before ++ .tag element :: after⟩ :: rest) =
      nodes setting (room + 1) scope parent
        (.tag ⟨"choose", attributes, before ++ after⟩ :: rest) := by
  have kind (children : List Node) : Tag.kind ⟨"choose", attributes, children⟩ = .choose := rfl
  have binds (children : List Node) : Tag.kind ⟨"choose", attributes, children⟩ ≠ .bind := by
    rw [kind]
    decide
  have branches : chosen? scope
        (Tag.childElements ⟨"choose", attributes, before ++ .tag element :: after⟩) =
      chosen? scope (Tag.childElements ⟨"choose", attributes, before ++ after⟩) := by
    unfold Tag.childElements
    rw [List.filterMap_append, List.filterMap_append]
    exact chosen?_failing tested fails _ _
  rw [nodes_tag (binds _), nodes_tag (binds _), element_choice (kind _), element_choice (kind _),
    branches]

/-! ## Statements -/

theorem statement_retested (registries : RegistryRetested registry registry')
    {statement statement' : Statement} (retested : StatementRetested statement statement')
    (context : Context) :
    Render.statement ⟨registry, options, path⟩ statement context =
      Render.statement ⟨registry', options, path⟩ statement' context := by
  have same : nodes ⟨registry, options, path⟩ options.maxDepth ⟨context, [], path.ns⟩
        statement'.kind.name statement.body =
      nodes ⟨registry', options, path⟩ options.maxDepth ⟨context, [], path.ns⟩
        statement'.kind.name statement'.body :=
    nodes_retested registries _ _ _ _ _ retested.body
  unfold Render.statement
  simp only [retested.kind, same]

theorem sqlFor_retested (registries : RegistryRetested registry registry')
    (signatures : Signatures) (classes : ClassTable) (payload : Json) :
    Previewer.sqlFor ⟨registry, signatures, classes, options⟩ path payload =
      Previewer.sqlFor ⟨registry', signatures, classes, options⟩ path payload := by
  unfold Previewer.sqlFor Previewer.statement
  rcases rel_cases (rel_bind (registries path.ns) fun _ _ mappers => mappers.statements path.id) with
    ⟨missing, missing'⟩ | ⟨statement, statement', found, found', retested⟩
  · simp only [missing, missing']
    rfl
  · have bindings : Previewer.bindings ⟨registry, signatures, classes, options⟩ path statement
          payload =
        Previewer.bindings ⟨registry', signatures, classes, options⟩ path statement' payload := by
      unfold Previewer.bindings Previewer.shape
      rw [retested.parameterType]
    simp only [found, found', ok_bind, bindings, statement_retested registries retested]

/-- Tests count through their truth alone. Two versions of a project that differ in nothing but
tests of the same truth give the same SQL and the same errors, and a test that is missing or fails
stops nothing: its tag, or its branch of a choice, is passed over. -/
theorem statement_same_retested {registry registry' : Registry}
    (registries : RegistryRetested registry registry') (options : RenderOptions)
    (path : StatementPath) :
    (∀ statement statement', StatementRetested statement statement' → ∀ context,
      Render.statement ⟨registry, options, path⟩ statement context =
        Render.statement ⟨registry', options, path⟩ statement' context) ∧
    (∀ signatures classes payload,
      Previewer.sqlFor ⟨registry, signatures, classes, options⟩ path payload =
        Previewer.sqlFor ⟨registry', signatures, classes, options⟩ path payload) ∧
    ∀ room scope parent rest element, IsTested element → ¬ Holds scope.context element →
      nodes ⟨registry, options, path⟩ (room + 1) scope parent (.tag element :: rest) =
        nodes ⟨registry, options, path⟩ (room + 1) scope parent rest ∧
      ∀ attributes before after,
        nodes ⟨registry, options, path⟩ (room + 1) scope parent
            (.tag ⟨"choose", attributes, before ++ .tag element :: after⟩ :: rest) =
          nodes ⟨registry, options, path⟩ (room + 1) scope parent
            (.tag ⟨"choose", attributes, before ++ after⟩ :: rest) := by
  refine ⟨fun statement statement' retested context => ?_, fun signatures classes payload => ?_,
    fun room scope parent rest element tested fails => ⟨?_, fun attributes before after => ?_⟩⟩
  · exact statement_retested registries retested context
  · exact sqlFor_retested registries signatures classes payload
  · exact nodes_failing tested fails room parent rest
  · exact nodes_choice_failing tested fails room parent rest attributes before after

/-! ## Two versions of a project -/

/-- An inclusion of the fragment below, which the fragment itself has as well. -/
def includeFilter : Element := ⟨"include", [("refid", "filter")], []⟩

/-- A fragment that chooses by two tests. -/
def filterFragment (never given : Dict String) : Fragment :=
  ⟨"filter",
    [.tag ⟨"choose", [],
      [.tag ⟨"when", never, [.tag includeFilter]⟩,
        .tag ⟨"when", given, [.text "WHERE x = #\x7bx\x7d"]⟩]⟩]⟩

/-- A statement that includes the fragment below a test and once more. -/
def selectFiltered (never : Dict String) : Statement :=
  ⟨"s", .select, none,
    [.text "SELECT * FROM t ", .tag ⟨"if", never, [.tag includeFilter]⟩, .tag includeFilter]⟩

def filterRegistry (never given : Dict String) : Registry :=
  ⟨[("m", ⟨"m", [("s", selectFiltered never)], [("filter", filterFragment never given)]⟩)]⟩

theorem sameTruth_of_holds {name : String} {attributes attributes' : Dict String}
    {children : List Node} (tested : IsTested ⟨name, attributes, children⟩)
    (truth : ∀ context, Holds context ⟨name, attributes, children⟩ ↔
      Holds context ⟨name, attributes', children⟩) :
    SameTruth ⟨name, attributes, children⟩ ⟨name, attributes', children⟩ :=
  ⟨rfl, fun plain => absurd tested plain, truth⟩

/-- A version differs where a test that never holds is missing, or where one is written anew. -/
theorem filterRegistry_retested {never never' given given' : Dict String}
    (absent : ∀ name children context, ¬ Holds context ⟨name, never, children⟩)
    (absent' : ∀ name children context, ¬ Holds context ⟨name, never', children⟩)
    (truth : ∀ name children context, Holds context ⟨name, given, children⟩ ↔
      Holds context ⟨name, given', children⟩) :
    StatementRetested (selectFiltered never) (selectFiltered never') ∧
      RegistryRetested (filterRegistry never given) (filterRegistry never' given') := by
  have neither (name : String) (children : List Node) (tested : IsTested ⟨name, never, children⟩) :
      SameTruth ⟨name, never, children⟩ ⟨name, never', children⟩ :=
    sameTruth_of_holds tested fun context => iff_of_false (absent _ _ _) (absent' _ _ _)
  have same (element : Element) : SameTruth element element :=
    ⟨rfl, fun _ => rfl, fun _ => Iff.rfl⟩
  have included : Retested [.tag includeFilter] [.tag includeFilter] := .tag (same _) .nil .nil
  have statement : StatementRetested (selectFiltered never) (selectFiltered never') :=
    ⟨rfl, rfl, .text _ (.tag (neither _ _ (.inl rfl)) included included)⟩
  have branches : Retested
      [.tag ⟨"when", never, [.tag includeFilter]⟩,
        .tag ⟨"when", given, [.text "WHERE x = #\x7bx\x7d"]⟩]
      [.tag ⟨"when", never', [.tag includeFilter]⟩,
        .tag ⟨"when", given', [.text "WHERE x = #\x7bx\x7d"]⟩] :=
    .tag (neither _ _ (.inr rfl)) included
      (.tag (sameTruth_of_holds (.inr rfl) (truth _ _)) (.text _ .nil) .nil)
  have fragment : Retested (filterFragment never given).body (filterFragment never' given').body :=
    .tag ⟨rfl, fun _ => rfl, fun _ => Iff.rfl⟩ branches .nil
  refine ⟨statement, rel_get? (.cons ⟨rfl, rfl, ?_, ?_⟩ .nil)⟩
  · exact rel_get? (.cons ⟨rfl, statement⟩ .nil)
  · exact rel_get? (.cons ⟨rfl, fragment⟩ .nil)

set_option maxRecDepth 100000 in
theorem evaluate_null_member (lookup : Lookup) :
    evaluate lookup "null.x" = .error (.nullTarget "x") := by cbv

set_option maxRecDepth 100000 in
theorem read_not_not_x : Expr.read "!!x" = .ok (.unary .not (.unary .not (.ident "x"))) := by cbv

theorem not_holds_null_member {name : String} {children : List Node} (context : Context) :
    ¬ Holds context ⟨name, [("test", "null.x")], children⟩ := by
  rintro ⟨test, v, ⟨⟩, run, -⟩
  cases (evaluate_null_member _).symm.trans run

theorem not_holds_untested {name : String} {children : List Node} (context : Context) :
    ¬ Holds context ⟨name, [], children⟩ := by
  rintro ⟨test, v, ⟨⟩, -⟩

/-- A name and its double negation have different values, but hold in the same contexts. -/
theorem holds_not_not {name : String} {children : List Node} (context : Context) :
    Holds context ⟨name, [("test", "!!x")], children⟩ ↔
      Holds context ⟨name, [("test", "x")], children⟩ := by
  have twice : evaluate context.get? "!!x" =
      .ok (.boolean (!!((context.get? "x").getD .null).truthy)) := by
    rw [evaluate, read_not_not_x]
    rfl
  have once : evaluate context.get? "x" = .ok ((context.get? "x").getD .null) := by
    rw [evaluate, read_x]
    rfl
  rw [holds_iff_truthy rfl twice, holds_iff_truthy rfl once, Bool.not_not]
  exact Iff.rfl

set_option maxRecDepth 100000 in
/-- The failing test is dropped, and the other one is written without its negations. -/
theorem filters_same_retested :
    let never : Dict String := [("test", "null.x")]
    let registry := filterRegistry never [("test", "!!x")]
    let setting : Setting := ⟨registry, {}, ⟨"m", "s"⟩⟩
    let scope : Scope := ⟨.ofBase [("x", .string "a")], [], "m"⟩
    let branch : Element := ⟨"when", never, [.tag includeFilter]⟩
    RegistryRetested registry (filterRegistry [] [("test", "x")]) ∧
    StatementRetested (selectFiltered never) (selectFiltered []) ∧
    Render.statement setting (selectFiltered never) scope.context =
      .ok "SELECT * FROM t WHERE x = 'a'" ∧
    IsTested branch ∧ ¬ Holds scope.context branch ∧
    nodes setting 1 scope "select" [.tag branch, .text "1"] = .ok ['1'] := by
  intro never registry setting scope branch
  obtain ⟨statements, registries⟩ := filterRegistry_retested
    (fun _ _ => not_holds_null_member) (fun _ _ => not_holds_untested) (fun _ _ => holds_not_not)
  have fails : ¬ Holds scope.context branch := not_holds_null_member _
  have whole := statement_same_retested registries {} ⟨"m", "s"⟩
  refine ⟨registries, statements, ?_, .inr rfl, fails, ?_⟩
  · rw [whole.1 _ _ statements]
    cbv
  · rw [(whole.2.2 0 scope "select" [.text "1"] branch (.inr rfl) fails).1]
    cbv

end SqlPreview.Render
