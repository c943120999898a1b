import SqlPreview.Proofs.Expr.Names
import SqlPreview.Proofs.Sql.Fragments

/-!
# Names in statements

A rendering looks up the names that are written in the statement and in the fragments, and no
others: what a value, a property or a substitution brings in is never read as an expression.

This file defines:
1. the names in the placeholders of a text (`textNames`), in nodes (`Node.namesAll`), and in the
   fragments of a registry (`Registry.names`);
2. scopes that agree on some names (`Agree`).

Results:
1. `nodes_agree`: nodes render alike in scopes that agree on their names and those of the fragments.
2. `statement_same_where_names_agree`: the same for a statement.
-/

namespace SqlPreview

/-! ## Written names -/

def Piece.names : Piece → List String
  | .verbatim _ => []
  | .placeholder p => namesIn (String.ofList p.expression)

/-- The names in the placeholders of a text. -/
def textNames (text : String) : List String := (Piece.ofText text.toList).flatMap Piece.names

namespace Tag

/-- The names in an attribute, if it is there. -/
def attributeNames (element : Element) (name : String) (names : String → List String) :
    List String :=
  ((element.attribute? name).map names).getD []

/-- The names in the attributes of a tag, as far as they are expressions or hold placeholders. -/
def ownNames (element : Element) : List String :=
  match element.kind with
  | .test | .when => element.attributeNames "test" namesIn
  | .foreach => element.attributeNames "collection" namesIn
  | .bind => element.attributeNames "value" namesIn
  | .include => element.attributeNames "refid" textNames
  | .property => element.attributeNames "value" textNames
  | _ => []

end Tag

mutual

/-- The names that are written in a node. -/
def Node.names : Node → List String
  | .text s => textNames s
  | .tag ⟨name, attributes, children⟩ =>
    Tag.ownNames ⟨name, attributes, children⟩ ++ Node.namesAll children

def Node.namesAll : List Node → List String
  | [] => []
  | node :: rest => node.names ++ Node.namesAll rest

end

/-- The names that are written in the fragments of a registry. -/
def Registry.names (registry : Registry) : List String :=
  registry.mappers.flatMap fun mapper =>
    mapper.2.fragments.flatMap fun fragment => Node.namesAll fragment.2.body

theorem Tag.attributeNames_eq {element : Element} {name text : String}
    (found : element.attribute? name = some text) (names : String → List String) :
    element.attributeNames name names = names text := by
  rw [attributeNames, found]
  rfl

theorem Node.names_tag (element : Element) :
    (Node.tag element).names = element.ownNames ++ Node.namesAll element.children := rfl

theorem Node.names_subset {node : Node} {nodes : List Node} (member : node ∈ nodes) :
    node.names ⊆ Node.namesAll nodes := by
  induction nodes with
  | nil => cases member
  | cons first rest ih =>
    rw [Node.namesAll]
    rcases List.mem_cons.1 member with rfl | member
    · exact List.subset_append_left _ _
    · exact List.Subset.trans (ih member) (List.subset_append_right _ _)

theorem Tag.names_of_child {element child : Element} (member : child ∈ element.childElements) :
    (Node.tag child).names ⊆ Node.namesAll element.children := by
  obtain ⟨node, inside, same⟩ := List.mem_filterMap.1 member
  cases node with
  | text text => cases same
  | tag element =>
    cases same
    exact Node.names_subset inside

namespace Render

theorem names_of_fragment? {registry : Registry} {refid ns : String} {found : String × Fragment}
    (located : fragment? registry refid ns = some found) :
    Node.namesAll found.2.body ⊆ registry.names := by
  obtain ⟨mapper, loaded, fragment, defined, same⟩ := registered_of_fragment? located
  intro name member
  rw [← same] at member
  exact List.mem_flatMap.2 ⟨mapper, loaded, List.mem_flatMap.2 ⟨fragment, defined, member⟩⟩

/-! ## Scopes that agree -/

/-- Two scopes that differ only in names outside a list. -/
structure Agree (names : List String) (scope scope' : Scope) : Prop where
  context : AgreeOn names scope.context.get? scope'.context.get?
  properties : scope.properties = scope'.properties
  ns : scope.ns = scope'.ns

variable {setting : Setting} {names : List String} {scope scope' : Scope} {tag expression : String}

namespace Agree

theorem lookup (agree : Agree names scope scope') {some : List String} (known : some ⊆ names) :
    AgreeOn some scope.context.get? scope'.context.get? :=
  fun name member => agree.context name (known member)

/-- The same bindings over both keep scopes in agreement. -/
theorem overlay (agree : Agree names scope scope') (bindings : Dict Value) :
    Agree names { scope with context := scope.context.overlay bindings }
      { scope' with context := scope'.context.overlay bindings } := by
  refine ⟨fun name member => ?_, agree.properties, agree.ns⟩
  rw [Context.get?_overlay, Context.get?_overlay, agree.context name member]

end Agree

/-! ## Expressions and placeholders -/

theorem value_agree (agree : Agree names scope scope') (known : namesIn expression ⊆ names) :
    value setting scope tag expression = value setting scope' tag expression := by
  unfold value
  rw [evaluate_congr (agree.lookup known)]

theorem testHolds_agree (agree : Agree names scope scope') {element : Element}
    (known : element.attributeNames "test" namesIn ⊆ names) :
    testHolds scope element = testHolds scope' element := by
  unfold testHolds
  cases found : element.attribute? "test" with
  | none => rfl
  | some test =>
    rw [Tag.attributeNames_eq found] at known
    simp only [evaluate_congr (agree.lookup known)]

theorem rawText_agree (agree : Agree names scope scope') (known : namesIn expression ⊆ names) :
    rawText setting scope tag expression = rawText setting scope' tag expression := by
  unfold rawText
  rw [agree.properties, value_agree agree known]

theorem resolvePieces_congr {resolve resolve' : Placeholder → Rendered} {pieces : List Piece}
    (each : ∀ p, Piece.placeholder p ∈ pieces → resolve p = resolve' p) :
    resolvePieces resolve pieces = resolvePieces resolve' pieces := by
  induction pieces with
  | nil => rfl
  | cons piece rest ih =>
    have others := ih fun p member => each p (List.mem_cons_of_mem _ member)
    cases piece with
    | verbatim c => rw [resolvePieces, resolvePieces, others]
    | placeholder p => rw [resolvePieces, resolvePieces, others, each p List.mem_cons_self]

/-- A text becomes the same if each placeholder does whose names are known. -/
theorem substitute_congr {resolve resolve' : Placeholder → Rendered} {text : String}
    (known : textNames text ⊆ names)
    (each : ∀ p, namesIn (String.ofList p.expression) ⊆ names → resolve p = resolve' p) :
    substitute resolve text.toList = substitute resolve' text.toList :=
  resolvePieces_congr fun p member => each p fun _ inside =>
    known (List.mem_flatMap.2 ⟨.placeholder p, member, inside⟩)

theorem inText_agree (agree : Agree names scope scope') {p : Placeholder}
    (known : namesIn (String.ofList p.expression) ⊆ names) :
    inText setting scope tag p = inText setting scope' tag p := by
  unfold inText
  cases p.marker with
  | bind => simp only [value_agree agree known]
  | raw => exact rawText_agree agree known

theorem inAttribute_agree (agree : Agree names scope scope') {p : Placeholder}
    (known : namesIn (String.ofList p.expression) ⊆ names) :
    inAttribute setting scope tag p = inAttribute setting scope' tag p := by
  unfold inAttribute
  cases p.marker with
  | bind => rfl
  | raw => exact rawText_agree agree known

theorem attributeText_agree (agree : Agree names scope scope') {text : String}
    (known : textNames text ⊆ names) :
    attributeText setting scope tag text = attributeText setting scope' tag text := by
  unfold attributeText
  rw [substitute_congr known fun _ inside => inAttribute_agree agree inside]

theorem includeProperties_agree (agree : Agree names scope scope') {children : List Element}
    (known : ∀ child ∈ children, child.ownNames ⊆ names) (properties : Dict String) :
    includeProperties setting scope tag properties children =
      includeProperties setting scope' tag properties children := by
  induction children generalizing properties with
  | nil => rfl
  | cons child rest ih =>
    obtain ⟨here, there⟩ := List.forall_mem_cons.1 known
    unfold includeProperties
    split
    · next name text kind _ found =>
      have inside : textNames text ⊆ names := by
        rw [Tag.ownNames, kind] at here
        exact Tag.attributeNames_eq found textNames ▸ here
      simp only [attributeText_agree agree inside, ih there]
    · exact ih there properties

/-! ## Tags -/

/-- Nodes inside a tag render alike in scopes that agree on their names. -/
def BodyAgrees (names : List String) (body : Body) : Prop :=
  ∀ scope scope' parent children, Agree names scope scope' → Node.namesAll children ⊆ names →
    body scope parent children = body scope' parent children

variable {body : Body}

theorem loop_agree (bodyAgrees : BodyAgrees names body) (agree : Agree names scope scope')
    {element : Element} (own : element.attributeNames "collection" namesIn ⊆ names)
    (within : Node.namesAll element.children ⊆ names) :
    loop setting body scope element = loop setting body scope' element := by
  unfold loop
  cases found : element.attribute? "collection" with
  | none => rfl
  | some collection =>
    rw [Tag.attributeNames_eq found] at own
    have pass : ∀ index item entry, inside body (loopScope scope index item entry) element =
        inside body (loopScope scope' index item entry) element :=
      fun index item entry => bodyAgrees _ _ _ _ (agree.overlay _) within
    simp only [value_agree agree own, pass]

theorem inclusion_agree (bodyAgrees : BodyAgrees names body) (agree : Agree names scope scope')
    (fragments : setting.registry.names ⊆ names) {element : Element}
    (own : element.attributeNames "refid" textNames ⊆ names)
    (within : Node.namesAll element.children ⊆ names) :
    inclusion setting body scope element = inclusion setting body scope' element := by
  unfold inclusion
  cases found : element.attribute? "refid" with
  | none => rfl
  | some refid =>
    rw [Tag.attributeNames_eq found] at own
    have children : ∀ child ∈ element.childElements, child.ownNames ⊆ names :=
      fun child member =>
        (List.append_subset.1 (List.Subset.trans (Tag.names_of_child member) within)).1
    simp only [includeProperties_agree agree children, agree.properties]
    congr 1
    funext properties
    have inner : Agree names { scope with properties } { scope' with properties } :=
      ⟨agree.context, rfl, agree.ns⟩
    rw [attributeText_agree inner own, agree.ns]
    congr 1
    funext refid
    cases located : fragment? setting.registry refid scope'.ns with
    | none => rfl
    | some found =>
      exact bodyAgrees _ _ _ _ ⟨agree.context, rfl, rfl⟩
        (List.Subset.trans (names_of_fragment? located) fragments)

theorem chosen?_agree (agree : Agree names scope scope') {children : List Element}
    (known : ∀ child ∈ children, child.ownNames ⊆ names) :
    chosen? scope children = chosen? scope' children := by
  unfold chosen?
  congr 1
  refine List.find?_congr fun child member => ?_
  by_cases kind : child.kind = .when
  · have own : child.attributeNames "test" namesIn ⊆ names := by
      have := known child member
      rwa [Tag.ownNames, kind] at this
    rw [testHolds_agree agree own]
  · have other : (child.kind == .when) = false := by simpa using kind
    rw [other, Bool.false_and, Bool.false_and]

theorem mem_childElements_of_chosen? {children : List Element} {branch : Element}
    (found : chosen? scope children = some branch) : branch ∈ children := by
  rcases Option.or_eq_some_iff.1 ((Option.orElse_eq_or ..).symm.trans found) with found | ⟨-, found⟩
  · exact List.mem_of_find?_eq_some found
  · exact List.mem_of_find?_eq_some found

/-- What a tag looks up is in its own attributes, in those of its children, or in what it encloses
or includes. -/
theorem element_agree (bodyAgrees : BodyAgrees names body) (agree : Agree names scope scope')
    (fragments : setting.registry.names ⊆ names) {tag : Element}
    (known : (Node.tag tag).names ⊆ names) :
    element setting body scope tag = element setting body scope' tag := by
  rw [Node.names_tag, List.append_subset] at known
  obtain ⟨own, within⟩ := known
  have ofChild : ∀ child ∈ tag.childElements, (Node.tag child).names ⊆ names :=
    fun child member => List.Subset.trans (Tag.names_of_child member) within
  have inner : inside body scope tag = inside body scope' tag := bodyAgrees _ _ _ _ agree within
  unfold element
  unfold Tag.ownNames at own
  cases kind : tag.kind with
  | «include» =>
    rw [kind] at own
    exact inclusion_agree bodyAgrees agree fragments own within
  | foreach =>
    rw [kind] at own
    exact loop_agree bodyAgrees agree own within
  | test | «when» =>
    rw [kind] at own
    simp only [testHolds_agree agree own, inner]
  | choose =>
    have branches : ∀ child ∈ tag.childElements, child.ownNames ⊆ names :=
      fun child member => (List.append_subset.1 (ofChild child member)).1
    simp only [chosen?_agree agree branches]
    cases found : chosen? scope' tag.childElements with
    | none => rfl
    | some branch =>
      have member := mem_childElements_of_chosen? found
      exact bodyAgrees _ _ _ _ agree (List.append_subset.1 (ofChild branch member)).2
  | trim | whereClause | setClause => simp only [inner]
  | property | selectKey | bind => rfl
  | «otherwise» | other => exact inner

/-! ## Nodes -/

theorem afterBindings_agree (agree : Agree names scope scope') {bindings : List (String × String)}
    (known : ∀ binding ∈ bindings, namesIn binding.2 ⊆ names) :
    (∃ e, afterBindings setting scope bindings = .error e ∧
      afterBindings setting scope' bindings = .error e) ∨
    ∃ after after', afterBindings setting scope bindings = .ok after ∧
      afterBindings setting scope' bindings = .ok after' ∧ Agree names after after' := by
  induction bindings generalizing scope scope' with
  | nil => exact .inr ⟨scope, scope', rfl, rfl, agree⟩
  | cons binding rest ih =>
    obtain ⟨name, expression⟩ := binding
    obtain ⟨here, there⟩ := List.forall_mem_cons.1 known
    simp only [afterBindings, value_agree agree here]
    cases value setting scope' "bind" expression with
    | error e => exact .inl ⟨e, rfl, rfl⟩
    | ok v => exact ih (agree.overlay _) there

theorem own_agree {tag : Scope → Element → Rendered} {parent : String} {node : Node}
    (tagAgrees : ∀ element, (Node.tag element).names ⊆ names →
      tag scope element = tag scope' element)
    (agree : Agree names scope scope') (known : node.names ⊆ names) :
    own setting tag parent scope node = own setting tag parent scope' node := by
  cases node with
  | text text => exact substitute_congr known fun _ inside => inText_agree agree inside
  | tag element =>
    show (if element.kind = .bind then .ok [] else tag scope element) = _
    rw [tagAgrees element known]
    rfl

theorem names_of_binding? {node : Node} {binding : String × String}
    (found : node.binding? = some binding) : namesIn binding.2 ⊆ node.names := by
  cases node with
  | text text => cases found
  | tag element =>
    rw [Node.binding?, Tag.binding?] at found
    split at found
    · next name expression kind _ value =>
      cases found
      rw [Node.names_tag, Tag.ownNames, kind]
      dsimp only
      rw [Tag.attributeNames_eq value]
      exact List.subset_append_left _ _
    · cases found

theorem siblings_agree {tag : Scope → Element → Rendered} {parent : String} {children : List Node}
    (tagAgrees : ∀ scope scope' element, Agree names scope scope' →
      (Node.tag element).names ⊆ names → tag scope element = tag scope' element)
    (agree : Agree names scope scope') (known : Node.namesAll children ⊆ names) :
    siblings setting tag parent scope children = siblings setting tag parent scope' children := by
  induction children generalizing scope scope' with
  | nil => rfl
  | cons node rest ih =>
    rw [Node.namesAll, List.append_subset] at known
    obtain ⟨here, there⟩ := known
    have bound : ∀ binding ∈ node.binding?.toList, namesIn binding.2 ⊆ names :=
      fun binding member => List.Subset.trans (names_of_binding? (Option.mem_toList.1 member)) here
    rw [siblings_cons, siblings_cons, own_agree (fun e => tagAgrees _ _ e agree) agree here]
    rcases afterBindings_agree agree bound with
      ⟨e, failed, failed'⟩ | ⟨after, after', run, run', agree'⟩
    · rw [failed, failed']
    · simp only [run, run', ok_bind, ih agree' there]

/-- Nodes render alike in scopes that agree on the names written in them and in the fragments: the
induction is on the levels left, because an inclusion leads to nodes of any size. -/
theorem nodes_agree (fragments : setting.registry.names ⊆ names) (room : Nat) :
    BodyAgrees names (nodes setting room) := by
  induction room with
  | zero =>
    intro scope scope' parent children agree known
    exact siblings_agree (fun _ _ _ _ _ => rfl) agree known
  | succ room ih =>
    intro scope scope' parent children agree known
    refine siblings_agree (fun _ _ _ agree known => ?_) agree known
    exact element_agree ih agree fragments known

/-! ## Statements -/

/-- Two contexts in which all names that are written in a statement and in the fragments have the
same values give the same SQL, or the same error. -/
theorem statement_same_where_names_agree (setting : Setting) (statement : Statement)
    (context context' : Context)
    (agree : ∀ name ∈ Node.namesAll statement.body ++ setting.registry.names,
      context.get? name = context'.get? name) :
    Render.statement setting statement context = Render.statement setting statement context' := by
  unfold Render.statement
  have same := nodes_agree (List.subset_append_right _ _) setting.options.maxDepth
    ⟨context, [], setting.path.ns⟩ ⟨context', [], setting.path.ns⟩ statement.kind.name
    statement.body ⟨agree, rfl, rfl⟩ (List.subset_append_left _ _)
  simp only [same]

/-- A fragment that splices a property. -/
def columnMapper : Mapper :=
  ⟨"m", [], [("column", ⟨"column", [.text "$\x7bcolumn\x7d"]⟩)]⟩

/-- A statement that includes a fragment by a computed name, with a computed property. -/
def selectColumn : Statement :=
  ⟨"s", .select, none,
    [.text "SELECT ",
      .tag ⟨"include", [("refid", "$\x7bwhich\x7d")],
        [.tag ⟨"property", [("name", "column"), ("value", "$\x7bname\x7d")], []⟩]⟩]⟩

set_option maxRecDepth 100000 in
/-- The value of `name` looks like a placeholder, and comes out as it is whatever the name in it
means. -/
theorem selectColumn_same_where_names_agree :
    let setting : Setting := ⟨⟨[("m", columnMapper)]⟩, {}, ⟨"m", "s"⟩⟩
    let context : Context := .ofBase [("which", .string "column"), ("name", .string "#\x7bx\x7d")]
    (∀ name ∈ Node.namesAll selectColumn.body ++ setting.registry.names,
      context.get? name = (context.bind "x" (.string "y")).get? name) ∧
    Render.statement setting selectColumn (context.bind "x" (.string "y")) =
      .ok "SELECT #\x7bx\x7d" := by
  intro setting context
  have written : Node.namesAll selectColumn.body ++ setting.registry.names =
      ["which", "name", "column"] := by
    cbv
  have agree : ∀ name ∈ Node.namesAll selectColumn.body ++ setting.registry.names,
      context.get? name = (context.bind "x" (.string "y")).get? name := by
    rw [written]
    intro name member
    have other : name ≠ "x" := by
      rintro rfl
      exact absurd member (by decide)
    rw [Context.get?_bind, if_neg other]
  have plain : Render.statement setting selectColumn context = .ok "SELECT #\x7bx\x7d" := by
    cbv
  refine ⟨agree, ?_⟩
  rw [← plain]
  exact (statement_same_where_names_agree setting selectColumn context _ agree).symm

end Render

end SqlPreview
