import SqlPreview.Proofs.Sql.Fragments

/-!
# Inlining fragments

An inclusion with a fixed name, of a fragment of the statement's own namespace, can be replaced by
the body of the fragment inside a plain tag. The two render alike at their place, and what renders
alike can be exchanged anywhere in a statement.

This file defines:
1. nodes with one tag exchanged, at a place that is not inside an inclusion (`Replaced`);
2. tags that may be exchanged in a namespace (`Interchangeable`).

Results:
1. `nodes_replaced`: exchanging such tags keeps what nodes render.
2. `Includes.interchangeable`: an inclusion and the tag with the body of the fragment are such tags.
3. `statement_same_inlined`: so a statement keeps its SQL and its errors.
-/

namespace SqlPreview.Render

/-! ## Exchanging a tag -/

/-- The second nodes are the first ones with the tag `new` in one place of `old`. The place may be
below any tags but inclusions, inside of which names have another meaning. -/
inductive Replaced (old new : Element) : List Node → List Node → Prop
  | here (rest : List Node) : Replaced old new (.tag old :: rest) (.tag new :: rest)
  | later (node : Node) {rest rest' : List Node} :
      Replaced old new rest rest' → Replaced old new (node :: rest) (node :: rest')
  | under {element : Element} {children : List Node} (rest : List Node) :
      element.kind ≠ .include → Replaced old new element.children children →
      Replaced old new (.tag element :: rest) (.tag { element with children } :: rest)

/-- A tag that is neither a binding nor a branch of a choice, so that only what it renders counts
for the nodes around it. -/
def IsOrdinary (element : Element) : Prop :=
  element.kind ≠ .bind ∧ element.kind ≠ .when ∧ element.kind ≠ .otherwise

/-- Two ordinary tags that render alike wherever bare names mean fragments of one namespace. -/
structure Interchangeable (setting : Setting) (ns : String) (old new : Element) : Prop where
  left : IsOrdinary old
  right : IsOrdinary new
  alike : ∀ body scope, scope.ns = ns →
    element setting body scope old = element setting body scope new

variable {setting : Setting} {ns : String} {old new : Element}

/-! ## Choices -/

/-- The branch of a choice is the same one, or the same but for an exchange below it. -/
inductive BranchReplaced (old new : Element) : Option Element → Option Element → Prop
  | same (branch : Option Element) : BranchReplaced old new branch branch
  | under {branch : Element} {children : List Node} : Replaced old new branch.children children →
      BranchReplaced old new (some branch) (some { branch with children })

theorem BranchReplaced.orElse {first first' second second' : Option Element}
    (one : BranchReplaced old new first first') (two : BranchReplaced old new second second') :
    BranchReplaced old new (first <|> second) (first' <|> second') := by
  cases one with
  | same =>
    cases first with
    | none => exact two
    | some branch => exact .same _
  | under replaced => exact .under replaced

/-- The induction is on the place of the exchange. A search that both tags fail goes past them. -/
theorem find?_replaced {p : Element → Bool} (skipOld : p old = false) (skipNew : p new = false)
    (attributes : ∀ (element : Element) children, p { element with children } = p element)
    {xs ys : List Node} (replaced : Replaced old new xs ys) :
    BranchReplaced old new ((xs.filterMap Node.element?).find? p)
      ((ys.filterMap Node.element?).find? p) := by
  induction replaced with
  | here rest =>
    simp only [List.filterMap_cons, Node.element?, List.find?_cons, skipOld, skipNew]
    exact .same _
  | later node _ ih =>
    cases node with
    | text text => exact ih
    | tag element =>
      simp only [List.filterMap_cons, Node.element?, List.find?_cons]
      cases p element with
      | true => exact .same _
      | false => exact ih
  | @under element children rest _ below _ =>
    simp only [List.filterMap_cons, Node.element?, List.find?_cons, attributes]
    cases p element with
    | true => exact .under below
    | false => exact .same _

theorem chosen?_replaced (scope : Scope) (left : IsOrdinary old) (right : IsOrdinary new)
    {outer : Element} {children : List Node} (replaced : Replaced old new outer.children children) :
    BranchReplaced old new (chosen? scope outer.childElements)
      (chosen? scope { outer with children }.childElements) := by
  have skipWhen {element : Element} (ordinary : IsOrdinary element) :
      (element.kind == .when && testHolds scope element) = false := by
    simp [ordinary.2.1]
  have skipOtherwise {element : Element} (ordinary : IsOrdinary element) :
      (element.kind == .otherwise) = false := by
    simp [ordinary.2.2]
  exact .orElse
    (find?_replaced (skipWhen left) (skipWhen right) (fun _ _ => rfl) replaced)
    (find?_replaced (skipOtherwise left) (skipOtherwise right) (fun _ _ => rfl) replaced)

/-! ## Tags and nodes -/

/-- Nodes inside a tag keep what they render under an exchange. -/
def BodyKeeps (ns : String) (old new : Element) (body : Body) : Prop :=
  ∀ scope parent xs ys, scope.ns = ns → Replaced old new xs ys →
    body scope parent xs = body scope parent ys

/-- A tag keeps what it renders under an exchange below it: its own attributes are as they were,
and only an inclusion would move what is below it to another namespace. -/
theorem element_below (left : IsOrdinary old) (right : IsOrdinary new) {body : Body}
    (keeps : BodyKeeps ns old new body) {scope : Scope} (here : scope.ns = ns) {outer : Element}
    (place : outer.kind ≠ .include) {children : List Node}
    (replaced : Replaced old new outer.children children) :
    element setting body scope outer = element setting body scope { outer with children } := by
  have inner : inside body scope outer = inside body scope { outer with children } :=
    keeps scope outer.name _ _ here replaced
  unfold element
  have kinds : Tag.kind { outer with children } = outer.kind := rfl
  rw [kinds]
  cases kind : outer.kind with
  | «include» => exact absurd kind place
  | foreach =>
    have pass : ∀ index item entry, inside body (loopScope scope index item entry) outer =
        inside body (loopScope scope index item entry) { outer with children } :=
      fun index item entry => keeps _ outer.name _ _ here replaced
    show loop setting body scope outer = loop setting body scope { outer with children }
    unfold loop
    simp only [pass]
    rfl
  | test | «when» =>
    show (if testHolds scope outer then _ else _) = if testHolds scope outer then _ else _
    rw [inner]
  | choose =>
    have branches := chosen?_replaced scope left right replaced
    dsimp only
    generalize chosen? scope outer.childElements = branch at branches ⊢
    generalize chosen? scope (Tag.childElements { outer with children }) = branch' at branches ⊢
    cases branches with
    | same => rfl
    | under replaced => exact keeps scope _ _ _ here replaced
  | trim | whereClause | setClause =>
    dsimp only
    rw [inner]
  | property | selectKey | bind => rfl
  | «otherwise» | other => exact inner

theorem siblings_replaced (exchange : Interchangeable setting ns old new)
    {tag : Scope → Element → Rendered} {parent : String}
    (alike : ∀ scope, scope.ns = ns → tag scope old = tag scope new)
    (below : ∀ scope (outer : Element) children, scope.ns = ns → outer.kind ≠ .include →
      Replaced old new outer.children children →
      tag scope outer = tag scope { outer with children })
    {scope : Scope} (here : scope.ns = ns) {xs ys : List Node} (replaced : Replaced old new xs ys) :
    siblings setting tag parent scope xs = siblings setting tag parent scope ys := by
  induction replaced generalizing scope with
  | here rest =>
    rw [siblings_tag exchange.left.1, siblings_tag exchange.right.1, alike scope here]
  | later node _ ih =>
    rw [siblings_cons, siblings_cons]
    cases run : afterBindings setting scope node.binding?.toList with
    | error e => rfl
    | ok after =>
      have same : after.ns = ns := (afterBindings_frame run).2.1.trans here
      simp only [ok_bind, ih same]
  | @under outer children rest place replaced _ =>
    by_cases binds : outer.kind = .bind
    · have still : Tag.kind { outer with children } = .bind := binds
      rw [siblings_bind binds, siblings_bind still]
      rfl
    · have still : Tag.kind { outer with children } ≠ .bind := binds
      rw [siblings_tag binds, siblings_tag still, below scope outer children here place replaced]

/-- Nodes keep what they render under an exchange, by induction on the levels left. With none left
every tag is the same error. -/
theorem nodes_replaced (exchange : Interchangeable setting ns old new) (room : Nat) :
    BodyKeeps ns old new (nodes setting room) := by
  induction room with
  | zero =>
    intro scope parent xs ys here replaced
    exact siblings_replaced exchange (fun _ _ => rfl) (fun _ _ _ _ _ _ => rfl) here replaced
  | succ room ih =>
    intro scope parent xs ys here replaced
    refine siblings_replaced exchange ?_ ?_ here replaced
    · exact fun scope here => exchange.alike _ scope here
    · intro scope outer children here place replaced
      exact element_below exchange.left exchange.right ih here place replaced

/-! ## Inclusions -/

variable {inclusion : Element} {fragment : Fragment}

theorem Includes.interchangeable
    (includes : Includes setting.registry ns inclusion ns fragment) (attributes : Dict String) :
    Interchangeable setting ns inclusion ⟨"sql", attributes, fragment.body⟩ := by
  refine ⟨?_, ?_, ?_⟩
  · rw [IsOrdinary, includes.kind]
    decide
  · have plain : Tag.kind (⟨"sql", attributes, fragment.body⟩ : Element) = .other := rfl
    rw [IsOrdinary, plain]
    decide
  · rintro body scope rfl
    rw [includes.element_eq]
    rfl

/-- A statement keeps its SQL and its errors when an inclusion of a fragment of its own namespace
is replaced by the body of the fragment in a plain tag. The body sees the context, the properties
and the namespace of the inclusion, and leaves no trace in them for the nodes behind it. -/
theorem statement_same_inlined (setting : Setting) (statement : Statement) (inclusion : Element)
    (fragment : Fragment) (attributes : Dict String) (body : List Node)
    (includes :
      Includes setting.registry setting.path.ns inclusion setting.path.ns fragment)
    (replaced : Replaced inclusion ⟨"sql", attributes, fragment.body⟩ statement.body body) :
    (∀ context, Render.statement setting { statement with body } context =
      Render.statement setting statement context) ∧
    ∀ room scope parent rest, scope.ns = setting.path.ns →
      nodes setting (room + 1) scope parent (.tag inclusion :: rest) = (do
        let head ← nodes setting room scope "sql" fragment.body
        let tail ← nodes setting (room + 1) scope parent rest
        pure (head ++ tail)) := by
  constructor
  · intro context
    unfold Render.statement
    have same := nodes_replaced (includes.interchangeable attributes) setting.options.maxDepth
      ⟨context, [], setting.path.ns⟩ statement.kind.name _ _ rfl replaced
    simp only [same]
  · intro room scope parent rest here
    have binds : inclusion.kind ≠ .bind := by
      rw [includes.kind]
      decide
    rw [nodes_eq_siblings, siblings_tag binds, ← nodes_eq_siblings, tagWithin]
    rw [← here] at includes
    rw [includes.element_eq]

/-- A fragment that binds a name for itself. -/
def keyFragment : Fragment :=
  ⟨"key", [.tag ⟨"bind", [("name", "key"), ("value", "'id'")], []⟩, .text "$\x7bkey\x7d"]⟩

def includeKey : Element := ⟨"include", [("refid", "key")], []⟩

/-- A statement with an inclusion below a test. -/
def selectKey : Statement :=
  ⟨"s", .select, none,
    [.text "SELECT ", .tag ⟨"if", [("test", "key == null")], [.tag includeKey]⟩, .text ", #\x7bkey\x7d"]⟩

set_option maxRecDepth 100000 in
/-- The binding of the fragment is not seen behind it, neither before nor after it is inlined. -/
theorem selectKey_same_inlined :
    let setting : Setting := ⟨⟨[("m", ⟨"m", [], [("key", keyFragment)]⟩)]⟩, {}, ⟨"m", "s"⟩⟩
    let inlined : List Node :=
      [.text "SELECT ",
        .tag ⟨"if", [("test", "key == null")], [.tag ⟨"sql", [], keyFragment.body⟩]⟩,
        .text ", #\x7bkey\x7d"]
    Includes setting.registry "m" includeKey "m" keyFragment ∧
    Replaced includeKey ⟨"sql", [], keyFragment.body⟩ selectKey.body inlined ∧
    Render.statement setting { selectKey with body := inlined } .empty = .ok "SELECT id, NULL" := by
  intro setting inlined
  have includes : Includes setting.registry "m" includeKey "m" keyFragment := by
    have static : IsStatic "key" := by
      unfold IsStatic
      decide +kernel
    exact ⟨by decide, fun child member => (by cases member), "key", rfl, static, rfl⟩
  have replaced : Replaced includeKey ⟨"sql", [], keyFragment.body⟩ selectKey.body inlined :=
    .later _ (.under _ (by decide) (.here _))
  have original : Render.statement setting selectKey .empty = .ok "SELECT id, NULL" := by
    cbv
  refine ⟨includes, replaced, ?_⟩
  rw [← original]
  exact (statement_same_inlined setting selectKey _ _ [] inlined includes replaced).1 .empty

end SqlPreview.Render
