import Mathlib
import SqlPreview.Sql.Render

/-!
# Render options and the text that is rendered

The options of a rendering are two limits and a flag for missing fragments. They can end a
rendering early; they never choose its text.

Results:
1. `nodes_keeps`: a result of some nodes that is not an error of the options stays the same where
   more is allowed.
2. `statement_same_where_lenient`: the same for a statement, and so any two options under which a
   statement renders give one text.
-/

namespace SqlPreview

/-- An error that other options could have avoided. -/
def PreviewError.isOfOptions : PreviewError → Bool
  | .limitExceeded .. | .fragmentNotFound .. => true
  | _ => false

/-- The second options allow whatever the first allow. -/
structure RenderOptions.Within (o o' : RenderOptions) : Prop where
  depth : o.maxDepth ≤ o'.maxDepth
  iterations : o.maxIterations ≤ o'.maxIterations
  strict : o'.strictIncludes = true → o.strictIncludes = true

/-- What either of two options allows. -/
def RenderOptions.either (o o' : RenderOptions) : RenderOptions :=
  ⟨max o.maxDepth o'.maxDepth, max o.maxIterations o'.maxIterations,
    o.strictIncludes && o'.strictIncludes⟩

theorem RenderOptions.within_either_left (o o' : RenderOptions) : o.Within (o.either o') := by
  refine ⟨Nat.le_max_left _ _, Nat.le_max_left _ _, fun h => ?_⟩
  simp only [either, Bool.and_eq_true] at h
  exact h.1

theorem RenderOptions.within_either_right (o o' : RenderOptions) : o'.Within (o.either o') := by
  refine ⟨Nat.le_max_right _ _, Nat.le_max_right _ _, fun h => ?_⟩
  simp only [either, Bool.and_eq_true] at h
  exact h.2

namespace Render

variable {α β : Type}

/-! ## Results that options cannot change -/

/-- A result that no options have cut off: a value, or an error of another kind. -/
def Settled (r : Except PreviewError α) : Prop := ∀ e, r = .error e → e.isOfOptions = false

/-- The second result is the first one if that is settled. -/
def Keeps (r r' : Except PreviewError α) : Prop := Settled r → r' = r

theorem settled_ok (a : α) : Settled (.ok a : Except PreviewError α) := by
  intro e h
  cases h

theorem not_settled_error {e : PreviewError} (h : e.isOfOptions = true) :
    ¬ Settled (.error e : Except PreviewError α) := by
  intro settled
  rw [settled e rfl] at h
  cases h

/-- Whether an error is settled does not depend on what was to be computed. -/
theorem Settled.error {e : PreviewError} (settled : Settled (.error e : Except PreviewError β)) :
    Settled (.error e : Except PreviewError α) := by
  intro e' same
  cases same
  exact settled e rfl

namespace Keeps

theorem refl (r : Except PreviewError α) : Keeps r r := fun _ => rfl

theorem of_error {e : PreviewError} (r' : Except PreviewError α) (h : e.isOfOptions = true) :
    Keeps (.error e) r' :=
  fun settled => absurd settled (not_settled_error h)

/-- Errors pass through a sequence, so a settled sequence had a settled first part. -/
theorem bind {r r' : Except PreviewError α} {f f' : α → Except PreviewError β} (h : Keeps r r')
    (hf : ∀ a, Keeps (f a) (f' a)) : Keeps (r >>= f) (r' >>= f') := by
  intro settled
  cases r with
  | error e =>
    have first : Settled (.error e : Except PreviewError α) := Settled.error settled
    rw [h first]
    rfl
  | ok a =>
    rw [h (settled_ok a)]
    exact hf a settled

theorem map {r r' : Except PreviewError α} (f : α → β) (h : Keeps r r') :
    Keeps (r.map f) (r'.map f) := by
  intro settled
  cases r with
  | error e =>
    have first : Settled (.error e : Except PreviewError α) := Settled.error settled
    rw [h first]
  | ok a => rw [h (settled_ok a)]

theorem mapM {f f' : α → Except PreviewError β} (h : ∀ a, Keeps (f a) (f' a)) (items : List α) :
    Keeps (items.mapM f) (items.mapM f') := by
  induction items with
  | nil => exact refl _
  | cons a rest ih =>
    rw [List.mapM_cons, List.mapM_cons]
    exact bind (h a) fun b => bind ih fun bs => refl _

end Keeps

/-! ## Tags and nodes -/

variable {registry : Registry} {path : StatementPath} {o o' : RenderOptions}

theorem loop_keeps (more : o.Within o') {body body' : Body}
    (h : ∀ scope parent children, Keeps (body scope parent children) (body' scope parent children))
    (scope : Scope) (element : Element) :
    Keeps (loop ⟨registry, o, path⟩ body scope element)
      (loop ⟨registry, o', path⟩ body' scope element) := by
  unfold loop
  cases element.attribute? "collection" with
  | none => exact .refl _
  | some collection =>
    refine .bind (.refl _) fun collected => ?_
    cases loopEntries? collected with
    | none => exact .refl _
    | some entries =>
      by_cases many : o.maxIterations < entries.length
      · simp only [if_pos many]
        exact .of_error _ rfl
      · have fits : ¬ o'.maxIterations < entries.length := by
          have := more.iterations
          omega
        simp only [if_neg many, if_neg fits]
        exact .bind (.mapM (fun entry => h _ _ _) entries) fun parts => .refl _

/-- The properties of an inclusion depend on the setting only through the path that errors name. -/
theorem includeProperties_same_path (registry registry' : Registry) (o o' : RenderOptions)
    (scope : Scope) (tag : String) (properties : Dict String) (children : List Element) :
    includeProperties ⟨registry, o, path⟩ scope tag properties children =
      includeProperties ⟨registry', o', path⟩ scope tag properties children := by
  induction children generalizing properties with
  | nil => rfl
  | cons element rest ih =>
    unfold includeProperties
    split
    · next name value _ _ _ =>
      show (attributeText ⟨registry', o', path⟩ scope tag value >>= fun value =>
          includeProperties ⟨registry, o, path⟩ scope tag (properties.put name value) rest) = _
      simp only [ih]
    · exact ih properties

theorem inclusion_keeps (more : o.Within o') {body body' : Body}
    (h : ∀ scope parent children, Keeps (body scope parent children) (body' scope parent children))
    (scope : Scope) (element : Element) :
    Keeps (inclusion ⟨registry, o, path⟩ body scope element)
      (inclusion ⟨registry, o', path⟩ body' scope element) := by
  unfold inclusion
  rw [includeProperties_same_path registry registry o o']
  cases element.attribute? "refid" with
  | none => exact .refl _
  | some refid =>
    refine .bind (.refl _) fun properties => .bind (.refl _) fun refid => ?_
    dsimp only
    cases fragment? registry refid scope.ns with
    | some found => exact h _ _ _
    | none =>
      by_cases strict : o.strictIncludes = true
      · simp only [if_pos strict]
        exact .of_error _ rfl
      · have lax : ¬ o'.strictIncludes = true := fun h => strict (more.strict h)
        simp only [if_neg strict, if_neg lax]
        exact .refl _

/-- One tag keeps its result if what is inside tags does: only a loop and an inclusion look at
the options, and both report what they find there. -/
theorem element_keeps (more : o.Within o') {body body' : Body}
    (h : ∀ scope parent children, Keeps (body scope parent children) (body' scope parent children))
    (scope : Scope) (tag : Element) :
    Keeps (element ⟨registry, o, path⟩ body scope tag)
      (element ⟨registry, o', path⟩ body' scope tag) := by
  unfold element
  cases tag.kind with
  | «include» => exact inclusion_keeps more h scope tag
  | foreach => exact loop_keeps more h scope tag
  | test | «when» =>
    by_cases holds : testHolds scope tag = true
    · simp only [if_pos holds]
      exact h _ _ _
    · simp only [if_neg holds]
      exact .refl _
  | choose =>
    dsimp only
    cases chosen? scope tag.childElements with
    | some branch => exact h _ _ _
    | none => exact .refl _
  | trim | whereClause | setClause => exact .map _ (h _ _ _)
  | property | selectKey | bind => exact .refl _
  | «otherwise» | other => exact h _ _ _

theorem siblings_keeps {tag tag' : Scope → Element → Rendered}
    (h : ∀ scope element, Keeps (tag scope element) (tag' scope element)) (parent : String)
    (scope : Scope) (children : List Node) :
    Keeps (siblings ⟨registry, o, path⟩ tag parent scope children)
      (siblings ⟨registry, o', path⟩ tag' parent scope children) := by
  induction children generalizing scope with
  | nil => exact .refl _
  | cons node rest ih =>
    cases node with
    | text text => exact .bind (.refl _) fun head => .bind (ih scope) fun tail => .refl _
    | tag element =>
      unfold siblings
      cases element.kind with
      | bind => exact .bind (.refl _) fun scope => ih scope
      | _ => exact .bind (h scope element) fun head => .bind (ih scope) fun tail => .refl _

/-- The induction is on the levels left under the tighter options. With none left a tag is an
error of the options, so the nodes that are settled there hold no tag at all. -/
theorem nodes_keeps (more : o.Within o') {room room' : Nat} (le : room ≤ room') (scope : Scope)
    (parent : String) (children : List Node) :
    Keeps (nodes ⟨registry, o, path⟩ room scope parent children)
      (nodes ⟨registry, o', path⟩ room' scope parent children) := by
  induction room generalizing room' scope parent children with
  | zero =>
    have stopped : ∀ (tag' : Scope → Element → Rendered) scope element,
        Keeps (.error (.limitExceeded path .depth o.maxDepth)) (tag' scope element) :=
      fun tag' scope element => .of_error _ rfl
    cases room' with
    | zero => exact siblings_keeps (stopped _) parent scope children
    | succ room' => exact siblings_keeps (stopped _) parent scope children
  | succ room ih =>
    cases room' with
    | zero => exact absurd le (Nat.not_succ_le_zero _)
    | succ room' =>
      have inner := fun scope parent children =>
        ih (Nat.le_of_succ_le_succ le) scope parent children
      exact siblings_keeps (element_keeps more inner) parent scope children

/-! ## Statements -/

theorem statement_keeps (registry : Registry) (path : StatementPath) (statement : Statement)
    (context : Context) {o o' : RenderOptions} (more : o.Within o') :
    Keeps (Render.statement ⟨registry, o, path⟩ statement context)
      (Render.statement ⟨registry, o', path⟩ statement context) :=
  .bind (nodes_keeps more more.depth _ _ _) fun _ => .refl _

/-- A statement that renders under some options, or fails for another reason than these, does the
same under all options that allow more. So any two options that let it render give one text. -/
theorem statement_same_where_lenient (registry : Registry) (path : StatementPath)
    (statement : Statement) (context : Context) (o o' : RenderOptions) :
    (o.Within o' →
      (∀ e, Render.statement ⟨registry, o, path⟩ statement context = .error e →
        e.isOfOptions = false) →
      Render.statement ⟨registry, o', path⟩ statement context =
        Render.statement ⟨registry, o, path⟩ statement context) ∧
    ∀ sql sql', Render.statement ⟨registry, o, path⟩ statement context = .ok sql →
      Render.statement ⟨registry, o', path⟩ statement context = .ok sql' → sql = sql' := by
  refine ⟨fun more settled => statement_keeps registry path statement context more settled, ?_⟩
  intro sql sql' first second
  have left := statement_keeps registry path statement context (o.within_either_left o')
    (first ▸ settled_ok sql)
  have right := statement_keeps registry path statement context (o.within_either_right o')
    (second ▸ settled_ok sql')
  rw [left, first, second] at right
  exact Except.ok.inj right

/-- A fragment that lists a column and the elements of a parameter. -/
def columnsMapper : Mapper :=
  let elements : Element := ⟨"foreach", [("collection", "names"), ("item", "n")], [.text "#\x7bn\x7d"]⟩
  ⟨"m", [], [("columns", ⟨"columns", [.text "id, ", .tag elements]⟩)]⟩

def selectColumns : Statement :=
  ⟨"s", .select, none, [.text "SELECT ", .tag ⟨"include", [("refid", "columns")], []⟩]⟩

def twoNames : Context := .ofBase [("names", .sequence .list [.string "a", .string "b"])]

set_option maxRecDepth 100000 in
theorem selectColumns_tight :
    Render.statement ⟨⟨[("m", columnsMapper)]⟩, ⟨2, 2, true⟩, ⟨"m", "s"⟩⟩ selectColumns twoNames =
      .ok "SELECT id, 'a','b'" := by
  cbv

/-- Two levels and two passes are just enough here, and the usual options give the same text. -/
theorem selectColumns_same_where_lenient :
    (⟨2, 2, true⟩ : RenderOptions).Within {} ∧
    Render.statement ⟨⟨[("m", columnsMapper)]⟩, {}, ⟨"m", "s"⟩⟩ selectColumns twoNames =
      .ok "SELECT id, 'a','b'" := by
  have more : (⟨2, 2, true⟩ : RenderOptions).Within {} :=
    ⟨by decide, by decide, fun h => by cases h⟩
  refine ⟨more, ?_⟩
  rw [← selectColumns_tight]
  refine (statement_same_where_lenient _ _ _ _ ⟨2, 2, true⟩ {}).1 more ?_
  intro e failed
  rw [selectColumns_tight] at failed
  cases failed

end Render

end SqlPreview
