import SqlPreview.Proofs.Sql.Siblings

/-!
# Rendering in steps

A rendering as a machine that takes one small step after another and keeps the rows of nodes it is
in the middle of on a stack. It has no bound on its steps: the one limit that it looks at is the
height of its stack, against the depth that the options allow.

This file defines:
1. what a tag comes to (`plan`): rows of nodes one level deeper, and what becomes of their texts;
2. the machine (`State`, `step`, `start`).

Results:
1. `element_eq_plan`: a tag renders as its plan says.
2. `reaches_nodes`: the machine goes through nodes in finitely many steps and comes to what they
   render, whatever else is on the stack.
3. `statement_reaches`: so it ends for every statement, with its SQL before layout or its error.
-/

namespace SqlPreview.Render

/-! ## Plans -/

/-- A row of nodes to render, with the name of the tag around it. -/
structure Row where
  scope : Scope
  parent : String
  nodes : List Node

/-- Rows to render in order, and the text that their texts are made into. -/
structure Plan where
  rows : List Row
  combine : List (List Char) → List Char

namespace Plan

def nothing : Plan := ⟨[], fun _ => []⟩

/-- One row, whose text is changed at the end. -/
def only (row : Row) (finish : List Char → List Char) : Plan :=
  ⟨[row], fun texts => finish texts.flatten⟩

def carryOut (body : Body) (plan : Plan) : Rendered :=
  (plan.rows.mapM fun row => body row.scope row.parent row.nodes).map plan.combine

theorem carryOut_only (body : Body) (row : Row) (finish : List Char → List Char) :
    (only row finish).carryOut body = (body row.scope row.parent row.nodes).map finish := by
  unfold carryOut only
  rw [List.mapM_cons, List.mapM_nil]
  cases body row.scope row.parent row.nodes with
  | error e => rfl
  | ok text => exact congrArg (fun t => Except.ok (finish t)) (List.append_nil text)

end Plan

/-- What is inside a tag. -/
def content (scope : Scope) (element : Element) : Row := ⟨scope, element.name, element.children⟩

def loopPlan (setting : Setting) (scope : Scope) (element : Element) : Except PreviewError Plan :=
  match element.attribute? "collection" with
  | none => .ok .nothing
  | some collection => do
    let value ← value setting scope element.name collection
    match loopEntries? value with
    | none => pure .nothing
    | some entries =>
      if setting.options.maxIterations < entries.length then
        .error (.limitExceeded setting.path .iterations setting.options.maxIterations)
      else
        let item := (element.attribute? "item").getD "item"
        let index := (element.attribute? "index").getD "index"
        pure ⟨entries.map fun entry => content (loopScope scope index item entry) element,
          joinPasses element⟩

def inclusionPlan (setting : Setting) (scope : Scope) (element : Element) :
    Except PreviewError Plan :=
  match element.attribute? "refid" with
  | none => .ok .nothing
  | some refid => do
    let properties ←
      includeProperties setting scope element.name scope.properties element.childElements
    let inner := { scope with properties }
    let refid ← attributeText setting inner element.name refid
    match fragment? setting.registry refid scope.ns with
    | some (ns, fragment) => pure (.only ⟨{ inner with ns }, "sql", fragment.body⟩ id)
    | none =>
      if setting.options.strictIncludes then .error (.fragmentNotFound setting.path refid)
      else pure .nothing

/-- What rendering a tag comes to. -/
def plan (setting : Setting) (scope : Scope) (element : Element) : Except PreviewError Plan :=
  match element.kind with
  | .include => inclusionPlan setting scope element
  | .test | .when => .ok (if testHolds scope element then .only (content scope element) id else .nothing)
  | .choose =>
    match chosen? scope element.childElements with
    | some branch => .ok (.only (content scope branch) id)
    | none => .ok .nothing
  | .foreach => loopPlan setting scope element
  | .trim => .ok (.only (content scope element) (TrimRule.ofAttributes element.attributes).apply)
  | .whereClause => .ok (.only (content scope element) TrimRule.whereClause.apply)
  | .setClause => .ok (.only (content scope element) TrimRule.setClause.apply)
  | .property | .selectKey | .bind => .ok .nothing
  | .otherwise | .other => .ok (.only (content scope element) id)

theorem loop_eq_plan (setting : Setting) (body : Body) (scope : Scope) (element : Element) :
    loop setting body scope element =
      loopPlan setting scope element >>= Plan.carryOut body := by
  unfold loop loopPlan
  cases element.attribute? "collection" with
  | none => rfl
  | some collection =>
    dsimp only
    cases value setting scope element.name collection with
    | error e => rfl
    | ok collected =>
      simp only [ok_bind]
      cases loopEntries? collected with
      | none => rfl
      | some entries =>
        by_cases many : setting.options.maxIterations < entries.length
        · simp only [if_pos many, error_bind]
        · simp only [if_neg many, pure_bind, Plan.carryOut, List.mapM_map]
          exact bind_pure_comp ..

theorem inclusion_eq_plan (setting : Setting) (body : Body) (scope : Scope) (element : Element) :
    inclusion setting body scope element =
      inclusionPlan setting scope element >>= Plan.carryOut body := by
  unfold inclusion inclusionPlan
  cases element.attribute? "refid" with
  | none => rfl
  | some refid =>
    simp only [bind_assoc]
    congr 1
    funext properties
    congr 1
    funext refid
    cases fragment? setting.registry refid scope.ns with
    | some found =>
      obtain ⟨target, fragment⟩ := found
      show _ = (Plan.only _ id).carryOut body
      rw [Plan.carryOut_only, Except.map_id, id]
    | none =>
      by_cases strict : setting.options.strictIncludes = true
      · simp only [if_pos strict]
        rfl
      · simp only [if_neg strict]
        rfl

theorem element_eq_plan (setting : Setting) (body : Body) (scope : Scope) (tag : Element) :
    element setting body scope tag = plan setting scope tag >>= Plan.carryOut body := by
  unfold element plan
  cases tag.kind with
  | «include» => exact inclusion_eq_plan setting body scope tag
  | foreach => exact loop_eq_plan setting body scope tag
  | test | «when» =>
    simp only [ok_bind]
    by_cases holds : testHolds scope tag = true
    · rw [if_pos holds, if_pos holds, Plan.carryOut_only, Except.map_id]
      rfl
    · rw [if_neg holds, if_neg holds]
      rfl
  | choose =>
    dsimp only
    cases chosen? scope tag.childElements with
    | none => rfl
    | some branch =>
      simp only [ok_bind, Plan.carryOut_only, Except.map_id]
      rfl
  | trim | whereClause | setClause =>
    simp only [ok_bind, Plan.carryOut_only]
    rfl
  | property | selectKey | bind => rfl
  | «otherwise» | other =>
    simp only [ok_bind, Plan.carryOut_only, Except.map_id]
    rfl

/-! ## The machine -/

/-- A row in the middle of its rendering: what is left of it and its text so far, the rows of its
tag before and after it, and what becomes of all their texts. -/
structure Frame where
  row : Row
  text : List Char
  later : List Row
  texts : List (List Char)
  combine : List (List Char) → List Char

namespace Frame

def write (frame : Frame) (text : List Char) : Frame := { frame with text := frame.text ++ text }

/-- Goes on with the nodes `rest`, in a scope. -/
def goOn (frame : Frame) (scope : Scope) (rest : List Node) : Frame :=
  { frame with row := { frame.row with scope, nodes := rest } }

end Frame

/-- The machine is in the middle of a row, with the rows around it on a stack, or at its end. -/
inductive State where
  | running (top : Frame) (below : List Frame)
  | halted (result : Rendered)

/-- Goes on with a value, or halts with an error. -/
def resume {α : Type} (r : Except PreviewError α) (next : α → State) : State :=
  match r with
  | .ok a => next a
  | .error e => .halted (.error e)

/-- The text of a tag goes to the row that the tag is in, and that of the outermost row is the
result. -/
def finish (text : List Char) : List Frame → State
  | [] => .halted (.ok text)
  | frame :: below => .running (frame.write text) below

/-- Begins the next of some rows; behind the last one their texts are combined. -/
def enter (rows : List Row) (texts : List (List Char)) (combine : List (List Char) → List Char)
    (below : List Frame) : State :=
  match rows with
  | [] => finish (combine texts) below
  | row :: later => .running ⟨row, [], later, texts, combine⟩ below

/-- The end of a row. -/
def leave (frame : Frame) (below : List Frame) : State :=
  enter frame.later (frame.texts ++ [frame.text]) frame.combine below

/-- One step takes one node off the topmost row, or leaves the row. The rows of a tag go on the
stack, which holds one row for every tag around the node. -/
def step (setting : Setting) : State → State
  | .halted result => .halted result
  | .running top below =>
    let scope := top.row.scope
    match top.row.nodes with
    | [] => leave top below
    | .text text :: rest =>
      resume (substitute (inText setting scope top.row.parent) text.toList) fun out =>
        .running ((top.goOn scope rest).write out) below
    | .tag element :: rest =>
      if element.kind = .bind then
        resume (afterBind setting scope element) fun after => .running (top.goOn after rest) below
      else if setting.options.maxDepth ≤ below.length then
        .halted (.error (.limitExceeded setting.path .depth setting.options.maxDepth))
      else
        resume (plan setting scope element) fun plan =>
          enter plan.rows [] plan.combine (top.goOn scope rest :: below)

def start (setting : Setting) (statement : Statement) (context : Context) : State :=
  .running ⟨⟨⟨context, [], setting.path.ns⟩, statement.kind.name, statement.body⟩, [], [], [],
    List.flatten⟩ []

/-! ## Runs -/

/-- The machine comes from one state to another in finitely many steps. -/
def Reaches (setting : Setting) (s t : State) : Prop := ∃ n, (step setting)^[n] s = t

variable {setting : Setting}

namespace Reaches

theorem refl (s : State) : Reaches setting s s := ⟨0, rfl⟩

theorem trans {s t u : State} (one : Reaches setting s t) (two : Reaches setting t u) :
    Reaches setting s u := by
  obtain ⟨m, rfl⟩ := one
  obtain ⟨n, rfl⟩ := two
  exact ⟨n + m, Function.iterate_add_apply _ n m s⟩

theorem head {s t : State} (rest : Reaches setting (step setting s) t) : Reaches setting s t :=
  trans ⟨1, rfl⟩ rest

theorem resume {α : Type} {r : Except PreviewError α} {next next' : α → State}
    (each : ∀ a, Reaches setting (next a) (next' a)) :
    Reaches setting (Render.resume r next) (Render.resume r next') := by
  cases r with
  | error e => exact refl _
  | ok a => exact each a

end Reaches

theorem resume_bind {α β : Type} (r : Except PreviewError α) (f : α → Except PreviewError β)
    (next : β → State) : resume (r >>= f) next = resume r fun a => resume (f a) next := by
  cases r with
  | error e => rfl
  | ok a => rfl

theorem resume_map {α β : Type} (r : Except PreviewError α) (f : α → β) (next : β → State) :
    resume (r.map f) next = resume r fun a => next (f a) := by
  cases r with
  | error e => rfl
  | ok a => rfl

/-- Every row that may stand on `below` is gone through to its end. -/
def GoesThrough (setting : Setting) (room : Nat) (below : List Frame) : Prop :=
  ∀ top : Frame,
    Reaches setting (.running top below)
      (resume (nodes setting room top.row.scope top.row.parent top.row.nodes) fun out =>
        leave (top.write out) below)

theorem reaches_rows {room : Nat} {below : List Frame} (through : GoesThrough setting room below)
    (rows : List Row) (texts : List (List Char)) (combine : List (List Char) → List Char) :
    Reaches setting (enter rows texts combine below)
      (resume (rows.mapM fun row => nodes setting room row.scope row.parent row.nodes) fun more =>
        finish (combine (texts ++ more)) below) := by
  induction rows generalizing texts with
  | nil =>
    show Reaches setting _ (finish (combine (texts ++ [])) below)
    rw [List.append_nil]
    exact .refl _
  | cons row rest ih =>
    rw [List.mapM_cons, resume_bind]
    refine (through _).trans (.resume fun out => ?_)
    rw [resume_bind]
    have more := ih (texts ++ [out])
    simp only [List.append_assoc, List.cons_append, List.nil_append] at more
    exact more

/-- A tag one level above the limit comes to its plan, whose rows are gone through. -/
theorem reaches_tag {room : Nat} {top : Frame} {below : List Frame} {element : Element}
    {rest : List Node} (front : top.row.nodes = .tag element :: rest) (other : element.kind ≠ .bind)
    (levels : below.length + room = setting.options.maxDepth)
    (through : ∀ inner, room = inner + 1 → ∀ frame, GoesThrough setting inner (frame :: below)) :
    Reaches setting (.running top below)
      (resume (tagWithin setting room top.row.scope element) fun out =>
        .running ((top.goOn top.row.scope rest).write out) below) := by
  refine .head ?_
  simp only [step, front, if_neg other]
  cases room with
  | zero =>
    rw [if_pos (by omega)]
    exact .refl _
  | succ inner =>
    rw [if_neg (by omega), tagWithin, element_eq_plan, resume_bind]
    refine .resume fun plan => ?_
    rw [Plan.carryOut, resume_map]
    exact reaches_rows (through inner rfl _) plan.rows [] plan.combine

/-- Text that a node gives and the text of the rest, written one after the other. -/
theorem reaches_rest {tag : Scope → Element → Rendered} {top : Frame} {below : List Frame}
    {rest : List Node} (head : Rendered)
    (through : ∀ frame : Frame, frame.row.nodes = rest →
      Reaches setting (.running frame below)
        (resume (siblings setting tag frame.row.parent frame.row.scope rest) fun tail =>
          leave (frame.write tail) below)) :
    Reaches setting
      (resume head fun out => .running ((top.goOn top.row.scope rest).write out) below)
      (resume (do
        let head ← head
        let tail ← siblings setting tag top.row.parent top.row.scope rest
        pure (head ++ tail)) fun out => leave (top.write out) below) := by
  rw [resume_bind]
  refine .resume fun out => ?_
  have more := through ((top.goOn top.row.scope rest).write out) rfl
  have joined : ∀ tail, leave (((top.goOn top.row.scope rest).write out).write tail) below =
      leave (top.write (out ++ tail)) below := by
    intro tail
    simp only [leave, Frame.write, Frame.goOn, List.append_assoc]
  simp only [joined] at more
  rw [resume_bind]
  exact more

theorem goesThrough_of_tags {room : Nat} {below : List Frame}
    (tags : ∀ (top : Frame) element rest, top.row.nodes = .tag element :: rest →
      element.kind ≠ .bind →
      Reaches setting (.running top below)
        (resume (tagWithin setting room top.row.scope element) fun out =>
          .running ((top.goOn top.row.scope rest).write out) below)) :
    GoesThrough setting room below := by
  intro top
  rw [nodes_eq_siblings]
  generalize left : top.row.nodes = nodes
  induction nodes generalizing top with
  | nil =>
    have unchanged : top.write [] = top := by rw [Frame.write, List.append_nil]
    refine .head ?_
    simp only [step, left]
    show Reaches setting (leave top below) (leave (top.write []) below)
    rw [unchanged]
    exact .refl _
  | cons node rest ih =>
    cases node with
    | text text =>
      refine .head ?_
      simp only [step, left]
      exact reaches_rest _ ih
    | tag element =>
      by_cases binds : element.kind = .bind
      · rw [siblings_bind binds, resume_bind]
        refine .head ?_
        simp only [step, left, if_pos binds]
        exact .resume fun after => ih (top.goOn after rest) rfl
      · rw [siblings_tag binds]
        exact (tags top element rest left binds).trans (reaches_rest _ ih)

/-- The induction is on the levels left above the stack; within one level it is on the nodes. -/
theorem reaches_nodes (room : Nat) (below : List Frame)
    (levels : below.length + room = setting.options.maxDepth) : GoesThrough setting room below := by
  induction room generalizing below with
  | zero =>
    refine goesThrough_of_tags fun top element rest front other => ?_
    exact reaches_tag front other levels fun inner same => by cases same
  | succ room ih =>
    refine goesThrough_of_tags fun top element rest front other => ?_
    refine reaches_tag front other levels fun inner same frame => ?_
    cases same
    exact ih (frame :: below) (by rw [List.length_cons]; omega)

/-- The machine ends for every statement, and the result is that of the statement before layout. -/
theorem statement_reaches (setting : Setting) (statement : Statement) (context : Context) :
    Reaches setting (start setting statement context)
      (.halted (nodes setting setting.options.maxDepth ⟨context, [], setting.path.ns⟩
        statement.kind.name statement.body)) := by
  have run := reaches_nodes setting.options.maxDepth [] (Nat.zero_add _)
    ⟨⟨⟨context, [], setting.path.ns⟩, statement.kind.name, statement.body⟩, [], [], [], List.flatten⟩
  refine run.trans ?_
  dsimp only
  cases nodes setting setting.options.maxDepth ⟨context, [], setting.path.ns⟩ statement.kind.name
    statement.body with
  | error e => exact .refl _
  | ok text =>
    have single : ([] ++ [[] ++ text]).flatten = text := by simp
    show Reaches setting (.halted (.ok ([] ++ [[] ++ text]).flatten)) _
    rw [single]
    exact .refl _

end SqlPreview.Render
