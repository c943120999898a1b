import SqlPreview.Proofs.Result
import SqlPreview.Proofs.Sql.Fragments
import SqlPreview.Proofs.Sql.Machine

/-!
# How deep tags nest

The depth limit bounds the levels of tags around whatever is rendered. A tag makes one level, also
an inclusion with the fragment that it brings in. A choice makes one level as well, but it stands
around its content with two tags, its own and that of the branch it has taken.

This file defines:
1. the levels around some nodes (`Level`), and their tags (`openTags`);
2. the rows that a rendering comes to, if no limit stops it (`Visited`).

Results:
1. `visited_of_running`: the machine is always in the middle of a visited row, and the limit bounds
   the levels around it, whatever the rendering comes to in the end.
2. `Visited.renders`: where the outermost row renders, so does every visited row, in the room that
   the levels around it leave.
3. `limit_reached`: a rendering fails at the limit only in front of a tag that is beyond it.
4. `statement_nestedChoices` and `exists_visited_nestedChoices`: for every limit there is a
   statement with twice as many tags around its text.
5. `nesting_bounded`: around whatever is rendered stand no more tags than the limit allows, the
   branches of choices not counted.
6. `otherwise_uncounted`: two tags where the limit is one.
-/

namespace SqlPreview.Render

/-! ## Levels -/

/-- A tag around some nodes. A choice stands around them with the branch that it has taken. -/
structure Level where
  tag : Element
  branch : Option Element
  choice : branch.isSome = true → tag.kind = .choose

/-- The level that a tag makes. -/
def levelOf (scope : Scope) (tag : Element) : Level where
  tag
  branch := if tag.kind = .choose then chosen? scope tag.childElements else none
  choice := by
    intro taken
    by_contra other
    rw [if_neg other] at taken
    cases taken

def Level.tags (level : Level) : List Element := level.branch.toList ++ [level.tag]

/-- All tags of some levels, the innermost first. -/
def openTags (around : List Level) : List Element := around.flatMap Level.tags

/-- How many of the tags are branches of choices. -/
def branches (around : List Level) : Nat := around.countP (·.branch.isSome)

theorem length_openTags (around : List Level) :
    (openTags around).length = around.length + branches around := by
  induction around with
  | nil => rfl
  | cons level around ih =>
    have tags : level.tags.length = 1 + if level.branch.isSome then 1 else 0 := by
      rw [Level.tags, List.length_append]
      cases level.branch <;> rfl
    rw [openTags, List.flatMap_cons, List.length_append, tags, branches, List.countP_cons]
    show _ + (openTags around).length = _
    rw [ih, List.length_cons, branches]
    omega

theorem branches_eq_zero {around : List Level}
    (plain : ∀ level ∈ around, level.tag.kind ≠ .choose) :
    branches around = 0 := by
  rw [branches, List.countP_eq_zero]
  exact fun level member taken => plain level member (level.choice taken)

/-! ## Visited rows -/

/-- The rows that the rendering of a first row comes to, with the levels around each. What is left
of a row behind a node is a row of its own. The depth limit is not asked. -/
inductive Visited (setting : Setting) (first : Row) : Row → List Level → Prop
  | start : Visited setting first first []
  | text {scope : Scope} {parent text : String} {rest : List Node} {around : List Level} :
      Visited setting first ⟨scope, parent, .text text :: rest⟩ around →
      Visited setting first ⟨scope, parent, rest⟩ around
  | bind {scope after : Scope} {parent : String} {element : Element} {rest : List Node}
      {around : List Level} :
      Visited setting first ⟨scope, parent, .tag element :: rest⟩ around → element.kind = .bind →
      afterBind setting scope element = .ok after →
      Visited setting first ⟨after, parent, rest⟩ around
  | past {scope : Scope} {parent : String} {element : Element} {rest : List Node}
      {around : List Level} :
      Visited setting first ⟨scope, parent, .tag element :: rest⟩ around → element.kind ≠ .bind →
      Visited setting first ⟨scope, parent, rest⟩ around
  | into {scope : Scope} {parent : String} {element : Element} {rest : List Node}
      {around : List Level} {plan : Plan} {row : Row} :
      Visited setting first ⟨scope, parent, .tag element :: rest⟩ around → element.kind ≠ .bind →
      Render.plan setting scope element = .ok plan → row ∈ plan.rows →
      Visited setting first row (levelOf scope element :: around)

/-- The row that a statement begins with. -/
def outermost (setting : Setting) (statement : Statement) (context : Context) : Row :=
  ⟨⟨context, [], setting.path.ns⟩, statement.kind.name, statement.body⟩

variable {setting : Setting} {first : Row} {statement : Statement} {context : Context}

/-! ## The machine -/

/-- The row of a frame and the rows of its tag behind it are visited, under so many levels. -/
def Frame.Visits (setting : Setting) (first : Row) (height : Nat) (frame : Frame) : Prop :=
  ∃ around, around.length = height ∧
    ∀ row ∈ frame.row :: frame.later, Visited setting first row around

/-- On the stack stand only visited rows, each above one frame for every level around it, and there
are no more levels than the limit allows. -/
inductive Stands (setting : Setting) (first : Row) : List Frame → Prop
  | nil : Stands setting first []
  | cons {frame : Frame} {below : List Frame} : frame.Visits setting first below.length →
      below.length ≤ setting.options.maxDepth → Stands setting first below →
      Stands setting first (frame :: below)

def Covered (setting : Setting) (first : Row) : State → Prop
  | .running top below => Stands setting first (top :: below)
  | .halted _ => True

theorem covered_resume {α : Type} {r : Except PreviewError α} {next : α → State}
    (each : ∀ a, r = .ok a → Covered setting first (next a)) :
    Covered setting first (resume r next) := by
  cases r with
  | error e => trivial
  | ok a => exact each a rfl

theorem covered_finish {below : List Frame} (stands : Stands setting first below)
    (text : List Char) : Covered setting first (finish text below) := by
  cases stands with
  | nil => trivial
  | cons visits small stands => exact .cons visits small stands

theorem covered_enter {rows : List Row} {below : List Frame} {around : List Level}
    (levels : around.length = below.length) (small : below.length ≤ setting.options.maxDepth)
    (visited : ∀ row ∈ rows, Visited setting first row around)
    (stands : Stands setting first below) (texts : List (List Char))
    (combine : List (List Char) → List Char) :
    Covered setting first (enter rows texts combine below) := by
  cases rows with
  | nil => exact covered_finish stands _
  | cons row later => exact .cons ⟨around, levels, visited⟩ small stands

/-- A step takes a visited row to visited rows, and goes into a tag only within the limit. -/
theorem covered_step {s : State} (covered : Covered setting first s) :
    Covered setting first (step setting s) := by
  cases s with
  | halted result => trivial
  | running top below =>
    obtain ⟨⟨scope, parent, left⟩, out, later, texts, combine⟩ := top
    cases covered with
    | cons visits small stands =>
      obtain ⟨around, levels, visited⟩ := visits
      obtain ⟨here, others⟩ := List.forall_mem_cons.1 visited
      cases left with
      | nil => exact covered_enter levels small others stands _ _
      | cons node rest =>
        cases node with
        | text text =>
          refine covered_resume fun out _ => .cons ⟨around, levels, ?_⟩ small stands
          exact List.forall_mem_cons.2 ⟨here.text, others⟩
        | tag element =>
          simp only [step]
          split
          · next binds =>
            refine covered_resume fun after bound => .cons ⟨around, levels, ?_⟩ small stands
            exact List.forall_mem_cons.2 ⟨here.bind binds bound, others⟩
          · next other =>
            split
            · trivial
            · next deep =>
              refine covered_resume fun plan planned => ?_
              have behind : Stands setting first
                  (⟨⟨scope, parent, rest⟩, out, later, texts, combine⟩ :: below) :=
                .cons ⟨around, levels, List.forall_mem_cons.2 ⟨here.past other, others⟩⟩ small
                  stands
              have deeper : (levelOf scope element :: around).length = below.length + 1 :=
                congrArg (· + 1) levels
              refine covered_enter deeper ?_ (fun row member => ?_) behind _ _
              · exact Nat.lt_of_not_le deep
              · exact here.into other planned member

theorem covered_run (setting : Setting) (statement : Statement) (context : Context) (n : Nat) :
    Covered setting (outermost setting statement context)
      ((step setting)^[n] (start setting statement context)) := by
  induction n with
  | zero => exact .cons ⟨[], rfl, List.forall_mem_cons.2 ⟨.start, nofun⟩⟩ (Nat.zero_le _) .nil
  | succ n ih =>
    rw [Function.iterate_succ_apply']
    exact covered_step ih

/-- Whenever the machine runs, it is in the middle of a visited row, and there are as many levels
around the row as frames below it, which the limit bounds. -/
theorem visited_of_running {n : Nat} {top : Frame} {below : List Frame}
    (run : (step setting)^[n] (start setting statement context) = .running top below) :
    ∃ around, Visited setting (outermost setting statement context) top.row around ∧
      around.length = below.length ∧ around.length ≤ setting.options.maxDepth := by
  have covered := covered_run setting statement context n
  rw [run] at covered
  cases covered with
  | cons visits small stands =>
    obtain ⟨around, levels, visited⟩ := visits
    exact ⟨around, visited _ List.mem_cons_self, levels, levels ▸ small⟩

/-! ## Renderings -/

theorem exists_of_mapM {body : Body} {rows : List Row} {parts : List (List Char)}
    (run : (rows.mapM fun row => body row.scope row.parent row.nodes) = .ok parts) :
    ∀ row ∈ rows, ∃ part, body row.scope row.parent row.nodes = .ok part := by
  induction rows generalizing parts with
  | nil => nofun
  | cons row rows ih =>
    rw [List.mapM_cons, bind_eq_ok_iff] at run
    obtain ⟨part, head, run⟩ := run
    obtain ⟨parts, rest, -⟩ := bind_eq_ok_iff.1 run
    exact List.forall_mem_cons.2 ⟨⟨part, head⟩, ih rest⟩

/-- Where a plan is carried out, each of its rows renders. -/
theorem exists_of_carryOut {body : Body} {plan : Plan} {text : List Char}
    (run : plan.carryOut body = .ok text) :
    ∀ row ∈ plan.rows, ∃ part, body row.scope row.parent row.nodes = .ok part := by
  rw [Plan.carryOut] at run
  cases outcome : plan.rows.mapM fun row => body row.scope row.parent row.nodes with
  | error e =>
    rw [outcome] at run
    cases run
  | ok parts => exact exists_of_mapM outcome

/-- Where the first row renders, every visited row does, in the room that its levels leave. -/
theorem Visited.renders {depth : Nat} {text : List Char}
    (rendered : nodes setting depth first.scope first.parent first.nodes = .ok text) {row : Row}
    {around : List Level} (visited : Visited setting first row around) :
    ∃ room part, room + around.length = depth ∧
      nodes setting room row.scope row.parent row.nodes = .ok part := by
  induction visited with
  | start => exact ⟨depth, text, rfl, rendered⟩
  | text visited ih =>
    obtain ⟨room, part, sum, run⟩ := ih
    simp only [nodes_eq_siblings, siblings, bind_eq_ok_iff] at run
    obtain ⟨head, -, tail, run, -⟩ := run
    exact ⟨room, tail, sum, by rw [nodes_eq_siblings]; exact run⟩
  | bind visited binds bound ih =>
    obtain ⟨room, part, sum, run⟩ := ih
    rw [nodes_eq_siblings, siblings_bind binds, bound] at run
    exact ⟨room, part, sum, by rw [nodes_eq_siblings]; exact run⟩
  | past visited other ih =>
    obtain ⟨room, part, sum, run⟩ := ih
    rw [nodes_eq_siblings, siblings_tag other] at run
    simp only [bind_eq_ok_iff] at run
    obtain ⟨head, -, tail, run, -⟩ := run
    exact ⟨room, tail, sum, by rw [nodes_eq_siblings]; exact run⟩
  | into visited other planned member ih =>
    obtain ⟨room, part, sum, run⟩ := ih
    rw [nodes_eq_siblings, siblings_tag other] at run
    obtain ⟨head, run, -⟩ := bind_eq_ok_iff.1 run
    cases room with
    | zero => cases run
    | succ room =>
      rw [tagWithin, element_eq_plan, planned, ok_bind] at run
      obtain ⟨part, run⟩ := exists_of_carryOut run _ member
      exact ⟨room, part, by rw [List.length_cons]; omega, run⟩

/-- A row that is rendered stands within the limit, apart from branches of choices. -/
theorem visited_bounded {sql : String}
    (rendered : Render.statement setting statement context = .ok sql) {row : Row}
    {around : List Level}
    (visited : Visited setting (outermost setting statement context) row around) :
    (openTags around).length ≤ setting.options.maxDepth + branches around ∧
      ((∀ tag ∈ openTags around, tag.kind ≠ .choose) →
        (openTags around).length ≤ setting.options.maxDepth) := by
  obtain ⟨text, rendered, -⟩ := bind_eq_ok_iff.1 rendered
  obtain ⟨room, part, sum, -⟩ := visited.renders rendered
  have bound : (openTags around).length ≤ setting.options.maxDepth + branches around := by
    rw [length_openTags]
    omega
  refine ⟨bound, fun plain => ?_⟩
  have none : branches around = 0 := by
    refine branches_eq_zero fun level member => plain _ ?_
    exact List.mem_flatMap.2 ⟨level, member, List.mem_append_right _ List.mem_cons_self⟩
  rwa [none] at bound

/-! ## Failing at the limit -/

section

variable {α β : Type}

/-- The result is no error at the depth limit. -/
def Shallow (r : Except PreviewError α) : Prop :=
  ∀ path limit, r ≠ .error (.limitExceeded path .depth limit)

theorem shallow_ok (a : α) : Shallow (.ok a) := nofun

theorem Shallow.bind {r : Except PreviewError α} {next : α → Except PreviewError β}
    (shallow : Shallow r) (each : ∀ a, Shallow (next a)) : Shallow (r >>= next) := by
  cases r with
  | ok a => exact each a
  | error e =>
    rintro path limit ⟨⟩
    exact shallow path limit rfl

theorem shallow_value (scope : Scope) (tag expression : String) :
    Shallow (value setting scope tag expression) := by
  unfold value
  split <;> nofun

theorem shallow_rawText (scope : Scope) (tag expression : String) :
    Shallow (rawText setting scope tag expression) := by
  unfold rawText
  split
  · nofun
  · refine (shallow_value scope tag expression).bind fun value => ?_
    cases value <;> exact shallow_ok _

theorem shallow_inText (scope : Scope) (tag : String) (p : Placeholder) :
    Shallow (inText setting scope tag p) := by
  unfold inText
  split
  · exact (shallow_value scope tag _).bind fun _ => shallow_ok _
  · exact shallow_rawText scope tag _

theorem shallow_inAttribute (scope : Scope) (tag : String) (p : Placeholder) :
    Shallow (inAttribute setting scope tag p) := by
  unfold inAttribute
  split
  · nofun
  · exact shallow_rawText scope tag _

theorem shallow_substitute {resolve : Placeholder → Rendered} (each : ∀ p, Shallow (resolve p))
    (text : List Char) : Shallow (substitute resolve text) := by
  unfold substitute
  induction Piece.ofText text with
  | nil => exact shallow_ok _
  | cons piece pieces ih =>
    cases piece with
    | verbatim c => exact ih.bind fun _ => shallow_ok _
    | placeholder p => exact (each p).bind fun head => ih.bind fun _ => shallow_ok _

theorem shallow_attributeText (scope : Scope) (tag text : String) :
    Shallow (attributeText setting scope tag text) :=
  (shallow_substitute (shallow_inAttribute scope tag) _).bind fun _ => shallow_ok _

theorem shallow_includeProperties (scope : Scope) (tag : String) (properties : Dict String)
    (elements : List Element) :
    Shallow (includeProperties setting scope tag properties elements) := by
  fun_induction includeProperties setting scope tag properties elements with
  | case1 => exact shallow_ok _
  | case2 properties element rest name value kind named valued ih =>
    exact (shallow_attributeText scope tag value).bind ih
  | case3 properties element rest other ih => exact ih

theorem shallow_afterBind (scope : Scope) (element : Element) :
    Shallow (afterBind setting scope element) := by
  unfold afterBind
  split
  · exact (shallow_value scope element.name _).bind fun _ => shallow_ok _
  · exact shallow_ok _

theorem shallow_inclusionPlan (scope : Scope) (element : Element) :
    Shallow (inclusionPlan setting scope element) := by
  unfold inclusionPlan
  split
  · nofun
  · refine (shallow_includeProperties scope _ _ _).bind fun properties => ?_
    refine (shallow_attributeText _ _ _).bind fun refid => ?_
    split
    · exact shallow_ok _
    · split <;> nofun

/-- A loop that is too long fails at the other limit. -/
theorem shallow_loopPlan (scope : Scope) (element : Element) :
    Shallow (loopPlan setting scope element) := by
  unfold loopPlan
  split
  · nofun
  · refine (shallow_value scope _ _).bind fun value => ?_
    split
    · exact shallow_ok _
    · split
      · rintro path limit ⟨⟩
      · exact shallow_ok _

theorem shallow_plan (scope : Scope) (element : Element) :
    Shallow (plan setting scope element) := by
  unfold plan
  cases element.kind with
  | «include» => exact shallow_inclusionPlan scope element
  | foreach => exact shallow_loopPlan scope element
  | choose =>
    dsimp only
    split <;> exact shallow_ok _
  | _ => exact shallow_ok _

theorem resume_eq_error {r : Except PreviewError α} (shallow : Shallow r) {next : α → State}
    {path : StatementPath} {max : Nat}
    (failed : resume r next = .halted (.error (.limitExceeded path .depth max))) :
    ∃ a, next a = .halted (.error (.limitExceeded path .depth max)) := by
  cases r with
  | error e =>
    cases failed
    exact absurd rfl (shallow path max)
  | ok a => exact ⟨a, failed⟩

theorem enter_ne_error (rows : List Row) (texts : List (List Char))
    (combine : List (List Char) → List Char) (below : List Frame) (e : PreviewError) :
    enter rows texts combine below ≠ .halted (.error e) := by
  cases rows with
  | nil => cases below <;> nofun
  | cons row later => nofun

/-- The machine fails at the depth limit only in front of a tag for which there is no level left. -/
theorem step_fails {top : Frame} {below : List Frame} {path : StatementPath} {max : Nat}
    (failed : step setting (.running top below) =
      .halted (.error (.limitExceeded path .depth max))) :
    ∃ element rest, top.row.nodes = .tag element :: rest ∧ element.kind ≠ .bind ∧
      setting.options.maxDepth ≤ below.length := by
  simp only [step] at failed
  split at failed
  · exact absurd failed (enter_ne_error _ _ _ _ _)
  · obtain ⟨_, ⟨⟩⟩ := resume_eq_error (shallow_substitute (shallow_inText _ _) _) failed
  · next element rest front =>
    split at failed
    · obtain ⟨_, ⟨⟩⟩ := resume_eq_error (shallow_afterBind _ _) failed
    · next other =>
      split at failed
      · next deep => exact ⟨element, rest, front, other, deep⟩
      · obtain ⟨_, failed⟩ := resume_eq_error (shallow_plan _ _) failed
        exact absurd failed (enter_ne_error _ _ _ _ _)

/-- A machine that halts took its last step from a running state. -/
theorem exists_last_step {result : Rendered} {n : Nat}
    (run : (step setting)^[n] (start setting statement context) = .halted result) :
    ∃ m top below, (step setting)^[m] (start setting statement context) = .running top below ∧
      step setting (.running top below) = .halted result := by
  induction n with
  | zero => cases run
  | succ n ih =>
    rw [Function.iterate_succ_apply'] at run
    cases before : (step setting)^[n] (start setting statement context) with
    | halted earlier =>
      rw [before] at run
      exact ih (before.trans run)
    | running top below =>
      rw [before] at run
      exact ⟨n, top, below, before, run⟩

/-- A rendering that fails at the limit has come to a tag with as many levels around it as the limit
allows. -/
theorem limit_reached {path : StatementPath} {max : Nat}
    (failed : Render.statement setting statement context =
      .error (.limitExceeded path .depth max)) :
    ∃ row around element rest, Visited setting (outermost setting statement context) row around ∧
      row.nodes = .tag element :: rest ∧ element.kind ≠ .bind ∧
      around.length = setting.options.maxDepth := by
  obtain ⟨n, run⟩ := statement_reaches setting statement context
  unfold Render.statement at failed
  dsimp only at failed
  cases result : nodes setting setting.options.maxDepth ⟨context, [], setting.path.ns⟩
    statement.kind.name statement.body with
  | ok text =>
    rw [result] at failed
    cases failed
  | error e =>
    rw [result] at failed run
    cases failed
    obtain ⟨m, top, below, running, last⟩ := exists_last_step run
    obtain ⟨element, rest, front, other, deep⟩ := step_fails last
    obtain ⟨around, visited, levels, small⟩ := visited_of_running running
    exact ⟨top.row, around, element, rest, visited, front, other,
      Nat.le_antisymm small (levels ▸ deep)⟩

end

/-! ## Choices in choices -/

/-- A choice with nothing but a default branch. -/
def choiceOf (content : List Node) : Element := ⟨"choose", [], [.tag ⟨"otherwise", [], content⟩]⟩

theorem choiceOf_kind_ne (content : List Node) : (choiceOf content).kind ≠ .bind := by
  show TagKind.choose ≠ .bind
  decide

theorem plan_choiceOf (scope : Scope) (content : List Node) :
    plan setting scope (choiceOf content) = .ok (.only ⟨scope, "otherwise", content⟩ id) := rfl

/-- So many choices, each in the default branch of the one around it. -/
def nestedChoices : Nat → List Node
  | 0 => [.text "x"]
  | depth + 1 => [.tag (choiceOf (nestedChoices depth))]

theorem nodes_nestedChoices (depth : Nat) (scope : Scope) (parent : String) :
    nodes setting depth scope parent (nestedChoices depth) = .ok ['x'] := by
  induction depth generalizing parent with
  | zero =>
    have static : IsStatic "x" := by
      unfold IsStatic
      decide +kernel
    rw [nestedChoices, nodes_eq_siblings, siblings, substitute_static _ static]
    rfl
  | succ depth ih =>
    rw [nestedChoices, nodes_tag (choiceOf_kind_ne _), element_eq_plan, plan_choiceOf, ok_bind,
      Plan.carryOut_only, ih]
    rfl

theorem statement_nestedChoices (setting : Setting) (context : Context) :
    Render.statement setting
      ⟨"s", .select, none, nestedChoices setting.options.maxDepth⟩ context = .ok "x" := by
  have laidOut : String.ofList (Layout.format ['x']) = "x" := by cbv
  rw [Render.statement, nodes_nestedChoices, ok_bind, laidOut]
  rfl

theorem exists_visited_nestedChoices (depth : Nat) {scope : Scope} {parent : String}
    {around : List Level}
    (visited : Visited setting first ⟨scope, parent, nestedChoices depth⟩ around) :
    ∃ parent around', Visited setting first ⟨scope, parent, [.text "x"]⟩ around' ∧
      (openTags around').length = 2 * depth + (openTags around).length := by
  induction depth generalizing parent around with
  | zero => exact ⟨parent, around, visited, (Nat.zero_add _).symm⟩
  | succ depth ih =>
    have inner := visited.into (choiceOf_kind_ne _) (plan_choiceOf scope _) List.mem_cons_self
    obtain ⟨parent, around', deepest, length⟩ := ih inner
    refine ⟨parent, around', deepest, ?_⟩
    have two : (openTags (levelOf scope (choiceOf (nestedChoices depth)) :: around)).length =
        2 + (openTags around).length := by
      rw [openTags, List.flatMap_cons, List.length_append]
      rfl
    rw [length, two]
    omega

/-! ## The limit -/

/-- Around whatever a statement renders stand no more tags than the limit allows, the branches of
choices not counted; without choices these are all tags. The machine never leaves the limit, and a
rendering that fails at it had a tag next that would have been beyond it. -/
theorem nesting_bounded (setting : Setting) (statement : Statement) (context : Context) :
    (∀ sql, Render.statement setting statement context = .ok sql →
      ∀ row around, Visited setting (outermost setting statement context) row around →
        (openTags around).length ≤ setting.options.maxDepth + branches around ∧
        ((∀ tag ∈ openTags around, tag.kind ≠ .choose) →
          (openTags around).length ≤ setting.options.maxDepth)) ∧
    (∀ n top below,
      (step setting)^[n] (start setting statement context) = .running top below →
      ∃ around, Visited setting (outermost setting statement context) top.row around ∧
        around.length = below.length ∧ around.length ≤ setting.options.maxDepth) ∧
    ∀ path max,
      Render.statement setting statement context = .error (.limitExceeded path .depth max) →
      ∃ row around element rest, Visited setting (outermost setting statement context) row around ∧
        row.nodes = .tag element :: rest ∧ element.kind ≠ .bind ∧
        around.length = setting.options.maxDepth := by
  refine ⟨fun sql rendered row around visited => ?_, fun n top below run => ?_,
    fun path max failed => ?_⟩
  · exact visited_bounded rendered visited
  · exact visited_of_running run
  · exact limit_reached failed

/-- Four tags around a text, two of them branches, where the limit is two. -/
theorem two_choices_bounded :
    let setting : Setting := ⟨.empty, { maxDepth := 2 }, ⟨"m", "s"⟩⟩
    let statement : Statement := ⟨"s", .select, none, nestedChoices 2⟩
    Render.statement setting statement .empty = .ok "x" ∧
      ∃ row around, Visited setting (outermost setting statement .empty) row around ∧
        row.nodes = [.text "x"] ∧ (openTags around).length = 4 ∧
        (openTags around).length ≤ 2 + branches around := by
  intro setting statement
  have rendered : Render.statement setting statement .empty = .ok "x" :=
    statement_nestedChoices setting .empty
  obtain ⟨parent, around, visited, length⟩ := exists_visited_nestedChoices 2
    (Visited.start : Visited setting (outermost setting statement .empty) _ _)
  obtain ⟨bounded, -⟩ := nesting_bounded setting statement .empty
  exact ⟨rendered, _, around, visited, rfl, length, (bounded "x" rendered _ _ visited).1⟩

/-- Two tags stand around the text, where the limit is one. -/
theorem otherwise_uncounted :
    let setting : Setting := ⟨.empty, { maxDepth := 1 }, ⟨"m", "s"⟩⟩
    let statement : Statement :=
      ⟨"s", .select, none, [.tag ⟨"choose", [], [.tag ⟨"otherwise", [], [.text "x"]⟩]⟩]⟩
    Render.statement setting statement .empty = .ok "x" ∧
      ∃ row around, Visited setting (outermost setting statement .empty) row around ∧
        row.nodes = [.text "x"] ∧ (openTags around).map Tag.name = ["otherwise", "choose"] ∧
        setting.options.maxDepth < (openTags around).length := by
  intro setting statement
  have inner : Visited setting (outermost setting statement .empty) _ _ :=
    Visited.start.into (choiceOf_kind_ne [.text "x"]) (plan_choiceOf _ _) List.mem_cons_self
  exact ⟨statement_nestedChoices setting .empty, _, _, inner, rfl, by decide, by decide⟩

end SqlPreview.Render
