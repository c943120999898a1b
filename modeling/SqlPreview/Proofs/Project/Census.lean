import Mathlib
import SqlPreview.Project.Report
import SqlPreview.Proofs.Project.Loading

/-!
# Which statements a report accounts for

A report has its entries under the written paths of statements. A point may stand in a namespace as
well as in an id, so that two statements can be written alike; the report then keeps the entry of
the one that is listed last, and the check of the project does not see the other.

This file defines what a full account of the statements is (`Report.Complete`).

Results:
1. `Report.size_eq_iff`: there are as many entries as statements exactly if no two are written
   alike.
2. `Report.complete_iff_texts_distinct`: that is also when the account is full.
3. `shadowed_failure_passes`: a project with a statement that cannot be rendered, which passes its
   check.
-/

namespace SqlPreview

namespace Report

variable {project : Project}

/-- A statement has SQL for its own example payload. -/
def renders (project : Project) (path : StatementPath) : Bool :=
  (entry project.previewer path).outcome.isOk

/-- The statements that have none. -/
def failing (project : Project) : List StatementPath :=
  project.statements.filter fun path => !renders project path

/-- What the check of a project should say: the report if every statement has SQL, and otherwise
how many have none, of how many. -/
def verdict (project : Project) : Except ProjectError Report :=
  if failing project = [] then .ok (ofProject project)
  else .error (.checkFailed (failing project).length project.statements.length)

/-- A full account of the statements of a project: an entry for each, which is its own preview, and
a check that finds and counts all failures. -/
structure Complete (project : Project) : Prop where
  size : (ofProject project).size = project.statements.length
  own : ∀ path ∈ project.statements,
    (ofProject project).entries.get? path.text = some (entry project.previewer path)
  checked : ∀ disk config, Project.load disk config = .ok project →
    Project.check disk config = verdict project

theorem length_names_ofPairs {α : Type} (pairs : List (String × α)) :
    (Dict.ofPairs pairs).length = (pairs.map Prod.fst).dedup.length := by
  have same : ((Dict.ofPairs pairs).names).Perm (pairs.map Prod.fst).dedup := by
    rw [List.perm_ext_iff_of_nodup (Dict.nodup_names_ofPairs pairs) (List.nodup_dedup _)]
    intro name
    rw [Dict.mem_names_ofPairs, List.mem_dedup]
  rw [← same.length_eq, Dict.names, List.length_map]

/-- A written path stands for the statement that is listed last of those that are written so. -/
theorem get?_ofProject (project : Project) (text : String) :
    (ofProject project).entries.get? text =
      (project.statements.reverse.find? fun path => path.text == text).map
        (entry project.previewer) := by
  rw [ofProject, Dict.get?_ofPairs, ← List.map_reverse]
  induction project.statements.reverse with
  | nil => rfl
  | cons path rest ih =>
    rw [List.map_cons, List.lookup_cons, List.find?_cons, BEq.comm]
    split
    · rfl
    · exact ih

/-- There are as many entries as statements exactly if no two are written alike. -/
theorem size_eq_iff (project : Project) : (ofProject project).size = project.statements.length ↔
    (project.statements.map StatementPath.text).Nodup := by
  rw [size, ofProject, length_names_ofPairs, List.map_map, ← List.length_map StatementPath.text]
  constructor
  · intro same
    exact List.dedup_eq_self.1 ((List.dedup_sublist _).eq_of_length same)
  · intro distinct
    exact congrArg List.length (List.dedup_eq_self.2 distinct)

section

variable (distinct : (project.statements.map StatementPath.text).Nodup)

include distinct

theorem entries_of_distinct : (ofProject project).entries =
    project.statements.map fun path => (path.text, entry project.previewer path) :=
  Dict.ofPairs_map _ distinct

theorem get?_of_distinct {path : StatementPath} (listed : path ∈ project.statements) :
    (ofProject project).entries.get? path.text = some (entry project.previewer path) := by
  rw [entries_of_distinct distinct]
  exact Dict.get?_map (entry project.previewer) distinct listed

/-- The failures that are reported are those of the statements without SQL, in their order. -/
theorem failures_of_distinct :
    (ofProject project).failures.map Prod.fst = (failing project).map StatementPath.text := by
  rw [failures, entries_of_distinct distinct, failing]
  clear distinct
  induction project.statements with
  | nil => rfl
  | cons path rest ih =>
    rw [List.map_cons, List.filterMap_cons, List.filter_cons]
    cases outcome : (entry project.previewer path).outcome with
    | ok sql =>
      have fine : renders project path = true := by rw [renders, outcome]; rfl
      simp only [outcome, fine, Bool.not_true, Bool.false_eq_true, if_false]
      exact ih
    | error reason =>
      have failed : renders project path = false := by rw [renders, outcome]; rfl
      simp only [outcome, failed, Bool.not_false, if_true, List.map_cons]
      exact congrArg (path.text :: ·) ih

theorem check_of_distinct {disk : Disk} {config : Config}
    (loaded : Project.load disk config = .ok project) :
    Project.check disk config = verdict project := by
  have count : (ofProject project).failures.length = (failing project).length := by
    rw [← List.length_map Prod.fst, failures_of_distinct distinct, List.length_map]
  have said : Project.check disk config =
      if (ofProject project).failures.length = 0 then .ok (ofProject project)
      else .error (.checkFailed (ofProject project).failures.length (ofProject project).size) := by
    rw [Project.check, loaded]
    rfl
  rw [said, verdict, count, (size_eq_iff project).2 distinct]
  simp only [List.length_eq_zero_iff]

end

/-- Whatever was loaded, the statements of a project are each listed once; the report shows of
those that are written alike the last one, and it accounts for all exactly if no two are. -/
theorem complete_iff_texts_distinct {disk : Disk} {config : Config} {project : Project}
    (loaded : Project.load disk config = .ok project) :
    (∀ path, path ∈ project.statements ↔ project.Registers path) ∧ project.statements.Nodup ∧
      (∀ text, (ofProject project).entries.get? text =
        (project.statements.reverse.find? fun path => path.text == text).map
          (entry project.previewer)) ∧
      (Complete project ↔ (project.statements.map StatementPath.text).Nodup) := by
  have keyed := Project.keyed_of_load loaded
  refine ⟨fun path => Project.mem_statements keyed, Project.nodup_statements keyed,
    get?_ofProject project, ?_, ?_⟩
  · exact fun complete => (size_eq_iff project).1 complete.size
  · intro distinct
    exact {
      size := (size_eq_iff project).2 distinct
      own := fun path listed => get?_of_distinct distinct listed
      checked := fun disk config loaded => check_of_distinct distinct loaded }

/-! ## Two statements that are written alike -/

/-- A document whose only statement includes a fragment that nobody defines. -/
def unrenderableText : String :=
  "<mapper namespace=\"a\"><select id=\"b.c\"><include refid=\"columns\"/></select></mapper>"

/-- A document whose only statement has the same written path. -/
def plainText : String := "<mapper namespace=\"a.b\"><select id=\"c\">SELECT 1</select></mapper>"

def shadowedDisk : Disk :=
  ⟨"", .directory
    [("mappers", .directory [("a.xml", .file unrenderableText), ("b.xml", .file plainText)]),
      ("java", .directory [])]⟩

def strictConfig : Config :=
  { version := "1.0", mappers := "/mappers", sources := ["/java"], output := "/report.json"
    pretty := true, options := { strictIncludes := true } }

def shadowedProject : Project :=
  { registry := ⟨
      [("a", ⟨"a", [("b.c", ⟨"b.c", .select, none,
          [.tag ⟨"include", [("refid", "columns")], []⟩]⟩)], []⟩),
        ("a.b", ⟨"a.b", [("c", ⟨"c", .select, none, [.text "SELECT 1"]⟩)], []⟩)]⟩
    index := .empty
    options := { strictIncludes := true } }

theorem filesUnder_shadowedDisk : Project.filesUnder shadowedDisk "xml" "/mappers" =
    .ok [("/mappers/a.xml", unrenderableText), ("/mappers/b.xml", plainText)] := by
  let entries : Dict FileTree := [("a.xml", .file unrenderableText), ("b.xml", .file plainText)]
  have there : shadowedDisk.at? "/mappers" = some (.directory entries) := by
    cbv
  -- Sorting does not evaluate, but the entries are in order as they stand.
  have ordered : FileTree.sorted entries = entries := List.mergeSort_of_pairwise (by simp [entries])
  have listed : (FileTree.directory entries).listing "/mappers" =
      [("/mappers", .directory entries), ("/mappers/a.xml", .file unrenderableText),
        ("/mappers/b.xml", .file plainText)] := by
    rw [FileTree.listing_directory, ordered]
    simp only [entries, List.flatMap_cons, List.flatMap_nil, FileTree.listing]
    rfl
  have extensions : ["/mappers", "/mappers/a.xml", "/mappers/b.xml"].map
      (Project.hasExtension "xml") = [false, true, true] := by
    decide +kernel
  simp only [List.map_cons, List.map_nil, List.cons.injEq, and_true] at extensions
  rw [Project.filesUnder, there]
  simp only [listed, List.filter_cons, extensions, List.filter_nil]
  rfl

theorem read_unrenderableText : Mapper.read unrenderableText =
    .ok ⟨"a", [("b.c", ⟨"b.c", .select, none,
      [.tag ⟨"include", [("refid", "columns")], []⟩]⟩)], []⟩ := by
  cbv

theorem read_plainText : Mapper.read plainText =
    .ok ⟨"a.b", [("c", ⟨"c", .select, none, [.text "SELECT 1"]⟩)], []⟩ := by
  cbv

theorem load_shadowedProject : Project.load shadowedDisk strictConfig = .ok shadowedProject := by
  have mappers : Project.loadMappers shadowedDisk "/mappers" = .ok shadowedProject.registry := by
    have there : ∃ entries, shadowedDisk.at? "/mappers" = some (.directory entries) :=
      ⟨_, by cbv⟩
    obtain ⟨entries, there⟩ := there
    rw [Project.loadMappers, there]
    simp only [filesUnder_shadowedDisk, bind, Except.bind, List.foldlM_cons, List.foldlM_nil,
      Project.addMapper, read_unrenderableText, read_plainText]
    rfl
  have sources : Project.loadSources shadowedDisk ["/java"] = .ok .empty := by
    cbv
  rw [Project.load, strictConfig, mappers, sources]
  rfl

theorem statements_shadowedProject :
    shadowedProject.statements = [⟨"a", "b.c"⟩, ⟨"a.b", "c"⟩] := by
  have listed : (shadowedProject.registry.mappers.flatMap fun entry =>
      Project.mapperPaths entry.2) = [⟨"a", "b.c"⟩, ⟨"a.b", "c"⟩] := rfl
  rw [Project.statements, listed]
  exact List.mergeSort_of_pairwise (by decide +kernel)

/-- The check passes although one of the two statements cannot be rendered, because the other one
has the same written path. -/
theorem shadowed_failure_passes :
    Project.load shadowedDisk strictConfig = .ok shadowedProject ∧
      shadowedProject.statements = [⟨"a", "b.c"⟩, ⟨"a.b", "c"⟩] ∧
      renders shadowedProject ⟨"a", "b.c"⟩ = false ∧
      ∃ report, Project.check shadowedDisk strictConfig = .ok report ∧ report.size = 1 := by
  refine ⟨load_shadowedProject, statements_shadowedProject, by decide +kernel,
    ofProject shadowedProject, ?_, ?_⟩
  · have quiet : (ofProject shadowedProject).failures.length = 0 := by
      rw [failures, ofProject, statements_shadowedProject]
      decide +kernel
    rw [Project.check, load_shadowedProject]
    simp only [bind, Except.bind, quiet, if_true]
    rfl
  · rw [size, ofProject, statements_shadowedProject]
    decide +kernel

/-- The account of that project is not full. -/
theorem shadowedProject_incomplete : ¬ Complete shadowedProject := by
  intro complete
  have apart := (complete_iff_texts_distinct load_shadowedProject).2.2.2.1 complete
  rw [statements_shadowedProject] at apart
  revert apart
  decide +kernel

end Report

end SqlPreview
