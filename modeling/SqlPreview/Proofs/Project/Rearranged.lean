import SqlPreview.Project.Report
import SqlPreview.Proofs.Params.Rearranged
import SqlPreview.Proofs.Project.Loading
import SqlPreview.Proofs.Source.Rearranged
import SqlPreview.Proofs.Sql.Registries

/-!
# Projects loaded in another order

The documents and the source files of a project come in the order in which directories are walked.
Where namespaces, types and written paths are all distinct, that order has no say in any preview.

This file defines previewers that know the same (`Previewer.Alike`).

Results:
1. `Project.foldlM_addMapper_iff`: which documents can be loaded together, and what they give.
2. `Project.statements_rearranged`: the statements are listed in the same order.
3. `Report.rearranged`: the project can be loaded in any other order, with the same index and the
   same report.
-/

namespace SqlPreview

/-! ## Previewers that know the same -/

/-- Two previewers under the same options that find the same mappers, classes and signatures. -/
structure Previewer.Alike (previewer previewer' : Previewer) : Prop where
  mappers : ∀ ns, previewer.registry.find? ns = previewer'.registry.find? ns
  signatures : ∀ ns id, previewer.signatures.find? ns id = previewer'.signatures.find? ns id
  classes : previewer.classes.Rearranged previewer'.classes
  options : previewer.options = previewer'.options

namespace Previewer.Alike

variable {previewer previewer' : Previewer} (alike : previewer.Alike previewer')

include alike

theorem statement_eq (path : StatementPath) :
    previewer.statement path = previewer'.statement path := by
  unfold Previewer.statement
  rw [alike.mappers]

theorem shape_eq (path : StatementPath) (statement : Statement) :
    previewer.shape path statement = previewer'.shape path statement := by
  unfold Previewer.shape
  rw [alike.signatures, alike.classes.resolve_eq]

theorem template_eq (path : StatementPath) :
    previewer.template path = previewer'.template path := by
  unfold Previewer.template
  simp only [alike.statement_eq, alike.shape_eq, alike.classes.template_eq]

theorem sqlFor_eq (path : StatementPath) (payload : Json) :
    previewer.sqlFor path payload = previewer'.sqlFor path payload := by
  have bound (statement : Statement) : previewer.bindings path statement payload =
      previewer'.bindings path statement payload := by
    unfold Previewer.bindings
    rw [alike.shape_eq, alike.classes.bindings_eq]
  have rendered (statement : Statement) (context : Context) :
      Render.statement ⟨previewer.registry, previewer.options, path⟩ statement context =
        Render.statement ⟨previewer'.registry, previewer'.options, path⟩ statement context := by
    rw [alike.options]
    exact Render.statement_same_where_found alike.mappers statement context
  unfold Previewer.sqlFor
  simp only [alike.statement_eq, bound, rendered]

theorem entry_eq (path : StatementPath) :
    Report.entry previewer path = Report.entry previewer' path := by
  unfold Report.entry
  simp only [alike.template_eq, alike.sqlFor_eq]

end Previewer.Alike

/-! ## Mappers -/

namespace Project

/-- The mapper that a file holds, if it holds one. -/
def mapperOf? (file : String × String) : Option Mapper := (Mapper.read file.2).toOption

/-- A file that holds a mapper or is passed over. -/
def Loadable (file : String × String) : Prop :=
  ∀ error, Mapper.read file.2 = .error error → error.isNotAMapper = true

theorem foldlM_addMapper_iff {files : List (String × String)} {start registry : Registry} :
    files.foldlM addMapper start = .ok registry ↔
      (∀ file ∈ files, Loadable file) ∧
        registry = (files.filterMap mapperOf?).foldl Registry.insert start := by
  induction files generalizing start with
  | nil =>
    refine ⟨fun run => ?_, fun given => congrArg Except.ok given.2.symm⟩
    cases run
    exact ⟨List.forall_mem_nil _, rfl⟩
  | cons file rest ih =>
    rw [List.foldlM_cons, List.forall_mem_cons, List.filterMap_cons]
    cases found : Mapper.read file.2 with
    | ok mapper =>
      have added : addMapper start file = .ok (start.insert mapper) := by
        unfold addMapper
        rw [found]
      have given : mapperOf? file = some mapper := by
        rw [mapperOf?, found]
        rfl
      have fine : Loadable file := fun error same => by
        rw [found] at same
        cases same
      rw [added, given]
      show rest.foldlM addMapper (start.insert mapper) = .ok registry ↔ _
      rw [ih]
      simp only [fine, true_and, List.foldl_cons]
    | error reason =>
      have given : mapperOf? file = none := by
        rw [mapperOf?, found]
        rfl
      -- What holds no mapper is passed over, so it may stand anywhere; any other fault ends loading.
      by_cases passed : reason.isNotAMapper = true
      · have added : addMapper start file = .ok start := by
          unfold addMapper
          rw [found]
          exact if_pos passed
        have fine : Loadable file := fun error same => by
          rw [found] at same
          cases same
          exact passed
        rw [added, given]
        show rest.foldlM addMapper start = .ok registry ↔ _
        rw [ih]
        simp only [fine, true_and]
      · have refused : addMapper start file = .error (.mapperFile file.1 reason) := by
          unfold addMapper
          rw [found]
          exact if_neg passed
        rw [refused]
        constructor
        · intro run
          cases run
        · intro given
          exact absurd (given.1.1 reason found) passed

theorem mappers_foldl_insert (mappers : List Mapper) (start : Registry) :
    (mappers.foldl Registry.insert start).mappers =
      start.mappers.putAll (mappers.map fun mapper => (mapper.ns, mapper)) := by
  induction mappers generalizing start with
  | nil => rfl
  | cons mapper rest ih =>
    rw [List.foldl_cons, ih, List.map_cons, Dict.putAll_cons]
    rfl

/-- Mappers with different namespaces are registered as they come. -/
theorem mappers_of_foldlM {files : List (String × String)} {registry : Registry}
    (loaded : files.foldlM addMapper .empty = .ok registry)
    (namespaces : ((files.filterMap mapperOf?).map Mapper.ns).Nodup) :
    registry.mappers = (files.filterMap mapperOf?).map fun mapper => (mapper.ns, mapper) := by
  rw [(foldlM_addMapper_iff.1 loaded).2, mappers_foldl_insert]
  exact Dict.ofPairs_map id namespaces

/-- The order of statements is decided by their written paths alone, if these are distinct. -/
theorem statements_rearranged {project project' : Project}
    (moved : project.registry.mappers.Perm project'.registry.mappers)
    (distinct : (project.statements.map StatementPath.text).Nodup) :
    project.statements = project'.statements := by
  have sorted (project : Project) :
      project.statements.Pairwise fun a b => decide (a.text ≤ b.text) = true := by
    refine List.pairwise_mergeSort ?_ ?_ _
    · intro a b c below above
      simp only [decide_eq_true_eq] at *
      exact String.le_trans below above
    · intro a b
      simp only [Bool.or_eq_true, decide_eq_true_eq]
      exact String.le_total _ _
  have listed : project.statements.Perm project'.statements :=
    (List.mergeSort_perm _ _).trans
      ((moved.flatMap_right _).trans (List.mergeSort_perm _ _).symm)
  -- A sorted list is decided by what is in it, as soon as no two of its keys are equal.
  refine List.Perm.eq_of_pairwise ?_ (sorted project) (sorted project') listed
  intro a b here there below above
  simp only [decide_eq_true_eq] at below above
  exact List.inj_on_of_nodup_map distinct here (listed.mem_iff.2 there)
    (String.le_antisymm below above)

end Project

/-! ## Reports -/

namespace Report

variable {files files' : List (String × String)} {texts texts' : List String}

/-- Documents with distinct namespaces and written paths, and source texts with distinct types, can
be loaded in any other order. The index then finds the same classes and the same parameters, and the
report is the same. -/
theorem rearranged (mappersMoved : files.Perm files') (sourcesMoved : texts.Perm texts')
    (options : RenderOptions) {registry : Registry}
    (loaded : files.foldlM Project.addMapper .empty = .ok registry)
    (namespaces : ((files.filterMap Project.mapperOf?).map Mapper.ns).Nodup)
    (paths : ((Project.mk registry (.ofTexts texts) options).statements.map
      StatementPath.text).Nodup)
    (types : (Source.Index.knownNames (texts.map Source.read)).Nodup) :
    ∃ registry', files'.foldlM Project.addMapper .empty = .ok registry' ∧
      (∀ name, (Source.Index.ofTexts texts).classes.find? name =
        (Source.Index.ofTexts texts').classes.find? name) ∧
      (∀ ns id, (Source.Index.ofTexts texts).signatures.find? ns id =
        (Source.Index.ofTexts texts').signatures.find? ns id) ∧
      ofProject ⟨registry, .ofTexts texts, options⟩ =
        ofProject ⟨registry', .ofTexts texts', options⟩ := by
  obtain ⟨loadable, -⟩ := Project.foldlM_addMapper_iff.1 loaded
  have documents := mappersMoved.filterMap Project.mapperOf?
  obtain ⟨registry', loaded'⟩ :
      ∃ registry', files'.foldlM Project.addMapper .empty = .ok registry' :=
    ⟨_, Project.foldlM_addMapper_iff.2
      ⟨fun file member => loadable file (mappersMoved.mem_iff.2 member), rfl⟩⟩
  have namespaces' : ((files'.filterMap Project.mapperOf?).map Mapper.ns).Nodup :=
    (documents.map Mapper.ns).nodup_iff.1 namespaces
  have moved : registry.mappers.Perm registry'.mappers := by
    rw [Project.mappers_of_foldlM loaded namespaces, Project.mappers_of_foldlM loaded' namespaces']
    exact documents.map _
  have classes := Source.Index.classes_rearranged (sourcesMoved.map Source.read) types
  have signatures := Source.Index.signatures_eq (sourcesMoved.map Source.read) types
  refine ⟨registry', loaded', classes.find?_eq, signatures, ?_⟩
  have alike : (Project.mk registry (.ofTexts texts) options).previewer.Alike
      (Project.mk registry' (.ofTexts texts') options).previewer :=
    { mappers := Dict.get?_of_perm moved (Registry.keyed_of_foldlM loaded).once
      signatures := signatures
      classes := classes
      options := rfl }
  have listed : (Project.mk registry (.ofTexts texts) options).statements =
      (Project.mk registry' (.ofTexts texts') options).statements :=
    Project.statements_rearranged moved paths
  unfold ofProject
  rw [listed]
  simp only [alike.entry_eq]

def twoDocuments : List (String × String) :=
  [("a.xml", "<mapper namespace=\"m.A\"><select id=\"s\">SELECT #\x7bn\x7d</select></mapper>"),
    ("b.xml", "<mapper namespace=\"m.B\"><select id=\"s\">SELECT 1</select></mapper>")]

/-- The class that one file declares is the parameter type of a method in the other. -/
def twoSources : List String :=
  ["package m; interface A { P s(P p); }", "package m; class P { int n; }"]

theorem twoDocuments_rearranged :
    ∃ registry registry', twoDocuments.foldlM Project.addMapper .empty = .ok registry ∧
      twoDocuments.reverse.foldlM Project.addMapper .empty = .ok registry' ∧
      ofProject ⟨registry, .ofTexts twoSources, {}⟩ =
        ofProject ⟨registry', .ofTexts twoSources.reverse, {}⟩ := by
  have loadable : ∀ file ∈ twoDocuments, Project.Loadable file := by
    have read : ∀ file ∈ twoDocuments, (Mapper.read file.2).isOk = true := by
      decide +kernel
    intro file member error same
    have fine := read file member
    rw [same] at fine
    cases fine
  let registry := (twoDocuments.filterMap Project.mapperOf?).foldl Registry.insert .empty
  have loaded : twoDocuments.foldlM Project.addMapper .empty = .ok registry :=
    Project.foldlM_addMapper_iff.2 ⟨loadable, rfl⟩
  have namespaces : ((twoDocuments.filterMap Project.mapperOf?).map Mapper.ns).Nodup := by
    decide +kernel
  have types : (Source.Index.knownNames (twoSources.map Source.read)).Nodup := by
    decide +kernel
  have paths : ((Project.mk registry (.ofTexts twoSources) {}).statements.map
      StatementPath.text).Nodup := by
    rw [Project.statements, ((List.mergeSort_perm _ _).map _).nodup_iff]
    decide +kernel
  obtain ⟨registry', loaded', -, -, same⟩ :=
    rearranged twoDocuments.reverse_perm.symm twoSources.reverse_perm.symm {} loaded namespaces
      paths types
  exact ⟨registry, registry', loaded, loaded', same⟩

end Report

end SqlPreview
