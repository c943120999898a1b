import SqlPreview.Project.Basic
import SqlPreview.Proofs.Dictionary
import SqlPreview.Proofs.Result

/-!
# What loading a project guarantees

A mapper is registered under its own namespace, and a namespace and an id name one statement at
most. Loading keeps both, whatever the documents hold.

This file defines the registries of which that holds (`Registry.Keyed`).

Results:
1. `Registry.keyed_of_loadMappers`: a registry that was loaded is one of them.
2. `Project.mem_statements`: what is listed are the statements that can be asked about.
3. `Project.nodup_statements`: each is listed once.
-/

namespace SqlPreview

/-! ## Files -/

theorem FileTree.listing_directory (path : String) (entries : Dict FileTree) :
    (FileTree.directory entries).listing path = (path, .directory entries) ::
      (sorted entries).flatMap fun entry => entry.2.listing (Path.join path entry.1) := by
  rw [listing]
  congr 1
  conv_rhs => rw [← List.attach_map_subtype_val (sorted entries), List.flatMap_map]

/-! ## Mappers -/

namespace Mapper

theorem nodup_define {mapper next : Mapper} {element : XmlElement}
    (once : mapper.statements.names.Nodup) (defined : define mapper element = .ok next) :
    next.statements.names.Nodup := by
  unfold define at defined
  split at defined
  · cases found : id? element with
    | error reason =>
      rw [found] at defined
      cases defined
    | ok id =>
      rw [found] at defined
      cases defined
      exact Dict.nodup_names_put once _ _
  · cases found : id? element with
    | error reason =>
      rw [found] at defined
      cases defined
    | ok id =>
      rw [found] at defined
      cases defined
      exact once
  · cases defined
    exact once

/-- No mapper has two statements with one id. -/
theorem nodup_of_read {text : String} {mapper : Mapper} (found : read text = .ok mapper) :
    mapper.statements.names.Nodup := by
  unfold read at found
  split at found
  · unfold ofElement at found
    split at found
    · cases found
    · dsimp only at found
      split at found
      · cases found
      · exact foldlM_keeps (Q := fun mapper => mapper.statements.names.Nodup)
          (fun _ _ _ _ => nodup_define) List.nodup_nil found
  · cases found

end Mapper

/-! ## Registries -/

/-- Namespaces are registered once, each with the mapper that has it, and ids are given once. -/
structure Registry.Keyed (registry : Registry) : Prop where
  once : registry.mappers.names.Nodup
  own : ∀ entry ∈ registry.mappers, entry.2.ns = entry.1
  ids : ∀ entry ∈ registry.mappers, entry.2.statements.names.Nodup

namespace Registry

theorem keyed_empty : empty.Keyed :=
  ⟨List.nodup_nil, fun _ member => (nomatch member), fun _ member => (nomatch member)⟩

theorem keyed_insert {registry : Registry} (keyed : registry.Keyed) {mapper : Mapper}
    (ids : mapper.statements.names.Nodup) : (registry.insert mapper).Keyed := by
  have once := Dict.nodup_names_put keyed.once mapper.ns mapper
  have entries : ∀ entry ∈ (registry.insert mapper).mappers,
      entry ∈ registry.mappers ∨ entry = (mapper.ns, mapper) := by
    rintro ⟨ns, other⟩ member
    have found := (Dict.get?_eq_some_iff once).2 member
    rw [Dict.get?_put] at found
    split at found
    · next same =>
      cases found
      exact .inr (by rw [same])
    · exact .inl (Dict.mem_of_get? found)
  refine ⟨once, fun entry member => ?_, fun entry member => ?_⟩
  · rcases entries entry member with old | rfl
    · exact keyed.own entry old
    · rfl
  · rcases entries entry member with old | rfl
    · exact keyed.ids entry old
    · exact ids

theorem keyed_addMapper {registry next : Registry} {file : String × String}
    (keyed : registry.Keyed) (added : Project.addMapper registry file = .ok next) : next.Keyed := by
  unfold Project.addMapper at added
  split at added
  · next found =>
    cases added
    exact keyed_insert keyed (Mapper.nodup_of_read found)
  · split at added
    · cases added
      exact keyed
    · cases added

theorem keyed_of_foldlM {files : List (String × String)} {registry : Registry}
    (loaded : files.foldlM Project.addMapper .empty = .ok registry) : registry.Keyed :=
  foldlM_keeps (fun _ _ _ _ => keyed_addMapper) keyed_empty loaded

/-- Whatever is loaded from a disk has its mappers under their own namespaces. -/
theorem keyed_of_loadMappers {disk : Disk} {path : String} {registry : Registry}
    (loaded : Project.loadMappers disk path = .ok registry) : registry.Keyed := by
  unfold Project.loadMappers at loaded
  split at loaded
  · cases found : Project.filesUnder disk "xml" path with
    | error reason =>
      rw [found] at loaded
      cases loaded
    | ok files =>
      rw [found] at loaded
      exact keyed_of_foldlM loaded
  · exact keyed_addMapper keyed_empty loaded
  · cases loaded

end Registry

theorem Project.keyed_of_load {disk : Disk} {config : Config} {project : Project}
    (loaded : Project.load disk config = .ok project) : project.registry.Keyed := by
  unfold Project.load at loaded
  cases mappers : Project.loadMappers disk config.mappers with
  | error reason =>
    rw [mappers] at loaded
    cases loaded
  | ok registry =>
    cases sources : Project.loadSources disk config.sources with
    | error reason =>
      rw [mappers, sources] at loaded
      cases loaded
    | ok index =>
      rw [mappers, sources] at loaded
      cases loaded
      exact Registry.keyed_of_loadMappers mappers

/-! ## Statements -/

namespace Project

variable {project : Project}

/-- A statement of the project: one that its previews can be asked about. -/
def Registers (project : Project) (path : StatementPath) : Prop :=
  ∃ statement, project.previewer.statement path = .ok statement

theorem registers_iff {path : StatementPath} : project.Registers path ↔
    ∃ mapper, project.registry.find? path.ns = some mapper ∧ path.id ∈ mapper.statements.names := by
  unfold Registers Previewer.statement previewer
  cases found : project.registry.find? path.ns with
  | none => simp
  | some mapper =>
    cases known : mapper.statements.get? path.id with
    | none => simp [known, Dict.get?_eq_none_iff.1 known]
    | some statement =>
      have member : path.id ∈ mapper.statements.names :=
        Dict.mem_names.2 ⟨statement, Dict.mem_of_get? known⟩
      simp [known, member]

theorem mem_mapperPaths {mapper : Mapper} {path : StatementPath} :
    path ∈ mapperPaths mapper ↔ path.ns = mapper.ns ∧ path.id ∈ mapper.statements.names := by
  obtain ⟨ns, id⟩ := path
  simp only [mapperPaths, Dict.names, List.mem_map, StatementPath.mk.injEq]
  constructor
  · rintro ⟨entry, member, rfl, rfl⟩
    exact ⟨rfl, entry, member, rfl⟩
  · rintro ⟨rfl, entry, member, rfl⟩
    exact ⟨entry, member, rfl, rfl⟩

theorem mem_statements_iff {path : StatementPath} :
    path ∈ project.statements ↔ ∃ entry ∈ project.registry.mappers, path ∈ mapperPaths entry.2 := by
  rw [statements, List.mem_mergeSort, List.mem_flatMap]

/-- What is listed are the statements of the project. -/
theorem mem_statements (keyed : project.registry.Keyed) {path : StatementPath} :
    path ∈ project.statements ↔ project.Registers path := by
  rw [mem_statements_iff, registers_iff]
  constructor
  · rintro ⟨⟨ns, mapper⟩, member, inside⟩
    obtain ⟨same, known⟩ := mem_mapperPaths.1 inside
    refine ⟨mapper, ?_, known⟩
    rw [same, keyed.own _ member]
    exact (Dict.get?_eq_some_iff keyed.once).2 member
  · rintro ⟨mapper, found, known⟩
    have member := Dict.mem_of_get? found
    exact ⟨_, member, mem_mapperPaths.2 ⟨(keyed.own _ member).symm, known⟩⟩

/-- Each statement is listed once. -/
theorem nodup_statements (keyed : project.registry.Keyed) : project.statements.Nodup := by
  rw [statements, (List.mergeSort_perm _ _).nodup_iff, List.nodup_flatMap]
  constructor
  · intro entry member
    have ids : (mapperPaths entry.2).map StatementPath.id = entry.2.statements.names := by
      rw [mapperPaths, List.map_map]
      rfl
    exact List.Nodup.of_map StatementPath.id (ids ▸ keyed.ids entry member)
  · have apart : project.registry.mappers.Pairwise fun a b => a.1 ≠ b.1 :=
      List.pairwise_map.1 keyed.once
    refine (List.Pairwise.and_mem.1 apart).imp ?_
    rintro first second ⟨member, member', differs⟩ path inside inside'
    have same : first.2.ns = second.2.ns :=
      (mem_mapperPaths.1 inside).1.symm.trans (mem_mapperPaths.1 inside').1
    rw [keyed.own _ member, keyed.own _ member'] at same
    exact differs same

end Project

end SqlPreview
