import SqlPreview.Preview.Query
import SqlPreview.Project.Config
import SqlPreview.Source.Index

/-!
# Projects

The mappers and the source files of a project, loaded from its directories.
-/

namespace SqlPreview

structure Project where
  registry : Registry
  index : Source.Index
  options : RenderOptions

namespace Project

/-- A path names a file of a kind by its extension. -/
def hasExtension (extension path : String) : Bool := Path.extension? path == some extension

/-- The files of a kind under a path, with their contents. A directory with such a name cannot be
read. -/
def filesUnder (disk : Disk) (extension path : String) :
    Except ProjectError (List (String × String)) :=
  match disk.at? path with
  | none => .error (.invalidPath path)
  | some tree =>
    ((tree.listing path).filter fun found => hasExtension extension found.1).mapM fun found =>
      match found.2 with
      | .file content => .ok (found.1, content)
      | .directory _ => .error (.inaccessible found.1)

/-- A registry with the mapper in a file. Documents that are no mappers are passed over. -/
def addMapper (registry : Registry) (file : String × String) : Except ProjectError Registry :=
  match Mapper.read file.2 with
  | .ok mapper => .ok (registry.insert mapper)
  | .error error => if error.isNotAMapper then .ok registry else .error (.mapperFile file.1 error)

/-- The mappers under a path, which may also lead to a single file. -/
def loadMappers (disk : Disk) (path : String) : Except ProjectError Registry :=
  match disk.at? path with
  | some (.directory _) => do
    let files ← filesUnder disk "xml" path
    files.foldlM addMapper .empty
  | some (.file content) => addMapper .empty (path, content)
  | none => .error (.inaccessible path)

/-- The index of the source files under some paths. -/
def loadSources (disk : Disk) (paths : List String) : Except ProjectError Source.Index := do
  let files ← paths.mapM (filesUnder disk "java")
  pure (.ofTexts (files.flatten.map Prod.snd))

/-- The project with a configuration. -/
def load (disk : Disk) (config : Config) : Except ProjectError Project := do
  let registry ← loadMappers disk config.mappers
  let index ← loadSources disk config.sources
  pure ⟨registry, index, config.options⟩

def previewer (project : Project) : Previewer :=
  ⟨project.registry, project.index.signatures, project.index.classes, project.options⟩

/-- The statements of a mapper. -/
def mapperPaths (mapper : Mapper) : List StatementPath :=
  mapper.statements.map fun entry => ⟨mapper.ns, entry.1⟩

/-- Every statement, in the order of the written paths. -/
def statements (project : Project) : List StatementPath :=
  (project.registry.mappers.flatMap fun entry => mapperPaths entry.2).mergeSort fun a b =>
    decide (a.text ≤ b.text)

end Project

end SqlPreview
