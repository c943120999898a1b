import SqlPreview.Files.Tree
import SqlPreview.Project.Error
import SqlPreview.Sql.Render
import SqlPreview.Toml.Reader

/-!
# Configuration

A project is configured by a TOML file in its root directory. It names the mapper files, the
source directories and the output file, by paths that are relative to that directory, and sets the
limits of rendering.
-/

namespace SqlPreview

structure Config where
  version : String
  mappers : String
  sources : List String
  output : String
  pretty : Bool
  options : RenderOptions
deriving DecidableEq, Repr

namespace Config

/-! ## Settings -/

/-- A setting of a section. A section may also be a list of its settings in their usual order. -/
def setting? (names : List String) (name : String) : Toml → Option Toml
  | .table _ entries => Dict.get? entries name
  | .array items | .tables items => items[names.idxOf name]?
  | _ => none

/-- Whether a value can be a section at all. -/
def isSection : Toml → Bool
  | .table _ _ | .array _ | .tables _ => true
  | _ => false

def text? : Toml → Option String
  | .string s => some s
  | _ => none

def flag? : Toml → Option Bool
  | .boolean b => some b
  | _ => none

/-- A limit is an integer that is not negative. -/
def limit? : Toml → Option Nat
  | .integer n => if 0 ≤ n then some n.toNat else none
  | _ => none

def texts? : Toml → Option (List String)
  | .array items => items.mapM text?
  | .tables items => items.mapM text?
  | _ => none

/-- A setting that may be left out, but not be given wrongly. -/
def optional {α : Type} (read : Toml → Option α) (default : α) : Option Toml → Option α
  | none => some default
  | some value => read value

/-- The settings of the engine. -/
def engine? (part : Toml) : Option RenderOptions :=
  let names := ["max_depth", "max_foreach_iterations", "strict_includes"]
  let usual : RenderOptions := {}
  if !isSection part then none
  else do
    let maxDepth ← optional limit? usual.maxDepth (setting? names "max_depth" part)
    let maxIterations ←
      optional limit? usual.maxIterations (setting? names "max_foreach_iterations" part)
    let strictIncludes ←
      optional flag? usual.strictIncludes (setting? names "strict_includes" part)
    some { maxDepth, maxIterations, strictIncludes }

/-- The source directories. -/
def sources? (part : Toml) : Option (List String) :=
  if !isSection part then none else optional texts? [] (setting? ["paths"] "paths" part)

/-- The output file, and whether it is indented. -/
def output? (part : Toml) : Option (String × Bool) :=
  let names := ["path", "pretty"]
  if !isSection part then none
  else do
    let path ← (setting? names "path" part).bind text?
    let pretty ← optional flag? true (setting? names "pretty" part)
    some (path, pretty)

/-- The configuration that a document holds, with the paths as they are written. -/
def ofToml? (document : Toml) : Option Config := do
  let section? (name : String) : Option Toml := setting? [] name document
  let version ← (section? "version").bind text?
  let mappers ← (section? "mappers").bind fun part => (setting? ["path"] "path" part).bind text?
  let sources ← optional sources? [] (section? "sources")
  let (output, pretty) ← optional output? ("target/batislens.json", true) (section? "output")
  let options ← optional engine? {} (section? "engine")
  some { version, mappers, sources, output, pretty, options }

/-! ## Loading -/

/-- The configuration with its paths inside a directory. -/
def inDirectory (config : Config) (directory : String) : Config :=
  { config with
    mappers := Path.join directory config.mappers
    sources := config.sources.map (Path.join directory)
    output := Path.join directory config.output }

/-- The configuration, if all that it reads exists and its limits allow anything. -/
def validate (disk : Disk) (config : Config) : Except ProjectError Config :=
  match (config.mappers :: config.sources).find? fun path => !disk.has path with
  | some path => .error (.invalidPath path)
  | none =>
    if config.options.maxDepth = 0 || config.options.maxIterations = 0 then .error .zeroLimit
    else .ok config

/-- The configuration in a file. -/
def load (disk : Disk) (path : String) : Except ProjectError Config :=
  match disk.content? path with
  | none => .error (.inaccessible path)
  | some content =>
    match (Toml.read? content).bind ofToml? with
    | none => .error .malformedConfig
    | some config =>
      match Path.parent? path with
      | some directory => validate disk (config.inDirectory directory)
      | none => validate disk config

/-- The nearest directory at or above another one, at most `steps` up, that has a configuration. -/
def nearest? (disk : Disk) (steps : Nat) (directory : String) : Option String :=
  if disk.has (Path.join directory configFile) then some directory
  else
    match steps with
    | 0 => none
    | steps + 1 => (Path.parent? directory).bind (nearest? disk steps)

/-- The configuration of the project that a directory is in, with the root of the project. No way
up has more steps than the path has characters. -/
def find (disk : Disk) (start : String) : Except ProjectError (Config × String) :=
  match nearest? disk start.length start with
  | none => .error (.configNotFound start)
  | some directory => do
    let config ← load disk (Path.join directory configFile)
    pure (config, directory)

end Config

end SqlPreview
