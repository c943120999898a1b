import SqlPreview.Project.Report

/-!
# Command line

Reads the files of the project that the current directory is in, and runs one command on them.
-/

namespace SqlPreview

/-! ## Files -/

/-- The files and directories under a path. Files that are no text count as empty. -/
partial def readTree (path : String) : IO FileTree := do
  match ← (IO.FS.readFile path).toBaseIO with
  | .ok content => return .file content
  | .error _ =>
    match ← (System.mkFilePath [path]).readDir.toBaseIO with
    | .error _ => return .file ""
    | .ok entries =>
      let inside ← entries.toList.mapM fun entry => do
        let tree ← readTree (Path.join path entry.fileName)
        return (entry.fileName, tree)
      return .directory inside

/-- A tree of the whole disk with what is under a path, if anything is there. -/
def mount (tree : FileTree) (path : String) : IO FileTree := do
  match ← (IO.FS.realPath path).toBaseIO with
  | .error _ => return tree
  | .ok real =>
    let parts := (Path.parts real.toString).filter fun part => !part.isEmpty
    let inside ← readTree path
    return tree.insert parts inside

/-- The directory and all directories above it. -/
def ancestors (steps : Nat) (directory : String) : List String :=
  match steps with
  | 0 => [directory]
  | steps + 1 =>
    match Path.parent? directory with
    | some parent => directory :: ancestors steps parent
    | none => [directory]

/-- The paths that a configuration reads, if it can be read itself. -/
def configuredPaths (disk : Disk) (directory : String) : List String :=
  match (disk.content? (Path.join directory configFile)).bind fun content =>
    (Toml.read? content).bind Config.ofToml? with
  | some config =>
    let config := config.inDirectory directory
    config.mappers :: config.sources
  | none => []

/-- The part of the disk that a project in a directory needs. -/
def readDisk (start : String) : IO Disk := do
  let mut tree := FileTree.directory []
  for directory in ancestors start.length start do
    tree ← mount tree (Path.join directory configFile)
  match Config.nearest? ⟨"", tree⟩ start.length start with
  | none => return ⟨"", tree⟩
  | some directory =>
    for path in configuredPaths ⟨"", tree⟩ directory do
      tree ← mount tree path
    return ⟨"", tree⟩

/-! ## Commands -/

inductive Command where
  | init
  | check
  | run
  | template (path : StatementPath)
  | sql (path : StatementPath) (payload : String)
  | sqlFromFile (path : StatementPath) (file : String)

def Command.ofArgs? : List String → Option Command
  | ["init"] => some .init
  | ["check"] => some .check
  | ["run"] => some .run
  | ["template", path] => some (.template (.read path))
  | ["sql", path] => some (.sql (.read path) "")
  | ["sql", path, "--params", payload] => some (.sql (.read path) payload)
  | ["sql", path, "--params-file", file] => some (.sqlFromFile (.read path) file)
  | _ => none

/-- The configuration that a new project begins with. -/
def exampleConfig : String :=
  "version = \"1.0\"\n\n[mappers]\npath = \"src/main/resources/mappers/\"\n\n" ++
  "[sources]\npaths = [\"src/main/java/\"]\n\n" ++
  "[output]\npath = \"target/batislens.json\"\npretty = true\n\n" ++
  "[engine]\nmax_depth = 64\nmax_foreach_iterations = 10000\nstrict_includes = false\n"

def usage : String :=
  "usage: batislens init | check | run | template STATEMENT | " ++
  "sql STATEMENT [--params JSON | --params-file FILE]"

/-- Prints a failure, and the code that the program ends with. -/
def fail (report : String) : IO UInt32 := do
  IO.eprintln ("✖ " ++ report)
  return 1

/-- Prints an answer, or the report of a failure. -/
def printed {ε : Type} (report : ε → String) : Except ε String → IO UInt32
  | .ok text => do
    IO.println text
    return 0
  | .error error => fail (report error)

/-- Asks about the statements of a project. -/
def ask (disk : Disk) (config : Config) (question : Previewer → Except PreviewError String) :
    IO UInt32 :=
  match Project.load disk config with
  | .ok project => printed PreviewError.report (question project.previewer)
  | .error error => fail error.report

/-- Writes the output file, and makes the directories on the way to it. -/
def writeOutput (path text : String) : IO Unit := do
  match Path.parent? path with
  | some parent => IO.FS.createDirAll parent
  | none => pure ()
  IO.FS.writeFile path text

def execute (disk : Disk) (config : Config) : Command → IO UInt32
  | .init => return 0
  | .check =>
    printed ProjectError.report ((Project.check disk config).map fun report =>
      "  ➜ All " ++ natText report.size ++ " statements rendered")
  | .run =>
    match Project.run disk config with
    | .error error => fail error.report
    | .ok (report, text) => do
      writeOutput config.output text
      IO.println ("  ➜ Wrote " ++ natText report.size ++ " statements to " ++ config.output)
      let failed := report.failures.length
      if 0 < failed then
        IO.println ("  ✖ " ++ natText failed ++ " statements failed to render")
      return 0
  | .template path => ask disk config fun previewer => (previewer.template path).map Json.indented
  | .sql path payload => ask disk config fun previewer => previewer.sql path payload
  | .sqlFromFile path file => do
    let payload ← IO.FS.readFile file
    ask disk config fun previewer => previewer.sql path payload

/-- Makes the configuration of a new project, unless there is one. -/
def makeConfig (directory : String) : IO UInt32 := do
  let path := Path.join directory configFile
  let disk ← mount (.directory []) path
  if Disk.has ⟨"", disk⟩ path then IO.println ("Config file already exists at " ++ path)
  else
    IO.FS.writeFile path exampleConfig
    IO.println ("Created " ++ configFile)
  return 0

end SqlPreview

open SqlPreview

def main (args : List String) : IO UInt32 := do
  let here := (← IO.currentDir).toString
  match Command.ofArgs? args with
  | none => fail usage
  | some .init => makeConfig here
  | some command =>
    let disk ← readDisk here
    match Config.find disk here with
    | .error error => fail error.report
    | .ok (config, _) => execute disk config command
