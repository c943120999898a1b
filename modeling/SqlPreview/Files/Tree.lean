import SqlPreview.Dict
import SqlPreview.Files.Path

/-!
# File trees

Directories with files and further directories. A tree is reached under one path, its home.
-/

namespace SqlPreview

inductive FileTree where
  | file (content : String)
  | directory (entries : List (String × FileTree))

instance : Inhabited FileTree := ⟨.directory []⟩

namespace FileTree

/-- The directory with nothing in it. -/
def empty : FileTree := .directory []

def isDirectory : FileTree → Bool
  | .file _ => false
  | .directory _ => true

/-- The entries of a directory; a file has none. -/
def entries : FileTree → Dict FileTree
  | .file _ => []
  | .directory entries => entries

/-- The file or directory behind some parts of a path, from a directory on, with the directories
above it. Only a directory can be gone through or left. -/
def walk? (above : List FileTree) (here : FileTree) : List String → Option FileTree
  | [] => some here
  | part :: rest =>
    if !here.isDirectory then none
    else if part.isEmpty || part == "." then walk? above here rest
    else if part == ".." then
      match above with
      | parent :: further => walk? further parent rest
      | [] => none
    else
      match here.entries.get? part with
      | some inside => walk? (here :: above) inside rest
      | none => none

/-- The directories from which parts of a path lead on, as if every name that is missing were an
empty directory. Files are in the way. -/
def walkMaking? (above : List FileTree) (here : FileTree) : List String → Option (List FileTree)
  | [] => if here.isDirectory then some (here :: above) else none
  | part :: rest =>
    if !here.isDirectory then none
    else if part.isEmpty || part == "." then walkMaking? above here rest
    else if part == ".." then
      match above with
      | parent :: further => walkMaking? further parent rest
      | [] => none
    else walkMaking? (here :: above) ((here.entries.get? part).getD empty) rest

/-- Puts something into a tree, making the directories on the way to it. -/
def insert (tree : FileTree) (parts : List String) (leaf : FileTree) : FileTree :=
  match parts with
  | [] => leaf
  | part :: rest =>
    let inside := (tree.entries.get? part).getD empty
    .directory (tree.entries.put part (insert inside rest leaf))

/-- Entries in the order of their names. -/
def sorted (entries : Dict FileTree) : Dict FileTree :=
  entries.mergeSort fun a b => decide (a.1 ≤ b.1)

theorem sizeOf_lt_of_mem_sorted {entries : Dict FileTree} {name : String} {tree : FileTree}
    (h : (name, tree) ∈ sorted entries) : sizeOf tree < sizeOf entries := by
  have mem : (name, tree) ∈ entries := List.mem_mergeSort.1 h
  have := List.sizeOf_lt_of_mem mem
  simp only [Prod.mk.sizeOf_spec] at this
  omega

/-- A tree under a path and everything in it, each with its path: a directory before its entries,
and entries in the order of their names. -/
def listing (path : String) : FileTree → List (String × FileTree)
  | .file content => [(path, .file content)]
  | .directory entries =>
    (path, .directory entries) ::
      (sorted entries).attach.flatMap fun ⟨(name, tree), _h⟩ => listing (Path.join path name) tree
termination_by tree => sizeOf tree
decreasing_by
  have := sizeOf_lt_of_mem_sorted _h
  simp only [FileTree.directory.sizeOf_spec]
  omega

end FileTree

/-- A file tree and the path under which it is reached. -/
structure Disk where
  home : String
  tree : FileTree

namespace Disk

/-- What a path leads to. Only paths that begin with the home lead anywhere. -/
def at? (disk : Disk) (path : String) : Option FileTree :=
  match Text.dropStart? disk.home.toList path.toList with
  | some [] => some disk.tree
  | some ('/' :: rest) => disk.tree.walk? [] (Path.parts (String.ofList rest))
  | _ => none

/-- A file can be written where the way to it can be made and no directory has its name. -/
def canWrite (disk : Disk) (path : String) : Bool :=
  match Text.dropStart? disk.home.toList path.toList with
  | some ('/' :: rest) =>
    let parts := Path.parts (String.ofList rest)
    let name := parts.getLastD ""
    if name.isEmpty || name == "." || name == ".." then false
    else
      match disk.tree.walkMaking? [] parts.dropLast with
      | some (here :: _) => !((here.entries.get? name).any FileTree.isDirectory)
      | _ => false
  | _ => false

def has (disk : Disk) (path : String) : Bool := (disk.at? path).isSome

/-- The content of the file that a path leads to. -/
def content? (disk : Disk) (path : String) : Option String :=
  match disk.at? path with
  | some (.file content) => some content
  | _ => none

end Disk

end SqlPreview
