import SqlPreview.Text.Cut

/-!
# File paths

Paths are texts with slashes. Joining two of them only puts one behind the other; a step up and the
last name of a path look at its parts, of which empty ones and single points count for nothing.
-/

namespace SqlPreview.Path

def isAbsolute (path : String) : Bool := path.toList.head? == some '/'

/-- A path inside another one. An absolute path stays as it is. -/
def join (base path : String) : String :=
  if isAbsolute path then path
  else if base.isEmpty || base.toList.getLast? == some '/' then base ++ path
  else base ++ "/" ++ path

/-- The parts of a path between its slashes. -/
def parts (path : String) : List String := (Text.splitOn '/' path.toList).map String.ofList

/-- A part that counts for nothing. -/
def isEmptyPart (part : List Char) : Bool := part.isEmpty || part == ['.']

/-- A reversed path without the parts at its end that count for nothing, as long as another one is
before them. -/
def dropEmptyParts (reversed : List Char) : List Char :=
  match _h : Text.splitFirst? (· == '/') reversed with
  | some (part, before) =>
    if isEmptyPart part && !before.isEmpty then dropEmptyParts before else reversed
  | none => reversed
termination_by reversed.length
decreasing_by exact Text.length_splitFirst?_lt _h

/-- The last name in a path, unless it leads up. -/
def fileName? (path : String) : Option String :=
  let reversed := dropEmptyParts path.toList.reverse
  let name := (reversed.takeWhile (· != '/')).reverse
  if isEmptyPart name || name == ['.', '.'] then none else some (String.ofList name)

/-- The part of the last name after its last point, if a name is left before it. -/
def extension? (path : String) : Option String := do
  let name ← fileName? path
  let (stem, extension) ← Text.splitLast? (· == '.') name.toList
  if stem.isEmpty then none else some (String.ofList extension)

/-- The path one step up. Nothing is above the root, and nothing above the empty path. -/
def parent? (path : String) : Option String :=
  let reversed := dropEmptyParts path.toList.reverse
  match Text.splitFirst? (· == '/') reversed with
  | some (part, []) => if isEmptyPart part then none else some "/"
  | some (_, before) => some (String.ofList (dropEmptyParts before).reverse)
  | none => if reversed.isEmpty then none else some ""

example : join "a/b" "c" = "a/b/c" ∧ join "a/" "/c" = "/c" := by decide +kernel
example : parent? "a/b/./" = some "a" ∧ parent? "/" = none := by decide +kernel
example : extension? "a/.xml" = none ∧ extension? "a/b.x.xml/." = some "xml" := by decide +kernel

end SqlPreview.Path
