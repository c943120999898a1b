import SqlPreview.Text.Blank

/-!
# Layout of SQL

The last pass over rendered SQL: runs of white space become one space, and no space is left behind
an opening parenthesis, before a closing one, before a comma, or at the ends.
-/

namespace SqlPreview.Layout

/-- Every run of white space as one space. -/
def collapse (text : List Char) : List Char :=
  match text with
  | [] => []
  | c :: rest =>
    if Text.isBlank c then ' ' :: collapse (rest.dropWhile Text.isBlank) else c :: collapse rest
termination_by text.length
decreasing_by
  · have := (List.dropWhile_sublist Text.isBlank (l := rest)).length_le
    simp only [List.length_cons]
    omega
  · simp

/-- No space behind an opening parenthesis. -/
def tightenOpen : List Char → List Char
  | '(' :: ' ' :: rest => '(' :: tightenOpen rest
  | c :: rest => c :: tightenOpen rest
  | [] => []

/-- No space before a mark. -/
def tightenBefore (mark : Char) : List Char → List Char
  | ' ' :: c :: rest =>
    if c == mark then c :: tightenBefore mark rest else ' ' :: tightenBefore mark (c :: rest)
  | c :: rest => c :: tightenBefore mark rest
  | [] => []

/-- SQL in its final layout. -/
def format (sql : List Char) : List Char :=
  Text.trim (tightenBefore ',' (tightenBefore ')' (tightenOpen (collapse sql))))

example : format "\n id ,\n IN ( 1 , 2 ) ".toList = "id, IN (1, 2)".toList := by decide +kernel

end SqlPreview.Layout
