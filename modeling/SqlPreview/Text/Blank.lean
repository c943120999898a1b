import SqlPreview.Text.Ranges

/-!
# White space

The `White_Space` property of Unicode, and the cuts that depend on it: trimming a text and
splitting it into words.
-/

namespace SqlPreview.Text

/-- The characters with the `White_Space` property. -/
def blanks : Ranges :=
  [(0x9, 0xD), (0x20, 0x20), (0x85, 0x85), (0xA0, 0xA0), (0x1680, 0x1680), (0x2000, 0x200A),
   (0x2028, 0x2029), (0x202F, 0x202F), (0x205F, 0x205F), (0x3000, 0x3000)]

/-- A character of white space. -/
def isBlank (c : Char) : Bool := blanks.holds c

/-- A text without the white space at its start. -/
def trimStart (text : List Char) : List Char := text.dropWhile isBlank

/-- A text without the white space at its end. -/
def trimEnd (text : List Char) : List Char := (text.reverse.dropWhile isBlank).reverse

/-- A text without the white space at both ends. -/
def trim (text : List Char) : List Char := trimEnd (trimStart text)

/-- The maximal runs of characters that are not white space, in order. -/
def words (text : List Char) : List (List Char) :=
  match text with
  | [] => []
  | c :: rest =>
    if isBlank c then words rest
    else (c :: rest.takeWhile fun d => !isBlank d) :: words (rest.dropWhile fun d => !isBlank d)
termination_by text.length
decreasing_by
  · simp
  · have := (List.dropWhile_sublist (fun d => !isBlank d) (l := rest)).length_le
    simp only [List.length_cons]
    omega

/-- `trim` on a string. -/
def trimmed (text : String) : String := String.ofList (trim text.toList)

example : trim " a b\u3000".toList = ['a', ' ', 'b'] := by decide +kernel

end SqlPreview.Text
