import SqlPreview.Taken
import SqlPreview.Text.Cut
import SqlPreview.Text.Letter

/-!
# Words of source text

Keywords and names, and where in a text they may begin.
-/

namespace SqlPreview.Source

/-- What a name may hold behind its first character. -/
def isNameChar (c : Char) : Bool := Text.isWordChar c || c == '$'

/-- The name at the front of a text. -/
def name? (text : List Char) : Option (Taken text (List Char)) :=
  match text with
  | [] => none
  | c :: rest =>
    if Text.isIdentStart c then
      some ⟨c :: rest.takeWhile isNameChar, rest.dropWhile isNameChar,
        Nat.lt_succ_of_le (length_dropWhile_le _ _)⟩
    else none

/-- The text after a word with white space behind it. -/
def keyword? (word : String) (text : List Char) : Option (Taken text Unit) :=
  match h : Text.dropStart? word.toList text with
  | some (c :: rest) =>
    if Text.isBlank c then
      some ⟨(), Text.trimStart rest, by
        have same := Text.dropStart?_eq_some.1 h
        have : (Text.trimStart rest).length ≤ rest.length := length_dropWhile_le _ _
        rw [same]
        simp only [List.length_append, List.length_cons]; omega⟩
    else none
  | _ => none

/-- Everything of one kind in a text, read from left to right. It is looked for where no word goes
on, and again behind each find. -/
def occurrences {α : Type} (find : (previous : Option Char) → (text : List Char) → Option (Taken text α))
    (previous : Option Char) (text : List Char) : List α :=
  match text with
  | [] => []
  | c :: rest =>
    match if previous.any Text.isWordChar then none else find previous (c :: rest) with
    | some taken => taken.value :: occurrences find none taken.rest
    | none => occurrences find (some c) rest
termination_by text.length
decreasing_by
  · exact taken.shorter
  · simp

end SqlPreview.Source
