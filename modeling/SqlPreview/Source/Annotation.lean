import SqlPreview.Source.Quoting
import SqlPreview.Taken
import SqlPreview.Text.Letter

/-!
# Annotations in source text

An annotation is an at sign, a dotted name and perhaps arguments in parentheses.
-/

namespace SqlPreview.Source

/-- A character of the name of an annotation. -/
def isAnnotationChar (c : Char) : Bool :=
  Text.isAlphanumeric c || c == '_' || c == '$' || c == '.'

/-- The text after an annotation, given what follows its at sign. Parentheses that are never
closed are no arguments. -/
def annotationRest (text : List Char) : List Char :=
  let after := text.dropWhile isAnnotationChar
  match Text.trimStart after with
  | '(' :: arguments =>
    match splitParens? arguments with
    | some (_, rest) => rest
    | none => after
  | _ => after

theorem length_annotationRest_le (text : List Char) :
    (annotationRest text).length ≤ text.length := by
  have named := length_dropWhile_le isAnnotationChar text
  have trimmed := length_dropWhile_le Text.isBlank (text.dropWhile isAnnotationChar)
  unfold annotationRest
  simp only
  split
  · rename_i arguments same
    rw [Text.trimStart] at same
    rw [same, List.length_cons] at trimmed
    split
    · rename_i inside rest found
      have := length_splitClosing?_lt found
      omega
    · exact named
  · exact named

/-- A text without its annotations. -/
def stripAnnotations (text : List Char) : List Char :=
  match text with
  | [] => []
  | c :: rest =>
    if c == '@' then stripAnnotations (annotationRest rest) else c :: stripAnnotations rest
termination_by text.length
decreasing_by
  · have := length_annotationRest_le rest
    simp only [List.length_cons]; omega
  · simp

/-- A text without the white space and the annotations at its start. -/
def afterLeadingAnnotations (text : List Char) : List Char :=
  match _h : Text.trimStart text with
  | '@' :: rest => afterLeadingAnnotations (annotationRest rest)
  | trimmed => trimmed
termination_by text.length
decreasing_by
  have := length_annotationRest_le rest
  have := length_dropWhile_le Text.isBlank text
  rw [← Text.trimStart, _h, List.length_cons] at this
  omega

example : stripAnnotations "@A(\")\") int @b.C x".toList = " int  x".toList := by decide +kernel

end SqlPreview.Source
