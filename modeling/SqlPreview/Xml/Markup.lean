import SqlPreview.Xml.Name

/-!
# Comments, instructions and attributes

Markup that needs to know nothing about the rest of the document.
-/

namespace SqlPreview.Xml

/-- Text that a document may hold. -/
def isXmlText (text : List Char) : Bool := text.all isXmlChar

/-- The text of a comment has no two hyphens in a row, and does not end in one. -/
def isCommentText (text : List Char) : Bool :=
  isXmlText text && (Text.indexOf? ['-', '-'] text).isNone && text.getLast? != some '-'

def comment? (text : List Char) : Option (Taken text XmlNode) := do
  let opened ← after? "<!--".toList text
  let body ← upTo? "-->".toList opened.rest
  if isCommentText body.value then
    some ((body.map fun s => .comment (String.ofList s)).widen opened.within)
  else none

/-- A processing instruction. An XML declaration is none. -/
def instruction? (text : List Char) : Option (Taken text XmlNode) :=
  if "<?xml ".toList.isPrefixOf text then none
  else do
    let opened ← after? "<?".toList text
    let target ← name? opened.rest
    let content ← upTo? "?>".toList (skipSpaces target.rest)
    if isXmlText content.value then
      some ⟨.instruction (String.ofList target.value) (String.ofList content.value), content.rest, by
        have := opened.shorter; have := target.shorter; have := content.shorter
        have := length_skipSpaces_le target.rest; omega⟩
    else none

/-- A character that may stand in an attribute value between `quote` characters. -/
def isValueChar (quote c : Char) : Bool := c != quote && c != '<'

/-- The closing quote stands behind the value, which stands behind its opening quote. -/
theorem length_afterValue_lt {quote close : Char} {text value rest : List Char}
    (opened : text = quote :: value)
    (closed : value.dropWhile (isValueChar quote) = close :: rest) : rest.length < text.length := by
  have within := length_dropWhile_le (isValueChar quote) value
  rw [closed, List.length_cons] at within
  rw [opened, List.length_cons]
  exact Nat.lt_succ_of_le (Nat.le_of_succ_le within)

/-- An attribute with its value as it is written, references included. -/
def attribute? (text : List Char) : Option (Taken text (XmlName × List Char)) := do
  let name ← qualifiedName? text
  let equals ← equals? name.rest
  match h : equals.rest with
  | quote :: value =>
    let body := value.takeWhile (isValueChar quote)
    if (quote == '"' || quote == '\'') && isXmlText body then
      match g : value.dropWhile (isValueChar quote) with
      | close :: rest =>
        if close == quote then
          some ⟨(name.value, body), rest,
            Nat.lt_trans (length_afterValue_lt h g) (Nat.lt_trans equals.shorter name.shorter)⟩
        else none
      | [] => none
    else none
  | [] => none

end SqlPreview.Xml
