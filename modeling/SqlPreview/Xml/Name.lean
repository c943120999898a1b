import SqlPreview.Taken
import SqlPreview.Text.Cut
import SqlPreview.Text.Letter
import SqlPreview.Xml.Basic

/-!
# Characters and names of XML

Which characters a document may hold at all, which of them make names, and how names are read.
-/

namespace SqlPreview.Xml

/-- White space between the parts of markup. -/
def isSpace (c : Char) : Bool := c == ' ' || c == '\t' || c == '\n' || c == '\r'

/-- A character that a document may hold. -/
def isXmlChar (c : Char) : Bool :=
  if c.toNat < 0x20 then isSpace c else c.toNat != 0xFFFE && c.toNat != 0xFFFF

/-- The characters beyond ASCII that may begin a name. -/
def nameStartRanges : Text.Ranges :=
  [(0xC0, 0xD6), (0xD8, 0xF6), (0xF8, 0x2FF), (0x370, 0x37D), (0x37F, 0x1FFF), (0x200C, 0x200D),
   (0x2070, 0x218F), (0x2C00, 0x2FEF), (0x3001, 0xD7FF), (0xF900, 0xFDCF), (0xFDF0, 0xFFFD),
   (0x10000, 0xEFFFF)]

/-- The characters beyond ASCII that may only continue a name. -/
def nameMoreRanges : Text.Ranges := [(0xB7, 0xB7), (0x300, 0x36F), (0x203F, 0x2040)]

/-- A character that may begin a name. -/
def isNameStart (c : Char) : Bool :=
  Text.isAsciiLetter c || c == ':' || c == '_' || nameStartRanges.holds c

/-- A character that names are made of. -/
def isNameChar (c : Char) : Bool :=
  isNameStart c || Text.isAsciiDigit c || c == '-' || c == '.' || nameMoreRanges.holds c

def skipSpaces (text : List Char) : List Char := text.dropWhile isSpace

theorem length_skipSpaces_le (text : List Char) : (skipSpaces text).length ≤ text.length :=
  length_dropWhile_le isSpace text

/-- A name, in which colons have no meaning of their own. -/
def name? (text : List Char) : Option (Taken text (List Char)) :=
  match text with
  | [] => none
  | c :: rest =>
    if isNameStart c then
      some ⟨c :: rest.takeWhile isNameChar, rest.dropWhile isNameChar,
        Nat.lt_succ_of_le (length_dropWhile_le _ _)⟩
    else none

/-- A name part may begin like a name, and is not empty. -/
def isNamePart (part : List Char) : Bool :=
  match part with
  | [] => false
  | c :: _ => isNameStart c

/-- The qualified name that some name characters are: at most one colon, and no empty name behind
it. The qualifier may be empty. -/
def qualified? (chars : List Char) : Option XmlName :=
  match Text.splitOn ':' chars with
  | [simple] => if isNamePart simple then some ⟨"", String.ofList simple⟩ else none
  | [qualifier, simple] =>
    if (qualifier.isEmpty || isNamePart qualifier) && isNamePart simple then
      some ⟨String.ofList qualifier, String.ofList simple⟩
    else none
  | _ => none

/-- A qualified name. -/
def qualifiedName? (text : List Char) : Option (Taken text XmlName) :=
  match text with
  | [] => none
  | c :: rest =>
    if isNameChar c then do
      let name ← qualified? (c :: rest.takeWhile isNameChar)
      some ⟨name, rest.dropWhile isNameChar, Nat.lt_succ_of_le (length_dropWhile_le _ _)⟩
    else none

/-- The text after `start`, which is not empty. -/
def after? (start text : List Char) : Option (Taken text Unit) :=
  match start with
  | [] => none
  | c :: more =>
    match h : Text.dropStart? (c :: more) text with
    | some rest => some ⟨(), rest, Text.length_dropStart?_lt h⟩
    | none => none

/-- The text up to `stop`, which is not empty, and what follows it. -/
def upTo? (stop : List Char) (text : List Char) : Option (Taken text (List Char)) :=
  match text with
  | [] => none
  | c :: rest =>
    match after? stop (c :: rest) with
    | some found => some (found.map fun _ => [])
    | none => (upTo? stop rest).map fun taken =>
        (taken.map fun before => c :: before).widen (by simp)

/-- A quoted literal without any markup inside. -/
def quoted? (text : List Char) : Option (Taken text (List Char)) :=
  match text with
  | [] => none
  | quote :: rest =>
    if quote == '"' || quote == '\'' then
      (upTo? [quote] rest).map fun taken => taken.widen (length_le_cons quote rest)
    else none

/-- The text after an equals sign with optional white space around it. -/
def equals? (text : List Char) : Option (Taken text Unit) :=
  match h : skipSpaces text with
  | '=' :: rest =>
    have mark : rest.length < text.length := by
      have := length_skipSpaces_le text
      rw [h] at this
      exact this
    some ⟨(), skipSpaces rest, Nat.lt_of_le_of_lt (length_skipSpaces_le rest) mark⟩
  | _ => none

/-- The text after white space that has to be there. -/
def spaces? (text : List Char) : Option (Taken text Unit) :=
  match text with
  | [] => none
  | c :: rest =>
    if isSpace c then
      some ⟨(), skipSpaces rest, by
        have := length_skipSpaces_le rest
        simp only [List.length_cons]; omega⟩
    else none

end SqlPreview.Xml
