import SqlPreview.Xml.Name

/-!
# References

A reference stands for one character, by its number or by one of five names, or for an entity that
the document declares.
-/

namespace SqlPreview.Xml

inductive Reference where
  | char (c : Char)
  | entity (name : List Char)
deriving DecidableEq, Repr

/-- The characters that have a name in every document. -/
def namedChars : List (String × Char) :=
  [("quot", '"'), ("amp", '&'), ("apos", '\''), ("lt", '<'), ("gt", '>')]

/-- What a reference by name stands for. -/
def Reference.ofName (name : List Char) : Reference :=
  match namedChars.lookup (String.ofList name) with
  | some c => .char c
  | none => .entity name

/-- The character of a code point, and a replacement character where there is none. -/
def charOfCode (code : Nat) : Char := if code.isValidChar then Char.ofNat code else '\uFFFD'

/-- The character that digits of a base number, if a document may hold it. Numbers have at most 32
bits. -/
def charOfDigits? (base : Nat) (digits : List Char) : Option Char := do
  let values ← digits.mapM Text.hexValue?
  let code := values.foldl (fun n d => base * n + d) 0
  if values.isEmpty || 0x100000000 ≤ code then none
  else if isXmlChar (charOfCode code) then some (charOfCode code)
  else none

/-- A hexadecimal digit of ASCII. -/
def isHexDigit (c : Char) : Bool := (Text.hexValue? c).isSome

/-- The part of a reference between its number sign and its semicolon. -/
def charNumber? (text : List Char) : Option (Char × List Char) :=
  match text with
  | 'x' :: rest => do
    let c ← charOfDigits? 16 (rest.takeWhile isHexDigit)
    some (c, rest.dropWhile isHexDigit)
  | _ => do
    let c ← charOfDigits? 10 (text.takeWhile Text.isAsciiDigit)
    some (c, text.dropWhile Text.isAsciiDigit)

theorem length_charNumber?_le {text rest : List Char} {c : Char}
    (h : charNumber? text = some (c, rest)) : rest.length ≤ text.length := by
  unfold charNumber? at h
  split at h
  · rename_i tail
    obtain ⟨d, _, same⟩ := Option.bind_eq_some_iff.1 h
    cases same
    have := length_dropWhile_le isHexDigit tail
    simp only [List.length_cons]; omega
  · obtain ⟨d, _, same⟩ := Option.bind_eq_some_iff.1 h
    cases same
    exact length_dropWhile_le _ _

/-- A reference, given what follows its ampersand. -/
def reference? (text : List Char) : Option (Taken text Reference) :=
  match text with
  | '#' :: digits =>
    match h : charNumber? digits with
    | some (c, ';' :: rest) => some ⟨.char c, rest, by
        have := length_charNumber?_le h
        simp only [List.length_cons] at *; omega⟩
    | _ => none
  | text => do
    let name ← name? text
    match h : name.rest with
    | ';' :: rest => some ⟨.ofName name.value, rest, by
        have := name.shorter
        rw [h] at this
        simp only [List.length_cons] at this; omega⟩
    | _ => none

example : (reference? "#x41;b".toList).map Taken.value = some (.char 'A') := by decide +kernel
example : (reference? "lt;".toList).map Taken.value = some (.char '<') := by decide +kernel

end SqlPreview.Xml
