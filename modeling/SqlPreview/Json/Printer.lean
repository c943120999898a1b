import SqlPreview.Json.Basic
import SqlPreview.Number.Layout
import SqlPreview.Text.Cut

/-!
# Writing JSON

Two layouts of the same value: compact, with nothing between the tokens, and indented by two
spaces a level.
-/

namespace SqlPreview

/-- A number in JSON. -/
def JsonNumber.chars : JsonNumber → List Char
  | .integer n => (if n < 0 then ['-'] else []) ++ Text.decimalDigits n.natAbs
  | .floating x => Number.Layout.json.text x

def JsonNumber.text (n : JsonNumber) : String := String.ofList n.chars

namespace Json

/-- A digit of a hexadecimal escape. -/
def hexDigit (n : Nat) : Char := Nat.digitChar n

/-- A character inside a JSON string. -/
def escapeChar (c : Char) : List Char :=
  match c with
  | '"' => ['\\', '"']
  | '\\' => ['\\', '\\']
  | '\x08' => ['\\', 'b']
  | '\x0c' => ['\\', 'f']
  | '\n' => ['\\', 'n']
  | '\r' => ['\\', 'r']
  | '\t' => ['\\', 't']
  | c =>
    if c.toNat < 0x20 then ['\\', 'u', '0', '0', hexDigit (c.toNat / 16), hexDigit (c.toNat % 16)]
    else [c]

/-- A string in quotes. -/
def quoted (s : String) : List Char := '"' :: s.toList.flatMap escapeChar ++ ['"']

def booleanChars (b : Bool) : List Char :=
  if b then ['t', 'r', 'u', 'e'] else ['f', 'a', 'l', 's', 'e']

mutual

/-- The compact form of a value. -/
def compactChars : Json → List Char
  | .null => ['n', 'u', 'l', 'l']
  | .boolean b => booleanChars b
  | .number n => n.chars
  | .string s => quoted s
  | .array items => '[' :: compactItems items ++ [']']
  | .object fields => '{' :: compactFields fields ++ ['}']

def compactItems : List Json → List Char
  | [] => []
  | [item] => compactChars item
  | item :: next :: rest => compactChars item ++ ',' :: compactItems (next :: rest)

def compactFields : List (String × Json) → List Char
  | [] => []
  | [(name, value)] => quoted name ++ ':' :: compactChars value
  | (name, value) :: next :: rest =>
    quoted name ++ ':' :: compactChars value ++ ',' :: compactFields (next :: rest)

end

/-- A line break and the indentation of a level. -/
def lineBreak (level : Nat) : List Char := '\n' :: List.replicate (2 * level) ' '

mutual

/-- The indented form of a value that stands at a level. -/
def indentedChars (level : Nat) : Json → List Char
  | .array (item :: items) =>
    '[' :: indentedItems (level + 1) (item :: items) ++ lineBreak level ++ [']']
  | .object (field :: fields) =>
    '{' :: indentedFields (level + 1) (field :: fields) ++ lineBreak level ++ ['}']
  | .array [] => ['[', ']']
  | .object [] => ['{', '}']
  | .null => ['n', 'u', 'l', 'l']
  | .boolean b => booleanChars b
  | .number n => n.chars
  | .string s => quoted s

def indentedItems (level : Nat) : List Json → List Char
  | [] => []
  | [item] => lineBreak level ++ indentedChars level item
  | item :: next :: rest =>
    lineBreak level ++ indentedChars level item ++ ',' :: indentedItems level (next :: rest)

def indentedFields (level : Nat) : List (String × Json) → List Char
  | [] => []
  | [(name, value)] =>
    lineBreak level ++ quoted name ++ ':' :: ' ' :: indentedChars level value
  | (name, value) :: next :: rest =>
    lineBreak level ++ quoted name ++ ':' :: ' ' :: indentedChars level value ++
      ',' :: indentedFields level (next :: rest)

end

/-- The compact text of a value. -/
def compact (json : Json) : String := String.ofList json.compactChars

/-- The indented text of a value. -/
def indented (json : Json) : String := String.ofList (indentedChars 0 json)

end Json

end SqlPreview
