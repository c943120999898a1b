import SqlPreview.Value.Basic
import SqlPreview.Json.Reader
import SqlPreview.Json.Printer

/-!
# Values as text

Three written forms of a value: its plain text, its SQL literal, and its JSON. A literal quotes
everything but numbers, booleans and nothing at all.
-/

namespace SqlPreview

namespace Value

def intChars (n : Int) : List Char :=
  (if n < 0 then ['-'] else []) ++ Text.decimalDigits n.natAbs

mutual

/-- The plain text of a value. -/
def chars : Value → List Char
  | .null => ['n', 'u', 'l', 'l']
  | .boolean b => Json.booleanChars b
  | .character c => [c]
  | .byte n => intChars n.toInt
  | .short n => intChars n.toInt
  | .int n => intChars n.toInt
  | .long n => intChars n.toInt
  | .float x => Number.Layout.plain.text (x.convert .double)
  | .double x => Number.Layout.plain.text x
  | .bigInteger n => intChars n
  | .decimal text => text.toList
  | .number n => n.chars
  | .string s => s.toList
  | .date t => t.chars
  | .localDate d => d.chars
  | .localDateTime t => t.chars
  | .localTime t => t.chars
  | .uuid u => u.chars
  | .constant _ name => name.toList
  | .sequence _ items => '[' :: itemsChars items ++ [']']
  | .map fields => '{' :: fieldsChars fields ++ ['}']

/-- Members of a sequence, separated by a comma and a space. -/
def itemsChars : List Value → List Char
  | [] => []
  | [item] => item.chars
  | item :: next :: rest => item.chars ++ ',' :: ' ' :: itemsChars (next :: rest)

/-- Entries of a map, each a name, an equals sign and a value. -/
def fieldsChars : List (String × Value) → List Char
  | [] => []
  | [(name, value)] => name.toList ++ '=' :: value.chars
  | (name, value) :: next :: rest =>
    name.toList ++ '=' :: value.chars ++ ',' :: ' ' :: fieldsChars (next :: rest)

end

/-- The plain text of a value. -/
def text (v : Value) : String := String.ofList v.chars

/-- A text in single quotes, the quotes inside it doubled. -/
def quoteSql (text : List Char) : List Char :=
  '\'' :: text.flatMap (fun c => if c == '\'' then ['\'', '\''] else [c]) ++ ['\'']

/-- Values that a literal writes without quotes. -/
def isBare : Value → Bool
  | .null | .boolean _ => true
  | v => v.isNumeric

/-- The SQL literal of a value. -/
def sqlChars (v : Value) : List Char :=
  match v with
  | .null => ['N', 'U', 'L', 'L']
  | v => if v.isBare then v.chars else quoteSql v.chars

def sqlLiteral (v : Value) : String := String.ofList v.sqlChars

/-- A floating number in JSON, which has no infinities. -/
def floatingJson (x : Number.Floating) : Json :=
  if x.isFinite then .number (.floating x) else .null

mutual

/-- The JSON of a value. An integer beyond 64 bits and a decimal that is no JSON number become
strings. -/
def toJson : Value → Json
  | .null => .null
  | .boolean b => .boolean b
  | .byte n => .number (.integer n.toInt)
  | .short n => .number (.integer n.toInt)
  | .int n => .number (.integer n.toInt)
  | .long n => .number (.integer n.toInt)
  | .bigInteger n =>
    if -0x8000000000000000 ≤ n && n < 0x8000000000000000 then .number (.integer n)
    else .string (String.ofList (intChars n))
  | .float x => floatingJson (x.convert .double)
  | .double x => floatingJson x
  | .decimal text =>
    match Json.readNumber? text with
    | some n => .number n
    | none => .string text
  | .number n => .number n
  | .sequence _ items => .array (toJsonItems items)
  | .map fields => .object (toJsonFields fields)
  | .character c => .string (String.ofList [c])
  | .string s => .string s
  | .date t => .string (String.ofList t.chars)
  | .localDate d => .string (String.ofList d.chars)
  | .localDateTime t => .string (String.ofList t.chars)
  | .localTime t => .string (String.ofList t.chars)
  | .uuid u => .string (String.ofList u.chars)
  | .constant _ name => .string name

def toJsonItems : List Value → List Json
  | [] => []
  | item :: rest => item.toJson :: toJsonItems rest

def toJsonFields : List (String × Value) → List (String × Json)
  | [] => []
  | (name, value) :: rest => (name, value.toJson) :: toJsonFields rest

end

end Value

end SqlPreview
