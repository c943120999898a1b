import SqlPreview.Time.Reader
import SqlPreview.Types.Category
import SqlPreview.Value.Text

/-!
# Scalars from JSON

How a JSON value is read when a scalar of some kind is declared. Integers keep their low bits when
the declared width is too small. Nothing means that the value does not fit the kind at all.
-/

namespace SqlPreview

namespace Scalar

/-- The trimmed characters of a JSON string. -/
def trimmed? : Json → Option (List Char)
  | .string s => some (Text.trim s.toList)
  | _ => none

/-- An integer brought into 128 bits. -/
def clampBig (n : Int) : Int := max Value.minBig (min Value.maxBig n)

/-- The integer part of a JSON number, or the integer of at most 128 bits that a string writes. -/
def integral? : Json → Option Int
  | .number (.integer n) => some n
  | .number (.floating x) => x.truncate?.map clampBig
  | .string s => (Number.Decimal.integer? (Text.trim s.toList)).bind Value.big?
  | _ => none

def floating? : Json → Option Number.Floating
  | .number n => some n.toDouble
  | .string s => Number.Floating.read? .double (Text.trim s.toList)
  | _ => none

/-- Digits with at most one point and at least one digit, after an optional sign. -/
def isDecimalText (text : List Char) : Bool :=
  let unsigned := (Number.Decimal.splitSign text).2
  let (whole, fraction) := (Text.splitFirst? (· == '.') unsigned).getD (unsigned, [])
  !(whole.isEmpty && fraction.isEmpty) && whole.all Text.isAsciiDigit &&
    fraction.all Text.isAsciiDigit

def decimal? : Json → Option String
  | .number n => some n.text
  | .string s =>
    let text := Text.trim s.toList
    if isDecimalText text then some (String.ofList text) else none
  | _ => none

def boolean? : Json → Option Bool
  | .boolean b => some b
  | .string s =>
    match Text.trimmed s with
    | "true" => some true
    | "false" => some false
    | _ => none
  | _ => none

/-- The first character of a string. -/
def character? : Json → Option Char
  | .string s => s.toList.head?
  | _ => none

def string? : Json → Option String
  | .string s => some s
  | .number n => some n.text
  | .boolean b => some (String.ofList (Json.booleanChars b))
  | _ => none

/-- An instant, as text or as milliseconds since the start of 1970. -/
def instant? : Json → Option Instant
  | .string s => Instant.read? (Text.trim s.toList)
  | .number n => n.long?.bind Instant.ofMillis?
  | _ => none

/-- A constant of an enumeration; any name will do where the constants are not known. -/
def constant? (info : Option ClassInfo) (json : Json) : Option Value := do
  let name ← trimmed? json
  let name := String.ofList name
  match info with
  | none => some (.constant "" name)
  | some info =>
    if info.constants.isEmpty || info.constants.contains name then
      some (.constant info.name name)
    else none

/-- The value of a scalar kind that JSON gives. -/
def read? (json : Json) (kind : ScalarKind) (info : Option ClassInfo) : Option Value :=
  match kind with
  | .boolean => (boolean? json).map .boolean
  | .byte => (integral? json).map fun n => .byte (Int8.ofInt n)
  | .short => (integral? json).map fun n => .short (Int16.ofInt n)
  | .int => (integral? json).map fun n => .int (Int32.ofInt n)
  | .long => (integral? json).map fun n => .long (Int64.ofInt n)
  | .bigInteger => (integral? json).map .bigInteger
  | .float => (floating? json).map fun x => .float (x.convert .single)
  | .double => (floating? json).map .double
  | .bigDecimal => (decimal? json).map .decimal
  | .character => (character? json).map .character
  | .string => (string? json).map .string
  | .date => (instant? json).map .date
  | .localDate => ((trimmed? json).bind Date.read?).map .localDate
  | .localDateTime => ((trimmed? json).bind DateTime.read?).map .localDateTime
  | .localTime => ((trimmed? json).bind TimeOfDay.read?).map .localTime
  | .uuid => ((trimmed? json).bind Uuid.read?).map .uuid
  | .enumeration => constant? info json
  | .object => some (.ofJson json)

end Scalar

end SqlPreview
