import SqlPreview.Json.Basic
import SqlPreview.Time.Calendar
import SqlPreview.Value.Uuid

/-!
# Parameter values

What a statement receives for its parameters. Numbers keep the width that was declared for them;
a number for which no type is known stays a JSON number. Lists, sets and arrays differ in name
only.
-/

namespace SqlPreview

/-- The three kinds of sequence. -/
inductive Sequence where
  | list
  | set
  | array
deriving DecidableEq, Repr

inductive Value where
  | null
  | boolean (b : Bool)
  | character (c : Char)
  | byte (n : Int8)
  | short (n : Int16)
  | int (n : Int32)
  | long (n : Int64)
  | float (x : Number.Floating)
  | double (x : Number.Floating)
  /-- An integer of at most 128 bits. -/
  | bigInteger (n : Int)
  /-- A decimal number as it was written, so that `100.00` stays `100.00`. -/
  | decimal (text : String)
  | number (n : JsonNumber)
  | string (s : String)
  | date (t : Instant)
  | localDate (d : Date)
  | localDateTime (t : DateTime)
  | localTime (t : TimeOfDay)
  | uuid (u : Uuid)
  | constant (type name : String)
  | sequence (kind : Sequence) (items : List Value)
  | map (fields : List (String × Value))

instance : Inhabited Value := ⟨.null⟩

namespace Value

/-- The bounds of an integer of 128 bits. -/
def minBig : Int := -0x80000000000000000000000000000000

def maxBig : Int := 0x80000000000000000000000000000000 - 1

/-- An integer, if it fits 128 bits. -/
def big? (n : Int) : Option Int := if minBig ≤ n && n ≤ maxBig then some n else none

def isNull : Value → Bool
  | .null => true
  | _ => false

def isNumeric : Value → Bool
  | .byte _ | .short _ | .int _ | .long _ | .float _ | .double _ | .bigInteger _ | .decimal _
  | .number _ => true
  | _ => false

/-- The integer that an integral number denotes. -/
def integer? : Value → Option Int
  | .byte n => some n.toInt
  | .short n => some n.toInt
  | .int n => some n.toInt
  | .long n => some n.toInt
  | .bigInteger n => some n
  | .number n => n.integer?
  | _ => none

/-- A number whose type has no fractional part. -/
def isIntegral (v : Value) : Bool := v.integer?.isSome

/-- Strings and characters. -/
def isTextual : Value → Bool
  | .string _ | .character _ => true
  | _ => false

/-- The nearest floating number of 64 bits, for every number. -/
def double? : Value → Option Number.Floating
  | .float x => some (x.convert .double)
  | .double x => some x
  | .decimal text => Number.Floating.read? .double text.toList
  | .number n => some n.toDouble
  | v => v.integer?.map (Number.Floating.ofInt .double)

/-- The members of a sequence. -/
def items? : Value → Option (List Value)
  | .sequence _ items => some items
  | _ => none

/-- How a value counts as a condition: nothing, false, zero, the empty string and the empty
sequence are false, everything else is true. -/
def truthy : Value → Bool
  | .null => false
  | .boolean b => b
  | .string s => !s.isEmpty
  | .sequence _ items => !items.isEmpty
  | v =>
    if v.isNumeric then
      match v.double? with
      | some x => !x.isZero
      | none => true
    else true

/-- The name of a value's type in messages. -/
def typeName : Value → String
  | .null => "null"
  | .boolean _ => "Boolean"
  | .character _ => "Character"
  | .byte _ => "Byte"
  | .short _ => "Short"
  | .int _ => "Integer"
  | .long _ => "Long"
  | .float _ => "Float"
  | .double _ => "Double"
  | .bigInteger _ => "BigInteger"
  | .decimal _ => "BigDecimal"
  | .number _ => "Number"
  | .string _ => "String"
  | .date _ => "Date"
  | .localDate _ => "LocalDate"
  | .localDateTime _ => "LocalDateTime"
  | .localTime _ => "LocalTime"
  | .uuid _ => "UUID"
  | .constant _ _ => "Enum"
  | .sequence .list _ => "List"
  | .sequence .set _ => "Set"
  | .sequence .array _ => "Array"
  | .map _ => "Map"

mutual

/-- The value of JSON for which no type is known. -/
def ofJson : Json → Value
  | .null => .null
  | .boolean b => .boolean b
  | .number n => .number n
  | .string s => .string s
  | .array items => .sequence .list (ofJsonItems items)
  | .object fields => .map (ofJsonFields fields)

def ofJsonItems : List Json → List Value
  | [] => []
  | item :: rest => ofJson item :: ofJsonItems rest

def ofJsonFields : List (String × Json) → List (String × Value)
  | [] => []
  | (name, json) :: rest => (name, ofJson json) :: ofJsonFields rest

end

/-- How many members there are, as an integer of 32 bits. -/
def count (n : Nat) : Value := .int (Int32.ofInt n)

end Value

end SqlPreview
