import SqlPreview.Dict
import SqlPreview.Number.Floating

/-!
# JSON values

A JSON number is an integer when it was written as one and fits 64 bits, signed or unsigned, and a
floating number otherwise. Objects keep the order of their names.
-/

namespace SqlPreview

inductive JsonNumber where
  | integer (n : Int)
  | floating (x : Number.Floating)
deriving DecidableEq, Repr

inductive Json where
  | null
  | boolean (b : Bool)
  | number (n : JsonNumber)
  | string (s : String)
  | array (items : List Json)
  | object (fields : List (String × Json))
deriving Repr

instance : Inhabited Json := ⟨.null⟩

namespace JsonNumber

/-- The integer, if the number is one. -/
def integer? : JsonNumber → Option Int
  | .integer n => some n
  | .floating _ => none

/-- The integer, if it fits a signed word of 64 bits. -/
def long? : JsonNumber → Option Int
  | .integer n => if n < 0x8000000000000000 then some n else none
  | .floating _ => none

/-- The nearest floating number of 64 bits. -/
def toDouble : JsonNumber → Number.Floating
  | .integer n => .ofInt .double n
  | .floating x => x

/-- Equality of numbers: integers with integers by value, floating ones as numbers. -/
def same : JsonNumber → JsonNumber → Bool
  | .integer a, .integer b => a == b
  | .floating x, .floating y => x.same y
  | _, _ => false

end JsonNumber

namespace Json

def string? : Json → Option String
  | .string s => some s
  | _ => none

end Json

end SqlPreview
