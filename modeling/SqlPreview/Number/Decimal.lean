import SqlPreview.Text.Letter

/-!
# Decimal numbers as written

A decimal number is a sign, a coefficient and a power of ten, kept exactly. `Decimal.read?` reads
the usual written form with an optional fraction and exponent.
-/

namespace SqlPreview.Number

/-- The number `± coefficient * 10 ^ exponent`. -/
structure Decimal where
  negative : Bool
  coefficient : Nat
  exponent : Int
deriving DecidableEq, Repr

namespace Decimal

/-- A sign at the start of a text, and what follows it. -/
def splitSign : List Char → Bool × List Char
  | '-' :: rest => (true, rest)
  | '+' :: rest => (false, rest)
  | text => (false, text)

/-- The value of a non-empty run of digits that is the whole text. -/
def digits? (text : List Char) : Option Nat :=
  if text.isEmpty || !text.all Text.isAsciiDigit then none else some (Text.digitsValue text)

/-- A signed integer that is the whole text. -/
def integer? (text : List Char) : Option Int :=
  let (negative, rest) := splitSign text
  (digits? rest).map fun n => if negative then -(n : Int) else n

/-- The number that digits denote when the last `places` of them stand behind the point. -/
def ofDigits (negative : Bool) (whole fraction : List Char) (exponent : Int) : Decimal :=
  ⟨negative, Text.digitsValue (whole ++ fraction), exponent - fraction.length⟩

/-- The exponent at the end of a number: nothing, or a mark and a signed integer. -/
def exponent? : List Char → Option Int
  | [] => some 0
  | c :: rest => if c == 'e' || c == 'E' then integer? rest else none

/-- An unsigned number: digits with at most one point among or around them, then an exponent. -/
def unsigned? (negative : Bool) (text : List Char) : Option Decimal := do
  let whole := text.takeWhile Text.isAsciiDigit
  let afterWhole := text.dropWhile Text.isAsciiDigit
  let (fraction, tail) :=
    match afterWhole with
    | '.' :: rest => (rest.takeWhile Text.isAsciiDigit, rest.dropWhile Text.isAsciiDigit)
    | rest => ([], rest)
  if whole.isEmpty && fraction.isEmpty then none
  else do
    let exponent ← exponent? tail
    some (ofDigits negative whole fraction exponent)

/-- The number that a text writes. -/
def read? (text : List Char) : Option Decimal :=
  let (negative, rest) := splitSign text
  unsigned? negative rest

/-- How many digits the coefficient has, zero having none. -/
def digitCount (d : Decimal) : Nat :=
  if d.coefficient = 0 then 0 else (Nat.toDigits 10 d.coefficient).length

end Decimal

example : Decimal.read? "-1.50e2".toList = some ⟨true, 150, 0⟩ := by decide +kernel
example : Decimal.read? ".".toList = none := by decide +kernel

end SqlPreview.Number
