import SqlPreview.Json.Basic

/-!
# JSON numbers from their parts

A number with a fraction or an exponent is read in two rounded steps: a significand of at most 64
bits becomes a floating number, and one multiplication or division by a power of ten scales it.
Digits that no longer fit the significand are dropped.
-/

namespace SqlPreview.JsonNumber

open Number

/-- Digits added to a significand while it stays below `2 ^ 64`, and how many were added. -/
def absorb (significand : Nat) : List Char → Nat × Nat
  | [] => (significand, 0)
  | d :: digits =>
    let grown := significand * 10 + Text.digitValue d
    if grown < 0x10000000000000000 then
      let (final, count) := absorb grown digits
      (final, count + 1)
    else (significand, 0)

/-- `10 ^ n` as a floating number. -/
def tenTo (n : Nat) : Floating := .ofDecimal .double ⟨false, 1, n⟩

/-- `significand * 10 ^ exponent`, or nothing when it is too large. Exponents below -308 are
reached in two divisions, and after the second only zero is left. -/
def fromParts (significand : Nat) (exponent : Int) : Option Floating :=
  let x := Floating.ofInt .double significand
  if 308 < exponent then if significand = 0 then some x else none
  else if 0 ≤ exponent then
    match Floating.mul .double x (tenTo exponent.toNat) with
    | .infinite _ => none
    | y => some y
  else if -308 ≤ exponent then some (.div .double x (tenTo (-exponent).toNat))
  else if exponent < -616 then some (.zero .double false)
  else some (.div .double (.div .double x (tenTo 308)) (tenTo (-exponent - 308).toNat))

/-- The number that an integer literal denotes: an integer if it fits, without a sign below
`2 ^ 64` and with one down to `-2 ^ 63`. A negative zero and larger magnitudes are floating. -/
def ofInteger (negative : Bool) (n : Nat) : JsonNumber :=
  if !negative then .integer n
  else if n = 0 || 0x8000000000000000 < n then .floating (Floating.ofInt .double n).neg
  else .integer (-(n : Int))

end SqlPreview.JsonNumber
