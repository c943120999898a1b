import SqlPreview.Number.Decimal

/-!
# Binary floating point

Floating numbers as exact significands and exponents. Every operation computes the exact result
and rounds it once, to the nearest number of the format and to the even one of two equally near.
-/

namespace SqlPreview.Number

/-- A binary format: significands below `2 ^ precision` on units from `2 ^ low` to `2 ^ high`. -/
structure Format where
  precision : Nat
  low : Int
  high : Int
deriving DecidableEq, Repr

/-- 64-bit numbers. -/
def Format.double : Format := ⟨53, -1074, 971⟩

/-- 32-bit numbers. -/
def Format.single : Format := ⟨24, -149, 104⟩

/-- A floating number: `± significand * 2 ^ exponent`, an infinity, or not a number. -/
inductive Floating where
  | finite (negative : Bool) (significand : Nat) (exponent : Int)
  | infinite (negative : Bool)
  | nan
deriving DecidableEq, Repr

/-- `num / den` to the nearest natural number, a half to the even one. -/
def roundDiv (num den : Nat) : Nat :=
  let q := num / den
  let r := num % den
  if 2 * r < den then q else if den < 2 * r then q + 1 else q + q % 2

/-- `num / den * 2 ^ (-exponent)` as a fraction of natural numbers. -/
def scaled (num den : Nat) (exponent : Int) : Nat × Nat :=
  if 0 ≤ exponent then (num, den * Nat.pow 2 exponent.toNat)
  else (num * Nat.pow 2 (-exponent).toNat, den)

/-- The `b` with `2 ^ b ≤ num / den < 2 ^ (b + 1)`, for positive numbers. -/
def binade (num den : Nat) : Int :=
  let guess : Int := (num.log2 : Int) - (den.log2 : Int)
  let (n, d) := scaled num den guess
  if d ≤ n then guess else guess - 1

namespace Floating

def zero (format : Format) (negative : Bool) : Floating := .finite negative 0 format.low

/-- The number of the format nearest to `± num / den`. -/
def ofQuotient (format : Format) (negative : Bool) (num den : Nat) : Floating :=
  if num = 0 then zero format negative
  else
    let unit := max (binade num den - (format.precision - 1)) format.low
    let (n, d) := scaled num den unit
    let m := roundDiv n d
    let (m, unit) := if m = Nat.pow 2 format.precision then (m / 2, unit + 1) else (m, unit)
    if format.high < unit then .infinite negative else .finite negative m unit

/-- The number of the format nearest to `± significand * 2 ^ exponent`. -/
def ofScaled (format : Format) (negative : Bool) (significand : Nat) (exponent : Int) : Floating :=
  if 0 ≤ exponent then ofQuotient format negative (significand * Nat.pow 2 exponent.toNat) 1
  else ofQuotient format negative significand (Nat.pow 2 (-exponent).toNat)

def ofInt (format : Format) (n : Int) : Floating :=
  ofQuotient format (decide (n < 0)) n.natAbs 1

/-- The number of the format nearest to a decimal number. Beyond 400 places no format holds a
finite number and below them none a positive one, so the power of ten stays small. -/
def ofDecimal (format : Format) (d : Decimal) : Floating :=
  let magnitude : Int := d.digitCount + d.exponent
  if d.coefficient = 0 || magnitude < -400 then zero format d.negative
  else if 400 < magnitude then .infinite d.negative
  else if 0 ≤ d.exponent then
    ofQuotient format d.negative (d.coefficient * Nat.pow 10 d.exponent.toNat) 1
  else ofQuotient format d.negative d.coefficient (Nat.pow 10 (-d.exponent).toNat)

def isFinite : Floating → Bool
  | .finite .. => true
  | _ => false

def isZero : Floating → Bool
  | .finite _ m _ => m == 0
  | _ => false

def isNegative : Floating → Bool
  | .finite negative _ _ => negative
  | .infinite negative => negative
  | .nan => false

def neg : Floating → Floating
  | .finite negative m e => .finite (!negative) m e
  | .infinite negative => .infinite (!negative)
  | .nan => .nan

/-- The same number in another format. -/
def convert (format : Format) : Floating → Floating
  | .finite negative m e => ofScaled format negative m e
  | x => x

/-- A significand with its sign. -/
def signed (negative : Bool) (m : Nat) : Int := if negative then -(m : Int) else m

/-- Two finite numbers on a common unit: both numerators, then the unit's exponent. -/
def aligned (m₁ : Int) (e₁ : Int) (m₂ : Int) (e₂ : Int) : Int × Int × Int :=
  let e := min e₁ e₂
  (m₁ * Nat.pow 2 (e₁ - e).toNat, m₂ * Nat.pow 2 (e₂ - e).toNat, e)

/-- The sum. Opposite numbers add to a positive zero. -/
def add (format : Format) : Floating → Floating → Floating
  | .finite n₁ m₁ e₁, .finite n₂ m₂ e₂ =>
    let (a, b, e) := aligned (signed n₁ m₁) e₁ (signed n₂ m₂) e₂
    let total := a + b
    if total = 0 then zero format (n₁ && n₂)
    else ofScaled format (decide (total < 0)) total.natAbs e
  | .infinite a, .infinite b => if a == b then .infinite a else .nan
  | .infinite a, .finite .. => .infinite a
  | .finite .., .infinite b => .infinite b
  | _, _ => .nan

def sub (format : Format) (x y : Floating) : Floating := add format x y.neg

def mul (format : Format) : Floating → Floating → Floating
  | .finite n₁ m₁ e₁, .finite n₂ m₂ e₂ => ofScaled format (n₁ != n₂) (m₁ * m₂) (e₁ + e₂)
  | .nan, _ => .nan
  | _, .nan => .nan
  | x, y => if x.isZero || y.isZero then .nan else .infinite (x.isNegative != y.isNegative)

def div (format : Format) : Floating → Floating → Floating
  | .finite n₁ m₁ e₁, .finite n₂ m₂ e₂ =>
    if m₂ = 0 then if m₁ = 0 then .nan else .infinite (n₁ != n₂)
    else
      let e := e₁ - e₂
      if 0 ≤ e then ofQuotient format (n₁ != n₂) (m₁ * Nat.pow 2 e.toNat) m₂
      else ofQuotient format (n₁ != n₂) m₁ (m₂ * Nat.pow 2 (-e).toNat)
  | .infinite a, .finite n _ _ => .infinite (a != n)
  | .finite n _ _, .infinite b => zero format (n != b)
  | _, _ => .nan

/-- The remainder of division toward zero, which has the sign of the dividend. -/
def rem (format : Format) : Floating → Floating → Floating
  | .finite n₁ m₁ e₁, .finite _ m₂ e₂ =>
    if m₂ = 0 then .nan
    else
      let (a, b, e) := aligned m₁ e₁ m₂ e₂
      ofScaled format n₁ (a % b).natAbs e
  | .finite n m e, .infinite _ => .finite n m e
  | _, _ => .nan

/-- The order of numbers, which leaves not-a-number apart and takes both zeros as equal. -/
def compare? : Floating → Floating → Option Ordering
  | .nan, _ => none
  | _, .nan => none
  | .infinite a, .infinite b => some (compare b.toNat a.toNat)
  | .infinite a, .finite .. => some (if a then .lt else .gt)
  | .finite .., .infinite b => some (if b then .gt else .lt)
  | .finite n₁ m₁ e₁, .finite n₂ m₂ e₂ =>
    let (a, b, _) := aligned (signed n₁ m₁) e₁ (signed n₂ m₂) e₂
    some (compare a b)

/-- Numeric equality. -/
def same (x y : Floating) : Bool := compare? x y == some .eq

/-- The integer part toward zero of a finite number. -/
def truncate? : Floating → Option Int
  | .finite negative m e =>
    let whole := if 0 ≤ e then m * Nat.pow 2 e.toNat else m / Nat.pow 2 (-e).toNat
    some (signed negative whole)
  | _ => none

/-- The names under which a text writes numbers that are not finite, in small letters. -/
def named? (text : String) : Option Floating :=
  if text == "inf" || text == "infinity" then some (.infinite false)
  else if text == "nan" then some .nan
  else none

/-- The number that a text writes: a decimal number, or the name of an infinity or of
not-a-number in any case, after an optional sign. -/
def read? (format : Format) (text : List Char) : Option Floating :=
  match Decimal.read? text with
  | some d => some (ofDecimal format d)
  | none =>
    let (negative, rest) := Decimal.splitSign text
    (named? (String.ofList (rest.map Char.toLower))).map fun x =>
      match x with
      | .infinite _ => .infinite negative
      | other => other

end Floating

example : Floating.ofInt .double 3 = .finite false (3 * 2 ^ 51) (-51) := by decide +kernel
example : Floating.ofScaled .double false 1 1024 = .infinite false := by decide +kernel

end SqlPreview.Number
