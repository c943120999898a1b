import SqlPreview.Number.Floating

/-!
# Shortest decimal digits

The fewest decimal digits that still read back to a floating number, and of those the nearest to
it. Whether a digit string reads back is decided on the exact interval of reals that round to the
number.
-/

namespace SqlPreview.Number

/-- Digits `digits` on the unit `10 ^ unit`. -/
structure Digits where
  digits : Nat
  unit : Int
deriving DecidableEq, Repr

/-- The reals that round to a number, over a common denominator: the lower end, the number itself,
the upper end, and whether the ends belong to the interval. -/
structure RoundingInterval where
  lower : Nat
  value : Nat
  upper : Nat
  denominator : Nat
  closed : Bool

/-- The interval of `significand * 2 ^ exponent`. Below a power of two the neighbour is only half
as far away, unless the unit cannot shrink further. -/
def RoundingInterval.of (format : Format) (significand : Nat) (exponent : Int) :
    RoundingInterval :=
  let narrow := significand == Nat.pow 2 (format.precision - 1) && format.low < exponent
  let e := exponent - 2
  let (factor, denominator) := if 0 ≤ e then (Nat.pow 2 e.toNat, 1) else (1, Nat.pow 2 (-e).toNat)
  let value := 4 * significand
  { lower := (value - if narrow then 1 else 2) * factor
    value := value * factor
    upper := (value + 2) * factor
    denominator
    closed := significand % 2 == 0 }

/-- `candidate * 10 ^ unit` lies in the interval. -/
def RoundingInterval.holds (interval : RoundingInterval) (candidate : Nat) (unit : Int) : Bool :=
  let (c, f) :=
    if 0 ≤ unit then (candidate * Nat.pow 10 unit.toNat, 1)
    else (candidate, Nat.pow 10 (-unit).toNat)
  let c := c * interval.denominator
  if interval.closed then interval.lower * f ≤ c && c ≤ interval.upper * f
  else interval.lower * f < c && c < interval.upper * f

/-- The decimal place of the first digit: the `k` with `10 ^ (k - 1) ≤ value < 10 ^ k`. -/
def RoundingInterval.place (interval : RoundingInterval) : Int :=
  let whole := interval.value / interval.denominator
  if 0 < whole then (Nat.toDigits 10 whole).length
  else
    -- No positive number of 64 bits begins behind the 324th place.
    let zeros := (List.range 400).find? fun j =>
      interval.denominator ≤ interval.value * Nat.pow 10 (j + 1)
    Int.negOfNat (zeros.getD 0)

/-- Which of two digit strings is taken when the number lies halfway between them. -/
inductive Tie where
  | toEven
  | up
deriving DecidableEq, Repr

/-- The digits on the unit `10 ^ unit` that lie in the interval and are nearest to the number. -/
def RoundingInterval.nearest? (interval : RoundingInterval) (tie : Tie) (unit : Int) :
    Option Digits :=
  let (num, den) :=
    if 0 ≤ unit then (interval.value, interval.denominator * Nat.pow 10 unit.toNat)
    else (interval.value * Nat.pow 10 (-unit).toNat, interval.denominator)
  let below := num / den
  let belowFirst :=
    match compare (2 * (num % den)) den, tie with
    | .lt, _ => true
    | .gt, _ => false
    | .eq, .toEven => below % 2 == 0
    | .eq, .up => false
  let nearer := if belowFirst then [below, below + 1] else [below + 1, below]
  (nearer.find? fun candidate => interval.holds candidate unit).map fun d => ⟨d, unit⟩

/-- The digits without zeros at their end. -/
def Digits.stripped (d : Digits) : Digits :=
  if h : d.digits = 0 then d
  else if d.digits % 10 = 0 then Digits.stripped ⟨d.digits / 10, d.unit + 1⟩ else d
termination_by d.digits
decreasing_by exact Nat.div_lt_self (Nat.pos_of_ne_zero h) (by decide)

/-- The shortest digits of a positive number, looked for with one digit, then two, up to
seventeen, which always suffice for 64 bits. -/
def shortest (format : Format) (tie : Tie) (significand : Nat) (exponent : Int) : Digits :=
  let interval := RoundingInterval.of format significand exponent
  let place := interval.place
  let found := (List.range 17).findSome? fun count =>
    interval.nearest? tie (place - ((count + 1 : Nat) : Int))
  (found.getD ⟨significand, 0⟩).stripped

example : shortest .double .toEven 0x1999999999999A (-56) = ⟨1, -1⟩ := by decide +kernel
example : shortest .double .up 1 (-1074) = ⟨5, -324⟩ := by decide +kernel

end SqlPreview.Number
