import SqlPreview.Number.Shortest

/-!
# Floating numbers as text

One way of choosing digits, several ways of laying them out. A `Layout` says which magnitudes are
written positionally and which whole numbers keep a fraction.
-/

namespace SqlPreview.Number

/-- Decisions of a written form, each on the decimal exponent of the first digit. -/
structure Layout where
  /-- Written positionally, and not with an exponent. -/
  positional : Int → Bool
  /-- A whole number written positionally ends in `.0`. -/
  keepsFraction : Int → Bool
  /-- The digits taken when two choices are equally near. -/
  tie : Tie

/-- Digits with the point behind the first `places` of them. -/
def positionalText (digits : List Char) (places : Int) (keepsFraction : Bool) : List Char :=
  let count : Int := digits.length
  if count ≤ places then
    digits ++ List.replicate (places - count).toNat '0' ++ (if keepsFraction then ['.', '0'] else [])
  else if 0 < places then
    digits.take places.toNat ++ '.' :: digits.drop places.toNat
  else '0' :: '.' :: List.replicate (-places).toNat '0' ++ digits

/-- Digits with the point behind the first, and a signed exponent. -/
def exponentText (digits : List Char) (exponent : Int) : List Char :=
  let mantissa :=
    match digits with
    | [] => []
    | [d] => [d]
    | d :: rest => d :: '.' :: rest
  let sign := if exponent < 0 then '-' else '+'
  mantissa ++ 'e' :: sign :: Text.decimalDigits exponent.natAbs

/-- A finite magnitude of 64 bits. -/
def Layout.magnitude (layout : Layout) (significand : Nat) (exponent : Int) : List Char :=
  if significand = 0 then positionalText ['0'] 1 (layout.keepsFraction 0)
  else
    let chosen := shortest .double layout.tie significand exponent
    let digits := Text.decimalDigits chosen.digits
    let leading : Int := digits.length + chosen.unit - 1
    if layout.positional leading then positionalText digits (leading + 1) (layout.keepsFraction leading)
    else exponentText digits leading

/-- A number of 64 bits. -/
def Layout.text (layout : Layout) : Floating → List Char
  | .finite negative m e => (if negative then ['-'] else []) ++ layout.magnitude m e
  | .infinite negative => (if negative then ['-'] else []) ++ ['i', 'n', 'f']
  | .nan => ['N', 'a', 'N']

/-- Numbers in JSON: positional from `0.00001` to below `1e16`, always with a fraction there. -/
def Layout.json : Layout := ⟨fun e => -5 ≤ e && e ≤ 15, fun _ => true, .toEven⟩

/-- Typed numbers: always positional, and whole numbers below `1e16` keep a fraction. -/
def Layout.plain : Layout := ⟨fun _ => true, fun e => e ≤ 15, .up⟩

example : Layout.json.text (.ofInt .double 5) = "5.0".toList := by decide +kernel
example : Layout.json.text (.ofQuotient .double true 1 10000000) = "-1e-7".toList := by
  decide +kernel
example : Layout.plain.text (.ofInt .double (10 ^ 16)) = "10000000000000000".toList := by
  decide +kernel

end SqlPreview.Number
