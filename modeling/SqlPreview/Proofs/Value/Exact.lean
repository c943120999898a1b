import SqlPreview.Proofs.Number.Place
import SqlPreview.Value.Basic

/-!
# Exact numbers

Integers and decimal numbers are kept exactly. This file defines the rational number that such a
value denotes (`Value.rational?`).

Result: `double?_of_rational?`, the floating number that an exact one counts as is the nearest.
-/

namespace SqlPreview.Value

open Number (Decimal Floating Format)

/-- The rational number that an integer denotes, or a decimal number that can be read. -/
def rational? : Value → Option ℚ
  | .decimal text => (Decimal.read? text.toList).map Decimal.toRat
  | v => v.integer?.map fun n => (n : ℚ)

theorem rational?_of_integer? {v : Value} {n : ℤ} (found : v.integer? = some n) :
    v.rational? = some (n : ℚ) := by
  cases v with
  | byte | short | int | long | bigInteger | number =>
    rw [rational?, found]
    rfl
    exact nofun
  | _ => cases found

theorem isNumeric_of_rational? {v : Value} {q : ℚ} (exact : v.rational? = some q) :
    v.isNumeric = true := by
  cases v <;> first | rfl | cases exact

theorem isNumeric_of_integer? {v : Value} {n : ℤ} (found : v.integer? = some n) :
    v.isNumeric = true :=
  isNumeric_of_rational? (rational?_of_integer? found)

/-- An exact number counts as the floating number nearest to it. -/
theorem double?_of_rational? {v : Value} {q : ℚ} (exact : v.rational? = some q) :
    ∃ x, v.double? = some x ∧ x ≠ .nan ∧ x.place = Format.double.rounded q := by
  have ofInteger (n : ℤ) : ∃ x, some (Floating.ofInt .double n) = some x ∧ x ≠ .nan ∧
      x.place = Format.double.rounded n :=
    ⟨_, rfl, Floating.ofQuotient_ne_nan _ _ _ _, Floating.place_ofInt (by decide) (by decide) n⟩
  cases v with
  | decimal text =>
    obtain ⟨d, read, rfl⟩ := Option.map_eq_some_iff.1 exact
    refine ⟨.ofDecimal .double d, ?_, Floating.ofDecimal_ne_nan _ _, Floating.place_ofDecimal d⟩
    rw [double?, Floating.read?, read]
  | number n =>
    cases n with
    | integer n =>
      cases exact
      exact ofInteger n
    | floating x => cases exact
  | byte n | short n | int n | long n | bigInteger n =>
    cases exact
    exact ofInteger _
  | _ => cases exact

end SqlPreview.Value
