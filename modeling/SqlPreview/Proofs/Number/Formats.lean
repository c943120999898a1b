import SqlPreview.Json.Number
import SqlPreview.Proofs.Number.Bounds

/-!
# Numbers of a format

Conversions and operations round to a number of their format. So a finite floating number that they
give has no more digits than the format has room for.

This file defines the floating numbers of a format (`Floating.IsOf`).

Results:
1. `Floating.isOf_ofQuotient`, `isOf_mul`, `isOf_div`: what is rounded is a number of the format.
2. `isOf_fromParts`: JSON numbers with a fraction or an exponent are numbers of 64 bits.
-/

namespace SqlPreview.Number.Floating

variable {format : Format} {x : Floating}

theorem ofParts_eq (negative : Bool) (m : ℕ) (e : ℤ) :
    ofParts negative m e = if negative then -((m : ℚ) * 2 ^ e) else m * 2 ^ e := by
  cases negative <;> simp [ofParts, signed]

/-- A floating number whose significand and unit, if it is finite, are of a format. -/
def IsOf (format : Format) : Floating → Prop
  | .finite _ m e => m < 2 ^ format.precision ∧ format.low ≤ e
  | _ => True

theorem IsOf.has {negative : Bool} {m : ℕ} {e : ℤ} (isOf : (finite negative m e).IsOf format) :
    format.Has (ofParts negative m e) := by
  have small : (m : ℤ) < 2 ^ format.precision := by exact_mod_cast isOf.1
  refine ⟨signed negative m, e, ?_, isOf.2, rfl⟩
  cases negative
  · rwa [signed, if_neg Bool.false_ne_true, abs_of_nonneg (by omega)]
  · rwa [signed, if_pos rfl, abs_neg, abs_of_nonneg (by omega)]

theorem isOf_zero (format : Format) (negative : Bool) : (zero format negative).IsOf format :=
  ⟨by positivity, le_rfl⟩

theorem isOf_neg (isOf : x.IsOf format) : x.neg.IsOf format := by
  cases x with
  | infinite | nan => trivial
  | finite => exact isOf

/-- A significand with a digit too many is half as much on the next unit. -/
theorem isOf_ofQuotient (format : Format) (negative : Bool) (num : ℕ) {den : ℕ} (positive' : 0 < den) :
    (ofQuotient format negative num den).IsOf format := by
  rcases Nat.eq_zero_or_pos num with rfl | positive
  · rw [ofQuotient, if_pos rfl]
    exact isOf_zero format negative
  · obtain ⟨m, value, same⟩ := ofQuotient_eq format negative positive positive'
    have low : format.low ≤ format.unit (num / den) := le_max_right _ _
    have most : m ≤ 2 ^ format.precision := by
      have atMost := Format.nearest_le_of_pos format (num / den : ℚ)
      rw [← value, zpow_add₀ (by norm_num), zpow_natCast] at atMost
      exact_mod_cast le_of_mul_le_mul_right atMost (by positivity)
    have positive : 0 < 2 ^ format.precision := by positivity
    rw [same, carried]
    split
    · next carry =>
      split
      · trivial
      · rw [carry]
        exact ⟨Nat.div_lt_self positive (by decide), by omega⟩
    · next short =>
      split
      · trivial
      · exact ⟨lt_of_le_of_ne most short, low⟩

/-- How a quotient is written as a fraction makes no difference. -/
theorem ofQuotient_congr (format : Format) (negative : Bool) {num den num' den' : ℕ}
    (positive : 0 < den) (positive' : 0 < den') (same : (num / den : ℚ) = num' / den') :
    ofQuotient format negative num den = ofQuotient format negative num' den' := by
  have zero : num = 0 ↔ num' = 0 := by
    have none {num den : ℕ} (positive : 0 < den) : (num / den : ℚ) = 0 ↔ num = 0 := by
      rw [div_eq_zero_iff, Nat.cast_eq_zero, Nat.cast_eq_zero]
      exact or_iff_left positive.ne'
    rw [← none positive, ← none positive', same]
  rcases Nat.eq_zero_or_pos num with absent | present
  · rw [ofQuotient, ofQuotient, if_pos absent, if_pos (zero.1 absent)]
  · have present' : 0 < num' := Nat.pos_of_ne_zero fun absent => present.ne' (zero.2 absent)
    obtain ⟨m, value, rounded⟩ := ofQuotient_eq format negative present positive
    obtain ⟨m', value', rounded'⟩ := ofQuotient_eq format negative present' positive'
    rw [← same] at value' rounded'
    have significand : (m : ℚ) = m' :=
      mul_right_cancel₀ (by positivity : (2 : ℚ) ^ format.unit (num / den) ≠ 0) (value.trans value'.symm)
    rw [rounded, rounded', Nat.cast_injective significand]

/-- A quotient in the range of a format becomes the nearest number, with the sign that is asked for. -/
theorem exists_ofQuotient (precise : 0 < format.precision) (ordered : format.low ≤ format.high)
    {bound : ℚ} (has : format.Has bound) (within : bound < format.limit) (negative : Bool)
    {num den : ℕ} (positive' : 0 < den) (most : (num / den : ℚ) ≤ bound) :
    ∃ m e, ofQuotient format negative num den = .finite negative m e ∧
      (m : ℚ) * 2 ^ e = format.nearest (num / den) := by
  rcases Nat.eq_zero_or_pos num with rfl | positive
  · refine ⟨0, format.low, by rw [ofQuotient, if_pos rfl, zero], ?_⟩
    rw [Nat.cast_zero, zero_mul, zero_div, Format.nearest_zero]
  · rcases ofQuotient_cases precise ordered negative positive positive' with
      ⟨m, e, same, value, -⟩ | ⟨-, large⟩
    · exact ⟨m, e, same, value⟩
    · have le := Format.nearest_mono precise most
      rw [Format.nearest_of_has precise has] at le
      exact absurd (large.trans le) (not_le.2 within)

theorem isOf_ofScaled (format : Format) (negative : Bool) (m : ℕ) (e : ℤ) :
    (ofScaled format negative m e).IsOf format := by
  unfold ofScaled
  split
  · exact isOf_ofQuotient format negative _ Nat.one_pos
  · exact isOf_ofQuotient format negative m (Nat.pow_pos (by decide))

theorem isOf_mul (format : Format) (x y : Floating) : (mul format x y).IsOf format := by
  unfold mul
  split
  · exact isOf_ofScaled format _ _ _
  · trivial
  · trivial
  · split <;> trivial

theorem isOf_div (format : Format) (x y : Floating) : (div format x y).IsOf format := by
  unfold div
  split
  · split
    · split <;> trivial
    · next nonzero =>
      dsimp only
      split
      · exact isOf_ofQuotient format _ _ (Nat.pos_of_ne_zero nonzero)
      · exact isOf_ofQuotient format _ _
          (Nat.mul_pos (Nat.pos_of_ne_zero nonzero) (Nat.pow_pos (by decide)))
  · trivial
  · exact isOf_zero format _
  · trivial

theorem isOf_ofInt (n : ℤ) : (ofInt .double n).IsOf .double :=
  isOf_ofQuotient .double _ _ Nat.one_pos

end SqlPreview.Number.Floating

namespace SqlPreview.JsonNumber

open Number (Floating)

theorem isOf_fromParts {significand : ℕ} {exponent : ℤ} {x : Floating}
    (made : fromParts significand exponent = some x) : x.IsOf .double := by
  unfold fromParts at made
  dsimp only at made
  split_ifs at made
  · cases made
    exact Floating.isOf_ofInt _
  · split at made
    · cases made
    · cases made
      exact Floating.isOf_mul .double _ _
  · cases made
    exact Floating.isOf_div .double _ _
  · cases made
    exact Floating.isOf_zero _ _
  · cases made
    exact Floating.isOf_div .double _ _

end SqlPreview.JsonNumber
