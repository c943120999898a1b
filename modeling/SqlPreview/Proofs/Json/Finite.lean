import SqlPreview.Proofs.Json.Numbers
import SqlPreview.Proofs.Number.Bounds

/-!
# JSON numbers are finite

A JSON text cannot write an infinity: a number that is too large is refused, and scaling down by
powers of ten keeps below the significand.

Results:
1. `JsonNumber.isFinite_fromParts`: numbers with a fraction or an exponent are finite.
2. `Json.finite_of_read`: so are all numbers of the JSON that a text gives.
-/

namespace SqlPreview

open Number (Floating Format)

namespace JsonNumber

/-- An integer, or a floating number that is finite. -/
def IsFinite : JsonNumber → Prop
  | .integer _ => True
  | .floating x => x.isFinite = true

/-- A power of ten with one digit is converted as the natural number that it is. -/
theorem tenTo_eq {n : ℕ} (small : n ≤ 308) :
    tenTo n = Floating.ofQuotient .double false (10 ^ n) 1 := by
  have digit : Number.Decimal.digitCount ⟨false, 1, n⟩ = 1 := by
    rw [Number.Decimal.digitCount, if_neg Nat.one_ne_zero]
    exact congrArg List.length (Nat.toDigits_of_lt_base (by norm_num))
  unfold tenTo Floating.ofDecimal
  dsimp only [Nat.pow_eq]
  rw [digit, if_neg (by simp; omega), if_neg (by omega), if_pos (by omega), one_mul, Int.toNat_natCast]

/-- The powers of ten that are used lie between one and the largest number of 64 bits. -/
theorem between_tenTo {n : ℕ} (small : n ≤ 308) :
    (tenTo n).Between 1 ((2 ^ 53 - 1 : ℕ) * 2 ^ (971 : ℤ)) := by
  have hasLow : Format.double.Has 1 := by
    rw [← zpow_zero (2 : ℚ)]
    exact Floating.has_two_pow (by decide) (by decide)
  have hasHigh : Format.double.Has ((2 ^ 53 - 1 : ℕ) * 2 ^ (971 : ℤ)) :=
    ⟨(2 ^ 53 - 1 : ℕ), 971, by decide, by decide, by rw [Int.cast_natCast]⟩
  have within : ((2 ^ 53 - 1 : ℕ) * 2 ^ (971 : ℤ) : ℚ) < Format.double.limit :=
    calc ((2 ^ 53 - 1 : ℕ) * 2 ^ (971 : ℤ) : ℚ) < 2 ^ (53 : ℤ) * 2 ^ (971 : ℤ) :=
          mul_lt_mul_of_pos_right (by norm_num) (by positivity)
      _ = Format.double.limit := (zpow_add₀ (by norm_num) _ _).symm
  have largest : (10 : ℚ) ^ n ≤ (2 ^ 53 - 1 : ℕ) * 2 ^ (971 : ℤ) := by
    have : (10 ^ 308 : ℕ) ≤ (2 ^ 53 - 1) * 2 ^ 971 := by decide +kernel
    calc (10 : ℚ) ^ n ≤ 10 ^ 308 := pow_le_pow_right₀ (by norm_num) small
      _ ≤ _ := by exact_mod_cast this
  rw [tenTo_eq small]
  refine Floating.between_ofQuotient (by decide) (by decide) hasLow hasHigh within _ Nat.one_pos ?_ ?_
  · rw [Nat.cast_one, div_one]
    exact_mod_cast Nat.one_le_pow n 10 (by decide)
  · rw [Nat.cast_one, div_one, Nat.cast_pow]
    exact largest

theorem has_bound : Format.double.Has (2 ^ (64 : ℤ)) :=
  Floating.has_two_pow (by decide) (by decide)

theorem bound_lt_limit : (2 ^ (64 : ℤ) : ℚ) < Format.double.limit :=
  zpow_lt_zpow_right₀ (by norm_num) (by decide)

theorem between_significand {significand : ℕ} (small : significand < 0x10000000000000000) :
    (Floating.ofInt .double significand).Between 0 (2 ^ (64 : ℤ)) := by
  refine Floating.between_ofQuotient (by decide) (by decide) (Floating.has_zero _) has_bound
    bound_lt_limit _ Nat.one_pos (by positivity) ?_
  rw [Nat.cast_one, div_one, Int.natAbs_natCast]
  exact_mod_cast small.le

/-- Divided by a power of ten, a number keeps to the bound of a significand. -/
theorem between_scaledDown {x : Floating} (between : x.Between 0 (2 ^ (64 : ℤ))) {n : ℕ}
    (small : n ≤ 308) : (Floating.div .double x (tenTo n)).Between 0 (2 ^ (64 : ℤ)) :=
  Floating.between_div (by decide) (by decide) has_bound bound_lt_limit between (between_tenTo small)

theorem isFinite_fromParts {significand : ℕ} (small : significand < 0x10000000000000000)
    {exponent : ℤ} {x : Floating} (made : fromParts significand exponent = some x) :
    x.isFinite = true := by
  have between := between_significand small
  unfold fromParts at made
  dsimp only at made
  split_ifs at made with huge zero up down tiny
  · cases made
    exact between.isFinite
  · obtain ⟨negative, m, e, same, -, -⟩ := between
    obtain ⟨negative', m', e', same', -, -⟩ := between_tenTo (n := exponent.toNat) (by omega)
    rw [same, same', Floating.mul] at made
    rcases @Floating.ofScaled_cases .double (by decide) (by decide) (negative != negative') (m * m')
      (e + e') with ⟨m'', e'', finite, -⟩ | infinite
    · rw [finite] at made
      cases made
      rfl
    · rw [infinite] at made
      cases made
  · cases made
    exact (between_scaledDown between (by omega)).isFinite
  · cases made
    rfl
  · cases made
    exact (between_scaledDown (between_scaledDown between le_rfl) (by omega)).isFinite

end JsonNumber

namespace Json

theorem isFinite_signed {x : Floating} (finite : x.isFinite = true) (negative : Bool) :
    (signedFloating negative x).IsFinite := by
  cases x with
  | finite => cases negative <;> rfl
  | infinite | nan => cases finite

theorem finite_madeOfParts : MadeOfParts JsonNumber.IsFinite where
  integer negative n small := by
    rw [JsonNumber.ofInteger]
    split
    · trivial
    · split
      · exact isFinite_signed (JsonNumber.between_significand small).isFinite true
      · trivial
  floating negative _ _ _ small made :=
    isFinite_signed (JsonNumber.isFinite_fromParts small made) negative

/-- The numbers of the JSON that a text gives are finite. -/
theorem finite_of_read {text : String} {json : Json} (found : read text = .ok json) :
    json.EachNumber JsonNumber.IsFinite :=
  eachNumber_of_read finite_madeOfParts found

end Json

end SqlPreview
