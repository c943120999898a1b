import SqlPreview.Proofs.Number.Place

/-!
# Bounds of floating numbers

Rounding keeps to the bounds of what is rounded, if these are numbers of the format. So what is
computed from numbers that are not too large is finite.

Results:
1. `between_ofScaled`, `between_div`: conversions and quotients keep to bounds.
2. `isFinite_convert_single`: a number of 32 bits is finite as one of 64 bits if it is finite.
-/

namespace SqlPreview.Number.Floating

/-- A finite number whose magnitude lies between two rational numbers. -/
def Between (low high : ℚ) (x : Floating) : Prop :=
  ∃ negative m e, x = .finite negative m e ∧ low ≤ (m : ℚ) * 2 ^ (e : ℤ) ∧ (m : ℚ) * 2 ^ e ≤ high

variable {format : Format} {low high : ℚ}

theorem Between.isFinite {x : Floating} (between : x.Between low high) : x.isFinite = true := by
  obtain ⟨negative, m, e, rfl, -, -⟩ := between
  rfl

/-- A power of two in the range of a format is one of its numbers. -/
theorem has_two_pow (precise : 0 < format.precision) {e : ℤ} (least : format.low ≤ e) :
    format.Has (2 ^ e) := by
  refine ⟨1, e, ?_, least, by rw [Int.cast_one, one_mul]⟩
  rw [abs_one]
  exact one_lt_pow₀ (by norm_num) precise.ne'

theorem has_zero (format : Format) : format.Has 0 :=
  ⟨0, format.low, by rw [abs_zero]; positivity, le_rfl, by rw [Int.cast_zero, zero_mul]⟩

theorem between_ofQuotient (precise : 0 < format.precision) (ordered : format.low ≤ format.high)
    (hasLow : format.Has low) (hasHigh : format.Has high) (small : high < format.limit)
    (negative : Bool) {num den : ℕ} (positive' : 0 < den) (least : low ≤ num / den)
    (most : (num / den : ℚ) ≤ high) : (ofQuotient format negative num den).Between low high := by
  rcases Nat.eq_zero_or_pos num with rfl | positive
  · rw [Nat.cast_zero, zero_div] at least most
    refine ⟨negative, 0, format.low, by rw [ofQuotient, if_pos rfl, zero], ?_, ?_⟩
    · rwa [Nat.cast_zero, zero_mul]
    · rwa [Nat.cast_zero, zero_mul]
  · have above : format.nearest (num / den) ≤ high :=
      Format.nearest_of_has precise hasHigh ▸ Format.nearest_mono precise most
    have below : low ≤ format.nearest (num / den) :=
      Format.nearest_of_has precise hasLow ▸ Format.nearest_mono precise least
    rcases ofQuotient_cases precise ordered negative positive positive' with
      ⟨m, e, same, value, -⟩ | ⟨-, large⟩
    · exact ⟨negative, m, e, same, value ▸ below, value ▸ above⟩
    · exact absurd (large.trans above) (not_le.2 small)

/-- `m * 2 ^ e` as a fraction of natural numbers. -/
theorem fraction_of_scale (m : ℕ) (e : ℤ) :
    (0 ≤ e → ((m * 2 ^ e.toNat : ℕ) : ℚ) / (1 : ℕ) = m * 2 ^ e) ∧
      (¬0 ≤ e → (m : ℚ) / (2 ^ (-e).toNat : ℕ) = m * 2 ^ e) := by
  constructor
  · intro up
    obtain ⟨n, rfl⟩ := Int.eq_ofNat_of_zero_le up
    simp
  · intro down
    obtain ⟨n, rfl⟩ : ∃ n : ℕ, e = -n := ⟨(-e).toNat, by omega⟩
    simp [div_eq_mul_inv]

theorem between_ofScaled (precise : 0 < format.precision) (ordered : format.low ≤ format.high)
    (hasLow : format.Has low) (hasHigh : format.Has high) (small : high < format.limit)
    (negative : Bool) {m : ℕ} {e : ℤ} (least : low ≤ m * 2 ^ e) (most : (m : ℚ) * 2 ^ e ≤ high) :
    (ofScaled format negative m e).Between low high := by
  obtain ⟨up, down⟩ := fraction_of_scale m e
  unfold ofScaled
  dsimp only [Nat.pow_eq]
  split
  · next whole =>
    rw [← up whole] at least most
    exact between_ofQuotient precise ordered hasLow hasHigh small negative Nat.one_pos least most
  · next parts =>
    rw [← down parts] at least most
    exact between_ofQuotient precise ordered hasLow hasHigh small negative (Nat.two_pow_pos _)
      least most

/-- Finite numbers are divided as rational numbers, and the quotient is rounded. -/
theorem div_finite (format : Format) (negative negative' : Bool) (m : ℕ) {m' : ℕ} (e e' : ℤ)
    (positive : 0 < m') : ∃ num den : ℕ, 0 < den ∧
      (num : ℚ) / den = (m : ℚ) * 2 ^ e / (m' * 2 ^ e') ∧
      div format (.finite negative m e) (.finite negative' m' e') =
        ofQuotient format (negative != negative') num den := by
  have quotient : (m : ℚ) * 2 ^ e / (m' * 2 ^ e') = m * 2 ^ (e - e') / m' := by
    rw [zpow_sub₀ (by norm_num)]
    field_simp
  obtain ⟨up, down⟩ := fraction_of_scale m (e - e')
  rw [quotient, div, if_neg positive.ne']
  dsimp only [Nat.pow_eq]
  split
  · next whole =>
    refine ⟨_, m', positive, ?_, rfl⟩
    rw [← up whole, Nat.cast_one, div_one]
  · next parts =>
    refine ⟨m, _, Nat.mul_pos positive (Nat.two_pow_pos _), ?_, rfl⟩
    rw [← down parts, Nat.cast_mul, mul_comm (m' : ℚ), div_div]

/-- A quotient by what is at least one is no larger than the dividend. -/
theorem between_div (precise : 0 < format.precision) (ordered : format.low ≤ format.high)
    (hasHigh : format.Has high) (small : high < format.limit) {x y : Floating} {bound : ℚ}
    (dividend : x.Between 0 high) (divisor : y.Between 1 bound) :
    (div format x y).Between 0 high := by
  obtain ⟨negative, m, e, rfl, notNegative, most⟩ := dividend
  obtain ⟨negative', m', e', rfl, one, -⟩ := divisor
  have positive : 0 < m' := by
    refine Nat.pos_of_ne_zero ?_
    rintro rfl
    rw [Nat.cast_zero, zero_mul] at one
    exact absurd one (by norm_num)
  obtain ⟨num, den, positive', quotient, same⟩ :=
    div_finite format negative negative' m e e' positive
  rw [same]
  refine between_ofQuotient precise ordered (has_zero format) hasHigh small _ positive'
    (by positivity) ?_
  rw [quotient]
  exact (div_le_self notNegative one).trans most

/-- What is rounded is finite or infinite. -/
theorem ofScaled_cases (precise : 0 < format.precision) (ordered : format.low ≤ format.high)
    (negative : Bool) (m : ℕ) (e : ℤ) :
    (∃ m' e', ofScaled format negative m e = .finite negative m' e' ∧
        (m' : ℚ) * 2 ^ e' ≤ format.limit) ∨ ofScaled format negative m e = .infinite negative := by
  have quotients (num : ℕ) {den : ℕ} (positive' : 0 < den) :
      (∃ m' e', ofQuotient format negative num den = .finite negative m' e' ∧
          (m' : ℚ) * 2 ^ e' ≤ format.limit) ∨
        ofQuotient format negative num den = .infinite negative := by
    rcases Nat.eq_zero_or_pos num with rfl | positive
    · refine .inl ⟨0, format.low, by rw [ofQuotient, if_pos rfl, zero], ?_⟩
      rw [Nat.cast_zero, zero_mul]
      exact (Format.limit_pos format).le
    · rcases ofQuotient_cases precise ordered negative positive positive' with
        ⟨m', e', same, value, small⟩ | ⟨same, -⟩
      · exact .inl ⟨m', e', same, value ▸ small.le⟩
      · exact .inr same
  unfold ofScaled
  split
  · exact quotients _ Nat.one_pos
  · exact quotients _ (Nat.pow_pos (by decide))

/-- A number of 32 bits is finite as one of 64 bits, unless it is infinite or not a number. -/
theorem isFinite_convert_single (x : Floating) :
    ((x.convert .single).convert .double).isFinite = (x.convert .single).isFinite := by
  cases x with
  | infinite | nan => rfl
  | finite negative m e =>
    rcases @ofScaled_cases .single (by decide) (by decide) negative m e with
      ⟨m', e', same, small⟩ | same
    · have least : (0 : ℚ) ≤ m' * 2 ^ e' := mul_nonneg m'.cast_nonneg (zpow_nonneg (by norm_num) _)
      have hasHigh : Format.double.Has Format.single.limit :=
        has_two_pow (by decide) (by decide)
      have within : Format.single.limit < Format.double.limit :=
        zpow_lt_zpow_right₀ (by norm_num) (by decide)
      have between := between_ofScaled (by decide) (by decide) (has_zero _) hasHigh within negative
        least small
      rw [convert, same, convert, between.isFinite]
      rfl
    · simp only [convert, same]

end SqlPreview.Number.Floating
