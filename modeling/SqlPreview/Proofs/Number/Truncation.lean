import SqlPreview.Proofs.Number.Formats

/-!
# Integer parts

This file defines the integer part of a rational number toward zero (`towardZero`).

Results:
1. `Floating.truncate?_finite`: a finite floating number is truncated to the integer part of its value.
2. `Format.two_pow_dvd_towardZero`: a number of a format that is large has zeros as its last bits.
-/

namespace SqlPreview.Number

/-- The integer part of a number, toward zero. -/
def towardZero (q : ℚ) : ℤ := if 0 ≤ q then ⌊q⌋ else ⌈q⌉

theorem towardZero_of_nonneg {q : ℚ} (le : 0 ≤ q) : towardZero q = ⌊q⌋ := if_pos le

theorem towardZero_intCast (n : ℤ) : towardZero n = n := by
  rw [towardZero, Int.floor_intCast, Int.ceil_intCast, ite_self]

theorem towardZero_neg (q : ℚ) : towardZero (-q) = -towardZero q := by
  unfold towardZero
  rcases lt_trichotomy q 0 with negative | rfl | positive
  · rw [if_pos (neg_nonneg.2 negative.le), if_neg (not_le.2 negative), Int.floor_neg]
  · rw [neg_zero, if_pos le_rfl, Int.floor_zero, neg_zero]
  · rw [if_neg (not_le.2 (neg_neg_of_pos positive)), if_pos positive.le, Int.ceil_neg]

theorem abs_towardZero_le (q : ℚ) : (|towardZero q| : ℚ) ≤ |q| := by
  have natural {q : ℚ} (le : 0 ≤ q) : (|towardZero q| : ℚ) ≤ |q| := by
    have whole : (0 : ℚ) ≤ ⌊q⌋ := by exact_mod_cast Int.floor_nonneg.2 le
    rw [towardZero_of_nonneg le, abs_of_nonneg le, abs_of_nonneg whole]
    exact Int.floor_le q
  rcases le_total 0 q with le | le
  · exact natural le
  · have turned := natural (neg_nonneg.2 le)
    rwa [towardZero_neg, Int.cast_neg, abs_neg, abs_neg] at turned

/-- The integer part of a finite number is computed from its parts. -/
theorem Floating.truncate?_finite (negative : Bool) (m : ℕ) (e : ℤ) :
    truncate? (.finite negative m e) = some (towardZero (ofParts negative m e)) := by
  have whole : ((if 0 ≤ e then m * 2 ^ e.toNat else m / 2 ^ (-e).toNat : ℕ) : ℤ) =
      towardZero (m * 2 ^ e) := by
    obtain ⟨up, down⟩ := fraction_of_scale m e
    rw [towardZero_of_nonneg (by positivity)]
    split
    · next large => rw [← up large, Nat.cast_one, div_one, Int.floor_natCast]
    · next small =>
      rw [← down small, Rat.floor_natCast_div_natCast]
      rfl
  rw [truncate?, ofParts_eq]
  dsimp only [Nat.pow_eq]
  cases negative with
  | false => exact congrArg some whole
  | true => exact congrArg some ((congrArg Neg.neg whole).trans (towardZero_neg _).symm)

/-- A number so large that its digits end before the last bits has zeros there. -/
theorem Format.two_pow_dvd_towardZero {format : Format} {q : ℚ} (has : format.Has q) {n : ℕ}
    (large : 2 ^ (format.precision + n) ≤ |towardZero q|) : 2 ^ n ∣ towardZero q := by
  have magnitude : (2 : ℚ) ^ (format.precision + n) ≤ |q| := by
    refine le_trans ?_ (abs_towardZero_le q)
    exact_mod_cast large
  obtain ⟨k, e, small, -, rfl⟩ := has
  have reaches : (2 : ℚ) ^ (format.precision + n) < 2 ^ (format.precision + e : ℤ) := by
    have significand : |(k : ℚ)| < 2 ^ format.precision := by exact_mod_cast small
    calc (2 : ℚ) ^ (format.precision + n) ≤ |(k : ℚ) * 2 ^ e| := magnitude
      _ = |(k : ℚ)| * 2 ^ e := by rw [abs_mul, abs_of_pos (by positivity : (0 : ℚ) < 2 ^ e)]
      _ < 2 ^ format.precision * 2 ^ e := mul_lt_mul_of_pos_right significand (by positivity)
      _ = 2 ^ (format.precision + e : ℤ) := by rw [zpow_add₀ (by norm_num), zpow_natCast]
  have above : ((format.precision + n : ℕ) : ℤ) < format.precision + e := by
    rw [← zpow_natCast] at reaches
    exact (zpow_lt_zpow_iff_right₀ (by norm_num)).1 reaches
  obtain ⟨more, rfl⟩ : ∃ more : ℕ, e = n + more := ⟨(e - n).toNat, by omega⟩
  have whole : (k : ℚ) * 2 ^ (n + more : ℤ) = ((2 ^ n * (k * 2 ^ more) : ℤ) : ℚ) := by
    rw [zpow_add₀ (by norm_num), zpow_natCast, zpow_natCast]
    push_cast
    ring
  rw [whole, towardZero_intCast]
  exact dvd_mul_right _ _

example : towardZero (-29 / 10) = -2 := by decide +kernel

end SqlPreview.Number
