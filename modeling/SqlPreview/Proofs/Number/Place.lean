import SqlPreview.Proofs.Number.Rounding

/-!
# Floating numbers on the extended line

The conversions to floating numbers work on a numerator and a denominator, bit by bit. Here they
are proved to follow the rule for rounding a rational number.

This file defines the place where a floating number stands (`Floating.place`) and the rational
number that a decimal one denotes (`Decimal.toRat`).

Results:
1. `ofQuotient_cases`: a quotient becomes the nearest number, or infinite where that is too large.
2. `compare?_eq_place`: floating numbers are compared by their places.
3. `place_ofInt`, `place_ofDecimal`: integers and decimal numbers stand where they are rounded to.
-/

namespace SqlPreview.Number

namespace Floating

/-- The number that a significand on a unit denotes. -/
def ofParts (negative : Bool) (m : ℕ) (e : ℤ) : ℚ := signed negative m * 2 ^ e

/-- The place of a floating number on the extended line. -/
noncomputable def place : Floating → EReal
  | .finite negative m e => ((ofParts negative m e : ℝ) : EReal)
  | .infinite negative => if negative then ⊥ else ⊤
  | .nan => 0

end Floating

/-! ## Quotients -/

theorem roundDiv_eq (num : ℕ) {den : ℕ} (positive : 0 < den) :
    ((roundDiv num den : ℕ) : ℤ) = roundEven (num / den) := by
  have fract : Int.fract ((num : ℚ) / den) = ((num % den : ℕ) : ℚ) / den :=
    Int.fract_div_natCast_eq_div_natCast_mod
  have floor : ⌊(num : ℚ) / den⌋ = ((num / den : ℕ) : ℤ) := by
    rw [Rat.floor_natCast_div_natCast]
    rfl
  have below : Int.fract ((num : ℚ) / den) < 1 / 2 ↔ 2 * (num % den) < den := by
    rw [fract, div_lt_div_iff₀ (by exact_mod_cast positive) (by norm_num), ← Nat.cast_lt (α := ℚ)]
    push_cast
    constructor <;> intro <;> linarith
  have above : 1 / 2 < Int.fract ((num : ℚ) / den) ↔ den < 2 * (num % den) := by
    rw [fract, div_lt_div_iff₀ (by norm_num) (by exact_mod_cast positive), ← Nat.cast_lt (α := ℚ)]
    push_cast
    constructor <;> intro <;> linarith
  unfold roundDiv roundEven
  simp only [below, above, floor]
  split_ifs <;> push_cast <;> rfl

theorem scaled_eq (num : ℕ) {den : ℕ} (positive : 0 < den) (e : ℤ) :
    0 < (scaled num den e).2 ∧
      ((scaled num den e).1 : ℚ) / (scaled num den e).2 = (num : ℚ) / den / 2 ^ e := by
  unfold scaled
  split
  · next up =>
    obtain ⟨n, rfl⟩ := Int.eq_ofNat_of_zero_le up
    refine ⟨Nat.mul_pos positive (Nat.pow_pos (by decide)), ?_⟩
    simp only [Nat.pow_eq, Int.toNat_natCast, Nat.cast_mul, Nat.cast_pow, Nat.cast_ofNat,
      zpow_natCast, div_div]
  · next down =>
    obtain ⟨n, rfl⟩ : ∃ n : ℕ, e = -n := ⟨(-e).toNat, by omega⟩
    refine ⟨positive, ?_⟩
    simp only [Nat.pow_eq, neg_neg, Int.toNat_natCast, Nat.cast_mul, Nat.cast_pow, Nat.cast_ofNat,
      zpow_neg, zpow_natCast, div_inv_eq_mul]
    ring

theorem log_eq {r : ℚ} {b : ℤ} (positive : 0 < r) (least : 2 ^ b ≤ r) (below : r < 2 ^ (b + 1)) :
    Int.log 2 r = b := by
  have low : b ≤ Int.log 2 r :=
    (Int.zpow_le_iff_le_log (by norm_num) positive).1 (by exact_mod_cast least)
  have high : Int.log 2 r < b + 1 :=
    (Int.lt_zpow_iff_log_lt (by norm_num) positive).1 (by exact_mod_cast below)
  omega

/-- The digits of both numbers leave two powers of two, of which the first try is the larger. -/
theorem binade_eq {num den : ℕ} (positive : 0 < num) (positive' : 0 < den) :
    binade num den = Int.log 2 ((num : ℚ) / den) := by
  have ratio : (0 : ℚ) < (num : ℚ) / den := by positivity
  have numLow : (2 : ℚ) ^ (num.log2 : ℤ) ≤ num := by
    exact_mod_cast Nat.log2_self_le positive.ne'
  have numHigh : (num : ℚ) < 2 ^ (num.log2 + 1 : ℤ) := by exact_mod_cast Nat.lt_log2_self
  have denLow : (2 : ℚ) ^ (den.log2 : ℤ) ≤ den := by
    exact_mod_cast Nat.log2_self_le positive'.ne'
  have denHigh : (den : ℚ) < 2 ^ (den.log2 + 1 : ℤ) := by exact_mod_cast Nat.lt_log2_self
  have least : (2 : ℚ) ^ ((num.log2 : ℤ) - den.log2 - 1) ≤ num / den := by
    rw [le_div_iff₀ (by positivity)]
    calc (2 : ℚ) ^ ((num.log2 : ℤ) - den.log2 - 1) * den
        ≤ 2 ^ ((num.log2 : ℤ) - den.log2 - 1) * 2 ^ (den.log2 + 1 : ℤ) :=
          mul_le_mul_of_nonneg_left denHigh.le (by positivity)
      _ = 2 ^ (num.log2 : ℤ) := by rw [← zpow_add₀ (by norm_num)]; congr 1; omega
      _ ≤ num := numLow
  have below : (num : ℚ) / den < 2 ^ ((num.log2 : ℤ) - den.log2 + 1) := by
    rw [div_lt_iff₀ (by positivity)]
    calc (num : ℚ) < 2 ^ (num.log2 + 1 : ℤ) := numHigh
      _ = 2 ^ ((num.log2 : ℤ) - den.log2 + 1) * 2 ^ (den.log2 : ℤ) := by
        rw [← zpow_add₀ (by norm_num)]; congr 1; omega
      _ ≤ 2 ^ ((num.log2 : ℤ) - den.log2 + 1) * den :=
        mul_le_mul_of_nonneg_left denLow (by positivity)
  obtain ⟨whole, same⟩ := scaled_eq num positive' ((num.log2 : ℤ) - den.log2)
  have reaches : (scaled num den ((num.log2 : ℤ) - den.log2)).2 ≤
      (scaled num den ((num.log2 : ℤ) - den.log2)).1 ↔
        (2 : ℚ) ^ ((num.log2 : ℤ) - den.log2) ≤ num / den := by
    rw [← one_le_div₀ (by positivity : (0 : ℚ) < 2 ^ ((num.log2 : ℤ) - den.log2)), ← same,
      one_le_div₀ (by exact_mod_cast whole)]
    exact Nat.cast_le.symm
  unfold binade
  dsimp only
  split
  · next reached => exact (log_eq ratio (reaches.1 reached) below).symm
  · next missed =>
    refine (log_eq ratio least ?_).symm
    rw [sub_add_cancel]
    exact not_le.1 (mt reaches.2 missed)

namespace Floating

variable {format : Format}

/-- A rounded significand on its unit. One with a digit too many is half as much on the next unit. -/
def carried (format : Format) (negative : Bool) (m : ℕ) (e : ℤ) : Floating :=
  if m = 2 ^ format.precision then
    if format.high < e + 1 then .infinite negative else .finite negative (m / 2) (e + 1)
  else if format.high < e then .infinite negative else .finite negative m e

theorem ofQuotient_eq (format : Format) (negative : Bool) {num den : ℕ} (positive : 0 < num)
    (positive' : 0 < den) : ∃ m : ℕ, (m : ℚ) * 2 ^ format.unit (num / den) =
        format.nearest (num / den) ∧
      ofQuotient format negative num den =
        carried format negative m (format.unit (num / den)) := by
  have unit : max (binade num den - (format.precision - 1)) format.low =
      format.unit (num / den) := by
    rw [binade_eq positive positive', Format.unit, abs_of_nonneg (by positivity)]
  obtain ⟨whole, same⟩ := scaled_eq num positive' (format.unit (num / den))
  refine ⟨roundDiv (scaled num den (format.unit (num / den))).1
    (scaled num den (format.unit (num / den))).2, ?_, ?_⟩
  · rw [Format.nearest, ← same, ← roundDiv_eq _ whole, Int.cast_natCast]
  · rw [ofQuotient, if_neg positive.ne', unit, carried]
    dsimp only [Nat.pow_eq]
    split <;> rfl

/-- A positive quotient becomes the nearest number, or infinite where that is too large. -/
theorem ofQuotient_cases (precise : 0 < format.precision) (ordered : format.low ≤ format.high)
    (negative : Bool) {num den : ℕ} (positive : 0 < num) (positive' : 0 < den) :
    (∃ m e, ofQuotient format negative num den = .finite negative m e ∧
        (m : ℚ) * 2 ^ e = format.nearest (num / den) ∧
        format.nearest (num / den) < format.limit) ∨
      (ofQuotient format negative num den = .infinite negative ∧
        format.limit ≤ format.nearest (num / den)) := by
  obtain ⟨m, value, same⟩ := ofQuotient_eq format negative positive positive'
  have atMost := Format.nearest_le_of_pos format (num / den : ℚ)
  have least := @Format.le_nearest_of_low_lt_unit format (num / den) precise
    (by positivity)
  rw [same]
  generalize format.unit (num / den) = u at *
  generalize format.nearest (num / den) = v at *
  have power : (2 : ℚ) ^ (format.precision + u) = (2 ^ format.precision : ℕ) * 2 ^ u := by
    rw [zpow_add₀ (by norm_num)]
    push_cast
    rfl
  have reaches {e : ℤ} : format.limit ≤ 2 ^ e ↔ format.precision + format.high ≤ e :=
    zpow_le_zpow_iff_right₀ (by norm_num)
  unfold carried
  split
  · next carry =>
    have whole : v = 2 ^ (format.precision + u) := by rw [power, ← value, carry]
    split
    · next infinite => exact .inr ⟨rfl, whole ▸ reaches.2 (by omega)⟩
    · next finite =>
      refine .inl ⟨_, _, rfl, ?_, ?_⟩
      · have twice : m = 2 * (m / 2) := by
          rw [carry, ← Nat.sub_add_cancel precise, pow_succ]
          omega
        rw [zpow_add_one₀ (by norm_num), ← value]
        conv_rhs => rw [twice]
        push_cast
        ring
      · rw [whole, ← not_le, reaches]
        omega
  · next short =>
    split
    · next infinite =>
      exact .inr ⟨rfl, (reaches.2 (by omega)).trans (least (ordered.trans_lt infinite))⟩
    · next finite =>
      refine .inl ⟨_, _, rfl, value, (lt_of_le_of_ne atMost fun full => short ?_).trans_le ?_⟩
      · rw [← value, power] at full
        exact_mod_cast mul_right_cancel₀ (by positivity) full
      · exact zpow_le_zpow_right₀ (by norm_num) (by omega)

theorem place_zero (format : Format) (negative : Bool) : (zero format negative).place = 0 := by
  cases negative <;> simp [Floating.zero, place, ofParts, signed]

theorem place_ofQuotient (precise : 0 < format.precision) (ordered : format.low ≤ format.high)
    (negative : Bool) (num : ℕ) {den : ℕ} (positive' : 0 < den) :
    (ofQuotient format negative num den).place =
      format.rounded (if negative then -((num : ℚ) / den) else num / den) := by
  have toward (b : Bool) (q : ℚ) :
      format.rounded (if b then -q else q) = if b then -format.rounded q else format.rounded q := by
    cases b
    · rfl
    · exact format.rounded_neg q
  rw [toward]
  rcases Nat.eq_zero_or_pos num with rfl | positive
  · rw [Nat.cast_zero, zero_div, Format.rounded_zero, neg_zero, ite_self, ofQuotient, if_pos rfl,
      place_zero]
  · have notNegative : 0 ≤ format.nearest ((num : ℚ) / den) :=
      Format.nearest_nonneg format (by positivity)
    rcases ofQuotient_cases precise ordered negative positive positive' with
      ⟨m, e, same, value, small⟩ | ⟨same, large⟩
    · rw [same, Format.rounded, Format.onLine_of_abs_lt (by rwa [abs_of_nonneg notNegative]),
        ← value]
      cases negative <;> simp [place, ofParts, signed]
    · rw [same, Format.rounded, Format.onLine_of_limit_le large]
      cases negative <;> simp [place]

theorem ofQuotient_ne_nan (format : Format) (negative : Bool) (num den : ℕ) :
    ofQuotient format negative num den ≠ .nan := by
  unfold ofQuotient zero
  dsimp only
  repeat' split
  all_goals exact nofun

theorem place_ofInt (precise : 0 < format.precision) (ordered : format.low ≤ format.high)
    (n : ℤ) : (ofInt format n).place = format.rounded n := by
  rw [ofInt, place_ofQuotient precise ordered _ _ Nat.one_pos, Nat.cast_one, div_one]
  congr 1
  rcases lt_or_ge n 0 with negative | notNegative
  · have size : (n.natAbs : ℤ) = -n := Int.ofNat_natAbs_of_nonpos negative.le
    rw [decide_eq_true negative, if_pos rfl, ← Int.cast_natCast, size, Int.cast_neg, neg_neg]
  · have size : (n.natAbs : ℤ) = n := Int.natAbs_of_nonneg notNegative
    rw [decide_eq_false (not_lt.2 notNegative), if_neg Bool.false_ne_true, ← Int.cast_natCast, size]

end Floating

/-! ## Decimal numbers -/

/-- The number of digits says between which powers of ten a number lies. -/
theorem toDigits_bounds {n : ℕ} (positive : n ≠ 0) :
    10 ^ ((Nat.toDigits 10 n).length - 1) ≤ n ∧ n < 10 ^ (Nat.toDigits 10 n).length := by
  constructor
  · rcases Nat.eq_zero_or_pos ((Nat.toDigits 10 n).length - 1) with zero | more
    · rw [zero, pow_zero]
      exact Nat.pos_of_ne_zero positive
    · by_contra small
      have := (Nat.length_toDigits_le_iff (by decide) more).2 (not_le.1 small)
      omega
  · exact (Nat.length_toDigits_le_iff (by decide) Nat.length_toDigits_pos).1 le_rfl

namespace Decimal

/-- The rational number that a decimal one denotes. -/
def toRat (d : Decimal) : ℚ := Floating.signed d.negative d.coefficient * 10 ^ d.exponent

theorem toRat_eq (d : Decimal) :
    d.toRat = if d.negative then -((d.coefficient : ℚ) * 10 ^ d.exponent)
      else (d.coefficient : ℚ) * 10 ^ d.exponent := by
  obtain ⟨negative, c, e⟩ := d
  cases negative <;> simp [toRat, Floating.signed]

theorem abs_toRat (d : Decimal) : |d.toRat| = d.coefficient * 10 ^ d.exponent := by
  have : (0 : ℚ) ≤ d.coefficient * 10 ^ d.exponent := by positivity
  rw [toRat_eq]
  split
  · rw [abs_neg, abs_of_nonneg this]
  · rw [abs_of_nonneg this]

/-- The digits of a number say between which powers of ten it lies. -/
theorem abs_toRat_bounds {d : Decimal} (positive : d.coefficient ≠ 0) :
    (10 : ℚ) ^ (d.digitCount + d.exponent - 1) ≤ |d.toRat| ∧
      |d.toRat| < 10 ^ (d.digitCount + d.exponent) := by
  have count : d.digitCount = (Nat.toDigits 10 d.coefficient).length := if_neg positive
  have some : 0 < d.digitCount := count ▸ Nat.length_toDigits_pos
  obtain ⟨least, high⟩ := toDigits_bounds positive
  rw [← count] at least high
  rw [abs_toRat]
  constructor
  · have split : (10 : ℚ) ^ (d.digitCount + d.exponent - 1) =
        (10 ^ (d.digitCount - 1) : ℕ) * 10 ^ d.exponent := by
      rw [Nat.cast_pow, ← zpow_natCast, Nat.cast_ofNat, ← zpow_add₀ (by norm_num)]
      congr 1
      omega
    rw [split]
    exact mul_le_mul_of_nonneg_right (by exact_mod_cast least) (by positivity)
  · rw [zpow_add₀ (by norm_num), zpow_natCast]
    exact mul_lt_mul_of_pos_right (by exact_mod_cast high) (by positivity)

end Decimal

namespace Floating

theorem two_pow_le_ten_pow {a b : ℕ} (le : a ≤ 3 * b) : (2 : ℚ) ^ a ≤ 10 ^ b :=
  calc (2 : ℚ) ^ a ≤ 2 ^ (3 * b) := pow_le_pow_right₀ (by norm_num) le
    _ = 8 ^ b := by rw [pow_mul]; norm_num
    _ ≤ 10 ^ b := pow_le_pow_left₀ (by norm_num) (by norm_num) b

/-- Far from one, where the power of ten is not computed, the nearest number is zero or infinite. -/
theorem place_ofDecimal (d : Decimal) :
    (ofDecimal .double d).place = Format.double.rounded d.toRat := by
  have precise : 0 < Format.double.precision := by decide
  have ordered : Format.double.low ≤ Format.double.high := by decide
  unfold ofDecimal
  dsimp only [Nat.pow_eq]
  split_ifs with tiny huge whole
  · rw [place_zero]
    refine (Format.rounded_of_small precise ?_).symm
    rcases eq_or_ne d.coefficient 0 with zero | nonzero
    · rw [Decimal.abs_toRat, zero, Nat.cast_zero, zero_mul]
      positivity
    · have small : (d.digitCount : ℤ) + d.exponent ≤ -401 := by
        rw [Bool.or_eq_true, decide_eq_true_eq, decide_eq_true_eq] at tiny
        exact Int.le_sub_one_of_lt (tiny.resolve_left nonzero)
      calc |d.toRat| ≤ 10 ^ (d.digitCount + d.exponent) := (Decimal.abs_toRat_bounds nonzero).2.le
        _ ≤ 10 ^ (-401 : ℤ) := zpow_le_zpow_right₀ (by norm_num) small
        _ ≤ 2 ^ (Format.double.low - 1) := by
          rw [show Format.double.low - 1 = -(1075 : ℕ) from rfl,
            show (-401 : ℤ) = -(401 : ℕ) from rfl, zpow_neg, zpow_neg, zpow_natCast, zpow_natCast]
          exact inv_anti₀ (by positivity) (two_pow_le_ten_pow (by decide))
  · have nonzero : d.coefficient ≠ 0 := by
      rintro zero
      rw [zero] at tiny
      exact tiny rfl
    have large : Format.double.limit ≤ d.coefficient * 10 ^ d.exponent := by
      rw [← Decimal.abs_toRat]
      have limit : Format.double.limit ≤ 10 ^ (400 : ℤ) :=
        two_pow_le_ten_pow (a := 1024) (b := 400) (by decide)
      calc Format.double.limit ≤ 10 ^ (400 : ℤ) := limit
        _ ≤ 10 ^ (d.digitCount + d.exponent - 1) := zpow_le_zpow_right₀ (by norm_num) (by omega)
        _ ≤ |d.toRat| := (Decimal.abs_toRat_bounds nonzero).1
    rw [d.toRat_eq]
    cases d.negative
    · exact (Format.rounded_of_large precise ordered large).symm
    · rw [if_pos rfl, Format.rounded_neg, Format.rounded_of_large precise ordered large,
        EReal.neg_top]
      rfl
  · obtain ⟨n, same⟩ := Int.eq_ofNat_of_zero_le whole
    rw [place_ofQuotient precise ordered _ _ Nat.one_pos, d.toRat_eq, same, zpow_natCast,
      Int.toNat_natCast, Nat.cast_one, div_one]
    push_cast
    rfl
  · obtain ⟨n, same⟩ : ∃ n : ℕ, d.exponent = -n := ⟨(-d.exponent).toNat, by omega⟩
    rw [place_ofQuotient precise ordered _ _ (Nat.pow_pos (by decide)), d.toRat_eq, same, neg_neg,
      Int.toNat_natCast, zpow_neg, zpow_natCast, ← div_eq_mul_inv]
    push_cast
    rfl

theorem ofDecimal_ne_nan (format : Format) (d : Decimal) : ofDecimal format d ≠ .nan := by
  unfold ofDecimal
  dsimp only
  split_ifs
  · exact nofun
  · exact nofun
  · exact ofQuotient_ne_nan _ _ _ _
  · exact ofQuotient_ne_nan _ _ _ _

/-! ## Comparison -/

theorem aligned_eq {low e : ℤ} (le : low ≤ e) (m : ℤ) :
    ((m * Nat.pow 2 (e - low).toNat : ℤ) : ℚ) * 2 ^ low = m * 2 ^ e := by
  obtain ⟨n, rfl⟩ := Int.le.dest le
  rw [add_sub_cancel_left, Int.toNat_natCast, zpow_add₀ (by norm_num), zpow_natCast, Nat.pow_eq]
  push_cast
  ring

theorem compare?_eq_place {x y : Floating} (number : x ≠ .nan) (number' : y ≠ .nan) :
    compare? x y = some (compare x.place y.place) := by
  cases x with
  | nan => exact absurd rfl number
  | infinite a =>
    cases y with
    | nan => exact absurd rfl number'
    | infinite b =>
      cases a <;> cases b <;> symm
      · exact congrArg some (compare_eq_iff_eq.2 rfl)
      · exact congrArg some (compare_gt_iff_gt.2 bot_lt_top)
      · exact congrArg some (compare_lt_iff_lt.2 bot_lt_top)
      · exact congrArg some (compare_eq_iff_eq.2 rfl)
    | finite b m e =>
      cases a <;> symm
      · exact congrArg some (compare_gt_iff_gt.2 (EReal.coe_lt_top _))
      · exact congrArg some (compare_lt_iff_lt.2 (EReal.bot_lt_coe _))
  | finite a m e =>
    cases y with
    | nan => exact absurd rfl number'
    | infinite b =>
      cases b <;> symm
      · exact congrArg some (compare_lt_iff_lt.2 (EReal.coe_lt_top _))
      · exact congrArg some (compare_gt_iff_gt.2 (EReal.bot_lt_coe _))
    | finite b m' e' =>
      have onUnit : StrictMono fun k : ℤ => ((((k : ℚ) * 2 ^ min e e' : ℚ) : ℝ) : EReal) := by
        intro k k' lt
        have : (k : ℚ) * 2 ^ min e e' < k' * 2 ^ min e e' :=
          mul_lt_mul_of_pos_right (by exact_mod_cast lt) (by positivity)
        exact EReal.coe_lt_coe_iff.2 (by exact_mod_cast this)
      have same := onUnit.cmp_map_eq (aligned (signed a m) e (signed b m') e').1
        (aligned (signed a m) e (signed b m') e').2.1
      rw [cmp_eq_compare, cmp_eq_compare] at same
      rw [place, place, ofParts, ofParts, ← aligned_eq (min_le_left e e'),
        ← aligned_eq (min_le_right e e')]
      exact congrArg some same.symm

end Floating

end SqlPreview.Number
