import Mathlib
import SqlPreview.Number.Floating

/-!
# Rounding rational numbers

Which number of a format a rational number becomes. The rule is stated on the rational number
alone: how it is written makes no difference, and rounding keeps the order.

This file defines:
1. rounding to integers (`roundEven`) and to the numbers of a format (`Format.nearest`);
2. the place on the extended line that a rational number has after rounding (`Format.rounded`).

Results:
1. `abs_nearest_sub_le`: no number of the format is nearer than the nearest.
2. `rounded_mono`: rounding keeps the order.
-/

namespace SqlPreview.Number

/-! ## To integers -/

/-- The integer is nearest to a number, and the even one of two that are equally near. -/
structure IsNearestInteger (q : ℚ) (n : ℤ) : Prop where
  near : |(n : ℚ) - q| ≤ 1 / 2
  even : |(n : ℚ) - q| = 1 / 2 → Even n

/-- A number to the nearest integer, a half to the even one. -/
def roundEven (q : ℚ) : ℤ :=
  if Int.fract q < 1 / 2 then ⌊q⌋ else if 1 / 2 < Int.fract q then ⌊q⌋ + 1 else ⌊q⌋ + ⌊q⌋ % 2

namespace IsNearestInteger

variable {p q : ℚ} {m n : ℤ}

theorem mono (le : p ≤ q) (nearest : IsNearestInteger p m) (nearest' : IsNearestInteger q n) :
    m ≤ n := by
  by_contra lt
  have step : (n : ℚ) + 1 ≤ m := by exact_mod_cast not_le.1 lt
  have near := abs_le.1 nearest.near
  have near' := abs_le.1 nearest'.near
  -- Then both numbers lie on one half, from where one rounds up and the other down.
  have half : (m : ℚ) - p = 1 / 2 := by linarith
  have half' : (n : ℚ) - q = -(1 / 2) := by linarith
  have even := nearest.even (by rw [half]; norm_num)
  have even' := nearest'.even (by rw [half']; norm_num)
  have next : m = n + 1 := by
    have : (m : ℚ) = n + 1 := by linarith
    exact_mod_cast this
  rw [next] at even
  exact Int.even_add_one.1 even even'

theorem unique (nearest : IsNearestInteger q m) (nearest' : IsNearestInteger q n) : m = n :=
  le_antisymm (nearest.mono le_rfl nearest') (nearest'.mono le_rfl nearest)

theorem neg (nearest : IsNearestInteger q n) : IsNearestInteger (-q) (-n) := by
  have same : |((-n : ℤ) : ℚ) - -q| = |(n : ℚ) - q| := by
    rw [← abs_neg]
    congr 1
    push_cast
    ring
  refine ⟨same ▸ nearest.near, fun half => ?_⟩
  exact (nearest.even (same ▸ half)).neg

theorem intCast (n : ℤ) : IsNearestInteger n n := by
  constructor <;> rw [sub_self, abs_zero] <;> norm_num

end IsNearestInteger

theorem isNearestInteger_roundEven (q : ℚ) : IsNearestInteger q (roundEven q) := by
  have whole := Int.floor_add_fract q
  have low := Int.fract_nonneg q
  have high := Int.fract_lt_one q
  unfold roundEven
  split_ifs with below above
  · refine ⟨abs_le.2 ⟨by linarith, by linarith⟩, fun half => ?_⟩
    rcases (abs_eq (by norm_num)).1 half with half | half <;> linarith
  · have next : ((⌊q⌋ + 1 : ℤ) : ℚ) = ⌊q⌋ + 1 := by push_cast; rfl
    refine ⟨abs_le.2 ⟨by linarith, by linarith⟩, fun half => ?_⟩
    rcases (abs_eq (by norm_num)).1 half with half | half <;> linarith
  · have even : Even (⌊q⌋ + ⌊q⌋ % 2) := by rw [Int.even_iff]; omega
    refine ⟨abs_le.2 ?_, fun _ => even⟩
    rcases Int.emod_two_eq_zero_or_one ⌊q⌋ with parity | parity <;> rw [parity] <;> push_cast <;>
      exact ⟨by linarith, by linarith⟩

theorem roundEven_mono {p q : ℚ} (le : p ≤ q) : roundEven p ≤ roundEven q :=
  (isNearestInteger_roundEven p).mono le (isNearestInteger_roundEven q)

theorem roundEven_neg (q : ℚ) : roundEven (-q) = -roundEven q :=
  (isNearestInteger_roundEven (-q)).unique (isNearestInteger_roundEven q).neg

theorem roundEven_intCast (n : ℤ) : roundEven n = n :=
  (isNearestInteger_roundEven n).unique (.intCast n)

theorem abs_roundEven_sub_le (q : ℚ) (n : ℤ) : |(roundEven q : ℚ) - q| ≤ |(n : ℚ) - q| := by
  by_cases same : roundEven q = n
  · rw [same]
  -- Another integer is at least one away from it.
  have apart : (1 : ℚ) ≤ |(roundEven q : ℚ) - n| := by
    have : (1 : ℤ) ≤ |roundEven q - n| := Int.one_le_abs (sub_ne_zero.2 same)
    exact_mod_cast this
  have near := (isNearestInteger_roundEven q).near
  have path : |(roundEven q : ℚ) - n| ≤ |(roundEven q : ℚ) - q| + |(n : ℚ) - q| := by
    rw [abs_sub_comm (n : ℚ)]
    exact abs_sub_le _ _ _
  linarith

/-! ## To the numbers of a format -/

namespace Format

variable {format : Format} {p q : ℚ}

/-- The exponent of the unit on which a number is rounded: its first digit is the first of the
significand, unless the unit cannot shrink that far. -/
def unit (format : Format) (q : ℚ) : ℤ :=
  max (Int.log 2 |q| - (format.precision - 1)) format.low

/-- The number that a format has for a rational one, its exponents being without a bound above. -/
def nearest (format : Format) (q : ℚ) : ℚ :=
  roundEven (q / 2 ^ format.unit q) * 2 ^ format.unit q

/-- Numbers of this magnitude are too large for a format. -/
def limit (format : Format) : ℚ := 2 ^ (format.precision + format.high)

/-- The numbers of a format, its exponents being without a bound above. -/
def Has (format : Format) (x : ℚ) : Prop :=
  ∃ k e : ℤ, |k| < 2 ^ format.precision ∧ format.low ≤ e ∧ x = k * 2 ^ e

theorem nearest_neg (format : Format) (q : ℚ) : format.nearest (-q) = -format.nearest q := by
  have same : format.unit (-q) = format.unit q := by rw [unit, unit, abs_neg]
  rw [nearest, nearest, same, neg_div, roundEven_neg]
  push_cast
  ring

theorem nearest_zero (format : Format) : format.nearest 0 = 0 := by
  have : roundEven 0 = 0 := by exact_mod_cast roundEven_intCast 0
  rw [nearest, zero_div, this, Int.cast_zero, zero_mul]

theorem nearest_nonneg (format : Format) (le : 0 ≤ q) : 0 ≤ format.nearest q := by
  have : roundEven ((0 : ℤ) : ℚ) ≤ roundEven (q / 2 ^ format.unit q) :=
    roundEven_mono (by push_cast; positivity)
  rw [roundEven_intCast] at this
  have : (0 : ℚ) ≤ roundEven (q / 2 ^ format.unit q) := by exact_mod_cast this
  rw [nearest]
  positivity

/-- Where the integers on a unit reach at least an integer, so does the rounded number. -/
theorem le_nearest {k : ℤ} (le : k * 2 ^ format.unit q ≤ q) :
    k * 2 ^ format.unit q ≤ format.nearest q := by
  have scaled : (k : ℚ) ≤ q / 2 ^ format.unit q := (le_div_iff₀ (by positivity)).2 le
  have : (k : ℚ) ≤ roundEven (q / 2 ^ format.unit q) := by
    exact_mod_cast roundEven_intCast k ▸ roundEven_mono scaled
  exact mul_le_mul_of_nonneg_right this (by positivity)

theorem nearest_le {k : ℤ} (le : q ≤ k * 2 ^ format.unit q) :
    format.nearest q ≤ k * 2 ^ format.unit q := by
  have scaled : q / 2 ^ format.unit q ≤ k := (div_le_iff₀ (by positivity)).2 le
  have : (roundEven (q / 2 ^ format.unit q) : ℚ) ≤ k := by
    exact_mod_cast roundEven_intCast k ▸ roundEven_mono scaled
  exact mul_le_mul_of_nonneg_right this (by positivity)

theorem abs_lt_of_unit (format : Format) (q : ℚ) :
    |q| < 2 ^ (format.precision + format.unit q) := by
  have below : |q| < ((2 : ℕ) : ℚ) ^ (Int.log 2 |q| + 1) := Int.lt_zpow_succ_log_self (by norm_num) _
  refine lt_of_lt_of_le (by exact_mod_cast below) (zpow_le_zpow_right₀ (by norm_num) ?_)
  have := le_max_left (Int.log 2 |q| - (format.precision - 1)) format.low
  rw [unit]
  omega

/-- Where the unit could shrink further, the number has all the digits of the format. -/
theorem le_of_low_lt_unit (positive : 0 < q) (above : format.low < format.unit q) :
    2 ^ (format.precision - 1 + format.unit q) ≤ q := by
  have least : ((2 : ℕ) : ℚ) ^ Int.log 2 |q| ≤ |q| :=
    Int.zpow_log_le_self (by norm_num) (abs_pos.2 positive.ne')
  rw [abs_of_pos positive] at least
  have same : format.precision - 1 + format.unit q = Int.log 2 q := by
    rw [unit, abs_of_pos positive] at above ⊢
    omega
  rw [same]
  exact_mod_cast least

theorem unit_mono (positive : 0 < p) (le : p ≤ q) : format.unit p ≤ format.unit q := by
  have log : Int.log 2 |p| ≤ Int.log 2 |q| := by
    rw [abs_of_pos positive, abs_of_pos (positive.trans_le le)]
    exact Int.log_mono_right positive le
  exact max_le_max_right _ (by omega)

theorem nearest_le_of_pos (format : Format) (q : ℚ) :
    format.nearest q ≤ 2 ^ (format.precision + format.unit q) := by
  have split : ((2 ^ format.precision : ℤ) : ℚ) * 2 ^ format.unit q =
      2 ^ (format.precision + format.unit q) := by
    rw [zpow_add₀ (by norm_num)]
    push_cast
    rfl
  rw [← split]
  exact nearest_le (split ▸ (le_abs_self q).trans (abs_lt_of_unit format q).le)

/-- The least significand with all its digits, on the unit of a number. -/
theorem leading_eq (precise : 0 < format.precision) :
    ((2 ^ (format.precision - 1) : ℤ) : ℚ) * 2 ^ format.unit q =
      2 ^ (format.precision - 1 + format.unit q) := by
  rw [zpow_add₀ (by norm_num), ← Nat.cast_pred precise]
  push_cast
  rfl

theorem le_nearest_of_low_lt_unit (precise : 0 < format.precision) (positive : 0 < q)
    (above : format.low < format.unit q) :
    2 ^ (format.precision - 1 + format.unit q) ≤ format.nearest q := by
  rw [← leading_eq precise]
  exact le_nearest (leading_eq (q := q) precise ▸ le_of_low_lt_unit positive above)

/-- Numbers on different units are kept apart by a power of two. -/
theorem nearest_mono_of_pos (precise : 0 < format.precision) (positive : 0 < p) (le : p ≤ q) :
    format.nearest p ≤ format.nearest q := by
  have units : format.unit p ≤ format.unit q := unit_mono positive le
  rcases units.eq_or_lt with same | lt
  · rw [nearest, nearest, ← same]
    have : (roundEven (p / 2 ^ format.unit p) : ℚ) ≤ roundEven (q / 2 ^ format.unit p) := by
      exact_mod_cast roundEven_mono (div_le_div_of_nonneg_right le (by positivity))
    exact mul_le_mul_of_nonneg_right this (by positivity)
  · have above : format.low < format.unit q := (le_max_right _ _).trans_lt lt
    calc format.nearest p ≤ 2 ^ (format.precision + format.unit p) := nearest_le_of_pos format p
      _ ≤ 2 ^ (format.precision - 1 + format.unit q) :=
        zpow_le_zpow_right₀ (by norm_num) (by omega)
      _ ≤ format.nearest q := le_nearest_of_low_lt_unit precise (positive.trans_le le) above

theorem nearest_mono (precise : 0 < format.precision) (le : p ≤ q) :
    format.nearest p ≤ format.nearest q := by
  rcases lt_or_ge 0 p with positive | notPositive
  · exact nearest_mono_of_pos precise positive le
  · rcases lt_or_ge q 0 with negative | notNegative
    · have turned := nearest_mono_of_pos precise (neg_pos.2 negative) (neg_le_neg le)
      rw [nearest_neg, nearest_neg] at turned
      exact neg_le_neg_iff.1 turned
    · have below := nearest_nonneg format (neg_nonneg.2 notPositive)
      rw [nearest_neg] at below
      exact (neg_nonneg.1 below).trans (nearest_nonneg format notNegative)

theorem abs_nearest_sub_le_of_unit (q : ℚ) (k : ℤ) :
    |format.nearest q - q| ≤ |k * 2 ^ format.unit q - q| := by
  have positive : (0 : ℚ) < 2 ^ format.unit q := by positivity
  have scaled (n : ℤ) : |(n : ℚ) * 2 ^ format.unit q - q| =
      |(n : ℚ) - q / 2 ^ format.unit q| * 2 ^ format.unit q := by
    rw [← abs_of_pos positive, ← abs_mul, abs_of_pos positive, sub_mul,
      div_mul_cancel₀ _ positive.ne']
  rw [nearest, scaled, scaled]
  exact mul_le_mul_of_nonneg_right (abs_roundEven_sub_le _ k) positive.le

/-- A number on a smaller unit lies in front of the least one that has all its digits on the larger,
and that one is no nearer than the nearest. -/
theorem abs_nearest_sub_le_of_pos (precise : 0 < format.precision) (positive : 0 < q) {k e : ℤ}
    (small : |k| < 2 ^ format.precision) (within : format.low ≤ e) :
    |format.nearest q - q| ≤ |(k : ℚ) * 2 ^ e - q| := by
  rcases le_or_gt (format.unit q) e with le | lt
  · obtain ⟨n, rfl⟩ := Int.le.dest le
    have whole : (k : ℚ) * 2 ^ (format.unit q + n) = ((k * 2 ^ n : ℤ) : ℚ) * 2 ^ format.unit q := by
      rw [zpow_add₀ (by norm_num)]
      push_cast
      rw [zpow_natCast]
      ring
    rw [whole]
    exact abs_nearest_sub_le_of_unit q _
  · have least := le_of_low_lt_unit positive (within.trans_lt lt)
    have front : (k : ℚ) * 2 ^ e ≤ 2 ^ (format.precision - 1 + format.unit q) := by
      have : (k : ℚ) ≤ 2 ^ (format.precision : ℤ) := by
        rw [zpow_natCast]
        exact_mod_cast ((le_abs_self k).trans_lt small).le
      calc (k : ℚ) * 2 ^ e ≤ 2 ^ (format.precision : ℤ) * 2 ^ e :=
            mul_le_mul_of_nonneg_right this (by positivity)
        _ = 2 ^ (format.precision + e) := (zpow_add₀ (by norm_num) _ _).symm
        _ ≤ _ := zpow_le_zpow_right₀ (by norm_num) (by omega)
    have onUnit := @abs_nearest_sub_le_of_unit format q (2 ^ (format.precision - 1))
    rw [leading_eq precise, abs_of_nonpos (sub_nonpos.2 least)] at onUnit
    rw [abs_of_nonpos (sub_nonpos.2 (front.trans least))]
    linarith

theorem abs_nearest_sub_le (precise : 0 < format.precision) {x : ℚ} (has : format.Has x) :
    |format.nearest q - q| ≤ |x - q| := by
  obtain ⟨k, e, small, within, rfl⟩ := has
  rcases lt_trichotomy q 0 with negative | rfl | positive
  · have turned := abs_nearest_sub_le_of_pos precise (neg_pos.2 negative)
      (k := -k) (by rwa [abs_neg]) within
    rw [nearest_neg, neg_sub_neg, abs_sub_comm q] at turned
    refine turned.trans_eq ?_
    rw [← abs_neg]
    congr 1
    push_cast
    ring
  · rw [nearest_zero, sub_zero, abs_zero]
    exact abs_nonneg _
  · exact abs_nearest_sub_le_of_pos precise positive small within

/-! ## On the extended line -/

/-- A number on the extended line, where those that are too large are infinite. -/
noncomputable def onLine (format : Format) (v : ℚ) : EReal :=
  if format.limit ≤ v then ⊤ else if v ≤ -format.limit then ⊥ else ((v : ℝ) : EReal)

/-- The place on the extended line of what a format has for a rational number. -/
noncomputable def rounded (format : Format) (q : ℚ) : EReal := format.onLine (format.nearest q)

theorem limit_pos (format : Format) : 0 < format.limit := zpow_pos (by norm_num) _

theorem onLine_of_limit_le {v : ℚ} (le : format.limit ≤ v) : format.onLine v = ⊤ := if_pos le

theorem onLine_of_abs_lt {v : ℚ} (lt : |v| < format.limit) : format.onLine v = ((v : ℝ) : EReal) := by
  obtain ⟨low, high⟩ := abs_lt.1 lt
  rw [onLine, if_neg (not_le.2 high), if_neg (not_le.2 low)]

theorem onLine_neg (format : Format) (v : ℚ) : format.onLine (-v) = -format.onLine v := by
  have positive := limit_pos format
  rcases le_or_gt format.limit v with high | high
  · rw [onLine_of_limit_le high, onLine, if_neg (by linarith), if_pos (neg_le_neg high),
      EReal.neg_top]
  rcases le_or_gt v (-format.limit) with low | low
  · rw [onLine_of_limit_le (by linarith), onLine, if_neg (by linarith), if_pos low, EReal.neg_bot]
  · have within : |v| < format.limit := abs_lt.2 ⟨low, high⟩
    rw [onLine_of_abs_lt within, onLine_of_abs_lt (by rwa [abs_neg]), Rat.cast_neg, EReal.coe_neg]

theorem onLine_mono : Monotone format.onLine := by
  intro v w le
  unfold onLine
  by_cases high : format.limit ≤ w
  · rw [if_pos high]
    exact le_top
  rw [if_neg high, if_neg fun high' => high (high'.trans le)]
  by_cases low : v ≤ -format.limit
  · rw [if_pos low]
    exact bot_le
  rw [if_neg low, if_neg fun low' => low (le.trans low')]
  exact EReal.coe_le_coe_iff.2 (by exact_mod_cast le)

theorem rounded_neg (format : Format) (q : ℚ) : format.rounded (-q) = -format.rounded q := by
  rw [rounded, nearest_neg, onLine_neg, rounded]

theorem rounded_mono (precise : 0 < format.precision) (le : p ≤ q) :
    format.rounded p ≤ format.rounded q :=
  onLine_mono (nearest_mono precise le)

theorem nearest_of_has (precise : 0 < format.precision) (has : format.Has q) :
    format.nearest q = q := by
  have near := abs_nearest_sub_le (q := q) precise has
  rw [sub_self, abs_zero] at near
  exact sub_eq_zero.1 (abs_nonpos_iff.1 near)

theorem rounded_zero (format : Format) : format.rounded 0 = 0 := by
  rw [rounded, nearest_zero, onLine_of_abs_lt (by rw [abs_zero]; exact limit_pos format)]
  simp

/-- What is at most half of the smallest positive number of the format becomes zero. -/
theorem rounded_of_small (precise : 0 < format.precision)
    (small : |q| ≤ 2 ^ (format.low - 1)) : format.rounded q = 0 := by
  rcases eq_or_ne q 0 with rfl | nonzero
  · exact rounded_zero format
  have unit : format.unit q = format.low := by
    have log : Int.log 2 |q| ≤ format.low - 1 := by
      have power : Int.log 2 ((2 : ℚ) ^ (format.low - 1)) = format.low - 1 := by
        exact_mod_cast Int.log_zpow (R := ℚ) (b := 2) (by norm_num) (format.low - 1)
      rw [← power]
      exact Int.log_mono_right (abs_pos.2 nonzero) small
    rw [Format.unit]
    omega
  have half : |q / 2 ^ format.low| ≤ 1 / 2 := by
    rw [abs_div, abs_of_pos (by positivity : (0 : ℚ) < 2 ^ format.low),
      div_le_iff₀ (by positivity)]
    rw [zpow_sub_one₀ (by norm_num)] at small
    linarith
  have integer : roundEven (q / 2 ^ format.low) = 0 := by
    refine (isNearestInteger_roundEven _).unique ⟨?_, fun _ => Even.zero⟩
    rwa [Int.cast_zero, zero_sub, abs_neg]
  have zero : format.nearest q = format.nearest 0 := by
    rw [nearest, unit, integer, Int.cast_zero, zero_mul, nearest_zero]
  rw [rounded, zero, ← rounded, rounded_zero]

theorem rounded_of_large (precise : 0 < format.precision) (ordered : format.low ≤ format.high)
    (large : format.limit ≤ q) : format.rounded q = ⊤ := by
  have has : format.Has format.limit := by
    refine ⟨1, format.precision + format.high, ?_, by omega, by rw [limit]; simp⟩
    rw [abs_one]
    exact one_lt_pow₀ (by norm_num) precise.ne'
  refine onLine_of_limit_le ?_
  rw [← nearest_of_has precise has]
  exact nearest_mono precise large

end Format

end SqlPreview.Number
