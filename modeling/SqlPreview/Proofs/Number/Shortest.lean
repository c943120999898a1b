import SqlPreview.Proofs.Number.Formats
import SqlPreview.Proofs.Number.Written

/-!
# Shortest digits

The search for the shortest digits compares natural numbers over a common denominator. Here it is
described on rational numbers.

This file defines the numbers in an interval (`RoundingInterval.Contains`), and intervals that have a
number between their ends (`RoundingInterval.Proper`).

Results:
1. `holds_iff`, `of_nearest?`, `nearest?_isSome`, `place_spec`: what the parts of the search find.
   `Contains.toRat_eq`: a narrow interval has one multiple of a unit.
2. `contains_ofQuotient`: what is rounded to a number lies in the interval of that number.
3. `toRat_shortest`: digits in the interval are found, if there is no room in it for any others.
4. `toRat_shortest_ofQuotient`: a decimal number of at most 15 digits is found again in what it is
   rounded to. `Layout.chosen_at_most`: no number is written with more than 17 digits.
-/

namespace SqlPreview.Number

/-- Digits on a unit as a fraction of natural numbers. -/
theorem scaled_ten {c : ℕ} {unit : ℤ} {parts : ℕ × ℕ}
    (scaled : (if 0 ≤ unit then (c * 10 ^ unit.toNat, 1) else (c, 10 ^ (-unit).toNat)) = parts) :
    0 < parts.2 ∧ (parts.1 : ℚ) / parts.2 = c * 10 ^ unit := by
  split at scaled
  · next up =>
    obtain ⟨n, rfl⟩ := Int.eq_ofNat_of_zero_le up
    cases scaled
    exact ⟨Nat.one_pos, by simp⟩
  · next down =>
    obtain ⟨n, rfl⟩ : ∃ n : ℕ, unit = -n := ⟨(-unit).toNat, by omega⟩
    cases scaled
    exact ⟨by positivity, by simp [div_eq_mul_inv]⟩

/-! ## Intervals -/

namespace RoundingInterval

/-- The ends of an interval, and the number that it is about. -/
def low (interval : RoundingInterval) : ℚ := interval.lower / interval.denominator

def number (interval : RoundingInterval) : ℚ := interval.value / interval.denominator

def high (interval : RoundingInterval) : ℚ := interval.upper / interval.denominator

/-- A number lies in an interval, which has its ends or has not. -/
def Contains (interval : RoundingInterval) (q : ℚ) : Prop :=
  if interval.closed then interval.low ≤ q ∧ q ≤ interval.high
  else interval.low < q ∧ q < interval.high

/-- The number of an interval is positive and lies between the ends. -/
structure Proper (interval : RoundingInterval) : Prop where
  denominator : 0 < interval.denominator
  value : 0 < interval.value
  below : interval.lower < interval.value
  above : interval.value < interval.upper

variable {interval : RoundingInterval} {p q r : ℚ}

theorem Contains.bounds (contains : interval.Contains q) :
    interval.low ≤ q ∧ q ≤ interval.high := by
  unfold Contains at contains
  split at contains
  · exact contains
  · exact ⟨contains.1.le, contains.2.le⟩

theorem Contains.between (first : interval.Contains p) (last : interval.Contains r) (le : p ≤ q)
    (le' : q ≤ r) : interval.Contains q := by
  unfold Contains at first last ⊢
  split at first
  · next closed =>
    rw [if_pos closed] at last ⊢
    exact ⟨first.1.trans le, le'.trans last.2⟩
  · next opened =>
    rw [if_neg opened] at last ⊢
    exact ⟨first.1.trans_le le, le'.trans_lt last.2⟩

/-- In a narrow interval two numbers are less than a unit apart. -/
theorem Contains.lt_add {unit : ℤ} (narrow : interval.high < interval.low + 10 ^ unit)
    (first : interval.Contains p) (last : interval.Contains q) : p < q + 10 ^ unit :=
  calc p ≤ interval.high := first.bounds.2
    _ < interval.low + 10 ^ unit := narrow
    _ ≤ q + 10 ^ unit := add_le_add_left last.bounds.1 _

/-- So it has no room for two multiples of the unit. -/
theorem Contains.toRat_eq {unit : ℤ} (narrow : interval.high < interval.low + 10 ^ unit) {c : ℕ}
    (contains : interval.Contains (c * 10 ^ unit)) {d : Digits} (inside : interval.Contains d.toRat)
    (coarse : unit ≤ d.unit) : d.toRat = c * 10 ^ unit := by
  have power : (0 : ℚ) < 10 ^ unit := by positivity
  obtain ⟨more, same⟩ := Int.le.dest coarse
  have multiple : d.toRat = (d.digits * 10 ^ more : ℕ) * 10 ^ unit := by
    rw [Digits.toRat, ← same, add_comm, zpow_add₀ (by norm_num), zpow_natCast]
    push_cast
    ring
  have below := inside.lt_add narrow contains
  have above := contains.lt_add narrow inside
  rw [multiple, ← add_one_mul, mul_lt_mul_iff_left₀ power] at below above
  have le : d.digits * 10 ^ more < c + 1 := by exact_mod_cast below
  have ge : c < d.digits * 10 ^ more + 1 := by exact_mod_cast above
  rw [multiple, Nat.le_antisymm (Nat.le_of_lt_succ le) (Nat.le_of_lt_succ ge)]

/-- The digits that are tried first, on a unit. -/
theorem nearest?_eq (interval : RoundingInterval) (tie : Tie) (unit : ℤ) : ∃ candidates : List ℕ,
    (∀ c, c ∈ candidates ↔ c = ⌊interval.number / 10 ^ unit⌋₊ ∨
      c = ⌊interval.number / 10 ^ unit⌋₊ + 1) ∧
    interval.nearest? tie unit =
      (candidates.find? fun c => interval.holds c unit).map fun d => ⟨d, unit⟩ := by
  have pair (belowFirst : Bool) (a b c : ℕ) :
      c ∈ (if belowFirst = true then [a, b] else [b, a]) ↔ c = a ∨ c = b := by
    cases belowFirst
    · exact List.mem_pair.trans or_comm
    · exact List.mem_pair
  unfold nearest?
  dsimp only [Nat.pow_eq]
  generalize scaled : (if 0 ≤ unit then (interval.value, interval.denominator * 10 ^ unit.toNat)
    else (interval.value * 10 ^ (-unit).toNat, interval.denominator)) = parts
  have quotient : parts.1 / parts.2 = ⌊interval.number / 10 ^ unit⌋₊ := by
    rw [← Nat.floor_div_eq_div (K := ℚ), number]
    congr 1
    split at scaled
    · next up =>
      obtain ⟨n, rfl⟩ := Int.eq_ofNat_of_zero_le up
      cases scaled
      simp [div_div]
    · next down =>
      obtain ⟨n, rfl⟩ : ∃ n : ℕ, unit = -n := ⟨(-unit).toNat, by omega⟩
      cases scaled
      simp [mul_div_right_comm]
  rw [← quotient]
  exact ⟨_, pair _ _ _, rfl⟩

namespace Proper

variable (proper : interval.Proper)

include proper

theorem contains_number : interval.Contains interval.number := by
  have positive : (0 : ℚ) < interval.denominator := by exact_mod_cast proper.denominator
  have below : interval.low < interval.number :=
    div_lt_div_of_pos_right (by exact_mod_cast proper.below) positive
  have above : interval.number < interval.high :=
    div_lt_div_of_pos_right (by exact_mod_cast proper.above) positive
  unfold Contains
  split
  · exact ⟨below.le, above.le⟩
  · exact ⟨below, above⟩

theorem number_pos : 0 < interval.number :=
  div_pos (by exact_mod_cast proper.value) (by exact_mod_cast proper.denominator)

theorem holds_iff (c : ℕ) (unit : ℤ) :
    interval.holds c unit = true ↔ interval.Contains (c * 10 ^ unit) := by
  have positive' := proper.denominator
  unfold holds Contains low high
  dsimp only [Nat.pow_eq]
  generalize scaled : (if 0 ≤ unit then (c * 10 ^ unit.toNat, 1) else (c, 10 ^ (-unit).toNat)) = parts
  obtain ⟨positive, same⟩ := scaled_ten scaled
  rw [← same]
  have le (a : ℕ) : (a : ℚ) / interval.denominator ≤ parts.1 / parts.2 ↔
      a * parts.2 ≤ parts.1 * interval.denominator := by
    rw [div_le_div_iff₀ (by exact_mod_cast positive') (by exact_mod_cast positive)]
    exact_mod_cast Iff.rfl
  have ge (a : ℕ) : (parts.1 : ℚ) / parts.2 ≤ a / interval.denominator ↔
      parts.1 * interval.denominator ≤ a * parts.2 := by
    rw [div_le_div_iff₀ (by exact_mod_cast positive) (by exact_mod_cast positive')]
    exact_mod_cast Iff.rfl
  split
  · rw [Bool.and_eq_true, decide_eq_true_eq, decide_eq_true_eq, le, ge]
  · rw [Bool.and_eq_true, decide_eq_true_eq, decide_eq_true_eq, ← not_le, ← not_le, ← not_le,
      ← not_le, le, ge]

theorem of_nearest? {tie : Tie} {unit : ℤ} {d : Digits}
    (found : interval.nearest? tie unit = some d) :
    d.unit = unit ∧ interval.Contains d.toRat ∧ d.digits ≤ ⌊interval.number / 10 ^ unit⌋₊ + 1 := by
  obtain ⟨candidates, listed, same⟩ := interval.nearest?_eq tie unit
  rw [same] at found
  obtain ⟨c, taken, rfl⟩ := Option.map_eq_some_iff.1 found
  have holds : interval.holds c unit = true :=
    List.find?_some (p := fun c => interval.holds c unit) taken
  refine ⟨rfl, (proper.holds_iff c unit).1 holds, ?_⟩
  rcases (listed c).1 (List.mem_of_find?_eq_some taken) with below | above
  · exact below.le.trans (Nat.le_succ _)
  · exact above.le

/-- If any digits on a unit lie in the interval, then those do that are next to the number. -/
theorem nearest?_isSome (tie : Tie) {c : ℕ} {unit : ℤ} (contains : interval.Contains (c * 10 ^ unit)) :
    (interval.nearest? tie unit).isSome = true := by
  obtain ⟨candidates, listed, same⟩ := interval.nearest?_eq tie unit
  have power : (0 : ℚ) < 10 ^ unit := by positivity
  have positive : 0 ≤ interval.number / 10 ^ unit := (div_pos proper.number_pos power).le
  rw [same, Option.isSome_map, List.find?_isSome]
  rcases le_or_gt (c * 10 ^ unit : ℚ) interval.number with le | gt
  · refine ⟨_, (listed _).2 (.inl rfl), (proper.holds_iff _ unit).2 ?_⟩
    refine contains.between proper.contains_number ?_ ?_
    · have : c ≤ ⌊interval.number / 10 ^ unit⌋₊ := Nat.le_floor ((le_div_iff₀ power).2 le)
      exact mul_le_mul_of_nonneg_right (by exact_mod_cast this) power.le
    · exact (le_div_iff₀ power).1 (Nat.floor_le positive)
  · refine ⟨_, (listed _).2 (.inr rfl), (proper.holds_iff _ unit).2 ?_⟩
    refine proper.contains_number.between contains ?_ ?_
    · rw [Nat.cast_add, Nat.cast_one]
      exact ((div_lt_iff₀ power).1 (Nat.lt_floor_add_one _)).le
    · have : ⌊interval.number / 10 ^ unit⌋₊ < c :=
        (Nat.floor_lt positive).2 ((div_lt_iff₀ power).2 gt)
      exact mul_le_mul_of_nonneg_right (by exact_mod_cast this) power.le

/-- The place of a number, unless it is so small that no number of 64 bits is. -/
theorem place_spec (least : 10 ^ (-400 : ℤ) ≤ interval.number) :
    (10 : ℚ) ^ (interval.place - 1) ≤ interval.number ∧ interval.number < 10 ^ interval.place := by
  have positive : (0 : ℚ) < interval.denominator := by exact_mod_cast proper.denominator
  have whole : ⌊interval.number⌋₊ = interval.value / interval.denominator :=
    Nat.floor_div_eq_div interval.value interval.denominator
  unfold place
  dsimp only [Nat.pow_eq]
  rw [← whole]
  split
  · next some =>
    obtain ⟨above, below⟩ := toDigits_bounds some.ne'
    have length : 0 < (Nat.toDigits 10 ⌊interval.number⌋₊).length := Nat.length_toDigits_pos
    rw [← Nat.cast_pred length, zpow_natCast, zpow_natCast]
    constructor
    · calc (10 : ℚ) ^ ((Nat.toDigits 10 ⌊interval.number⌋₊).length - 1) ≤ ⌊interval.number⌋₊ := by
            exact_mod_cast above
        _ ≤ interval.number := Nat.floor_le proper.number_pos.le
    · calc interval.number < ⌊interval.number⌋₊ + 1 := Nat.lt_floor_add_one _
        _ ≤ 10 ^ (Nat.toDigits 10 ⌊interval.number⌋₊).length := by exact_mod_cast below
  · next none =>
    have small : interval.number < 1 := by
      have : ⌊interval.number⌋₊ < 1 := by omega
      exact_mod_cast (Nat.floor_lt proper.number_pos.le).1 this
    have reaches (j : ℕ) : interval.denominator ≤ interval.value * 10 ^ (j + 1) ↔
        (10 : ℚ) ^ (-(j : ℤ) - 1) ≤ interval.number := by
      have power : (10 : ℚ) ^ (-(j : ℤ) - 1) = (10 ^ (j + 1))⁻¹ := by
        rw [← neg_add', ← Nat.cast_succ, zpow_neg, zpow_natCast]
      rw [power, number, inv_le_iff_one_le_mul₀ (by positivity), div_mul_eq_mul_div,
        le_div_iff₀ positive, one_mul]
      exact_mod_cast Iff.rfl
    have reached : ((List.range 400).find? fun j =>
        decide (interval.denominator ≤ interval.value * 10 ^ (j + 1))).isSome = true := by
      rw [List.find?_isSome]
      exact ⟨399, List.mem_range.2 (by decide), decide_eq_true ((reaches 399).2 least)⟩
    obtain ⟨j, found⟩ := Option.isSome_iff_exists.1 reached
    obtain ⟨first, -, before⟩ := List.find?_range_eq_some.1 found
    rw [found, Option.getD_some, Int.negOfNat_eq, Int.ofNat_eq_natCast]
    refine ⟨(reaches j).1 (of_decide_eq_true first), ?_⟩
    cases j with
    | zero => simpa using small
    | succ j =>
      have missed := before j (Nat.lt_succ_self j)
      rw [Bool.not_eq_true', decide_eq_false_iff_not, reaches, not_le] at missed
      rwa [Nat.cast_succ, neg_add']

/-- In a narrow interval around fifteen digits the number has its place near that of the digits. -/
theorem place_bounds (least : 10 ^ (-400 : ℤ) ≤ interval.number) {unit : ℤ}
    (narrow : interval.high < interval.low + 10 ^ unit) {c : ℕ} (least' : 10 ^ 14 ≤ c)
    (most : c < 10 ^ 15) (contains : interval.Contains (c * 10 ^ unit)) :
    unit + 13 < interval.place ∧ interval.place - 1 < unit + 15 := by
  have power : (0 : ℚ) < 10 ^ unit := by positivity
  have ten : (1 : ℚ) < 10 := by norm_num
  have low : (10 : ℚ) ^ 13 + 1 ≤ c := le_trans (by norm_num) (Nat.cast_le.2 least')
  have high : (c : ℚ) + 1 ≤ 10 ^ 15 := by exact_mod_cast most
  obtain ⟨above, below⟩ := proper.place_spec least
  have shift (n : ℕ) : (10 : ℚ) ^ (unit + n) = 10 ^ n * 10 ^ unit := by
    rw [zpow_add₀ (by norm_num), zpow_natCast, mul_comm]
  constructor
  · refine (zpow_lt_zpow_iff_right₀ ten).1 ?_
    have close : (c : ℚ) * 10 ^ unit < interval.number + 10 ^ unit :=
      contains.lt_add narrow proper.contains_number
    have front := mul_le_mul_of_nonneg_right low power.le
    rw [add_one_mul] at front
    calc (10 : ℚ) ^ (unit + 13) = 10 ^ 13 * 10 ^ unit := shift 13
      _ < interval.number := lt_of_add_lt_add_right (front.trans_lt close)
      _ < 10 ^ interval.place := below
  · refine (zpow_lt_zpow_iff_right₀ ten).1 ?_
    calc (10 : ℚ) ^ (interval.place - 1) ≤ interval.number := above
      _ < c * 10 ^ unit + 10 ^ unit := proper.contains_number.lt_add narrow contains
      _ = (c + 1) * 10 ^ unit := (add_one_mul _ _).symm
      _ ≤ 10 ^ 15 * 10 ^ unit := mul_le_mul_of_nonneg_right high power.le
      _ = 10 ^ (unit + 15) := (shift 15).symm

end Proper

/-! ## The interval of a floating number -/

variable {format : Format} {m : ℕ} {e : ℤ}

theorem of_eq (format : Format) (m : ℕ) (e : ℤ) : ∃ factor denominator : ℕ,
    0 < factor ∧ 0 < denominator ∧ (factor : ℚ) / denominator = 2 ^ e / 4 ∧
    of format m e =
      ⟨(4 * m - if m = 2 ^ (format.precision - 1) ∧ format.low < e then 1 else 2) * factor,
        4 * m * factor, (4 * m + 2) * factor, denominator, m % 2 == 0⟩ := by
  have quarter : (2 : ℚ) ^ (e - 2) = 2 ^ e / 4 := by
    rw [zpow_sub₀ (by norm_num)]
    norm_num
  rw [← quarter]
  unfold of
  simp only [Nat.pow_eq, Bool.and_eq_true, beq_iff_eq, decide_eq_true_eq]
  generalize scaled : (if 0 ≤ e - 2 then (2 ^ (e - 2).toNat, 1) else (1, 2 ^ (-(e - 2)).toNat)) = parts
  refine ⟨parts.1, parts.2, ?_, ?_, ?_, rfl⟩
  all_goals
    split at scaled
    · next up =>
      obtain ⟨n, same⟩ := Int.eq_ofNat_of_zero_le up
      cases scaled
      simp [same]
    · next down =>
      obtain ⟨n, same⟩ : ∃ n : ℕ, e - 2 = -n := ⟨(-(e - 2)).toNat, by omega⟩
      cases scaled
      simp [same]

/-- The ends are half a unit away from the number, the lower one a quarter below a power of two. -/
theorem of_spec (format : Format) (positive : 0 < m) (e : ℤ) :
    (of format m e).Proper ∧ (of format m e).number = m * 2 ^ e ∧
      (of format m e).high = (m + 1 / 2) * 2 ^ e ∧
      (of format m e).low =
        (m - if m = 2 ^ (format.precision - 1) ∧ format.low < e then 1 / 4 else 1 / 2) * 2 ^ e := by
  obtain ⟨factor, denominator, positive', positive'', quarter, same⟩ := of_eq format m e
  rw [same]
  refine ⟨⟨positive'', Nat.mul_pos (by omega) positive', ?_, ?_⟩, ?_, ?_, ?_⟩
  · refine Nat.mul_lt_mul_of_pos_right ?_ positive'
    split <;> omega
  · exact Nat.mul_lt_mul_of_pos_right (by omega) positive'
  · rw [number]
    push_cast
    rw [mul_div_assoc, quarter]
    ring
  · rw [high]
    push_cast
    rw [mul_div_assoc, quarter]
    ring
  · rw [low]
    push_cast
    rw [mul_div_assoc, quarter]
    split
    · rw [Nat.cast_sub (by omega)]
      push_cast
      ring
    · rw [Nat.cast_sub (by omega)]
      push_cast
      ring

theorem high_lt (format : Format) (positive : 0 < m) {unit : ℤ} (narrow : (2 : ℚ) ^ e < 10 ^ unit) :
    (of format m e).high < (of format m e).low + 10 ^ unit := by
  obtain ⟨-, -, high, low⟩ := of_spec format positive e
  have power : (0 : ℚ) < 2 ^ e := by positivity
  rw [high, low]
  split <;> linarith

theorem contains_of (positive : 0 < m) {q : ℚ}
    (least : (m - if m = 2 ^ (format.precision - 1) ∧ format.low < e then 1 / 4 else 1 / 2) * 2 ^ e ≤ q)
    (most : q ≤ (m + 1 / 2) * 2 ^ e)
    (odd : m % 2 = 1 → (of format m e).low ≠ q ∧ q ≠ (of format m e).high) :
    (of format m e).Contains q := by
  obtain ⟨-, -, high, low⟩ := of_spec format positive e
  have closed : (of format m e).closed = (m % 2 == 0) := rfl
  rw [← low] at least
  rw [← high] at most
  rw [Contains, closed]
  rcases Nat.mod_two_eq_zero_or_one m with even | uneven
  · rw [even]
    exact ⟨least, most⟩
  · rw [uneven]
    obtain ⟨above, below⟩ := odd uneven
    exact ⟨lt_of_le_of_ne least above, lt_of_le_of_ne most below⟩

/-- A quotient with all the digits of the format lies within half a unit of the significand that it is
rounded to, and not at half a unit if that is odd. -/
theorem ofQuotient_near (precise : 1 < format.precision) (negative : Bool) {num den : ℕ}
    (positive : 0 < num) (positive' : 0 < den) {q : ℚ} (quotient : q = num / den)
    (normal : format.low < format.unit q) : ∃ k : ℕ,
      Floating.ofQuotient format negative num den =
        Floating.carried format negative k (format.unit q) ∧
      2 ^ (format.precision - 1) ≤ k ∧
      ((2 ^ (format.precision - 1) : ℕ) : ℚ) * 2 ^ format.unit q ≤ q ∧
      q < (2 ^ format.precision : ℕ) * 2 ^ format.unit q ∧
      (k - 1 / 2) * 2 ^ format.unit q ≤ q ∧ q ≤ (k + 1 / 2) * 2 ^ format.unit q ∧
      (k % 2 = 1 → (k - 1 / 2) * 2 ^ format.unit q ≠ q ∧ q ≠ (k + 1 / 2) * 2 ^ format.unit q) := by
  obtain ⟨k, value, same⟩ := Floating.ofQuotient_eq format negative positive positive'
  have quotient' : 0 < q := quotient ▸ by positivity
  rw [← quotient] at value same
  have front := Format.le_of_low_lt_unit quotient' normal
  have behind := Format.abs_lt_of_unit format q
  have least := Format.le_nearest_of_low_lt_unit (by omega) quotient' normal
  have near := isNearestInteger_roundEven (q / 2 ^ format.unit q)
  have power : (0 : ℚ) < 2 ^ format.unit q := by positivity
  have integer : roundEven (q / 2 ^ format.unit q) = k := by
    rw [Format.nearest] at value
    exact_mod_cast mul_right_cancel₀ power.ne' value.symm
  have leading : (2 : ℚ) ^ (format.precision - 1 + format.unit q) =
      (2 ^ (format.precision - 1) : ℕ) * 2 ^ format.unit q := by
    rw [← Nat.cast_pred (by omega), zpow_add₀ (by norm_num), zpow_natCast, Nat.cast_pow,
      Nat.cast_ofNat]
  have full : (2 : ℚ) ^ (format.precision + format.unit q) =
      (2 ^ format.precision : ℕ) * 2 ^ format.unit q := by
    rw [zpow_add₀ (by norm_num), zpow_natCast, Nat.cast_pow, Nat.cast_ofNat]
  rw [abs_of_pos quotient', full] at behind
  rw [leading] at front least
  rw [← value] at least
  rw [integer] at near
  obtain ⟨near, even⟩ := near
  rw [Int.cast_natCast] at near even
  obtain ⟨below, above⟩ := abs_le.1 near
  refine ⟨k, same, ?_, front, behind, (le_div_iff₀ power).1 (by linarith),
    (div_le_iff₀ power).1 (by linarith), fun odd => ?_⟩
  · exact_mod_cast le_of_mul_le_mul_right least power
  · have apart : |(k : ℚ) - q / 2 ^ format.unit q| ≠ 1 / 2 := by
      intro half
      have := even half
      rw [Int.even_iff] at this
      omega
    constructor
    · rintro half
      refine apart ?_
      rw [(eq_div_iff power.ne').2 half |>.symm, sub_sub_cancel, abs_of_pos (by norm_num)]
    · rintro half
      refine apart ?_
      rw [(div_eq_iff power.ne').2 half, sub_add_cancel_left, abs_neg, abs_of_pos (by norm_num)]

/-- What is rounded to a number lies in the interval of that number. -/
theorem contains_ofQuotient (precise : 1 < format.precision) {negative negative' : Bool}
    {num den : ℕ} (positive : 0 < num) (positive' : 0 < den)
    (normal : format.low < format.unit (num / den))
    (found : Floating.ofQuotient format negative num den = .finite negative' m e) :
    2 ^ (format.precision - 1) ≤ m ∧ (of format m e).Contains (num / den) := by
  obtain ⟨k, same, all, front, behind, half, most, odd⟩ :=
    ofQuotient_near precise negative positive positive' rfl normal
  rw [same] at found
  generalize (num / den : ℚ) = q at *
  generalize format.unit q = u at *
  have power : (0 : ℚ) < 2 ^ u := by positivity
  have digits : 0 < 2 ^ (format.precision - 1) := by positivity
  have even : 2 ^ (format.precision - 1) % 2 = 0 := by
    rw [← Nat.sub_add_cancel (Nat.le_sub_one_of_lt precise), pow_succ, Nat.mul_mod_left]
  unfold Floating.carried at found
  split at found
  · next carry =>
    -- The significand is a power of two on the next unit, and the number lies below it.
    have twice : 2 ^ format.precision = 2 * 2 ^ (format.precision - 1) := by
      rw [← pow_succ', Nat.sub_add_cancel (by omega)]
    rw [carry, twice, Nat.mul_div_cancel_left _ (by decide)] at found
    rw [carry, twice] at half
    rw [twice] at behind
    split at found
    · cases found
    · cases found
      refine ⟨le_rfl, contains_of digits ?_ ?_ fun odd => absurd even (by omega)⟩
      · rw [if_pos ⟨rfl, by omega⟩, zpow_add_one₀ (by norm_num)]
        push_cast at half ⊢
        linarith
      · rw [zpow_add_one₀ (by norm_num)]
        push_cast at behind ⊢
        linarith
  · split at found
    · cases found
    · cases found
      refine ⟨all, contains_of (digits.trans_le all) ?_ most fun uneven => ?_⟩
      · split
        · next narrow =>
          rw [narrow.1]
          linarith
        · exact half
      · obtain ⟨-, -, high, low⟩ := of_spec format (digits.trans_le all) e
        have wide : ¬(m = 2 ^ (format.precision - 1) ∧ format.low < e) := fun narrow => by omega
        rw [high, low, if_neg wide]
        exact odd uneven

end RoundingInterval

/-! ## The search -/

theorem Digits.toRat_stripped (d : Digits) : d.stripped.toRat = d.toRat := by
  induction d using Digits.stripped.induct with
  | case1 d zero => rw [stripped, dif_pos zero]
  | case2 d more ten ih =>
    have split : d.digits = 10 * (d.digits / 10) := by omega
    rw [stripped, dif_neg more, if_pos ten, ih, toRat, toRat, zpow_add_one₀ (by norm_num)]
    conv_rhs => rw [split]
    push_cast
    ring
  | case3 d more digit => rw [stripped, dif_neg more, if_neg digit]

section

variable {format : Format} {m : ℕ} {e : ℤ}

/-- The first number of digits with which any are found is no larger than one with which some are. -/
theorem exists_of_findSome? {α : Type} {f : ℕ → Option α} {n i : ℕ} (within : i < n)
    (some : (f i).isSome = true) :
    ∃ j ≤ i, ∃ a, f j = Option.some a ∧ (List.range n).findSome? f = Option.some a := by
  have present : ((List.range n).findSome? f).isSome = true :=
    List.findSome?_isSome_iff.2 ⟨i, List.mem_range.2 within, some⟩
  obtain ⟨a, found⟩ := Option.isSome_iff_exists.1 present
  obtain ⟨before, j, behind, same, here, none⟩ := List.findSome?_eq_some_iff.1 found
  have sorted : (before ++ j :: behind).Pairwise (· < ·) := same ▸ List.pairwise_lt_range
  have member : i ∈ before ++ j :: behind := same ▸ List.mem_range.2 within
  refine ⟨j, ?_, a, here, found⟩
  rcases List.mem_append.1 member with early | late
  · rw [none i early] at some
    cases some
  · rcases List.mem_cons.1 late with rfl | later
    · exact le_rfl
    · exact (List.rel_of_pairwise_cons (List.pairwise_append.1 sorted).2.1 later).le

/-- Digits in the interval are found, or others that denote the same, if the interval is shorter than
their unit. -/
theorem toRat_shortest (positive : 0 < m) (large : 10 ^ (-400 : ℤ) ≤ (m : ℚ) * 2 ^ e) (tie : Tie)
    {c : ℕ} {unit : ℤ} (least : 10 ^ 14 ≤ c) (most : c < 10 ^ 15)
    (contains : (RoundingInterval.of format m e).Contains (c * 10 ^ unit))
    (narrow : (2 : ℚ) ^ e < 10 ^ unit) :
    (shortest format tie m e).toRat = c * 10 ^ unit := by
  obtain ⟨proper, number, -, -⟩ := RoundingInterval.of_spec format positive e
  have short := RoundingInterval.high_lt format positive narrow
  unfold shortest
  dsimp only
  generalize RoundingInterval.of format m e = interval at *
  obtain ⟨before, after⟩ := proper.place_bounds (number ▸ large) short least most contains
  obtain ⟨n, same⟩ : ∃ n : ℕ, interval.place - unit = (n + 1 : ℕ) :=
    ⟨(interval.place - unit - 1).toNat, by omega⟩
  have here : interval.place - ((n + 1 : ℕ) : ℤ) = unit := by omega
  have some : (interval.nearest? tie (interval.place - ((n + 1 : ℕ) : ℤ))).isSome = true := by
    rw [here]
    exact proper.nearest?_isSome tie contains
  obtain ⟨count, le, d, taken, found⟩ := exists_of_findSome?
    (f := fun count => interval.nearest? tie (interval.place - ((count + 1 : ℕ) : ℤ)))
    (show n < 17 by omega) some
  obtain ⟨onUnit, inside, -⟩ := proper.of_nearest? taken
  rw [found, Option.getD_some, Digits.toRat_stripped]
  exact contains.toRat_eq short inside (by omega)

/-- The digits that are found are at most seventeen. -/
theorem shortest_at_most (positive : 0 < m) (small : m ≤ 10 ^ 17)
    (large : 10 ^ (-400 : ℤ) ≤ (m : ℚ) * 2 ^ e) (tie : Tie) :
    ∃ k ≤ 10 ^ 17, ∃ j : ℤ, (shortest format tie m e).toRat = (k : ℕ) * 10 ^ j := by
  obtain ⟨proper, number, -, -⟩ := RoundingInterval.of_spec format positive e
  unfold shortest
  dsimp only
  generalize RoundingInterval.of format m e = interval at *
  rw [Digits.toRat_stripped]
  refine ⟨_, ?_, _, rfl⟩
  cases found : (List.range 17).findSome? fun count =>
      interval.nearest? tie (interval.place - ((count + 1 : ℕ) : ℤ)) with
  | none => exact small
  | some d =>
    obtain ⟨count, within, taken⟩ := List.exists_of_findSome?_eq_some found
    obtain ⟨-, -, few⟩ := proper.of_nearest? taken
    have power : (0 : ℚ) < 10 ^ (interval.place - ((count + 1 : ℕ) : ℤ)) := by positivity
    have below := (proper.place_spec (number ▸ large)).2
    have front : ⌊interval.number / 10 ^ (interval.place - ((count + 1 : ℕ) : ℤ))⌋₊ <
        10 ^ (count + 1) := by
      rw [Nat.floor_lt (div_pos proper.number_pos power).le, div_lt_iff₀ power, Nat.cast_pow,
        Nat.cast_ofNat, ← zpow_natCast, ← zpow_add₀ (by norm_num), add_sub_cancel]
      exact below
    calc d.digits ≤ _ := few
      _ ≤ 10 ^ (count + 1) := front
      _ ≤ 10 ^ 17 := Nat.pow_le_pow_right (by decide) (List.mem_range.1 within)

end

/-! ## Decimal numbers of few digits -/

/-- Zeros behind its digits give a number of at most fifteen digits exactly fifteen. -/
theorem exists_fifteen_digits {c : ℕ} (positive : 0 < c) (few : c < 10 ^ 15) :
    ∃ zeros : ℕ, 10 ^ 14 ≤ c * 10 ^ zeros ∧ c * 10 ^ zeros < 10 ^ 15 := by
  obtain ⟨least, most⟩ := toDigits_bounds positive.ne'
  have length : (Nat.toDigits 10 c).length ≤ 15 :=
    (Nat.length_toDigits_le_iff (by decide) (by decide)).2 few
  have some : 0 < (Nat.toDigits 10 c).length := Nat.length_toDigits_pos
  refine ⟨15 - (Nat.toDigits 10 c).length, ?_, ?_⟩
  · calc 10 ^ 14 = 10 ^ ((Nat.toDigits 10 c).length - 1) * 10 ^ (15 - (Nat.toDigits 10 c).length) := by
          rw [← pow_add]
          congr 1
          omega
      _ ≤ c * 10 ^ (15 - (Nat.toDigits 10 c).length) := Nat.mul_le_mul_right _ least
  · calc c * 10 ^ (15 - (Nat.toDigits 10 c).length)
        < 10 ^ (Nat.toDigits 10 c).length * 10 ^ (15 - (Nat.toDigits 10 c).length) :=
          Nat.mul_lt_mul_of_pos_right most (by positivity)
      _ = 10 ^ 15 := by
          rw [← pow_add]
          congr 1
          omega

/-- A number of 64 bits that is not too small has all the digits of the format. -/
theorem low_lt_unit {q : ℚ} (least : 2 ^ (-100 : ℤ) ≤ q) : Format.double.low < Format.double.unit q := by
  have positive : 0 < q := lt_of_lt_of_le (by positivity) least
  have log : -100 ≤ Int.log 2 q :=
    (Int.zpow_le_iff_le_log (by norm_num) positive).1 (by exact_mod_cast least)
  have low : Format.double.low = -1074 := rfl
  have precision : (Format.double.precision : ℤ) = 53 := rfl
  rw [Format.unit, abs_of_pos positive]
  exact lt_max_of_lt_left (by omega)

/-- The unit of a number with all the digits of 64 bits is smaller than that of fifteen decimal
digits in its interval. -/
theorem unit_lt_of_contains {m : ℕ} {e : ℤ} (digits : 2 ^ 52 ≤ m) {c : ℕ} {unit : ℤ}
    (most : c < 10 ^ 15) (contains : (RoundingInterval.of .double m e).Contains (c * 10 ^ unit)) :
    (2 : ℚ) ^ e < 10 ^ unit := by
  have positive : 0 < m := lt_of_lt_of_le (by positivity) digits
  obtain ⟨-, -, -, low⟩ := RoundingInterval.of_spec .double positive e
  have below := contains.bounds.1
  rw [low] at below
  have power : (0 : ℚ) < 2 ^ e := by positivity
  have leading : (2 : ℚ) ^ 52 * 2 ^ e ≤ m * 2 ^ e :=
    mul_le_mul_of_nonneg_right (by exact_mod_cast digits) power.le
  have half : (m - 1 / 2 : ℚ) * 2 ^ e ≤ c * 10 ^ unit := by
    refine le_trans ?_ below
    split <;> linarith
  have fifteen : (c : ℚ) * 10 ^ unit < 10 ^ 15 * 10 ^ unit :=
    mul_lt_mul_of_pos_right (by exact_mod_cast most) (by positivity)
  linarith

/-- A decimal number of at most fifteen digits and of a moderate size is found again in what it is
rounded to. -/
theorem toRat_shortest_ofQuotient {c places : ℕ} (positive : 0 < c) (few : c < 10 ^ 15)
    (near : places ≤ 22) (negative : Bool) (tie : Tie) : ∃ m e,
      Floating.ofQuotient .double negative c (10 ^ places) = .finite negative m e ∧ 0 < m ∧
      (shortest .double tie m e).toRat = c / 10 ^ places := by
  have power : 0 < 10 ^ places := by positivity
  have quotient : (c : ℚ) / (10 ^ places : ℕ) = c / 10 ^ places := by push_cast; rfl
  have small : (c : ℚ) / (10 ^ places : ℕ) ≤ 2 ^ (64 : ℤ) := by
    have : (c : ℚ) ≤ 2 ^ (64 : ℤ) :=
      le_trans (by exact_mod_cast few.le) (show ((10 ^ 15 : ℕ) : ℚ) ≤ _ by norm_num)
    exact (div_le_self c.cast_nonneg (by exact_mod_cast power)).trans this
  have least : (2 : ℚ) ^ (-100 : ℤ) ≤ c / 10 ^ places := by
    have one : (1 : ℚ) ≤ c := by exact_mod_cast positive
    calc (2 : ℚ) ^ (-100 : ℤ) ≤ 1 / 10 ^ 22 := by norm_num
      _ ≤ 1 / 10 ^ places :=
        one_div_le_one_div_of_le (by positivity) (pow_le_pow_right₀ (by norm_num) near)
      _ ≤ c / 10 ^ places := div_le_div_of_nonneg_right one (by positivity)
  obtain ⟨m, e, found, -⟩ := Floating.exists_ofQuotient (by decide) (by decide)
    (Floating.has_two_pow (by decide) (by decide))
    (zpow_lt_zpow_right₀ (by norm_num) (by decide) : (2 ^ (64 : ℤ) : ℚ) < Format.double.limit)
    negative power small
  obtain ⟨digits, contains⟩ := RoundingInterval.contains_ofQuotient (by decide) positive power
    (low_lt_unit (quotient ▸ least)) found
  obtain ⟨zeros, least', most⟩ := exists_fifteen_digits positive few
  have same : ((c * 10 ^ zeros : ℕ) : ℚ) * 10 ^ (-(places : ℤ) - zeros) = c / 10 ^ places := by
    rw [zpow_sub₀ (by norm_num), zpow_neg, zpow_natCast, zpow_natCast]
    push_cast
    field_simp
  rw [quotient, ← same] at contains
  have some : 0 < m := lt_of_lt_of_le (by positivity) digits
  refine ⟨m, e, found, some, ?_⟩
  rw [← same]
  refine toRat_shortest some ?_ tie least' most contains (unit_lt_of_contains digits most contains)
  -- The number is at least half as large as what is rounded to it.
  have unit : (0 : ℚ) < 2 ^ e := by positivity
  have one : (2 : ℚ) ^ e ≤ m * 2 ^ e := le_mul_of_one_le_left unit.le (by exact_mod_cast some)
  have above := contains.bounds.2
  rw [(RoundingInterval.of_spec .double some e).2.2.1, same] at above
  have tiny : (10 : ℚ) ^ (-400 : ℤ) ≤ 2 ^ (-100 : ℤ) / 2 :=
    calc (10 : ℚ) ^ (-400 : ℤ) ≤ 10 ^ (-40 : ℤ) := zpow_le_zpow_right₀ (by norm_num) (by norm_num)
      _ ≤ 2 ^ (-100 : ℤ) / 2 := by norm_num
  linarith

/-- A number of at most fifteen digits is what is written for the floating number that it is rounded
to. -/
theorem chosen_ofQuotient {c places : ℕ} (few : c < 10 ^ 15) (near : places ≤ 22) (layout : Layout) :
    ∃ m e, Floating.ofQuotient .double false c (10 ^ places) = .finite false m e ∧
      layout.chosen m e = c / 10 ^ places := by
  rcases Nat.eq_zero_or_pos c with rfl | positive
  · exact ⟨0, -1074, rfl, by rw [Nat.cast_zero, zero_div]; rfl⟩
  · obtain ⟨m, e, same, nonzero, shortest⟩ :=
      toRat_shortest_ofQuotient positive few near false layout.tie
    exact ⟨m, e, same, (if_neg nonzero.ne').trans shortest⟩

/-- What is written for a number of 64 bits has at most seventeen digits. -/
theorem Layout.chosen_at_most (layout : Layout) {negative : Bool} {m : ℕ} {e : ℤ}
    (isOf : (Floating.finite negative m e).IsOf .double) :
    ∃ k ≤ 10 ^ 17, ∃ j : ℤ, layout.chosen m e = (k : ℕ) * 10 ^ j := by
  unfold chosen
  split
  · exact ⟨0, Nat.zero_le _, 0, by rw [Nat.cast_zero, zero_mul]⟩
  · next nonzero =>
    have positive : 0 < m := Nat.pos_of_ne_zero nonzero
    have one : (1 : ℚ) ≤ m := by exact_mod_cast positive
    refine shortest_at_most positive ?_ ?_ layout.tie
    · exact isOf.1.le.trans (by decide)
    · calc (10 : ℚ) ^ (-400 : ℤ) ≤ 2 ^ (-1074 : ℤ) := by
            rw [show (-400 : ℤ) = -(400 : ℕ) from rfl, show (-1074 : ℤ) = -(1074 : ℕ) from rfl,
              zpow_neg, zpow_neg, zpow_natCast, zpow_natCast]
            exact inv_anti₀ (by positivity) (Floating.two_pow_le_ten_pow (by decide))
        _ ≤ 2 ^ e := zpow_le_zpow_right₀ (by norm_num) isOf.2
        _ ≤ m * 2 ^ e := le_mul_of_one_le_left (by positivity) one

theorem Layout.written_at_most (layout : Layout) {negative : Bool} {m : ℕ} {e : ℤ}
    (isOf : (Floating.finite negative m e).IsOf .double) :
    ∃ k : ℤ, |k| ≤ 10 ^ 17 ∧ ∃ j : ℤ, layout.written negative m e = k * 10 ^ j := by
  obtain ⟨k, most, j, chosen⟩ := layout.chosen_at_most isOf
  have size : |(k : ℤ)| ≤ 10 ^ 17 := by
    rw [Nat.abs_cast]
    exact_mod_cast most
  unfold written
  rw [chosen]
  cases negative with
  | false => exact ⟨k, size, j, by rw [if_neg Bool.false_ne_true, Int.cast_natCast]⟩
  | true => exact ⟨-k, by rwa [abs_neg], j, by rw [if_pos rfl, Int.cast_neg, Int.cast_natCast, neg_mul]⟩

end SqlPreview.Number
