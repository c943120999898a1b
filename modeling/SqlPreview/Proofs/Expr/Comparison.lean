import SqlPreview.Proofs.Expr.Order
import SqlPreview.Proofs.Value.Exact

/-!
# Comparison of exact numbers

Integers are compared exactly. As soon as one of two numbers is decimal, both are first rounded to
64 bits. So two numbers that are not the same may count as equal, but they never change places.

Results:
1. `exact_numbers_compared`: two exact numbers are compared as the rational numbers they denote
   exactly where rounding leaves them apart, or does not take place.
2. `integer_equals_next_decimal`: two numbers that rounding does not leave apart.
-/

namespace SqlPreview.Operator

open Number (Format)

/-- Two values are compared as two members of an order are. -/
structure ComparedLike {α : Type} [LinearOrder α] (a b : Value) (x y : α) : Prop where
  equal : binary .eq a b = .ok (.boolean (decide (x = y)))
  less : binary .lt a b = .ok (.boolean (decide (x < y)))
  greater : binary .gt a b = .ok (.boolean (decide (y < x)))

section

variable {a b : Value} {p q : ℚ}

theorem comparedLike_of_compare? {α : Type} [LinearOrder α] {x y : α} (numeric : a.isNumeric = true)
    (numeric' : b.isNumeric = true) (ordered : compare? a b = some (compare x y)) :
    ComparedLike a b x y := by
  have noCharacter : codePointPair a b = false := by
    rw [codePointPair, isCodePointOf_of_isNumeric a numeric', isCodePointOf_of_isNumeric b numeric]
    rfl
  constructor
  · rw [binary, looselyEqual_of_compare? ordered, noCharacter]
    simp [Bool.beq_eq_decide_eq]
  · rw [binary_of_compare? ordered (by simp), holds]
    simp [Bool.beq_eq_decide_eq, compare_lt_iff_lt]
  · rw [binary_of_compare? ordered (by simp), holds]
    simp [Bool.beq_eq_decide_eq, compare_gt_iff_gt]

theorem comparedLike_integers {m n : ℤ} (first : a.integer? = some m) (second : b.integer? = some n) :
    ComparedLike a b (m : ℚ) (n : ℚ) := by
  have asIntegers : ComparedLike a b m n :=
    comparedLike_of_compare? (Value.isNumeric_of_integer? first)
      (Value.isNumeric_of_integer? second) (compare?_integers first second)
  constructor
  · simpa using asIntegers.equal
  · simpa using asIntegers.less
  · simpa using asIntegers.greater

/-- Where one of two exact numbers is decimal, the nearest floating numbers are compared. -/
theorem comparedLike_rounded (first : a.rational? = some p) (second : b.rational? = some q)
    (decimal : (a.isIntegral && b.isIntegral) = false) :
    ComparedLike a b (Format.double.rounded p) (Format.double.rounded q) := by
  obtain ⟨x, double, number, place⟩ := Value.double?_of_rational? first
  obtain ⟨y, double', number', place'⟩ := Value.double?_of_rational? second
  refine comparedLike_of_compare? (Value.isNumeric_of_rational? first)
    (Value.isNumeric_of_rational? second) ?_
  have doubles : compareDoubles a.double? b.double? =
      some (compare (Format.double.rounded p) (Format.double.rounded q)) := by
    rw [double, double', ← place, ← place']
    exact x.compare?_eq_place number number'
  rw [compare?_eq, Value.isNumeric_of_rational? first, Value.isNumeric_of_rational? second, Bool.and_self,
    if_pos rfl, compareNumbers]
  split
  · next m n found found' =>
    rw [Value.isIntegral, Value.isIntegral, found, found'] at decimal
    cases decimal
  · exact doubles

theorem lt_iff_of_rounded_ne (apart : Format.double.rounded p ≠ Format.double.rounded q) :
    Format.double.rounded p < Format.double.rounded q ↔ p < q := by
  have mono {p q : ℚ} (le : p ≤ q) : Format.double.rounded p ≤ Format.double.rounded q :=
    Format.rounded_mono (by decide) le
  constructor
  · intro lt
    by_contra ge
    exact absurd (mono (not_lt.1 ge)) (not_le.2 lt)
  · intro lt
    exact lt_of_le_of_ne (mono lt.le) apart

/-- Exact numbers are compared exactly where both are integers, or the same, or still apart after
rounding to 64 bits. All others are compared as what they are rounded to. -/
theorem exact_numbers_compared (first : a.rational? = some p) (second : b.rational? = some q) :
    (ComparedLike a b p q ↔ (a.isIntegral && b.isIntegral) = true ∨ p = q ∨
      Format.double.rounded p ≠ Format.double.rounded q) ∧
    ((a.isIntegral && b.isIntegral) = false →
      ComparedLike a b (Format.double.rounded p) (Format.double.rounded q)) := by
  refine ⟨?_, comparedLike_rounded first second⟩
  cases integers : a.isIntegral && b.isIntegral with
  | true =>
    obtain ⟨whole, whole'⟩ := Bool.and_eq_true_iff.1 integers
    obtain ⟨m, found⟩ := Option.isSome_iff_exists.1 whole
    obtain ⟨n, found'⟩ := Option.isSome_iff_exists.1 whole'
    cases first.symm.trans (Value.rational?_of_integer? found)
    cases second.symm.trans (Value.rational?_of_integer? found')
    exact iff_of_true (comparedLike_integers found found') (.inl rfl)
  | false =>
    have rounded := comparedLike_rounded first second integers
    constructor
    · intro exact
      by_contra other
      obtain ⟨differ, same⟩ : p ≠ q ∧ Format.double.rounded p = Format.double.rounded q := by
        simpa using other
      have answers := rounded.equal.symm.trans exact.equal
      simp [differ, same] at answers
    · rintro (none | rfl | apart)
      · cases none
      · constructor
        · simpa using rounded.equal
        · simpa using rounded.less
        · simpa using rounded.greater
      · have differ : p ≠ q := fun same => apart (same ▸ rfl)
        constructor
        · simpa [apart, differ] using rounded.equal
        · simpa [lt_iff_of_rounded_ne apart] using rounded.less
        · simpa [lt_iff_of_rounded_ne apart.symm] using rounded.greater

/-- A tenth and a little more, which are one number of 64 bits. -/
theorem tenths_compared :
    let tenth : Value := .decimal "0.1"
    let more : Value := .decimal "0.10000000000000000001"
    let p : ℚ := 1 / 10
    let q : ℚ := 10000000000000000001 / 100000000000000000000
    tenth.rational? = some p ∧ more.rational? = some q ∧
      (ComparedLike tenth more p q ↔ (tenth.isIntegral && more.isIntegral) = true ∨ p = q ∨
        Format.double.rounded p ≠ Format.double.rounded q) ∧
      ((tenth.isIntegral && more.isIntegral) = false →
        ComparedLike tenth more (Format.double.rounded p) (Format.double.rounded q)) := by
  intro tenth more p q
  have read : Number.Decimal.read? "0.1".toList = some ⟨false, 1, -1⟩ := by decide +kernel
  have read' : Number.Decimal.read? "0.10000000000000000001".toList =
      some ⟨false, 10000000000000000001, -20⟩ := by decide +kernel
  have first : tenth.rational? = some p := by
    rw [Value.rational?, read]
    norm_num [Number.Decimal.toRat, Number.Floating.signed, p]
  have second : more.rational? = some q := by
    rw [Value.rational?, read']
    norm_num [Number.Decimal.toRat, Number.Floating.signed, q]
  exact ⟨first, second, exact_numbers_compared first second⟩

/-- Two numbers of which one is decimal, next to each other beyond what 64 bits tell apart. -/
theorem integer_equals_next_decimal :
    let integer : Value := .long 9007199254740993
    let decimal : Value := .decimal "9007199254740992"
    integer.rational? = some 9007199254740993 ∧ decimal.rational? = some 9007199254740992 ∧
      binary .eq integer decimal = .ok (.boolean true) := by
  intro integer decimal
  have read : Number.Decimal.read? "9007199254740992".toList =
      some ⟨false, 9007199254740992, 0⟩ := by decide +kernel
  have equal : looselyEqual integer decimal = true := by decide +kernel
  refine ⟨?_, ?_, ?_⟩
  · exact Value.rational?_of_integer? (n := 9007199254740993) (by decide)
  · rw [Value.rational?, read]
    norm_num [Number.Decimal.toRat, Number.Floating.signed]
  · rw [binary, equal]

end

end SqlPreview.Operator
