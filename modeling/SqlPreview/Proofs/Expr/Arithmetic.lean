import Mathlib.Tactic.Linarith
import SqlPreview.Expr.Operator
import SqlPreview.Proofs.Value.Exact

/-!
# Arithmetic on integers

What an operator owes to the mathematical result is said without the functions that compute it: a
quotient and a remainder are given by the equation that ties them to the operands
(`IsDivision`), a width by its range (`Fits`).

Result: `integer_arithmetic`, an operator on two integers gives the mathematical result at the
width of the wider operand, a wider integer, or an error, and never another number.
-/

namespace SqlPreview.Operator

/-- The integers of so many bits, one of them for the sign. -/
def Fits (bits : ℕ) (n : ℤ) : Prop := -2 ^ (bits - 1) ≤ n ∧ n < 2 ^ (bits - 1)

/-- Division toward zero: the remainder is smaller than the divisor and has the sign of the
dividend, where it is not zero. -/
structure IsDivision (m n quotient remainder : ℤ) : Prop where
  sum : m = quotient * n + remainder
  smaller : |remainder| < |n|
  sign : 0 ≤ remainder * m

/-- The mathematical result of an operator on integers. -/
def IsResult (op : BinaryOp) (m n result : ℤ) : Prop :=
  match op with
  | .add => result = m + n
  | .sub => result = m - n
  | .mul => result = m * n
  | .div => ∃ remainder, IsDivision m n result remainder
  | .rem => ∃ quotient, IsDivision m n quotient result
  | _ => False

/-- The operators that need a divisor. -/
def Divides (op : BinaryOp) : Prop := op = .div ∨ op = .rem

/-- Results that 128 bits do not hold. The least integer and minus one are divided in vain, for the
quotient or the remainder. -/
def TooWide (op : BinaryOp) (m n result : ℤ) : Prop :=
  ¬Fits 128 result ∨ Divides op ∧ m = -2 ^ 127 ∧ n = -1

/-- The bits that results on a kind of integer have at least. -/
def room : Value → ℕ
  | .byte _ | .short _ | .int _ => 32
  | .long _ | .number _ => 64
  | _ => 128

/-- An integer as a value with room for so many bits, or wider where these do not hold it. -/
inductive HeldIn (bits : ℕ) : ℤ → Value → Prop where
  | int (n : Int32) : bits = 32 → HeldIn bits n.toInt (.int n)
  | long (n : Int64) : bits = 64 → HeldIn bits n.toInt (.long n)
  | big (n : ℤ) : bits = 128 ∨ ¬Fits bits n → HeldIn bits n (.bigInteger n)

theorem HeldIn.integer? {bits : ℕ} {n : ℤ} {v : Value} (held : HeldIn bits n v) :
    v.integer? = some n := by
  cases held <;> rfl

/-! ## The mathematical result -/

section

variable {m n : ℤ}

/-- The remainder is on the side of zero where the dividend is, also where that is zero. -/
theorem IsDivision.side {quotient remainder : ℤ} (division : IsDivision m n quotient remainder) :
    (0 ≤ m → 0 ≤ remainder) ∧ (m ≤ 0 → remainder ≤ 0) := by
  obtain ⟨sum, smaller, sign⟩ := division
  rcases lt_trichotomy m 0 with negative | rfl | positive
  · exact ⟨fun above => by omega, fun _ => nonpos_of_mul_nonneg_left sign negative⟩
  · have divisible : n ∣ remainder := ⟨-quotient, by linarith⟩
    have zero : remainder = 0 :=
      Int.eq_zero_of_abs_lt_dvd ((abs_dvd n remainder).2 divisible) smaller
    simp [zero]
  · exact ⟨fun _ => nonneg_of_mul_nonneg_left sign positive, fun below => by omega⟩

/-- There is one division with a divisor that is not zero. -/
theorem isDivision_iff {quotient remainder : ℤ} (nonzero : n ≠ 0) :
    IsDivision m n quotient remainder ↔ m.tdiv n = quotient ∧ m.tmod n = remainder := by
  constructor
  · intro division
    have sum : remainder + n * quotient = m := by linarith [division.sum]
    obtain ⟨below, above⟩ := abs_lt.1 division.smaller
    rw [Int.abs_eq_natAbs] at below above
    rcases le_total 0 m with positive | negative
    · exact (Int.tdiv_tmod_unique positive nonzero).2 ⟨sum, division.side.1 positive, above⟩
    · exact (Int.tdiv_tmod_unique' negative nonzero).2 ⟨sum, below, division.side.2 negative⟩
  · rintro ⟨rfl, rfl⟩
    constructor
    · exact (Int.tdiv_mul_add_tmod m n).symm
    · rw [Int.abs_eq_natAbs, Int.abs_eq_natAbs, Int.natAbs_tmod]
      exact_mod_cast Nat.mod_lt _ (Int.natAbs_pos.2 nonzero)
    · rcases le_total 0 m with positive | negative
      · exact mul_nonneg (Int.tmod_nonneg n positive) positive
      · have opposite : 0 ≤ (-m).tmod n := Int.tmod_nonneg n (by omega)
        rw [Int.neg_tmod] at opposite
        exact mul_nonneg_of_nonpos_of_nonpos (by omega) negative

variable {op : BinaryOp}

theorem isResult_iff (arithmetic : op ∈ [BinaryOp.add, .sub, .mul, .div, .rem])
    (divisible : ¬(Divides op ∧ n = 0)) (result : ℤ) :
    IsResult op m n result ↔ result = exact op m n := by
  cases op with
  | add | sub | mul => rfl
  | div =>
    have nonzero : n ≠ 0 := fun zero => divisible ⟨.inl rfl, zero⟩
    constructor
    · rintro ⟨remainder, division⟩
      exact ((isDivision_iff nonzero).1 division).1.symm
    · rintro rfl
      exact ⟨m.tmod n, (isDivision_iff nonzero).2 ⟨rfl, rfl⟩⟩
  | rem =>
    have nonzero : n ≠ 0 := fun zero => divisible ⟨.inr rfl, zero⟩
    constructor
    · rintro ⟨quotient, division⟩
      exact ((isDivision_iff nonzero).1 division).2.symm
    · rintro rfl
      exact ⟨m.tdiv n, (isDivision_iff nonzero).2 ⟨rfl, rfl⟩⟩
  | _ => simp at arithmetic

/-! ## Widths -/

/-- The bits of an integer at a width. -/
def Width.bits : Width → ℕ
  | .int => 32
  | .long => 64
  | .big => 128

theorem bits_of (v : Value) : (Width.of v).bits = room v := by
  cases v <;> rfl

theorem bits_max (w w' : Width) : (w.max w').bits = max w.bits w'.bits := by
  cases w <;> cases w' <;> rfl

/-- An integer is held in so many bits as soon as they are enough. -/
theorem heldIn_if {bits : ℕ} {enough : Bool} {v : Value} (enough_iff : enough = true ↔ Fits bits n)
    (held : Fits bits n → HeldIn bits n v) : HeldIn bits n (if enough then v else .bigInteger n) := by
  split
  · next fits => exact held (enough_iff.1 fits)
  · next wide => exact .big n (.inr fun fits => wide (enough_iff.2 fits))

theorem heldIn_fit (w : Width) (n : ℤ) : HeldIn w.bits n (w.fit n) := by
  cases w with
  | int =>
    refine heldIn_if (by simp [Fits, Width.bits]) fun fits => ?_
    have held : HeldIn 32 (Int32.ofInt n).toInt _ := .int (Int32.ofInt n) rfl
    rwa [Int32.toInt_ofInt_of_le fits.1 fits.2] at held
  | long =>
    refine heldIn_if (by simp [Fits, Width.bits]) fun fits => ?_
    have held : HeldIn 64 (Int64.ofInt n).toInt _ := .long (Int64.ofInt n) rfl
    rwa [Int64.toInt_ofInt_of_le fits.1 fits.2] at held
  | big => exact .big n (.inl rfl)

theorem big?_of_fits (fits : Fits 128 n) : Value.big? n = some n := by
  have least : Value.minBig ≤ n := fits.1
  have greatest : n ≤ Value.maxBig := Int.le_sub_one_of_lt fits.2
  simp [Value.big?, least, greatest]

theorem big?_of_not_fits (wide : ¬Fits 128 n) : Value.big? n = none := by
  rw [Value.big?, if_neg]
  intro within
  simp only [Bool.and_eq_true, decide_eq_true_eq] at within
  exact wide ⟨within.1, Int.lt_of_le_sub_one within.2⟩

/-! ## Operators -/

section

variable {a b : Value}

theorem binary_integers (arithmetic : op ∈ [BinaryOp.add, .sub, .mul, .div, .rem])
    (first : a.integer? = some m) (second : b.integer? = some n) :
    binary op a b = integers op ((Width.of a).max (Width.of b)) m n := by
  have both : (a.isNumeric && b.isNumeric) = true := by
    rw [Value.isNumeric_of_integer? first, Value.isNumeric_of_integer? second]
    rfl
  have found : Operator.arithmetic op a b = integers op ((Width.of a).max (Width.of b)) m n := by
    rw [Operator.arithmetic, both, first, second]
    rfl
  have plain {v : Value} {k : ℤ} (integer : v.integer? = some k) : v.isTextual = false := by
    cases v <;> first | rfl | cases integer
  cases op with
  | add => rw [binary, plain first, plain second, ← found]; rfl
  | sub | mul | div | rem => exact found
  | _ => simp at arithmetic

theorem integers_zero (width : Width) (divides : Divides op) :
    integers op width m 0 = .error .divisionByZero := by
  rcases divides with rfl | rfl <;> rfl

/-- The least integer by minus one, which is refused before the remainder is looked at. -/
theorem integers_least (width : Width) (divides : Divides op) :
    integers op width (-2 ^ 127) (-1) =
      .error (.typeMismatch op.symbol "overflowing integer" "overflowing integer") := by
  rcases divides with rfl | rfl <;> rfl

theorem integers_other (width : Width) (divisible : ¬(Divides op ∧ n = 0))
    (other : ¬(Divides op ∧ m = -2 ^ 127 ∧ n = -1)) :
    integers op width m n =
      match Value.big? (exact op m n) with
      | some k => .ok (width.fit k)
      | none => .error (.typeMismatch op.symbol "overflowing integer" "overflowing integer") := by
  have noZero : ((op == .div || op == .rem) && n == 0) = false := by
    simpa [Divides] using divisible
  have noLeast : (op == .rem && m == Value.minBig && n == -1) = false := by
    simp only [Divides, not_and, Bool.and_eq_false_imp, Bool.and_eq_true, beq_iff_eq,
      beq_eq_false_iff_ne, ne_eq] at other ⊢
    rintro ⟨rfl, least⟩
    exact other (.inr rfl) least
  cases found : Value.big? (exact op m n) <;> simp [integers, noZero, noLeast, found]

/-- An operator on two integers fails on a divisor zero, and where 128 bits do not hold the
mathematical result. Otherwise it gives that result, in the bits of the wider operand if they hold
it. -/
theorem integer_arithmetic (first : a.integer? = some m) (second : b.integer? = some n)
    (arithmetic : op ∈ [BinaryOp.add, .sub, .mul, .div, .rem]) :
    (Divides op ∧ n = 0 → binary op a b = .error .divisionByZero) ∧
    (¬(Divides op ∧ n = 0) → ∃ result, (∀ k, IsResult op m n k ↔ k = result) ∧
      (TooWide op m n result → binary op a b =
        .error (.typeMismatch op.symbol "overflowing integer" "overflowing integer")) ∧
      (¬TooWide op m n result →
        ∃ v, binary op a b = .ok v ∧ v.integer? = some result ∧
          HeldIn (max (room a) (room b)) result v)) := by
  rw [binary_integers arithmetic first second, ← bits_of a, ← bits_of b, ← bits_max]
  constructor
  · rintro ⟨divides, rfl⟩
    exact integers_zero _ divides
  · intro divisible
    refine ⟨exact op m n, isResult_iff arithmetic divisible, ?_, ?_⟩
    · by_cases least : Divides op ∧ m = -2 ^ 127 ∧ n = -1
      · obtain ⟨divides, rfl, rfl⟩ := least
        exact fun _ => integers_least _ divides
      · intro tooWide
        have wide : ¬Fits 128 (exact op m n) := tooWide.resolve_right least
        rw [integers_other _ divisible least, big?_of_not_fits wide]
    · intro within
      obtain ⟨fits, other⟩ := not_or.1 within
      rw [integers_other _ divisible other, big?_of_fits (not_not.1 fits)]
      have held := heldIn_fit ((Width.of a).max (Width.of b)) (exact op m n)
      exact ⟨_, rfl, held.integer?, held⟩

/-- One more than the largest number of 64 bits without a sign. -/
theorem successor_of_unsigned :
    let greatest : Value := .number (.integer 18446744073709551615)
    let one : Value := .int 1
    greatest.integer? = some 18446744073709551615 ∧ one.integer? = some 1 ∧
      BinaryOp.add ∈ [BinaryOp.add, .sub, .mul, .div, .rem] ∧
      ∃ result, (∀ k, IsResult .add 18446744073709551615 1 k ↔ k = result) ∧
        (TooWide .add 18446744073709551615 1 result → binary .add greatest one =
          .error (.typeMismatch "+" "overflowing integer" "overflowing integer")) ∧
        (¬TooWide .add 18446744073709551615 1 result →
          ∃ v, binary .add greatest one = .ok v ∧ v.integer? = some result ∧
            HeldIn 64 result v) := by
  intro greatest one
  have first : greatest.integer? = some 18446744073709551615 := rfl
  have second : one.integer? = some 1 := rfl
  have arithmetic : BinaryOp.add ∈ [BinaryOp.add, .sub, .mul, .div, .rem] := by simp
  exact ⟨first, second, arithmetic,
    (integer_arithmetic first second arithmetic).2 (by rintro ⟨none | none, _⟩ <;> cases none)⟩

end

end

end SqlPreview.Operator
