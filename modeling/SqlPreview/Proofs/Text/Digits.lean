import SqlPreview.Number.Decimal
import SqlPreview.Proofs.Text.Blank

/-!
# Texts of digits

Results:
1. `Number.Decimal.digits?_decimalDigits`: a natural number is read back from its digits.
2. `hexValue?_digitChar`: so is a hexadecimal digit.
-/

namespace SqlPreview.Text

/-! ## Decimal digits -/

theorem isAsciiDigit_iff (c : Char) : isAsciiDigit c = true ↔ 48 ≤ c.toNat ∧ c.toNat ≤ 57 := by
  rw [isAsciiDigit, Bool.and_eq_true, decide_eq_true_eq, decide_eq_true_eq]
  exact Iff.rfl

theorem isBlank_of_isAsciiDigit {c : Char} (digit : isAsciiDigit c = true) :
    isBlank c = false := by
  obtain ⟨low, high⟩ := (isAsciiDigit_iff c).1 digit
  have apart : ∀ range ∈ blanks, range.2 < 48 ∨ 57 < range.1 := by decide
  refine Bool.eq_false_iff.2 fun blank => ?_
  obtain ⟨range, listed, above, below⟩ := (Ranges.holds_iff _ c).1 blank
  rcases apart range listed with before | behind
  · exact absurd (Nat.lt_of_le_of_lt below before) (Nat.not_lt.2 low)
  · exact absurd (Nat.lt_of_lt_of_le behind above) (Nat.not_lt.2 high)

theorem isAsciiDigit_of_mem_decimalDigits {c : Char} {n : Nat} (member : c ∈ decimalDigits n) :
    isAsciiDigit c = true := by
  have digit := Nat.isDigit_of_mem_toDigits (by decide) (by decide) member
  simp only [Char.isDigit, Bool.and_eq_true, decide_eq_true_eq] at digit
  exact (isAsciiDigit_iff c).2 digit

theorem decimalDigits_ne_nil (n : Nat) : decimalDigits n ≠ [] := Nat.toDigits_ne_nil

theorem digitsValue_decimalDigits (n : Nat) : digitsValue (decimalDigits n) = n :=
  Nat.ofDigitChars_toDigits (by decide) (by decide)

theorem digitsValue_append (first second : List Char) :
    digitsValue (first ++ second) =
      10 ^ second.length * digitsValue first + digitsValue second :=
  (Nat.ofDigitChars_append 0).trans Nat.ofDigitChars_eq_ofDigitChars_zero

theorem digitsValue_zeros (n : Nat) : digitsValue (List.replicate n '0') = 0 :=
  Nat.ofDigitChars_replicate_zero.trans (Nat.mul_zero _)

/-! ## Hexadecimal digits -/

/-- Each of the sixteen digits is read as its own value, and none is a blank. -/
theorem hexValue?_digitChar {d : Nat} (small : d < 16) : hexValue? (Nat.digitChar d) = some d := by
  interval_cases d <;> rfl

theorem isBlank_digitChar {d : Nat} (small : d < 16) : isBlank (Nat.digitChar d) = false := by
  interval_cases d <;> decide

theorem lt_of_hexValue? {c : Char} {d : Nat} (read : hexValue? c = some d) : d < 16 := by
  unfold hexValue? at read
  split at read
  · next digit =>
    obtain ⟨low, high⟩ := (isAsciiDigit_iff c).1 digit
    cases read
    have zero : '0'.toNat = 48 := rfl
    rw [digitValue]
    omega
  · split at read
    · next letter =>
      simp only [Bool.and_eq_true, decide_eq_true_eq] at letter
      have high : c.toNat ≤ 102 := letter.2
      have a : 'a'.toNat = 97 := rfl
      cases read
      omega
    · split at read
      · next letter =>
        simp only [Bool.and_eq_true, decide_eq_true_eq] at letter
        have high : c.toNat ≤ 70 := letter.2
        have a : 'A'.toNat = 65 := rfl
        cases read
        omega
      · cases read

end SqlPreview.Text

namespace SqlPreview.Number.Decimal

theorem digits?_decimalDigits (n : Nat) : digits? (Text.decimalDigits n) = some n := by
  have digits : ∀ c ∈ Text.decimalDigits n, Text.isAsciiDigit c = true := fun _ member =>
    Text.isAsciiDigit_of_mem_decimalDigits member
  rw [digits?, List.all_eq_true.2 digits, List.isEmpty_eq_false_iff.2 (Text.decimalDigits_ne_nil n),
    Text.digitsValue_decimalDigits]
  rfl

theorem integer?_decimalDigits (n : Nat) :
    integer? (Text.decimalDigits n) = some (n : Int) := by
  have digits : ∀ c ∈ Text.decimalDigits n, Text.isAsciiDigit c = true := fun _ member =>
    Text.isAsciiDigit_of_mem_decimalDigits member
  have unsigned : splitSign (Text.decimalDigits n) = (false, Text.decimalDigits n) := by
    unfold splitSign
    split
    next rest same => exact absurd (digits '-' (same ▸ List.mem_cons_self)) (by decide)
    next rest same => exact absurd (digits '+' (same ▸ List.mem_cons_self)) (by decide)
    · rfl
  rw [integer?, unsigned]
  simp only [digits?_decimalDigits]
  rfl

end SqlPreview.Number.Decimal
