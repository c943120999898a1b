import SqlPreview.Proofs.Json.Finite
import SqlPreview.Proofs.Number.Shortest

/-!
# Decimal numbers in JSON

Digits with at most one point are the simplest JSON numbers. Here it is computed what they are read as,
by the steps of the reader: a significand of 64 bits first, then one scaling.

Results:
1. `absorb_all`: digits that 64 bits have room for are all kept.
2. `fromParts_exact`: a significand of at most fifteen digits is scaled down by a power of ten as
   rational numbers are divided, with one rounding.
3. `wholeNumber?_digits`, `wholeNumber?_point`: what digits are read as, and digits around a point.
4. `of_wholeNumber?_integer`, `of_wholeNumber?_floating`: an integer of 64 bits loses no digit, and
   neither does a floating number that is short.
-/

namespace SqlPreview

open Number (Decimal Floating Format IsDigits IsSign WritesDecimal)

namespace JsonNumber

/-! ## Significands -/

theorem digitsValue_cons (d : Char) (digits : List Char) :
    Text.digitsValue (d :: digits) =
      10 ^ digits.length * Text.digitValue d + Text.digitsValue digits := by
  have first : Text.digitsValue [d] = Text.digitValue d := Nat.zero_add _
  rw [← List.singleton_append, Text.digitsValue_append, first]

/-- Some of the digits are kept, from the first on. -/
theorem absorb_front (significand : ℕ) (digits : List Char) :
    (absorb significand digits).2 ≤ digits.length ∧
      ((absorb significand digits).2 = digits.length →
        (absorb significand digits).1 =
          10 ^ digits.length * significand + Text.digitsValue digits) := by
  induction digits generalizing significand with
  | nil => exact ⟨le_rfl, fun _ => by rw [absorb]; simp [Text.digitsValue]⟩
  | cons d digits ih =>
    obtain ⟨atMost, all⟩ := ih (significand * 10 + Text.digitValue d)
    rw [absorb]
    dsimp only
    split
    · refine ⟨Nat.succ_le_succ atMost, fun same => ?_⟩
      rw [List.length_cons] at same
      rw [all (Nat.succ_injective same), digitsValue_cons, List.length_cons, pow_succ]
      ring
    · exact ⟨Nat.zero_le _, fun same => absurd same (Nat.succ_ne_zero _).symm⟩

theorem absorb_all {significand : ℕ} {digits : List Char}
    (fits : 10 ^ digits.length * significand + Text.digitsValue digits < 0x10000000000000000) :
    absorb significand digits =
      (10 ^ digits.length * significand + Text.digitsValue digits, digits.length) := by
  induction digits generalizing significand with
  | nil =>
    rw [absorb]
    simp [Text.digitsValue]
  | cons d digits ih =>
    have same : 10 ^ (d :: digits).length * significand + Text.digitsValue (d :: digits) =
        10 ^ digits.length * (significand * 10 + Text.digitValue d) + Text.digitsValue digits := by
      rw [digitsValue_cons, List.length_cons, pow_succ]
      ring
    rw [same] at fits ⊢
    have grown : significand * 10 + Text.digitValue d < 0x10000000000000000 :=
      calc significand * 10 + Text.digitValue d
          ≤ 10 ^ digits.length * (significand * 10 + Text.digitValue d) :=
            Nat.le_mul_of_pos_left _ (by positivity)
        _ < 0x10000000000000000 := (Nat.le_add_right _ _).trans_lt fits
    rw [absorb]
    dsimp only
    rw [if_pos grown, ih fits, List.length_cons]

theorem absorb_zero_all {digits : List Char} (fits : Text.digitsValue digits < 0x10000000000000000) :
    absorb 0 digits = (Text.digitsValue digits, digits.length) := by
  have value : 10 ^ digits.length * 0 + Text.digitsValue digits = Text.digitsValue digits :=
    Nat.zero_add _
  rw [absorb_all (value.trans_lt fits), value]

/-! ## Parts without a loss -/

theorem has_natCast {n : ℕ} (small : n < 2 ^ 53) : Format.double.Has n := by
  refine ⟨n, 0, ?_, by decide, by rw [zpow_zero, mul_one, Int.cast_natCast]⟩
  rw [abs_of_nonneg (Int.natCast_nonneg n)]
  exact_mod_cast small

/-- The largest power of ten of which 64 bits keep every digit is `10 ^ 22`. -/
theorem has_ten_pow {n : ℕ} (near : n ≤ 22) : Format.double.Has (10 ^ n : ℕ) := by
  refine ⟨5 ^ n, n, ?_, ?_, ?_⟩
  · rw [abs_of_pos (by positivity)]
    calc (5 : ℤ) ^ n ≤ 5 ^ 22 := pow_le_pow_right₀ (by norm_num) near
      _ < 2 ^ Format.double.precision := by decide
  · have low : Format.double.low = -1074 := rfl
    omega
  · rw [zpow_natCast]
    push_cast
    rw [← mul_pow]
    norm_num

/-- A natural number that is one of 64 bits is converted to itself. -/
theorem exists_ofQuotient_of_has {n : ℕ} (has : Format.double.Has n) (small : (n : ℚ) ≤ 10 ^ 22) :
    ∃ m e, Floating.ofQuotient .double false n 1 = .finite false m e ∧ (m : ℚ) * 2 ^ e = n := by
  have within : (n : ℚ) < Format.double.limit :=
    calc (n : ℚ) ≤ 10 ^ 22 := small
      _ < 2 ^ (74 : ℤ) := by norm_num
      _ < Format.double.limit := zpow_lt_zpow_right₀ (by norm_num) (by decide)
  have itself : (n : ℚ) / (1 : ℕ) ≤ n := by rw [Nat.cast_one, div_one]
  obtain ⟨m, e, same, value⟩ :=
    Floating.exists_ofQuotient (by decide) (by decide) has within false Nat.one_pos itself
  refine ⟨m, e, same, ?_⟩
  rw [value, Nat.cast_one, div_one, Format.nearest_of_has (by decide) has]

/-- Both the significand and the power of ten are exact, so the division rounds once. -/
theorem fromParts_exact {c places : ℕ} (few : c < 10 ^ 15) (fractional : 0 < places)
    (near : places ≤ 22) :
    fromParts c (-places) = some (Floating.ofQuotient .double false c (10 ^ places)) := by
  have below : c < 2 ^ 53 := few.trans (by decide)
  obtain ⟨m, e, dividend, value⟩ := exists_ofQuotient_of_has (has_natCast below)
    (by exact_mod_cast few.le.trans (by decide : 10 ^ 15 ≤ 10 ^ 22))
  obtain ⟨m', e', divisor, value'⟩ := exists_ofQuotient_of_has (has_ten_pow near)
    (by exact_mod_cast Nat.pow_le_pow_right (by decide) near)
  have integer : Floating.ofInt .double c = .finite false m e := by
    rw [← dividend, Floating.ofInt, Int.natAbs_natCast, decide_eq_false (by omega)]
  have power : tenTo places = .finite false m' e' := by
    rw [tenTo_eq (by omega), divisor]
  have positive : 0 < m' := by
    refine Nat.pos_of_ne_zero ?_
    rintro rfl
    rw [Nat.cast_zero, zero_mul] at value'
    exact absurd value'.symm (by positivity)
  obtain ⟨num, den, positive', quotient, same⟩ :=
    Floating.div_finite .double false false m e e' positive
  unfold fromParts
  dsimp only
  rw [if_neg (by omega), if_neg (by omega), if_pos (by omega), neg_neg, Int.toNat_natCast, integer,
    power, same]
  refine congrArg some (Floating.ofQuotient_congr _ _ positive' (by positivity) ?_)
  rw [quotient, value, value']

end JsonNumber

/-! ## Reading -/

namespace Json

variable {d : Char} {digits fraction : List Char} {negative : Bool}

/-- What was taken from a text, if nothing is left of it. -/
def whole? {input : List Char} : Except JsonFault (Taken input JsonNumber) → Option JsonNumber
  | .ok taken => if taken.rest.isEmpty then some taken.value else none
  | .error _ => none

theorem whole?_scaledNumber {input : List Char} (significand : ℕ) (exponent : ℤ)
    (shorter : ([] : List Char).length < input.length) :
    whole? (scaledNumber negative significand exponent [] shorter) =
      (JsonNumber.fromParts significand exponent).map (signedFloating negative) := by
  unfold scaledNumber
  cases JsonNumber.fromParts significand exponent <;> rfl

theorem wholeNumber?_eq (text : List Char) :
    wholeNumber? negative text = whole? (numberBody text negative text le_rfl) := by
  unfold wholeNumber? whole?
  cases numberBody text negative text le_rfl <;> rfl

/-- Digits are an integer if they fit 64 bits. A zero in front of others is refused. -/
theorem wholeNumber?_digits (each : ∀ c ∈ d :: digits, Text.isAsciiDigit c = true) :
    wholeNumber? negative (d :: digits) =
      if d = '0' ∧ digits ≠ [] then none
      else if (JsonNumber.absorb 0 (d :: digits)).2 = digits.length + 1 then
        some (.ofInteger negative (JsonNumber.absorb 0 (d :: digits)).1)
      else (JsonNumber.fromParts (JsonNumber.absorb 0 (d :: digits)).1
        (digits.length + 1 - (JsonNumber.absorb 0 (d :: digits)).2 : ℕ)).map
          (signedFloating negative) := by
  obtain ⟨first, others⟩ := List.forall_mem_cons.1 each
  have taken : digits.takeWhile Text.isAsciiDigit = digits := List.takeWhile_eq_self_iff.2 others
  have left : digits.dropWhile Text.isAsciiDigit = [] := List.dropWhile_eq_nil_iff.2 others
  have atMost : (JsonNumber.absorb 0 (d :: digits)).2 ≤ digits.length + 1 :=
    (JsonNumber.absorb_front 0 (d :: digits)).1
  rw [wholeNumber?_eq]
  unfold numberBody
  simp only [first, taken, left, Bool.not_true, Bool.false_eq_true, if_false]
  generalize JsonNumber.absorb 0 (d :: digits) = kept at *
  by_cases zero : d = '0' ∧ digits ≠ []
  · have refused : (d == '0' && !digits.isEmpty) = true := by simpa using zero
    rw [if_pos zero, if_pos refused]
    rfl
  · have accepted : ¬(d == '0' && !digits.isEmpty) = true := by simpa using zero
    have noPoint : ¬([] : List Char).head? = some '.' := by decide
    rw [if_neg zero, if_neg accepted, if_neg noPoint]
    by_cases all : kept.2 = digits.length + 1
    · have none : ((digits.length + 1 - kept.2 : ℕ) : ℤ) = 0 := by omega
      rw [if_pos all, if_pos (by rw [none]; rfl)]
      rfl
    · have some : ¬digits.length + 1 - kept.2 = 0 := by omega
      rw [if_neg all, if_neg (by simpa using some)]
      exact whole?_scaledNumber _ _ _

/-- Digits around a point are a floating number. Neither part may be empty. -/
theorem wholeNumber?_point (before : ∀ c ∈ d :: digits, Text.isAsciiDigit c = true)
    (behind : ∀ c ∈ fraction, Text.isAsciiDigit c = true) :
    wholeNumber? negative (d :: digits ++ '.' :: fraction) =
      if (d = '0' ∧ digits ≠ []) ∨ fraction = [] then none
      else
        let kept := JsonNumber.absorb 0 (d :: digits)
        let kept' := JsonNumber.absorb kept.1 fraction
        (JsonNumber.fromParts kept'.1 ((digits.length + 1 - kept.2 : ℕ) - kept'.2)).map
          (signedFloating negative) := by
  obtain ⟨first, others⟩ := List.forall_mem_cons.1 before
  obtain ⟨taken, left⟩ := Decimal.digits_cut ('.' :: fraction) others (by rintro c ⟨⟩; rfl)
  have taken' : fraction.takeWhile Text.isAsciiDigit = fraction := List.takeWhile_eq_self_iff.2 behind
  have left' : fraction.dropWhile Text.isAsciiDigit = [] := List.dropWhile_eq_nil_iff.2 behind
  rw [wholeNumber?_eq, List.cons_append]
  unfold numberBody
  simp only [first, taken, left, Bool.not_true, Bool.false_eq_true, if_false]
  generalize JsonNumber.absorb 0 (d :: digits) = kept
  by_cases zero : d = '0' ∧ digits ≠ []
  · have refused : (d == '0' && !digits.isEmpty) = true := by simpa using zero
    have refused' : (d = '0' ∧ digits ≠ []) ∨ fraction = [] := .inl zero
    rw [if_pos refused', if_pos refused]
    rfl
  · have accepted : ¬(d == '0' && !digits.isEmpty) = true := by simpa using zero
    have point : ('.' :: fraction).head? = some '.' := rfl
    rw [if_neg accepted, if_pos point]
    unfold fractionPart
    simp only [List.tail_cons, taken', left']
    by_cases empty : fraction = []
    · have refused : (d = '0' ∧ digits ≠ []) ∨ fraction = [] := .inr empty
      rw [if_pos refused]
      subst empty
      rfl
    · have accepted' : ¬((d = '0' ∧ digits ≠ []) ∨ fraction = []) := not_or.2 ⟨zero, empty⟩
      rw [if_neg accepted', if_neg (by simpa using empty)]
      exact whole?_scaledNumber _ _ _

theorem wholeNumber?_of_not_digit {c : Char} (other : Text.isAsciiDigit c = false)
    (rest : List Char) : wholeNumber? negative (c :: rest) = none := by
  rw [wholeNumber?_eq]
  unfold numberBody
  simp only [other, Bool.not_false, if_true]
  rfl

/-- Neither part of a number with a point is empty. -/
theorem ne_nil_of_point {whole : List Char} (before : ∀ c ∈ whole, Text.isAsciiDigit c = true)
    (behind : ∀ c ∈ fraction, Text.isAsciiDigit c = true) {n : JsonNumber}
    (found : wholeNumber? negative (whole ++ '.' :: fraction) = some n) :
    whole ≠ [] ∧ fraction ≠ [] := by
  cases whole with
  | nil =>
    rw [List.nil_append, wholeNumber?_of_not_digit rfl] at found
    cases found
  | cons d whole =>
    rw [wholeNumber?_point before behind] at found
    split at found
    · cases found
    · next accepted => exact ⟨List.cons_ne_nil d whole, fun empty => accepted (.inr empty)⟩

/-! ## What is kept of a decimal number -/

variable {text : List Char} {coefficient places : ℕ}

/-- What is read as an integer is one, and no digit of it is lost. -/
theorem of_wholeNumber?_integer (writes : WritesDecimal text coefficient places) {n : ℤ}
    (found : wholeNumber? negative text = some (.integer n)) :
    places = 0 ∧ n = if negative then -(coefficient : ℤ) else coefficient := by
  cases writes with
  | @digits digits isDigits =>
    obtain ⟨d, digits, rfl⟩ := List.exists_cons_of_ne_nil isDigits.present
    rw [wholeNumber?_digits isDigits.each] at found
    split_ifs at found with zero all
    · have whole := (JsonNumber.absorb_front 0 (d :: digits)).2 all
      rw [Nat.mul_zero, Nat.zero_add] at whole
      rw [whole, JsonNumber.ofInteger] at found
      refine ⟨rfl, ?_⟩
      cases negative with
      | false =>
        cases found
        rfl
      | true =>
        rw [if_neg (by decide)] at found
        split at found
        · cases found
        · cases found
          rfl
    · obtain ⟨x, -, same⟩ := Option.map_eq_some_iff.1 found
      cases same
  | @point whole fraction before behind _ =>
    obtain ⟨present, -⟩ := ne_nil_of_point before behind found
    obtain ⟨d, whole, rfl⟩ := List.exists_cons_of_ne_nil present
    rw [wholeNumber?_point before behind] at found
    split at found
    · cases found
    · obtain ⟨x, -, same⟩ := Option.map_eq_some_iff.1 found
      cases same

/-- Among the integers of 64 bits, only the negative zero is floating. -/
theorem floating_of_digits {digits : List Char} (isDigits : IsDigits digits)
    (small : Text.digitsValue digits ≤ 2 ^ 63) {x : Floating}
    (found : wholeNumber? negative digits = some (.floating x)) :
    Text.digitsValue digits = 0 ∧ x = .finite negative 0 (-1074) := by
  obtain ⟨d, digits, rfl⟩ := List.exists_cons_of_ne_nil isDigits.present
  rw [wholeNumber?_digits isDigits.each, JsonNumber.absorb_zero_all (small.trans_lt (by decide))] at found
  split_ifs at found with zero all
  · rw [JsonNumber.ofInteger] at found
    cases negative with
    | false => cases found
    | true =>
      rw [if_neg (by decide)] at found
      split at found
      · next special =>
        have none : Text.digitsValue (d :: digits) = 0 := by
          simp only [Bool.or_eq_true, decide_eq_true_eq] at special
          omega
        cases found
        rw [none]
        exact ⟨rfl, rfl⟩
      · cases found
  · exact absurd rfl all

/-- Digits around a point are read as their quotient, with one rounding. -/
theorem floating_of_point {whole fraction : List Char}
    (before : ∀ c ∈ whole, Text.isAsciiDigit c = true)
    (behind : ∀ c ∈ fraction, Text.isAsciiDigit c = true)
    (few : Text.digitsValue (whole ++ fraction) < 10 ^ 15) (near : fraction.length ≤ 22) {x : Floating}
    (found : wholeNumber? negative (whole ++ '.' :: fraction) = some (.floating x)) :
    .floating x = signedFloating negative (Floating.ofQuotient .double false
      (Text.digitsValue (whole ++ fraction)) (10 ^ fraction.length)) := by
  obtain ⟨present, present'⟩ := ne_nil_of_point before behind found
  obtain ⟨d, whole, rfl⟩ := List.exists_cons_of_ne_nil present
  rw [wholeNumber?_point before behind] at found
  split at found
  · cases found
  · rw [Text.digitsValue_append] at few ⊢
    have fractional : 0 < fraction.length := List.length_pos_of_ne_nil present'
    have fits : Text.digitsValue (d :: whole) ≤
        10 ^ fraction.length * Text.digitsValue (d :: whole) + Text.digitsValue fraction :=
      (Nat.le_mul_of_pos_left _ (by positivity)).trans (Nat.le_add_right _ _)
    have kept := JsonNumber.absorb_zero_all ((fits.trans_lt few).trans (by decide))
    have kept' := JsonNumber.absorb_all (few.trans (by decide))
    dsimp only at found
    rw [kept, kept', List.length_cons, Nat.sub_self, Nat.cast_zero, zero_sub,
      JsonNumber.fromParts_exact few fractional near] at found
    exact (Option.some.inj found).symm

/-- An integer of 64 bits, and a number of at most fifteen digits of which at most 22 stand behind the
point, are written as they were from the floating number that they are read as. -/
theorem of_wholeNumber?_floating (writes : WritesDecimal text coefficient places)
    (short : places = 0 ∧ coefficient ≤ 2 ^ 63 ∨ places ≤ 22 ∧ coefficient < 10 ^ 15) {x : Floating}
    (found : wholeNumber? negative text = some (.floating x)) :
    ∃ m e, x = .finite negative m e ∧
      Number.Layout.json.chosen m e = coefficient / 10 ^ places := by
  cases writes with
  | digits isDigits =>
    obtain ⟨none, rfl⟩ := floating_of_digits isDigits (by omega) found
    rw [none]
    exact ⟨0, -1074, rfl, by rw [Nat.cast_zero, zero_div]; rfl⟩
  | point before behind _ =>
    have behind' := List.length_pos_of_ne_nil (ne_nil_of_point before behind found).2
    obtain ⟨near, few⟩ := short.resolve_left fun whole => behind'.ne' whole.1
    have quotient := floating_of_point before behind few near found
    obtain ⟨m, e, same, chosen⟩ := Number.chosen_ofQuotient few near Number.Layout.json
    rw [same] at quotient
    refine ⟨m, e, ?_, chosen⟩
    cases negative with
    | false | true => exact JsonNumber.floating.inj quotient

/-! ## Signs -/

/-- Only a minus may stand before a JSON number. -/
theorem of_readNumber? {sign : List Char} (isSign : IsSign sign)
    (writes : WritesDecimal text coefficient places) :
    ∃ negative, Decimal.read? (sign ++ text) = some ⟨negative, coefficient, -places⟩ ∧
      ∀ n, readNumber? (String.ofList (sign ++ text)) = some n →
        wholeNumber? negative text = some n := by
  cases isSign with
  | minus =>
    refine ⟨true, writes.read true, fun n found => ?_⟩
    rwa [readNumber?, String.toList_ofList] at found
  | plus =>
    refine ⟨false, writes.read false, fun n found => ?_⟩
    rw [readNumber?, String.toList_ofList] at found
    exact absurd (found.symm.trans (wholeNumber?_of_not_digit rfl text)) nofun
  | absent =>
    obtain ⟨c, rest, same, plain⟩ := writes.unsigned.begins
    have read := writes.read false
    rw [same] at read ⊢
    refine ⟨false, ?_, fun n found => ?_⟩
    · rwa [List.nil_append, Decimal.read?, Decimal.splitSign_unsigned rest plain]
    · rw [readNumber?, List.nil_append, String.toList_ofList] at found
      split at found
      · next minus =>
        cases minus
        exact absurd plain (by decide)
      · exact found

end Json

end SqlPreview
