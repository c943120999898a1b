import SqlPreview.Proofs.Number.Literal
import SqlPreview.Proofs.Number.Place

/-!
# What written numbers denote

A number is written as digits, a point among them or an exponent behind them. This file computes the
rational number that such a text is read back as (`Decimal.unsignedValue?`, `Decimal.value?`), and
defines the texts of digits with at most one point (`WritesDecimal`).

Results:
1. `unsignedValue?_positionalText`, `unsignedValue?_exponentText`: both forms keep the digits and
   their unit.
2. `value?_text`: a floating number is read back as the digits that were chosen for it.
-/

namespace SqlPreview.Number

namespace Decimal

/-- The rational number that a text without a sign denotes. -/
def unsignedValue? (text : List Char) : Option ℚ := (unsigned? false text).map toRat

/-- The rational number that a text denotes. -/
def value? (text : List Char) : Option ℚ := (read? text).map toRat

theorem toRat_ofDigits (whole fraction : List Char) (exponent : ℤ) :
    (ofDigits false whole fraction exponent).toRat =
      Text.digitsValue (whole ++ fraction) * 10 ^ (exponent - fraction.length) := by
  rw [toRat_eq]
  rfl

theorem unsignedValue?_digits {digits tail : List Char} (isDigits : IsDigits digits)
    (isExponent : IsExponent tail) :
    unsignedValue? (digits ++ tail) =
      (exponent? tail).map fun e : ℤ => (Text.digitsValue digits : ℚ) * 10 ^ e := by
  rw [unsignedValue?, unsigned?_digits isDigits isExponent, Option.map_map]
  congr 1
  funext e
  rw [Function.comp_apply, toRat_ofDigits, List.append_nil, List.length_nil, Nat.cast_zero, sub_zero]

theorem unsignedValue?_point {whole fraction tail : List Char}
    (before : ∀ c ∈ whole, Text.isAsciiDigit c = true)
    (behind : ∀ c ∈ fraction, Text.isAsciiDigit c = true) (present : whole ≠ [] ∨ fraction ≠ [])
    (isExponent : IsExponent tail) :
    unsignedValue? (whole ++ '.' :: (fraction ++ tail)) =
      (exponent? tail).map fun e : ℤ =>
        (Text.digitsValue (whole ++ fraction) : ℚ) * 10 ^ (e - fraction.length) := by
  rw [unsignedValue?, unsigned?_point before behind present isExponent, Option.map_map]
  congr 1

theorem unsignedValue?_whole {digits : List Char} (isDigits : IsDigits digits) :
    unsignedValue? digits = some (Text.digitsValue digits : ℚ) := by
  have read := unsignedValue?_digits isDigits .absent
  rwa [List.append_nil, exponent?, Option.map_some, zpow_zero, mul_one] at read

theorem unsignedValue?_fraction {whole fraction : List Char}
    (before : ∀ c ∈ whole, Text.isAsciiDigit c = true)
    (behind : ∀ c ∈ fraction, Text.isAsciiDigit c = true) (present : whole ≠ [] ∨ fraction ≠ []) :
    unsignedValue? (whole ++ '.' :: fraction) =
      some (Text.digitsValue (whole ++ fraction) / 10 ^ fraction.length : ℚ) := by
  have read := unsignedValue?_point before behind present .absent
  rwa [List.append_nil, exponent?, Option.map_some, zero_sub, zpow_neg, zpow_natCast,
    ← div_eq_mul_inv] at read

/-! ## Signs -/

theorem value?_unsigned {text : List Char} (unsigned : IsUnsigned text) :
    value? text = unsignedValue? text := by
  obtain ⟨c, rest, rfl, plain⟩ := unsigned.begins
  rw [value?, read?, splitSign_unsigned rest plain]
  rfl

theorem value?_plus (text : List Char) : value? ('+' :: text) = unsignedValue? text := rfl

theorem value?_minus (text : List Char) :
    value? ('-' :: text) = (unsignedValue? text).map fun q => -q := by
  have signs (d : Decimal) : toRat { d with negative := true } = -toRat { d with negative := false } := by
    rw [toRat_eq, toRat_eq]
    rfl
  show (unsigned? true text).map toRat = ((unsigned? false text).map toRat).map _
  have unsigned := unsigned?_eq false text
  rw [unsigned?_eq true]
  cases read : unsigned? false text with
  | none => rfl
  | some d =>
    rw [read, Option.map_some, Option.some.injEq] at unsigned
    rw [Option.map_some, Option.map_some, Option.map_some, Option.map_some, signs, ← unsigned]

/-! ## Layouts -/

variable {digits : List Char}

/-- Zeros behind the digits and in front of them make up for the place of the point. -/
theorem unsignedValue?_positionalText (isDigits : IsDigits digits) (places : ℤ)
    (keepsFraction : Bool) :
    unsignedValue? (positionalText digits places keepsFraction) =
      some ((Text.digitsValue digits : ℚ) * 10 ^ (places - digits.length)) := by
  have zeros (n : ℕ) : ∀ c ∈ List.replicate n '0', Text.isAsciiDigit c = true := by
    intro c member
    rw [List.eq_of_mem_replicate member]
    rfl
  unfold positionalText
  dsimp only
  split
  · next long =>
    obtain ⟨n, rfl⟩ : ∃ n : ℕ, places = digits.length + n := ⟨(places - digits.length).toNat, by omega⟩
    have whole := isDigits.append (zeros n)
    rw [add_sub_cancel_left, Int.toNat_natCast, zpow_natCast]
    cases keepsFraction with
    | true =>
      refine (unsignedValue?_fraction whole.each (zeros 1) (.inl whole.present)).trans ?_
      rw [Text.digitsValue_append, Text.digitsValue_append, Text.digitsValue_zeros,
        Text.digitsValue_zeros, List.length_replicate, List.length_replicate]
      push_cast
      refine congrArg some ?_
      ring
    | false =>
      rw [if_neg Bool.false_ne_true, List.append_nil, unsignedValue?_whole whole,
        Text.digitsValue_append, Text.digitsValue_zeros, List.length_replicate, Nat.add_zero,
        Nat.cast_mul, Nat.cast_pow, mul_comm]
      rfl
  · next short =>
    split
    · next some =>
      obtain ⟨n, rfl⟩ := Int.eq_ofNat_of_zero_le some.le
      have before : ∀ c ∈ digits.take n, Text.isAsciiDigit c = true := fun c member =>
        isDigits.each c (List.mem_of_mem_take member)
      have behind : ∀ c ∈ digits.drop n, Text.isAsciiDigit c = true := fun c member =>
        isDigits.each c (List.mem_of_mem_drop member)
      have present : digits.take n ≠ [] := by
        rw [ne_eq, List.take_eq_nil_iff, not_or]
        exact ⟨by omega, isDigits.present⟩
      have left : (n : ℤ) - digits.length = -((digits.length - n : ℕ) : ℤ) := by omega
      rw [Int.toNat_natCast, unsignedValue?_fraction before behind (.inl present),
        List.take_append_drop, List.length_drop, left, zpow_neg, zpow_natCast, div_eq_mul_inv]
    · next none =>
      obtain ⟨n, rfl⟩ : ∃ n : ℕ, places = -n := ⟨(-places).toNat, by omega⟩
      have behind := List.forall_mem_append.2 ⟨zeros n, isDigits.each⟩
      have front : List.replicate 1 '0' ++ (List.replicate n '0' ++ digits) =
          List.replicate (n + 1) '0' ++ digits := rfl
      have read := unsignedValue?_fraction (zeros 1) behind (.inl (List.cons_ne_nil _ _))
      rw [front, Text.digitsValue_append, Text.digitsValue_zeros, Nat.mul_zero, Nat.zero_add,
        List.length_append, List.length_replicate, div_eq_mul_inv, ← zpow_natCast, ← zpow_neg] at read
      rw [neg_neg, Int.toNat_natCast]
      refine read.trans ?_
      congr 3
      omega

/-- One digit stands in front of the point, and the exponent says where it belongs. -/
theorem unsignedValue?_exponentText (isDigits : IsDigits digits) (exponent : ℤ) :
    unsignedValue? (exponentText digits exponent) =
      some ((Text.digitsValue digits : ℚ) * 10 ^ (exponent + 1 - digits.length)) := by
  have written : IsDigits (Text.decimalDigits exponent.natAbs) := isDigits_decimalDigits _
  have tail : IsExponent ('e' :: (if exponent < 0 then '-' else '+') ::
        Text.decimalDigits exponent.natAbs) ∧
      exponent? ('e' :: (if exponent < 0 then '-' else '+') ::
        Text.decimalDigits exponent.natAbs) = some exponent := by
    split
    · next negative =>
      refine ⟨.present (.inl rfl) .minus written, ?_⟩
      have magnitude : -(exponent.natAbs : ℤ) = exponent := by omega
      show integer? ('-' :: _) = _
      rw [integer?, splitSign]
      simp only [digits?_decimalDigits, if_true]
      exact congrArg some magnitude
    · next natural =>
      refine ⟨.present (.inl rfl) .plus written, ?_⟩
      have magnitude : (exponent.natAbs : ℤ) = exponent := by omega
      show integer? ('+' :: _) = _
      rw [integer?, splitSign]
      simp only [digits?_decimalDigits]
      exact congrArg some magnitude
  obtain ⟨isExponent, read⟩ := tail
  obtain ⟨d, rest, rfl⟩ := List.exists_cons_of_ne_nil isDigits.present
  unfold exponentText
  cases rest with
  | nil =>
    have value := unsignedValue?_digits isDigits isExponent
    rw [read, Option.map_some] at value
    rwa [List.length_singleton, Nat.cast_one, add_sub_cancel_right]
  | cons e rest =>
    obtain ⟨first, others⟩ := List.forall_mem_cons.1 isDigits.each
    have value := unsignedValue?_point (List.forall_mem_singleton.2 first) others
      (.inl (List.cons_ne_nil d [])) isExponent
    rw [read, Option.map_some] at value
    have left : exponent + 1 - ((d :: e :: rest).length : ℤ) = exponent - (e :: rest).length := by
      rw [List.length_cons, Nat.cast_add, Nat.cast_one]
      ring
    rwa [left]

end Decimal

/-! ## Floating numbers -/

/-- The rational number that digits on a unit denote. -/
def Digits.toRat (d : Digits) : ℚ := d.digits * 10 ^ d.unit

/-- The rational number that is written for `significand * 2 ^ exponent`. -/
def Layout.chosen (layout : Layout) (significand : ℕ) (exponent : ℤ) : ℚ :=
  if significand = 0 then 0 else (shortest .double layout.tie significand exponent).toRat

/-- The rational number that a finite floating number is written as, with its sign. -/
def Layout.written (layout : Layout) (negative : Bool) (significand : ℕ) (exponent : ℤ) : ℚ :=
  if negative then -layout.chosen significand exponent else layout.chosen significand exponent

theorem Layout.unsignedValue?_magnitude (layout : Layout) (significand : ℕ) (exponent : ℤ) :
    Decimal.unsignedValue? (layout.magnitude significand exponent) =
      some (layout.chosen significand exponent) := by
  unfold magnitude chosen
  split
  · refine (Decimal.unsignedValue?_positionalText (isDigits_decimalDigits 0) _ _).trans ?_
    exact congrArg some (mul_eq_zero_of_left Nat.cast_zero _)
  · generalize shortest .double layout.tie significand exponent = d
    have unit : (Text.decimalDigits d.digits).length + d.unit - 1 + 1 -
        (Text.decimalDigits d.digits).length = d.unit := by omega
    dsimp only
    split
    · rw [Decimal.unsignedValue?_positionalText (isDigits_decimalDigits _),
        Text.digitsValue_decimalDigits, unit]
      rfl
    · rw [Decimal.unsignedValue?_exponentText (isDigits_decimalDigits _),
        Text.digitsValue_decimalDigits, unit]
      rfl

/-- A finite floating number is read back as what was chosen for its magnitude. -/
theorem Layout.value?_text (layout : Layout) (negative : Bool) (m : ℕ) (e : ℤ) :
    Decimal.value? (layout.text (.finite negative m e)) = some (layout.written negative m e) := by
  have magnitude := layout.unsignedValue?_magnitude m e
  cases negative with
  | true =>
    refine (Decimal.value?_minus (layout.magnitude m e)).trans ?_
    rw [magnitude]
    rfl
  | false => exact (Decimal.value?_unsigned (isUnsigned_magnitude layout m e)).trans magnitude

theorem Decimal.value?_intText (n : ℤ) :
    value? ((if n < 0 then ['-'] else []) ++ Text.decimalDigits n.natAbs) = some (n : ℚ) := by
  have isDigits := isDigits_decimalDigits n.natAbs
  have magnitude := unsignedValue?_whole isDigits
  rw [Text.digitsValue_decimalDigits] at magnitude
  split
  · next negative =>
    have size : (n.natAbs : ℤ) = -n := Int.ofNat_natAbs_of_nonpos negative.le
    rw [List.singleton_append, value?_minus, magnitude, Option.map_some, ← Int.cast_natCast, size,
      Int.cast_neg, neg_neg]
  · next natural =>
    have size : (n.natAbs : ℤ) = n := Int.natAbs_of_nonneg (not_lt.1 natural)
    rw [List.nil_append, value?_unsigned isDigits.unsigned, magnitude, ← Int.cast_natCast, size]

/-! ## Digits with at most one point -/

/-- A text without a sign and an exponent, with the value of its digits and the number of those behind
the point. -/
inductive WritesDecimal : List Char → ℕ → ℕ → Prop
  | digits {digits : List Char} :
      IsDigits digits → WritesDecimal digits (Text.digitsValue digits) 0
  | point {whole fraction : List Char} :
      (∀ c ∈ whole, Text.isAsciiDigit c = true) → (∀ c ∈ fraction, Text.isAsciiDigit c = true) →
      whole ≠ [] ∨ fraction ≠ [] →
      WritesDecimal (whole ++ '.' :: fraction) (Text.digitsValue (whole ++ fraction)) fraction.length

namespace WritesDecimal

variable {text : List Char} {coefficient places : ℕ} (writes : WritesDecimal text coefficient places)

include writes

theorem unsigned : IsUnsigned text := by
  cases writes with
  | digits isDigits => exact isDigits.unsigned
  | @point whole fraction before behind present =>
    cases whole with
    | nil =>
      have literal := IsUnsigned.fraction ⟨present.resolve_left (· rfl), behind⟩ .absent
      rwa [List.append_nil] at literal
    | cons d whole =>
      have literal := IsUnsigned.whole ⟨List.cons_ne_nil d whole, before⟩ (.point behind) .absent
      rwa [List.append_nil] at literal

theorem read (negative : Bool) :
    Decimal.unsigned? negative text = some ⟨negative, coefficient, -places⟩ := by
  cases writes with
  | digits isDigits =>
    have read := Decimal.unsigned?_digits isDigits .absent negative
    rw [List.append_nil] at read
    refine read.trans ?_
    rw [Decimal.exponent?, Option.map_some, Decimal.ofDigits, List.append_nil]
    rfl
  | point before behind present =>
    have read := Decimal.unsigned?_point before behind present .absent negative
    rw [List.append_nil] at read
    refine read.trans ?_
    rw [Decimal.exponent?, Option.map_some, Decimal.ofDigits, zero_sub]

end WritesDecimal

theorem Decimal.toRat_places (negative : Bool) (coefficient places : ℕ) :
    toRat ⟨negative, coefficient, -places⟩ =
      if negative then -((coefficient : ℚ) / 10 ^ places) else coefficient / 10 ^ places := by
  rw [toRat_eq, zpow_neg, zpow_natCast, ← div_eq_mul_inv]

end SqlPreview.Number
