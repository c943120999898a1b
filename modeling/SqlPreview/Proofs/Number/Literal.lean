import SqlPreview.Number.Layout
import SqlPreview.Proofs.Text.Digits

/-!
# Numeric literals

The grammar of numeric literals in SQL, the part before the exponent first. A point may stand
behind digits without digits behind it, or in front of digits without digits before it.

Results:
1. `numericLiteral_iff`: the literals are the texts that are read as decimal numbers.
2. `numericLiteral_text`, `numericLiteral_intText`: a finite floating number is written as a
   literal in every layout, and so is an integer.
-/

namespace SqlPreview.Number

/-! ## Grammar -/

/-- One digit or more. -/
structure IsDigits (text : List Char) : Prop where
  present : text ≠ []
  each : ∀ c ∈ text, Text.isAsciiDigit c = true

inductive IsSign : List Char → Prop
  | absent : IsSign []
  | minus : IsSign ['-']
  | plus : IsSign ['+']

/-- What may stand between digits and an exponent. -/
inductive IsFraction : List Char → Prop
  | absent : IsFraction []
  | point {digits : List Char} :
      (∀ c ∈ digits, Text.isAsciiDigit c = true) → IsFraction ('.' :: digits)

inductive IsExponent : List Char → Prop
  | absent : IsExponent []
  | present {mark : Char} {sign digits : List Char} :
      mark = 'e' ∨ mark = 'E' → IsSign sign → IsDigits digits → IsExponent (mark :: (sign ++ digits))

inductive IsUnsigned : List Char → Prop
  | whole {digits fraction exponent : List Char} :
      IsDigits digits → IsFraction fraction → IsExponent exponent →
      IsUnsigned (digits ++ (fraction ++ exponent))
  | fraction {digits exponent : List Char} :
      IsDigits digits → IsExponent exponent → IsUnsigned ('.' :: (digits ++ exponent))

/-- A sign, digits with a fraction or a fraction alone, and an exponent. -/
inductive NumericLiteral : List Char → Prop
  | mk {sign unsigned : List Char} :
      IsSign sign → IsUnsigned unsigned → NumericLiteral (sign ++ unsigned)

theorem isDigits_decimalDigits (n : Nat) : IsDigits (Text.decimalDigits n) :=
  ⟨Text.decimalDigits_ne_nil n, fun _ => Text.isAsciiDigit_of_mem_decimalDigits⟩

theorem IsDigits.append {first second : List Char} (digits : IsDigits first)
    (each : ∀ c ∈ second, Text.isAsciiDigit c = true) : IsDigits (first ++ second) :=
  ⟨List.append_ne_nil_of_left_ne_nil digits.present second,
    List.forall_mem_append.2 ⟨digits.each, each⟩⟩

theorem IsDigits.unsigned {digits : List Char} (isDigits : IsDigits digits) : IsUnsigned digits := by
  have whole := IsUnsigned.whole isDigits .absent .absent
  rwa [List.append_nil, List.append_nil] at whole

/-- An exponent mark ends digits. -/
theorem IsExponent.ends {text : List Char} (isExponent : IsExponent text) :
    ∀ c ∈ text.head?, Text.isAsciiDigit c = false := by
  cases isExponent with
  | absent => exact nofun
  | present isMark _ _ =>
    rintro c ⟨⟩
    rcases isMark with rfl | rfl <;> rfl

/-! ## Reading -/

namespace Decimal

/-- What may stand behind digits is no digit. -/
theorem digits_cut {digits : List Char} (rest : List Char)
    (each : ∀ c ∈ digits, Text.isAsciiDigit c = true)
    (ends : ∀ c ∈ rest.head?, Text.isAsciiDigit c = false) :
    (digits ++ rest).takeWhile Text.isAsciiDigit = digits ∧
      (digits ++ rest).dropWhile Text.isAsciiDigit = rest := by
  rw [List.takeWhile_append_of_pos each, List.dropWhile_append_of_pos each]
  cases rest with
  | nil => exact ⟨List.append_nil _, rfl⟩
  | cons c rest =>
    have other : ¬Text.isAsciiDigit c = true := Bool.eq_false_iff.1 (ends c rfl)
    rw [List.takeWhile_cons_of_neg other, List.dropWhile_cons_of_neg other]
    exact ⟨List.append_nil _, rfl⟩

theorem digits?_isSome {digits : List Char} (isDigits : IsDigits digits) :
    (digits? digits).isSome = true := by
  rw [digits?, List.all_eq_true.2 isDigits.each, List.isEmpty_eq_false_iff.2 isDigits.present]
  rfl

/-- Neither digits nor a point are a sign. -/
theorem splitSign_unsigned {c : Char} (rest : List Char)
    (plain : Text.isAsciiDigit c = true ∨ c = '.') : splitSign (c :: rest) = (false, c :: rest) := by
  unfold splitSign
  split
  · next same =>
    cases same
    exact absurd plain (by decide)
  · next same =>
    cases same
    exact absurd plain (by decide)
  · rfl

theorem splitSign_append {sign : List Char} (isSign : IsSign sign) {c : Char} (rest : List Char)
    (plain : Text.isAsciiDigit c = true ∨ c = '.') :
    (splitSign (sign ++ c :: rest)).2 = c :: rest := by
  cases isSign with
  | absent => rw [List.nil_append, splitSign_unsigned rest plain]
  | minus => rfl
  | plus => rfl

theorem exponent?_isSome {text : List Char} (isExponent : IsExponent text) :
    (exponent? text).isSome = true := by
  cases isExponent with
  | absent => rfl
  | @present mark sign digits isMark isSign isDigits =>
    have marked : (mark == 'e' || mark == 'E') = true := by simpa using isMark
    obtain ⟨c, rest, rfl⟩ := List.exists_cons_of_ne_nil isDigits.present
    have unsigned := splitSign_append isSign rest (.inl (isDigits.each c List.mem_cons_self))
    obtain ⟨n, read⟩ := Option.isSome_iff_exists.1 (digits?_isSome isDigits)
    rw [exponent?, if_pos marked]
    simp [integer?, unsigned, read]

/-- Digits without a point are the whole of the coefficient. -/
theorem unsigned?_digits {digits tail : List Char} (isDigits : IsDigits digits)
    (isExponent : IsExponent tail) (negative : Bool) :
    unsigned? negative (digits ++ tail) = (exponent? tail).map (ofDigits negative digits []) := by
  have noDigits : digits.isEmpty = false := List.isEmpty_eq_false_iff.2 isDigits.present
  obtain ⟨taken, left⟩ := digits_cut tail isDigits.each isExponent.ends
  rw [unsigned?, taken, left]
  cases isExponent with
  | absent => simp [noDigits, exponent?]
  | present isMark _ _ =>
    rcases isMark with rfl | rfl <;> simp only [noDigits] <;> exact Option.map_eq_bind.symm

/-- Digits before and behind a point, of which one part may be empty. -/
theorem unsigned?_point {whole fraction tail : List Char}
    (before : ∀ c ∈ whole, Text.isAsciiDigit c = true)
    (behind : ∀ c ∈ fraction, Text.isAsciiDigit c = true) (present : whole ≠ [] ∨ fraction ≠ [])
    (isExponent : IsExponent tail) (negative : Bool) :
    unsigned? negative (whole ++ '.' :: (fraction ++ tail)) =
      (exponent? tail).map (ofDigits negative whole fraction) := by
  obtain ⟨taken, left⟩ := digits_cut ('.' :: (fraction ++ tail)) before (by rintro c ⟨⟩; rfl)
  obtain ⟨taken', left'⟩ := digits_cut tail behind isExponent.ends
  have some : (whole.isEmpty && fraction.isEmpty) = false := by
    rw [Bool.and_eq_false_iff, List.isEmpty_eq_false_iff, List.isEmpty_eq_false_iff]
    exact present
  rw [unsigned?, taken, left]
  simp only [taken', left', some]
  exact Option.map_eq_bind.symm

theorem unsigned?_isSome {text : List Char} (unsigned : IsUnsigned text) (negative : Bool) :
    (unsigned? negative text).isSome = true := by
  cases unsigned with
  | whole isDigits isFraction isExponent =>
    cases isFraction with
    | absent =>
      rw [List.nil_append, unsigned?_digits isDigits isExponent, Option.isSome_map]
      exact exponent?_isSome isExponent
    | point each =>
      rw [List.cons_append,
        unsigned?_point isDigits.each each (.inl isDigits.present) isExponent, Option.isSome_map]
      exact exponent?_isSome isExponent
  | fraction isDigits isExponent =>
    have read := unsigned?_point (List.forall_mem_nil _) isDigits.each (.inr isDigits.present)
      isExponent negative
    rw [List.nil_append] at read
    rw [read, Option.isSome_map]
    exact exponent?_isSome isExponent

end Decimal

theorem IsUnsigned.begins {text : List Char} (unsigned : IsUnsigned text) :
    ∃ c rest, text = c :: rest ∧ (Text.isAsciiDigit c = true ∨ c = '.') := by
  cases unsigned with
  | @whole digits _ _ isDigits _ _ =>
    obtain ⟨c, rest, rfl⟩ := List.exists_cons_of_ne_nil isDigits.present
    exact ⟨c, _, rfl, .inl (isDigits.each c List.mem_cons_self)⟩
  | fraction => exact ⟨'.', _, rfl, .inr rfl⟩

namespace Decimal

theorem exists_sign (text : List Char) :
    ∃ sign, IsSign sign ∧ text = sign ++ (splitSign text).2 := by
  unfold splitSign
  split
  · exact ⟨_, .minus, rfl⟩
  · exact ⟨_, .plus, rfl⟩
  · exact ⟨_, .absent, rfl⟩

theorem isDigits_of_digits? {text : List Char} (read : (digits? text).isSome = true) :
    IsDigits text := by
  unfold digits? at read
  split at read
  · cases read
  · next other =>
    simp only [Bool.or_eq_true, not_or, Bool.not_eq_true', Bool.not_eq_false, List.all_eq_true,
      List.isEmpty_iff] at other
    exact ⟨other.1, other.2⟩

theorem isExponent_of_exponent? {text : List Char} (read : (exponent? text).isSome = true) :
    IsExponent text := by
  cases text with
  | nil => exact .absent
  | cons mark rest =>
    rw [exponent?] at read
    split at read
    · next isMark =>
      obtain ⟨sign, isSign, same⟩ := exists_sign rest
      have digits : (digits? (splitSign rest).2).isSome = true := by
        cases found : digits? (splitSign rest).2 with
        | none => simp [integer?, found] at read
        | some n => rfl
      rw [same]
      exact .present (by simpa using isMark) isSign (isDigits_of_digits? digits)
    · cases read

theorem isUnsigned_of_unsigned? {negative : Bool} {text : List Char}
    (read : (unsigned? negative text).isSome = true) : IsUnsigned text := by
  have digits (text : List Char) : ∀ c ∈ text.takeWhile Text.isAsciiDigit,
      Text.isAsciiDigit c = true := fun c member => List.mem_takeWhile_imp member
  have whole := digits text
  rw [← List.takeWhile_append_dropWhile (p := Text.isAsciiDigit) (l := text)]
  unfold unsigned? at read
  dsimp only at read
  generalize text.takeWhile Text.isAsciiDigit = before at read whole ⊢
  generalize text.dropWhile Text.isAsciiDigit = behind at read ⊢
  have exponent {fraction tail : List Char}
      (read : (if (before.isEmpty && fraction.isEmpty) = true then none
        else (exponent? tail).bind fun e => some (ofDigits negative before fraction e)).isSome = true) :
      (before ≠ [] ∨ fraction ≠ []) ∧ IsExponent tail := by
    split at read
    · cases read
    · next some =>
      refine ⟨by simpa [or_iff_not_imp_left] using some, isExponent_of_exponent? ?_⟩
      cases found : exponent? tail with
      | none =>
        rw [found] at read
        cases read
      | some e => rfl
  split at read
  · next rest =>
    dsimp only at read
    obtain ⟨present, isExponent⟩ := exponent read
    have each := digits rest
    rw [← List.takeWhile_append_dropWhile (p := Text.isAsciiDigit) (l := rest)]
    rcases before with _ | ⟨c, before⟩
    · exact .fraction ⟨present.resolve_left (· rfl), each⟩ isExponent
    · exact .whole ⟨List.cons_ne_nil _ _, whole⟩ (.point each) isExponent
  · dsimp only at read
    obtain ⟨present, isExponent⟩ := exponent read
    exact .whole ⟨present.resolve_right (· rfl), whole⟩ .absent isExponent

/-- The sign is passed on. -/
theorem unsigned?_eq (negative : Bool) (text : List Char) :
    unsigned? negative text =
      (unsigned? false text).map fun d => { d with negative } := by
  unfold unsigned?
  dsimp only
  generalize text.takeWhile Text.isAsciiDigit = before
  generalize text.dropWhile Text.isAsciiDigit = behind
  have ends (fraction tail : List Char) :
      (if (before.isEmpty && fraction.isEmpty) = true then none
        else (exponent? tail).bind fun e =>
          some (ofDigits negative before fraction e)) =
      (if (before.isEmpty && fraction.isEmpty) = true then none
        else (exponent? tail).bind fun e =>
          some (ofDigits false before fraction e)).map fun d => { d with negative } := by
    split
    · rfl
    · cases exponent? tail <;> rfl
  split <;> exact ends _ _

end Decimal

/-- Numeric literals are the texts of decimal numbers. -/
theorem numericLiteral_iff {text : List Char} :
    NumericLiteral text ↔ (Decimal.read? text).isSome = true := by
  constructor
  · rintro ⟨isSign, unsigned⟩
    obtain ⟨c, rest, rfl, plain⟩ := unsigned.begins
    show (Decimal.unsigned? _ (Decimal.splitSign _).2).isSome = true
    rw [Decimal.splitSign_append isSign rest plain]
    exact Decimal.unsigned?_isSome unsigned _
  · intro read
    obtain ⟨sign, isSign, same⟩ := Decimal.exists_sign text
    rw [same]
    exact .mk isSign (Decimal.isUnsigned_of_unsigned? read)

theorem numericLiteral_of_integer? {digits : List Char} {n : Int}
    (read : Decimal.integer? digits = some n) : NumericLiteral digits := by
  obtain ⟨sign, isSign, same⟩ := Decimal.exists_sign digits
  have isDigits : IsDigits (Decimal.splitSign digits).2 := by
    refine Decimal.isDigits_of_digits? ?_
    cases found : Decimal.digits? (Decimal.splitSign digits).2 with
    | none => simp [Decimal.integer?, found] at read
    | some n => rfl
  rw [same]
  exact .mk isSign isDigits.unsigned

theorem named?_eq_none {c : Char} (rest : List Char) (other : c ≠ 'i' ∧ c ≠ 'n') :
    Floating.named? (String.ofList (c :: rest)) = none := by
  simp [Floating.named?, ← String.toList_inj, other]

/-- What starts with a digit or a point is not the name of a number. -/
theorem numericLiteral_of_floating {c : Char} {rest : List Char}
    (plain : Text.isAsciiDigit c = true ∨ c = '.') {x : Floating}
    (read : Floating.read? .double (c :: rest) = some x) : NumericLiteral (c :: rest) := by
  rw [numericLiteral_iff]
  unfold Floating.read? at read
  split at read
  · next found =>
    rw [found]
    rfl
  · have small : c.toLower = c := by
      refine Char.toLower_eq_of_not_isUpper ?_
      rcases plain with digit | rfl
      · simp only [Text.isAsciiDigit, Char.isUpper, Char.le_def, UInt32.le_iff_toNat_le,
          Bool.and_eq_true, decide_eq_true_eq] at digit ⊢
        exact fun upper => absurd (upper.1.trans digit.2) (by decide)
      · decide
    have other : c ≠ 'i' ∧ c ≠ 'n' := by
      constructor <;> rintro rfl <;> exact absurd plain (by decide)
    rw [Decimal.splitSign_unsigned rest plain] at read
    obtain ⟨name, named, -⟩ := Option.map_eq_some_iff.1 read
    rw [List.map_cons, small, named?_eq_none _ other] at named
    cases named

/-! ## Writing -/

theorem isUnsigned_positionalText {digits : List Char} (isDigits : IsDigits digits) (places : Int)
    (keepsFraction : Bool) : IsUnsigned (positionalText digits places keepsFraction) := by
  have zeros (n : Nat) : ∀ c ∈ List.replicate n '0', Text.isAsciiDigit c = true := by
    intro c member
    rw [List.eq_of_mem_replicate member]
    rfl
  unfold positionalText
  dsimp only
  split
  · have whole := isDigits.append (zeros (places - digits.length).toNat)
    cases keepsFraction with
    | true =>
      have fraction : IsFraction ['.', '0'] := .point (zeros 1)
      have literal := IsUnsigned.whole whole fraction .absent
      rwa [List.append_nil] at literal
    | false =>
      rw [if_neg Bool.false_ne_true, List.append_nil]
      exact whole.unsigned
  · split
    · next short some =>
      have before : IsDigits (digits.take places.toNat) := by
        refine ⟨?_, fun c member => isDigits.each c (List.mem_of_mem_take member)⟩
        rw [ne_eq, List.take_eq_nil_iff, not_or]
        exact ⟨by omega, isDigits.present⟩
      have fraction : IsFraction ('.' :: digits.drop places.toNat) :=
        .point fun c member => isDigits.each c (List.mem_of_mem_drop member)
      have literal := IsUnsigned.whole before fraction .absent
      rwa [List.append_nil] at literal
    · have zero : IsDigits ['0'] := ⟨List.cons_ne_nil _ _, zeros 1⟩
      have fraction : IsFraction ('.' :: (List.replicate (-places).toNat '0' ++ digits)) :=
        .point (List.forall_mem_append.2 ⟨zeros _, isDigits.each⟩)
      have literal := IsUnsigned.whole zero fraction .absent
      rwa [List.append_nil] at literal

theorem isUnsigned_exponentText {digits : List Char} (isDigits : IsDigits digits) (exponent : Int) :
    IsUnsigned (exponentText digits exponent) := by
  have isExponent : IsExponent ('e' :: (if exponent < 0 then '-' else '+') ::
      Text.decimalDigits exponent.natAbs) := by
    have digits := isDigits_decimalDigits exponent.natAbs
    split
    · exact .present (.inl rfl) .minus digits
    · exact .present (.inl rfl) .plus digits
  obtain ⟨present, each⟩ := isDigits
  unfold exponentText
  match digits, present, each with
  | [d], _, each => exact .whole ⟨List.cons_ne_nil _ _, each⟩ .absent isExponent
  | d :: e :: rest, _, each =>
    obtain ⟨first, others⟩ := List.forall_mem_cons.1 each
    have leading : IsDigits [d] := ⟨List.cons_ne_nil _ _, List.forall_mem_singleton.2 first⟩
    exact .whole leading (.point others) isExponent

theorem isUnsigned_magnitude (layout : Layout) (m : Nat) (e : Int) :
    IsUnsigned (layout.magnitude m e) := by
  unfold Layout.magnitude
  split
  · exact isUnsigned_positionalText (isDigits_decimalDigits 0) _ _
  · dsimp only
    split
    · exact isUnsigned_positionalText (isDigits_decimalDigits _) _ _
    · exact isUnsigned_exponentText (isDigits_decimalDigits _) _

/-- A finite number is written as a numeric literal in every layout. -/
theorem numericLiteral_text (layout : Layout) (negative : Bool) (m : Nat) (e : Int) :
    NumericLiteral (layout.text (.finite negative m e)) := by
  have unsigned := isUnsigned_magnitude layout m e
  cases negative with
  | true => exact .mk .minus unsigned
  | false => exact .mk .absent unsigned

theorem numericLiteral_intText (n : Int) :
    NumericLiteral ((if n < 0 then ['-'] else []) ++ Text.decimalDigits n.natAbs) := by
  have unsigned := (isDigits_decimalDigits n.natAbs).unsigned
  split
  · exact .mk .minus unsigned
  · exact .mk .absent unsigned

end SqlPreview.Number
