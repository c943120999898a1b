import SqlPreview.Proofs.Json.Decimals
import SqlPreview.Proofs.Json.Denotation
import SqlPreview.Proofs.Params.Coercion
import SqlPreview.Proofs.Params.Literal
import SqlPreview.Proofs.Text.Blank

/-!
# Decimal numbers that are read again

A decimal number is kept as the text that it was. Its JSON is a number where the text can be read as
one and a string elsewhere, and from either a decimal number is read again. In between, a text that
has a point or is too long for 64 bits becomes a floating number, which may have no room for its
digits.

Results:
1. `Scalar.decimal?_toJson`: what is read from the JSON of a decimal number.
2. `decimal_again_iff`: it denotes the same rational number, unless a floating number in between is
   written as another one.
3. `long_decimal_rounded`: twenty digits are too many.
-/

namespace SqlPreview

open Number (Decimal Floating Layout WritesDecimal)

/-! ## What JSON numbers are written as -/

namespace Json

variable {text : List Char} {coefficient places : ℕ} {negative : Bool}

theorem value?_of_integer (writes : WritesDecimal text coefficient places) {n : ℤ}
    (found : wholeNumber? negative text = some (.integer n)) :
    Decimal.value? (JsonNumber.integer n).chars =
      some (Decimal.toRat ⟨negative, coefficient, -places⟩) := by
  obtain ⟨rfl, same⟩ := of_wholeNumber?_integer writes found
  refine (Decimal.value?_intText n).trans ?_
  rw [Decimal.toRat_places, pow_zero, div_one, same]
  cases negative <;> simp

theorem value?_of_floating (writes : WritesDecimal text coefficient places) {x : Floating}
    (found : wholeNumber? negative text = some (.floating x)) :
    ∃ minus m e, x = .finite minus m e ∧
      Decimal.value? (JsonNumber.floating x).chars = some (Layout.json.written minus m e) ∧
      (places = 0 ∧ coefficient ≤ 2 ^ 63 ∨ places ≤ 22 ∧ coefficient < 10 ^ 15 →
        Layout.json.written minus m e = Decimal.toRat ⟨negative, coefficient, -places⟩) ∧
      ∃ k : ℤ, |k| ≤ 10 ^ 17 ∧ ∃ j : ℤ, Layout.json.written minus m e = k * 10 ^ j := by
  obtain ⟨_, denotes⟩ := denotes_of_wholeNumber? found
  cases denotes with
  | @floating minus m e isOf =>
    refine ⟨minus, m, e, rfl, Layout.json.value?_text minus m e, fun short => ?_,
      Layout.json.written_at_most isOf⟩
    obtain ⟨m', e', same, chosen⟩ := of_wholeNumber?_floating writes short found
    cases same
    rw [Decimal.toRat_places, Layout.written, chosen]

end Json

variable {table : ClassTable} {type : TypeRef} {s t : String}

namespace Scalar

/-- An accepted string is kept without the white space around it. -/
theorem of_decimal?_string (found : decimal? (.string s) = some t) :
    t = String.ofList (Text.trim s.toList) ∧ isDecimalText (Text.trim s.toList) = true := by
  rw [decimal?] at found
  split at found
  · next decimal =>
    cases found
    exact ⟨rfl, decimal⟩
  · cases found

/-- From the JSON of an accepted string the text of a number is read, or else the same text. -/
theorem decimal?_toJson (found : decimal? (.string s) = some t) :
    decimal? (Value.decimal t).toJson =
      some (((Json.readNumber? t).map JsonNumber.text).getD t) := by
  obtain ⟨rfl, decimal⟩ := of_decimal?_string found
  rw [Value.toJson]
  cases Json.readNumber? (String.ofList (Text.trim s.toList)) with
  | some => rfl
  | none =>
    dsimp only
    rw [decimal?, String.toList_ofList, Text.trim_trim, if_pos decimal]
    rfl

/-- What a string is read as if it is declared to be a decimal number. -/
theorem decimal?_of_coerce (scalar : type.category table = .scalar .bigDecimal)
    (accepted : coerce table (.string s) (some type) = .decimal t) :
    decimal? (.string s) = some t := by
  rw [coerce_scalar scalar (by nofun), read?] at accepted
  cases found : decimal? (.string s) with
  | none =>
    rw [found] at accepted
    cases accepted
  | some =>
    rw [found] at accepted
    cases accepted
    rfl

end Scalar

theorem coerce_toJson_decimal (scalar : type.category table = .scalar .bigDecimal)
    (accepted : coerce table (.string s) (some type) = .decimal t) :
    coerce table (Value.decimal t).toJson (some type) =
      .decimal (((Json.readNumber? t).map JsonNumber.text).getD t) := by
  have present : (Value.decimal t).toJson ≠ .null := by
    rw [Value.toJson]
    cases Json.readNumber? t <;> nofun
  rw [coerce_scalar scalar present, Scalar.read?,
    Scalar.decimal?_toJson (Scalar.decimal?_of_coerce scalar accepted)]
  rfl

/-- A decimal number is read again from its own JSON, as a number of at most seventeen digits if it
became a floating number. It denotes the same rational number if and only if such a floating number is
written as that one, which it is for an integer of 64 bits, and for at most fifteen digits of which no
more than 22 stand behind the point. -/
theorem decimal_again_iff (scalar : type.category table = .scalar .bigDecimal)
    (accepted : coerce table (.string s) (some type) = .decimal t) :
    ∃ d text q, Decimal.read? (Text.trim s.toList) = some d ∧
      coerce table (Value.decimal t).toJson (some type) = .decimal text ∧
      Decimal.value? text.toList = some q ∧
      (q = d.toRat ↔ ∀ negative m e,
        Json.readNumber? t = some (.floating (.finite negative m e)) →
          Layout.json.written negative m e = d.toRat) ∧
      (d.exponent = 0 ∧ d.coefficient ≤ 2 ^ 63 ∨ -22 ≤ d.exponent ∧ d.coefficient < 10 ^ 15 →
        q = d.toRat) ∧
      (∀ x, Json.readNumber? t = some (.floating x) →
        ∃ k : ℤ, |k| ≤ 10 ^ 17 ∧ ∃ j : ℤ, q = k * 10 ^ j) := by
  have again := coerce_toJson_decimal scalar accepted
  obtain ⟨rfl, decimal⟩ := Scalar.of_decimal?_string (Scalar.decimal?_of_coerce scalar accepted)
  obtain ⟨sign, unsigned, coefficient, places, isSign, writes, same⟩ :=
    Scalar.exists_writesDecimal decimal
  obtain ⟨negative, read, number⟩ := Json.of_readNumber? isSign writes
  rw [← same] at read number
  generalize Text.trim s.toList = text at *
  cases json : Json.readNumber? (String.ofList text) with
  | none =>
    rw [json] at again
    have kept : Decimal.value? (String.ofList text).toList =
        some (Decimal.toRat ⟨negative, coefficient, -places⟩) := by
      rw [String.toList_ofList, Decimal.value?, read, Option.map_some]
    refine ⟨_, _, _, read, again, kept, iff_of_true rfl ?_, fun _ => rfl, ?_⟩
    · rintro _ _ _ ⟨⟩
    · rintro _ ⟨⟩
  | some n =>
    rw [json, Option.map_some, Option.getD_some] at again
    have text' : n.text.toList = n.chars := String.toList_ofList
    cases n with
    | integer n =>
      have kept := Json.value?_of_integer writes (number _ json)
      rw [← text'] at kept
      refine ⟨_, _, _, read, again, kept, iff_of_true rfl ?_, fun _ => rfl, ?_⟩
      · rintro _ _ _ ⟨⟩
      · rintro _ ⟨⟩
    | floating x =>
      obtain ⟨minus, m, e, rfl, kept, short, few⟩ := Json.value?_of_floating writes (number _ json)
      rw [← text'] at kept
      refine ⟨_, _, _, read, again, kept, ⟨?_, ?_⟩, ?_, ?_⟩
      · rintro same _ _ _ ⟨⟩
        exact same
      · exact fun written => written _ _ _ rfl
      · exact fun few => short (by dsimp only at few; omega)
      · exact fun _ _ => few

/-- A price with a sign and white space around it, which is a floating number in between. -/
theorem price_again :
    let type := TypeRef.named "java.math.BigDecimal"
    coerce .empty (.string " -12.50 ") (some type) = .decimal "-12.50" ∧
      ∃ text, coerce .empty (Value.decimal "-12.50").toJson (some type) = .decimal text ∧
        Decimal.value? text.toList = some (-25 / 2) := by
  intro type
  have scalar : type.category .empty = .scalar .bigDecimal := rfl
  have accepted : coerce .empty (.string " -12.50 ") (some type) = .decimal "-12.50" := by rfl
  obtain ⟨d, text, q, read, again, value, -, short, -⟩ := decimal_again_iff scalar accepted
  have digits : Decimal.read? (Text.trim " -12.50 ".toList) = some ⟨true, 1250, -2⟩ := by rfl
  cases digits.symm.trans read
  refine ⟨accepted, text, again, ?_⟩
  rw [value, short (.inr (by decide))]
  decide +kernel

/-- Beyond 64 bits only the first digits are kept. -/
theorem long_decimal_rounded :
    let type := TypeRef.named "java.math.BigDecimal"
    coerce .empty (.string "18446744073709551617") (some type) = .decimal "18446744073709551617" ∧
      Decimal.value? "18446744073709551617".toList = some 18446744073709551617 ∧
      coerce .empty (Value.decimal "18446744073709551617").toJson (some type) =
        .decimal "1.8446744073709552e+19" ∧
      Decimal.value? "1.8446744073709552e+19".toList = some 18446744073709552000 ∧
      (18446744073709551617 : ℚ) ≠ 18446744073709552000 := by
  intro type
  have scalar : type.category .empty = .scalar .bigDecimal := rfl
  have accepted : coerce .empty (.string "18446744073709551617") (some type) =
      .decimal "18446744073709551617" := by rfl
  have rounded : ((Json.readNumber? "18446744073709551617").map JsonNumber.text).getD
      "18446744073709551617" = "1.8446744073709552e+19" := by decide +kernel
  refine ⟨accepted, by decide +kernel, ?_, by decide +kernel, by decide⟩
  rw [coerce_toJson_decimal scalar accepted, rounded]

end SqlPreview
