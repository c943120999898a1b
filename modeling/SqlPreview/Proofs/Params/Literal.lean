import SqlPreview.Proofs.Json.Finite
import SqlPreview.Proofs.Number.Written
import SqlPreview.Proofs.Params.Inhabitants

/-!
# Numbers that parameters bring into SQL

Numbers stand in SQL without quotes. What JSON is read as at a type, in whatever form the number
was written, stands there as a numeric literal, unless it is an infinity or not a number.

Results:
1. `Scalar.numericLiteral_of_isDecimalText`: decimal numbers are kept as literals.
2. `coerced_literal`: a number that JSON is read as is a numeric literal if and only if it is
   finite.
3. `coerced_name_bare`: a string that is read as no number at all stands without quotes.
-/

namespace SqlPreview

open Number (NumericLiteral)

/-! ## Decimal text -/

/-- A decimal text is a sign before digits with at most one point. -/
theorem Scalar.exists_writesDecimal {text : List Char} (decimal : isDecimalText text = true) :
    ∃ sign unsigned coefficient places, Number.IsSign sign ∧
      Number.WritesDecimal unsigned coefficient places ∧ text = sign ++ unsigned := by
  obtain ⟨sign, isSign, same⟩ := Number.Decimal.exists_sign text
  unfold isDecimalText at decimal
  dsimp only at decimal
  generalize (Number.Decimal.splitSign text).2 = unsigned at decimal same
  cases point : Text.splitFirst? (· == '.') unsigned with
  | none =>
    simp only [point, Option.getD_none, Bool.and_eq_true, Bool.not_eq_true', List.all_eq_true,
      List.isEmpty_nil, Bool.and_true, List.isEmpty_eq_false_iff] at decimal
    obtain ⟨⟨present, each⟩, -⟩ := decimal
    exact ⟨sign, _, _, _, isSign, .digits ⟨present, each⟩, same⟩
  | some parts =>
    obtain ⟨whole, fraction⟩ := parts
    obtain ⟨c, isPoint, -, rfl⟩ := Text.splitFirst?_eq_some.1 point
    cases beq_iff_eq.1 isPoint
    simp only [point, Option.getD_some, Bool.and_eq_true, Bool.not_eq_true', List.all_eq_true,
      Bool.and_eq_false_iff, List.isEmpty_eq_false_iff] at decimal
    obtain ⟨⟨present, before⟩, behind⟩ := decimal
    exact ⟨sign, _, _, _, isSign, .point before behind present, same⟩

theorem Scalar.numericLiteral_of_isDecimalText {text : List Char}
    (decimal : isDecimalText text = true) : NumericLiteral text := by
  obtain ⟨sign, unsigned, _, _, isSign, writes, rfl⟩ := exists_writesDecimal decimal
  exact .mk isSign writes.unsigned

/-! ## Numbers as text -/

namespace Value

/-- An infinity, or not a number. -/
def IsUnbounded : Value → Prop
  | .float x | .double x => x.isFinite = false
  | _ => False

/-- What holds of the numbers that JSON is read as. -/
def IsPlain : Value → Prop
  | .decimal text => NumericLiteral text.toList
  | .number n => n.IsFinite
  | .float x => (x.convert .double).isFinite = x.isFinite
  | _ => True

theorem numericLiteral_chars {v : Value} (plain : v.IsPlain) (numeric : v.isNumeric = true)
    (finite : ¬v.IsUnbounded) : NumericLiteral v.chars := by
  have floating (layout : Number.Layout) {x : Number.Floating} (finite : x.isFinite = true) :
      NumericLiteral (layout.text x) := by
    cases x with
    | finite negative m e => exact Number.numericLiteral_text layout negative m e
    | infinite | nan => cases finite
  cases v with
  | byte n | short n | int n | long n | bigInteger n =>
    rw [chars]
    exact Number.numericLiteral_intText _
  | decimal text => exact plain
  | number n =>
    cases n with
    | integer n => exact Number.numericLiteral_intText n
    | floating x => exact floating .json plain
  | float x =>
    rw [chars]
    exact floating .plain (plain.trans (Bool.eq_true_of_not_eq_false finite))
  | double x =>
    rw [chars]
    exact floating .plain (Bool.eq_true_of_not_eq_false finite)
  | _ => cases numeric

theorem chars_of_isUnbounded {v : Value} (unbounded : v.IsUnbounded) :
    v.chars ∈ [['N', 'a', 'N'], ['i', 'n', 'f'], ['-', 'i', 'n', 'f']] := by
  have names {x : Number.Floating} (unbounded : x.isFinite = false) :
      Number.Layout.plain.text x ∈ [['N', 'a', 'N'], ['i', 'n', 'f'], ['-', 'i', 'n', 'f']] := by
    cases x with
    | finite => cases unbounded
    | infinite negative => cases negative <;> decide
    | nan => decide
  cases v with
  | float x =>
    rw [chars]
    cases x with
    | finite => cases unbounded
    | infinite | nan => exact names rfl
  | double x =>
    rw [chars]
    exact names unbounded
  | _ => cases unbounded

end Value

/-! ## What JSON is read as -/

theorem JsonNumber.numericLiteral_chars {n : JsonNumber} (finite : n.IsFinite) :
    NumericLiteral n.chars :=
  Value.numericLiteral_chars (v := .number n) finite rfl id

theorem isPlain_ofJson {json : Json} (finite : json.EachNumber JsonNumber.IsFinite) :
    (Value.ofJson json).IsPlain := by
  cases finite with
  | number finite => exact finite
  | _ => trivial

theorem Scalar.numericLiteral_of_decimal? {json : Json}
    (finite : json.EachNumber JsonNumber.IsFinite) {text : String}
    (read : decimal? json = some text) : NumericLiteral text.toList := by
  cases finite with
  | number finite =>
    cases read
    rw [JsonNumber.text, String.toList_ofList]
    exact JsonNumber.numericLiteral_chars finite
  | string s =>
    rw [decimal?] at read
    split at read
    · next decimal =>
      cases read
      rw [String.toList_ofList]
      exact numericLiteral_of_isDecimalText decimal
    · cases read
  | _ => cases read

theorem Scalar.isPlain_of_read? {json : Json} (finite : json.EachNumber JsonNumber.IsFinite)
    {kind : ScalarKind} {info : Option ClassInfo} {v : Value} (read : read? json kind info = some v) :
    v.IsPlain := by
  cases kind with
  | bigDecimal =>
    obtain ⟨text, found, rfl⟩ := Option.map_eq_some_iff.1 read
    exact numericLiteral_of_decimal? finite found
  | float =>
    obtain ⟨x, -, rfl⟩ := Option.map_eq_some_iff.1 read
    exact x.isFinite_convert_single
  | object =>
    cases read
    exact isPlain_ofJson finite
  | _ =>
    cases ofKind_of_read? read
    trivial

theorem isPlain_coerce {json : Json} (finite : json.EachNumber JsonNumber.IsFinite)
    (table : ClassTable) (target : Option TypeRef) : (coerce table json target).IsPlain := by
  cases target with
  | none =>
    unfold coerce
    exact isPlain_ofJson finite
  | some type =>
    have reading := reading_coerce table type json
    generalize coerce table json (some type) = v at reading
    cases reading with
    | scalar _ _ read => exact Scalar.isPlain_of_read? finite read
    | untyped => exact isPlain_ofJson finite
    | _ => trivial

/-- A number that the JSON of a text is read as is written into SQL as a numeric literal, unless it
is an infinity or not a number. These are written as bare names. -/
theorem coerced_literal {text : String} {json : Json} (read : Json.read text = .ok json)
    (table : ClassTable) (target : Option TypeRef)
    (numeric : (coerce table json target).isNumeric = true) :
    (NumericLiteral (coerce table json target).sqlChars ↔
      ¬(coerce table json target).IsUnbounded) ∧
    ((coerce table json target).IsUnbounded →
      (coerce table json target).sqlLiteral ∈ ["NaN", "inf", "-inf"]) := by
  have plain := isPlain_coerce (Json.finite_of_read read) table target
  generalize coerce table json target = v at numeric plain
  have bare : v.sqlChars = v.chars := by
    cases v <;> first | rfl | cases numeric
  rw [Value.sqlLiteral, bare]
  constructor
  · constructor
    · intro literal unbounded
      have named : ∀ name ∈ [['N', 'a', 'N'], ['i', 'n', 'f'], ['-', 'i', 'n', 'f']],
          (Number.Decimal.read? name).isSome = false := by decide
      have none := named _ (Value.chars_of_isUnbounded unbounded)
      rw [Number.numericLiteral_iff.1 literal] at none
      cases none
    · exact Value.numericLiteral_chars plain numeric
  · intro unbounded
    exact List.mem_map_of_mem (f := String.ofList) (Value.chars_of_isUnbounded unbounded)

/-- An amount that is written with an exponent, for a decimal number. -/
theorem amount_literal :
    let json : Json := .number (.floating (.ofQuotient .double false 3 2))
    let amount := coerce .empty json (some (.named "java.math.BigDecimal"))
    Json.read "150e-2" = .ok json ∧ amount.isNumeric = true ∧
      (NumericLiteral amount.sqlChars ↔ ¬amount.IsUnbounded) ∧
      (amount.IsUnbounded → amount.sqlLiteral ∈ ["NaN", "inf", "-inf"]) := by
  intro json amount
  have read : Json.read "150e-2" = .ok json := by rfl
  have numeric : amount.isNumeric = true := by decide +kernel
  exact ⟨read, numeric, coerced_literal read .empty (some (.named "java.math.BigDecimal")) numeric⟩

/-- A string that is not a number, where one is declared. -/
theorem coerced_name_bare :
    let name := coerce .empty (.string "NaN") (some (.named "double"))
    name.isNumeric = true ∧ name.sqlLiteral = "NaN" ∧ ¬NumericLiteral name.sqlChars := by
  intro name
  have numeric : name.isNumeric = true := by decide +kernel
  have written : name.sqlLiteral = "NaN" := by decide +kernel
  have unread : (Number.Decimal.read? name.sqlChars).isSome = false := by decide +kernel
  refine ⟨numeric, written, fun literal => ?_⟩
  rw [Number.numericLiteral_iff.1 literal] at unread
  cases unread

end SqlPreview
