import SqlPreview.Proofs.Params.Literal
import SqlPreview.Proofs.Value.Json

/-!
# Decimal numbers inside values

A decimal number is kept as it was written, so what holds of it depends on every place where one is
written. This file defines values in which every decimal number has a property
(`Value.EachDecimal`), at any depth.

Result: `eachDecimal_coerce`, the decimal numbers that JSON is read as are numeric literals.
-/

namespace SqlPreview

variable {P : List Char → Prop}

namespace Value

/-- Values without parts that are no decimal numbers. -/
def isSimple : Value → Bool
  | .decimal _ | .sequence _ _ | .map _ => false
  | _ => true

/-- The text of every decimal number in a value has a property. -/
inductive EachDecimal (P : List Char → Prop) : Value → Prop
  | decimal {text : String} : P text.toList → EachDecimal P (.decimal text)
  | sequence (kind : Sequence) {items : List Value} :
      (∀ item ∈ items, EachDecimal P item) → EachDecimal P (.sequence kind items)
  | map {fields : List (String × Value)} :
      (∀ field ∈ fields, EachDecimal P field.2) → EachDecimal P (.map fields)
  | simple {v : Value} : v.isSimple = true → EachDecimal P v

theorem EachDecimal.mono {Q : List Char → Prop} (weaker : ∀ text, P text → Q text) {v : Value}
    (each : EachDecimal P v) : EachDecimal Q v := by
  induction each with
  | decimal holds => exact .decimal (weaker _ holds)
  | sequence kind _ ih => exact .sequence kind ih
  | map _ ih => exact .map ih
  | simple simple => exact .simple simple

end Value

open Value (EachDecimal)

/-! ## What JSON is read as -/

mutual

theorem eachDecimal_ofJson (json : Json) : EachDecimal P (.ofJson json) := by
  cases json with
  | array items =>
    rw [Value.ofJson]
    exact .sequence .list (eachDecimal_ofJsonItems items)
  | object fields =>
    rw [Value.ofJson]
    exact .map (eachDecimal_ofJsonFields fields)
  | _ =>
    rw [Value.ofJson]
    exact .simple rfl

theorem eachDecimal_ofJsonItems (items : List Json) :
    ∀ item ∈ Value.ofJsonItems items, EachDecimal P item := by
  cases items with
  | nil => exact List.forall_mem_nil _
  | cons item rest =>
    exact List.forall_mem_cons.2 ⟨eachDecimal_ofJson item, eachDecimal_ofJsonItems rest⟩

theorem eachDecimal_ofJsonFields (fields : List (String × Json)) :
    ∀ field ∈ Value.ofJsonFields fields, EachDecimal P field.2 := by
  cases fields with
  | nil => exact List.forall_mem_nil _
  | cons field rest =>
    exact List.forall_mem_cons.2 ⟨eachDecimal_ofJson field.2, eachDecimal_ofJsonFields rest⟩

end

theorem eachDecimal_of_read? {json : Json} (finite : json.EachNumber JsonNumber.IsFinite)
    {kind : ScalarKind} {info : Option ClassInfo} {v : Value}
    (read : Scalar.read? json kind info = some v) : EachDecimal Number.NumericLiteral v := by
  cases kind with
  | bigDecimal =>
    obtain ⟨text, found, rfl⟩ := Option.map_eq_some_iff.1 read
    exact .decimal (Scalar.numericLiteral_of_decimal? finite found)
  | object =>
    cases read
    exact eachDecimal_ofJson json
  | _ =>
    cases Scalar.ofKind_of_read? read
    exact .simple rfl

/-- Reading adds no decimal numbers to those that the parts of JSON are read as. -/
theorem eachDecimal_of_parts (table : ClassTable) {json : Json}
    (finite : json.EachNumber JsonNumber.IsFinite)
    (items : ∀ items, json = .array items → ∀ item ∈ items, ∀ target,
      EachDecimal Number.NumericLiteral (coerce table item target))
    (fields : ∀ fields, json = .object fields → ∀ field ∈ fields, ∀ target,
      EachDecimal Number.NumericLiteral (coerce table field.2 target))
    (target : Option TypeRef) : EachDecimal Number.NumericLiteral (coerce table json target) := by
  have entries {written : List (String × Json)} (types : FieldTypes) (same : json = .object written) :
      EachDecimal Number.NumericLiteral (.map (coerceFields table written types)) := by
    refine .map fun field member => ?_
    obtain ⟨part, target, inside, -, read⟩ := mem_coerceFields member
    exact read ▸ fields written same _ inside target
  cases target with
  | none =>
    unfold coerce
    exact eachDecimal_ofJson json
  | some type =>
    have reading := reading_coerce table type json
    generalize coerce table json (some type) = v at reading
    cases reading with
    | scalar _ _ read => exact eachDecimal_of_read? finite read
    | untyped => exact eachDecimal_ofJson json
    | map written _ => exact entries _ rfl
    | bean written _ _ => exact entries _ rfl
    | @items kind written _ =>
      have each : ∀ value ∈ coerceItems table written type.element?,
          EachDecimal Number.NumericLiteral value := by
        intro value member
        obtain ⟨item, inside, rfl⟩ := mem_coerceItems member
        exact items written rfl item inside _
      cases kind with
      | list | array => exact .sequence _ each
      | set => exact .sequence _ fun value member => each value (Value.mem_of_mem_distinct member)

/-- The decimal numbers that JSON is read as are numeric literals. -/
theorem eachDecimal_coerce (table : ClassTable) {json : Json}
    (finite : json.EachNumber JsonNumber.IsFinite) (target : Option TypeRef) :
    EachDecimal Number.NumericLiteral (coerce table json target) := by
  induction finite generalizing target with
  | null => exact eachDecimal_of_parts table .null nofun nofun target
  | boolean b => exact eachDecimal_of_parts table (.boolean b) nofun nofun target
  | number finite => exact eachDecimal_of_parts table (.number finite) nofun nofun target
  | string s => exact eachDecimal_of_parts table (.string s) nofun nofun target
  | array finite ih =>
    refine eachDecimal_of_parts table (.array finite) ?_ nofun target
    rintro items ⟨⟩
    exact ih
  | object finite ih =>
    refine eachDecimal_of_parts table (.object finite) nofun ?_ target
    rintro fields ⟨⟩
    exact ih

end SqlPreview
