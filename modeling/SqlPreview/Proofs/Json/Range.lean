import SqlPreview.Proofs.Json.Numbers

/-!
# The range of JSON numbers

An integer of JSON fits 64 bits, signed or unsigned (`Json.InRange`).

Result: `Json.inRange_of_read`, the JSON that a text gives is in range.
-/

namespace SqlPreview

def JsonNumber.InRange : JsonNumber → Prop
  | .integer n => -0x8000000000000000 ≤ n ∧ n < 0x10000000000000000
  | .floating _ => True

namespace Json

inductive InRange : Json → Prop
  | null : InRange .null
  | boolean (b : Bool) : InRange (.boolean b)
  | number {n : JsonNumber} : n.InRange → InRange (.number n)
  | string (s : String) : InRange (.string s)
  | array {items : List Json} : (∀ item ∈ items, InRange item) → InRange (.array items)
  | object {fields : List (String × Json)} :
      (∀ field ∈ fields, InRange field.2) → InRange (.object fields)

theorem ofInteger_inRange {n : Nat} (small : n < 0x10000000000000000) (negative : Bool) :
    (JsonNumber.ofInteger negative n).InRange := by
  rw [JsonNumber.ofInteger]
  split
  · exact ⟨by omega, by omega⟩
  · split
    · trivial
    · next fits =>
      simp only [Bool.or_eq_true, decide_eq_true_eq, not_or, Nat.not_lt] at fits
      exact ⟨by omega, by omega⟩

theorem inRange_madeOfParts : MadeOfParts JsonNumber.InRange where
  integer negative _ small := ofInteger_inRange small negative
  floating _ _ _ _ _ _ := trivial

theorem inRange_of_eachNumber {json : Json} (each : json.EachNumber JsonNumber.InRange) :
    json.InRange := by
  induction each with
  | null => exact .null
  | boolean b => exact .boolean b
  | number inRange => exact .number inRange
  | string s => exact .string s
  | array _ ih => exact .array ih
  | object _ ih => exact .object ih

/-- The JSON that a text gives is in range. -/
theorem inRange_of_read {text : String} {json : Json} (found : read text = .ok json) :
    json.InRange :=
  inRange_of_eachNumber (eachNumber_of_read inRange_madeOfParts found)

end Json

end SqlPreview
