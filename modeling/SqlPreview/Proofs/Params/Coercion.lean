import Mathlib
import SqlPreview.Params.Coercion
import SqlPreview.Proofs.Types.Example

/-!
# Rules of reading JSON at a type

This file defines reading with some other value in place of what does not fit its type
(`coerceElse`), of which `coerce` is one case.

Results:
1. `coerceElse_ofJson`: what does not fit its type is read as if it had none.
2. `coerceElse_scalar`, `coerceElse_items`, `coerceElse_map`, `coerceElse_bean`,
   `coerceElse_unknown`: one rule for each category of types. `coerce_scalar`, `coerce_items`,
   `coerce_map`, `coerce_bean`: the same for `coerce`.
3. `mem_coerceItems`, `mem_coerceFields`: what is in a container was read from what is in the JSON.
4. `reading_coerce`: what JSON is read as is given by one of these rules, or has no type.
-/

namespace SqlPreview

/-! ## Reading that falls back on something else -/

mutual

/-- `coerce`, but what does not fit its declared type is read as `untyped` says. -/
def coerceElse (untyped : Json → Value) (table : ClassTable) (json : Json)
    (target : Option TypeRef) : Value :=
  match target with
  | none => .ofJson json
  | some type =>
    match type.category table, json with
    | _, .null => .null
    | .scalar kind, json => (Scalar.read? json kind (table.find? type.name)).getD (untyped json)
    | .array, .array items => .sequence .array (coerceItemsElse untyped table items type.element?)
    | .list, .array items => .sequence .list (coerceItemsElse untyped table items type.element?)
    | .set, .array items =>
      .sequence .set (Value.distinct (coerceItemsElse untyped table items type.element?))
    | .map, .object fields => .map (coerceFieldsElse untyped table fields (.all type.mapValue?))
    | .composite, .object fields =>
      match table.fields? type.name with
      | some known => .map (coerceFieldsElse untyped table fields (.ofFields known))
      | none => .ofJson (.object fields)
    | _, json => untyped json

def coerceItemsElse (untyped : Json → Value) (table : ClassTable) (items : List Json)
    (type : Option TypeRef) : List Value :=
  match items with
  | [] => []
  | item :: rest => coerceElse untyped table item type :: coerceItemsElse untyped table rest type

def coerceFieldsElse (untyped : Json → Value) (table : ClassTable)
    (fields : List (String × Json)) (types : FieldTypes) : List (String × Value) :=
  match fields with
  | [] => []
  | (name, json) :: rest =>
    match types name with
    | some type =>
      (name, coerceElse untyped table json type) :: coerceFieldsElse untyped table rest types
    | none => coerceFieldsElse untyped table rest types

end

mutual

/-- What does not fit is read as if it had no type. -/
theorem coerceElse_ofJson (table : ClassTable) (json : Json) (target : Option TypeRef) :
    coerceElse .ofJson table json target = coerce table json target := by
  cases target with
  | none => simp only [coerceElse, coerce]
  | some type =>
    unfold coerceElse coerce
    cases json with
    | null | boolean | number | string => cases type.category table <;> rfl
    | array items =>
      have same := coerceItemsElse_ofJson table items type.element?
      cases type.category table <;> simp only [same]
    | object fields =>
      have same := coerceFieldsElse_ofJson table fields
      cases type.category table with
      | composite => cases table.fields? type.name <;> simp only [same]
      | _ => simp only [same]

theorem coerceItemsElse_ofJson (table : ClassTable) (items : List Json) (type : Option TypeRef) :
    coerceItemsElse .ofJson table items type = coerceItems table items type := by
  cases items with
  | nil => rfl
  | cons item rest =>
    rw [coerceItemsElse, coerceItems, coerceElse_ofJson table item,
      coerceItemsElse_ofJson table rest]

theorem coerceFieldsElse_ofJson (table : ClassTable) (fields : List (String × Json))
    (types : FieldTypes) :
    coerceFieldsElse .ofJson table fields types = coerceFields table fields types := by
  cases fields with
  | nil => rfl
  | cons field rest =>
    obtain ⟨name, json⟩ := field
    rw [coerceFieldsElse, coerceFields, coerceFieldsElse_ofJson table rest]
    cases types name with
    | none => rfl
    | some type => simp only [coerceElse_ofJson table json]

end

/-! ## Rules of reading -/

section

variable {table : ClassTable} {type : TypeRef} {untyped : Json → Value} {kind : Sequence}

/-- The items of a sequence, of which a set keeps one of those that are the same. -/
def Sequence.arrange : Sequence → List Value → List Value
  | .set, items => Value.distinct items
  | _, items => items

theorem coerceElse_scalar {kind : ScalarKind} (scalar : type.category table = .scalar kind)
    {json : Json} (present : json ≠ .null) :
    coerceElse untyped table json (some type) =
      (Scalar.read? json kind (table.find? type.name)).getD (untyped json) := by
  unfold coerceElse
  rw [scalar]
  cases json with
  | null => exact absurd rfl present
  | boolean | number | string | array | object => rfl

theorem coerceElse_items (sequence : (type.category table).sequence? = some kind)
    (items : List Json) :
    coerceElse untyped table (.array items) (some type) =
      .sequence kind (kind.arrange (coerceItemsElse untyped table items type.element?)) := by
  unfold coerceElse
  cases category : type.category table with
  | array | list | set =>
    rw [category] at sequence
    cases sequence
    rfl
  | scalar | map | composite =>
    rw [category] at sequence
    cases sequence

theorem coerceElse_map (map : type.category table = .map) (fields : List (String × Json)) :
    coerceElse untyped table (.object fields) (some type) =
      .map (coerceFieldsElse untyped table fields (.all type.mapValue?)) := by
  unfold coerceElse
  rw [map]

theorem coerceElse_bean (composite : type.category table = .composite) {known : List Field}
    (resolved : table.fields? type.name = some known) (fields : List (String × Json)) :
    coerceElse untyped table (.object fields) (some type) =
      .map (coerceFieldsElse untyped table fields (.ofFields known)) := by
  unfold coerceElse
  rw [composite]
  simp only [resolved]

theorem coerceElse_unknown (composite : type.category table = .composite)
    (unresolved : table.fields? type.name = none) (fields : List (String × Json)) :
    coerceElse untyped table (.object fields) (some type) = .map (Value.ofJsonFields fields) := by
  unfold coerceElse
  rw [composite]
  simp only [unresolved, Value.ofJson]

theorem coerce_scalar {kind : ScalarKind} (scalar : type.category table = .scalar kind) {json : Json}
    (present : json ≠ .null) :
    coerce table json (some type) =
      (Scalar.read? json kind (table.find? type.name)).getD (.ofJson json) := by
  rw [← coerceElse_ofJson, coerceElse_scalar scalar present]

theorem coerce_items (sequence : (type.category table).sequence? = some kind) (items : List Json) :
    coerce table (.array items) (some type) =
      .sequence kind (kind.arrange (coerceItems table items type.element?)) := by
  rw [← coerceElse_ofJson, coerceElse_items sequence, coerceItemsElse_ofJson]

theorem coerce_map (map : type.category table = .map) (fields : List (String × Json)) :
    coerce table (.object fields) (some type) =
      .map (coerceFields table fields (.all type.mapValue?)) := by
  rw [← coerceElse_ofJson, coerceElse_map map, coerceFieldsElse_ofJson]

theorem coerce_bean (composite : type.category table = .composite) {known : List Field}
    (resolved : table.fields? type.name = some known) (fields : List (String × Json)) :
    coerce table (.object fields) (some type) =
      .map (coerceFields table fields (.ofFields known)) := by
  rw [← coerceElse_ofJson, coerceElse_bean composite resolved, coerceFieldsElse_ofJson]

theorem mem_coerceItems {items : List Json} {target : Option TypeRef} {value : Value}
    (member : value ∈ coerceItems table items target) :
    ∃ item ∈ items, value = coerce table item target := by
  induction items with
  | nil => cases member
  | cons item rest ih =>
    rw [coerceItems] at member
    rcases List.mem_cons.1 member with here | there
    · exact ⟨item, List.mem_cons_self, here⟩
    · obtain ⟨other, inside, read⟩ := ih there
      exact ⟨other, List.mem_cons_of_mem item inside, read⟩

theorem mem_coerceFields {fields : List (String × Json)} {types : FieldTypes}
    {field : String × Value} (member : field ∈ coerceFields table fields types) :
    ∃ json target, (field.1, json) ∈ fields ∧ types field.1 = some target ∧
      field.2 = coerce table json target := by
  induction fields with
  | nil => cases member
  | cons first rest ih =>
    obtain ⟨name, json⟩ := first
    have later (there : field ∈ coerceFields table rest types) :
        ∃ json' target, (field.1, json') ∈ (name, json) :: rest ∧ types field.1 = some target ∧
          field.2 = coerce table json' target := by
      obtain ⟨json', target, inside, found⟩ := ih there
      exact ⟨json', target, List.mem_cons_of_mem _ inside, found⟩
    rw [coerceFields] at member
    split at member
    · next target kept =>
      rcases List.mem_cons.1 member with rfl | there
      · exact ⟨json, target, List.mem_cons_self, kept, rfl⟩
      · exact later there
    · exact later member

/-- What JSON may be read as at a type. Where it does not fit the type, the type has no say. -/
inductive Reading (table : ClassTable) (type : TypeRef) : Json → Value → Prop
  | scalar {kind : ScalarKind} {json : Json} {value : Value} :
      type.category table = .scalar kind → json ≠ .null →
      Scalar.read? json kind (table.find? type.name) = some value → Reading table type json value
  | items {kind : Sequence} (items : List Json) :
      (type.category table).sequence? = some kind →
      Reading table type (.array items)
        (.sequence kind (kind.arrange (coerceItems table items type.element?)))
  | map (fields : List (String × Json)) :
      type.category table = .map →
      Reading table type (.object fields) (.map (coerceFields table fields (.all type.mapValue?)))
  | bean {known : List Field} (fields : List (String × Json)) :
      type.category table = .composite → table.fields? type.name = some known →
      Reading table type (.object fields) (.map (coerceFields table fields (.ofFields known)))
  | untyped {json : Json} :
      coerce table json (some type) = .ofJson json → Reading table type json (.ofJson json)

theorem reading_coerce (table : ClassTable) (type : TypeRef) (json : Json) :
    Reading table type json (coerce table json (some type)) := by
  have unfit (fallback : coerce table json (some type) = .ofJson json) :
      Reading table type json (coerce table json (some type)) :=
    fallback ▸ .untyped fallback
  by_cases absent : json = .null
  · refine unfit ?_
    rw [absent]
    unfold coerce
    cases type.category table <;> rfl
  · cases category : type.category table with
    | scalar kind =>
      have rule := coerce_scalar category absent
      cases read : Scalar.read? json kind (table.find? type.name) with
      | none => exact unfit (by rw [rule, read, Option.getD_none])
      | some value =>
        rw [rule, read, Option.getD_some]
        exact .scalar category absent read
    | array | list | set =>
      have sequence : ∃ kind, (type.category table).sequence? = some kind := by
        rw [category]
        exact ⟨_, rfl⟩
      obtain ⟨kind, sequence⟩ := sequence
      cases json with
      | null => exact absurd rfl absent
      | array items =>
        rw [coerce_items sequence]
        exact .items items sequence
      | _ => exact unfit (by unfold coerce; rw [category])
    | map =>
      cases json with
      | null => exact absurd rfl absent
      | object fields =>
        rw [coerce_map category]
        exact .map fields category
      | _ => exact unfit (by unfold coerce; rw [category])
    | composite =>
      cases json with
      | null => exact absurd rfl absent
      | object fields =>
        cases resolved : table.fields? type.name with
        | none =>
          refine unfit ?_
          rw [← coerceElse_ofJson, coerceElse_unknown category resolved, Value.ofJson]
        | some known =>
          rw [coerce_bean category resolved]
          exact .bean fields category resolved
      | _ => exact unfit (by unfold coerce; rw [category])

end

end SqlPreview
