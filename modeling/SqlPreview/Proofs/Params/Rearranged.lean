import SqlPreview.Params.Bindings
import SqlPreview.Params.Template
import SqlPreview.Proofs.Types.Rearranged

/-!
# Payloads under classes in another order

What a payload is read as, which shape a statement has, its template and its bindings: none of them
depends on the order of the classes in the table.
-/

namespace SqlPreview

namespace ClassTable.Rearranged

variable {table table' : ClassTable}

mutual

theorem coerce_eq (moved : table.Rearranged table') (json : Json) (target : Option TypeRef) :
    coerce table json target = coerce table' json target := by
  cases target with
  | none => simp only [coerce]
  | some type =>
    unfold coerce
    -- Both tables take the same rule now, so that only the parts are left to compare.
    rw [← moved.category_eq, ← moved.find?_eq, ← moved.fields?_eq]
    cases json with
    | null | boolean | number | string => cases type.category table <;> rfl
    | array items =>
      have same := coerceItems_eq moved items type.element?
      cases type.category table <;> simp only [same]
    | object fields =>
      have same := coerceFields_eq moved fields
      cases type.category table <;> simp only [same]

theorem coerceItems_eq (moved : table.Rearranged table') (items : List Json)
    (type : Option TypeRef) :
    coerceItems table items type = coerceItems table' items type := by
  cases items with
  | nil => rfl
  | cons item rest => rw [coerceItems, coerceItems, coerce_eq moved item, coerceItems_eq moved rest]

theorem coerceFields_eq (moved : table.Rearranged table') (fields : List (String × Json))
    (types : FieldTypes) :
    coerceFields table fields types = coerceFields table' fields types := by
  cases fields with
  | nil => rfl
  | cons field rest =>
    obtain ⟨name, json⟩ := field
    rw [coerceFields, coerceFields, coerceFields_eq moved rest]
    cases types name with
    | none => rfl
    | some type => simp only [coerce_eq moved json]

end

variable (moved : table.Rearranged table')

include moved

theorem resolve_eq (parameterType : Option String) (declarations : List Declaration) :
    Shape.resolve table parameterType declarations =
      Shape.resolve table' parameterType declarations := by
  have named (text : String) : Shape.ofType? table text = Shape.ofType? table' text := by
    unfold Shape.ofType?
    simp only [moved.category_eq, moved.find?_eq]
  have unnamed (declaration : Declaration) :
      Shape.ofUnnamed table declaration = Shape.ofUnnamed table' declaration := by
    unfold Shape.ofUnnamed
    rw [moved.category_eq]
  have declared : Shape.ofDeclarations table declarations =
      Shape.ofDeclarations table' declarations := by
    unfold Shape.ofDeclarations
    simp only [unnamed]
  unfold Shape.resolve
  simp only [named, declared]

theorem template_eq (shape : Shape) : shape.template table = shape.template table' := by
  cases shape with
  | map value => rfl
  | multiple declarations => simp only [Shape.template, moved.exampleOf_eq]
  | bean type =>
    simp only [Shape.template, moved.category_eq, moved.exampleOf_eq, moved.beanExample_eq]

theorem bindings_eq (payload : Json) (shape : Shape) :
    shape.bindings table payload = shape.bindings table' payload := by
  cases shape with
  | map value => simp only [Shape.bindings, moved.coerceFields_eq]
  | multiple declarations =>
    have each (lone : Bool) :
        Shape.bindDeclared table payload lone = Shape.bindDeclared table' payload lone := by
      funext bindings declaration
      unfold Shape.bindDeclared
      simp only [moved.coerce_eq]
    simp only [Shape.bindings, each]
  | bean type =>
    have part : Shape.beanPayload table payload type = Shape.beanPayload table' payload type := by
      unfold Shape.beanPayload
      rw [moved.category_eq]
    simp only [Shape.bindings, part, moved.coerce_eq]

end ClassTable.Rearranged

end SqlPreview
