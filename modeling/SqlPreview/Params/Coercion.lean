import SqlPreview.Params.Scalar
import SqlPreview.Types.Fields
import SqlPreview.Value.Equality

/-!
# Values from JSON

Reading JSON against a declared type. A value that does not fit its type is read as if it had none;
the fields of a composite that its class does not know are dropped.
-/

namespace SqlPreview

/-- What a name inside a JSON object is read as: dropped, or read with a type if there is one. -/
abbrev FieldTypes := String → Option (Option TypeRef)

/-- Every name is kept and read with the same type. -/
def FieldTypes.all (type : Option TypeRef) : FieldTypes := fun _ => some type

/-- The names of fields are kept and read with the types of the fields. -/
def FieldTypes.ofFields (fields : List Field) : FieldTypes := fun name =>
  (fields.find? fun field => field.name == name).map fun field => some field.type

mutual

/-- The value that JSON gives when a type is declared for it, or none is. -/
def coerce (table : ClassTable) (json : Json) (target : Option TypeRef) : Value :=
  match target with
  | none => .ofJson json
  | some type =>
    match type.category table, json with
    | _, .null => .null
    | .scalar kind, json => (Scalar.read? json kind (table.find? type.name)).getD (.ofJson json)
    | .array, .array items => .sequence .array (coerceItems table items type.element?)
    | .list, .array items => .sequence .list (coerceItems table items type.element?)
    | .set, .array items => .sequence .set (Value.distinct (coerceItems table items type.element?))
    | .map, .object fields => .map (coerceFields table fields (.all type.mapValue?))
    | .composite, .object fields =>
      match table.fields? type.name with
      | some known => .map (coerceFields table fields (.ofFields known))
      | none => .ofJson (.object fields)
    | _, json => .ofJson json

def coerceItems (table : ClassTable) (items : List Json) (type : Option TypeRef) : List Value :=
  match items with
  | [] => []
  | item :: rest => coerce table item type :: coerceItems table rest type

def coerceFields (table : ClassTable) (fields : List (String × Json)) (types : FieldTypes) :
    List (String × Value) :=
  match fields with
  | [] => []
  | (name, json) :: rest =>
    match types name with
    | some type => (name, coerce table json type) :: coerceFields table rest types
    | none => coerceFields table rest types

end

end SqlPreview
