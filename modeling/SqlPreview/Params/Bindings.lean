import SqlPreview.Params.Coercion
import SqlPreview.Params.Shape

/-!
# Bindings from a payload

The names that a payload binds under a shape. A parameter is also bound under its positional name,
and a lone value under further names, unless those names are taken.
-/

namespace SqlPreview

namespace Shape

/-- The name of the value of a lone scalar. -/
def valueName : String := "value"

/-- The name of a lone sequence of any kind. -/
def collectionName : String := "collection"

/-- The names that a lone sequence may be declared under. -/
def sequenceNames : List String := ["list", "collection", "array"]

/-- The part of a payload that gives a declared parameter its value: the member of its name, or
the whole payload for a lone parameter when the payload is no object. -/
def supplied? (payload : Json) (lone : Bool) (declaration : Declaration) : Option Json :=
  match payload with
  | .object fields => Dict.get? fields declaration.key
  | json => if lone then some json else none

/-- Binds each declared parameter that the payload supplies. -/
def bindDeclared (table : ClassTable) (payload : Json) (lone : Bool) (bindings : Dict Value)
    (declaration : Declaration) : Dict Value :=
  match supplied? payload lone declaration with
  | some json => bindings.put declaration.key (coerce table json (some declaration.type))
  | none => bindings

/-- Binds the further names of one declared parameter. -/
def bindAliases (lone : Bool) (bindings : Dict Value) (declaration : Declaration) : Dict Value :=
  let key := declaration.key
  match bindings.get? key with
  | none => bindings
  | some value =>
    let bindings := bindings.putIfAbsent (positionalName declaration.position) value
    if key == wholeName then bindings.putIfAbsent valueName value
    else if lone && sequenceNames.contains key then
      (bindings.putIfAbsent collectionName value).putIfAbsent wholeName value
    else bindings

/-- The part of a payload that a bean is read from. A scalar arrives wrapped as its template shows
it. -/
def beanPayload (table : ClassTable) (payload : Json) (type : TypeRef) : Json :=
  match type.category table, payload with
  | .composite, _ => payload
  | _, .object fields => (Dict.get? fields wholeName).getD payload
  | _, _ => payload

/-- The bindings that a payload gives under a shape. -/
def bindings (table : ClassTable) (payload : Json) : Shape → Dict Value
  | .map type =>
    match payload with
    | .object fields =>
      let bound := coerceFields table fields (.all type)
      Dict.putIfAbsent bound wholeName (.map bound)
    | _ => []
  | .multiple declarations =>
    let lone := declarations.length == 1
    let bound := declarations.foldl (bindDeclared table payload lone) []
    declarations.foldl (bindAliases lone) bound
  | .bean type =>
    match coerce table (beanPayload table payload type) (some type) with
    | .map fields => Dict.putIfAbsent fields wholeName (.map fields)
    | .null => []
    | scalar => Dict.put [(wholeName, scalar)] valueName scalar

end Shape

end SqlPreview
