import SqlPreview.Params.Shape
import SqlPreview.Types.Example

/-!
# Parameter templates

An example payload for a shape: one example under every name that the statement can see.
-/

namespace SqlPreview

/-- The example payload of a shape. A bean that is no composite is wrapped under the name of a
whole parameter. -/
def Shape.template (table : ClassTable) : Shape → Json
  | .map _ => .object []
  | .multiple declarations =>
    .object (Dict.ofPairs (declarations.map fun d => (d.key, table.exampleOf d.type)))
  | .bean type =>
    match type.category table with
    | .composite => .object (table.beanExample type)
    | _ => .object [(Shape.wholeName, table.exampleOf type)]

end SqlPreview
