import SqlPreview.Params.Bindings
import SqlPreview.Params.Template
import SqlPreview.Sql.Render

/-!
# Previews

What can be asked about the statements of a project: an example payload for a statement, the names
that a payload binds, and the SQL that comes out.
-/

namespace SqlPreview

/-- Everything that a preview depends on. -/
structure Previewer where
  registry : Registry
  signatures : Signatures
  classes : ClassTable
  options : RenderOptions

namespace Previewer

def empty : Previewer := ⟨.empty, .empty, .empty, {}⟩

def statement (previewer : Previewer) (path : StatementPath) : Except PreviewError Statement :=
  match (previewer.registry.find? path.ns).bind fun mapper => mapper.statements.get? path.id with
  | some statement => .ok statement
  | none => .error (.statementNotFound path)

def shape (previewer : Previewer) (path : StatementPath) (statement : Statement) : Shape :=
  Shape.resolve previewer.classes statement.parameterType
    ((previewer.signatures.find? path.ns path.id).getD [])

/-- An example payload for a statement. -/
def template (previewer : Previewer) (path : StatementPath) : Except PreviewError Json := do
  let statement ← previewer.statement path
  pure ((previewer.shape path statement).template previewer.classes)

/-- The bindings that a payload gives to a statement. -/
def bindings (previewer : Previewer) (path : StatementPath) (statement : Statement)
    (payload : Json) : Dict Value :=
  (previewer.shape path statement).bindings previewer.classes payload

/-- The SQL of a statement for a payload. -/
def sqlFor (previewer : Previewer) (path : StatementPath) (payload : Json) :
    Except PreviewError String := do
  let statement ← previewer.statement path
  let setting : Render.Setting := ⟨previewer.registry, previewer.options, path⟩
  Render.statement setting statement (.ofBase (previewer.bindings path statement payload))

/-- A payload as text. -/
def readPayload (text : String) : Except PreviewError Json :=
  match Json.read text with
  | .ok json => .ok json
  | .error error => .error (.badJson error)

/-- The SQL of a statement for a payload as text, of which a blank one is the empty object. -/
def sql (previewer : Previewer) (path : StatementPath) (payload : String) :
    Except PreviewError String := do
  let json ← if (Text.trim payload.toList).isEmpty then .ok (.object []) else readPayload payload
  previewer.sqlFor path json

/-- The names that a payload as text binds for a statement. -/
def bindingsFor (previewer : Previewer) (path : StatementPath) (payload : String) :
    Except PreviewError (Dict Value) := do
  let statement ← previewer.statement path
  let json ← readPayload payload
  pure (previewer.bindings path statement json)

end Previewer

end SqlPreview
