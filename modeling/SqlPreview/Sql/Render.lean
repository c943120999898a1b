import SqlPreview.Context
import SqlPreview.Expr.Eval
import SqlPreview.Mapper.Basic
import SqlPreview.Preview.Error
import SqlPreview.Sql.Layout
import SqlPreview.Sql.Placeholder
import SqlPreview.Sql.Trim

/-!
# Rendering statements

A statement's tags are followed against a context: tests choose, loops repeat, fragments are
included, placeholders get the literal or the text of a value. Every tag nests one level deeper,
inclusion counted, and the levels left bound the recursion, so that fragments may include one
another in any way.
-/

namespace SqlPreview

/-- The limits of a rendering, and whether a missing fragment is an error. -/
structure RenderOptions where
  maxDepth : Nat := 64
  maxIterations : Nat := 10000
  strictIncludes : Bool := false
deriving DecidableEq, Repr

namespace Render

/-- What stays the same while a statement is rendered. -/
structure Setting where
  registry : Registry
  options : RenderOptions
  path : StatementPath

/-- What the nodes of one place see: the context, the properties of the inclusions around them, and
the namespace in which a bare fragment name is looked up. -/
structure Scope where
  context : Context
  properties : Dict String
  ns : String

abbrev Rendered := Except PreviewError (List Char)

/-! ## Expressions and placeholders -/

/-- The value of an expression in a tag. -/
def value (setting : Setting) (scope : Scope) (tag expression : String) :
    Except PreviewError Value :=
  match evaluate scope.context.get? expression with
  | .ok value => .ok value
  | .error cause => .error (.evaluation setting.path tag expression cause)

/-- A test holds when its expression has a value that counts as true. -/
def testHolds (scope : Scope) (element : Element) : Bool :=
  match element.attribute? "test" with
  | none => false
  | some test =>
    match evaluate scope.context.get? test with
    | .ok value => value.truthy
    | .error _ => false

/-- What is spliced for an expression: a property of that name, or else the text of its value,
which is empty for nothing. -/
def rawText (setting : Setting) (scope : Scope) (tag expression : String) : Rendered :=
  match scope.properties.get? expression with
  | some property => .ok property.toList
  | none => do
    let value ← value setting scope tag expression
    match value with
    | .null => pure []
    | value => pure value.chars

/-- What a placeholder in the text of a statement becomes. -/
def inText (setting : Setting) (scope : Scope) (tag : String) (p : Placeholder) : Rendered :=
  let expression := String.ofList p.expression
  match p.marker with
  | .bind => do
    let value ← value setting scope tag expression
    pure value.sqlChars
  | .raw => rawText setting scope tag expression

/-- What a placeholder in an attribute becomes. A bound one stays, without its options. -/
def inAttribute (setting : Setting) (scope : Scope) (tag : String) (p : Placeholder) : Rendered :=
  match p.marker with
  | .bind => .ok (Placeholder.chars ⟨.bind, p.expression⟩)
  | .raw => rawText setting scope tag (String.ofList p.expression)

/-- The text of an attribute with its placeholders resolved. -/
def attributeText (setting : Setting) (scope : Scope) (tag text : String) :
    Except PreviewError String := do
  let chars ← substitute (inAttribute setting scope tag) text.toList
  pure (String.ofList chars)

/-! ## Scopes -/

/-- The scope after a binding tag; the same one if the tag is incomplete. -/
def afterBind (setting : Setting) (scope : Scope) (element : Element) :
    Except PreviewError Scope :=
  match element.attribute? "name", element.attribute? "value" with
  | some name, some expression => do
    let value ← value setting scope element.name expression
    pure { scope with context := scope.context.bind name value }
  | _, _ => .ok scope

/-- A position in a loop, which is of the wider type where 31 bits do not hold it. -/
def loopIndex (i : Nat) : Value :=
  if i < 0x80000000 then .int (Int32.ofNat i)
  else .long (Int64.ofNat (min i (0x8000000000000000 - 1)))

/-- The entries that a loop goes through, an index and an item each. Only sequences and maps have
any. -/
def loopEntries? : Value → Option (List (Value × Value))
  | .sequence _ items => some (items.zipIdx.map fun (item, i) => (loopIndex i, item))
  | .map fields => some (fields.map fun (name, value) => (.string name, value))
  | _ => none

/-- The scope of one pass of a loop. The item hides the index where both have one name. -/
def loopScope (scope : Scope) (index item : String) (entry : Value × Value) : Scope :=
  { scope with
    context := scope.context.overlay (Dict.put [(index, entry.1)] item entry.2) }

/-! ## Fragments -/

/-- The fragment of a mapper, with the namespace it is in. -/
def fragmentIn? (registry : Registry) (ns id : String) : Option (String × Fragment) := do
  let mapper ← registry.find? ns
  let fragment ← mapper.fragments.get? id
  some (mapper.ns, fragment)

/-- The fragment that a name means: first with its namespace in front, then in the current one. -/
def fragment? (registry : Registry) (refid ns : String) : Option (String × Fragment) :=
  let qualified :=
    match Text.splitLast? (· == '.') refid.toList with
    | some (before, id) => fragmentIn? registry (String.ofList before) (String.ofList id)
    | none => none
  qualified <|> fragmentIn? registry ns refid

/-- The properties inside an inclusion: those around it, and those that it sets itself, whose
values may use the ones around it. -/
def includeProperties (setting : Setting) (scope : Scope) (tag : String) :
    Dict String → List Element → Except PreviewError (Dict String)
  | properties, [] => .ok properties
  | properties, element :: rest =>
    match element.kind, element.attribute? "name", element.attribute? "value" with
    | .property, some name, some value => do
      let value ← attributeText setting scope tag value
      includeProperties setting scope tag (properties.put name value) rest
    | _, _, _ => includeProperties setting scope tag properties rest

/-! ## Tags -/

/-- Renders nodes one level deeper: the scope, the name of the tag around them, and the nodes. -/
abbrev Body := Scope → String → List Node → Rendered

/-- Renders what is inside a tag. -/
def inside (body : Body) (scope : Scope) (element : Element) : Rendered :=
  body scope element.name element.children

/-- A choice takes its first branch whose test holds, and otherwise its first default branch. -/
def chosen? (scope : Scope) (children : List Element) : Option Element :=
  (children.find? fun child => child.kind == .when && testHolds scope child) <|>
    children.find? fun child => child.kind == .otherwise

/-- The texts of the passes of a loop, joined as its attributes say. -/
def joinPasses (element : Element) (parts : List (List Char)) : List Char :=
  let opening := (element.attribute? "open").getD ""
  let closing := (element.attribute? "close").getD ""
  let separator := (element.attribute? "separator").getD ","
  opening.toList ++ Text.joined separator.toList parts ++ closing.toList

/-- A loop renders its body once for each entry, if there are not too many. -/
def loop (setting : Setting) (body : Body) (scope : Scope) (element : Element) : Rendered :=
  match element.attribute? "collection" with
  | none => .ok []
  | some collection => do
    let value ← value setting scope element.name collection
    match loopEntries? value with
    | none => pure []
    | some entries =>
      if setting.options.maxIterations < entries.length then
        .error (.limitExceeded setting.path .iterations setting.options.maxIterations)
      else do
        let item := (element.attribute? "item").getD "item"
        let index := (element.attribute? "index").getD "index"
        let parts ← entries.mapM fun entry =>
          inside body (loopScope scope index item entry) element
        pure (joinPasses element parts)

/-- An inclusion renders the fragment that it names, in the fragment's namespace. -/
def inclusion (setting : Setting) (body : Body) (scope : Scope) (element : Element) : Rendered :=
  match element.attribute? "refid" with
  | none => .ok []
  | some refid => do
    let properties ←
      includeProperties setting scope element.name scope.properties element.childElements
    let inner := { scope with properties }
    let refid ← attributeText setting inner element.name refid
    match fragment? setting.registry refid scope.ns with
    -- Inside the fragment, bare names mean fragments of its own namespace.
    | some (ns, fragment) => body { inner with ns } "sql" fragment.body
    | none =>
      if setting.options.strictIncludes then .error (.fragmentNotFound setting.path refid)
      else pure []

/-- Renders one tag, given how what is inside it is rendered. -/
def element (setting : Setting) (body : Body) (scope : Scope) (element : Element) : Rendered :=
  match element.kind with
  | .include => inclusion setting body scope element
  | .test | .when => if testHolds scope element then inside body scope element else .ok []
  | .choose =>
    match chosen? scope element.childElements with
    | some branch => inside body scope branch
    | none => .ok []
  | .foreach => loop setting body scope element
  | .trim => (inside body scope element).map (TrimRule.ofAttributes element.attributes).apply
  | .whereClause => (inside body scope element).map TrimRule.whereClause.apply
  | .setClause => (inside body scope element).map TrimRule.setClause.apply
  | .property | .selectKey | .bind => .ok []
  | .otherwise | .other => inside body scope element

/-- Renders nodes in order, given how one tag is rendered. A binding tag changes the scope of the
nodes after it. -/
def siblings (setting : Setting) (tag : Scope → Element → Rendered) (parent : String) :
    Scope → List Node → Rendered
  | _, [] => .ok []
  | scope, .text text :: rest => do
    let head ← substitute (inText setting scope parent) text.toList
    let tail ← siblings setting tag parent scope rest
    pure (head ++ tail)
  | scope, .tag element :: rest =>
    match element.kind with
    | .bind => do
      let scope ← afterBind setting scope element
      siblings setting tag parent scope rest
    | _ => do
      let head ← tag scope element
      let tail ← siblings setting tag parent scope rest
      pure (head ++ tail)

/-- Renders nodes below which `room` more levels of tags may nest. -/
def nodes (setting : Setting) : Nat → Body
  | 0 => fun scope parent =>
    siblings setting
      (fun _ _ => .error (.limitExceeded setting.path .depth setting.options.maxDepth)) parent scope
  | room + 1 => fun scope parent =>
    siblings setting (element setting (nodes setting room)) parent scope

/-- The SQL of a statement, in its final layout. -/
def statement (setting : Setting) (statement : Statement) (context : Context) :
    Except PreviewError String := do
  let scope : Scope := ⟨context, [], setting.path.ns⟩
  let raw ← nodes setting setting.options.maxDepth scope statement.kind.name statement.body
  pure (String.ofList (Layout.format raw))

end Render

end SqlPreview
