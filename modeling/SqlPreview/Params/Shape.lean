import SqlPreview.Params.Declaration
import SqlPreview.Types.Alias
import SqlPreview.Types.Category
import SqlPreview.Types.Reader

/-!
# Parameter shapes

The parameters of a statement arrive as a loose map, as named values, or as one bean whose fields
are the names. An explicit parameter type decides first, the declarations of the method second.
-/

namespace SqlPreview

inductive Shape where
  /-- Any names; every value has the given type, if there is one. -/
  | map (value : Option TypeRef)
  /-- One named value for each declaration. -/
  | multiple (declarations : List Declaration)
  /-- One object whose fields are the names. -/
  | bean (type : TypeRef)

namespace Shape

/-- The name of a single value that has none. -/
def wholeName : String := "_parameter"

/-- The name of a single sequence that has none. -/
def sequenceName? : Category → Option String
  | .list => some "list"
  | .set => some "collection"
  | .array => some "array"
  | _ => none

/-- The shape that an explicit parameter type asks for, if it is known. -/
def ofType? (table : ClassTable) (text : String) : Option Shape :=
  match TypeRef.read? (expandAlias text) with
  | none => none
  | some type =>
    match type.category table with
    | .map => some (.map type.mapValue?)
    | .composite => if (table.find? type.name).isSome then some (.bean type) else none
    | .scalar _ => some (.bean type)
    | sequence =>
      match sequenceName? sequence with
      | some name => some (.multiple [⟨some name, type, 0⟩])
      | none => some (.bean type)

/-- The shape of a single parameter without a name. -/
def ofUnnamed (table : ClassTable) (declaration : Declaration) : Shape :=
  match declaration.type.category table with
  | .map => .map declaration.type.mapValue?
  | .composite => .bean declaration.type
  | category =>
    .multiple [{ declaration with name := some ((sequenceName? category).getD wholeName) }]

/-- The shape that declarations ask for. -/
def ofDeclarations (table : ClassTable) : List Declaration → Shape
  | [] => .map none
  | [single] => if single.name.isNone then ofUnnamed table single else .multiple [single]
  | declarations => .multiple declarations

/-- The shape of a statement with this parameter type and these declarations. -/
def resolve (table : ClassTable) (parameterType : Option String)
    (declarations : List Declaration) : Shape :=
  match parameterType.bind (ofType? table) with
  | some shape => shape
  | none => ofDeclarations table declarations

end Shape

end SqlPreview
