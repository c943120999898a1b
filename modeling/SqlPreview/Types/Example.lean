import SqlPreview.Json.Basic
import SqlPreview.Types.Category
import SqlPreview.Types.Fields

/-!
# Example values

A fixed example for every type. A composite type is expanded into its fields, and is the empty
object where it comes up again inside its own expansion.
-/

namespace SqlPreview

/-- The example of a scalar. -/
def scalarExample (kind : ScalarKind) (info : Option ClassInfo) : Json :=
  match kind with
  | .boolean => .boolean true
  | .byte | .short | .int | .long => .number (.integer 1)
  | .bigInteger => .number (.integer 100)
  | .float | .double => .number (.floating (.ofInt .double 1))
  | .character => .string "A"
  | .string => .string "string"
  | .bigDecimal => .string "100.00"
  | .date => .string "2023-01-01T00:00:00Z"
  | .localDate => .string "2023-01-01"
  | .localDateTime => .string "2023-01-01T00:00:00"
  | .localTime => .string "12:00:00"
  | .uuid => .string "00000000-0000-0000-0000-000000000000"
  | .enumeration =>
    match info.bind fun info => info.constants.head? with
    | some constant => .string constant
    | none => .string "VALUE"
  | .object => .string "value"

/-- The key of an example entry: a number for integral keys. -/
def exampleKey : Option Category → String
  | some (.scalar .byte) | some (.scalar .short) | some (.scalar .int) | some (.scalar .long) => "1"
  | _ => "key"

/-- The names of known classes, any of which may be expanded. -/
def ClassTable.names (table : ClassTable) : List String := table.classes.names

theorem TypeRef.size_element?_lt {type element : TypeRef} (h : type.element? = some element) :
    sizeOf element < sizeOf type := by
  obtain ⟨name, args, dims⟩ := type
  simp only [TypeRef.element?] at h
  split at h
  · cases h
    simp
    omega
  · cases args with
    | nil => simp at h
    | cons arg rest =>
      simp at h
      subst h
      simp
      omega

theorem TypeRef.size_mapValue?_lt {type value : TypeRef} (h : type.mapValue? = some value) :
    sizeOf value < sizeOf type := by
  obtain ⟨name, args, dims⟩ := type
  simp only [TypeRef.mapValue?] at h
  have := List.sizeOf_lt_of_mem (List.mem_of_getElem? h)
  simp
  omega

/-- An example of a type, in whose expansion only the classes of `unopened` are expanded. -/
def exampleIn (table : ClassTable) (unopened : List String) (type : TypeRef) : Json :=
  match type.category table with
  | .scalar kind => scalarExample kind (table.find? type.name)
  | .array | .list | .set =>
    match _h : type.element? with
    | some element => .array [exampleIn table unopened element]
    | none => .array [.string "element"]
  | .map =>
    match _h : type.mapValue? with
    | some value =>
      .object [(exampleKey (type.mapKey?.map (·.category table)), exampleIn table unopened value)]
    | none => .object [("key", .string "value")]
  | .composite =>
    if type.name ∈ unopened then
      .object (((table.fields? type.name).getD []).map fun field =>
        (field.name, exampleIn table (unopened.erase type.name) field.type))
    else .object []
termination_by (unopened.length, sizeOf type)
decreasing_by
  · exact Prod.Lex.right _ (TypeRef.size_element?_lt _h)
  · exact Prod.Lex.right _ (TypeRef.size_mapValue?_lt _h)
  · apply Prod.Lex.left
    rename_i present
    have := List.length_pos_of_mem present
    rw [List.length_erase_of_mem present]
    omega

/-- An example of a type. -/
def ClassTable.exampleOf (table : ClassTable) (type : TypeRef) : Json :=
  exampleIn table table.names type

/-- The example of a type, taken as a composite whatever its category. -/
def ClassTable.beanExample (table : ClassTable) (type : TypeRef) : Dict Json :=
  if type.name ∈ table.names then
    ((table.fields? type.name).getD []).map fun field =>
      (field.name, exampleIn table (table.names.erase type.name) field.type)
  else []

end SqlPreview
