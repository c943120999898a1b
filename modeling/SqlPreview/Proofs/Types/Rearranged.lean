import SqlPreview.Proofs.Types.Example

/-!
# Classes in another order

The order of the classes in a table has no say in what a type means: neither in its category, nor in
its fields, nor in its example.

Results:
1. `ClassTable.Rearranged.fields?_eq`: the fields of a class, found along its superclasses.
2. `ClassTable.Rearranged.exampleIn_eq`: the example of a type, whatever was expanded before.
-/

namespace SqlPreview

/-- The same classes in another order, each under a name of its own. -/
structure ClassTable.Rearranged (table table' : ClassTable) : Prop where
  classes : table.classes.Perm table'.classes
  once : table.names.Nodup

namespace ClassTable.Rearranged

variable {table table' : ClassTable} (moved : table.Rearranged table')

include moved

theorem find?_eq (name : String) : table.find? name = table'.find? name :=
  Dict.get?_of_perm moved.classes moved.once name

theorem names_perm : table.names.Perm table'.names := moved.classes.map Prod.fst

theorem without (name : String) : (table.without name).Rearranged (table'.without name) where
  classes := moved.classes.filter _
  once := moved.once.sublist (List.filter_sublist.map Prod.fst)

theorem category_eq (type : TypeRef) : type.category table = type.category table' := by
  unfold TypeRef.category
  rw [moved.find?_eq]

/-- The induction is on the number of classes that may still be visited. -/
theorem superclassChain_eq (name : String) :
    superclassChain table name = superclassChain table' name := by
  induction size : table.size using Nat.strongRecOn generalizing table table' name with
  | ind bound ih =>
    cases found : table.find? name with
    | none =>
      rw [superclassChain_of_none found, superclassChain_of_none (moved.find?_eq name ▸ found)]
    | some info =>
      have above :
          chainAbove (table.without name) info = chainAbove (table'.without name) info := by
        unfold chainAbove
        cases info.superclass with
        | none => rfl
        | some parent =>
          dsimp only
          rw [ih _ (size ▸ ClassTable.size_without_lt found) (moved.without name) _ rfl]
      rw [superclassChain_of_some found, superclassChain_of_some (moved.find?_eq name ▸ found),
        above]

theorem fields?_eq (name : String) : table.fields? name = table'.fields? name := by
  unfold ClassTable.fields?
  rw [moved.find?_eq, moved.superclassChain_eq]

theorem exampleIn_eq {unopened unopened' : List String} (same : unopened.Perm unopened')
    (type : TypeRef) : exampleIn table unopened type = exampleIn table' unopened' type := by
  induction unopened, type using example_induction table generalizing unopened' with
  | scalar unopened type kind category =>
    rw [exampleIn_scalar category, exampleIn_scalar (moved.category_eq type ▸ category),
      moved.find?_eq]
  | items unopened type kind category ih =>
    rw [exampleIn_items category, exampleIn_items (moved.category_eq type ▸ category)]
    cases found : type.element? with
    | none => rfl
    | some element => rw [Option.map_some, Option.map_some, ih element found same]
  | map unopened type category ih =>
    rw [exampleIn_map category, exampleIn_map (moved.category_eq type ▸ category)]
    cases found : type.mapValue? with
    | none => rfl
    | some inner =>
      have keys : (fun key : TypeRef => key.category table) = fun key => key.category table' :=
        funext moved.category_eq
      dsimp only
      rw [ih inner found same, keys]
  | composite unopened type category ih =>
    rw [exampleIn_composite category, exampleIn_composite (moved.category_eq type ▸ category),
      moved.fields?_eq]
    by_cases opens : type.name ∈ unopened
    · rw [if_pos opens, if_pos (same.mem_iff.1 opens)]
      have each (field : Field) := ih opens field (same.erase type.name)
      simp only [each]
    · rw [if_neg opens, if_neg (mt same.mem_iff.2 opens)]

theorem exampleOf_eq (type : TypeRef) : table.exampleOf type = table'.exampleOf type :=
  moved.exampleIn_eq moved.names_perm type

theorem beanExample_eq (type : TypeRef) : table.beanExample type = table'.beanExample type := by
  have each (field : Field) := moved.exampleIn_eq (moved.names_perm.erase type.name) field.type
  unfold ClassTable.beanExample
  simp only [moved.fields?_eq, each, moved.names_perm.mem_iff]

end ClassTable.Rearranged

end SqlPreview
