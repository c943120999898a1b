import SqlPreview.Types.ClassTable

/-!
# Fields of composite types

A class has its own instance fields and those of its superclasses. The chain of superclasses ends
before the class of all objects, before an unknown class, and before a class that it has already
passed.
-/

namespace SqlPreview

/-- The table without a class. -/
def ClassTable.without (table : ClassTable) (name : String) : ClassTable :=
  ⟨table.classes.filter fun entry => entry.1 != name⟩

theorem ClassTable.size_without_lt {table : ClassTable} {name : String} {info : ClassInfo}
    (h : table.find? name = some info) : (table.without name).size < table.size := by
  obtain ⟨classes⟩ := table
  simp only [ClassTable.find?, Dict.get?, ClassTable.without, ClassTable.size] at *
  have present : (name, info) ∈ classes := by
    rw [List.lookup_eq_some_iff] at h
    obtain ⟨before, after, rfl, _⟩ := h
    simp
  exact List.length_filter_lt_length_iff_exists.2 ⟨(name, info), present, by simp⟩

/-- A class and its superclasses, nearest first, when only the classes of `table` may be visited. -/
def superclassChain (table : ClassTable) (name : String) : List ClassInfo :=
  match _h : table.find? name with
  | none => []
  | some info =>
    match info.superclass with
    | none => [info]
    | some parent =>
      if parent.name == "java.lang.Object" then [info]
      else info :: superclassChain (table.without name) parent.name
termination_by table.size
decreasing_by exact ClassTable.size_without_lt _h

/-- The fields in order, each name only once. -/
def distinctFields (fields : List Field) : List Field :=
  (fields.foldl
    (fun kept field => if kept.any (fun known => known.name == field.name) then kept else field :: kept)
    []).reverse

/-- The instance fields of a class and of its superclasses, unless the class is unknown. A field
hides the fields of that name further up. -/
def ClassTable.fields? (table : ClassTable) (name : String) : Option (List Field) :=
  match table.find? name with
  | none => none
  | some _ =>
    some (distinctFields
      ((superclassChain table name).flatMap fun info => info.fields.filter Field.isInstance))

end SqlPreview
