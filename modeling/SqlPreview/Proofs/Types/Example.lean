import Mathlib
import SqlPreview.Proofs.Dictionary
import SqlPreview.Types.Example
import SqlPreview.Value.Basic

/-!
# Fields and examples of types

How the example of a type is made up, category by category.

Results:
1. `nodup_of_fields?`: a class has every field once.
2. `exampleIn_scalar`, `exampleIn_items`, `exampleIn_map`, `exampleIn_composite`: the example of a
   type of each category.
3. `example_induction`: induction along the expansion of a type.
-/

namespace SqlPreview

/-! ## Fields -/

theorem nodup_distinctFields (fields : List Field) :
    ((distinctFields fields).map Field.name).Nodup := by
  suffices grows : ∀ kept : List Field, (kept.map Field.name).Nodup →
      ((fields.foldl (fun kept field =>
        if kept.any (fun known => known.name == field.name) then kept else field :: kept)
        kept).map Field.name).Nodup by
    rw [distinctFields, List.map_reverse, List.nodup_reverse]
    exact grows [] List.nodup_nil
  induction fields with
  | nil => exact fun kept once => once
  | cons field rest ih =>
    intro kept once
    refine ih _ ?_
    beta_reduce
    split
    · exact once
    · next fresh =>
      refine List.nodup_cons.2 ⟨fun member => fresh ?_, once⟩
      obtain ⟨known, inside, same⟩ := List.mem_map.1 member
      exact List.any_eq_true.2 ⟨known, inside, by simpa using same⟩

theorem nodup_of_fields? {table : ClassTable} {name : String} {known : List Field}
    (resolved : table.fields? name = some known) : (known.map Field.name).Nodup := by
  unfold ClassTable.fields? at resolved
  split at resolved
  · cases resolved
  · cases resolved
    exact nodup_distinctFields _

theorem mem_of_mem_distinctFields {fields : List Field} {field : Field}
    (member : field ∈ distinctFields fields) : field ∈ fields := by
  suffices grows : ∀ kept : List Field, field ∈ fields.foldl (fun kept field =>
        if kept.any (fun known => known.name == field.name) then kept else field :: kept) kept →
      field ∈ kept ∨ field ∈ fields by
    exact (grows [] (List.mem_reverse.1 member)).resolve_left List.not_mem_nil
  clear member
  induction fields with
  | nil => exact fun kept => .inl
  | cons first rest ih =>
    intro kept member
    rcases ih _ member with early | late
    · dsimp only at early
      split at early
      · exact .inl early
      · rcases List.mem_cons.1 early with rfl | early
        · exact .inr List.mem_cons_self
        · exact .inl early
    · exact .inr (List.mem_cons_of_mem first late)

/-- What stands above a class in its chain, when only the classes of `table` may be visited. -/
def chainAbove (table : ClassTable) (info : ClassInfo) : List ClassInfo :=
  match info.superclass with
  | none => []
  | some parent =>
    if parent.name == "java.lang.Object" then [] else superclassChain table parent.name

theorem superclassChain_of_none {table : ClassTable} {name : String}
    (absent : table.find? name = none) : superclassChain table name = [] := by
  rw [superclassChain]
  split
  · rfl
  · next found => cases absent.symm.trans found

theorem superclassChain_of_some {table : ClassTable} {name : String} {info : ClassInfo}
    (found : table.find? name = some info) :
    superclassChain table name = info :: chainAbove (table.without name) info := by
  rw [superclassChain]
  split
  · next absent => cases absent.symm.trans found
  · next other same =>
    cases same.symm.trans found
    unfold chainAbove
    cases info.superclass with
    | none => rfl
    | some parent =>
      dsimp only
      split <;> rfl

theorem mem_of_mem_superclassChain {table : ClassTable} {name : String} {info : ClassInfo}
    (member : info ∈ superclassChain table name) : ∃ entry ∈ table.classes, entry.2 = info := by
  induction size : table.size using Nat.strongRecOn generalizing table name with
  | ind bound ih =>
    cases found : table.find? name with
    | none =>
      rw [superclassChain_of_none found] at member
      cases member
    | some first =>
      rw [superclassChain_of_some found] at member
      rcases List.mem_cons.1 member with rfl | above
      · exact ⟨(name, info), Dict.mem_of_get? found, rfl⟩
      · unfold chainAbove at above
        split at above
        · cases above
        · split at above
          · cases above
          · obtain ⟨entry, listed, same⟩ := ih _ (size ▸ ClassTable.size_without_lt found) above rfl
            exact ⟨entry, (List.mem_filter.1 listed).1, same⟩

/-- The fields of a class were written in some class of the table. -/
theorem mem_of_mem_fields? {table : ClassTable} {name : String} {known : List Field} {field : Field}
    (resolved : table.fields? name = some known) (member : field ∈ known) :
    ∃ entry ∈ table.classes, field ∈ entry.2.fields := by
  unfold ClassTable.fields? at resolved
  split at resolved
  · cases resolved
  · cases resolved
    obtain ⟨info, inside, found⟩ := List.mem_flatMap.1 (mem_of_mem_distinctFields member)
    obtain ⟨entry, listed, rfl⟩ := mem_of_mem_superclassChain inside
    exact ⟨entry, listed, (List.mem_filter.1 found).1⟩

/-- An enumeration is a class of the table, because no well-known name is one. -/
theorem find?_of_enumeration {table : ClassTable} {type : TypeRef}
    (category : type.category table = .scalar .enumeration) :
    ∃ info, table.find? type.name = some info := by
  unfold TypeRef.category at category
  split at category
  · cases category
  · split at category
    · next kind found =>
      have others : ∀ entry ∈ scalarTypes, entry.2 ≠ .enumeration := by decide
      cases category
      exact absurd rfl (others _ (Dict.mem_of_get? found))
    · next container found =>
      have others : ∀ entry ∈ containerTypes, entry.2.isScalar = false := by decide
      cases category
      cases others _ (Dict.mem_of_get? found)
    · split at category
      · next info found => exact ⟨info, found⟩
      · cases category

/-- The fields of a class are known exactly if the class is. -/
theorem isSome_fields? (table : ClassTable) (name : String) :
    (table.fields? name).isSome = true ↔ name ∈ table.names := by
  rw [ClassTable.names, ← Dict.has_eq_true_iff, Dict.has, ← ClassTable.find?, ClassTable.fields?]
  cases table.find? name <;> simp

/-! ## Examples of types -/

/-- The sequence that values of a category are. -/
def Category.sequence? : Category → Option Sequence
  | .array => some .array
  | .list => some .list
  | .set => some .set
  | _ => none

variable {table : ClassTable} {unopened : List String} {type : TypeRef}

theorem exampleIn_scalar {kind : ScalarKind} (scalar : type.category table = .scalar kind) :
    exampleIn table unopened type = scalarExample kind (table.find? type.name) := by
  rw [exampleIn]
  split <;> simp_all

theorem exampleIn_items {kind : Sequence}
    (sequence : (type.category table).sequence? = some kind) :
    exampleIn table unopened type =
      .array [(type.element?.map (exampleIn table unopened)).getD (.string "element")] := by
  rw [exampleIn]
  split <;> simp_all [Category.sequence?] <;> split <;> simp_all

theorem exampleIn_map (map : type.category table = .map) :
    exampleIn table unopened type =
      match type.mapValue? with
      | some inner =>
        .object [(exampleKey (type.mapKey?.map (·.category table)), exampleIn table unopened inner)]
      | none => .object [("key", .string "value")] := by
  rw [exampleIn]
  split <;> simp_all
  split <;> simp_all

theorem exampleIn_composite (composite : type.category table = .composite) :
    exampleIn table unopened type =
      .object (if type.name ∈ unopened then
        ((table.fields? type.name).getD []).map fun field =>
          (field.name, exampleIn table (unopened.erase type.name) field.type)
      else []) := by
  rw [exampleIn]
  split <;> simp_all
  split <;> rfl

/-- What holds of every type that is not expanded further, and of a type where it holds of those
that its expansion reaches, holds of all types. -/
theorem example_induction (table : ClassTable) {motive : List String → TypeRef → Prop}
    (scalar : ∀ unopened type kind, type.category table = .scalar kind → motive unopened type)
    (items : ∀ unopened type kind, (type.category table).sequence? = some kind →
      (∀ element, type.element? = some element → motive unopened element) → motive unopened type)
    (map : ∀ unopened type, type.category table = .map →
      (∀ inner, type.mapValue? = some inner → motive unopened inner) → motive unopened type)
    (composite : ∀ unopened type, type.category table = .composite →
      (type.name ∈ unopened → ∀ field : Field,
        motive (unopened.erase type.name) field.type) → motive unopened type)
    (unopened : List String) (type : TypeRef) : motive unopened type := by
  induction unopened, type using exampleIn.induct table with
  | case1 unopened type kind category => exact scalar _ _ kind category
  | case2 unopened type category element found ih
  | case4 unopened type category element found ih
  | case6 unopened type category element found ih =>
    refine items _ _ _ (by rw [category]; rfl) fun other same => ?_
    rw [found] at same
    cases same
    exact ih
  | case3 unopened type category none
  | case5 unopened type category none
  | case7 unopened type category none =>
    refine items _ _ _ (by rw [category]; rfl) fun other same => ?_
    rw [none] at same
    cases same
  | case8 unopened type category inner found ih =>
    refine map _ _ category fun other same => ?_
    rw [found] at same
    cases same
    exact ih
  | case9 unopened type category none =>
    refine map _ _ category fun other same => ?_
    rw [none] at same
    cases same
  | case10 unopened type category closed ih => exact composite _ _ category fun _ => ih
  | case11 unopened type category absent =>
    exact composite _ _ category fun present => absurd present absent

end SqlPreview
