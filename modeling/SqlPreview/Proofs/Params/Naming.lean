import Mathlib.Data.List.Nodup
import SqlPreview.Params.Bindings
import SqlPreview.Proofs.Dictionary

/-!
# Names of declared parameters

A payload gives a declared parameter its value under the name of the parameter. The value is then
bound under further names, each where it is still free. A name that is declared counts as free here
as long as the payload has nothing under it, so it may come to stand for another parameter.

This file defines the further names of a parameter (`Shape.aliases`) and when one of them is the
name of a parameter without a value (`Shape.Clash`).

Results:
1. `declared_names_kept`: a parameter with a value keeps it under its name, and the names of those
   without a value stay free if and only if nothing clashes.
2. `absent_name_taken`: a declared name is bound to the value of another parameter.
-/

namespace SqlPreview

namespace Shape

variable {table : ClassTable} {fields : Dict Json} {declarations : List Declaration} {lone : Bool}
  {bindings : Dict Value} {name : String} {value : Value}

/-! ## Further names -/

/-- The names that a parameter is bound under besides its own. -/
def aliases (lone : Bool) (d : Declaration) : List String :=
  positionalName d.position ::
    (if d.key == wholeName then [valueName]
      else if lone && sequenceNames.contains d.key then [collectionName, wholeName] else [])

theorem bindAliases_eq {d : Declaration} (bound : bindings.get? d.key = some value) :
    bindAliases lone bindings d =
      (aliases lone d).foldl (fun dict name => dict.putIfAbsent name value) bindings := by
  unfold bindAliases aliases
  simp only [bound]
  split
  · rfl
  · split <;> rfl

/-- A name means what it meant before. One that meant nothing means what the parameter means. -/
theorem get?_bindAliases (lone : Bool) (bindings : Dict Value) (d : Declaration) (name : String) :
    (bindAliases lone bindings d).get? name =
      (bindings.get? name).or (if name ∈ aliases lone d then bindings.get? d.key else none) := by
  cases bound : bindings.get? d.key with
  | none =>
    have unchanged : bindAliases lone bindings d = bindings := by
      unfold bindAliases
      simp only [bound]
    rw [unchanged, ite_self, Option.or_none]
  | some value => rw [bindAliases_eq bound, Dict.get?_foldl_putIfAbsent]

/-- A name that is bound keeps its value, whatever further names are bound. -/
theorem get?_foldl_bindAliases (bound : bindings.get? name = some value)
    (declarations : List Declaration) :
    (declarations.foldl (bindAliases lone) bindings).get? name = some value := by
  induction declarations generalizing bindings with
  | nil => exact bound
  | cons d rest ih =>
    refine ih ?_
    rw [get?_bindAliases, bound, Option.some_or]

/-- What is bound in the end was bound before, if under another name. -/
theorem exists_of_get?_foldl_bindAliases
    (found : (declarations.foldl (bindAliases lone) bindings).get? name = some value) :
    ∃ other, bindings.get? other = some value := by
  induction declarations generalizing bindings with
  | nil => exact ⟨name, found⟩
  | cons d rest ih =>
    obtain ⟨other, meant⟩ := ih found
    rw [get?_bindAliases] at meant
    rcases Option.or_eq_some_iff.1 meant with before | ⟨-, now⟩
    · exact ⟨other, before⟩
    · split at now
      · exact ⟨d.key, now⟩
      · cases now

/-! ## Values of their own -/

/-- The parameters that a payload supplies, under their names, with the values read for them. -/
def suppliedValues (table : ClassTable) (fields : Dict Json) (declarations : List Declaration) :
    Dict Value :=
  declarations.filterMap fun d =>
    (fields.get? d.key).map fun json => (d.key, coerce table json (some d.type))

theorem foldl_bindDeclared (lone : Bool) (bindings : Dict Value) :
    declarations.foldl (bindDeclared table (.object fields) lone) bindings =
      bindings.putAll (suppliedValues table fields declarations) := by
  induction declarations generalizing bindings with
  | nil => rfl
  | cons d rest ih =>
    rw [List.foldl_cons, ih, bindDeclared, supplied?, suppliedValues, suppliedValues,
      List.filterMap_cons]
    cases fields.get? d.key with
    | none => rfl
    | some json => rfl

theorem mem_suppliedValues {entry : String × Value} :
    entry ∈ suppliedValues table fields declarations ↔
      ∃ d ∈ declarations, ∃ json, fields.get? d.key = some json ∧
        (d.key, coerce table json (some d.type)) = entry := by
  simp only [suppliedValues, List.mem_filterMap, Option.map_eq_some_iff]

section

variable (distinct : (declarations.map Declaration.key).Nodup)

include distinct

theorem nodup_names_suppliedValues : (suppliedValues table fields declarations).names.Nodup := by
  have sublist (declarations : List Declaration) :
      (suppliedValues table fields declarations).names.Sublist (declarations.map Declaration.key) := by
    induction declarations with
    | nil => exact .slnil
    | cons d rest ih =>
      rw [suppliedValues, List.filterMap_cons]
      cases fields.get? d.key with
      | none => exact ih.cons d.key
      | some json => exact ih.cons_cons d.key
  exact distinct.sublist (sublist declarations)

/-- Under its own name a parameter is bound to its own value, if it has one. -/
theorem get?_suppliedValues {d : Declaration} (declared : d ∈ declarations) :
    (suppliedValues table fields declarations).get? d.key =
      (fields.get? d.key).map fun json => coerce table json (some d.type) := by
  refine Option.ext fun value => ?_
  rw [Dict.get?_eq_some_iff (nodup_names_suppliedValues distinct), mem_suppliedValues,
    Option.map_eq_some_iff]
  constructor
  · rintro ⟨e, declared', json, given, same⟩
    obtain ⟨key, rfl⟩ := Prod.mk.inj same
    obtain rfl : e = d := List.inj_on_of_nodup_map distinct declared' declared key
    exact ⟨json, given, rfl⟩
  · rintro ⟨json, given, rfl⟩
    exact ⟨d, declared, json, given, rfl⟩

/-- The bindings of an object: values of their own first, further names after them. -/
theorem bindings_multiple :
    (Shape.multiple declarations).bindings table (.object fields) =
      declarations.foldl (bindAliases (declarations.length == 1))
        (suppliedValues table fields declarations) := by
  rw [Shape.bindings, foldl_bindDeclared, ← Dict.ofPairs,
    Dict.ofPairs_of_nodup (nodup_names_suppliedValues distinct)]

end

/-! ## Clashes -/

/-- A parameter with a value has the name of one that the payload gives no value. -/
def Clash (fields : Dict Json) (declarations : List Declaration) : Prop :=
  ∃ d ∈ declarations, ∃ e ∈ declarations, fields.get? d.key = none ∧ fields.get? e.key ≠ none ∧
    d.key ∈ aliases (declarations.length == 1) e

/-- Names that no parameter with a value has stay free. -/
theorem get?_foldl_bindAliases_of_free (free : String → Prop)
    (unbound : ∀ name, free name → bindings.get? name = none)
    (others : ∀ e ∈ declarations, ¬free e.key → ∀ name ∈ aliases lone e, ¬free name)
    (isFree : free name) :
    (declarations.foldl (bindAliases lone) bindings).get? name = none := by
  induction declarations generalizing bindings with
  | nil => exact unbound name isFree
  | cons e rest ih =>
    obtain ⟨here, there⟩ := List.forall_mem_cons.1 others
    refine ih (fun other isFree => ?_) there
    rw [get?_bindAliases, unbound other isFree, Option.none_or]
    split
    · next member =>
      by_cases taken : free e.key
      · exact unbound e.key taken
      · exact absurd isFree (here taken other member)
    · rfl

/-- A further name of a parameter with a value is bound when the parameter's turn has passed. -/
theorem get?_foldl_bindAliases_ne_none {e : Declaration} (declared : e ∈ declarations)
    (bound : bindings.get? e.key = some value) (member : name ∈ aliases lone e) :
    (declarations.foldl (bindAliases lone) bindings).get? name ≠ none := by
  obtain ⟨before, after, rfl⟩ := List.append_of_mem declared
  rw [List.foldl_append, List.foldl_cons]
  have turn : (before.foldl (bindAliases lone) bindings).get? e.key = some value :=
    get?_foldl_bindAliases bound before
  generalize before.foldl (bindAliases lone) bindings = reached at turn
  obtain ⟨other, meant⟩ : ∃ other, (bindAliases lone reached e).get? name = some other := by
    rw [get?_bindAliases, if_pos member, turn]
    cases reached.get? name with
    | none => exact ⟨value, rfl⟩
    | some other => exact ⟨other, rfl⟩
  rw [get?_foldl_bindAliases meant after]
  exact Option.some_ne_none other

/-- A parameter that the payload supplies is bound to its value under its name, and every value
that is bound is the value of such a parameter. The names of the other parameters stay free if and
only if none of them is a further name of a parameter with a value. -/
theorem declared_names_kept (table : ClassTable) (declarations : List Declaration)
    (distinct : (declarations.map Declaration.key).Nodup) (fields : Dict Json) :
    let bound := (Shape.multiple declarations).bindings table (.object fields)
    (∀ d ∈ declarations, ∀ json, fields.get? d.key = some json →
      bound.get? d.key = some (coerce table json (some d.type))) ∧
    (∀ name value, bound.get? name = some value → ∃ d ∈ declarations, ∃ json,
      fields.get? d.key = some json ∧ value = coerce table json (some d.type)) ∧
    ((∀ d ∈ declarations, fields.get? d.key = none → bound.get? d.key = none) ↔
      ¬Clash fields declarations) := by
  intro bound
  have own : ∀ d ∈ declarations, ∀ json, fields.get? d.key = some json →
      (suppliedValues table fields declarations).get? d.key =
        some (coerce table json (some d.type)) := by
    intro d declared json given
    rw [get?_suppliedValues distinct declared, given, Option.map_some]
  have same : bound = _ := bindings_multiple distinct
  rw [same]
  refine ⟨fun d declared json given => get?_foldl_bindAliases (own d declared json given) _,
    fun name value found => ?_, fun free clash => ?_, fun apart d declared absent => ?_⟩
  · obtain ⟨other, meant⟩ := exists_of_get?_foldl_bindAliases found
    obtain ⟨d, declared, json, given, same⟩ := mem_suppliedValues.1 (Dict.mem_of_get? meant)
    exact ⟨d, declared, json, given, (Prod.mk.inj same).2.symm⟩
  · obtain ⟨d, declared, e, declared', absent, present, member⟩ := clash
    obtain ⟨json, given⟩ := Option.ne_none_iff_exists'.1 present
    exact get?_foldl_bindAliases_ne_none declared' (own e declared' json given) member
      (free d declared absent)
  · -- The names that must stay free are those that are declared and have no value.
    refine get?_foldl_bindAliases_of_free
      (fun name => name ∈ declarations.map Declaration.key ∧ fields.get? name = none)
      (fun name isFree => ?_) (fun e declared' taken name member isFree => ?_)
      ⟨List.mem_map_of_mem declared, absent⟩
    · obtain ⟨e, declared', rfl⟩ := List.mem_map.1 isFree.1
      rw [get?_suppliedValues distinct declared', isFree.2, Option.map_none]
    · obtain ⟨other, declared'', rfl⟩ := List.mem_map.1 isFree.1
      exact apart ⟨other, declared'', e, declared', isFree.2,
        fun absent' => taken ⟨List.mem_map_of_mem declared', absent'⟩, member⟩

/-- Three parameters, of which the payload gives the first under its name and the last under its
position. -/
theorem positions_names_kept :
    let declarations : List Declaration :=
      [⟨some "id", .named "int", 0⟩, ⟨some "name", .named "String", 1⟩, ⟨none, .named "long", 2⟩]
    let fields : Dict Json := [("id", .number (.integer 300)), ("param3", .string "7")]
    let bound := (Shape.multiple declarations).bindings .empty (.object fields)
    (declarations.map Declaration.key).Nodup ∧
    (∀ d ∈ declarations, ∀ json, fields.get? d.key = some json →
      bound.get? d.key = some (coerce .empty json (some d.type))) ∧
    (∀ name value, bound.get? name = some value → ∃ d ∈ declarations, ∃ json,
      fields.get? d.key = some json ∧ value = coerce .empty json (some d.type)) ∧
    ((∀ d ∈ declarations, fields.get? d.key = none → bound.get? d.key = none) ↔
      ¬Clash fields declarations) := by
  intro declarations fields bound
  have distinct : (declarations.map Declaration.key).Nodup := by decide +kernel
  exact ⟨distinct, declared_names_kept .empty declarations distinct fields⟩

/-- The first of two parameters is named like the position of the second. Without a value of its
own, it has that of the second. -/
theorem absent_name_taken :
    let declarations : List Declaration :=
      [⟨some "param2", .named "String", 0⟩, ⟨some "b", .named "String", 1⟩]
    let fields : Dict Json := [("b", .string "x")]
    let bound := (Shape.multiple declarations).bindings .empty (.object fields)
    (declarations.map Declaration.key).Nodup ∧ fields.get? "param2" = none ∧
      bound.get? "param2" = some (.string "x") := by
  refine ⟨by decide +kernel, by decide +kernel, ?_⟩
  rfl

end Shape

end SqlPreview
