import Mathlib.Data.List.Nodup
import Mathlib.Data.List.Perm.Basic
import SqlPreview.Dict

/-!
# Laws of ordered dictionaries

A dictionary that is built up name by name holds every name once, and under each the value that
was given last.

Results:
1. `get?_ofPairs`: what a name means is the last value that it was given.
2. `names_putAll_eq`: new names stand behind the old ones, as they come.
3. `ofPairs_of_nodup`: pairs with different names are a dictionary as they are.
4. `get?_of_perm`: the order of the names does not matter for what they mean.
5. `get?_map`, `ofPairs_map`: items under names of their own are a dictionary, and each is found.
-/

namespace SqlPreview.Dict

variable {α : Type}

/-! ## Names -/

@[simp] theorem names_nil : names ([] : Dict α) = [] := rfl

@[simp] theorem names_cons (pair : String × α) (rest : Dict α) :
    names (pair :: rest) = pair.1 :: names rest := rfl

theorem mem_names {dict : Dict α} {name : String} :
    name ∈ dict.names ↔ ∃ value, (name, value) ∈ dict := by
  simp [names]

theorem get?_eq_none_iff {dict : Dict α} {name : String} :
    dict.get? name = none ↔ name ∉ dict.names := by
  induction dict with
  | nil => simp
  | cons pair rest ih =>
    obtain ⟨other, value⟩ := pair
    rw [get?_cons, names_cons, List.mem_cons, not_or, ← ih]
    by_cases same : name = other <;> simp [same]

theorem has_eq_true_iff {dict : Dict α} {name : String} :
    dict.has name = true ↔ name ∈ dict.names := by
  rw [has, Option.isSome_iff_ne_none, ne_eq, get?_eq_none_iff, not_not]

theorem mem_of_get? {dict : Dict α} {name : String} {value : α}
    (found : dict.get? name = some value) : (name, value) ∈ dict := by
  obtain ⟨before, after, rfl, -⟩ := List.lookup_eq_some_iff.1 found
  simp

/-- Where every name stands once, a name means the value beside it. -/
theorem get?_eq_some_iff {dict : Dict α} (once : dict.names.Nodup) {name : String} {value : α} :
    dict.get? name = some value ↔ (name, value) ∈ dict := by
  induction dict with
  | nil => simp
  | cons pair rest ih =>
    obtain ⟨other, old⟩ := pair
    obtain ⟨fresh, once⟩ := List.nodup_cons.1 once
    rw [get?_cons, List.mem_cons, Prod.mk.injEq]
    by_cases same : name = other
    · subst same
      have absent : (name, value) ∉ rest := fun member => fresh (mem_names.2 ⟨value, member⟩)
      simp [absent, eq_comm]
    · simp [same, ih once]

theorem get?_of_perm {dict dict' : Dict α} (same : dict.Perm dict') (once : dict.names.Nodup)
    (name : String) : dict.get? name = dict'.get? name := by
  have once' : dict'.names.Nodup := (same.map Prod.fst).nodup_iff.1 once
  refine Option.ext fun value => ?_
  rw [get?_eq_some_iff once, get?_eq_some_iff once', same.mem_iff]

/-! ## Giving a name a value -/

theorem names_put (dict : Dict α) (name : String) (value : α) :
    (dict.put name value).names =
      if name ∈ dict.names then dict.names else dict.names ++ [name] := by
  induction dict with
  | nil => simp [put]
  | cons pair rest ih =>
    obtain ⟨other, old⟩ := pair
    by_cases same : other = name
    · subst same
      simp [put]
    · have differs : name ≠ other := Ne.symm same
      by_cases member : name ∈ names rest <;> simp [put, same, differs, ih, member]

theorem mem_names_put {dict : Dict α} {name other : String} {value : α} :
    other ∈ (dict.put name value).names ↔ other ∈ dict.names ∨ other = name := by
  rw [names_put]
  split <;> simp_all

theorem nodup_names_put {dict : Dict α} (once : dict.names.Nodup) (name : String) (value : α) :
    (dict.put name value).names.Nodup := by
  rw [names_put]
  split
  · exact once
  · next absent => exact List.Nodup.append once (List.nodup_singleton name) (by simpa using absent)

theorem put_of_not_mem {dict : Dict α} {name : String} (absent : name ∉ dict.names) (value : α) :
    dict.put name value = dict ++ [(name, value)] := by
  induction dict with
  | nil => rfl
  | cons pair rest ih =>
    obtain ⟨other, old⟩ := pair
    rw [names_cons, List.mem_cons, not_or] at absent
    have differs : (other == name) = false := by simpa using Ne.symm absent.1
    rw [put, differs, List.cons_append, ← ih absent.2]
    rfl

theorem get?_putIfAbsent (dict : Dict α) (name : String) (value : α) (other : String) :
    (dict.putIfAbsent name value).get? other =
      (dict.get? other).or (if other = name then some value else none) := by
  rw [putIfAbsent]
  by_cases present : dict.has name = true
  · rw [if_pos present]
    rw [has, Option.isSome_iff_exists] at present
    obtain ⟨old, found⟩ := present
    by_cases same : other = name
    · rw [same, found, Option.some_or]
    · rw [if_neg same, Option.or_none]
  · rw [if_neg present, get?_put]
    rw [has_eq_true_iff, ← get?_eq_none_iff] at present
    by_cases same : other = name
    · rw [if_pos same, if_pos same, same, present, Option.none_or]
    · rw [if_neg same, if_neg same, Option.or_none]

/-- Names that share a value get it where they are free. -/
theorem get?_foldl_putIfAbsent (dict : Dict α) (names : List String) (value : α) (other : String) :
    (names.foldl (fun d name => d.putIfAbsent name value) dict).get? other =
      (dict.get? other).or (if other ∈ names then some value else none) := by
  induction names generalizing dict with
  | nil => simp
  | cons name rest ih =>
    rw [List.foldl_cons, ih, get?_putIfAbsent, Option.or_assoc]
    congr 1
    by_cases here : other = name <;> by_cases there : other ∈ rest <;> simp [here, there]

/-! ## Building up -/

theorem putAll_cons (dict : Dict α) (pair : String × α) (pairs : List (String × α)) :
    dict.putAll (pair :: pairs) = (dict.put pair.1 pair.2).putAll pairs := rfl

theorem get?_putAll (dict : Dict α) (pairs : List (String × α)) (name : String) :
    (dict.putAll pairs).get? name = (pairs.reverse.lookup name).or (dict.get? name) := by
  induction pairs generalizing dict with
  | nil => rfl
  | cons pair rest ih =>
    rw [putAll_cons, ih, get?_put, List.reverse_cons, List.lookup_append, Option.or_assoc]
    congr 1
    rw [List.lookup_cons, List.lookup_nil]
    by_cases same : name = pair.1
    · simp [same]
    · have differs : (name == pair.1) = false := by simpa using same
      simp [same, differs]

theorem names_putAll (dict : Dict α) (pairs : List (String × α)) (name : String) :
    name ∈ (dict.putAll pairs).names ↔ name ∈ dict.names ∨ name ∈ pairs.map Prod.fst := by
  induction pairs generalizing dict with
  | nil => simp [putAll]
  | cons pair rest ih => rw [putAll_cons, ih, mem_names_put, List.map_cons, List.mem_cons, or_assoc]

/-- New names stand behind the old ones, in the order in which they were first given. -/
theorem names_putAll_eq (dict : Dict α) (pairs : List (String × α)) :
    (dict.putAll pairs).names =
      dict.names ++ ((pairs.map Prod.fst).removeAll dict.names).eraseDups := by
  induction pairs generalizing dict with
  | nil => simp [putAll, List.removeAll]
  | cons pair rest ih =>
    rw [putAll_cons, ih, names_put, List.map_cons]
    by_cases member : pair.1 ∈ dict.names
    · simp [List.removeAll, member]
    · simp only [List.removeAll, member, if_false, List.filter_cons, List.elem_eq_mem,
        decide_false, Bool.not_false, if_true, List.eraseDups_cons, List.filter_filter,
        List.mem_append, List.append_assoc, List.singleton_append]
      congr 3
      refine List.filter_congr fun name _ => ?_
      by_cases same : name = pair.1 <;> simp [same]

theorem putAll_append (dict : Dict α) (pairs more : List (String × α)) :
    dict.putAll (pairs ++ more) = (dict.putAll pairs).putAll more :=
  List.foldl_append

theorem nodup_names_putAll {dict : Dict α} (once : dict.names.Nodup) (pairs : List (String × α)) :
    (dict.putAll pairs).names.Nodup := by
  induction pairs generalizing dict with
  | nil => exact once
  | cons pair rest ih => exact ih (nodup_names_put once _ _)

/-- What is given with each name once is found before what was there. -/
theorem get?_putAll_of_nodup (dict : Dict α) {pairs : Dict α} (once : pairs.names.Nodup)
    (name : String) : (dict.putAll pairs).get? name = (pairs.get? name).or (dict.get? name) := by
  rw [get?_putAll, get?_of_perm (List.reverse_perm pairs).symm once]
  rfl

theorem putAll_of_nodup {dict : Dict α} {pairs : List (String × α)}
    (once : (dict.names ++ pairs.map Prod.fst).Nodup) : dict.putAll pairs = dict ++ pairs := by
  induction pairs generalizing dict with
  | nil => rw [List.append_nil]; rfl
  | cons pair rest ih =>
    have absent : pair.1 ∉ dict.names := by
      rw [List.map_cons, List.nodup_append] at once
      exact fun member => once.2.2 _ member _ List.mem_cons_self rfl
    have moved : (dict.put pair.1 pair.2).names ++ rest.map Prod.fst =
        dict.names ++ (pair :: rest).map Prod.fst := by
      simp [names_put, absent]
    rw [putAll_cons, ih (moved ▸ once), put_of_not_mem absent, List.append_assoc]
    rfl

/-- What a name means is the last value that it was given. -/
theorem get?_ofPairs (pairs : List (String × α)) (name : String) :
    (ofPairs pairs).get? name = pairs.reverse.lookup name := by
  rw [ofPairs, get?_putAll, get?_nil, Option.or_none]

theorem mem_names_ofPairs {pairs : List (String × α)} {name : String} :
    name ∈ (ofPairs pairs).names ↔ name ∈ pairs.map Prod.fst := by
  rw [ofPairs, names_putAll]
  simp

theorem nodup_names_ofPairs (pairs : List (String × α)) : (ofPairs pairs).names.Nodup := by
  have none : (names ([] : Dict α)).Nodup := List.nodup_nil
  exact nodup_names_putAll none pairs

theorem mem_of_mem_ofPairs {pairs : List (String × α)} {entry : String × α}
    (member : entry ∈ ofPairs pairs) : entry ∈ pairs := by
  have found := (get?_eq_some_iff (nodup_names_ofPairs pairs)).2 member
  rw [get?_ofPairs] at found
  exact List.mem_reverse.1 (mem_of_get? found)

theorem ofPairs_of_nodup {pairs : List (String × α)} (once : (pairs.map Prod.fst).Nodup) :
    ofPairs pairs = pairs :=
  putAll_of_nodup once

/-! ## Items under names of their own -/

section

variable {ι : Type} {items : List ι} {key : ι → String} (value : ι → α)

theorem names_map : names (items.map fun item => (key item, value item)) = items.map key := by
  rw [names, List.map_map]
  rfl

variable (once : (items.map key).Nodup)

include once

theorem get?_map {item : ι} (inside : item ∈ items) :
    get? (items.map fun item => (key item, value item)) (key item) = some (value item) := by
  rw [← names_map value] at once
  rw [get?_eq_some_iff once]
  exact List.mem_map_of_mem (f := fun item => (key item, value item)) inside

theorem ofPairs_map : ofPairs (items.map fun item => (key item, value item)) =
    items.map fun item => (key item, value item) := by
  rw [← names_map value] at once
  exact ofPairs_of_nodup once

end

end SqlPreview.Dict
