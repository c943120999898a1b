import SqlPreview.Proofs.Types.Example

/-!
# Fields along the superclass chain

The lineage of a class is the class, the class that it extends, the class that this one extends and
so on, as far as classes are known, are not the class of all objects and have not come up before.
Inheritance that runs in a circle is cut where the circle closes.

This file defines lineages (`ClassTable.IsLineage`), what it means to list the fields of one
(`ListsFields`), and the loop that visits its classes one by one (`FieldScan`).

Results:
1. `IsLineage.unique`, `isLineage_superclassChain`: a class has one lineage, and it is the chain of
   its superclasses.
2. `listsFields_distinctFields`: keeping the first field of every name lists the fields of a
   lineage.
3. `ends_superclassChain`: the loop ends with these fields, after one round for each class.
4. `fields_follow_lineage`: all of this for the fields of a type.
-/

namespace SqlPreview

/-! ## Tables of classes -/

namespace ClassTable

/-- Every class stands under its own name, and only once. -/
structure ByName (table : ClassTable) : Prop where
  once : table.names.Nodup
  named : ∀ entry ∈ table.classes, entry.2.name = entry.1

theorem classes_ofList (infos : List ClassInfo) :
    (ofList infos).classes = Dict.ofPairs (infos.map fun info => (info.name, info)) := by
  suffices grows : ∀ table : ClassTable, (infos.foldl insert table).classes =
      table.classes.putAll (infos.map fun info => (info.name, info)) from grows empty
  induction infos with
  | nil => exact fun table => rfl
  | cons info rest ih => exact fun table => ih (table.insert info)

theorem byName_ofList (infos : List ClassInfo) : (ofList infos).ByName where
  once := by
    rw [names, classes_ofList]
    exact Dict.nodup_names_ofPairs _
  named := by
    intro entry member
    rw [classes_ofList] at member
    obtain ⟨info, -, rfl⟩ := List.mem_map.1 (Dict.mem_of_mem_ofPairs member)
    rfl

theorem mem_names_ofList {infos : List ClassInfo} {name : String} :
    name ∈ (ofList infos).names ↔ ∃ info ∈ infos, info.name = name := by
  rw [names, classes_ofList, Dict.mem_names_ofPairs, List.map_map]
  exact List.mem_map

theorem ByName.name_of_find? {table : ClassTable} (proper : table.ByName) {name : String}
    {info : ClassInfo} (found : table.find? name = some info) : info.name = name :=
  proper.named _ (Dict.mem_of_get? found)

theorem find?_without (table : ClassTable) (name other : String) :
    (table.without name).find? other = if other = name then none else table.find? other := by
  obtain ⟨classes⟩ := table
  simp only [find?, without]
  induction classes with
  | nil => simp
  | cons entry rest ih =>
    obtain ⟨key, info⟩ := entry
    rw [List.filter_cons, Dict.get?_cons]
    by_cases same : key = name
    · subst same
      by_cases here : other = key
      · simpa [here] using ih
      · simp [ih, here]
    · by_cases here : other = key
      · subst here
        simp [same, Dict.get?_cons]
      · simp [same, Dict.get?_cons, ih, here]

/-! ## Lineages -/

/-- The class that a class extends, unless that is the class of all objects or is not known. -/
def parent? (table : ClassTable) (info : ClassInfo) : Option ClassInfo :=
  (info.superclass.filter fun parent => parent.name != "java.lang.Object").bind fun parent =>
    table.find? parent.name

/-- Where one gets from a class by so many steps to the class above. -/
def above? (table : ClassTable) (start : Option ClassInfo) (steps : Nat) : Option ClassInfo :=
  (fun current => current.bind table.parent?)^[steps] start

/-- The classes from a named one upwards. Behind the last of them comes nothing, or a class that
is among them. -/
structure IsLineage (table : ClassTable) (name : String) (lineage : List ClassInfo) : Prop where
  each : ∀ steps < lineage.length, lineage[steps]? = table.above? (table.find? name) steps
  once : (lineage.map ClassInfo.name).Nodup
  ends : ∀ next, table.above? (table.find? name) lineage.length = some next →
    next.name ∈ lineage.map ClassInfo.name

variable {table : ClassTable} {name : String}

/-- Of two lineages the shorter one would end in the middle of the longer, at a class that the
longer has twice. -/
theorem IsLineage.length_le {first second : List ClassInfo} (one : table.IsLineage name first)
    (other : table.IsLineage name second) : second.length ≤ first.length := by
  by_contra longer
  rw [not_le] at longer
  have there := other.each first.length longer
  rw [List.getElem?_eq_getElem longer] at there
  obtain ⟨info, member, same⟩ := List.mem_map.1 (one.ends _ there.symm)
  obtain ⟨place, short, rfl⟩ := List.getElem_of_mem member
  have early := (one.each place short).trans (other.each place (short.trans longer)).symm
  rw [List.getElem?_eq_getElem short] at early
  have twice : (second.map ClassInfo.name)[place]? = (second.map ClassInfo.name)[first.length]? := by
    rw [List.getElem?_map, List.getElem?_map, ← early, List.getElem?_eq_getElem longer,
      Option.map_some, Option.map_some, same]
  have inside : place < (second.map ClassInfo.name).length := by
    rw [List.length_map]
    exact short.trans longer
  exact short.ne ((List.getElem?_inj inside other.once).1 twice)

theorem IsLineage.unique {first second : List ClassInfo} (one : table.IsLineage name first)
    (other : table.IsLineage name second) : first = second := by
  have size := Nat.le_antisymm (other.length_le one) (one.length_le other)
  refine List.ext_getElem? fun steps => ?_
  by_cases inside : steps < first.length
  · rw [one.each steps inside, other.each steps (size ▸ inside)]
  · rw [List.getElem?_eq_none (not_lt.1 inside), List.getElem?_eq_none (size ▸ not_lt.1 inside)]

end ClassTable

/-! ## The chain of superclasses is the lineage -/

section Chain

variable {table rest : ClassTable} {passed : List String} {name : String}

/-- What is left of a table when some classes have been passed. -/
def ClassTable.LeftBy (table rest : ClassTable) (passed : List String) : Prop :=
  ∀ name, rest.find? name = if name ∈ passed then none else table.find? name

theorem ClassTable.LeftBy.nothing (table : ClassTable) : table.LeftBy table [] := by
  intro name
  rw [if_neg List.not_mem_nil]

theorem ClassTable.LeftBy.without (left : table.LeftBy rest passed) (name : String) :
    table.LeftBy (rest.without name) (name :: passed) := by
  intro other
  rw [ClassTable.find?_without, left other]
  by_cases here : other = name <;> simp [here]

theorem ClassTable.LeftBy.find?_of_some (left : table.LeftBy rest passed) {info : ClassInfo}
    (found : rest.find? name = some info) : name ∉ passed ∧ table.find? name = some info := by
  rw [left name] at found
  split at found
  · cases found
  · next fresh => exact ⟨fresh, found⟩

theorem ClassTable.LeftBy.passed_of_none (left : table.LeftBy rest passed) {info : ClassInfo}
    (absent : rest.find? name = none) (found : table.find? name = some info) : name ∈ passed := by
  by_contra fresh
  rw [left name, if_neg fresh, found] at absent
  cases absent

/-- The chain above a class goes on from the parent, if there is one. -/
theorem chainAbove_cases (table rest : ClassTable) (info : ClassInfo) :
    chainAbove rest info = [] ∧ table.parent? info = none ∨
      ∃ parent, chainAbove rest info = superclassChain rest parent ∧
        table.parent? info = table.find? parent := by
  unfold chainAbove ClassTable.parent?
  cases info.superclass with
  | none => exact .inl ⟨rfl, rfl⟩
  | some parent =>
    by_cases object : parent.name = "java.lang.Object"
    · exact .inl (by simp [object])
    · exact .inr ⟨parent.name, by simp [object], by simp [Option.filter, object]⟩

/-- What the chain of a table from which some classes have been taken is for the whole table. -/
structure GoesUp (table : ClassTable) (passed : List String) (start : Option ClassInfo)
    (chain : List ClassInfo) : Prop where
  each : ∀ steps < chain.length, chain[steps]? = table.above? start steps
  once : (chain.map ClassInfo.name).Nodup
  fresh : ∀ info ∈ chain, info.name ∉ passed
  ends : ∀ next, table.above? start chain.length = some next →
    next.name ∈ passed ∨ next.name ∈ chain.map ClassInfo.name

theorem goesUp_nil {start : Option ClassInfo}
    (ends : ∀ next, start = some next → next.name ∈ passed) : GoesUp table passed start [] where
  each steps inside := absurd inside (Nat.not_lt_zero steps)
  once := List.nodup_nil
  fresh _ member := absurd member List.not_mem_nil
  ends next found := .inl (ends next found)

theorem GoesUp.cons {info : ClassInfo} {chain : List ClassInfo} (fresh : info.name ∉ passed)
    (up : GoesUp table (info.name :: passed) (table.parent? info) chain) :
    GoesUp table passed (some info) (info :: chain) where
  each := by
    intro steps inside
    cases steps with
    | zero => rfl
    | succ steps => exact up.each steps (Nat.lt_of_succ_lt_succ inside)
  once := by
    refine List.nodup_cons.2 ⟨fun again => ?_, up.once⟩
    obtain ⟨other, member, same⟩ := List.mem_map.1 again
    exact up.fresh other member (same ▸ List.mem_cons_self)
  fresh := by
    intro other member
    rcases List.mem_cons.1 member with rfl | above
    · exact fresh
    · exact fun known => up.fresh other above (List.mem_cons_of_mem _ known)
  ends := by
    intro next found
    rcases up.ends next found with known | above
    · rcases List.mem_cons.1 known with same | known
      · exact .inr (same ▸ List.mem_cons_self)
      · exact .inl known
    · exact .inr (List.mem_cons_of_mem _ above)

/-- The induction is on the number of classes that are left. -/
theorem goesUp_superclassChain (proper : table.ByName) (left : table.LeftBy rest passed) :
    GoesUp table passed (table.find? name) (superclassChain rest name) := by
  induction size : rest.size using Nat.strongRecOn generalizing rest passed name with
  | ind bound ih =>
    cases found : rest.find? name with
    | none =>
      rw [superclassChain_of_none found]
      refine goesUp_nil fun next known => ?_
      rw [proper.name_of_find? known]
      exact left.passed_of_none found known
    | some info =>
      obtain ⟨fresh, known⟩ := left.find?_of_some found
      have same := proper.name_of_find? known
      rw [superclassChain_of_some found, known]
      refine GoesUp.cons (same ▸ fresh) ?_
      rw [same]
      rcases chainAbove_cases table (rest.without name) info with ⟨stops, top⟩ | ⟨parent, on, up⟩
      · rw [stops, top]
        exact goesUp_nil fun next => nofun
      · rw [on, up]
        exact ih _ (size ▸ ClassTable.size_without_lt found) (left.without name) rfl

theorem ClassTable.isLineage_superclassChain (proper : table.ByName) (name : String) :
    table.IsLineage name (superclassChain table name) := by
  have up : GoesUp table [] (table.find? name) (superclassChain table name) :=
    goesUp_superclassChain proper (LeftBy.nothing table)
  exact
    { each := up.each
      once := up.once
      ends := fun next found => (up.ends next found).resolve_left List.not_mem_nil }

theorem length_superclassChain_le (table : ClassTable) (name : String) :
    (superclassChain table name).length ≤ table.size := by
  induction size : table.size using Nat.strongRecOn generalizing table name with
  | ind bound ih =>
    cases found : table.find? name with
    | none =>
      rw [superclassChain_of_none found]
      exact Nat.zero_le _
    | some info =>
      have fewer := ClassTable.size_without_lt found
      rw [superclassChain_of_some found, List.length_cons]
      rcases chainAbove_cases table (table.without name) info with ⟨stops, -⟩ | ⟨parent, on, -⟩
      · rw [stops, List.length_nil]
        omega
      · have := ih _ (size ▸ fewer) (table.without name) parent rfl
        rw [on]
        omega

end Chain

/-! ## The fields of a lineage -/

/-- The first field of its name in a lineage: the distance of its class, and its place among the
fields of that class. -/
structure IsFirst (lineage : List ClassInfo) (field : Field) (place : Nat × Nat) : Prop where
  here : ∃ info, lineage[place.1]? = some info ∧ info.fields[place.2]? = some field ∧
    field.isInstance = true
  nearest : ∀ distance < place.1, ∀ info, lineage[distance]? = some info →
    ∀ other ∈ info.fields, other.isInstance = true → other.name ≠ field.name
  first : ∀ info, lineage[place.1]? = some info → ∀ index < place.2, ∀ other,
    info.fields[index]? = some other → other.isInstance = true → other.name ≠ field.name

/-- Fields are those of a lineage: the names of its instance fields, each once, with the first field
of the name in the nearest class, and in the order of distance and declaration. -/
structure ListsFields (lineage : List ClassInfo) (known : List Field) : Prop where
  once : (known.map Field.name).Nodup
  names : ∀ name, name ∈ known.map Field.name ↔
    ∃ info ∈ lineage, ∃ field ∈ info.fields, field.isInstance = true ∧ field.name = name
  ordered : ∃ places : List (Nat × Nat),
    places.Pairwise (Prod.Lex (· < ·) (· < ·)) ∧ List.Forall₂ (IsFirst lineage) known places

/-- Fields with new ones behind them, unless one of the name is there. -/
def addFields (known fields : List Field) : List Field :=
  fields.foldl (fun kept field =>
    if kept.any (fun known => known.name == field.name) then kept else kept ++ [field]) known

theorem distinctFields_eq_addFields (fields : List Field) :
    distinctFields fields = addFields [] fields := by
  suffices grows : ∀ kept : List Field,
      (fields.foldl (fun kept field =>
        if kept.any (fun known => known.name == field.name) then kept else field :: kept)
        kept).reverse = addFields kept.reverse fields from grows []
  induction fields with
  | nil => exact fun kept => rfl
  | cons field rest ih =>
    intro kept
    rw [List.foldl_cons, ih, addFields, addFields, List.foldl_cons, List.any_reverse]
    split <;> simp

theorem addFields_append (known fields more : List Field) :
    addFields known (fields ++ more) = addFields (addFields known fields) more :=
  List.foldl_append

/-- What is added is what the new fields list by themselves, without the names that are there. -/
theorem addFields_eq (known fields : List Field) : addFields known fields =
    known ++ (addFields [] fields).filter fun field =>
      !known.any fun other => other.name == field.name := by
  induction fields generalizing known with
  | nil => simp [addFields]
  | cons field rest ih =>
    have step (kept : List Field) : addFields kept (field :: rest) = addFields
        (if kept.any (fun known => known.name == field.name) then kept else kept ++ [field]) rest :=
      rfl
    rw [step, step, List.any_nil, if_neg Bool.false_ne_true, List.nil_append, ih [field],
      List.filter_append, List.filter_filter]
    by_cases old : known.any (fun known => known.name == field.name) = true
    · rw [if_pos old, ih known]
      congr 1
      simp only [List.filter_cons, old, Bool.not_true, Bool.false_eq_true, if_false,
        List.filter_nil, List.nil_append]
      refine List.filter_congr fun other _ => ?_
      by_cases same : field.name = other.name
      · simp [← same, old]
      · simp [same]
    · rw [if_neg old, ih (known ++ [field])]
      simp only [List.filter_cons, old, List.filter_nil, List.append_assoc]
      simp [List.any_append, Bool.and_comm]

theorem distinctFields_cons (field : Field) (rest : List Field) : distinctFields (field :: rest) =
    field :: (distinctFields rest).filter fun other => other.name != field.name := by
  have step : addFields [] (field :: rest) = addFields [field] rest := rfl
  rw [distinctFields_eq_addFields, distinctFields_eq_addFields, step, addFields_eq [field],
    List.singleton_append]
  congr 1
  refine List.filter_congr fun other _ => ?_
  rw [List.any_cons, List.any_nil, Bool.or_false, bne, Bool.beq_comm]

theorem mem_names_distinctFields {fields : List Field} {name : String} :
    name ∈ (distinctFields fields).map Field.name ↔ name ∈ fields.map Field.name := by
  induction fields with
  | nil => rfl
  | cons field rest ih =>
    rw [distinctFields_cons, List.map_cons, List.map_cons, List.mem_cons, List.mem_cons, ← ih]
    by_cases same : name = field.name
    · simp [same]
    · simp only [same, false_or, List.mem_map, List.mem_filter, bne_iff_ne]
      constructor
      · rintro ⟨other, ⟨member, -⟩, rfl⟩
        exact ⟨other, member, rfl⟩
      · rintro ⟨other, member, rfl⟩
        exact ⟨other, ⟨member, same⟩, rfl⟩

/-- The instance fields of a lineage with their places. -/
def placedFields (lineage : List ClassInfo) : List (Field × (Nat × Nat)) :=
  lineage.zipIdx.flatMap fun (info, distance) =>
    (info.fields.zipIdx.filter fun entry => entry.1.isInstance).map fun (field, index) =>
      (field, (distance, index))

theorem mem_placedFields {lineage : List ClassInfo} {field : Field} {place : Nat × Nat} :
    (field, place) ∈ placedFields lineage ↔
      ∃ info, lineage[place.1]? = some info ∧ info.fields[place.2]? = some field ∧
        field.isInstance = true := by
  obtain ⟨distance, index⟩ := place
  simp only [placedFields, List.mem_flatMap, List.mem_map, List.mem_filter, Prod.exists,
    List.mem_zipIdx_iff_getElem?, Prod.mk.injEq]
  constructor
  · rintro ⟨info, _, found, _, _, ⟨listed, own⟩, rfl, rfl, rfl⟩
    exact ⟨info, found, listed, own⟩
  · rintro ⟨info, found, listed, own⟩
    exact ⟨info, distance, found, field, index, ⟨listed, own⟩, rfl, rfl, rfl⟩

theorem map_placedFields (lineage : List ClassInfo) : (placedFields lineage).map Prod.fst =
    lineage.flatMap fun info => info.fields.filter Field.isInstance := by
  have own (fields : List Field) (place : Nat → Nat × Nat) :
      ((fields.zipIdx.filter fun entry => entry.1.isInstance).map fun entry =>
        (entry.1, place entry.2)).map Prod.fst = fields.filter Field.isInstance := by
    conv_rhs => rw [← List.zipIdx_map_fst 0 fields, List.filter_map]
    rw [List.map_map]
    rfl
  have row : lineage = lineage.zipIdx.map Prod.fst := (List.zipIdx_map_fst 0 lineage).symm
  conv_rhs => rw [row, List.flatMap_map]
  rw [placedFields, List.map_flatMap]
  exact List.flatMap_congr fun entry _ => own entry.1.fields fun index => (entry.2, index)

/-- Places are met from the nearest class upwards, and within a class as its fields are declared. -/
theorem pairwise_placedFields (lineage : List ClassInfo) :
    (placedFields lineage).Pairwise fun one other =>
      Prod.Lex (· < ·) (· < ·) one.2 other.2 := by
  have rising {α : Type} (row : List α) : row.zipIdx.Pairwise fun one other => one.2 < other.2 := by
    rw [← List.pairwise_map (f := Prod.snd), List.zipIdx_map_snd]
    exact List.pairwise_lt_range'
  refine List.pairwise_flatMap.2 ⟨fun entry _ => ?_, (rising lineage).imp fun before => ?_⟩
  · refine List.pairwise_map.2 (((rising entry.1.fields).sublist List.filter_sublist).imp ?_)
    exact fun before => .right _ before
  · rintro one here other there
    obtain ⟨_, -, rfl⟩ := List.mem_map.1 here
    obtain ⟨_, -, rfl⟩ := List.mem_map.1 there
    exact .left _ _ before

/-- The first entry of every name. -/
def firstOfEach : List (Field × (Nat × Nat)) → List (Field × (Nat × Nat))
  | [] => []
  | entry :: rest => entry :: (firstOfEach rest).filter fun other => other.1.name != entry.1.name

theorem map_firstOfEach (entries : List (Field × (Nat × Nat))) :
    (firstOfEach entries).map Prod.fst = distinctFields (entries.map Prod.fst) := by
  induction entries with
  | nil => rfl
  | cons entry rest ih =>
    rw [firstOfEach, List.map_cons, List.map_cons, distinctFields_cons, ← ih, List.filter_map]
    rfl

theorem firstOfEach_sublist (entries : List (Field × (Nat × Nat))) :
    (firstOfEach entries).Sublist entries := by
  induction entries with
  | nil => exact .slnil
  | cons entry rest ih => exact (List.filter_sublist.trans ih).cons_cons entry

theorem exists_of_mem_firstOfEach {entries : List (Field × (Nat × Nat))}
    {entry : Field × (Nat × Nat)} (member : entry ∈ firstOfEach entries) :
    ∃ before after, entries = before ++ entry :: after ∧
      ∀ earlier ∈ before, earlier.1.name ≠ entry.1.name := by
  induction entries with
  | nil => cases member
  | cons first rest ih =>
    rcases List.mem_cons.1 member with rfl | later
    · exact ⟨[], rest, rfl, fun _ => nofun⟩
    · obtain ⟨inside, differs⟩ := List.mem_filter.1 later
      obtain ⟨before, after, rfl, apart⟩ := ih inside
      refine ⟨first :: before, after, rfl, List.forall_mem_cons.2 ⟨?_, apart⟩⟩
      exact (bne_iff_ne.1 differs).symm

/-- Of the fields with places in a lineage the first of a name comes before all others. -/
theorem isFirst_of_mem {lineage : List ClassInfo} {field : Field} {place : Nat × Nat}
    (member : (field, place) ∈ firstOfEach (placedFields lineage)) :
    IsFirst lineage field place := by
  obtain ⟨before, after, split, apart⟩ := exists_of_mem_firstOfEach member
  have earlier (other : Field) (place' : Nat × Nat) (less : Prod.Lex (· < ·) (· < ·) place' place)
      (listed : (other, place') ∈ placedFields lineage) : other.name ≠ field.name := by
    have sorted := pairwise_placedFields lineage
    rw [split] at sorted listed
    rcases List.mem_append.1 listed with here | late
    · exact apart _ here
    · have behind := (List.pairwise_append.1 sorted).2.1
      rcases List.mem_cons.1 late with same | later
      · cases same
        exact absurd less (irrefl _)
      · exact absurd less (asymm ((List.pairwise_cons.1 behind).1 _ later))
  exact
    { here := mem_placedFields.1 ((firstOfEach_sublist _).subset member)
      nearest := by
        intro distance near info found other inside own
        obtain ⟨index, listed⟩ := List.mem_iff_getElem?.1 inside
        exact earlier other (distance, index) (.left _ _ near)
          (mem_placedFields.2 ⟨info, found, listed, own⟩)
      first := by
        intro info found index early other listed own
        exact earlier other (place.1, index) (.right _ early)
          (mem_placedFields.2 ⟨info, found, listed, own⟩) }

theorem listsFields_distinctFields (lineage : List ClassInfo) : ListsFields lineage
    (distinctFields (lineage.flatMap fun info => info.fields.filter Field.isInstance)) where
  once := nodup_distinctFields _
  names := by
    intro name
    rw [mem_names_distinctFields]
    simp only [List.mem_map, List.mem_flatMap, List.mem_filter]
    constructor
    · rintro ⟨field, ⟨info, member, declared, own⟩, rfl⟩
      exact ⟨info, member, field, declared, own, rfl⟩
    · rintro ⟨info, member, field, declared, own, rfl⟩
      exact ⟨field, ⟨info, member, declared, own⟩, rfl⟩
  ordered := by
    refine ⟨(firstOfEach (placedFields lineage)).map Prod.snd, ?_, ?_⟩
    · exact List.pairwise_map.2 ((pairwise_placedFields lineage).sublist (firstOfEach_sublist _))
    · rw [← map_placedFields, ← map_firstOfEach, List.forall₂_map_left_iff,
        List.forall₂_map_right_iff, List.forall₂_same]
      exact fun entry member => isFirst_of_mem member

/-! ## The loop over the classes of a lineage -/

/-- Where the loop stands: the fields that it has, the classes that it has passed, and the class
that comes next. -/
structure FieldScan where
  known : List Field
  passed : List String
  current : Option ClassInfo

namespace FieldScan

/-- The loop when it begins with a class. -/
def start (table : ClassTable) (name : String) : FieldScan := ⟨[], [], table.find? name⟩

/-- One round of the loop. It stops where no class comes next, and at a class that it has passed. -/
def round? (table : ClassTable) (scan : FieldScan) : Option FieldScan :=
  match scan.current with
  | none => none
  | some info =>
    if info.name ∈ scan.passed then none
    else some
      { known := addFields scan.known (info.fields.filter Field.isInstance)
        passed := info.name :: scan.passed
        current := table.parent? info }

/-- The loop stops after so many rounds, and these are the fields that it has then. -/
inductive Ends (table : ClassTable) : FieldScan → Nat → List Field → Prop
  | stop {scan : FieldScan} : scan.round? table = none → Ends table scan 0 scan.known
  | round {scan next : FieldScan} {rounds : Nat} {known : List Field} :
      scan.round? table = some next → Ends table next rounds known →
        Ends table scan (rounds + 1) known

theorem round?_fresh {table : ClassTable} {known : List Field} {passed : List String}
    {info : ClassInfo} (fresh : info.name ∉ passed) :
    round? table ⟨known, passed, some info⟩ =
      some ⟨addFields known (info.fields.filter Field.isInstance), info.name :: passed,
        table.parent? info⟩ :=
  if_neg fresh

/-- The loop visits the classes of the chain, one in a round. -/
theorem ends_superclassChain {table rest : ClassTable} {passed : List String} {name : String}
    (proper : table.ByName) (left : table.LeftBy rest passed) (known : List Field) :
    Ends table ⟨known, passed, table.find? name⟩ (superclassChain rest name).length
      (addFields known
        ((superclassChain rest name).flatMap fun info => info.fields.filter Field.isInstance)) := by
  induction size : rest.size using Nat.strongRecOn generalizing rest passed name known with
  | ind bound ih =>
    cases found : rest.find? name with
    | none =>
      rw [superclassChain_of_none found]
      refine .stop ?_
      cases known : table.find? name with
      | none => rfl
      | some info =>
        have old := left.passed_of_none found known
        rw [← proper.name_of_find? known] at old
        exact if_pos old
    | some info =>
      obtain ⟨fresh, known⟩ := left.find?_of_some found
      have same := proper.name_of_find? known
      rw [superclassChain_of_some found, known, List.flatMap_cons, addFields_append]
      refine .round (round?_fresh (same ▸ fresh)) ?_
      rw [same]
      rcases chainAbove_cases table (rest.without name) info with ⟨stops, top⟩ | ⟨parent, on, up⟩
      · rw [stops, top]
        exact .stop rfl
      · rw [on, up]
        exact ih _ (size ▸ ClassTable.size_without_lt found) (left.without name) _ rfl

end FieldScan

/-! ## The fields of a type -/

/-- Whatever the classes of a table extend, also one another in a circle: a type has no fields
exactly if no class has its name; otherwise the loop over its superclasses stops, after at most one
round for each class, and what it has then are the fields of the one lineage of the type. -/
theorem ClassTable.fields_follow_lineage (infos : List ClassInfo) (type : TypeRef) :
    ((ofList infos).fields? type.name = none ↔ ∀ info ∈ infos, info.name ≠ type.name) ∧
      ∀ known, (ofList infos).fields? type.name = some known →
        (∃ rounds ≤ (ofList infos).size,
          FieldScan.Ends (ofList infos) (.start (ofList infos) type.name) rounds known) ∧
        ∃ lineage, (∀ other, (ofList infos).IsLineage type.name other ↔ other = lineage) ∧
          ListsFields lineage known := by
  have proper := byName_ofList infos
  have chain := isLineage_superclassChain proper type.name
  constructor
  · rw [← Option.not_isSome_iff_eq_none, isSome_fields?, mem_names_ofList]
    push Not
    rfl
  · intro known listed
    have resolved : known = distinctFields ((superclassChain (ofList infos) type.name).flatMap
        fun info => info.fields.filter Field.isInstance) := by
      unfold fields? at listed
      split at listed
      · cases listed
      · exact (Option.some.inj listed).symm
    refine ⟨⟨_, length_superclassChain_le _ type.name, ?_⟩,
      superclassChain (ofList infos) type.name, fun other => ?_, ?_⟩
    · rw [resolved, distinctFields_eq_addFields]
      exact FieldScan.ends_superclassChain proper (LeftBy.nothing _) []
    · exact ⟨fun lineage => lineage.unique chain, fun same => same ▸ chain⟩
    · rw [resolved]
      exact listsFields_distinctFields _

-- Two classes that extend one another.
example :
    ((ClassTable.ofList
      [⟨"A", .ordinary, some (.named "B"),
          [⟨"x", .named "int", false, false⟩, ⟨"y", .named "int", true, false⟩], []⟩,
        ⟨"B", .ordinary, some (.named "A"),
          [⟨"y", .named "long", false, false⟩, ⟨"x", .named "long", false, false⟩],
          []⟩]).fields? "A").map (·.map Field.name) = some ["x", "y"] := by
  cbv

end SqlPreview
