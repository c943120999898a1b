import SqlPreview.Proofs.Types.Lineage

/-!
# A walker that remembers what it is expanding

Examples can also be made by a walker that keeps a set of names: a composite type enters the set
before its fields are expanded and leaves it afterwards, and a type that is in the set when it comes
up again is not expanded. One walker answers any number of calls.

This file defines the runs of such a walker (`Walks`, `Serves`) and the places inside an answer
(`Occurs`).

Results:
1. `walks_iff`: every run ends, with one answer, and with the set as it was before.
2. `serves_iff`: a walker that has served other calls answers like a fresh one.
3. `Occurs.answer_eq`: what stands at a place of an answer depends only on the types around it.
4. `walker_reusable`: all of this for the tables that classes make up, with what follows for a type
   inside its own expansion and for fields of one type.
-/

namespace SqlPreview

/-! ## Runs -/

/-- What a walker does: an example of a type, an example of a type taken as a composite, or the
members of an object that has some already. -/
inductive Job where
  | exampleOf (type : TypeRef)
  | beanExample (type : TypeRef)
  | members (made : Dict Json) (fields : List Field)

/-- A job done from one set of names to another. -/
inductive Walks (table : ClassTable) : Finset String → Job → Json → Finset String → Prop
  | scalar {visiting : Finset String} {type : TypeRef} {kind : ScalarKind} :
      type.category table = .scalar kind →
      Walks table visiting (.exampleOf type) (scalarExample kind (table.find? type.name)) visiting
  | items {visiting visiting' : Finset String} {type element : TypeRef} {kind : Sequence}
      {inner : Json} :
      (type.category table).sequence? = some kind → type.element? = some element →
      Walks table visiting (.exampleOf element) inner visiting' →
      Walks table visiting (.exampleOf type) (.array [inner]) visiting'
  | anyItems {visiting : Finset String} {type : TypeRef} {kind : Sequence} :
      (type.category table).sequence? = some kind → type.element? = none →
      Walks table visiting (.exampleOf type) (.array [.string "element"]) visiting
  | map {visiting visiting' : Finset String} {type value : TypeRef} {inner : Json} :
      type.category table = .map → type.mapValue? = some value →
      Walks table visiting (.exampleOf value) inner visiting' →
      Walks table visiting (.exampleOf type)
        (.object [(exampleKey (type.mapKey?.map (·.category table)), inner)]) visiting'
  | anyMap {visiting : Finset String} {type : TypeRef} :
      type.category table = .map → type.mapValue? = none →
      Walks table visiting (.exampleOf type) (.object [("key", .string "value")]) visiting
  | composite {visiting visiting' : Finset String} {type : TypeRef} {json : Json} :
      type.category table = .composite → Walks table visiting (.beanExample type) json visiting' →
      Walks table visiting (.exampleOf type) json visiting'
  | again {visiting : Finset String} {type : TypeRef} :
      type.name ∈ visiting → Walks table visiting (.beanExample type) (.object []) visiting
  | expand {visiting visiting' : Finset String} {type : TypeRef} {known : List Field}
      {json : Json} :
      type.name ∉ visiting → table.fields? type.name = some known →
      Walks table (insert type.name visiting) (.members [] known) json visiting' →
      Walks table visiting (.beanExample type) json (visiting'.erase type.name)
  | unknown {visiting : Finset String} {type : TypeRef} :
      type.name ∉ visiting → table.fields? type.name = none →
      Walks table visiting (.beanExample type) (.object [])
        ((insert type.name visiting).erase type.name)
  | made {visiting : Finset String} {made : Dict Json} :
      Walks table visiting (.members made []) (.object made) visiting
  | member {visiting visiting' visiting'' : Finset String} {made : Dict Json} {field : Field}
      {rest : List Field} {inner json : Json} :
      Walks table visiting (.exampleOf field.type) inner visiting' →
      Walks table visiting' (.members (made.put field.name inner) rest) json visiting'' →
      Walks table visiting (.members made (field :: rest)) json visiting''

/-- A call that a walker serves. -/
inductive Call where
  | exampleOf (type : TypeRef)
  | beanExample (type : TypeRef)

def Call.job : Call → Job
  | .exampleOf type => .exampleOf type
  | .beanExample type => .beanExample type

/-- The answer that the examples of a table give to a call. -/
def ClassTable.answer (table : ClassTable) : Call → Json
  | .exampleOf type => table.exampleOf type
  | .beanExample type => .object (table.beanExample type)

/-- One walker serves calls in a row, each with the set that the one before has left. -/
inductive Serves (table : ClassTable) :
    Finset String → List Call → List Json → Finset String → Prop
  | nil {visiting : Finset String} : Serves table visiting [] [] visiting
  | cons {visiting visiting' visiting'' : Finset String} {call : Call} {calls : List Call}
      {json : Json} {answers : List Json} :
      Walks table visiting call.job json visiting' →
      Serves table visiting' calls answers visiting'' →
      Serves table visiting (call :: calls) (json :: answers) visiting''

/-! ## What a run answers -/

/-- The classes that may still be expanded. -/
def ClassTable.unopened (table : ClassTable) (visiting : Finset String) : List String :=
  table.names.filter (· ∉ visiting)

/-- The members of the example of a composite type. -/
def membersIn (table : ClassTable) (visiting : Finset String) (name : String) : Dict Json :=
  if name ∈ table.unopened visiting then
    ((table.fields? name).getD []).map fun field =>
      (field.name, exampleIn table ((table.unopened visiting).erase name) field.type)
  else []

/-- The answer of a walker that is visiting some types. -/
def answerIn (table : ClassTable) (visiting : Finset String) : Job → Json
  | .exampleOf type => exampleIn table (table.unopened visiting) type
  | .beanExample type => .object (membersIn table visiting type.name)
  | .members made fields => .object (made.putAll (fields.map fun field =>
      (field.name, exampleIn table (table.unopened visiting) field.type)))

section

variable {table : ClassTable} {visiting : Finset String}

theorem ClassTable.unopened_empty (table : ClassTable) : table.unopened ∅ = table.names := by
  simp [unopened]

theorem ClassTable.mem_unopened {name : String} :
    name ∈ table.unopened visiting ↔ name ∈ table.names ∧ name ∉ visiting := by
  simp [unopened]

theorem unopened_erase (proper : table.ByName) (name : String) :
    (table.unopened visiting).erase name = table.unopened (insert name visiting) := by
  rw [ClassTable.unopened, (proper.once.filter _).erase_eq_filter, List.filter_filter,
    ClassTable.unopened]
  refine List.filter_congr fun other _ => ?_
  by_cases same : other = name <;> simp [same]

theorem answer_eq_answerIn (table : ClassTable) (call : Call) :
    table.answer call = answerIn table ∅ call.job := by
  cases call with
  | exampleOf type =>
    rw [Call.job, answerIn, ClassTable.unopened_empty]
    rfl
  | beanExample type =>
    rw [Call.job, answerIn, membersIn, ClassTable.unopened_empty]
    rfl

theorem exampleIn_eq_bean {type : TypeRef} (composite : type.category table = .composite) :
    answerIn table visiting (.exampleOf type) = answerIn table visiting (.beanExample type) :=
  exampleIn_composite composite

theorem membersIn_of_visiting {name : String} (present : name ∈ visiting) :
    membersIn table visiting name = [] :=
  if_neg fun member => (ClassTable.mem_unopened.1 member).2 present

theorem membersIn_of_unknown {name : String} (unknown : table.fields? name = none) :
    membersIn table visiting name = [] := by
  refine if_neg fun member => ?_
  have known := (isSome_fields? table name).2 (ClassTable.mem_unopened.1 member).1
  rw [unknown] at known
  cases known

theorem membersIn_of_known (proper : table.ByName) {name : String} {known : List Field}
    (resolved : table.fields? name = some known) (fresh : name ∉ visiting) :
    membersIn table visiting name = known.map fun field =>
      (field.name, exampleIn table (table.unopened (insert name visiting)) field.type) := by
  have listed : name ∈ table.names := (isSome_fields? table name).1 (by rw [resolved]; rfl)
  rw [membersIn, if_pos (ClassTable.mem_unopened.2 ⟨listed, fresh⟩), unopened_erase proper,
    resolved, Option.getD_some]

theorem answerIn_members (proper : table.ByName) {name : String} {known : List Field}
    (resolved : table.fields? name = some known) (fresh : name ∉ visiting) :
    answerIn table (insert name visiting) (.members [] known) =
      .object (membersIn table visiting name) := by
  rw [membersIn_of_known proper resolved fresh]
  exact congrArg Json.object (Dict.ofPairs_map _ (nodup_of_fields? resolved))

/-- A run that ends has left the set as it was. -/
theorem Walks.answer_eq (proper : table.ByName) {visiting visiting' : Finset String} {job : Job}
    {json : Json} (run : Walks table visiting job json visiting') :
    json = answerIn table visiting job ∧ visiting' = visiting := by
  induction run with
  | scalar category => exact ⟨(exampleIn_scalar category).symm, rfl⟩
  | items category found _ ih =>
    obtain ⟨rfl, rfl⟩ := ih
    refine ⟨?_, rfl⟩
    rw [answerIn, answerIn, exampleIn_items category, found]
    rfl
  | anyItems category none =>
    refine ⟨?_, rfl⟩
    rw [answerIn, exampleIn_items category, none]
    rfl
  | map category found _ ih =>
    obtain ⟨rfl, rfl⟩ := ih
    refine ⟨?_, rfl⟩
    rw [answerIn, answerIn, exampleIn_map category, found]
  | anyMap category none =>
    refine ⟨?_, rfl⟩
    rw [answerIn, exampleIn_map category, none]
  | composite category _ ih =>
    rw [exampleIn_eq_bean category]
    exact ih
  | again present =>
    rw [answerIn, membersIn_of_visiting present]
    exact ⟨rfl, rfl⟩
  | expand fresh resolved _ ih =>
    obtain ⟨rfl, rfl⟩ := ih
    exact ⟨answerIn_members proper resolved fresh, Finset.erase_insert fresh⟩
  | unknown fresh resolved =>
    rw [answerIn, membersIn_of_unknown resolved]
    exact ⟨rfl, Finset.erase_insert fresh⟩
  | made => exact ⟨rfl, rfl⟩
  | member _ _ inner rest =>
    obtain ⟨rfl, rfl⟩ := inner
    exact rest

/-- The members of an object, when every field has been walked. -/
theorem walks_members {fields : List Field}
    (each : ∀ field ∈ fields, Walks table visiting (.exampleOf field.type)
      (answerIn table visiting (.exampleOf field.type)) visiting) (made : Dict Json) :
    Walks table visiting (.members made fields) (answerIn table visiting (.members made fields))
      visiting := by
  induction fields generalizing made with
  | nil => exact .made
  | cons field rest ih =>
    obtain ⟨first, others⟩ := List.forall_mem_cons.1 each
    exact .member first (ih others _)

theorem walks_bean (proper : table.ByName) {type : TypeRef}
    (each : type.name ∈ table.unopened visiting → ∀ field : Field,
      Walks table (insert type.name visiting) (.exampleOf field.type)
        (answerIn table (insert type.name visiting) (.exampleOf field.type))
        (insert type.name visiting)) :
    Walks table visiting (.beanExample type) (answerIn table visiting (.beanExample type))
      visiting := by
  by_cases present : type.name ∈ visiting
  · rw [answerIn, membersIn_of_visiting present]
    exact .again present
  · have restored := Finset.erase_insert present
    cases resolved : table.fields? type.name with
    | none =>
      have run : Walks table visiting (.beanExample type) _ _ := .unknown present resolved
      rw [answerIn, membersIn_of_unknown resolved]
      rwa [restored] at run
    | some known =>
      have listed : type.name ∈ table.names :=
        (isSome_fields? table type.name).1 (by rw [resolved]; rfl)
      have opens := each (ClassTable.mem_unopened.2 ⟨listed, present⟩)
      have run := Walks.expand present resolved (walks_members (fun field _ => opens field) [])
      rw [answerIn_members proper resolved present, restored] at run
      exact run

/-- Every run ends: the induction is along the expansion of the type, where every class that is
entered leaves fewer that can be. -/
theorem walks_example (proper : table.ByName) (visiting : Finset String) (type : TypeRef) :
    Walks table visiting (.exampleOf type) (answerIn table visiting (.exampleOf type))
      visiting := by
  suffices along : ∀ unopened type, ∀ visiting, table.unopened visiting = unopened →
      Walks table visiting (.exampleOf type) (answerIn table visiting (.exampleOf type))
        visiting from along _ type visiting rfl
  intro unopened type
  induction unopened, type using example_induction table with
  | scalar unopened type kind category =>
    rintro visiting -
    rw [answerIn, exampleIn_scalar category]
    exact .scalar category
  | items unopened type kind category ih =>
    intro visiting same
    rw [answerIn, exampleIn_items category]
    cases found : type.element? with
    | none => exact .anyItems category found
    | some element => exact .items category found (ih element found visiting same)
  | map unopened type category ih =>
    intro visiting same
    rw [answerIn, exampleIn_map category]
    cases found : type.mapValue? with
    | none => exact .anyMap category found
    | some value => exact .map category found (ih value found visiting same)
  | composite unopened type category ih =>
    rintro visiting rfl
    rw [exampleIn_eq_bean category]
    refine .composite category (walks_bean proper fun opens field => ?_)
    exact ih opens field _ (unopened_erase proper type.name).symm

theorem walks_iff (proper : table.ByName) {visiting visiting' : Finset String} {job : Job}
    {json : Json} : Walks table visiting job json visiting' ↔
      json = answerIn table visiting job ∧ visiting' = visiting := by
  constructor
  · exact Walks.answer_eq proper
  · rintro ⟨rfl, rfl⟩
    cases job with
    | exampleOf type => exact walks_example proper visiting' type
    | beanExample type => exact walks_bean proper fun _ field => walks_example proper _ field.type
    | members made fields =>
      exact walks_members (fun field _ => walks_example proper visiting' field.type) made

theorem serves_iff (proper : table.ByName) {calls : List Call} {answers : List Json}
    {visiting : Finset String} :
    Serves table ∅ calls answers visiting ↔ answers = calls.map table.answer ∧ visiting = ∅ := by
  induction calls generalizing answers with
  | nil =>
    constructor
    · rintro ⟨⟩
      exact ⟨rfl, rfl⟩
    · rintro ⟨rfl, rfl⟩
      exact .nil
  | cons call calls ih =>
    constructor
    · intro run
      cases run with
      | cons first others =>
        obtain ⟨rfl, rfl⟩ := first.answer_eq proper
        obtain ⟨rfl, rfl⟩ := ih.1 others
        exact ⟨by rw [List.map_cons, answer_eq_answerIn], rfl⟩
    · rintro ⟨rfl, rfl⟩
      exact .cons ((walks_iff proper).2 ⟨answer_eq_answerIn table call, rfl⟩) (ih.2 ⟨rfl, rfl⟩)

end

/-! ## Places in an answer -/

/-- What stands in the answer to a call, and for which job it is the answer. The path names the
types whose expansion one has gone into, the innermost first. -/
inductive Occurs (table : ClassTable) (call : Call) : List String → Job → Json → Prop
  | whole : Occurs table call [] call.job (table.answer call)
  | element {path : List String} {type element : TypeRef} {kind : Sequence} {inner : Json} :
      Occurs table call path (.exampleOf type) (.array [inner]) →
      (type.category table).sequence? = some kind → type.element? = some element →
      Occurs table call path (.exampleOf element) inner
  | value {path : List String} {type value : TypeRef} {key : String} {inner : Json} :
      Occurs table call path (.exampleOf type) (.object [(key, inner)]) →
      type.category table = .map → type.mapValue? = some value →
      Occurs table call path (.exampleOf value) inner
  | composite {path : List String} {type : TypeRef} {json : Json} :
      Occurs table call path (.exampleOf type) json → type.category table = .composite →
      Occurs table call path (.beanExample type) json
  | member {path : List String} {type : TypeRef} {members : Dict Json} {known : List Field}
      {field : Field} {inner : Json} :
      Occurs table call path (.beanExample type) (.object members) →
      table.fields? type.name = some known → field ∈ known → (field.name, inner) ∈ members →
      Occurs table call (type.name :: path) (.exampleOf field.type) inner

section

variable {table : ClassTable} {visiting : Finset String}

/-- The member of a field is the example of its type: no other field has the name. -/
theorem member_eq (proper : table.ByName) {name : String} {known : List Field} {field : Field}
    {inner : Json} (resolved : table.fields? name = some known) (listed : field ∈ known)
    (member : (field.name, inner) ∈ membersIn table visiting name) :
    inner = answerIn table (insert name visiting) (.exampleOf field.type) := by
  by_cases fresh : name ∈ visiting
  · rw [membersIn_of_visiting fresh] at member
    cases member
  · rw [membersIn_of_known proper resolved fresh] at member
    obtain ⟨other, inside, same⟩ := List.mem_map.1 member
    obtain ⟨named, rfl⟩ := Prod.mk.inj same
    rw [List.inj_on_of_nodup_map (nodup_of_fields? resolved) inside listed named]
    rfl

theorem Occurs.answer_eq (proper : table.ByName) {call : Call} {path : List String} {job : Job}
    {json : Json} (here : Occurs table call path job json) :
    json = answerIn table path.toFinset job := by
  induction here with
  | whole => exact answer_eq_answerIn table call
  | element _ category found ih =>
    rw [answerIn, exampleIn_items category, found] at ih
    exact (List.cons.inj (Json.array.inj ih)).1
  | value _ category found ih =>
    rw [answerIn, exampleIn_map category, found] at ih
    exact (Prod.mk.inj (List.cons.inj (Json.object.inj ih)).1).2
  | composite _ category ih =>
    rw [← exampleIn_eq_bean category]
    exact ih
  | member _ resolved listed member ih =>
    rw [Json.object.inj ih] at member
    rw [List.toFinset_cons]
    exact member_eq proper resolved listed member

end

/-- Whatever the classes of a table refer to, also themselves and one another: a walker ends every
call with one answer and with its set of names as it was, and whatever it has served before, it
answers what the examples of the table are. In an answer, a composite type inside its own expansion
is the empty object, any other known one has all its fields, and fields of one type have the same
example. -/
theorem ClassTable.walker_reusable (infos : List ClassInfo) :
    (∀ visiting call, ∃ json, ∀ json' visiting',
      Walks (ofList infos) visiting (Call.job call) json' visiting' ↔
        json' = json ∧ visiting' = visiting) ∧
    (∀ calls answers visiting, Serves (ofList infos) ∅ calls answers visiting ↔
      answers = calls.map (ofList infos).answer ∧ visiting = ∅) ∧
    (∀ call path type json, Occurs (ofList infos) call path (.exampleOf type) json →
      type.category (ofList infos) = .composite → type.name ∈ path → json = .object []) ∧
    ∀ call path type members known,
      Occurs (ofList infos) call path (.beanExample type) (.object members) →
      (ofList infos).fields? type.name = some known →
      (type.name ∉ path → members.map Prod.fst = known.map Field.name) ∧
        ∀ one ∈ known, ∀ other ∈ known, one.type = other.type → ∀ json json',
          (one.name, json) ∈ members → (other.name, json') ∈ members → json = json' := by
  have proper := byName_ofList infos
  refine ⟨fun visiting call => ⟨_, fun json visiting' => walks_iff proper⟩,
    fun calls answers visiting => serves_iff proper, ?_, ?_⟩
  · intro call path type json here category inside
    rw [here.answer_eq proper, exampleIn_eq_bean category, answerIn,
      membersIn_of_visiting (List.mem_toFinset.2 inside)]
  · intro call path type members known here resolved
    obtain rfl : members = membersIn (ofList infos) path.toFinset type.name :=
      Json.object.inj (here.answer_eq proper)
    constructor
    · intro fresh
      rw [membersIn_of_known proper resolved (mt List.mem_toFinset.1 fresh), List.map_map]
      rfl
    · intro one listed other listed' same json json' member member'
      rw [member_eq proper resolved listed member, member_eq proper resolved listed' member', same]

-- A class that refers to itself, twice.
example :
    (ClassTable.ofList
      [{ name := "Node", kind := .ordinary, superclass := none, constants := []
         fields := [⟨"label", .named "String", false, false⟩,
           ⟨"above", .named "Node", false, false⟩,
           ⟨"below", ⟨"List", [.named "Node"], 0⟩, false, false⟩] }]).exampleOf (.named "Node") =
      .object [("label", .string "string"), ("above", .object []),
        ("below", .array [.object []])] := by
  cbv

end SqlPreview
