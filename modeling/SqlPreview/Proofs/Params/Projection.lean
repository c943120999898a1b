import SqlPreview.Proofs.Json.Range
import SqlPreview.Proofs.Params.Coercion
import SqlPreview.Proofs.Value.Json

/-!
# Values read once are read the same again

A value that JSON was read as is written as JSON again, and that JSON is read as the same value,
provided the type has no part of a kind whose values JSON changes: floating and decimal numbers,
dates and times.

This file defines:
1. the types that a type expands to (`TypeRef.Expands`), and types without an inexact part
   (`TypeRef.IsExact`);
2. values that reading does not change (`Settled`).

Results:
1. `Scalar.settled_of_read?`: scalars settle, whatever was wrapped, cut, trimmed or written as text.
2. `settled_reading`: what a type reads settles, if what its parts read does.
3. `coerce_projects`: reading at a type is a projection.
-/

namespace SqlPreview

/-- The kinds whose values JSON keeps. -/
def ScalarKind.isExact : ScalarKind → Bool
  | .float | .double | .bigDecimal | .date | .localDate | .localDateTime | .localTime => false
  | _ => true

/-- The types that a type is made of: itself, its arguments, the component of an array, and the
fields of a class, expanded in their turn. -/
inductive TypeRef.Expands (table : ClassTable) : TypeRef → TypeRef → Prop
  | self (type : TypeRef) : Expands table type type
  | argument {type argument part : TypeRef} :
      argument ∈ type.args → Expands table argument part → Expands table type part
  | component {type part : TypeRef} :
      type.isArray = true → Expands table { type with dims := type.dims - 1 } part →
      Expands table type part
  | field {type part : TypeRef} {known : List Field} {field : Field} :
      type.category table = .composite → table.fields? type.name = some known → field ∈ known →
      Expands table field.type part → Expands table type part

/-- No part of a type is of an inexact kind. -/
def TypeRef.IsExact (table : ClassTable) (type : TypeRef) : Prop :=
  ∀ part, type.Expands table part → ∀ kind, part.category table = .scalar kind →
    kind.isExact = true

section

variable {table : ClassTable} {type : TypeRef}

theorem TypeRef.IsExact.element (exact : type.IsExact table) {element : TypeRef}
    (found : type.element? = some element) : element.IsExact table := by
  intro part expands
  rw [TypeRef.element?] at found
  split at found
  · next array =>
    cases found
    exact exact part (.component (decide_eq_true array) expands)
  · exact exact part (.argument (List.mem_of_mem_head? found) expands)

theorem TypeRef.IsExact.mapValue (exact : type.IsExact table) {inner : TypeRef}
    (found : type.mapValue? = some inner) : inner.IsExact table :=
  fun part expands => exact part (.argument (List.mem_of_getElem? found) expands)

theorem TypeRef.IsExact.field (exact : type.IsExact table)
    (composite : type.category table = .composite) {known : List Field}
    (resolved : table.fields? type.name = some known) {field : Field} (member : field ∈ known) :
    field.type.IsExact table :=
  fun part expands => exact part (.field composite resolved member expands)

/-! ## Scalars -/

namespace Scalar

variable {kind : ScalarKind} {info : Option ClassInfo} {json : Json} {value : Value}

theorem integral?_bounds (inRange : json.InRange) {n : Int} (found : integral? json = some n) :
    Value.minBig ≤ n ∧ n ≤ Value.maxBig := by
  have low : Value.minBig = -0x80000000000000000000000000000000 := rfl
  have high : Value.maxBig = 0x80000000000000000000000000000000 - 1 := rfl
  cases inRange with
  | number inRange =>
    rename_i number
    cases number with
    | integer m =>
      cases found
      obtain ⟨least, most⟩ := inRange
      omega
    | floating x =>
      obtain ⟨m, -, rfl⟩ := Option.map_eq_some_iff.1 found
      rw [clampBig]
      omega
  | string s =>
    obtain ⟨m, -, fits⟩ := Option.bind_eq_some_iff.1 found
    rw [Value.big?] at fits
    split at fits
    · next both =>
      cases fits
      simpa using both
    · cases fits
  | null | boolean | array | object => cases found

/-- A large integer is written as a string, and read from it. -/
theorem integral?_bigInteger {n : Int} (bounds : Value.minBig ≤ n ∧ n ≤ Value.maxBig) :
    integral? (Value.bigInteger n).toJson = some n := by
  rw [Value.toJson]
  split
  · rfl
  · have fits : (Value.minBig ≤ n && n ≤ Value.maxBig) = true := by simpa using bounds
    rw [integral?, String.toList_ofList, trim_intChars, integer?_intChars, Option.bind_some,
      Value.big?, if_pos fits]

theorem constant?_trimmed (s : String) :
    constant? info (.string (Text.trimmed s)) = constant? info (.string s) := by
  simp only [constant?, trimmed?, Text.trimmed, String.toList_ofList, Text.trim_trim]

/-- A constant has the name that a string gives, without the white space around it. -/
theorem exists_constant (read : constant? info json = some value) :
    ∃ s type, json = .string s ∧ value = .constant type (Text.trimmed s) := by
  cases json with
  | string s =>
    refine ⟨s, ?_⟩
    cases info with
    | none =>
      cases read
      exact ⟨_, rfl, rfl⟩
    | some info =>
      simp only [constant?, trimmed?, Option.bind_eq_bind, Option.bind_some] at read
      split at read
      · cases read
        exact ⟨_, rfl, rfl⟩
      · cases read
  | null | boolean | number | array | object => cases read

/-- A value of an exact kind is read again from its JSON. -/
theorem read?_toJson (exact : kind.isExact = true) (inRange : json.InRange)
    (read : read? json kind info = some value) : read? value.toJson kind info = some value := by
  cases kind with
  | float | double | bigDecimal | date | localDate | localDateTime | localTime => cases exact
  | enumeration =>
    obtain ⟨s, type, rfl, rfl⟩ := exists_constant read
    exact (constant?_trimmed s).trans read
  | object =>
    cases read
    rw [Value.toJson_ofJson]
    rfl
  | byte =>
    obtain ⟨n, -, rfl⟩ := Option.map_eq_some_iff.1 read
    exact congrArg (fun m => some (Value.byte m)) (Int8.ofInt_toInt _)
  | short =>
    obtain ⟨n, -, rfl⟩ := Option.map_eq_some_iff.1 read
    exact congrArg (fun m => some (Value.short m)) (Int16.ofInt_toInt _)
  | int =>
    obtain ⟨n, -, rfl⟩ := Option.map_eq_some_iff.1 read
    exact congrArg (fun m => some (Value.int m)) (Int32.ofInt_toInt _)
  | long =>
    obtain ⟨n, -, rfl⟩ := Option.map_eq_some_iff.1 read
    exact congrArg (fun m => some (Value.long m)) (Int64.ofInt_toInt _)
  | boolean | string =>
    obtain ⟨inner, -, rfl⟩ := Option.map_eq_some_iff.1 read
    rfl
  | character =>
    obtain ⟨c, -, rfl⟩ := Option.map_eq_some_iff.1 read
    simp [read?, character?, Value.toJson]
  | bigInteger =>
    obtain ⟨n, found, rfl⟩ := Option.map_eq_some_iff.1 read
    rw [read?, integral?_bigInteger (integral?_bounds inRange found)]
    rfl
  | uuid =>
    obtain ⟨u, found, rfl⟩ := Option.map_eq_some_iff.1 read
    obtain ⟨text, -, parsed⟩ := Option.bind_eq_some_iff.1 found
    have wellFormed := Uuid.wellFormed_of_read? parsed
    rw [read?, Value.toJson, trimmed?, String.toList_ofList, Uuid.trim_chars wellFormed,
      Option.bind_some, Uuid.read?_chars wellFormed]
    rfl

/-- Only nothing is written as nothing. -/
theorem toJson_ne_null (exact : kind.isExact = true) (present : json ≠ .null)
    (read : read? json kind info = some value) : value.toJson ≠ .null := by
  cases kind with
  | float | double | bigDecimal | date | localDate | localDateTime | localTime => cases exact
  | enumeration =>
    obtain ⟨s, type, -, rfl⟩ := exists_constant read
    exact Json.noConfusion
  | object =>
    cases read
    -- An object may be read as anything but nothing, which is read before its kind matters.
    rw [Value.toJson_ofJson]
    exact present
  | bigInteger =>
    obtain ⟨n, -, rfl⟩ := Option.map_eq_some_iff.1 read
    rw [Value.toJson]
    split <;> exact Json.noConfusion
  | _ =>
    obtain ⟨inner, -, rfl⟩ := Option.map_eq_some_iff.1 read
    exact Json.noConfusion

end Scalar

/-! ## Values that settle -/

/-- The JSON of a value is read as the value. -/
def Settled (table : ClassTable) (target : Option TypeRef) (value : Value) : Prop :=
  coerce table value.toJson target = value

theorem settled_ofJson {target : Option TypeRef} {json : Json}
    (untyped : coerce table json target = .ofJson json) : Settled table target (.ofJson json) := by
  rw [Settled, Value.toJson_ofJson, untyped]

theorem settled_scalar {kind : ScalarKind} (scalar : type.category table = .scalar kind)
    (exact : kind.isExact = true) {json : Json} (inRange : json.InRange) (present : json ≠ .null)
    {value : Value} (read : Scalar.read? json kind (table.find? type.name) = some value) :
    Settled table (some type) value := by
  have again := Scalar.read?_toJson exact inRange read
  rw [Settled, coerce_scalar scalar (Scalar.toJson_ne_null exact present read), again,
    Option.getD_some]

theorem coerceItems_toJsonItems {target : Option TypeRef} {values : List Value}
    (each : ∀ value ∈ values, Settled table target value) :
    coerceItems table (Value.toJsonItems values) target = values := by
  induction values with
  | nil => rfl
  | cons value rest ih =>
    obtain ⟨here, there⟩ := List.forall_mem_cons.1 each
    rw [Value.toJsonItems, coerceItems, here, ih there]

theorem settled_items {kind : Sequence} (sequence : (type.category table).sequence? = some kind)
    {values : List Value} (each : ∀ value ∈ values, Settled table type.element? value)
    (arranged : kind.arrange values = values) :
    Settled table (some type) (.sequence kind values) := by
  rw [Settled, Value.toJson, coerce_items sequence, coerceItems_toJsonItems each, arranged]

/-- A field whose name is kept, and whose value settles where the name says how it is read. -/
def SettledField (table : ClassTable) (types : FieldTypes) (field : String × Value) : Prop :=
  ∃ target, types field.1 = some target ∧ Settled table target field.2

theorem coerceFields_toJsonFields {types : FieldTypes} {fields : List (String × Value)}
    (each : ∀ field ∈ fields, SettledField table types field) :
    coerceFields table (Value.toJsonFields fields) types = fields := by
  induction fields with
  | nil => rfl
  | cons field rest ih =>
    obtain ⟨name, value⟩ := field
    obtain ⟨⟨target, kept, here⟩, there⟩ := List.forall_mem_cons.1 each
    rw [Settled] at here
    rw [Value.toJsonFields, coerceFields, kept]
    simp only [here, ih there]

theorem settled_map (map : type.category table = .map) {fields : List (String × Value)}
    (each : ∀ field ∈ fields, SettledField table (.all type.mapValue?) field) :
    Settled table (some type) (.map fields) := by
  rw [Settled, Value.toJson, coerce_map map, coerceFields_toJsonFields each]

theorem settled_bean (composite : type.category table = .composite) {known : List Field}
    (resolved : table.fields? type.name = some known) {fields : List (String × Value)}
    (each : ∀ field ∈ fields, SettledField table (.ofFields known) field) :
    Settled table (some type) (.map fields) := by
  rw [Settled, Value.toJson, coerce_bean composite resolved, coerceFields_toJsonFields each]

/-! ## Reading settles -/

/-- The JSON that is directly inside an array or an object. -/
def Json.parts : Json → List Json
  | .array items => items
  | .object fields => fields.map Prod.snd
  | _ => []

/-- What JSON is read as settles, if what its parts are read as does. -/
theorem settled_reading (exact : type.IsExact table) {json : Json} (inRange : json.InRange)
    (parts : ∀ part ∈ json.parts, ∀ target : Option TypeRef,
      (∀ inner ∈ target, inner.IsExact table) → Settled table target (coerce table part target))
    {value : Value} (reading : Reading table type json value) :
    Settled table (some type) value := by
  cases reading with
  | scalar category present read =>
    exact settled_scalar category (exact type (.self type) _ category) inRange present read
  | @items kind items sequence =>
    have each : ∀ value ∈ coerceItems table items type.element?,
        Settled table type.element? value := by
      intro value member
      obtain ⟨item, inside, rfl⟩ := mem_coerceItems member
      exact parts item inside _ fun inner => exact.element
    cases kind with
    | list | array => exact settled_items sequence each rfl
    | set =>
      exact settled_items sequence
        (fun value member => each value (Value.mem_of_mem_distinct member))
        (Value.distinct_distinct _)
  | map fields category =>
    refine settled_map category fun field member => ?_
    obtain ⟨json, target, inside, kept, read⟩ := mem_coerceFields member
    cases kept
    exact ⟨_, rfl, read ▸ parts json (List.mem_map_of_mem (f := Prod.snd) inside) _
      fun inner => exact.mapValue⟩
  | bean fields category resolved =>
    refine settled_bean category resolved fun field member => ?_
    obtain ⟨json, target, inside, kept, read⟩ := mem_coerceFields member
    refine ⟨_, kept, read ▸ parts json (List.mem_map_of_mem (f := Prod.snd) inside) _ ?_⟩
    obtain ⟨declared, found, rfl⟩ := Option.map_eq_some_iff.1 kept
    rintro inner ⟨⟩
    exact exact.field category resolved (List.mem_of_find?_eq_some found)
  | untyped fallback => exact settled_ofJson fallback

theorem settled_coerce {json : Json} (inRange : json.InRange) (target : Option TypeRef)
    (exact : ∀ type ∈ target, type.IsExact table) :
    Settled table target (coerce table json target) := by
  have settled {json : Json} (inRange : json.InRange)
      (parts : ∀ part ∈ json.parts, ∀ target : Option TypeRef,
        (∀ inner ∈ target, inner.IsExact table) → Settled table target (coerce table part target))
      (target : Option TypeRef) (exact : ∀ type ∈ target, type.IsExact table) :
      Settled table target (coerce table json target) := by
    cases target with
    | none =>
      have untyped : coerce table json none = .ofJson json := by simp only [coerce]
      exact untyped ▸ settled_ofJson untyped
    | some type =>
      exact settled_reading (exact type rfl) inRange parts (reading_coerce table type json)
  induction inRange generalizing target with
  | null => exact settled .null (fun part member => nomatch member) target exact
  | boolean b => exact settled (.boolean b) (fun part member => nomatch member) target exact
  | number fits => exact settled (.number fits) (fun part member => nomatch member) target exact
  | string s => exact settled (.string s) (fun part member => nomatch member) target exact
  | array within ih => exact settled (.array within) ih target exact
  | object within ih =>
    refine settled (.object within) (fun part member => ?_) target exact
    obtain ⟨field, inside, rfl⟩ := List.mem_map.1 member
    exact ih field inside

/-- Types among which nothing leads out, and of which none is inexact, are exact. -/
theorem TypeRef.isExact_of_closed {reached : TypeRef → Prop}
    (arguments : ∀ type, reached type → ∀ argument ∈ type.args, reached argument)
    (components : ∀ type, reached type → type.isArray = true →
      reached { type with dims := type.dims - 1 })
    (fields : ∀ type, reached type → ∀ known, table.fields? type.name = some known →
      ∀ field ∈ known, reached field.type)
    (each : ∀ type, reached type → ∀ kind, type.category table = .scalar kind →
      kind.isExact = true) (start : reached type) : type.IsExact table := by
  intro part expands
  induction expands with
  | self type => exact each type start
  | argument member _ ih => exact ih (arguments _ start _ member)
  | component array _ ih => exact ih (components _ start array)
  | field _ resolved member _ ih => exact ih (fields _ start _ resolved _ member)

end

/-- Reading at a type is a projection: a value that JSON was read as is read again from its own
JSON. -/
theorem coerce_projects (table : ClassTable) (type : TypeRef) (exact : type.IsExact table)
    (json : Json) (inRange : json.InRange) :
    coerce table (coerce table json (some type)).toJson (some type) =
      coerce table json (some type) := by
  refine settled_coerce inRange (some type) ?_
  rintro inner ⟨⟩
  exact exact

/-- A class that refers to itself, with a narrow and a wide integer and a set of constants. -/
def accountTable : ClassTable :=
  .ofList
    [⟨"x.Account", .ordinary, none,
        [⟨"level", .named "byte", false, false⟩,
          ⟨"total", .named "java.math.BigInteger", false, false⟩,
          ⟨"states", ⟨"java.util.Set", [.named "x.State"], 0⟩, false, false⟩,
          ⟨"owner", .named "x.Account", false, false⟩], []⟩,
      ⟨"x.State", .enumeration, none, [], ["ON", "OFF"]⟩]

theorem account_isExact : (TypeRef.named "x.Account").IsExact accountTable := by
  let types : List TypeRef :=
    [.named "byte", .named "java.math.BigInteger", ⟨"java.util.Set", [.named "x.State"], 0⟩,
      .named "x.State", .named "x.Account"]
  have arguments : ∀ type ∈ types, ∀ argument ∈ type.args, argument ∈ types := by
    simp [types, TypeRef.named]
  have plain : ∀ type ∈ types, type.isArray = false := by
    simp [types, TypeRef.named, TypeRef.isArray]
  have listed : ∀ entry ∈ accountTable.classes, ∀ field ∈ entry.2.fields, field.type ∈ types := by
    simp [accountTable, ClassTable.ofList, ClassTable.insert, ClassTable.empty, Dict.put, types]
  have kinds : ∀ type ∈ types, ∀ kind, type.category accountTable = .scalar kind →
      kind.isExact = true := by
    have each : ∀ type ∈ types, type.category accountTable ∈
        [.scalar .byte, .scalar .bigInteger, .set, .scalar .enumeration, .composite] := by
      decide +kernel
    intro type member kind scalar
    have one := each type member
    rw [scalar] at one
    revert one
    cases kind <;> decide
  have closed : ∀ type ∈ types, ∀ known, accountTable.fields? type.name = some known →
      ∀ field ∈ known, field.type ∈ types := by
    intro type member known resolved field inside
    obtain ⟨entry, present, written⟩ := mem_of_mem_fields? resolved inside
    exact listed entry present field written
  refine TypeRef.isExact_of_closed arguments ?_ closed kinds (by simp [types])
  intro type member array
  exact absurd (plain type member) (by simp [array])

/-- An integer that is wrapped and one that is written as a string, a constant given twice, a field
that the class does not know, and a value that does not fit its type. -/
theorem account_projects :
    let type := TypeRef.named "x.Account"
    let json : Json := .object
      [("level", .number (.integer 300)), ("total", .number (.integer 18446744073709551615)),
        ("states", .array [.string " ON ", .string "ON", .string "HALF"]),
        ("color", .boolean true), ("owner", .object [("level", .string "high")])]
    type.IsExact accountTable ∧ json.InRange ∧
      coerce accountTable (coerce accountTable json (some type)).toJson (some type) =
        coerce accountTable json (some type) := by
  intro type json
  have inRange : json.InRange := by
    have number (n : Int) (low : -0x8000000000000000 ≤ n) (high : n < 0x10000000000000000) :
        (Json.number (.integer n)).InRange := .number ⟨low, high⟩
    refine .object ?_
    simp only [List.forall_mem_cons, List.not_mem_nil, IsEmpty.forall_iff, implies_true, and_true]
    refine ⟨number _ (by decide) (by decide), number _ (by decide) (by decide), .array ?_,
      .boolean _, .object ?_⟩
    · simp only [List.forall_mem_cons, List.not_mem_nil, IsEmpty.forall_iff, implies_true, and_true]
      exact ⟨.string _, .string _, .string _⟩
    · simp only [List.forall_mem_cons, List.not_mem_nil, IsEmpty.forall_iff, implies_true, and_true]
      exact .string _
  exact ⟨account_isExact, inRange,
    coerce_projects accountTable type account_isExact json inRange⟩

end SqlPreview
