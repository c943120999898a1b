import Mathlib
import SqlPreview.Params.Template
import SqlPreview.Proofs.Params.Coercion
import SqlPreview.Proofs.Params.Naming

/-!
# Templates and the types they are read at

A template shows an example under every name that a shape declares. Read back under the same shape,
every example is a value of the type that its name is declared with.

This file defines:
1. the values of a scalar kind (`Value.OfKind`) and of a type (`Inhabits`);
2. JSON that fits its type in every part (`Accepted`);
3. the names that a shape declares, with their types (`Shape.declared`).

Results:
1. `exampleIn_accepted`: the example of a type fits it in every part, and is read as a value of it.
2. `template_accepted`: a template binds every declared name to a value of its type.
-/

namespace SqlPreview

/-! ## Values of a type -/

/-- The values of a scalar kind. Objects may be read as anything that JSON without a type gives. -/
inductive Value.OfKind : ScalarKind → Value → Prop
  | boolean (b : Bool) : OfKind .boolean (.boolean b)
  | byte (n : Int8) : OfKind .byte (.byte n)
  | short (n : Int16) : OfKind .short (.short n)
  | int (n : Int32) : OfKind .int (.int n)
  | long (n : Int64) : OfKind .long (.long n)
  | float (x : Number.Floating) : OfKind .float (.float x)
  | double (x : Number.Floating) : OfKind .double (.double x)
  | character (c : Char) : OfKind .character (.character c)
  | string (s : String) : OfKind .string (.string s)
  | bigDecimal (text : String) : OfKind .bigDecimal (.decimal text)
  | bigInteger (n : Int) : OfKind .bigInteger (.bigInteger n)
  | date (t : Instant) : OfKind .date (.date t)
  | localDate (d : Date) : OfKind .localDate (.localDate d)
  | localDateTime (t : DateTime) : OfKind .localDateTime (.localDateTime t)
  | localTime (t : TimeOfDay) : OfKind .localTime (.localTime t)
  | uuid (u : Uuid) : OfKind .uuid (.uuid u)
  | enumeration (type name : String) : OfKind .enumeration (.constant type name)
  | object (json : Json) : OfKind .object (.ofJson json)

/-- The values of a type. Where a container has no type for what is in it, anything may be. -/
inductive Inhabits (table : ClassTable) : TypeRef → Value → Prop
  | scalar {type : TypeRef} {kind : ScalarKind} {value : Value} :
      type.category table = .scalar kind → value.OfKind kind → Inhabits table type value
  | sequence {type : TypeRef} {kind : Sequence} {items : List Value} :
      (type.category table).sequence? = some kind →
      (∀ element, type.element? = some element → ∀ item ∈ items, Inhabits table element item) →
      Inhabits table type (.sequence kind items)
  | map {type : TypeRef} {fields : List (String × Value)} :
      type.category table = .map →
      (∀ inner, type.mapValue? = some inner → ∀ field ∈ fields, Inhabits table inner field.2) →
      Inhabits table type (.map fields)
  | bean {type : TypeRef} {known : List Field} {fields : List (String × Value)} :
      type.category table = .composite → table.fields? type.name = some known →
      (∀ field ∈ fields, field.1 ∈ known.map Field.name) →
      (∀ field ∈ fields, ∀ declared ∈ known, declared.name = field.1 →
        Inhabits table declared.type field.2) →
      Inhabits table type (.map fields)
  | unknown {type : TypeRef} (fields : List (String × Value)) :
      type.category table = .composite → table.fields? type.name = none →
      Inhabits table type (.map fields)

/-! ## Examples of scalars -/

/-- The constants of every enumeration of a table stand without white space around them. -/
def ClassTable.ConstantsTrimmed (table : ClassTable) : Prop :=
  ∀ name info, table.find? name = some info → ∀ constant ∈ info.constants,
    Text.trimmed constant = constant

namespace Scalar

theorem ofKind_of_read? {json : Json} {kind : ScalarKind} {info : Option ClassInfo} {value : Value}
    (read : read? json kind info = some value) : value.OfKind kind := by
  cases kind with
  | enumeration =>
    simp only [read?, constant?, Option.bind_eq_bind, Option.bind_eq_some_iff] at read
    obtain ⟨name, -, read⟩ := read
    split at read
    · cases read
      exact .enumeration _ _
    · split at read
      · cases read
        exact .enumeration _ _
      · cases read
  | object =>
    cases read
    exact .object json
  | _ =>
    simp only [read?, Option.map_eq_some_iff] at read
    obtain ⟨inner, -, rfl⟩ := read
    constructor

/-- A constant is read as itself, and the placeholder where no constant is known. -/
theorem constant?_example {info : ClassInfo}
    (trimmed : ∀ constant ∈ info.constants, Text.trimmed constant = constant) :
    ∃ name, constant? (some info) (scalarExample .enumeration (some info)) =
      some (.constant info.name name) := by
  cases constants : info.constants with
  | nil =>
    refine ⟨Text.trimmed "VALUE", ?_⟩
    simp [scalarExample, constant?, trimmed?, constants, Text.trimmed]
  | cons first rest =>
    refine ⟨first, ?_⟩
    have itself : String.ofList (Text.trim first.toList) = first :=
      trimmed first (constants ▸ List.mem_cons_self)
    simp [scalarExample, constant?, trimmed?, constants, itself]

/-- The example of every kind is read as a value of the kind. -/
theorem read?_scalarExample (kind : ScalarKind) (info : Option ClassInfo)
    (known : kind = .enumeration → ∃ enumeration, info = some enumeration ∧
      ∀ constant ∈ enumeration.constants, Text.trimmed constant = constant) :
    ∃ value, read? (scalarExample kind info) kind info = some value := by
  rw [← Option.isSome_iff_exists]
  cases kind with
  | enumeration =>
    obtain ⟨enumeration, rfl, trimmed⟩ := known rfl
    obtain ⟨name, found⟩ := constant?_example trimmed
    simp only [read?, found, Option.isSome_some]
  | character | string | bigDecimal | date | localDate | localDateTime | localTime | uuid =>
    simp only [read?, scalarExample, Option.isSome_map]
    decide +kernel
  | _ => rfl

end Scalar

/-! ## Examples are accepted -/

variable {table : ClassTable} {type : TypeRef}

theorem ofFields_of_mem {known : List Field} (once : (known.map Field.name).Nodup) {field : Field}
    (member : field ∈ known) :
    FieldTypes.ofFields known field.name = some (some field.type) := by
  rw [FieldTypes.ofFields]
  cases found : known.find? fun other => other.name == field.name with
  | none =>
    have := List.find?_eq_none.1 found field member
    simp at this
  | some other =>
    have same : other.name = field.name := by simpa using List.find?_some found
    have inside := List.mem_of_find?_eq_some found
    rw [List.inj_on_of_nodup_map once inside member same]
    rfl

/-- JSON is read as a value of a type, and nothing in it falls back on being read without one. -/
structure Accepted (table : ClassTable) (json : Json) (type : TypeRef) : Prop where
  inhabits : Inhabits table type (coerce table json (some type))
  fits : ∀ untyped, coerceElse untyped table json (some type) = coerce table json (some type)

theorem Accepted.of_value {json : Json} (value : Value) (inhabits : Inhabits table type value)
    (fits : ∀ untyped, coerceElse untyped table json (some type) = value) :
    Accepted table json type := by
  have read : coerce table json (some type) = value := by rw [← coerceElse_ofJson, fits]
  exact ⟨read ▸ inhabits, fun untyped => by rw [fits, read]⟩

theorem accepted_scalar (trimmed : table.ConstantsTrimmed) {kind : ScalarKind}
    (scalar : type.category table = .scalar kind) :
    Accepted table (scalarExample kind (table.find? type.name)) type := by
  have known : kind = .enumeration → ∃ enumeration, table.find? type.name = some enumeration ∧
      ∀ constant ∈ enumeration.constants, Text.trimmed constant = constant := by
    rintro rfl
    obtain ⟨info, found⟩ := find?_of_enumeration scalar
    exact ⟨info, found, trimmed _ _ found⟩
  have present : scalarExample kind (table.find? type.name) ≠ .null := by
    cases kind with
    | enumeration => unfold scalarExample; dsimp only; split <;> exact Json.noConfusion
    | _ => exact Json.noConfusion
  obtain ⟨value, read⟩ := Scalar.read?_scalarExample kind _ known
  refine .of_value _ (.scalar scalar (Scalar.ofKind_of_read? read)) fun untyped => ?_
  rw [coerceElse_scalar scalar present, read, Option.getD_some]

/-- One item is a sequence of any kind. -/
theorem accepted_items {kind : Sequence} (sequence : (type.category table).sequence? = some kind)
    {item : Json} (inner : ∀ element, type.element? = some element → Accepted table item element) :
    Accepted table (.array [item]) type := by
  have alone (value : Value) : kind.arrange [value] = [value] := by
    cases kind <;> rfl
  have each : ∀ untyped, coerceElse untyped table item type.element? =
      coerce table item type.element? := by
    intro untyped
    cases found : type.element? with
    | none => simp only [coerceElse, coerce]
    | some element => exact (inner element found).fits untyped
  refine .of_value (.sequence kind [coerce table item type.element?]) ?_ fun untyped => ?_
  · refine .sequence sequence fun element found => List.forall_mem_singleton.2 ?_
    rw [found]
    exact (inner element found).inhabits
  · rw [coerceElse_items sequence, coerceItemsElse, coerceItemsElse, alone, each]

theorem accepted_map (map : type.category table = .map) {key : String} {json : Json}
    (inner : ∀ value, type.mapValue? = some value → Accepted table json value) :
    Accepted table (.object [(key, json)]) type := by
  have each : ∀ untyped, coerceElse untyped table json type.mapValue? =
      coerce table json type.mapValue? := by
    intro untyped
    cases found : type.mapValue? with
    | none => simp only [coerceElse, coerce]
    | some value => exact (inner value found).fits untyped
  refine .of_value (.map [(key, coerce table json type.mapValue?)]) ?_ fun untyped => ?_
  · refine .map map fun value found => List.forall_mem_singleton.2 ?_
    rw [found]
    exact (inner value found).inhabits
  · rw [coerceElse_map map]
    simp only [coerceFieldsElse, FieldTypes.all, each]

/-- Examples of the fields of a class are read with the types of the fields. -/
theorem coerceFieldsElse_known {known chosen : List Field} (once : (known.map Field.name).Nodup)
    (within : ∀ field ∈ chosen, field ∈ known) {given : Field → Json}
    (each : ∀ field ∈ chosen, Accepted table (given field) field.type) (untyped : Json → Value) :
    coerceFieldsElse untyped table (chosen.map fun field => (field.name, given field))
        (.ofFields known) =
      chosen.map fun field => (field.name, coerce table (given field) (some field.type)) := by
  induction chosen with
  | nil => rfl
  | cons field rest ih =>
    obtain ⟨here, there⟩ := List.forall_mem_cons.1 within
    obtain ⟨first, others⟩ := List.forall_mem_cons.1 each
    simp only [List.map_cons, coerceFieldsElse, ofFields_of_mem once here, first.fits,
      ih there others]

theorem accepted_bean (composite : type.category table = .composite) {known : List Field}
    (resolved : table.fields? type.name = some known) {chosen : List Field}
    (within : ∀ field ∈ chosen, field ∈ known) {given : Field → Json}
    (each : ∀ field ∈ chosen, Accepted table (given field) field.type) :
    Accepted table (.object (chosen.map fun field => (field.name, given field))) type := by
  have once := nodup_of_fields? resolved
  refine .of_value (.map (chosen.map fun field =>
    (field.name, coerce table (given field) (some field.type)))) ?_ fun untyped => ?_
  · refine .bean composite resolved ?_ ?_
    · rintro pair member
      obtain ⟨field, inside, rfl⟩ := List.mem_map.1 member
      exact List.mem_map_of_mem (within field inside)
    · rintro pair member declared present same
      obtain ⟨field, inside, rfl⟩ := List.mem_map.1 member
      rw [List.inj_on_of_nodup_map once present (within field inside) same]
      exact (each field inside).inhabits
  · rw [coerceElse_bean composite resolved, coerceFieldsElse_known once within each]

theorem accepted_unknown (composite : type.category table = .composite)
    (unresolved : table.fields? type.name = none) (fields : List (String × Json)) :
    Accepted table (.object fields) type :=
  .of_value _ (.unknown _ composite unresolved) fun _ =>
    coerceElse_unknown composite unresolved fields

/-- The example of a type is accepted, whatever classes may still be expanded in it. The object
without fields that stands for a class in its own expansion is accepted like any other. -/
theorem exampleIn_accepted (trimmed : table.ConstantsTrimmed) (unopened : List String)
    (type : TypeRef) : Accepted table (exampleIn table unopened type) type := by
  induction unopened, type using example_induction table with
  | scalar unopened type kind category =>
    rw [exampleIn_scalar category]
    exact accepted_scalar trimmed category
  | items unopened type kind category ih =>
    rw [exampleIn_items category]
    refine accepted_items category fun element found => ?_
    rw [found]
    exact ih element found
  | map unopened type category ih =>
    rw [exampleIn_map category]
    cases found : type.mapValue? with
    | none => exact accepted_map category fun inner same => by rw [found] at same; cases same
    | some value =>
      refine accepted_map category fun inner same => ?_
      rw [found] at same
      cases same
      exact ih value found
  | composite unopened type category ih =>
    rw [exampleIn_composite category]
    cases resolved : table.fields? type.name with
    | none => exact accepted_unknown category resolved _
    | some known =>
      split
      · next opens =>
        exact accepted_bean category resolved (fun _ => id) fun field _ => ih opens field
      · have none : Accepted table
            (.object (([] : List Field).map fun field => (field.name, .null))) type :=
          accepted_bean category resolved (List.forall_mem_nil _) (List.forall_mem_nil _)
        exact none

/-! ## Templates -/

namespace Shape

/-- The names that a shape declares, with their types. A loose map declares none; a bean declares
its fields, and a type without fields is declared as a whole. -/
def declared (table : ClassTable) : Shape → List (String × TypeRef)
  | .map _ => []
  | .multiple declarations => declarations.map fun d => (d.key, d.type)
  | .bean type =>
    match type.category table with
    | .composite => ((table.fields? type.name).getD []).map fun field => (field.name, field.type)
    | _ => [(wholeName, type)]

/-- What a template shows and what its names are bound to. -/
def Accepts (table : ClassTable) (shape : Shape) : Prop :=
  ∃ fields, shape.template table = .object fields ∧
    fields.map Prod.fst = (shape.declared table).map Prod.fst ∧
    ∀ name type, (name, type) ∈ shape.declared table → ∃ json, (name, json) ∈ fields ∧
      (shape.bindings table (shape.template table)).get? name =
        some (coerce table json (some type)) ∧
      Accepted table json type

theorem accepts_multiple (trimmed : table.ConstantsTrimmed) {declarations : List Declaration}
    (distinct : (declarations.map Declaration.key).Nodup) :
    (Shape.multiple declarations).Accepts table := by
  have shown : (Shape.multiple declarations).template table =
      .object (declarations.map fun d => (d.key, table.exampleOf d.type)) := by
    rw [template, Dict.ofPairs_map _ distinct]
  refine ⟨_, shown, by simp [declared], fun name type member => ?_⟩
  obtain ⟨d, inside, same⟩ := List.mem_map.1 member
  cases same
  refine ⟨table.exampleOf d.type, List.mem_map_of_mem inside, ?_, exampleIn_accepted trimmed _ _⟩
  rw [shown, bindings_multiple distinct]
  refine get?_foldl_bindAliases ?_ _
  rw [get?_suppliedValues distinct inside,
    Dict.get?_map (fun d => table.exampleOf d.type) distinct inside, Option.map_some]

/-- The bindings of a bean that was read as a value. -/
def ofWhole : Value → Dict Value
  | .map fields => Dict.putIfAbsent fields wholeName (.map fields)
  | .null => []
  | scalar => Dict.put [(wholeName, scalar)] valueName scalar

theorem bindings_bean (payload : Json) (type : TypeRef) :
    (Shape.bean type).bindings table payload =
      ofWhole (coerce table (beanPayload table payload type) (some type)) := by
  unfold bindings ofWhole
  rfl

/-- A value is bound as a whole unless it is nothing, or a map that hides it. -/
theorem get?_ofWhole {value : Value} (present : value ≠ .null)
    (fresh : ∀ fields, value = .map fields → wholeName ∉ Dict.names fields) :
    (ofWhole value).get? wholeName = some value := by
  unfold ofWhole
  split
  · next fields =>
    rw [Dict.get?_putIfAbsent, Dict.get?_eq_none_iff.2 (fresh fields rfl), Option.none_or,
      if_pos rfl]
  · exact absurd rfl present
  · rw [Dict.get?_put, Dict.get?_cons, if_neg (by decide), if_pos (by simp)]

theorem exampleKey_ne_wholeName (category : Option Category) : exampleKey category ≠ wholeName := by
  unfold exampleKey
  split <;> decide

/-- The example of a scalar is read as something, and not as a map. -/
theorem scalarExample_plain (trimmed : table.ConstantsTrimmed) {kind : ScalarKind}
    (scalar : type.category table = .scalar kind) :
    ∃ value, coerce table (scalarExample kind (table.find? type.name)) (some type) = value ∧
      value ≠ .null ∧ ∀ fields, value ≠ .map fields := by
  refine ⟨_, rfl, ?_⟩
  cases kind with
  | object =>
    rw [coerce_scalar scalar Json.noConfusion]
    exact ⟨Value.noConfusion, fun fields => Value.noConfusion⟩
  | _ =>
    have inhabits := (accepted_scalar trimmed scalar).inhabits
    generalize coerce table _ (some type) = value at inhabits ⊢
    cases inhabits with
    | scalar category ofKind =>
      -- Among the values of the other kinds there is neither nothing nor a map.
      rw [scalar] at category
      cases category
      cases ofKind
      exact ⟨Value.noConfusion, fun fields => Value.noConfusion⟩
    | sequence => exact ⟨Value.noConfusion, fun fields => Value.noConfusion⟩
    | map category => rw [scalar] at category; cases category
    | bean category => rw [scalar] at category; cases category
    | unknown _ category => rw [scalar] at category; cases category

/-- The example of a type without fields is bound as a whole. -/
theorem get?_ofWhole_example (trimmed : table.ConstantsTrimmed)
    (other : type.category table ≠ .composite) :
    (ofWhole (coerce table (table.exampleOf type) (some type))).get? wholeName =
      some (coerce table (table.exampleOf type) (some type)) := by
  cases category : type.category table with
  | composite => exact absurd category other
  | array | list | set =>
    have sequence : ∃ kind, (type.category table).sequence? = some kind := by
      rw [category]
      exact ⟨_, rfl⟩
    obtain ⟨kind, sequence⟩ := sequence
    rw [ClassTable.exampleOf, exampleIn_items sequence, coerce_items sequence]
    exact get?_ofWhole Value.noConfusion fun fields same => Value.noConfusion same
  | map =>
    -- The key of an example map does not hide the name of the whole.
    have one (key : String) (other : key ≠ wholeName) (json : Json) :
        (ofWhole (coerce table (.object [(key, json)]) (some type))).get? wholeName =
          some (coerce table (.object [(key, json)]) (some type)) := by
      rw [coerce_map category]
      simp only [coerceFields, FieldTypes.all]
      refine get?_ofWhole Value.noConfusion fun fields same => ?_
      cases same
      simpa using Ne.symm other
    rw [ClassTable.exampleOf, exampleIn_map category]
    split
    · exact one _ (exampleKey_ne_wholeName _) _
    · exact one _ (by decide) _
  | scalar kind =>
    obtain ⟨value, read, present, plain⟩ := scalarExample_plain trimmed category
    rw [ClassTable.exampleOf, exampleIn_scalar category, read]
    exact get?_ofWhole present fun fields same => absurd same (plain fields)

/-- The example that a bean shows for one of its fields. -/
def fieldExample (table : ClassTable) (type : TypeRef) (field : Field) : Json :=
  exampleIn table (table.names.erase type.name) field.type

section

variable {known : List Field} (resolved : table.fields? type.name = some known)

include resolved

theorem beanExample_eq : table.beanExample type =
    known.map fun field => (field.name, fieldExample table type field) := by
  have opens : type.name ∈ table.names := by
    rw [← isSome_fields?, resolved]
    rfl
  rw [ClassTable.beanExample, if_pos opens, resolved]
  rfl

theorem coerce_beanExample (trimmed : table.ConstantsTrimmed)
    (composite : type.category table = .composite) :
    coerce table (.object (table.beanExample type)) (some type) =
      .map (known.map fun field =>
        (field.name, coerce table (fieldExample table type field) (some field.type))) := by
  have each : ∀ field ∈ known, Accepted table (fieldExample table type field) field.type :=
    fun field _ => exampleIn_accepted trimmed _ _
  rw [← coerceElse_ofJson, coerceElse_bean composite resolved, beanExample_eq resolved,
    coerceFieldsElse_known (nodup_of_fields? resolved) (fun _ => id) each]

end

theorem accepts_composite (trimmed : table.ConstantsTrimmed)
    (composite : type.category table = .composite) : (Shape.bean type).Accepts table := by
  have shown : (Shape.bean type).template table = .object (table.beanExample type) := by
    rw [template, composite]
  have names : (Shape.bean type).declared table =
      ((table.fields? type.name).getD []).map fun field => (field.name, field.type) := by
    rw [declared, composite]
  have payload : beanPayload table (.object (table.beanExample type)) type =
      .object (table.beanExample type) := by
    simp only [beanPayload, composite]
  cases resolved : table.fields? type.name with
  | none =>
    have unknown : type.name ∉ table.names := by
      rw [← isSome_fields?, resolved]
      exact Bool.false_ne_true
    refine ⟨_, shown, ?_, ?_⟩
    · rw [names, resolved, ClassTable.beanExample, if_neg unknown]
      rfl
    · intro name type member
      rw [names, resolved] at member
      cases member
  | some known =>
    refine ⟨_, shown, ?_, ?_⟩
    · rw [names, resolved, beanExample_eq resolved, List.map_map, Option.getD_some, List.map_map]
      rfl
    · intro name inner member
      rw [names, resolved, Option.getD_some] at member
      obtain ⟨field, inside, same⟩ := List.mem_map.1 member
      cases same
      refine ⟨fieldExample table type field, ?_, ?_, exampleIn_accepted trimmed _ _⟩
      · rw [beanExample_eq resolved]
        exact List.mem_map_of_mem (f := fun field => (field.name, fieldExample table type field))
          inside
      · -- The name of the whole is bound after the fields, and gives way to a field of its name.
        have bound := Dict.get?_map
          (fun field : Field => coerce table (fieldExample table type field) (some field.type))
          (nodup_of_fields? resolved) inside
        rw [shown, bindings_bean, payload, coerce_beanExample resolved trimmed composite, ofWhole,
          Dict.get?_putIfAbsent, bound, Option.some_or]

theorem accepts_whole (trimmed : table.ConstantsTrimmed)
    (other : type.category table ≠ .composite) : (Shape.bean type).Accepts table := by
  have shown : (Shape.bean type).template table =
      .object [(wholeName, table.exampleOf type)] := by
    rw [template]
    split
    · next composite => exact absurd composite other
    · rfl
  have names : (Shape.bean type).declared table = [(wholeName, type)] := by
    rw [declared]
    split
    · next composite => exact absurd composite other
    · rfl
  have payload : beanPayload table (.object [(wholeName, table.exampleOf type)]) type =
      table.exampleOf type := by
    cases category : type.category table with
    | composite => exact absurd category other
    | _ => simp [beanPayload, category, Dict.get?_cons]
  refine ⟨_, shown, by rw [names]; rfl, fun name inner member => ?_⟩
  rw [names, List.mem_singleton] at member
  cases member
  refine ⟨_, List.mem_singleton_self _, ?_, exampleIn_accepted trimmed _ _⟩
  rw [shown, bindings_bean, payload]
  exact get?_ofWhole_example trimmed other

/-- The template of a shape shows the names that the shape declares, each with JSON that fits its
type in every part, and binds them to values of their types. -/
theorem template_accepted (table : ClassTable) (trimmed : table.ConstantsTrimmed) (shape : Shape)
    (distinct : ∀ declarations, shape = .multiple declarations →
      (declarations.map Declaration.key).Nodup) :
    shape.Accepts table := by
  cases shape with
  | map value => exact ⟨[], rfl, rfl, fun name type member => nomatch member⟩
  | multiple declarations => exact accepts_multiple trimmed (distinct declarations rfl)
  | bean type =>
    by_cases composite : type.category table = .composite
    · exact accepts_composite trimmed composite
    · exact accepts_whole trimmed composite

/-- A class that refers to itself, with an inherited field and a set of constants. -/
def nodeTable : ClassTable :=
  .ofList
    [⟨"x.Node", .ordinary, some (.named "x.Entity"),
        [⟨"next", .named "x.Node", false, false⟩,
          ⟨"states", ⟨"java.util.Set", [.named "x.State"], 0⟩, false, false⟩], []⟩,
      ⟨"x.Entity", .ordinary, none, [⟨"since", .named "java.util.Date", false, false⟩], []⟩,
      ⟨"x.State", .enumeration, none, [], ["ON", "OFF"]⟩]

/-- Nodes under a name of their own, and an array of maps under its position. -/
theorem nodes_and_maps_accepted :
    let declarations : List Declaration :=
      [⟨some "node", .named "x.Node", 0⟩,
        ⟨none, ⟨"java.util.Map", [.named "int", .named "x.Node"], 1⟩, 1⟩]
    nodeTable.ConstantsTrimmed ∧ (declarations.map Declaration.key).Nodup ∧
      (Shape.resolve nodeTable none declarations).Accepts nodeTable := by
  intro declarations
  have trimmed : nodeTable.ConstantsTrimmed := by
    have each : ∀ entry ∈ nodeTable.classes, ∀ constant ∈ entry.2.constants,
        Text.trimmed constant = constant := by
      decide +kernel
    exact fun name info found => each _ (Dict.mem_of_get? found)
  have distinct : (declarations.map Declaration.key).Nodup := by
    decide +kernel
  refine ⟨trimmed, distinct, template_accepted nodeTable trimmed _ fun others same => ?_⟩
  cases same
  exact distinct

end Shape

end SqlPreview
