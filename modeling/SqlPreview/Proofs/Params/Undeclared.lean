import SqlPreview.Preview.Query
import SqlPreview.Proofs.Params.Inhabitants

/-!
# Keys that nothing declares

A payload may have more in it than a statement asks for. What no parameter and no field has the
name of leaves no trace in the bindings, at any depth at which a class says what the fields are.

This file defines:
1. JSON with one more key that the class of its object does not know (`Json.Extended`);
2. payloads with one more key that the shape of their statement does not know (`Shape.Extended`).

Result: `undeclared_keys_invisible`, adding and removing such keys changes neither the bindings of a
payload nor the SQL.
-/

namespace SqlPreview

variable {table : ClassTable}

/-! ## Inside a value -/

/-- JSON gets one more key that no field has the name of, in an object that is read at a composite
type, or in a part of the JSON that is read at a type of its own. -/
inductive Json.Extended (table : ClassTable) : TypeRef → Json → Json → Prop
  | unknown {type : TypeRef} {known : List Field} (before after : List (String × Json))
      {name : String} (json : Json) :
      type.category table = .composite → table.fields? type.name = some known →
      name ∉ known.map Field.name →
      Extended table type (.object (before ++ after)) (.object (before ++ (name, json) :: after))
  | field {type : TypeRef} {known : List Field} {field : Field}
      (before after : List (String × Json)) {json json' : Json} :
      type.category table = .composite → table.fields? type.name = some known → field ∈ known →
      Extended table field.type json json' →
      Extended table type (.object (before ++ (field.name, json) :: after))
        (.object (before ++ (field.name, json') :: after))
  | item {type element : TypeRef} {kind : Sequence} (before after : List Json) {json json' : Json} :
      (type.category table).sequence? = some kind → type.element? = some element →
      Extended table element json json' →
      Extended table type (.array (before ++ json :: after)) (.array (before ++ json' :: after))
  | entry {type inner : TypeRef} (before after : List (String × Json)) {name : String}
      {json json' : Json} :
      type.category table = .map → type.mapValue? = some inner →
      Extended table inner json json' →
      Extended table type (.object (before ++ (name, json) :: after))
        (.object (before ++ (name, json') :: after))

theorem coerceItems_append (before after : List Json) (target : Option TypeRef) :
    coerceItems table (before ++ after) target =
      coerceItems table before target ++ coerceItems table after target := by
  induction before with
  | nil => rfl
  | cons item rest ih => rw [List.cons_append, coerceItems, coerceItems, ih, List.cons_append]

theorem coerceFields_append (before after : List (String × Json)) (types : FieldTypes) :
    coerceFields table (before ++ after) types =
      coerceFields table before types ++ coerceFields table after types := by
  induction before with
  | nil => rfl
  | cons field rest ih =>
    obtain ⟨name, json⟩ := field
    rw [List.cons_append, coerceFields, coerceFields, ih]
    cases types name <;> rfl

/-- Fields of which one is read as the same value. -/
theorem coerceFields_replace (before after : List (String × Json)) {types : FieldTypes}
    {name : String} {json json' : Json}
    (same : ∀ target, types name = some target → coerce table json target = coerce table json' target) :
    coerceFields table (before ++ (name, json) :: after) types =
      coerceFields table (before ++ (name, json') :: after) types := by
  rw [coerceFields_append, coerceFields_append, coerceFields, coerceFields]
  cases kept : types name with
  | none => rfl
  | some target => simp only [same target kept]

theorem ofFields_of_not_mem {known : List Field} {name : String}
    (unknown : name ∉ known.map Field.name) : FieldTypes.ofFields known name = none := by
  rw [FieldTypes.ofFields, Option.map_eq_none_iff, List.find?_eq_none]
  intro field member same
  exact unknown (beq_iff_eq.1 same ▸ List.mem_map_of_mem member)

/-- What a class does not know is dropped where an object is read at it. -/
theorem coerce_eq_of_extended {type : TypeRef} {json json' : Json}
    (extended : json.Extended table type json') :
    coerce table json (some type) = coerce table json' (some type) := by
  induction extended with
  | unknown before after json composite resolved unknown =>
    rw [coerce_bean composite resolved, coerce_bean composite resolved, coerceFields_append,
      coerceFields_append, coerceFields, ofFields_of_not_mem unknown]
  | field before after composite resolved member _ ih =>
    rw [coerce_bean composite resolved, coerce_bean composite resolved,
      coerceFields_replace before after]
    intro target kept
    rw [ofFields_of_mem (nodup_of_fields? resolved) member] at kept
    cases kept
    exact ih
  | item before after sequence declared _ ih =>
    rw [coerce_items sequence, coerce_items sequence, coerceItems_append, coerceItems_append,
      coerceItems, coerceItems, declared, ih]
  | entry before after map declared _ ih =>
    rw [coerce_map map, coerce_map map, coerceFields_replace before after]
    rintro target ⟨⟩
    rw [declared]
    exact ih

/-! ## In a payload -/

/-- A payload gets one more key that its shape does not know: one that no parameter has the name
of, or one inside the value of a parameter or inside a bean. -/
inductive Shape.Extended (table : ClassTable) : Shape → Json → Json → Prop
  | unknown {declarations : List Declaration} (before after : List (String × Json)) {name : String}
      (json : Json) :
      name ∉ declarations.map Declaration.key →
      Extended table (.multiple declarations) (.object (before ++ after))
        (.object (before ++ (name, json) :: after))
  | parameter {declarations : List Declaration} (before after : List (String × Json))
      {name : String} {json json' : Json} :
      (∀ d ∈ declarations, d.key = name → json.Extended table d.type json') →
      Extended table (.multiple declarations) (.object (before ++ (name, json) :: after))
        (.object (before ++ (name, json') :: after))
  | bean {type : TypeRef} {payload payload' : Json} :
      type.category table = .composite → payload.Extended table type payload' →
      Extended table (.bean type) payload payload'

namespace Shape

/-- Two objects bind the same if they give every parameter the same value. -/
theorem bindings_multiple_congr {declarations : List Declaration} {fields fields' : Dict Json}
    (same : ∀ d ∈ declarations,
      (fields.get? d.key).map (fun json => coerce table json (some d.type)) =
        (fields'.get? d.key).map fun json => coerce table json (some d.type)) :
    (Shape.multiple declarations).bindings table (.object fields) =
      (Shape.multiple declarations).bindings table (.object fields') := by
  have supplied : suppliedValues table fields declarations =
      suppliedValues table fields' declarations := by
    refine List.filterMap_congr fun d declared => ?_
    have pairs := congrArg (Option.map fun value => (d.key, value)) (same d declared)
    rwa [Option.map_map, Option.map_map] at pairs
  rw [Shape.bindings, Shape.bindings, foldl_bindDeclared, foldl_bindDeclared, supplied]

theorem bindings_eq_of_extended {shape : Shape} {payload payload' : Json}
    (extended : shape.Extended table payload payload') :
    shape.bindings table payload = shape.bindings table payload' := by
  cases extended with
  | @unknown declarations before after name json undeclared =>
    refine bindings_multiple_congr fun d declared => ?_
    have other : d.key ≠ name := fun same => undeclared (same ▸ List.mem_map_of_mem declared)
    rw [Dict.get?, Dict.get?, List.lookup_append, List.lookup_append, List.lookup_cons,
      beq_eq_false_iff_ne.2 other]
  | parameter before after inner =>
    refine bindings_multiple_congr fun d declared => ?_
    rw [Dict.get?, Dict.get?, List.lookup_append, List.lookup_append, List.lookup_cons,
      List.lookup_cons]
    cases List.lookup d.key before with
    | some json => rfl
    | none =>
      split
      · next same => exact congrArg some (coerce_eq_of_extended (inner d declared (beq_iff_eq.1 same)))
      · rfl
  | @bean type _ _ composite inner =>
    have whole (payload : Json) : beanPayload table payload type = payload := by
      simp only [beanPayload, composite]
    rw [bindings_bean, bindings_bean, whole, whole, coerce_eq_of_extended inner]

/-- Payloads that differ only in keys that nothing declares bind the same values in the same order,
and give every statement of that shape the same SQL. -/
theorem undeclared_keys_invisible (table : ClassTable) (shape : Shape) {payload payload' : Json}
    (edited : Relation.EqvGen (shape.Extended table) payload payload') :
    shape.bindings table payload = shape.bindings table payload' ∧
      ∀ (previewer : Previewer) (path : StatementPath) (statement : Statement),
        previewer.classes = table → previewer.statement path = .ok statement →
        previewer.shape path statement = shape →
        previewer.sqlFor path payload = previewer.sqlFor path payload' := by
  have same : shape.bindings table payload = shape.bindings table payload' := by
    induction edited with
    | rel _ _ extended => exact bindings_eq_of_extended extended
    | refl _ => rfl
    | symm _ _ _ ih => exact ih.symm
    | trans _ _ _ _ _ first second => exact first.trans second
  refine ⟨same, ?_⟩
  rintro previewer path statement rfl found rfl
  have bound : previewer.bindings path statement payload =
      previewer.bindings path statement payload' := same
  rw [Previewer.sqlFor, Previewer.sqlFor, found]
  simp only [bind, Except.bind, bound]

/-- A key that a class does not know is taken out of a node inside a list, and one that no parameter
has the name of is put in front. -/
theorem nodes_undeclared_keys_invisible :
    let nodes : TypeRef := ⟨"java.util.List", [.named "x.Node"], 0⟩
    let shape : Shape := .multiple [⟨some "nodes", nodes, 0⟩, ⟨some "id", .named "int", 1⟩]
    let node (rest : List (String × Json)) : Json :=
      .object [("since", .string "2024-01-01"), ("next", .object rest)]
    let payload (before : List (String × Json)) (rest : List (String × Json)) : Json :=
      .object (before ++ [("nodes", .array [.null, node rest]), ("id", .number (.integer 5))])
    Relation.EqvGen (shape.Extended nodeTable) (payload [] [("color", .boolean true)])
        (payload [("ids", .null)] []) ∧
      shape.bindings nodeTable (payload [] [("color", .boolean true)]) =
        shape.bindings nodeTable (payload [("ids", .null)] []) ∧
      ∀ (previewer : Previewer) (path : StatementPath) (statement : Statement),
        previewer.classes = nodeTable → previewer.statement path = .ok statement →
        previewer.shape path statement = shape →
        previewer.sqlFor path (payload [] [("color", .boolean true)]) =
          previewer.sqlFor path (payload [("ids", .null)] []) := by
  intro nodes shape node payload
  have composite : (TypeRef.named "x.Node").category nodeTable = .composite := by decide +kernel
  have resolved : nodeTable.fields? "x.Node" = some
      [⟨"next", .named "x.Node", false, false⟩,
        ⟨"states", ⟨"java.util.Set", [.named "x.State"], 0⟩, false, false⟩,
        ⟨"since", .named "java.util.Date", false, false⟩] := by
    cbv
  have sequence : (nodes.category nodeTable).sequence? = some .list := by decide +kernel
  have emptied : (node []).Extended nodeTable (.named "x.Node") (node [("color", .boolean true)]) :=
    .field [("since", .string "2024-01-01")] [] composite resolved
      (List.mem_cons_self : (⟨"next", .named "x.Node", false, false⟩ : Field) ∈ _)
      (.unknown [] [] (.boolean true) composite resolved (by decide))
  have removed : shape.Extended nodeTable (payload [] []) (payload [] [("color", .boolean true)]) := by
    refine .parameter [] [("id", .number (.integer 5))] fun d declared same => ?_
    have first : d = ⟨some "nodes", nodes, 0⟩ := by
      rcases List.mem_cons.1 declared with rfl | later
      · rfl
      · cases List.mem_singleton.1 later
        exact absurd same (by decide)
    rw [first]
    exact .item [.null] [] sequence rfl emptied
  have added : shape.Extended nodeTable (payload [] []) (payload [("ids", .null)] []) :=
    .unknown [] _ .null (by decide +kernel)
  have edited := (Relation.EqvGen.rel _ _ removed).symm.trans _ _ _ (.rel _ _ added)
  exact ⟨edited, undeclared_keys_invisible nodeTable shape edited⟩

end Shape

end SqlPreview
