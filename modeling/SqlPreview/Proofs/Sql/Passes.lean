import SqlPreview.Proofs.Sql.Names

/-!
# Passes of a loop

A loop renders its body once for each entry of a sequence or a map. A pass sees the scope of the
loop and its own entry, and nothing of the other passes.

This file defines:
1. the entries of a value by their places (`Value.entryCount?`, `Value.entry?`);
2. the scope in which an entry is seen (`SeesEntry`), and what the passes of a loop come to, one by
   one (`passes`);
3. what a loop makes of its passes (`Joins`).

Results:
1. `joins_mapM`: rendering in order ends with the first pass that fails, or joins all of them.
2. `pass_eq`: a pass depends on its scope only through what the names mean in it.
3. `passes_isolated`: a loop over too many entries fails before it starts, any other loop joins its
   passes, and two loops with one body have the same pass wherever they have the same entry.
-/

namespace SqlPreview

/-! ## Entries -/

namespace Value

/-- How many entries a loop over a value goes through. Only sequences and maps have any. -/
def entryCount? : Value → Option Nat
  | .sequence _ items => some items.length
  | .map fields => some fields.length
  | _ => none

/-- The entry at a place, an index and an item: the elements of a sequence are indexed by their
positions, those of a map by their names. -/
def entry? : Value → Nat → Option (Value × Value)
  | .sequence _ items, k => items[k]?.map fun item => (Render.loopIndex k, item)
  | .map fields, k => fields[k]?.map fun (name, value) => (.string name, value)
  | _, _ => none

end Value

namespace Render

/-- The index of a pass is its position, as far as 64 bits go. -/
theorem integer?_loopIndex {k : Nat} (fits : k < 0x8000000000000000) :
    (loopIndex k).integer? = some (k : Int) := by
  unfold loopIndex
  split
  · next small =>
    show some (Int32.ofNat k).toInt = some (k : Int)
    rw [Int32.toInt_ofNat_of_lt (by omega)]
  · have same : min k (0x8000000000000000 - 1) = k := Nat.min_eq_left (by omega)
    show some (Int64.ofNat (min k (0x8000000000000000 - 1))).toInt = some (k : Int)
    rw [same, Int64.toInt_ofNat_of_lt (by omega)]

theorem loopEntries?_of_count {v : Value} {n : Nat} (counted : v.entryCount? = some n) :
    ∃ entries, loopEntries? v = some entries ∧ entries.length = n ∧
      ∀ k, entries[k]? = v.entry? k := by
  cases v with
  | sequence kind items =>
    cases counted
    refine ⟨_, rfl, by simp, fun k => ?_⟩
    simp [Value.entry?, List.getElem?_zipIdx]
    rfl
  | map fields =>
    cases counted
    refine ⟨_, rfl, by simp, fun k => ?_⟩
    simp [Value.entry?]
  | _ => cases counted

/-! ## What a pass sees -/

/-- The name that a loop gives to the items. -/
def itemName (element : Element) : String := (element.attribute? "item").getD "item"

/-- The name that a loop gives to the indexes. -/
def indexName (element : Element) : String := (element.attribute? "index").getD "index"

/-- The inner scope is the outer one with an entry under the names that a loop gives. Where both
names are the same it means the item. -/
structure SeesEntry (element : Element) (scope : Scope) (entry : Value × Value) (inner : Scope) :
    Prop where
  item : inner.context.get? (itemName element) = some entry.2
  index : indexName element ≠ itemName element →
    inner.context.get? (indexName element) = some entry.1
  others : ∀ name, name ≠ itemName element → name ≠ indexName element →
    inner.context.get? name = scope.context.get? name
  properties : inner.properties = scope.properties
  ns : inner.ns = scope.ns

theorem seesEntry_loopScope (element : Element) (scope : Scope) (entry : Value × Value) :
    SeesEntry element scope entry
      (loopScope scope (indexName element) (itemName element) entry) := by
  have found (name : String) :
      (loopScope scope (indexName element) (itemName element) entry).context.get? name =
        if name = itemName element then some entry.2
        else if name = indexName element then some entry.1 else scope.context.get? name := by
    show (scope.context.overlay _).get? name = _
    rw [Context.get?_overlay, Dict.get?_put, Dict.get?_cons]
    by_cases item : name = itemName element
    · simp [item]
    · by_cases index : name = indexName element
      · rw [if_neg item, if_neg item, if_pos index, if_pos (by simpa using index)]
        rfl
      · simp [item, index]
  refine ⟨?_, fun apart => ?_, fun name noItem noIndex => ?_, rfl, rfl⟩
  · rw [found, if_pos rfl]
  · rw [found, if_neg apart, if_pos rfl]
  · rw [found, if_neg noItem, if_neg noIndex]

/-- Scopes that see one entry over scopes that agree on some names agree on these names. -/
theorem SeesEntry.agree {element : Element} {names : List String} {scope scope' inner inner' : Scope}
    {entry : Value × Value} (outer : Agree names scope scope')
    (sees : SeesEntry element scope entry inner)
    (sees' : SeesEntry element scope' entry inner') : Agree names inner inner' := by
  refine ⟨fun name member => ?_, ?_, ?_⟩
  · by_cases item : name = itemName element
    · rw [item, sees.item, sees'.item]
    · by_cases index : name = indexName element
      · have apart : indexName element ≠ itemName element := index ▸ item
        rw [index, sees.index apart, sees'.index apart]
      · rw [sees.others name item index, sees'.others name item index, outer.context name member]
  · rw [sees.properties, sees'.properties, outer.properties]
  · rw [sees.ns, sees'.ns, outer.ns]

/-! ## Passes in order -/

/-- What the passes of a loop over a value come to, each on its own. -/
def passes (setting : Setting) (room : Nat) (scope : Scope) (element : Element) (v : Value) :
    List Rendered :=
  ((loopEntries? v).getD []).map fun entry =>
    inside (nodes setting room) (loopScope scope (indexName element) (itemName element) entry)
      element

/-- What a loop makes of its passes: the first error, or all texts with separators between them
and the opening and the closing text around them. -/
inductive Joins (element : Element) : List Rendered → Rendered → Prop
  | text (parts : List (List Char)) :
      Joins element (parts.map .ok)
        (.ok (((element.attribute? "open").getD "").toList ++
          ((element.attribute? "separator").getD ",").toList.intercalate parts ++
          ((element.attribute? "close").getD "").toList))
  | failure (before : List (List Char)) (e : PreviewError) (after : List Rendered) :
      Joins element (before.map .ok ++ .error e :: after) (.error e)

theorem joined_eq_intercalate (separator : List Char) (pieces : List (List Char)) :
    Text.joined separator pieces = separator.intercalate pieces := by
  induction pieces using Text.joined.induct with
  | case1 => rfl
  | case2 piece => simp [Text.joined]
  | case3 piece rest notEmpty ih =>
    cases rest with
    | nil => exact absurd rfl notEmpty
    | cons next rest =>
      rw [Text.joined, ih]
      · simp [List.intercalate_cons_cons]
      · exact notEmpty

/-- Going through a list in order gives all values, or the first error. -/
theorem mapM_outcome {α : Type} (f : α → Rendered) (xs : List α) :
    (∃ parts, xs.map f = parts.map .ok ∧ xs.mapM f = .ok parts) ∨
    ∃ (before : List (List Char)) (e : PreviewError) (after : List Rendered),
      xs.map f = before.map .ok ++ .error e :: after ∧ xs.mapM f = .error e := by
  induction xs with
  | nil => exact .inl ⟨[], rfl, rfl⟩
  | cons x rest ih =>
    rw [List.map_cons, List.mapM_cons]
    cases first : f x with
    | error e => exact .inr ⟨[], e, rest.map f, rfl, rfl⟩
    | ok part =>
      rcases ih with ⟨parts, outcomes, run⟩ | ⟨before, e, after, outcomes, run⟩
      · exact .inl ⟨part :: parts, by rw [outcomes, List.map_cons], by rw [run]; rfl⟩
      · refine .inr ⟨part :: before, e, after, ?_, by rw [run]; rfl⟩
        rw [outcomes, List.map_cons, List.cons_append]

theorem joins_mapM {α : Type} (element : Element) (f : α → Rendered) (xs : List α) :
    Joins element (xs.map f) ((xs.mapM f).map (joinPasses element)) := by
  rcases mapM_outcome f xs with ⟨parts, outcomes, run⟩ | ⟨before, e, after, outcomes, run⟩
  · rw [outcomes, run]
    show Joins element _ (.ok (joinPasses element parts))
    rw [joinPasses, joined_eq_intercalate]
    exact .text parts
  · rw [outcomes, run]
    exact .failure before e after

/-! ## Loops -/

/-- A tag is a loop, and what it goes through has this value. -/
structure LoopsOver (setting : Setting) (scope : Scope) (element : Element) (v : Value) : Prop where
  kind : element.kind = .foreach
  collection : ∃ expression, element.attribute? "collection" = some expression ∧
    value setting scope element.name expression = .ok v

variable {setting : Setting} {room : Nat} {scope : Scope} {element : Element} {v : Value} {n : Nat}

theorem element_loop (looping : LoopsOver setting scope element v) {entries : List (Value × Value)}
    (listed : loopEntries? v = some entries) (body : Body) :
    Render.element setting body scope element =
      if setting.options.maxIterations < entries.length then
        .error (.limitExceeded setting.path .iterations setting.options.maxIterations)
      else
        (entries.mapM fun entry =>
          inside body (loopScope scope (indexName element) (itemName element) entry) element).map
            (joinPasses element) := by
  obtain ⟨expression, given, evaluated⟩ := looping.collection
  unfold Render.element loop
  simp only [looping.kind, given, evaluated, ok_bind, listed]
  rfl

theorem passes_eq {entries : List (Value × Value)} (listed : loopEntries? v = some entries) :
    passes setting room scope element v = entries.map fun entry =>
      inside (nodes setting room) (loopScope scope (indexName element) (itemName element) entry)
        element := by
  rw [passes, listed, Option.getD_some]

theorem length_passes (counted : v.entryCount? = some n) :
    (passes setting room scope element v).length = n := by
  obtain ⟨entries, listed, length, -⟩ := loopEntries?_of_count counted
  rw [passes_eq listed, List.length_map, length]

theorem getElem?_passes (counted : v.entryCount? = some n) {k : Nat} {entry : Value × Value}
    (here : v.entry? k = some entry) :
    (passes setting room scope element v)[k]? =
      some (nodes setting room (loopScope scope (indexName element) (itemName element) entry)
        element.name element.children) := by
  obtain ⟨entries, listed, -, places⟩ := loopEntries?_of_count counted
  rw [passes_eq listed, List.getElem?_map, places, here]
  rfl

/-- A pass is the body in any scope that sees its entry over a scope like the one of the loop, as
far as the names go that are written in the body and in the fragments. -/
theorem pass_eq (counted : v.entryCount? = some n) {k : Nat} {entry : Value × Value}
    (here : v.entry? k = some entry) {scope' inner : Scope}
    (outer : Agree (Node.namesAll element.children ++ setting.registry.names) scope scope')
    (sees : SeesEntry element scope' entry inner) :
    (passes setting room scope element v)[k]? =
      some (nodes setting room inner element.name element.children) := by
  have agree := SeesEntry.agree outer (seesEntry_loopScope element scope entry) sees
  rw [getElem?_passes counted here, nodes_agree (List.subset_append_right _ _) room _ _ _ _ agree
    (List.subset_append_left _ _)]

/-- Two loops with one body that give their entries the same names. -/
structure SameBody (element element' : Element) : Prop where
  name : element'.name = element.name
  children : element'.children = element.children
  itemName : itemName element' = itemName element
  indexName : indexName element' = indexName element

theorem SameBody.sees {element' : Element} (same : SameBody element element')
    {entry : Value × Value} {inner : Scope} (sees : SeesEntry element' scope entry inner) :
    SeesEntry element scope entry inner := by
  obtain ⟨item, index, others, properties, ns⟩ := sees
  rw [same.itemName] at item index others
  rw [same.indexName] at index others
  exact ⟨item, index, others, properties, ns⟩

/-- The passes of a loop are isolated. A loop over too many entries fails whatever its body is. Any
other loop joins its passes, one for each entry: the body in a scope that sees the entry, whose
index is the position in a sequence. And where two loops with one body have the same entry they have
the same pass, whatever their other entries are; what is bound in one pass is not seen in
another. -/
theorem passes_isolated (setting : Setting) (room : Nat) (scope : Scope) (element : Element)
    (v : Value) (n : Nat) (looping : LoopsOver setting scope element v)
    (counted : v.entryCount? = some n) :
    (setting.options.maxIterations < n → ∀ body,
      Render.element setting body scope element =
        .error (.limitExceeded setting.path .iterations setting.options.maxIterations)) ∧
    (n ≤ setting.options.maxIterations →
      Joins element (passes setting room scope element v)
        (Render.element setting (nodes setting room) scope element)) ∧
    (passes setting room scope element v).length = n ∧
    (∀ k entry inner, v.entry? k = some entry → SeesEntry element scope entry inner →
      (passes setting room scope element v)[k]? =
        some (nodes setting room inner element.name element.children)) ∧
    (∀ kind items k entry, v = .sequence kind items → v.entry? k = some entry →
      items[k]? = some entry.2 ∧ (k < 0x8000000000000000 → entry.1.integer? = some (k : Int))) ∧
    ∀ scope' element' v', LoopsOver setting scope' element' v' → SameBody element element' →
      Agree (Node.namesAll element.children ++ setting.registry.names) scope scope' →
      ∀ k entry, v.entry? k = some entry → v'.entry? k = some entry →
        (passes setting room scope' element' v')[k]? =
          (passes setting room scope element v)[k]? := by
  obtain ⟨entries, listed, length, -⟩ := loopEntries?_of_count counted
  refine ⟨fun many body => ?_, fun fits => ?_, length_passes counted,
    fun k entry inner here sees => ?_, fun kind items k entry shape here => ?_,
    fun scope' element' v' looping' same outer k entry here here' => ?_⟩
  · rw [element_loop looping listed, length, if_pos many]
  · rw [element_loop looping listed, length, if_neg (Nat.not_lt.2 fits), passes_eq listed]
    exact joins_mapM element _ entries
  · exact pass_eq counted here ⟨fun _ _ => rfl, rfl, rfl⟩ sees
  · subst shape
    obtain ⟨item, found, rfl⟩ := Option.map_eq_some_iff.1 here
    exact ⟨found, integer?_loopIndex⟩
  · obtain ⟨n', counted'⟩ : ∃ n', v'.entryCount? = some n' := by
      cases v' with
      | sequence kind items => exact ⟨_, rfl⟩
      | map fields => exact ⟨_, rfl⟩
      | _ => cases here'
    have sees := same.sees (seesEntry_loopScope element' scope' entry)
    rw [getElem?_passes counted' here', pass_eq counted here outer sees, same.name, same.children]

/-- A loop whose passes bind a name, which the next pass would see if it were not gone. -/
def marked (collection : String) : Element :=
  ⟨"foreach", [("collection", collection), ("item", "n"), ("open", "("), ("close", ")")],
    [.text "#\x7bm\x7d", .tag ⟨"bind", [("name", "m"), ("value", "n + index")], []⟩,
      .text " #\x7bm\x7d"]⟩

set_option maxRecDepth 100000 in
/-- The first loop has just few enough entries, the second one too many, and both have one pass
in common. -/
theorem marked_isolated :
    let setting : Setting := ⟨.empty, ⟨64, 2, false⟩, ⟨"m", "s"⟩⟩
    let short : Value := .sequence .list [.string "a", .string "b"]
    let long : Value := .sequence .set [.null, .string "b", .string "c"]
    let scope : Scope := ⟨.ofBase [("short", short), ("long", long)], [], "m"⟩
    LoopsOver setting scope (marked "short") short ∧ short.entryCount? = some 2 ∧
    LoopsOver setting scope (marked "long") long ∧ long.entryCount? = some 3 ∧
    SameBody (marked "short") (marked "long") ∧
    Joins (marked "short") (passes setting 1 scope (marked "short") short)
      (.ok "(NULL 'a0',NULL 'b1')".toList) ∧
    (passes setting 1 scope (marked "short") short)[1]? = some (.ok "NULL 'b1'".toList) ∧
    (passes setting 1 scope (marked "long") long)[1]? = some (.ok "NULL 'b1'".toList) ∧
    ∀ body, Render.element setting body scope (marked "long") =
      .error (.limitExceeded ⟨"m", "s"⟩ .iterations 2) := by
  intro setting short long scope
  have first : LoopsOver setting scope (marked "short") short := ⟨rfl, "short", rfl, by cbv⟩
  have second : LoopsOver setting scope (marked "long") long := ⟨rfl, "long", rfl, by cbv⟩
  have same : SameBody (marked "short") (marked "long") := ⟨rfl, rfl, rfl, rfl⟩
  have run : Render.element setting (nodes setting 1) scope (marked "short") =
      .ok "(NULL 'a0',NULL 'b1')".toList := by
    cbv
  have pass : nodes setting 1 (loopScope scope "index" "n" (loopIndex 1, .string "b"))
      (marked "short").name (marked "short").children = .ok "NULL 'b1'".toList := by
    cbv
  obtain ⟨-, joins, -, each, -, shared⟩ :=
    passes_isolated setting 1 scope (marked "short") short 2 first rfl
  obtain ⟨stopped, -⟩ := passes_isolated setting 1 scope (marked "long") long 3 second rfl
  have here := each 1 _ _ rfl (seesEntry_loopScope (marked "short") scope (loopIndex 1, .string "b"))
  have there := shared scope (marked "long") long second same ⟨fun _ _ => rfl, rfl, rfl⟩ 1 _ rfl rfl
  refine ⟨first, rfl, second, rfl, same, ?_, here.trans (congrArg some pass), ?_, ?_⟩
  · rw [← run]
    exact joins (by decide)
  · exact there.trans (here.trans (congrArg some pass))
  · exact stopped (by decide)

end Render

end SqlPreview
