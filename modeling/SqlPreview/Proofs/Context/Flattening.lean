import SqlPreview.Context
import SqlPreview.Expr.Eval
import SqlPreview.Proofs.Dictionary

/-!
# Contexts as one dictionary

A context is built up layer by layer over a base, and a name is looked up from the innermost layer
outwards. Writing the layers over the base from the outermost inwards gives one dictionary in which
every name means the same.

This file defines the layers of a context (`Layer`) and how they are entered (`Context.enter`).

Results:
1. `Context.get?_flatten_enter`: one more layer keeps the context and its dictionary in agreement.
2. `Context.flatten_enterAll`: the dictionary of a context is its base with all layers written over
   it.
3. `Context.flatten_interchangeable`: a context and its dictionary have the same names with the
   same values, and give every expression the same value.
-/

namespace SqlPreview

/-- What is put over a context: a binding, or a dictionary, which has every name once. -/
inductive Layer where
  | one (name : String) (value : Value)
  | many (bindings : Dict Value) (once : bindings.names.Nodup)

namespace Layer

def bindings : Layer → Dict Value
  | one name value => [(name, value)]
  | many bindings _ => bindings

def names (layer : Layer) : List String := layer.bindings.names

theorem nodup_names (layer : Layer) : layer.names.Nodup := by
  cases layer with
  | one name value => exact List.nodup_singleton name
  | many bindings once => exact once

end Layer

namespace Context

/-- The context inside one more layer. -/
def enter (context : Context) : Layer → Context
  | .one name value => context.bind name value
  | .many bindings _ => context.overlay bindings

/-- The context inside some layers, the outermost of which comes first. -/
def enterAll (context : Context) (layers : List Layer) : Context := layers.foldl enter context

/-! ## One layer -/

theorem enter_eq (context : Context) (layer : Layer) :
    context.enter layer = context.overlay layer.bindings := by
  cases layer with
  | one name value => rfl
  | many bindings once => rfl

theorem flatten_enter (context : Context) (layer : Layer) :
    (context.enter layer).flatten = context.flatten.putAll layer.bindings := by
  rw [enter_eq]
  rfl

theorem get?_enter (context : Context) (layer : Layer) (name : String) :
    (context.enter layer).get? name = (layer.bindings.get? name).or (context.get? name) := by
  rw [enter_eq, get?_overlay]

/-- The innermost layer is looked at first, and is written last. -/
theorem get?_flatten_enter {context : Context} {name : String}
    (same : context.flatten.get? name = context.get? name) (layer : Layer) :
    (context.enter layer).flatten.get? name = (context.enter layer).get? name := by
  rw [flatten_enter, Dict.get?_putAll_of_nodup _ layer.nodup_names, get?_enter, same]

/-! ## All layers -/

theorem get?_flatten_enterAll {context : Context} {name : String}
    (same : context.flatten.get? name = context.get? name) (layers : List Layer) :
    (context.enterAll layers).flatten.get? name = (context.enterAll layers).get? name := by
  induction layers generalizing context with
  | nil => exact same
  | cons layer rest ih => exact ih (get?_flatten_enter same layer)

theorem get?_flatten_ofBase (base : Dict Value) (name : String) :
    (ofBase base).flatten.get? name = (ofBase base).get? name := by
  simp [ofBase, flatten, get?]

theorem flatten_enterAll (context : Context) (layers : List Layer) :
    (context.enterAll layers).flatten =
      context.flatten.putAll (layers.flatMap Layer.bindings) := by
  induction layers generalizing context with
  | nil => rfl
  | cons layer rest ih =>
    have inner : (context.enterAll (layer :: rest)) = (context.enter layer).enterAll rest := rfl
    rw [inner, ih, flatten_enter, List.flatMap_cons, Dict.putAll_append]

theorem names_flatten_enterAll (base : Dict Value) (layers : List Layer) :
    ((ofBase base).enterAll layers).flatten.names =
      base.names ++ ((layers.flatMap Layer.names).removeAll base.names).eraseDups := by
  have names : (layers.flatMap Layer.bindings).map Prod.fst = layers.flatMap Layer.names :=
    List.map_flatMap
  rw [flatten_enterAll, Dict.names_putAll_eq, names]
  rfl

/-- A context and its dictionary are interchangeable. Whatever layers were entered, the dictionary
has the names of the context with their values; the names of the base come first, in their order,
and then each new name where it first appears from the outermost layer inwards; and an expression
has the same value, or the same failure, against both. -/
theorem flatten_interchangeable (base : Dict Value) (layers : List Layer) :
    let context := (ofBase base).enterAll layers
    (∀ name, context.flatten.has name = context.has name ∧
      context.flatten.get? name = context.get? name) ∧
    context.flatten.names =
      base.names ++ ((layers.flatMap Layer.names).removeAll base.names).eraseDups ∧
    ∀ expression, evaluate context.flatten.get? expression = evaluate context.get? expression := by
  intro context
  have found (name : String) : context.flatten.get? name = context.get? name :=
    get?_flatten_enterAll (get?_flatten_ofBase base name) layers
  refine ⟨fun name => ⟨congrArg Option.isSome (found name), found name⟩,
    names_flatten_enterAll base layers, fun expression => ?_⟩
  have lookups : context.flatten.get? = context.get? := funext found
  rw [lookups]

/-- `b` keeps its place though it gets another value, and `d` comes before `c`. -/
example (v w : Value) :
    ((ofBase [("a", v), ("b", v)]).enterAll
      [.one "d" w, .many [("b", w), ("c", w)] (by simp), .one "c" v]).flatten.names =
      ["a", "b", "d", "c"] := by
  cbv

end Context

end SqlPreview
