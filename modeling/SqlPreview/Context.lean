import SqlPreview.Value.Basic

/-!
# Contexts

The names that an expression can see: the bindings of the payload, and over them the frames of the
scopes that were entered since, the innermost first. A context never changes; entering a scope
makes a new one.
-/

namespace SqlPreview

structure Context where
  base : Dict Value
  frames : List (Dict Value)

namespace Context

def ofBase (base : Dict Value) : Context := ⟨base, []⟩

def empty : Context := ofBase []

/-- A context with one more frame. -/
def overlay (context : Context) (bindings : Dict Value) : Context :=
  { context with frames := bindings :: context.frames }

/-- A context that binds one more name. -/
def bind (context : Context) (name : String) (value : Value) : Context :=
  context.overlay [(name, value)]

/-- The value of a name in the innermost frame that has it, or else in the base. -/
def get? (context : Context) (name : String) : Option Value :=
  (context.frames ++ [context.base]).findSome? fun frame => frame.get? name

def has (context : Context) (name : String) : Bool := (context.get? name).isSome

/-- How many frames lie over the base. -/
def depth (context : Context) : Nat := context.frames.length

/-- Every visible name with the value that it has. -/
def flatten (context : Context) : Dict Value :=
  context.frames.foldr (fun frame flat => Dict.putAll flat frame) context.base

theorem get?_overlay (context : Context) (bindings : Dict Value) (name : String) :
    (context.overlay bindings).get? name = (bindings.get? name).or (context.get? name) := by
  simp only [overlay, get?, List.cons_append, List.findSome?_cons]
  cases bindings.get? name <;> simp

theorem get?_bind (context : Context) (name : String) (value : Value) (other : String) :
    (context.bind name value).get? other =
      if other = name then some value else context.get? other := by
  rw [bind, get?_overlay, Dict.get?_cons]
  by_cases h : other = name <;> simp [h]

end Context

end SqlPreview
