import SqlPreview.Text.Cut

/-!
# Java type references

A type reference is an erased name with generic arguments and array dimensions.
-/

namespace SqlPreview

structure TypeRef where
  name : String
  args : List TypeRef
  dims : Nat
deriving Repr

namespace TypeRef

/-- A type without arguments and dimensions. -/
def named (name : String) : TypeRef := ⟨name, [], 0⟩

/-- The type that every wildcard without an upper bound stands for. -/
def object : TypeRef := named "java.lang.Object"

def isArray (type : TypeRef) : Bool := 0 < type.dims

/-- The part of the name after its last point. -/
def simpleName (type : TypeRef) : String :=
  match Text.splitLast? (· == '.') type.name.toList with
  | some (_, simple) => String.ofList simple
  | none => type.name

/-- The component of an array, and the first argument of any other type. -/
def element? (type : TypeRef) : Option TypeRef :=
  if 0 < type.dims then some { type with dims := type.dims - 1 } else type.args.head?

/-- The first argument, which is the key type of a map. -/
def mapKey? (type : TypeRef) : Option TypeRef := type.args[0]?

/-- The second argument, which is the value type of a map. -/
def mapValue? (type : TypeRef) : Option TypeRef := type.args[1]?

mutual

/-- A type as text: the name, the arguments in angle brackets, a pair of brackets for each
dimension. -/
def chars : TypeRef → List Char
  | ⟨name, [], dims⟩ => name.toList ++ (List.replicate dims ['[', ']']).flatten
  | ⟨name, arg :: args, dims⟩ =>
    name.toList ++ '<' :: argsChars (arg :: args) ++ '>' ::
      (List.replicate dims ['[', ']']).flatten

def argsChars : List TypeRef → List Char
  | [] => []
  | [arg] => arg.chars
  | arg :: next :: rest => arg.chars ++ ',' :: ' ' :: argsChars (next :: rest)

end

def text (type : TypeRef) : String := String.ofList type.chars

end TypeRef

end SqlPreview
