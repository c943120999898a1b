import SqlPreview.Text.Letter
import SqlPreview.Types.Basic

/-!
# Declared parameters

A formal parameter of the method that a statement belongs to.
-/

namespace SqlPreview

/-- A parameter with the name that was given to it, if any, and its place among the others. -/
structure Declaration where
  name : Option String
  type : TypeRef
  position : Nat

/-- The positional name of a parameter, counted from one. -/
def positionalName (position : Nat) : String :=
  "param" ++ String.ofList (Text.decimalDigits (position + 1))

/-- The name under which a parameter is given and found. -/
def Declaration.key (declaration : Declaration) : String :=
  declaration.name.getD (positionalName declaration.position)

/-- Declared parameters by namespace and statement. -/
structure Signatures where
  entries : List ((String × String) × List Declaration)

namespace Signatures

def empty : Signatures := ⟨[]⟩

def find? (signatures : Signatures) (ns id : String) : Option (List Declaration) :=
  signatures.entries.lookup (ns, id)

/-- Gives a statement its declarations, in place of those it had. -/
def insert (signatures : Signatures) (ns id : String) (declarations : List Declaration) :
    Signatures :=
  if (signatures.find? ns id).isSome then
    ⟨signatures.entries.map fun entry =>
      if entry.1 == (ns, id) then (entry.1, declarations) else entry⟩
  else ⟨signatures.entries ++ [((ns, id), declarations)]⟩

def size (signatures : Signatures) : Nat := signatures.entries.length

end Signatures

end SqlPreview
