import SqlPreview.Dict
import SqlPreview.Types.Basic

/-!
# Known classes

What is known about the classes that parameter types refer to: their fields, their superclass, and
the constants of enumerations.
-/

namespace SqlPreview

inductive ClassKind where
  | ordinary
  | interface
  | enumeration
deriving DecidableEq, Repr

structure Field where
  name : String
  type : TypeRef
  isStatic : Bool
  isSynthetic : Bool
deriving Repr

/-- A field that every object has: not static, not made by a compiler, and not the reference to an
enclosing object. -/
def Field.isInstance (field : Field) : Bool :=
  !field.isStatic && !field.isSynthetic && !("this$".toList.isPrefixOf field.name.toList)

structure ClassInfo where
  name : String
  kind : ClassKind
  superclass : Option TypeRef
  fields : List Field
  constants : List String
deriving Repr

def ClassInfo.isEnum (info : ClassInfo) : Bool := info.kind == .enumeration

/-- Classes by qualified name. -/
structure ClassTable where
  classes : Dict ClassInfo
deriving Repr

namespace ClassTable

def empty : ClassTable := ⟨[]⟩

def find? (table : ClassTable) (name : String) : Option ClassInfo := table.classes.get? name

/-- Adds a class, in place of one with the same name. -/
def insert (table : ClassTable) (info : ClassInfo) : ClassTable :=
  ⟨table.classes.put info.name info⟩

def ofList (infos : List ClassInfo) : ClassTable := infos.foldl insert empty

def size (table : ClassTable) : Nat := table.classes.length

end ClassTable

end SqlPreview
