import SqlPreview.Dict

/-!
# Mapper definitions

A mapper document holds the statements of a namespace and the fragments that they share. Both are
trees of text and tags; some tags are dynamic, all others only group what is inside them.
-/

namespace SqlPreview

/-- What a tag means when a statement is rendered. -/
inductive TagKind where
  | include
  | property
  | test
  | choose
  | when
  | otherwise
  | foreach
  | bind
  | trim
  | whereClause
  | setClause
  | selectKey
  | other
deriving DecidableEq, Repr

def TagKind.ofName : String → TagKind
  | "include" => .include
  | "property" => .property
  | "if" => .test
  | "choose" => .choose
  | "when" => .when
  | "otherwise" => .otherwise
  | "foreach" => .foreach
  | "bind" => .bind
  | "trim" => .trim
  | "where" => .whereClause
  | "set" => .setClause
  | "selectKey" => .selectKey
  | _ => .other

/-- A tag with its attributes and what it encloses. -/
structure Tag (Child : Type) where
  name : String
  attributes : Dict String
  children : List Child

/-- A piece of a statement: text as it stands, or a tag. -/
inductive Node where
  | text (s : String)
  | tag (t : Tag Node)

/-- A tag that encloses nodes. -/
abbrev Element := Tag Node

instance : Inhabited Node := ⟨.text ""⟩

namespace Tag

variable {Child : Type}

def kind (tag : Tag Child) : TagKind := TagKind.ofName tag.name

def attribute? (tag : Tag Child) (name : String) : Option String := tag.attributes.get? name

end Tag

/-- The tag that a node is, if it is one. -/
def Node.element? : Node → Option Element
  | .text _ => none
  | .tag element => some element

/-- The tags directly inside a tag. -/
def Tag.childElements (element : Element) : List Element := element.children.filterMap Node.element?

inductive StatementKind where
  | select
  | insert
  | update
  | delete
deriving DecidableEq, Repr

namespace StatementKind

def ofName? : String → Option StatementKind
  | "select" => some .select
  | "insert" => some .insert
  | "update" => some .update
  | "delete" => some .delete
  | _ => none

def name : StatementKind → String
  | .select => "select"
  | .insert => "insert"
  | .update => "update"
  | .delete => "delete"

end StatementKind

structure Statement where
  id : String
  kind : StatementKind
  /-- The parameter type as the document gives it, possibly by an alias. -/
  parameterType : Option String
  body : List Node

/-- A piece of SQL that statements include. -/
structure Fragment where
  id : String
  body : List Node

structure Mapper where
  ns : String
  statements : Dict Statement
  fragments : Dict Fragment

/-- Mappers by namespace, in the order in which their namespaces were first loaded. -/
structure Registry where
  mappers : Dict Mapper

namespace Registry

def empty : Registry := ⟨[]⟩

def find? (registry : Registry) (ns : String) : Option Mapper := registry.mappers.get? ns

/-- Adds a mapper, in place of one with the same namespace. -/
def insert (registry : Registry) (mapper : Mapper) : Registry :=
  ⟨registry.mappers.put mapper.ns mapper⟩

def size (registry : Registry) : Nat := registry.mappers.length

end Registry

end SqlPreview
