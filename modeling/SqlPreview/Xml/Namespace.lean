import SqlPreview.Xml.Basic

/-!
# Namespaces

Some attributes of an element declare qualifiers for it and for all that it encloses. A document
is well qualified when every qualifier in it is declared and no two attributes of an element mean
the same name.
-/

namespace SqlPreview.Xml

/-- The namespace of the reserved qualifier `xml`. -/
def xmlSpace : String := "http://www.w3.org/XML/1998/namespace"

/-- The namespace of declarations, which nothing else may be in. -/
def declarationSpace : String := "http://www.w3.org/2000/xmlns/"

/-- The qualifier of declarations. -/
def declarationName : String := "xmlns"

/-- Qualifiers with their namespaces, the innermost first. -/
abbrev Qualifiers := List (String × String)

/-- An attribute that declares a qualifier. -/
def declaresQualifier (name : XmlName) : Bool := name.qualifier == declarationName

/-- An attribute that declares the namespace of names without a qualifier. -/
def declaresDefault (name : XmlName) : Bool :=
  !declaresQualifier name && name.simple == declarationName

/-- A declaration may not bind a reserved namespace, except to its own qualifier, and may not bind
the reserved qualifier to anything else. -/
def isSoundDeclaration (declared : XmlName × String) : Bool :=
  let (name, space) := declared
  if declaresQualifier name then
    space != declarationSpace && ((name.simple == "xml") == (space == xmlSpace))
  else if declaresDefault name then space != xmlSpace && space != declarationSpace
  else true

/-- The qualifiers that attributes declare. -/
def declaredQualifiers (attributes : List (XmlName × String)) : Qualifiers :=
  (attributes.filter fun a => declaresQualifier a.1 && a.2 != xmlSpace).map fun a =>
    (a.1.simple, a.2)

/-- The attributes that declare nothing. -/
def plainAttributes (attributes : List (XmlName × String)) : List (XmlName × String) :=
  attributes.filter fun a => !declaresQualifier a.1 && !declaresDefault a.1

/-- What the name of an attribute means: its namespace, if it has one, and the name in it. Nothing
if the qualifier is not declared. -/
def meaning? (qualifiers : Qualifiers) (name : XmlName) : Option (Option String × String) :=
  if name.qualifier.isEmpty then some (none, name.simple)
  else if name.qualifier == "xml" then some (some xmlSpace, name.simple)
  else (qualifiers.lookup name.qualifier).map fun space => (some space, name.simple)

/-- An element name may be used where its qualifier is declared. -/
def isKnownName (qualifiers : Qualifiers) (name : XmlName) : Bool :=
  !declaresQualifier name &&
    (name.qualifier.isEmpty || (qualifiers.lookup name.qualifier).isSome)

/-- No member twice. -/
def allDistinct {α : Type} [BEq α] : List α → Bool
  | [] => true
  | a :: rest => !rest.contains a && allDistinct rest

/-- The attributes of an element agree with one another and with the qualifiers around them. -/
def areSoundAttributes (qualifiers : Qualifiers) (attributes : List (XmlName × String)) : Bool :=
  attributes.all isSoundDeclaration &&
    allDistinct ((declaredQualifiers attributes).map Prod.fst) &&
    match (plainAttributes attributes).mapM fun a => meaning? qualifiers a.1 with
    | some names => allDistinct names
    | none => false

mutual

/-- Everything in a node is well qualified, given the qualifiers declared around it. -/
def isWellQualified (qualifiers : Qualifiers) : XmlNode → Bool
  | .element name attributes children =>
    let inner := declaredQualifiers attributes ++ qualifiers
    isKnownName inner name && areSoundAttributes inner attributes &&
      areWellQualified inner children
  | _ => true

def areWellQualified (qualifiers : Qualifiers) : List XmlNode → Bool
  | [] => true
  | node :: rest => isWellQualified qualifiers node && areWellQualified qualifiers rest

end

mutual

/-- A node without its declarations of namespaces. -/
def withoutDeclarations : XmlNode → XmlNode
  | .element name attributes children =>
    .element name (plainAttributes attributes) (allWithoutDeclarations children)
  | node => node

def allWithoutDeclarations : List XmlNode → List XmlNode
  | [] => []
  | node :: rest => withoutDeclarations node :: allWithoutDeclarations rest

end

end SqlPreview.Xml
