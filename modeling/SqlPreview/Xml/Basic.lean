import SqlPreview.Dict

/-!
# XML documents

The tree of a document: elements with attributes, and between them runs of text, comments and
processing instructions. References are already replaced in it by what they stand for.
-/

namespace SqlPreview

/-- A name, with the qualifier before its colon; without a colon the qualifier is empty. -/
structure XmlName where
  qualifier : String
  simple : String
deriving DecidableEq, Repr

inductive XmlNode where
  /-- A run of text, from characters and references or from a character section. -/
  | text (s : String)
  | comment (s : String)
  /-- A processing instruction. -/
  | instruction (target content : String)
  | element (name : XmlName) (attributes : List (XmlName × String)) (children : List XmlNode)

instance : Inhabited XmlNode := ⟨.text ""⟩

/-- An element on its own. -/
structure XmlElement where
  name : XmlName
  attributes : List (XmlName × String)
  children : List XmlNode

def XmlNode.element? : XmlNode → Option XmlElement
  | .element name attributes children => some ⟨name, attributes, children⟩
  | _ => none

namespace XmlElement

/-- The value of an attribute whose name has no qualifier. -/
def attribute? (element : XmlElement) (name : String) : Option String :=
  element.attributes.lookup ⟨"", name⟩

/-- The elements directly inside an element. -/
def childElements (element : XmlElement) : List XmlElement :=
  element.children.filterMap XmlNode.element?

end XmlElement

end SqlPreview
