import SqlPreview.Mapper.Basic
import SqlPreview.Text.Blank
import SqlPreview.Xml.Document

/-!
# Mapper documents

A mapper is read from an XML document. Names count without their qualifiers; comments and
instructions are dropped, and runs of text that become neighbours are joined.
-/

namespace SqlPreview

/-! ## Nodes -/

/-- A run of text before nodes, joined with one that they begin with. -/
def joinText (s : String) : List Node → List Node
  | .text t :: rest => .text (s ++ t) :: rest
  | nodes => .text s :: nodes

mutual

/-- A node in front of others. -/
def Node.ofXml (nodes : List Node) : XmlNode → List Node
  | .text s => joinText s nodes
  | .comment _ => nodes
  | .instruction _ _ => nodes
  | .element name attributes children =>
    .tag ⟨name.simple, Dict.ofPairs (attributes.map fun a => (a.1.simple, a.2)),
      Node.ofXmlList children⟩ :: nodes

/-- The nodes that a sequence of XML nodes becomes. -/
def Node.ofXmlList : List XmlNode → List Node
  | [] => []
  | node :: rest => Node.ofXml (Node.ofXmlList rest) node

end

/-! ## Mappers -/

/-- Why a document is no mapper. -/
inductive MapperError where
  /-- The document is not well formed. -/
  | malformed
  | notAMapper (root : String)
  | missingNamespace
  | missingAttribute (tag name : String)
deriving DecidableEq, Repr

namespace MapperError

def message : MapperError → String
  | .malformed => "malformed mapper XML"
  | .notAMapper root => "expected a <mapper> root element, found <" ++ root ++ ">"
  | .missingNamespace => "<mapper> has no namespace attribute"
  | .missingAttribute tag name => "<" ++ tag ++ "> is missing its '" ++ name ++ "' attribute"

/-- The document is some other XML. -/
def isNotAMapper : MapperError → Bool
  | .notAMapper _ => true
  | _ => false

end MapperError

namespace Mapper

/-- The identity of an element that has to have one. -/
def id? (element : XmlElement) : Except MapperError String :=
  match element.attribute? "id" with
  | some id => .ok id
  | none => .error (.missingAttribute element.name.simple "id")

/-- A mapper with one more definition: a statement or a fragment, by the name of the element.
Other elements define nothing, and a definition replaces an earlier one with its identity. -/
def define (mapper : Mapper) (element : XmlElement) : Except MapperError Mapper :=
  match StatementKind.ofName? element.name.simple, element.name.simple == "sql" with
  | some kind, _ => do
    let id ← id? element
    let statement : Statement :=
      ⟨id, kind, element.attribute? "parameterType", Node.ofXmlList element.children⟩
    pure { mapper with statements := mapper.statements.put id statement }
  | none, true => do
    let id ← id? element
    pure { mapper with fragments := mapper.fragments.put id ⟨id, Node.ofXmlList element.children⟩ }
  | none, false => .ok mapper

/-- The mapper that the outermost element of a document describes. -/
def ofElement (root : XmlElement) : Except MapperError Mapper :=
  if root.name.simple != "mapper" then .error (.notAMapper root.name.simple)
  else
    let ns := Text.trimmed ((root.attribute? "namespace").getD "")
    if ns.isEmpty then .error .missingNamespace
    else root.childElements.foldlM define ⟨ns, [], []⟩

/-- The mapper that a document describes. -/
def read (text : String) : Except MapperError Mapper :=
  match Xml.read? text with
  | some root => ofElement root
  | none => .error .malformed

end Mapper

end SqlPreview
