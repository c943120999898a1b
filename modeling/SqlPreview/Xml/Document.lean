import SqlPreview.Xml.Content
import SqlPreview.Xml.Namespace
import SqlPreview.Xml.Prolog

/-!
# Reading documents

A document is a prolog, one element, and nothing of substance behind it.
-/

namespace SqlPreview.Xml

/-- The outermost element of a document that is well formed and well qualified. Attributes that
declare namespaces are left out. -/
def readChars? (text : List Char) : Option XmlElement := do
  let (entities, rest) ← prolog? text
  match skipSpaces rest with
  | '<' :: inside => do
    let root ← element? entities inside
    let rest ← skipMisc? root.rest
    if rest.isEmpty && isWellQualified [] root.value then (withoutDeclarations root.value).element?
    else none
  | _ => none

/-- The outermost element of a document as text. -/
def read? (text : String) : Option XmlElement := readChars? text.toList

end SqlPreview.Xml
