import SqlPreview.Xml.Entity
import SqlPreview.Xml.Markup

/-!
# Content

Elements and what is inside them. Content ends where an end tag begins or where there is no more
text; whether that is the right place is for the element around it to say.
-/

namespace SqlPreview.Xml

/-- Nodes read from the front of a text, how many references may still follow, and what is left. -/
structure Content (text : List Char) where
  nodes : List XmlNode
  spare : Nat
  rest : List Char
  within : rest.length ≤ text.length

/-- A start tag: its name and attributes, and whether content follows it. -/
structure StartTag where
  name : XmlName
  attributes : List (XmlName × String)
  isOpen : Bool

/-- A section of characters without markup. -/
def characterSection? (text : List Char) : Option (Taken text XmlNode) := do
  let opened ← after? "<![CDATA[".toList text
  let body ← upTo? "]]>".toList opened.rest
  if isXmlText body.value then
    some ((body.map fun s => .text (String.ofList (lineEnds s))).widen opened.within)
  else none

/-- Attributes up to the end of a start tag. White space comes before every one of them. -/
def attributes? (value : EntityReader (List Char)) (spare : Nat) (text : List Char) :
    Option (Taken text (List (XmlName × String) × Bool × Nat)) :=
  match h : skipSpaces text with
  | '>' :: rest => some ⟨([], true, spare), rest, by
      have := length_skipSpaces_le text; rw [h] at this
      simp only [List.length_cons] at this; omega⟩
  | '/' :: '>' :: rest => some ⟨([], false, spare), rest, by
      have := length_skipSpaces_le text; rw [h] at this
      simp only [List.length_cons] at this; omega⟩
  | _ => do
    let space ← spaces? text
    let one ← attribute? space.rest
    let (chars, spare) ← value spare one.value.2
    let more ← attributes? value spare one.rest
    let (others, isOpen, spare) := more.value
    some ⟨((one.value.1, String.ofList chars) :: others, isOpen, spare), more.rest, by
      have := space.shorter; have := one.shorter; have := more.shorter; omega⟩
termination_by text.length
decreasing_by have := space.shorter; have := one.shorter; omega

/-- A start tag, given what follows its opening bracket. -/
def startTag? (value : EntityReader (List Char)) (spare : Nat) (text : List Char) :
    Option (Taken text (StartTag × Nat)) := do
  let name ← qualifiedName? text
  let more ← attributes? value spare name.rest
  let (attributes, isOpen, spare) := more.value
  some ⟨(⟨name.value, attributes, isOpen⟩, spare), more.rest,
    Nat.lt_trans more.shorter name.shorter⟩

/-- An end tag. -/
def endTag? (text : List Char) : Option (Taken text XmlName) := do
  let opened ← after? "</".toList text
  let name ← qualifiedName? opened.rest
  match h : skipSpaces name.rest with
  | '>' :: rest => some ⟨name.value, rest, by
      have := opened.shorter; have := name.shorter
      have := length_skipSpaces_le name.rest; rw [h] at this
      simp only [List.length_cons] at this; omega⟩
  | _ => none

/-- Markup other than tags, at the front of a text. -/
def special? (text : List Char) : Option (Taken text XmlNode) :=
  if "<!--".toList.isPrefixOf text then comment? text
  else if "<![CDATA[".toList.isPrefixOf text then characterSection? text
  else if "<?".toList.isPrefixOf text then instruction? text
  else none

/-- What follows an opening bracket when it does not open a tag. -/
def startsSpecial (text : List Char) : Bool := text.head? == some '!' || text.head? == some '?'

/-- A run of character data may not hold the end of a character section. -/
def isDataText (run : List Char) : Bool :=
  isXmlText run && (Text.indexOf? "]]>".toList run).isNone

/-- A reader of runs of character data, given how many references may still follow. -/
abbrev DataReader := EntityReader (List XmlNode)

mutual

/-- Content, when runs of character data and attribute values are read as given. -/
def contentWith (data : DataReader) (value : EntityReader (List Char)) (spare : Nat)
    (text : List Char) : Option (Content text) :=
  match text with
  | [] => some ⟨[], spare, [], Nat.le_refl _⟩
  | '<' :: '/' :: rest => some ⟨[], spare, '<' :: '/' :: rest, Nat.le_refl _⟩
  | '<' :: rest =>
    if startsSpecial rest then do
      let one ← special? ('<' :: rest)
      let more ← contentWith data value spare one.rest
      some ⟨one.value :: more.nodes, more.spare, more.rest, Nat.le_trans more.within one.within⟩
    else do
      let one ← elementWith data value spare rest
      let more ← contentWith data value one.value.2 one.rest
      some ⟨one.value.1 :: more.nodes, more.spare, more.rest,
        Nat.le_succ_of_le (Nat.le_trans more.within one.within)⟩
  | c :: rest =>
    if isDataText (c :: rest.takeWhile (· != '<')) then do
      let (nodes, spare) ← data spare (c :: rest.takeWhile (· != '<'))
      let more ← contentWith data value spare (rest.dropWhile (· != '<'))
      some ⟨nodes ++ more.nodes, more.spare, more.rest,
        Nat.le_succ_of_le (Nat.le_trans more.within (length_dropWhile_le _ _))⟩
    else none
termination_by text.length
decreasing_by
  · exact one.shorter
  · exact Nat.lt_succ_self _
  · exact Nat.lt_succ_of_lt one.shorter
  · exact Nat.lt_succ_of_le (length_dropWhile_le _ _)

/-- An element, given what follows its opening bracket. -/
def elementWith (data : DataReader) (value : EntityReader (List Char)) (spare : Nat)
    (text : List Char) : Option (Taken text (XmlNode × Nat)) := do
  let start ← startTag? value spare text
  let (tag, spare) := start.value
  if tag.isOpen then
    let inside ← contentWith data value spare start.rest
    let stop ← endTag? inside.rest
    if stop.value = tag.name then
      some ⟨(.element tag.name tag.attributes inside.nodes, inside.spare), stop.rest, by
        have := start.shorter; have := inside.within; have := stop.shorter; omega⟩
    else none
  else some ⟨(.element tag.name tag.attributes [], spare), start.rest, start.shorter⟩
termination_by text.length
decreasing_by exact start.shorter

end

/-- The content of an entity has to be complete in itself. -/
def wholeContent (data : DataReader) (value : EntityReader (List Char)) : EntityReader (List XmlNode) :=
  fun spare text => do
    let content ← contentWith data value spare text
    if content.rest.isEmpty then some (content.nodes, content.spare) else none

/-- Runs of character data below which `room` more entities may nest. -/
def dataReader (entities : Entities) (nested : Bool) : Nat → DataReader
  | 0 => fun spare run => dataNodes (fun _ _ => none) nested spare [] false run
  | room + 1 => fun spare run =>
    dataNodes
      (expandEntity entities nested
        (wholeContent (dataReader entities true room) (attributeText entities true room)))
      nested spare [] false run

/-- An element of the document itself, given what follows its opening bracket. -/
def element? (entities : Entities) (text : List Char) : Option (Taken text XmlNode) := do
  let taken ← elementWith (dataReader entities false maxEntityDepth)
    (attributeText entities false maxEntityDepth) 0 text
  some (taken.map Prod.fst)

end SqlPreview.Xml
