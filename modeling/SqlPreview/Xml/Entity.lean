import SqlPreview.Xml.Reference

/-!
# Entities and character data

What the characters of a document become: line ends are made uniform, and references are replaced.
An entity may refer to further entities, ten deep, and one reference of the document may cause at
most 255 more.
-/

namespace SqlPreview.Xml

/-- Declared entities. The first declaration of a name counts. -/
abbrev Entities := List (List Char × List Char)

/-- How deep entities may nest. -/
def maxEntityDepth : Nat := 10

/-- How many references inside entities one reference of the document may cause. -/
def maxReferences : Nat := 255

/-- A reader of the characters of an entity, given how many references may still follow. -/
abbrev EntityReader (α : Type) := (spare : Nat) → (value : List Char) → Option (α × Nat)

/-- Reads the entity of a reference. In the document each reference has its own count; inside an
entity the count goes down. -/
def expandEntity {α : Type} (entities : Entities) (nested : Bool) (read : EntityReader α)
    (name : List Char) (spare : Nat) : Option (α × Nat) := do
  let value ← entities.lookup name
  if nested then
    if spare = 0 then none else read (spare - 1) value
  else do
    let (result, _) ← read maxReferences value
    some (result, spare)

/-! ## Character data -/

/-- Adds a character to what was written, last character first. A carriage return is a line end,
together with a line feed behind it. -/
def pushText (written : List Char) (c : Char) (last : Bool) : List Char :=
  let c' := if last && c == '\r' then '\n' else c
  match written with
  | '\r' :: before => if c == '\n' then '\n' :: before else c' :: '\n' :: before
  | _ => c' :: written

/-- Characters without references, with uniform line ends. -/
def lineEnds (text : List Char) : List Char := go [] text
where
  go (written : List Char) : List Char → List Char
    | [] => written.reverse
    | c :: rest => go (pushText written c rest.isEmpty) rest

/-- The text that was written, if any, before further nodes. -/
def flushText (written : List Char) (nodes : List XmlNode) : List XmlNode :=
  if written.isEmpty then nodes else .text (String.ofList written.reverse) :: nodes

/-- The nodes of a run of character data. What a reference of the document stands for, and the
character behind it, stay as they are; in an entity they count as written in place. -/
def dataNodes (expand : List Char → Nat → Option (List XmlNode × Nat)) (nested : Bool)
    (spare : Nat) (written : List Char) (verbatim : Bool) (run : List Char) :
    Option (List XmlNode × Nat) :=
  match run with
  | [] => some (flushText written [], spare)
  | '&' :: rest => do
    let reference ← reference? rest
    match reference.value with
    | .char c =>
      if nested then
        dataNodes expand nested spare (pushText written c reference.rest.isEmpty) false
          reference.rest
      else dataNodes expand nested spare (c :: written) true reference.rest
    | .entity name => do
      let (inside, spare) ← expand name spare
      let (after, spare) ← dataNodes expand nested spare [] false reference.rest
      some (flushText written (inside ++ after), spare)
  | c :: rest =>
    let written := if verbatim then c :: written else pushText written c rest.isEmpty
    dataNodes expand nested spare written false rest
termination_by run.length
decreasing_by
  · have := reference.shorter
    simp only [List.length_cons]; omega
  · have := reference.shorter
    simp only [List.length_cons]; omega
  · have := reference.shorter
    simp only [List.length_cons]; omega
  · simp

/-! ## Attribute values -/

/-- A character of an attribute value: white space becomes a space. -/
def attributeChar (c : Char) : Char := if isSpace c then ' ' else c

/-- The characters of an attribute value. What a reference of the document stands for stays as it
is; in an entity it counts as written in place, and may not be the start of markup. -/
def attributeValue (expand : List Char → Nat → Option (List Char × Nat)) (nested : Bool)
    (spare : Nat) (text : List Char) : Option (List Char × Nat) :=
  match text with
  | [] => some ([], spare)
  | '&' :: rest => do
    let reference ← reference? rest
    match reference.value with
    | .char c =>
      if nested && c == '<' then none
      else do
        let (after, spare) ← attributeValue expand nested spare reference.rest
        some ((if nested then attributeChar c else c) :: after, spare)
    | .entity name => do
      let (inside, spare) ← expand name spare
      let (after, spare) ← attributeValue expand nested spare reference.rest
      some (inside ++ after, spare)
  -- A carriage return with its line feed is one white space.
  | '\r' :: '\n' :: rest => attributeValue expand nested spare ('\n' :: rest)
  | c :: rest => do
    let (after, spare) ← attributeValue expand nested spare rest
    some (attributeChar c :: after, spare)
termination_by text.length
decreasing_by
  · have := reference.shorter
    simp only [List.length_cons]; omega
  · have := reference.shorter
    simp only [List.length_cons]; omega
  · simp
  · simp

/-- The characters of an attribute value below which `room` more entities may nest. -/
def attributeText (entities : Entities) (nested : Bool) : Nat → EntityReader (List Char)
  | 0 => attributeValue (fun _ _ => none) nested
  | room + 1 =>
    attributeValue (expandEntity entities nested (attributeText entities true room)) nested

end SqlPreview.Xml
