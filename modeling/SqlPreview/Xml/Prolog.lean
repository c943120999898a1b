import SqlPreview.Xml.Entity
import SqlPreview.Xml.Markup

/-!
# Prolog

What may stand before the outermost element: a declaration of the version, comments and processing
instructions, and a document type, of which only the entities matter.
-/

namespace SqlPreview.Xml

/-! ## Declaration -/

/-- The text after white space, which may be left out before the end of a declaration. -/
def declarationSpaces? (text : List Char) : Option (List Char) :=
  match spaces? text with
  | some taken => some taken.rest
  | none => if text.isEmpty || "?>".toList.isPrefixOf text then some text else none

/-- The text after an attribute, if one whose name begins like this is there. -/
def skipAttribute? (start : String) (text : List Char) : Option (List Char) :=
  if start.toList.isPrefixOf text then do
    let found ← attribute? text
    declarationSpaces? found.rest
  else some text

/-- The text after the declaration of the version, which only the start of a document may hold. -/
def skipDeclaration? (text : List Char) : Option (List Char) :=
  match Text.dropStart? "<?xml ".toList text with
  | none => some text
  | some rest => do
    let rest := skipSpaces rest
    let version ← attribute? rest
    if version.value.1 = ⟨"", "version"⟩ then
      let rest ← declarationSpaces? version.rest
      let rest ← skipAttribute? "encoding" rest
      let rest ← skipAttribute? "standalone" rest
      Text.dropStart? "?>".toList (skipSpaces rest)
    else none

/-! ## Comments and instructions -/

/-- The comment or processing instruction at the front of a text, if there is one, and what follows
it. -/
def misc? (text : List Char) : Option (Option (Taken text XmlNode)) :=
  if "<!--".toList.isPrefixOf text then (comment? text).map some
  else if "<?".toList.isPrefixOf text then (instruction? text).map some
  else some none

/-- The text after white space, comments and processing instructions. -/
def skipMisc? (text : List Char) : Option (List Char) :=
  match misc? (skipSpaces text) with
  | some (some taken) => skipMisc? taken.rest
  | some none => some (skipSpaces text)
  | none => none
termination_by text.length
decreasing_by
  have := taken.shorter
  have := length_skipSpaces_le text
  omega

/-! ## Document type -/

/-- An external identifier: a system literal, or a public and a system literal. -/
def externalId? (text : List Char) : Option (Taken text Unit) :=
  match after? "SYSTEM".toList text with
  | some word => do
    let space ← spaces? word.rest
    let location ← quoted? space.rest
    some ⟨(), location.rest, by
      have := word.shorter; have := space.shorter; have := location.shorter; omega⟩
  | none => do
    let word ← after? "PUBLIC".toList text
    let space ← spaces? word.rest
    let publicId ← quoted? space.rest
    let space' ← spaces? publicId.rest
    let location ← quoted? space'.rest
    some ⟨(), location.rest, by
      have := word.shorter; have := space.shorter; have := publicId.shorter
      have := space'.shorter; have := location.shorter; omega⟩

/-- Whether an external identifier has to follow. -/
def startsExternalId (text : List Char) : Bool :=
  "SYSTEM".toList.isPrefixOf text || "PUBLIC".toList.isPrefixOf text

/-- The text after the notation of an entity that is not parsed, if there is one. -/
def skipNotation? (text : List Char) : Option (List Char) :=
  match Text.dropStart? "NDATA".toList (skipSpaces text) with
  | some rest => do
    let space ← spaces? rest
    let name ← name? space.rest
    some name.rest
  | none => some text

/-- The value of an entity, if the document itself gives one. -/
def entityValue? (general : Bool) (text : List Char) : Option (Option (List Char) × List Char) :=
  match quoted? text with
  | some value => some (some value.value, value.rest)
  | none => do
    let id ← externalId? text
    let rest ← if general then skipNotation? id.rest else some id.rest
    some (none, rest)

/-- The declaration of an entity, given what follows its keyword: the name and the value. -/
def entityDeclaration? (text : List Char) : Option (Entities × List Char) := do
  let space ← spaces? text
  let (general, rest) ←
    match space.rest with
    | '%' :: rest => do
      let space ← spaces? rest
      some (false, space.rest)
    | rest => some (true, rest)
  let name ← name? rest
  let space ← spaces? name.rest
  let (value, rest) ← entityValue? general space.rest
  match skipSpaces rest with
  | '>' :: rest => some ((value.map fun value => (name.value, value)).toList, rest)
  | _ => none

/-- The kinds of declarations that are skipped. -/
def skippedDeclarations : List String := ["<!ELEMENT", "<!ATTLIST", "<!NOTATION"]

/-- One part of a document type: the entities that it declares, and what follows it. -/
def subsetPart? (text : List Char) : Option (Entities × List Char) :=
  match Text.dropStart? "<!ENTITY".toList text with
  | some rest => entityDeclaration? rest
  | none =>
    if skippedDeclarations.any fun start => start.toList.isPrefixOf text then do
      let skipped ← upTo? ['>'] text
      some ([], skipped.rest)
    else if "<!--".toList.isPrefixOf text then (comment? text).map fun taken => ([], taken.rest)
    else (instruction? text).map fun taken => ([], taken.rest)

/-- The declarations between the brackets of a document type, and what follows it. -/
def subset? (text : List Char) : Option (Entities × List Char) :=
  match skipSpaces text with
  | [] => some ([], [])
  | ']' :: rest =>
    match skipSpaces rest with
    | '>' :: after => some ([], after)
    | _ => none
  | part => do
    let (entities, rest) ← subsetPart? part
    if rest.length < text.length then
      let (more, after) ← subset? rest
      some (entities ++ more, after)
    else none
termination_by text.length

/-- A document type, given what follows its keyword. -/
def documentType? (text : List Char) : Option (Entities × List Char) := do
  let space ← spaces? text
  let name ← name? space.rest
  let rest := skipSpaces name.rest
  let rest ← if startsExternalId rest then (externalId? rest).map Taken.rest else some rest
  match skipSpaces rest with
  | '>' :: rest => some ([], rest)
  | '[' :: rest => subset? rest
  | _ => none

/-- The entities that the prolog declares, and what follows the prolog. -/
def prolog? (text : List Char) : Option (Entities × List Char) := do
  let rest ← skipDeclaration? (match text with
    | '\uFEFF' :: rest => rest
    | _ => text)
  let rest ← skipMisc? rest
  match Text.dropStart? "<!DOCTYPE".toList rest with
  | none => some ([], rest)
  | some typed => do
    let (entities, rest) ← documentType? typed
    let rest ← skipMisc? rest
    some (entities, rest)

end SqlPreview.Xml
