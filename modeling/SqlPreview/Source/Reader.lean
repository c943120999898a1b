import SqlPreview.Source.Comment
import SqlPreview.Source.Member

/-!
# Reading source files

A source file is searched for its package, its imports and its type declarations, wherever they
stand. Nested types are found like all others.
-/

namespace SqlPreview.Source

/-- A character of a dotted name. -/
def isDottedChar (c : Char) : Bool := Text.isWordChar c || c == '.'

/-- The text after white space and a semicolon. -/
def afterSemicolon? (text : List Char) : Option (List Char) :=
  Text.dropStart? [';'] (Text.trimStart text)

theorem length_afterSemicolon?_lt {text rest : List Char} (h : afterSemicolon? text = some rest) :
    rest.length < text.length := by
  have := Text.dropStart?_eq_some.1 h
  have bound := length_dropWhile_le Text.isBlank text
  rw [← Text.trimStart, this, List.length_append] at bound
  simp only [List.length_singleton] at bound; omega

/-- A dotted name with a semicolon behind it. -/
def dottedName? (text : List Char) : Option (Taken text (List Char)) :=
  if (text.takeWhile isDottedChar).isEmpty then none
  else
    match h : afterSemicolon? (text.dropWhile isDottedChar) with
    | some rest => some ⟨text.takeWhile isDottedChar, rest,
        Nat.lt_of_lt_of_le (length_afterSemicolon?_lt h) (length_dropWhile_le _ _)⟩
    | none => none

/-- A dotted name that ends in a star, with a semicolon behind it. -/
def wildcardName? (text : List Char) : Option (Taken text (List Char)) :=
  let name := text.takeWhile isDottedChar
  if name.length < 2 || name.getLast? != some '.' then none
  else
    match g : text.dropWhile isDottedChar with
    | '*' :: star =>
      match h : afterSemicolon? star with
      | some rest => some ⟨name ++ ['*'], rest, by
          have := length_afterSemicolon?_lt h
          have := length_dropWhile_le isDottedChar text
          rw [g, List.length_cons] at this
          omega⟩
      | none => none
    | _ => none

def importedName? (text : List Char) : Option (Taken text (List Char)) :=
  match dottedName? text with
  | some taken => some taken
  | none => wildcardName? text

/-- A package declaration. -/
def package? (text : List Char) : Option (Taken text (List Char)) := do
  let word ← keyword? "package" text
  let name ← dottedName? word.rest
  some (name.widen (Nat.le_of_lt word.shorter))

/-- The static import of a member, which names no type. -/
def staticImport? (text : List Char) : Option (Taken text (List Char)) := do
  let word ← keyword? "static" text
  let name ← importedName? word.rest
  some (name.widen (Nat.le_of_lt word.shorter))

/-- An import: the name, unless it is one of a member. -/
def import? (text : List Char) : Option (Taken text (Option (List Char))) := do
  let word ← keyword? "import" text
  let imported ←
    match staticImport? word.rest with
    | some member => some (member.map fun _ => none)
    | none => (importedName? word.rest).map fun name => name.map some
  some (imported.widen (Nat.le_of_lt word.shorter))

/-! ## Types -/

/-- The kinds of types, by the words that declare them. -/
def typeKeywords : List (String × ClassKind) :=
  [("class", .ordinary), ("interface", .interface), ("enum", .enumeration)]

/-- The text after the angle bracket that closes an opened one, where `depth` further ones are
open. -/
def afterAngles? (depth : Nat) : List Char → Option (List Char)
  | [] => none
  | '<' :: rest => afterAngles? (depth + 1) rest
  | '>' :: rest =>
    match depth with
    | 0 => some rest
    | depth + 1 => afterAngles? depth rest
  | _ :: rest => afterAngles? depth rest

/-- The header of a type without its type parameters. -/
def afterTypeParameters (header : List Char) : List Char :=
  match Text.trimStart header with
  | '<' :: rest => (afterAngles? 0 rest).getD header
  | _ => header

/-- The superclass of a header ends before its interfaces and before white space at its end. -/
def endsSuperclass (text : List Char) : Bool :=
  text.all Text.isBlank ||
    (text.head?.any Text.isBlank &&
      match Text.dropStart? "implements".toList (Text.trimStart text) with
      | some rest => !(rest.head?.any Text.isWordChar)
      | none => false)

/-- The text of a superclass behind its first character. -/
def superclassTail : List Char → List Char
  | [] => []
  | c :: rest => if endsSuperclass (c :: rest) then [] else c :: superclassTail rest

/-- The superclass that the header of a class names. -/
def superclass? (header : List Char) : Option String := do
  let word ← keyword? "extends" (Text.trimStart (afterTypeParameters header))
  match word.rest with
  | [] => none
  | c :: rest => some (Text.trimmed (String.ofList (c :: superclassTail rest)))

/-- The declaration of a type with this name, header and body. -/
def typeOfBody (kind : ClassKind) (name header body : List Char) : TypeDeclaration :=
  let name := String.ofList name
  let members := statements body
  match kind with
  | .ordinary => ⟨name, kind, superclass? header, members.filterMap field?, [], []⟩
  | .interface => ⟨name, kind, none, [], members.filterMap method?, []⟩
  | .enumeration =>
    ⟨name, kind, none, members.tail.filterMap field?, [], constants (members.headD [])⟩

/-- The declaration of a type, given what follows its name, if it has a body. -/
def typeWithBody? (kind : ClassKind) (name text : List Char) : Option TypeDeclaration := do
  let (header, rest) ← Text.splitFirst? (· == '{') text
  let (body, _) ← splitBraces? rest
  if header.contains ';' then none else some (typeOfBody kind name header body)

/-- A word that declares a type, and the name behind it. What it declares, if anything, depends on
what follows; behind an at sign it declares an annotation. -/
def typeHere? (previous : Option Char) (text : List Char) :
    Option (Taken text (Option TypeDeclaration)) := do
  let (kind, word) ← typeKeywords.findSome? fun (keyword, kind) =>
    (keyword? keyword text).map fun taken => (kind, taken)
  let name ← name? word.rest
  let declared := if previous == some '@' then none else typeWithBody? kind name.value name.rest
  some ⟨declared, name.rest, Nat.lt_trans name.shorter word.shorter⟩

/-- A source file, from its text without comments. -/
def fileOfCode (code : List Char) : SourceFile :=
  { package := String.ofList ((occurrences (fun _ => package?) none code).headD [])
    imports := (occurrences (fun _ => import?) none code).filterMap fun name =>
      name.map String.ofList
    types := (occurrences typeHere? none code).filterMap id }

/-- The source file that a text is. -/
def read (text : String) : SourceFile := fileOfCode (stripComments text.toList)

end SqlPreview.Source
