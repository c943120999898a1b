import SqlPreview.Source.Annotation
import SqlPreview.Source.Basic
import SqlPreview.Source.Word

/-!
# Members of types

Fields, methods and constants, each read from one statement of a body. Statements that are none of
them read as nothing.
-/

namespace SqlPreview.Source

/-! ## Fields -/

/-- The words that may stand before the type of a field. -/
def fieldModifiers : List String :=
  ["public", "protected", "private", "static", "final", "transient", "volatile"]

/-- Words that stand where a type would, but are none. -/
def otherKeywords : List String := ["class", "interface", "enum", "record", "return", "new"]

/-- The dimensions behind a name, counted on reversed text, and what is before them. -/
def dimsBehind (reversed : List Char) : Nat × List Char :=
  match reversed with
  | ']' :: inside =>
    match _h : Text.trimStart inside with
    | '[' :: before =>
      let (count, rest) := dimsBehind before
      (count + 1, rest)
    | _ => (0, ']' :: inside)
  | _ => (0, reversed)
termination_by reversed.length
decreasing_by
  have := length_dropWhile_le Text.isBlank inside
  rw [← Text.trimStart, _h] at this
  simp only [List.length_cons] at *; omega

/-- The modifiers that a text begins with, and what follows them. -/
def leadingModifiers (text : List Char) : List String × List Char :=
  match fieldModifiers.findSome? fun word => (keyword? word text).map fun taken => (word, taken) with
  | some (word, taken) =>
    let (words, rest) := leadingModifiers taken.rest
    (word :: words, rest)
  | none => ([], text)
termination_by text.length
decreasing_by exact taken.shorter

/-- A field before its value: modifiers, a type, a name, and perhaps dimensions that belong to the
type. Without a type the last modifier stands in for it, unless the gap before the name is wide
enough to hold a type of nothing. -/
def fieldOfDeclaration? (declaration : List Char) : Option FieldDeclaration :=
  let (dims, named) := dimsBehind declaration.reverse
  let named := Text.trimStart named
  let name := (named.takeWhile isNameChar).reverse
  let before := named.dropWhile isNameChar
  let gap := before.takeWhile Text.isBlank
  -- What is left before the name runs backwards: first the gap, then the type, then the modifiers.
  let (modifiers, type) := leadingModifiers (Text.trimStart before).reverse
  let text := String.ofList type
  if gap.isEmpty || type.isEmpty || !(name.head?.any Text.isIdentStart) then none
  else if fieldModifiers.contains text && 3 ≤ gap.length then none
  else if otherKeywords.contains text || type.getLast? == some ',' then none
  else
    some ⟨String.ofList name,
      String.ofList (type ++ (List.replicate dims ['[', ']']).flatten),
      modifiers.contains "static"⟩

/-- The field that a statement declares. -/
def field? (statement : List Char) : Option FieldDeclaration :=
  let declaration := Text.trim ((stripAnnotations statement).takeWhile (· != '='))
  if declaration.contains '(' then none else fieldOfDeclaration? declaration

/-! ## Methods -/

/-- The name in an annotation that names a parameter, if the annotation is here. -/
def bindingHere? (text : List Char) : Option (List Char) := do
  let rest ← Text.dropStart? "@Param".toList text
  let rest ← Text.dropStart? ['('] (Text.trimStart rest)
  let rest := Text.trimStart rest
  let rest :=
    match Text.dropStart? "value".toList rest with
    | some valued =>
      match Text.trimStart valued with
      | '=' :: rest => Text.trimStart rest
      | _ => rest
    | none => rest
  let rest ← Text.dropStart? ['"'] rest
  let (name, rest) ← Text.splitFirst? (· == '"') rest
  let _ ← Text.dropStart? [')'] (Text.trimStart rest)
  some name

/-- The name that the first naming annotation in a text gives. -/
def binding? : List Char → Option (List Char)
  | [] => none
  | c :: rest => bindingHere? (c :: rest) <|> binding? rest

/-- A text without the words `final` that it begins with. -/
def afterFinal (text : List Char) : List Char :=
  match _h : Text.dropStart? "final ".toList text with
  | some rest => afterFinal rest
  | none => text
termination_by text.length
decreasing_by
  rw [Text.dropStart?_eq_some.1 _h, List.length_append]
  exact Nat.lt_add_of_pos_left (by decide)

/-- A formal parameter: the type is everything before the last white space. -/
def parameter? (text : List Char) : Option ParameterDeclaration := do
  let plain := Text.trim (afterFinal (Text.trim (stripAnnotations text)))
  let (type, _) ← Text.splitLast? Text.isBlank plain
  some ⟨(binding? text).map String.ofList, Text.trimmed (String.ofList type)⟩

/-- Modifiers of methods that no mapped statement belongs to. -/
def ownBodyModifiers : List String := ["default", "static", "private"]

/-- The abstract method that a statement of an interface declares. -/
def method? (statement : List Char) : Option MethodDeclaration := do
  let (head, rest) ← Text.splitFirst? (· == '(') (afterLeadingAnnotations statement)
  let (inside, _) ← splitParens? rest
  let words := (Text.words head).map String.ofList
  let name ← words.getLast?
  let others := words.dropLast
  if others.isEmpty || others.any ownBodyModifiers.contains then none
  else
    let given := (members inside).filter fun member => !(Text.trim member).isEmpty
    some ⟨name, given.filterMap parameter?⟩

/-! ## Constants -/

/-- The names of the constants in the first statement of an enumeration. -/
def constants (statement : List Char) : List String :=
  (members statement).filterMap fun member =>
    (name? (Text.trim (stripAnnotations member))).map fun taken => String.ofList taken.value

end SqlPreview.Source
