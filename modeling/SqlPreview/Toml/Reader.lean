import SqlPreview.Toml.Scalar
import SqlPreview.Toml.Text

/-!
# Reading TOML

A document is a sequence of lines: entries, headers, comments and empty lines.
-/

namespace SqlPreview.Toml

/-- The text after a comment, if one is here, which ends with its line. -/
def skipComment? (text : List Char) : Option (List Char) :=
  match text with
  | '#' :: rest =>
    match rest.dropWhile isPlainChar with
    | [] => some []
    | c :: after => (lineEnd? (c :: after)).map fun _ => c :: after
  | _ => some text

/-- The text after white space, line ends and comments. -/
def skipBetween? (text : List Char) : Option (List Char) :=
  match _h : skipLines text with
  | '#' :: rest =>
    match _g : skipComment? ('#' :: rest) with
    | none => none
    -- A comment has at least its mark, so the condition always holds.
    | some after => if after.length < text.length then skipBetween? after else none
  | rest => some rest
termination_by text.length

theorem length_skipBetween?_le {text rest : List Char} (h : skipBetween? text = some rest) :
    rest.length ≤ text.length := by
  fun_induction skipBetween? text with
  | case1 => simp at h
  | case2 text tail found after _ shorter ih =>
    have := ih h
    omega
  | case3 => simp at h
  | case4 text _ =>
    cases h
    exact length_skipLines_le text

mutual

/-- A value, below which arrays and tables may nest `room` deep. -/
def value? (room : Nat) (text : List Char) : Option (Taken text Toml) :=
  match room, text with
  | _, [] => none
  | 0, _ :: _ => none
  | room + 1, c :: rest =>
    if c == '"' || c == '\'' then
      (string? (c :: rest)).map fun taken => taken.map fun s => .string (String.ofList s)
    else if c == '[' then do
      let items ← items? room rest
      some ((items.map .array).widen (by simp))
    else if c == '{' then do
      let entries ← braced? room rest
      let table ← inlineTable entries.value
      some ((entries.map fun _ => table).widen (by simp))
    else scalarValue? (c :: rest)
termination_by (room, 2 * text.length)

/-- The items of an array, given what follows its opening bracket or a comma. -/
def items? (room : Nat) (text : List Char) : Option (Taken text (List Toml)) :=
  match h : skipBetween? text with
  | none => none
  | some [] => none
  | some (']' :: rest) => some ⟨[], rest, by
      have := length_skipBetween?_le h
      simp only [List.length_cons] at this; omega⟩
  | some start => do
    have atMost := length_skipBetween?_le h
    let item ← value? room start
    match g : skipBetween? item.rest with
    | some (',' :: rest) => do
      have shorter : rest.length < text.length := by
        have := length_skipBetween?_le g; have := item.shorter
        simp only [List.length_cons] at *; omega
      let more ← items? room rest
      some ⟨item.value :: more.value, more.rest, Nat.lt_trans more.shorter shorter⟩
    | some (']' :: rest) => some ⟨[item.value], rest, by
        have := length_skipBetween?_le h; have := length_skipBetween?_le g
        have := item.shorter
        simp only [List.length_cons] at *; omega⟩
    | _ => none
termination_by (room, 2 * text.length + 1)

/-- The entries of a table in braces, given what follows its opening brace. -/
def braced? (room : Nat) (text : List Char) : Option (Taken text (List (KeyPath × Toml))) :=
  match h : skipGap text with
  | '}' :: rest => some ⟨[], rest, by
      have := length_skipGap_le text
      rw [h, List.length_cons] at this; omega⟩
  | _ => entries? room text
termination_by (room, 2 * text.length + 3)

/-- Entries with commas between them, up to the closing brace. -/
def entries? (room : Nat) (text : List Char) : Option (Taken text (List (KeyPath × Toml))) := do
  let one ← keyValue? room text
  match h : skipGap one.rest with
  | ',' :: rest => do
    have shorter : rest.length < text.length := by
      have := length_skipGap_le one.rest; have := one.shorter
      rw [h] at *
      simp only [List.length_cons] at *; omega
    let more ← entries? room rest
    some ⟨one.value :: more.value, more.rest, Nat.lt_trans more.shorter shorter⟩
  | '}' :: rest => some ⟨[one.value], rest, by
      have := length_skipGap_le one.rest; have := one.shorter
      rw [h] at *
      simp only [List.length_cons] at *; omega⟩
  | _ => none
termination_by (room, 2 * text.length + 2)

/-- A key with its value. -/
def keyValue? (room : Nat) (text : List Char) : Option (Taken text (KeyPath × Toml)) := do
  let parts ← keyParts? text
  let key ← parts.value.getLast?
  match h : skipGap parts.rest with
  | '=' :: rest => do
    have shorter : (skipGap rest).length < text.length := by
      have := length_skipGap_le parts.rest; have := length_skipGap_le rest
      have := parts.shorter
      rw [h] at *
      simp only [List.length_cons] at *; omega
    let value ← value? room (skipGap rest)
    some ⟨(⟨parts.value.dropLast, key⟩, value.value), value.rest,
      Nat.lt_trans value.shorter shorter⟩
  | _ => none
termination_by (room, 2 * text.length + 1)

end

/-! ## Documents -/

/-- How deep values may nest. -/
def maxNesting : Nat := 80

/-- The text after the rest of a line: white space, perhaps a comment, and the line end. -/
def afterLine? (text : List Char) : Option (List Char) := do
  match ← skipComment? (skipGap text) with
  | [] => some []
  | rest => (lineEnd? rest).map Taken.rest

/-- The header of a section, given what follows its opening brackets, up to the closing ones. -/
def header? (listed : Bool) (text : List Char) : Option (KeyPath × List Char) := do
  let parts ← keyParts? text
  let key ← parts.value.getLast?
  let rest ← Text.dropStart? (if listed then [']', ']'] else [']']) parts.rest
  some (⟨parts.value.dropLast, key⟩, rest)

/-- A part of a document that is not blank. -/
inductive Line where
  | entry (entry : KeyPath × Toml)
  | header (listed : Bool) (header : KeyPath)

/-- An entry or a header, and what follows on its line. -/
def line? (text : List Char) : Option (Line × List Char) :=
  match text with
  | '[' :: '[' :: rest => (header? true rest).map fun (header, after) => (.header true header, after)
  | '[' :: rest => (header? false rest).map fun (header, after) => (.header false header, after)
  | text => (keyValue? maxNesting text).map fun taken => (.entry taken.value, taken.rest)

/-- The lines of a document. -/
def lines? (text : List Char) : Option (List Line) :=
  match skipBetween? text with
  | none => none
  | some [] => some []
  | some start => do
    let (line, rest) ← line? start
    let rest ← afterLine? rest
    -- A line holds at least one character, so the condition always holds.
    if rest.length < text.length then
      let more ← lines? rest
      some (line :: more)
    else none
termination_by text.length

/-- The entries before the first header, and the sections. -/
def sections : List Line → List (KeyPath × Toml) × List Section
  | [] => ([], [])
  | .entry entry :: rest =>
    let (entries, parts) := sections rest
    (entry :: entries, parts)
  | .header listed header :: rest =>
    let (entries, parts) := sections rest
    ([], ⟨listed, header, entries⟩ :: parts)

/-- The table of a document. -/
def readChars? (text : List Char) : Option Toml := do
  let lines ← lines? (match text with
    | '\uFEFF' :: rest => rest
    | _ => text)
  let (entries, parts) := sections lines
  document entries parts

/-- The table of a document as text. -/
def read? (text : String) : Option Toml := readChars? text.toList

end SqlPreview.Toml
