import SqlPreview.Json.Number
import SqlPreview.Taken
import SqlPreview.Text.Cut

/-!
# Reading JSON

A reader that stops at the first fault and says where: faults know the input that was still
unread, from which `Json.read` computes a line and a column in bytes. Arrays and objects may nest
`Json.maxNesting` deep.
-/

namespace SqlPreview

/-- What can be wrong with a JSON text. -/
inductive JsonProblem where
  | endInValue
  | endInList
  | endInObject
  | endInString
  | expectedValue
  | expectedName
  | expectedColon
  | expectedListCommaOrEnd
  | expectedObjectCommaOrEnd
  | keyNotString
  | trailingComma
  | trailingCharacters
  | invalidNumber
  | numberOutOfRange
  | invalidEscape
  | endOfHexEscape
  | loneSurrogate
  | controlCharacter
  | tooDeep
deriving DecidableEq, Repr

def JsonProblem.message : JsonProblem → String
  | .endInValue => "EOF while parsing a value"
  | .endInList => "EOF while parsing a list"
  | .endInObject => "EOF while parsing an object"
  | .endInString => "EOF while parsing a string"
  | .expectedValue => "expected value"
  | .expectedName => "expected ident"
  | .expectedColon => "expected `:`"
  | .expectedListCommaOrEnd => "expected `,` or `]`"
  | .expectedObjectCommaOrEnd => "expected `,` or `\x7d`"
  | .keyNotString => "key must be a string"
  | .trailingComma => "trailing comma"
  | .trailingCharacters => "trailing characters"
  | .invalidNumber => "invalid number"
  | .numberOutOfRange => "number out of range"
  | .invalidEscape => "invalid escape"
  | .endOfHexEscape => "unexpected end of hex escape"
  | .loneSurrogate => "lone leading surrogate in hex escape"
  | .controlCharacter => "control character (\\u0000-\\u001F) found while parsing a string"
  | .tooDeep => "recursion limit exceeded"

/-- A problem, and where it was seen: `ahead` bytes after the start of `unread`. -/
structure JsonFault where
  problem : JsonProblem
  unread : List Char
  ahead : Nat

/-- A fault of a JSON text by line, counted from one, and column, in bytes since the line began. -/
structure JsonError where
  problem : JsonProblem
  line : Nat
  column : Nat
deriving DecidableEq, Repr

namespace Json

/-- How deep arrays and objects may nest. -/
def maxNesting : Nat := 127

def isBlank (c : Char) : Bool := c == ' ' || c == '\n' || c == '\t' || c == '\r'

def skipBlanks (text : List Char) : List Char := text.dropWhile isBlank

/-- A fault about the next character, or about the end of the text. -/
def faultAt (problem : JsonProblem) (unread : List Char) : JsonFault := ⟨problem, unread, 1⟩

/-- A fault about what has just been read. -/
def faultBefore (problem : JsonProblem) (unread : List Char) : JsonFault := ⟨problem, unread, 0⟩

/-! ## Strings -/

/-- Four hexadecimal digits. The fault counts four bytes, whatever characters they belong to. -/
def hexUnit (text : List Char) : Except JsonFault (Taken text Nat) :=
  match text with
  | a :: b :: c :: d :: rest =>
    match Text.hexValue? a, Text.hexValue? b, Text.hexValue? c, Text.hexValue? d with
    | some a, some b, some c, some d =>
      .ok ⟨((a * 16 + b) * 16 + c) * 16 + d, rest, by simp only [List.length_cons]; omega⟩
    | _, _, _, _ => .error ⟨.invalidEscape, text, 4⟩
  | _ =>
    if Text.utf8Size text < 4 then .error (faultBefore .endInString [])
    else .error ⟨.invalidEscape, text, 4⟩

/-- The second half of a surrogate pair, introduced by `\u`. -/
def lowSurrogate (text : List Char) : Except JsonFault (Taken text Nat) :=
  match text with
  | [] => .error (faultBefore .endInString [])
  | '\\' :: [] => .error (faultBefore .endInString [])
  | '\\' :: 'u' :: rest => do
    let unit ← hexUnit rest
    if 0xDC00 ≤ unit.value && unit.value ≤ 0xDFFF then
      pure (unit.widen (by simp only [List.length_cons]; omega))
    else .error (faultBefore .loneSurrogate unit.rest)
  | '\\' :: rest => .error (faultAt .endOfHexEscape rest)
  | text => .error (faultAt .endOfHexEscape text)

/-- The character of a `\u` escape, given what follows the `u`. -/
def unicodeEscape (text : List Char) : Except JsonFault (Taken text Char) := do
  let unit ← hexUnit text
  if 0xDC00 ≤ unit.value && unit.value ≤ 0xDFFF then
    .error (faultBefore .loneSurrogate unit.rest)
  else if 0xD800 ≤ unit.value && unit.value ≤ 0xDBFF then do
    let low ← lowSurrogate unit.rest
    let code := (unit.value - 0xD800) * 0x400 + (low.value - 0xDC00) + 0x10000
    pure ⟨Char.ofNat code, low.rest, Nat.lt_trans low.shorter unit.shorter⟩
  else pure (unit.map Char.ofNat)

/-- The character that a one-letter escape stands for. -/
def simpleEscape? : Char → Option Char
  | '"' => some '"'
  | '\\' => some '\\'
  | '/' => some '/'
  | 'b' => some '\x08'
  | 'f' => some '\x0c'
  | 'n' => some '\n'
  | 'r' => some '\r'
  | 't' => some '\t'
  | _ => none

/-- The characters of a string, given what follows its opening quote. -/
def stringBody (text : List Char) : Except JsonFault (Taken text (List Char)) :=
  match text with
  | [] => .error (faultBefore .endInString [])
  | '"' :: rest => .ok ⟨[], rest, by simp⟩
  | '\\' :: [] => .error (faultBefore .endInString [])
  | '\\' :: 'u' :: rest => do
    let char ← unicodeEscape rest
    let body ← stringBody char.rest
    pure ⟨char.value :: body.value, body.rest, by
      have := char.shorter; have := body.shorter; simp only [List.length_cons]; omega⟩
  | '\\' :: c :: rest =>
    match simpleEscape? c with
    | none => .error (faultAt .invalidEscape (c :: rest))
    | some escaped => do
      let body ← stringBody rest
      pure ⟨escaped :: body.value, body.rest, by
        have := body.shorter; simp only [List.length_cons]; omega⟩
  | c :: rest =>
    if c.toNat < 0x20 then .error (faultAt .controlCharacter (c :: rest))
    else do
      let body ← stringBody rest
      pure ⟨c :: body.value, body.rest, by
        have := body.shorter; simp only [List.length_cons]; omega⟩
termination_by text.length
decreasing_by
  all_goals simp only [List.length_cons]
  · have := char.shorter; omega
  · omega
  · omega

/-! ## Numbers -/

/-- What is unread when the value of exponent digits leaves 31 bits, if it does. -/
def exponentOverflow? (value : Nat) : List Char → Option (List Char)
  | [] => none
  | c :: rest =>
    if !Text.isAsciiDigit c then none
    else
      let grown := 10 * value + Text.digitValue c
      if 0x80000000 ≤ grown then some rest else exponentOverflow? grown rest

/-- A floating number with its sign. -/
def signedFloating (negative : Bool) (x : Number.Floating) : JsonNumber :=
  .floating (if negative then x.neg else x)

/-- The number that a significand and an exponent denote. -/
def scaledNumber {input : List Char} (negative : Bool) (significand : Nat) (exponent : Int)
    (rest : List Char) (h : rest.length < input.length) :
    Except JsonFault (Taken input JsonNumber) :=
  match JsonNumber.fromParts significand exponent with
  | some x => .ok ⟨signedFloating negative x, rest, h⟩
  | none => .error (faultBefore .numberOutOfRange rest)

/-- The sign of an exponent: whether it points down, and the text after it. -/
def exponentSign : List Char → Bool × List Char
  | '+' :: rest => (false, rest)
  | '-' :: rest => (true, rest)
  | text => (false, text)

theorem length_exponentSign_le (text : List Char) :
    (exponentSign text).2.length ≤ text.length := by
  unfold exponentSign
  split <;> simp

/-- What follows the exponent mark. -/
def exponentPart {input : List Char} (negative : Bool) (significand : Nat) (exponent : Int)
    (text : List Char) (h : text.length < input.length) :
    Except JsonFault (Taken input JsonNumber) :=
  let down := (exponentSign text).1
  let unsigned := (exponentSign text).2
  let rest := unsigned.dropWhile Text.isAsciiDigit
  have shorter : rest.length < input.length := by
    have : unsigned.length ≤ text.length := length_exponentSign_le text
    have : rest.length ≤ unsigned.length := length_dropWhile_le _ _
    omega
  let digits := unsigned.takeWhile Text.isAsciiDigit
  if digits.isEmpty then
    if unsigned.isEmpty then .error (faultBefore .endInValue [])
    else .error (faultAt .invalidNumber unsigned)
  else
    match exponentOverflow? 0 unsigned with
    | some unread =>
      if significand != 0 && !down then .error (faultBefore .numberOutOfRange unread)
      else .ok ⟨signedFloating negative (.zero .double false), rest, shorter⟩
    | none =>
      let written : Int := Text.digitsValue digits
      scaledNumber negative significand (if down then exponent - written else exponent + written)
        rest shorter

/-- The exponent of a number, if the text goes on with one. -/
def afterDigits {input : List Char} (negative : Bool) (significand : Nat) (exponent : Int)
    (text : List Char) (h : text.length < input.length) :
    Except JsonFault (Taken input JsonNumber) :=
  match text with
  | c :: rest =>
    if c == 'e' || c == 'E' then
      exponentPart negative significand exponent rest (by simp only [List.length_cons] at h; omega)
    else scaledNumber negative significand exponent (c :: rest) h
  | [] => scaledNumber negative significand exponent [] h

/-- What follows the decimal point. -/
def fractionPart {input : List Char} (negative : Bool) (significand : Nat) (exponent : Int)
    (text : List Char) (h : text.length < input.length) :
    Except JsonFault (Taken input JsonNumber) :=
  let digits := text.takeWhile Text.isAsciiDigit
  if digits.isEmpty then
    if text.isEmpty then .error (faultBefore .endInValue [])
    else .error (faultAt .invalidNumber text)
  else
    let (significand, count) := JsonNumber.absorb significand digits
    afterDigits negative significand (exponent - count) (text.dropWhile Text.isAsciiDigit)
      (Nat.lt_of_le_of_lt (length_dropWhile_le _ _) h)

/-- A number without its sign. -/
def numberBody (input : List Char) (negative : Bool) (text : List Char)
    (h : text.length ≤ input.length) : Except JsonFault (Taken input JsonNumber) :=
  match text with
  | [] => .error (faultBefore .endInValue [])
  | d :: more =>
    let digits := more.takeWhile Text.isAsciiDigit
    let rest := more.dropWhile Text.isAsciiDigit
    have shorter : rest.length < input.length := by
      have : rest.length ≤ more.length := length_dropWhile_le _ _
      simp only [List.length_cons] at h
      omega
    if !Text.isAsciiDigit d then .error (faultAt .invalidNumber (d :: more))
    else if d == '0' && !digits.isEmpty then .error (faultAt .invalidNumber more)
    else
      let (significand, count) := JsonNumber.absorb 0 (d :: digits)
      let dropped : Int := (digits.length + 1 - count : Nat)
      if rest.head? = some '.' then
        fractionPart negative significand dropped rest.tail
          (by simp only [List.length_tail]; omega)
      else if dropped = 0 && rest.head? != some 'e' && rest.head? != some 'E' then
        .ok ⟨.ofInteger negative significand, rest, shorter⟩
      else afterDigits negative significand dropped rest shorter

/-! ## Values -/

/-- The rest of a fixed name, of which the first letter was already read. -/
def restOfName {input : List Char} (value : Json) (expected : List Char) (text : List Char)
    (h : text.length < input.length) : Except JsonFault (Taken input Json) :=
  match expected, text with
  | [], text => .ok ⟨value, text, h⟩
  | _ :: _, [] => .error (faultBefore .endInValue [])
  | e :: expected, c :: rest =>
    if e == c then
      restOfName value expected rest (by simp only [List.length_cons] at h; omega)
    else .error (faultAt .expectedName (c :: rest))

/-- A reader of one value at the front of a text. -/
abbrev ValueReader := (text : List Char) → Except JsonFault (Taken text Json)

/-- The items of an array after its first, with the closing bracket. -/
def moreItems (value : ValueReader) (text : List Char) :
    Except JsonFault (Taken text (List Json)) :=
  match h : skipBlanks text with
  | [] => .error (faultAt .endInList [])
  | ']' :: rest => .ok ⟨[], rest, by
      have := length_dropWhile_le isBlank text; rw [← skipBlanks, h] at this
      simp only [List.length_cons] at this; omega⟩
  | ',' :: rest =>
    have atMost : rest.length < text.length := by
      have := length_dropWhile_le isBlank text; rw [← skipBlanks, h] at this
      simp only [List.length_cons] at this; omega
    match skipBlanks rest with
    | [] => .error (faultAt .endInValue [])
    | ']' :: after => .error (faultAt .trailingComma (']' :: after))
    | _ => do
      let item ← value rest
      let items ← moreItems value item.rest
      pure ⟨item.value :: items.value, items.rest, by
        have := item.shorter; have := items.shorter; omega⟩
  | c :: rest => .error (faultAt .expectedListCommaOrEnd (c :: rest))
termination_by text.length
decreasing_by have := item.shorter; omega

/-- The items of an array, given what follows its opening bracket. -/
def items (value : ValueReader) (text : List Char) : Except JsonFault (Taken text (List Json)) :=
  match h : skipBlanks text with
  | [] => .error (faultAt .endInList [])
  | ']' :: rest => .ok ⟨[], rest, by
      have := length_dropWhile_le isBlank text; rw [← skipBlanks, h] at this
      simp only [List.length_cons] at this; omega⟩
  | _ => do
    let item ← value text
    let items ← moreItems value item.rest
    pure ⟨item.value :: items.value, items.rest, Nat.lt_trans items.shorter item.shorter⟩

/-- A field of an object, given what follows the opening quote of its name. -/
def field (value : ValueReader) (text : List Char) :
    Except JsonFault (Taken text (String × Json)) := do
  let name ← stringBody text
  match h : skipBlanks name.rest with
  | [] => .error (faultAt .endInObject [])
  | ':' :: rest =>
    let item ← value rest
    pure ⟨(String.ofList name.value, item.value), item.rest, by
      have := length_dropWhile_le isBlank name.rest; rw [← skipBlanks, h] at this
      have := item.shorter; have := name.shorter
      simp only [List.length_cons] at *; omega⟩
  | c :: rest => .error (faultAt .expectedColon (c :: rest))

/-- The fields of an object after its first, with the closing brace. -/
def moreFields (value : ValueReader) (text : List Char) :
    Except JsonFault (Taken text (List (String × Json))) :=
  match h : skipBlanks text with
  | [] => .error (faultAt .endInObject [])
  | '}' :: rest => .ok ⟨[], rest, by
      have := length_dropWhile_le isBlank text; rw [← skipBlanks, h] at this
      simp only [List.length_cons] at this; omega⟩
  | ',' :: rest =>
    match g : skipBlanks rest with
    | [] => .error (faultAt .endInValue [])
    | '"' :: named =>
      have shorter : named.length < text.length := by
        have := length_dropWhile_le isBlank text; rw [← skipBlanks, h] at this
        have := length_dropWhile_le isBlank rest; rw [← skipBlanks, g] at this
        simp only [List.length_cons] at *; omega
      do
        let one ← field value named
        let others ← moreFields value one.rest
        pure ⟨one.value :: others.value, others.rest, by
          have := one.shorter; have := others.shorter; omega⟩
    | '}' :: after => .error (faultAt .trailingComma ('}' :: after))
    | c :: after => .error (faultAt .keyNotString (c :: after))
  | c :: rest => .error (faultAt .expectedObjectCommaOrEnd (c :: rest))
termination_by text.length
decreasing_by have := one.shorter; omega

/-- The fields of an object, given what follows its opening brace. -/
def fields (value : ValueReader) (text : List Char) :
    Except JsonFault (Taken text (List (String × Json))) :=
  match h : skipBlanks text with
  | [] => .error (faultAt .endInObject [])
  | '}' :: rest => .ok ⟨[], rest, by
      have := length_dropWhile_le isBlank text; rw [← skipBlanks, h] at this
      simp only [List.length_cons] at this; omega⟩
  | '"' :: named => do
    let one ← field value named
    let others ← moreFields value one.rest
    pure ⟨one.value :: others.value, others.rest, by
      have bound := length_dropWhile_le isBlank text; rw [← skipBlanks, h] at bound
      have := one.shorter; have := others.shorter
      simp only [List.length_cons] at bound; omega⟩
  | c :: rest => .error (faultAt .keyNotString (c :: rest))

/-- A value, when the items of arrays and the fields of objects are read as given. -/
def valueWith (array : (text : List Char) → Except JsonFault (Taken text (List Json)))
    (object : (text : List Char) → Except JsonFault (Taken text (List (String × Json)))) :
    ValueReader := fun text =>
  match h : skipBlanks text with
  | [] => .error (faultAt .endInValue [])
  | first :: rest =>
    have shorter : rest.length < text.length := by
      have := length_dropWhile_le isBlank text
      rw [← skipBlanks, h] at this
      exact this
    match first with
    | 'n' => restOfName .null ['u', 'l', 'l'] rest shorter
    | 't' => restOfName (.boolean true) ['r', 'u', 'e'] rest shorter
    | 'f' => restOfName (.boolean false) ['a', 'l', 's', 'e'] rest shorter
    | '-' => do
      let n ← numberBody text true rest (Nat.le_of_lt shorter)
      pure (n.map .number)
    | '"' => do
      let body ← stringBody rest
      pure ((body.map fun s => Json.string (String.ofList s)).widen (Nat.le_of_lt shorter))
    | '[' => do
      let items ← array rest
      pure ((items.map .array).widen (Nat.le_of_lt shorter))
    | '{' => do
      let pairs ← object rest
      pure ((pairs.map fun pairs => Json.object (Dict.ofPairs pairs)).widen (Nat.le_of_lt shorter))
    | c =>
      if Text.isAsciiDigit c then do
        let n ← numberBody text false (c :: rest) shorter
        pure (n.map .number)
      else .error (faultAt .expectedValue (c :: rest))

/-- A value below which arrays and objects may nest `room` deep. -/
def value (room : Nat) : ValueReader :=
  match room with
  | 0 =>
    valueWith (fun text => .error (faultBefore .tooDeep text))
      (fun text => .error (faultBefore .tooDeep text))
  | room + 1 => valueWith (items (value room)) (fields (value room))

/-! ## Texts -/

/-- The line and the column of a byte of a text: lines count from one, columns are the bytes since
the line began. -/
def position (text : List Char) (offset : Nat) : Nat × Nat :=
  go text offset 1 0
where
  go : List Char → Nat → Nat → Nat → Nat × Nat
    | [], _, line, column => (line, column)
    | c :: rest, left, line, column =>
      if left < c.utf8Size then (line, column + left)
      else if c == '\n' then go rest (left - 1) (line + 1) 0
      else go rest (left - c.utf8Size) line (column + c.utf8Size)

/-- Where in a text a fault was seen. -/
def JsonFault.locate (fault : JsonFault) (text : List Char) : JsonError :=
  let whole := Text.utf8Size text
  let offset := min whole (whole - Text.utf8Size fault.unread + fault.ahead)
  let (line, column) := position text offset
  ⟨fault.problem, line, column⟩

/-- The value that is the whole of a text, white space around it apart. -/
def readChars (text : List Char) : Except JsonFault Json := do
  let taken ← value maxNesting text
  match skipBlanks taken.rest with
  | [] => pure taken.value
  | rest => .error (faultAt .trailingCharacters rest)

/-- Reads a JSON text. -/
def read (text : String) : Except JsonError Json :=
  match readChars text.toList with
  | .ok json => .ok json
  | .error fault => .error (JsonFault.locate fault text.toList)

/-- A number without its sign that is the whole of a text. -/
def wholeNumber? (negative : Bool) (text : List Char) : Option JsonNumber :=
  match numberBody text negative text (Nat.le_refl _) with
  | .ok taken => if taken.rest.isEmpty then some taken.value else none
  | .error _ => none

/-- A number that is the whole of a text, with nothing around it. -/
def readNumber? (text : String) : Option JsonNumber :=
  match text.toList with
  | '-' :: rest => wholeNumber? true rest
  | unsigned => wholeNumber? false unsigned

end Json

end SqlPreview
