import SqlPreview.Taken
import SqlPreview.Text.Cut
import SqlPreview.Text.Letter

/-!
# Strings and keys of TOML

Strings between single or double quotes, on one line or, between tripled quotes, on several. Only
double quotes know escapes.
-/

namespace SqlPreview.Toml

/-- A character that may stand in comments and between single quotes. -/
def isPlainChar (c : Char) : Bool := c == '\t' || (0x20 ≤ c.toNat && c.toNat != 0x7F)

/-- White space inside a line. -/
def isGap (c : Char) : Bool := c == ' ' || c == '\t'

def skipGap (text : List Char) : List Char := text.dropWhile isGap

theorem length_skipGap_le (text : List Char) : (skipGap text).length ≤ text.length :=
  length_dropWhile_le isGap text

/-- The text after a line end. -/
def lineEnd? (text : List Char) : Option (Taken text Unit) :=
  match text with
  | '\n' :: rest => some ⟨(), rest, Nat.lt_succ_self _⟩
  | '\r' :: '\n' :: rest => some ⟨(), rest, Nat.lt_succ_of_lt (Nat.lt_succ_self _)⟩
  | _ => none

/-- The character of a code point that hexadecimal digits name. -/
def charOfHex? (digits : List Char) : Option Char := do
  let values ← digits.mapM Text.hexValue?
  let code := values.foldl (fun n d => 16 * n + d) 0
  if code.isValidChar then some (Char.ofNat code) else none

/-- An escape, given what follows its backslash. -/
def escape? (text : List Char) : Option (Taken text Char) :=
  match text with
  | 'b' :: rest => some ⟨'\x08', rest, Nat.lt_succ_self _⟩
  | 't' :: rest => some ⟨'\t', rest, Nat.lt_succ_self _⟩
  | 'n' :: rest => some ⟨'\n', rest, Nat.lt_succ_self _⟩
  | 'f' :: rest => some ⟨'\x0c', rest, Nat.lt_succ_self _⟩
  | 'r' :: rest => some ⟨'\r', rest, Nat.lt_succ_self _⟩
  | '"' :: rest => some ⟨'"', rest, Nat.lt_succ_self _⟩
  | '\\' :: rest => some ⟨'\\', rest, Nat.lt_succ_self _⟩
  | 'u' :: rest =>
    if rest.length < 4 then none
    else (charOfHex? (rest.take 4)).map fun c =>
      ⟨c, rest.drop 4, Nat.lt_succ_of_le (List.drop_sublist 4 rest).length_le⟩
  | 'U' :: rest =>
    if rest.length < 8 then none
    else (charOfHex? (rest.take 8)).map fun c =>
      ⟨c, rest.drop 8, Nat.lt_succ_of_le (List.drop_sublist 8 rest).length_le⟩
  | _ => none

/-- The rest of a string on one line, given what follows its opening quote. -/
def lineString? (quote : Char) (text : List Char) : Option (Taken text (List Char)) :=
  match text with
  | [] => none
  | c :: rest =>
    if c == quote then some ⟨[], rest, Nat.lt_succ_self _⟩
    else if c == '\\' && quote == '"' then do
      let escaped ← escape? rest
      let more ← lineString? quote escaped.rest
      some ⟨escaped.value :: more.value, more.rest,
        Nat.lt_succ_of_lt (Nat.lt_trans more.shorter escaped.shorter)⟩
    else if isPlainChar c then do
      let more ← lineString? quote rest
      some ⟨c :: more.value, more.rest, Nat.lt_succ_of_lt more.shorter⟩
    else none
termination_by text.length
decreasing_by
  · exact Nat.lt_succ_of_lt escaped.shorter
  · exact Nat.lt_succ_self _

/-- The text after white space and line ends. -/
def skipLines (text : List Char) : List Char :=
  match lineEnd? (skipGap text) with
  | some line => skipLines line.rest
  | none => skipGap text
termination_by text.length
decreasing_by
  have := line.shorter
  have := length_skipGap_le text
  omega

theorem length_skipLines_le (text : List Char) : (skipLines text).length ≤ text.length := by
  fun_induction skipLines text with
  | case1 text line _ ih =>
    have := line.shorter
    have := length_skipGap_le text
    omega
  | case2 text _ => exact length_skipGap_le text

/-- The text after a line end that a backslash takes back, with all white space and line ends
around it. -/
def afterTakenBack? (text : List Char) : Option { rest : List Char // rest.length < text.length } :=
  match lineEnd? (skipGap text) with
  | some line => some ⟨skipLines line.rest, by
      have := line.shorter
      have := length_skipGap_le text
      have := length_skipLines_le line.rest
      omega⟩
  | none => none

/-- How many quotes a text begins with. -/
def quoteCount (quote : Char) (text : List Char) : Nat := (text.takeWhile (· == quote)).length

/-- The rest of a string on several lines, given what follows its opening quotes. Of the quotes at
its end, the last three close it, and at most two more belong to it. -/
def blockString? (quote : Char) (text : List Char) : Option (Taken text (List Char)) :=
  match text with
  | [] => none
  | c :: rest =>
    if c == quote then
      let quotes := 1 + quoteCount quote rest
      if 6 ≤ quotes then none
      else if 3 ≤ quotes then
        some ⟨List.replicate (quotes - 3) quote, rest.dropWhile (· == quote),
          Nat.lt_succ_of_le (length_dropWhile_le _ _)⟩
      else do
        let more ← blockString? quote rest
        some ⟨c :: more.value, more.rest, Nat.lt_succ_of_lt more.shorter⟩
    else if c == '\\' && quote == '"' then
      match afterTakenBack? rest with
      | some after => do
        let more ← blockString? quote after.val
        some ⟨more.value, more.rest,
          Nat.lt_succ_of_lt (Nat.lt_trans more.shorter after.property)⟩
      | none => do
        let escaped ← escape? rest
        let more ← blockString? quote escaped.rest
        some ⟨escaped.value :: more.value, more.rest,
          Nat.lt_succ_of_lt (Nat.lt_trans more.shorter escaped.shorter)⟩
    else
      match lineEnd? (c :: rest) with
      | some line => do
        let more ← blockString? quote line.rest
        some ⟨'\n' :: more.value, more.rest, Nat.lt_trans more.shorter line.shorter⟩
      | none =>
        if isPlainChar c then do
          let more ← blockString? quote rest
          some ⟨c :: more.value, more.rest, Nat.lt_succ_of_lt more.shorter⟩
        else none
termination_by text.length
decreasing_by
  · exact Nat.lt_succ_self _
  · exact Nat.lt_succ_of_lt after.property
  · exact Nat.lt_succ_of_lt escaped.shorter
  · exact line.shorter
  · exact Nat.lt_succ_self _

/-- A string. A line end right behind tripled quotes is not part of it. -/
def string? (text : List Char) : Option (Taken text (List Char)) :=
  match text with
  | [] => none
  | quote :: rest =>
    if quote != '"' && quote != '\'' then none
    else
      match h : Text.dropStart? [quote, quote] rest with
      | some block =>
        have shorter : block.length < (quote :: rest).length :=
          Nat.lt_succ_of_le (Text.length_dropStart?_le h)
        match lineEnd? block with
        | some line =>
          (blockString? quote line.rest).map fun taken =>
            taken.widen (Nat.le_of_lt (Nat.lt_trans line.shorter shorter))
        | none => (blockString? quote block).map fun taken => taken.widen (Nat.le_of_lt shorter)
      | none => (lineString? quote rest).map fun taken => taken.widen (length_le_cons quote rest)

/-! ## Keys -/

/-- A character of a key without quotes. -/
def isBareChar (c : Char) : Bool :=
  Text.isAsciiLetter c || Text.isAsciiDigit c || c == '_' || c == '-'

/-- One part of a key. -/
def simpleKey? (text : List Char) : Option (Taken text String) :=
  match text with
  | [] => none
  | c :: rest =>
    if isBareChar c then
      some ⟨String.ofList (c :: rest.takeWhile isBareChar), rest.dropWhile isBareChar,
        Nat.lt_succ_of_le (length_dropWhile_le _ _)⟩
    else if c == '"' || c == '\'' then
      (lineString? c rest).map fun taken =>
        (taken.map String.ofList).widen (length_le_cons c rest)
    else none

/-- The parts of a key with points between them, at least one; white space around them. -/
def keyParts? (text : List Char) : Option (Taken text (List String)) := do
  let part ← simpleKey? (skipGap text)
  match h : skipGap part.rest with
  | '.' :: rest => do
    let more ← keyParts? rest
    some ⟨part.value :: more.value, more.rest, by
      have := part.shorter; have := more.shorter
      have := length_skipGap_le text; have := length_skipGap_le part.rest
      rw [h] at *
      simp only [List.length_cons] at *; omega⟩
  | rest => some ⟨[part.value], rest, by
      have := part.shorter
      have := length_skipGap_le text; have := length_skipGap_le part.rest
      rw [h] at *
      omega⟩
termination_by text.length
decreasing_by
  have := part.shorter
  have := length_skipGap_le text; have := length_skipGap_le part.rest
  rw [h] at *
  simp only [List.length_cons] at *; omega

end SqlPreview.Toml
