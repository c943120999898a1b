import SqlPreview.Number.Floating
import SqlPreview.Taken
import SqlPreview.Time.Reader
import SqlPreview.Toml.Basic

/-!
# Numbers, dates and times of TOML

Values that are written without quotes. Each is read from a whole run of characters, so that no
value ends inside a longer one.
-/

namespace SqlPreview.Toml

/-- Digits with single underscores between them, without the underscores. -/
def digitGroups? (isDigit : Char → Bool) : List Char → Option (List Char)
  | [] => none
  | [c] => if isDigit c then some [c] else none
  | c :: '_' :: rest => if isDigit c then (digitGroups? isDigit rest).map (c :: ·) else none
  | c :: rest => if isDigit c then (digitGroups? isDigit rest).map (c :: ·) else none

/-- An optional sign: whether it is negative, and the text after it. -/
def splitSign (text : List Char) : Bool × List Char :=
  match text with
  | '-' :: rest => (true, rest)
  | '+' :: rest => (false, rest)
  | rest => (false, rest)

/-- Decimal digits without needless zeros in front. -/
def decimalDigits? (text : List Char) : Option (List Char) := do
  let digits ← digitGroups? Text.isAsciiDigit text
  if digits.head? == some '0' && 1 < digits.length then none else some digits

/-- An integer of 64 bits. -/
def long? (n : Int) : Option Toml :=
  if -0x8000000000000000 ≤ n && n < 0x8000000000000000 then some (.integer n) else none

/-- A digit of a base up to sixteen. -/
def isBaseDigit (base : Nat) (c : Char) : Bool := (Text.hexValue? c).any (· < base)

/-- Digits of another base. -/
def basedInteger? (base : Nat) (text : List Char) : Option Toml := do
  let digits ← digitGroups? (isBaseDigit base) text
  let values ← digits.mapM Text.hexValue?
  long? (values.foldl (fun n d => base * n + d) 0 : Nat)

/-- An integer. -/
def integer? (text : List Char) : Option Toml :=
  match text with
  | '0' :: 'x' :: digits => basedInteger? 16 digits
  | '0' :: 'o' :: digits => basedInteger? 8 digits
  | '0' :: 'b' :: digits => basedInteger? 2 digits
  | _ => do
    let (negative, rest) := splitSign text
    let digits ← decimalDigits? rest
    let n : Int := Text.digitsValue digits
    long? (if negative then -n else n)

/-- The digits of a part of a number, from its mark on, up to another mark. -/
def partDigits? (text : List Char) : Option (List Char) := digitGroups? Text.isAsciiDigit text

/-- A number with a fraction, an exponent or both, in plain characters. -/
def floatingText? (text : List Char) : Option (List Char) := do
  let (negative, rest) := splitSign text
  let isMark (c : Char) : Bool := c == '.' || c == 'e' || c == 'E'
  let isExponentMark (c : Char) : Bool := c == 'e' || c == 'E'
  let whole ← decimalDigits? (rest.takeWhile fun c => !isMark c)
  let rest := rest.dropWhile fun c => !isMark c
  let (fraction, rest) ←
    match rest with
    | '.' :: rest => do
      let digits ← partDigits? (rest.takeWhile fun c => !isExponentMark c)
      some ('.' :: digits, rest.dropWhile fun c => !isExponentMark c)
    | _ => some ([], rest)
  let exponent ←
    match rest with
    | [] => some []
    | _ :: rest => do
      let (below, digits) := splitSign rest
      let digits ← partDigits? digits
      some ('e' :: (if below then ['-'] else []) ++ digits)
  if fraction.isEmpty && exponent.isEmpty then none
  else some ((if negative then ['-'] else []) ++ whole ++ fraction ++ exponent)

/-- A floating number. One too large for 64 bits is none. -/
def floating? (text : List Char) : Option Toml :=
  let unsigned := String.ofList (splitSign text).2
  if unsigned == "inf" || unsigned == "nan" then some .other
  else do
    let plain ← floatingText? text
    if Number.Floating.read? .double plain == some (.infinite false) then none else some .other

/-- Hours, minutes and seconds, and what follows them. -/
def time? (text : List Char) : Option (List Char) := do
  let (hour, rest) ← Time.fixedWidth? 2 text
  let rest ← Time.after? ':' rest
  let (minute, rest) ← Time.fixedWidth? 2 rest
  let rest ← Time.after? ':' rest
  let (second, rest) ← Time.fixedWidth? 2 rest
  let _ ← TimeOfDay.of? hour minute second 0
  match rest with
  | '.' :: digits =>
    if digits.head?.any Text.isAsciiDigit then some (digits.dropWhile Text.isAsciiDigit) else none
  | rest => some rest

/-- A date, and what follows it. -/
def date? (text : List Char) : Option (List Char) := do
  let (year, rest) ← Time.fixedWidth? 4 text
  let rest ← Time.after? '-' rest
  let (month, rest) ← Time.fixedWidth? 2 rest
  let rest ← Time.after? '-' rest
  let (day, rest) ← Time.fixedWidth? 2 rest
  let _ ← Date.of? year month day
  some rest

/-- A time, perhaps with an offset. -/
def isTimeWithOffset (text : List Char) : Bool :=
  match time? text with
  | some rest => rest.isEmpty || (Time.offset? rest).isSome
  | none => false

/-- A date, a time, or a date with a time. -/
def dateTime? (text : List Char) : Option Toml :=
  match date? text with
  | some [] => some .other
  | some (c :: rest) =>
    if (c == 'T' || c == 't' || c == ' ') && isTimeWithOffset rest then some .other else none
  | none => if time? text == some [] then some .other else none

/-- The value of a run of characters. -/
def scalar? (text : List Char) : Option Toml :=
  match String.ofList text with
  | "true" => some (.boolean true)
  | "false" => some (.boolean false)
  | _ => dateTime? text <|> floating? text <|> integer? text

/-- A character of a value without quotes. -/
def isScalarChar (c : Char) : Bool :=
  Text.isAsciiLetter c || Text.isAsciiDigit c || c == '+' || c == '-' || c == '_' || c == '.' ||
    c == ':'

/-- A value without quotes. A date and a time may have one space between them. -/
def scalarValue? (text : List Char) : Option (Taken text Toml) :=
  match text with
  | [] => none
  | c :: rest =>
    if isScalarChar c then
      let run := c :: rest.takeWhile isScalarChar
      match h : rest.dropWhile isScalarChar with
      | ' ' :: d :: after =>
        if Text.isAsciiDigit d && date? run == some [] then do
          let value ← scalar? (run ++ ' ' :: d :: after.takeWhile isScalarChar)
          some ⟨value, after.dropWhile isScalarChar, by
            have := length_dropWhile_le isScalarChar rest
            have := length_dropWhile_le isScalarChar after
            rw [h] at *
            simp only [List.length_cons] at *; omega⟩
        else do
          let value ← scalar? run
          some ⟨value, ' ' :: d :: after, by
            have := length_dropWhile_le isScalarChar rest
            rw [h] at this
            simp only [List.length_cons] at *; omega⟩
      | after => do
        let value ← scalar? run
        some ⟨value, after, by
          have := length_dropWhile_le isScalarChar rest
          rw [h] at this
          simp only [List.length_cons]; omega⟩
    else none

end SqlPreview.Toml
