import SqlPreview.Time.Calendar
import SqlPreview.Text.Blank

/-!
# Reading dates and times

A pattern is a list of fields and fixed characters. Numbers may follow white space and have at
most their usual width; a year with a sign may be longer. Instants are also read in the profile of
the internet, which fixes every width and ends in an offset from universal time.
-/

namespace SqlPreview

namespace Time

/-- One piece of a pattern. -/
inductive Piece where
  | year
  | month
  | day
  | hour
  | minute
  | second
  /-- A point and a fraction of a second, or nothing. -/
  | fraction
  | fixed (c : Char)
  /-- Any white space, or none. -/
  | blanks
deriving DecidableEq, Repr

/-- The numbers that a pattern has read so far. -/
structure Fields where
  year : Int := 0
  month : Nat := 0
  day : Nat := 0
  hour : Nat := 0
  minute : Nat := 0
  second : Nat := 0
  nano : Nat := 0

/-- A number of at least one and at most `width` digits. -/
def number? (width : Nat) (text : List Char) : Option (Nat × List Char) :=
  let digits := (text.take width).takeWhile Text.isAsciiDigit
  if digits.isEmpty then none else some (Text.digitsValue digits, text.drop digits.length)

/-- A run of digits whose value fits 63 bits. -/
def longNumber? (text : List Char) : Option (Nat × List Char) :=
  let digits := text.takeWhile Text.isAsciiDigit
  let n := Text.digitsValue digits
  if digits.isEmpty || 0x8000000000000000 ≤ n then none else some (n, text.dropWhile Text.isAsciiDigit)

/-- A year: up to four digits, or a sign and any number of them. -/
def year? (text : List Char) : Option (Int × List Char) :=
  match text with
  | '-' :: rest => (longNumber? rest).map fun (n, rest) => (-(n : Int), rest)
  | '+' :: rest => (longNumber? rest).map fun (n, rest) => ((n : Int), rest)
  | text => (number? 4 text).map fun (n, rest) => ((n : Int), rest)

/-- A number of two digits between bounds. -/
def bounded? (low high : Nat) (text : List Char) : Option (Nat × List Char) :=
  match number? 2 text with
  | some (n, rest) => if low ≤ n && n ≤ high then some (n, rest) else none
  | none => none

/-- A fraction of a second in nanoseconds; digits after the ninth are passed over. -/
def fraction? (text : List Char) : Option (Nat × List Char) :=
  let digits := text.takeWhile Text.isAsciiDigit
  if digits.isEmpty then none
  else
    let kept := digits.take 9
    some (Text.digitsValue kept * Nat.pow 10 (9 - kept.length), text.dropWhile Text.isAsciiDigit)

/-- Reads one piece of a pattern. -/
def Piece.read? (piece : Piece) (fields : Fields) (text : List Char) :
    Option (Fields × List Char) :=
  let start := Text.trimStart text
  match piece with
  | .year => (year? start).map fun (n, rest) => ({ fields with year := n }, rest)
  | .month => (bounded? 1 12 start).map fun (n, rest) => ({ fields with month := n }, rest)
  | .day => (bounded? 1 31 start).map fun (n, rest) => ({ fields with day := n }, rest)
  | .hour => (bounded? 0 23 start).map fun (n, rest) => ({ fields with hour := n }, rest)
  | .minute => (bounded? 0 59 start).map fun (n, rest) => ({ fields with minute := n }, rest)
  | .second => (bounded? 0 60 start).map fun (n, rest) => ({ fields with second := n }, rest)
  | .fraction =>
    match text with
    | '.' :: rest => (fraction? rest).map fun (n, rest) => ({ fields with nano := n }, rest)
    | text => some (fields, text)
  | .fixed c =>
    match text with
    | d :: rest => if c == d then some (fields, rest) else none
    | [] => none
  | .blanks => some (fields, start)

/-- Reads pieces one after another up to the end of the text. -/
def readPieces? : List Piece → Fields → List Char → Option Fields
  | [], fields, text => if text.isEmpty then some fields else none
  | piece :: pieces, fields, text =>
    match piece.read? fields text with
    | some (fields, rest) => readPieces? pieces fields rest
    | none => none

def datePieces : List Piece := [.year, .fixed '-', .month, .fixed '-', .day]

def timePieces : List Piece := [.hour, .fixed ':', .minute, .fixed ':', .second]

/-- The date and time patterns, in the order in which they are tried. -/
def dateTimePatterns : List (List Piece) :=
  [datePieces ++ .fixed 'T' :: timePieces,
   datePieces ++ .fixed 'T' :: timePieces ++ [.fraction],
   datePieces ++ .blanks :: timePieces]

def Fields.date? (fields : Fields) : Option Date := Date.of? fields.year fields.month fields.day

def Fields.time? (fields : Fields) : Option TimeOfDay :=
  TimeOfDay.of? fields.hour fields.minute fields.second fields.nano

/-- A number of exactly `width` digits. -/
def fixedWidth? (width : Nat) (text : List Char) : Option (Nat × List Char) :=
  let digits := (text.take width).takeWhile Text.isAsciiDigit
  if digits.length = width then some (Text.digitsValue digits, text.drop width) else none

/-- The text after a fixed character. -/
def after? (c : Char) (text : List Char) : Option (List Char) :=
  match text with
  | d :: rest => if c == d then some rest else none
  | [] => none

/-- Seconds that local time is ahead of universal time, from the end of a text. -/
def offset? (text : List Char) : Option Int :=
  match text with
  | ['Z'] => some 0
  | ['z'] => some 0
  | sign :: rest => do
    let behind ← if sign == '+' then some false
      else if sign == '-' || sign == '−' then some true else none
    let (hours, rest) ← fixedWidth? 2 rest
    let rest ← after? ':' rest
    let (minutes, rest) ← fixedWidth? 2 rest
    if rest.isEmpty && minutes < 60 && hours < 24 then
      let seconds : Int := (hours * 3600 + minutes * 60 : Nat)
      some (if behind then -seconds else seconds)
    else none
  | [] => none

end Time

namespace Date

def read? (text : List Char) : Option Date :=
  (Time.readPieces? Time.datePieces {} text).bind Time.Fields.date?

end Date

namespace TimeOfDay

def read? (text : List Char) : Option TimeOfDay :=
  (Time.readPieces? Time.timePieces {} text).bind Time.Fields.time?

end TimeOfDay

namespace DateTime

def readAs? (pattern : List Time.Piece) (text : List Char) : Option DateTime := do
  let fields ← Time.readPieces? pattern {} text
  let date ← fields.date?
  let time ← fields.time?
  some ⟨date, time⟩

/-- A date and time in the first pattern that fits. -/
def read? (text : List Char) : Option DateTime :=
  Time.dateTimePatterns.findSome? fun pattern => readAs? pattern text

end DateTime

namespace Instant

/-- A date, a time and an offset, every field at its full width. -/
def readProfile? (text : List Char) : Option Instant := do
  let (year, rest) ← Time.fixedWidth? 4 text
  let rest ← Time.after? '-' rest
  let (month, rest) ← Time.fixedWidth? 2 rest
  let rest ← Time.after? '-' rest
  let (day, rest) ← Time.fixedWidth? 2 rest
  let date ← Date.of? year month day
  let rest ← match rest with
    | c :: rest => if c == 'T' || c == 't' || c == ' ' then some rest else none
    | [] => none
  let (hour, rest) ← Time.fixedWidth? 2 rest
  let rest ← Time.after? ':' rest
  let (minute, rest) ← Time.fixedWidth? 2 rest
  let rest ← Time.after? ':' rest
  let (second, rest) ← Time.fixedWidth? 2 rest
  let (nano, rest) ← match rest with
    | '.' :: rest => Time.fraction? rest
    | rest => some (0, rest)
  let offset ← Time.offset? rest
  let time ← TimeOfDay.of? hour minute second nano
  some ⟨DateTime.addSeconds ⟨date, time⟩ (-offset)⟩

/-- An instant: with an offset, as a date and time of universal time, or as a day, which begins at
midnight. -/
def read? (text : List Char) : Option Instant :=
  match readProfile? text with
  | some instant => some instant
  | none =>
    match DateTime.read? text with
    | some local_ => some ⟨local_⟩
    | none => (Date.read? text).map fun day => ⟨⟨day, .midnight⟩⟩

end Instant

end SqlPreview
