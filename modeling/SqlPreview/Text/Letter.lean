import SqlPreview.Text.LetterRanges

/-!
# Letters, digits and words

Which characters a name may hold. ASCII is decided by comparison, everything else by the property
of the same name.
-/

namespace SqlPreview.Text

def isAsciiLetter (c : Char) : Bool :=
  ('a' ≤ c && c ≤ 'z') || ('A' ≤ c && c ≤ 'Z')

def isAsciiDigit (c : Char) : Bool := '0' ≤ c && c ≤ '9'

/-- The value of a decimal digit of ASCII. -/
def digitValue (c : Char) : Nat := c.toNat - '0'.toNat

/-- A letter: the `Alphabetic` property. -/
def isAlphabetic (c : Char) : Bool :=
  if c.toNat < 128 then isAsciiLetter c else alphabeticRanges.holds c

/-- A number character: a decimal digit, a letter number or another number. -/
def isNumeric (c : Char) : Bool :=
  if c.toNat < 128 then isAsciiDigit c else numericRanges.holds c

def isAlphanumeric (c : Char) : Bool := isAlphabetic c || isNumeric c

/-- A small letter: the `Lowercase` property. -/
def isLowercase (c : Char) : Bool :=
  if c.toNat < 128 then 'a' ≤ c && c ≤ 'z' else lowercaseRanges.holds c

/-- A character that words are made of: letters, marks, decimal digits, connecting punctuation
and joining controls. -/
def isWordChar (c : Char) : Bool :=
  if c.toNat < 128 then isAsciiLetter c || isAsciiDigit c || c == '_'
  else alphabeticRanges.holds c || joiningRanges.holds c

/-- What may stand first in an ASCII identifier. -/
def isIdentStart (c : Char) : Bool := isAsciiLetter c || c == '_' || c == '$'

/-- The value of a hexadecimal digit of ASCII, of either case. -/
def hexValue? (c : Char) : Option Nat :=
  if isAsciiDigit c then some (digitValue c)
  else if 'a' ≤ c && c ≤ 'f' then some (c.toNat - 'a'.toNat + 10)
  else if 'A' ≤ c && c ≤ 'F' then some (c.toNat - 'A'.toNat + 10)
  else none

/-- The natural number that decimal digits denote, most significant first. -/
def digitsValue (digits : List Char) : Nat :=
  digits.foldl (fun n c => 10 * n + digitValue c) 0

/-- A natural number in decimal digits. -/
def decimalDigits (n : Nat) : List Char := Nat.toDigits 10 n

/-- A natural number in decimal digits, with zeros in front up to `width`. -/
def paddedDigits (width n : Nat) : List Char :=
  let digits := decimalDigits n
  List.replicate (width - digits.length) '0' ++ digits

example : paddedDigits 4 23 = ['0', '0', '2', '3'] := by decide

end SqlPreview.Text
