import SqlPreview.Text.Cut
import SqlPreview.Text.Letter

/-!
# Universally unique identifiers

Thirty-two hexadecimal digits. They are read bare, in five groups, in braces or behind `urn:uuid:`,
and written in five groups of small letters.
-/

namespace SqlPreview

/-- The digits, most significant first. -/
structure Uuid where
  digits : List Nat
deriving DecidableEq, Repr

namespace Uuid

/-- How many digits each group has. -/
def groups : List Nat := [8, 4, 4, 4, 12]

/-- The values of a run of hexadecimal digits. -/
def hexDigits? (text : List Char) : Option (List Nat) := text.mapM Text.hexValue?

/-- Groups of the given lengths with a hyphen between neighbours. -/
def grouped? : List Nat → List Char → Option (List Nat)
  | [], text => if text.isEmpty then some [] else none
  | [n], text => if text.length = n then hexDigits? text else none
  | n :: lengths, text => do
    let digits ← hexDigits? (text.take n)
    match text.drop n with
    | '-' :: rest => do
      let others ← grouped? lengths rest
      some (digits ++ others)
    | _ => none

def read? (text : List Char) : Option Uuid :=
  let bare := if text.length = 32 then hexDigits? text else none
  let braced :=
    match text with
    | '{' :: rest =>
      if rest.getLast? = some '}' then grouped? groups rest.dropLast else none
    | _ => none
  let named := (Text.dropStart? "urn:uuid:".toList text).bind (grouped? groups)
  (bare <|> grouped? groups text <|> braced <|> named).map Uuid.mk

/-- Digits in groups of the given lengths. -/
def groupedChars : List Nat → List Char → List Char
  | [], digits => digits
  | [_], digits => digits
  | n :: lengths, digits => digits.take n ++ '-' :: groupedChars lengths (digits.drop n)

def chars (u : Uuid) : List Char := groupedChars groups (u.digits.map Nat.digitChar)

end Uuid

end SqlPreview
