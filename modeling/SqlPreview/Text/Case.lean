import SqlPreview.Text.CaseRows

/-!
# Upper and lower case

The full case mappings of Unicode: one character may become several, and a capital sigma that ends
a word becomes a final sigma.
-/

namespace SqlPreview.Text

/-- The image of a code point under rows of constant distance. -/
def CaseRows.image? (rows : CaseRows) (n : Nat) : Option Nat :=
  rows.findSome? fun (first, last, step, image) =>
    if first ≤ n && n ≤ last && (n - first) % step == 0 then some (image + (n - first)) else none

/-- The image of a character, given the images that are one character and those that are several. -/
def caseImage (rows : CaseRows) (expansions : List (Nat × List Nat)) (c : Char) : List Char :=
  match expansions.lookup c.toNat with
  | some several => several.map Char.ofNat
  | none => [((rows.image? c.toNat).map Char.ofNat).getD c]

/-- The lower-case form of one character, apart from its place in a word. -/
def lowerChar (c : Char) : List Char :=
  if c.toNat < 128 then [c.toLower] else caseImage lowerRows lowerExpansions c

/-- The upper-case form of one character. -/
def upperChar (c : Char) : List Char :=
  if c.toNat < 128 then [c.toUpper] else caseImage upperRows upperExpansions c

def isCased (c : Char) : Bool :=
  if c.toNat < 128 then c.isAlpha else casedRanges.holds c

def isCaseIgnorable (c : Char) : Bool := caseIgnorableRanges.holds c

/-- Read away from a sigma, the text meets a cased character, ignorable ones apart. -/
def meetsCased (text : List Char) : Bool :=
  ((text.dropWhile isCaseIgnorable).head?.map isCased).getD false

/-- The lower-case form of a text that follows `before`, which is given last character first. -/
def lowerAfter (before : List Char) : List Char → List Char
  | [] => []
  | c :: rest =>
    let image :=
      if c == 'Σ' then if meetsCased before && !meetsCased rest then ['ς'] else ['σ']
      else lowerChar c
    image ++ lowerAfter (c :: before) rest

/-- The lower-case form of a text. -/
def lower (text : List Char) : List Char := lowerAfter [] text

/-- The upper-case form of a text. -/
def upper (text : List Char) : List Char := text.flatMap upperChar

/-- Equality of characters up to case. -/
def sameLetter (c d : Char) : Bool := lowerChar c == lowerChar d

example : upper ['ß'] = ['S', 'S'] := by decide +kernel
example : lower ['Ο', 'Σ', ' ', 'Σ'] = ['ο', 'ς', ' ', 'σ'] := by decide +kernel

end SqlPreview.Text
