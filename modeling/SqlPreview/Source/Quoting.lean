import SqlPreview.Text.Cut

/-!
# Literals in source text

Where a text is inside a string or character literal. A literal ends at the quote that began it,
and a backslash takes the character after it along.
-/

namespace SqlPreview.Source

inductive Quoting where
  | outside
  | inside (quote : Char) (escaped : Bool)
deriving DecidableEq, Repr

def isQuote (c : Char) : Bool := c == '"' || c == '\''

namespace Quoting

/-- The state behind a character. -/
def next : Quoting → Char → Quoting
  | outside, c => if isQuote c then inside c false else outside
  | inside quote true, _ => inside quote false
  | inside quote false, c =>
    if c == '\\' then inside quote true else if c == quote then outside else inside quote false

def isOutside : Quoting → Bool
  | outside => true
  | inside _ _ => false

/-- The state behind a text. -/
def after (quoting : Quoting) (text : List Char) : Quoting := text.foldl next quoting

end Quoting

/-! ## Brackets -/

/-- The text before and after the bracket that closes an opened one, where `depth` further ones
are open. Brackets in literals do not count. -/
def splitClosing? (opening closing : Char) (quoting : Quoting) (depth : Nat) :
    List Char → Option (List Char × List Char)
  | [] => none
  | c :: rest =>
    let next (depth : Nat) :=
      (splitClosing? opening closing (quoting.next c) depth rest).map fun (inside, after) =>
        (c :: inside, after)
    if quoting.isOutside && c == opening then next (depth + 1)
    else if quoting.isOutside && c == closing then
      match depth with
      | 0 => some ([], rest)
      | depth + 1 => next depth
    else next depth

/-- The text inside and after the braces, given what follows the opening one. -/
def splitBraces? (text : List Char) : Option (List Char × List Char) :=
  splitClosing? '{' '}' .outside 0 text

/-- The text inside and after the parentheses, given what follows the opening one. -/
def splitParens? (text : List Char) : Option (List Char × List Char) :=
  splitClosing? '(' ')' .outside 0 text

theorem length_splitClosing?_lt {opening closing : Char} {quoting : Quoting} {depth : Nat}
    {text inside after : List Char}
    (h : splitClosing? opening closing quoting depth text = some (inside, after)) :
    after.length < text.length := by
  induction text generalizing quoting depth inside after with
  | nil => simp [splitClosing?] at h
  | cons c rest ih =>
    have step {depth : Nat} {quoting : Quoting} {inside after : List Char}
        (g : (splitClosing? opening closing quoting depth rest).map
          (fun (pair : List Char × List Char) => (c :: pair.1, pair.2)) = some (inside, after)) :
        after.length < (c :: rest).length := by
      obtain ⟨⟨before, behind⟩, found, same⟩ := Option.map_eq_some_iff.1 g
      cases same
      have := ih found
      simp only [List.length_cons]; omega
    simp only [splitClosing?] at h
    split at h
    · exact step h
    · split at h
      · split at h
        · cases h; simp
        · exact step h
      · exact step h

/-! ## Pieces -/

/-- A character in front of the first of some pieces. -/
def consFirst (c : Char) : List (List Char) → List (List Char)
  | [] => [[c]]
  | piece :: pieces => (c :: piece) :: pieces

/-- The statements of a body, before white space is trimmed: semicolons and blocks in braces end
one, and nothing of a block is kept. -/
def statementPieces (quoting : Quoting) (depth : Nat) : List Char → List (List Char)
  | [] => [[]]
  | c :: rest =>
    if quoting.isOutside && c == '{' then
      let pieces := statementPieces .outside (depth + 1) rest
      if depth = 0 then [] :: pieces else pieces
    else if quoting.isOutside && c == '}' then statementPieces .outside (depth - 1) rest
    else if quoting.isOutside && c == ';' && depth = 0 then
      [] :: statementPieces .outside depth rest
    else
      let pieces := statementPieces (quoting.next c) depth rest
      if depth = 0 then consFirst c pieces else pieces

/-- The statements directly inside a body, none of them blank. -/
def statements (body : List Char) : List (List Char) :=
  ((statementPieces .outside 0 body).map Text.trim).filter fun statement => !statement.isEmpty

/-- Brackets inside which a list is not split. -/
def opensGroup (c : Char) : Bool := c == '<' || c == '(' || c == '['

def closesGroup (c : Char) : Bool := c == '>' || c == ')' || c == ']'

/-- The members of a list with commas between them, where `depth` brackets are open. -/
def listPieces (quoting : Quoting) (depth : Nat) : List Char → List (List Char)
  | [] => [[]]
  | c :: rest =>
    if quoting.isOutside && c == ',' && depth = 0 then [] :: listPieces .outside depth rest
    else
      let depth' :=
        if quoting.isOutside && opensGroup c then depth + 1
        else if quoting.isOutside && closesGroup c then depth - 1
        else depth
      consFirst c (listPieces (quoting.next c) depth' rest)

/-- The members of a list with commas between them. -/
def members (text : List Char) : List (List Char) := listPieces .outside 0 text

example : statements "int a; f() { x; } String s = \";\"".toList =
    ["int a".toList, "f()".toList, "String s = \";\"".toList] := by decide +kernel

example : members "Map<K, V> a, b".toList = ["Map<K, V> a".toList, " b".toList] := by
  decide +kernel

end SqlPreview.Source
