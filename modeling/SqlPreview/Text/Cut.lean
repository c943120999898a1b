import SqlPreview.Text.Blank

/-!
# Cutting and joining texts

Splitting at a separator, finding one text inside another, and joining with a separator. Texts
are lists of characters, so every position counts code points.
-/

namespace SqlPreview.Text

/-- The pieces between the characters that satisfy `cut`, at least one. -/
def splitWhere (cut : Char → Bool) : List Char → List (List Char)
  | [] => [[]]
  | c :: rest =>
    if cut c then [] :: splitWhere cut rest
    else
      match splitWhere cut rest with
      | [] => [[c]]
      | piece :: pieces => (c :: piece) :: pieces

/-- The pieces between occurrences of `separator`, at least one. -/
def splitOn (separator : Char) (text : List Char) : List (List Char) :=
  splitWhere (· == separator) text

/-- The text before and after the first character that satisfies `cut`. -/
def splitFirst? (cut : Char → Bool) : List Char → Option (List Char × List Char)
  | [] => none
  | c :: rest =>
    if cut c then some ([], rest)
    else (splitFirst? cut rest).map fun (before, after) => (c :: before, after)

/-- The text before and after the last character that satisfies `cut`. -/
def splitLast? (cut : Char → Bool) : List Char → Option (List Char × List Char)
  | [] => none
  | c :: rest =>
    match splitLast? cut rest with
    | some (before, after) => some (c :: before, after)
    | none => if cut c then some ([], rest) else none

/-- The text after `start`, if the text begins with it. -/
def dropStart? : List Char → List Char → Option (List Char)
  | [], text => some text
  | _ :: _, [] => none
  | e :: start, c :: rest => if e == c then dropStart? start rest else none

/-- Where `needle` first occurs. -/
def indexOf? (needle : List Char) : List Char → Option Nat
  | [] => if needle.isEmpty then some 0 else none
  | c :: rest =>
    if needle.isPrefixOf (c :: rest) then some 0 else (indexOf? needle rest).map (· + 1)

/-- The texts in order, with `separator` between neighbours. -/
def joined (separator : List Char) : List (List Char) → List Char
  | [] => []
  | [piece] => piece
  | piece :: pieces => piece ++ separator ++ joined separator pieces

/-- How many bytes a text takes in UTF-8. -/
def utf8Size (text : List Char) : Nat := text.foldl (fun n c => n + c.utf8Size) 0

theorem splitWhere_ne_nil (cut : Char → Bool) (text : List Char) : splitWhere cut text ≠ [] := by
  cases text with
  | nil => simp [splitWhere]
  | cons c rest =>
    rw [splitWhere]
    split
    · simp
    · split <;> simp

theorem dropStart?_eq_some {start text rest : List Char} :
    dropStart? start text = some rest ↔ text = start ++ rest := by
  induction start generalizing text with
  | nil => simp [dropStart?, eq_comm]
  | cons e start ih =>
    cases text with
    | nil => simp [dropStart?]
    | cons c text =>
      by_cases h : e = c
      · simp [dropStart?, h, ih]
      · simp [dropStart?, h, Ne.symm h]

theorem length_dropStart?_le {start text rest : List Char} (h : dropStart? start text = some rest) :
    rest.length ≤ text.length := by
  rw [dropStart?_eq_some.1 h, List.length_append]
  exact Nat.le_add_left _ _

theorem length_dropStart?_lt {c : Char} {start text rest : List Char}
    (h : dropStart? (c :: start) text = some rest) : rest.length < text.length := by
  rw [dropStart?_eq_some.1 h, List.length_append]
  exact Nat.lt_add_of_pos_left (Nat.zero_lt_succ _)

theorem splitFirst?_eq_some {cut : Char → Bool} {text before after : List Char} :
    splitFirst? cut text = some (before, after) ↔
      ∃ c, cut c = true ∧ (∀ d ∈ before, cut d = false) ∧ text = before ++ c :: after := by
  induction text generalizing before with
  | nil => simp [splitFirst?]
  | cons c rest ih =>
    rw [splitFirst?]
    split
    · next here =>
      constructor
      · rintro ⟨⟩
        exact ⟨c, here, by simp, rfl⟩
      · rintro ⟨d, cuts, plain, same⟩
        cases before with
        | nil => cases same; rfl
        | cons e before =>
          cases same
          exact absurd (here.symm.trans (plain _ List.mem_cons_self)) (by decide)
    · next here =>
      constructor
      · intro found
        obtain ⟨⟨head, tail⟩, there, same⟩ := Option.map_eq_some_iff.1 found
        cases same
        obtain ⟨d, cuts, plain, rfl⟩ := ih.1 there
        exact ⟨d, cuts, List.forall_mem_cons.2 ⟨by simpa using here, plain⟩, rfl⟩
      · rintro ⟨d, cuts, plain, same⟩
        cases before with
        | nil => cases same; exact absurd cuts here
        | cons e before =>
          cases same
          rw [ih.2 ⟨d, cuts, (List.forall_mem_cons.1 plain).2, rfl⟩]
          rfl

theorem length_splitFirst?_lt {cut : Char → Bool} {text before after : List Char}
    (h : splitFirst? cut text = some (before, after)) : after.length < text.length := by
  obtain ⟨c, -, -, rfl⟩ := splitFirst?_eq_some.1 h
  simp only [List.length_append, List.length_cons]
  omega

example : splitOn '|' "a||b".toList = [['a'], [], ['b']] := by decide +kernel
example : splitLast? (· == '.') "a.b.c".toList = some ("a.b".toList, ['c']) := by decide +kernel

end SqlPreview.Text
