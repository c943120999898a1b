import Mathlib
import SqlPreview.Proofs.Source.Contents

/-!
# Blocks in bodies

To the search for statements a block is no more than the end of a statement: with a semicolon in its
place the statements are the same, and with them everything that is read of the type around it. What
stands before the block only has to leave the search outside of literals and blocks; it may hold
closing braces without partners, which the search does not count.

This file defines where a scan that counts brackets is behind a text (`Cursor`, `blocksAfter`).

Results:
1. `exists_statementPieces_next`, `exists_statementPieces_after`: the search for statements over one
   character, and over a text.
2. `statements_block`: a block is the end of a statement.
3. `blocks_unseen`: so is it for the type around it.
-/

namespace SqlPreview.Source

/-! ## Cursors -/

/-- Where a scan that counts brackets is: in a literal or not, and how many brackets are open. -/
structure Cursor where
  quoting : Quoting
  depth : Nat
deriving DecidableEq, Repr

namespace Cursor

/-- Where every scan begins. -/
def start : Cursor := ⟨.outside, 0⟩

variable (opens closes : Char → Bool)

/-- Behind one more character. A bracket that closes nothing does not count. -/
def next (cursor : Cursor) (c : Char) : Cursor where
  quoting := cursor.quoting.next c
  depth :=
    if cursor.quoting.isOutside && opens c then cursor.depth + 1
    else if cursor.quoting.isOutside && closes c then cursor.depth - 1
    else cursor.depth

/-- Behind a text. -/
def after (cursor : Cursor) (text : List Char) : Cursor := text.foldl (next opens closes) cursor

theorem after_cons (cursor : Cursor) (c : Char) (text : List Char) :
    cursor.after opens closes (c :: text) =
      (cursor.next opens closes c).after opens closes text := rfl

theorem quoting_after (cursor : Cursor) (text : List Char) :
    (cursor.after opens closes text).quoting = cursor.quoting.after text := by
  induction text generalizing cursor with
  | nil => rfl
  | cons c text ih => rw [after_cons, ih, Quoting.after_cons, next]

end Cursor

/-- Where the search for statements is behind a text. -/
def blocksAfter (text : List Char) : Cursor := Cursor.start.after (· == '{') (· == '}') text

/-! ## Statements -/

/-- One character ends a statement, goes into the current one, or is in a block. -/
theorem exists_statementPieces_next (cursor : Cursor) (c : Char) :
    ∃ pieces last, ∀ rest, statementPieces cursor.quoting cursor.depth (c :: rest) =
      pieces ++ ontoFirst last (statementPieces (cursor.next (· == '{') (· == '}') c).quoting
        (cursor.next (· == '{') (· == '}') c).depth rest) := by
  obtain ⟨quoting, depth⟩ := cursor
  by_cases special : quoting = .outside ∧ (c = '{' ∨ c = '}' ∨ c = ';' ∧ depth = 0)
  · obtain ⟨rfl, rfl | rfl | ⟨rfl, rfl⟩⟩ := special
    · cases depth with
      | zero => exact ⟨[[]], [], fun rest => rfl⟩
      | succ depth => exact ⟨[], [], fun rest => rfl⟩
    · exact ⟨[], [], fun rest => rfl⟩
    · exact ⟨[[]], [], fun rest => rfl⟩
  · have plain (outside : quoting.isOutside = true) :
        c ≠ '{' ∧ c ≠ '}' ∧ (c = ';' → depth ≠ 0) := by
      cases quoting with
      | inside quote escaped => cases outside
      | outside =>
        refine ⟨fun opening => ?_, fun closing => ?_, fun semicolon zero => ?_⟩
        · exact special ⟨rfl, .inl opening⟩
        · exact special ⟨rfl, .inr (.inl closing)⟩
        · exact special ⟨rfl, .inr (.inr ⟨semicolon, zero⟩)⟩
    have stays : Cursor.next (· == '{') (· == '}') ⟨quoting, depth⟩ c = ⟨quoting.next c, depth⟩ := by
      cases outside : quoting.isOutside with
      | false => simp [Cursor.next, outside]
      | true => simp [Cursor.next, (plain outside).1, (plain outside).2.1]
    rw [stays]
    by_cases zero : depth = 0
    · exact ⟨[], [c], fun rest => (statementPieces_plain plain rest).trans (if_pos zero)⟩
    · exact ⟨[], [], fun rest => (statementPieces_plain plain rest).trans (if_neg zero)⟩

theorem exists_statementPieces_after (cursor : Cursor) (text : List Char) :
    ∃ pieces last, ∀ rest, statementPieces cursor.quoting cursor.depth (text ++ rest) =
      pieces ++ ontoFirst last (statementPieces (cursor.after (· == '{') (· == '}') text).quoting
        (cursor.after (· == '{') (· == '}') text).depth rest) := by
  induction text generalizing cursor with
  | nil => exact ⟨[], [], fun rest => rfl⟩
  | cons c text ih =>
    obtain ⟨pieces, last, step⟩ := exists_statementPieces_next cursor c
    obtain ⟨pieces', last', same⟩ := ih (cursor.next (· == '{') (· == '}') c)
    obtain ⟨pieces'', last'', joined⟩ := exists_ontoFirst last pieces' last'
    refine ⟨pieces ++ pieces'', last'', fun rest => ?_⟩
    rw [List.cons_append, step, same, joined, List.append_assoc, Cursor.after_cons]

section

variable {before block : List Char} (ends : blocksAfter before = .start)
  (balanced : Balanced [.curly] block)

include ends balanced

/-- A block is the end of a statement. -/
theorem statements_block (rest : List Char) :
    statements (before ++ '{' :: (block ++ '}' :: rest)) = statements (before ++ ';' :: rest) := by
  obtain ⟨pieces, last, same⟩ := exists_statementPieces_after .start before
  have outside (tail : List Char) : statementPieces .outside 0 (before ++ tail) =
      pieces ++ ontoFirst last (statementPieces .outside 0 tail) := by
    have whole := same tail
    rw [← blocksAfter, ends] at whole
    exact whole
  have semicolon : statementPieces .outside 0 (';' :: rest) =
      [] :: statementPieces .outside 0 rest := rfl
  rw [statements, statements, outside, outside, statementPieces_block balanced, semicolon]

/-- The body around a block ends where it ends with a semicolon in its place: behind the block, or
at a brace before it. -/
theorem splitBraces?_block (rest : List Char) :
    (∃ inside behind, ∀ tail, splitBraces? (before ++ tail) = some (inside, behind ++ tail)) ∨
      ∃ found,
        splitBraces? (before ++ '{' :: (block ++ '}' :: rest)) =
          inFront (before ++ '{' :: (block ++ ['}'])) found ∧
        splitBraces? (before ++ ';' :: rest) = inFront (before ++ [';']) found := by
  have outside : Quoting.outside.after before = .outside := by
    have quoting := Cursor.quoting_after (· == '{') (· == '}') .start before
    rw [← blocksAfter, ends] at quoting
    exact quoting.symm
  obtain ⟨inside, behind, -, closed⟩ | ⟨depth, opened⟩ :=
    splitClosing?_append .curly .outside 0 before
  · exact .inl ⟨inside, behind, closed⟩
  · refine .inr ⟨splitClosing? '{' '}' .outside depth rest, ?_, ?_⟩
    · have skips := splitClosing?_balanced List.mem_cons_self balanced (depth + 1) ('}' :: rest)
      have opens : splitClosing? '{' '}' .outside depth ('{' :: (block ++ '}' :: rest)) =
          inFront ['{'] (splitClosing? '{' '}' .outside (depth + 1) (block ++ '}' :: rest)) :=
        splitClosing?_opening depth _
      have closes : splitClosing? '{' '}' .outside (depth + 1) ('}' :: rest) =
          inFront ['}'] (splitClosing? '{' '}' .outside depth rest) :=
        splitClosing?_closing (by decide) depth rest
      have whole := opened ('{' :: (block ++ '}' :: rest))
      rw [outside] at whole
      refine whole.trans ((congrArg (inFront before) (opens.trans (congrArg (inFront ['{'])
        (skips.trans (congrArg (inFront block) closes))))).trans ?_)
      simp [inFront_inFront]
    · have plain : splitClosing? '{' '}' .outside depth (';' :: rest) =
          inFront [';'] (splitClosing? '{' '}' .outside depth rest) :=
        splitClosing?_plain (fun _ => by decide) depth rest
      have whole := opened (';' :: rest)
      rw [outside] at whole
      refine whole.trans ((congrArg (inFront before) plain).trans ?_)
      rw [inFront_inFront]

/-- Nothing in a block is seen from outside: the statements of a body, and what the type with that
body declares, are as with a semicolon in place of the block. -/
theorem blocks_unseen (rest : List Char) :
    statements (before ++ '{' :: (block ++ '}' :: rest)) = statements (before ++ ';' :: rest) ∧
      ∀ (kind : ClassKind) (name header : List Char), '{' ∉ header →
        typeWithBody? kind name (header ++ '{' :: (before ++ '{' :: (block ++ '}' :: rest))) =
          typeWithBody? kind name (header ++ '{' :: (before ++ ';' :: rest)) := by
  refine ⟨statements_block ends balanced rest, fun kind name header plain => ?_⟩
  rw [typeWithBody?_header plain, typeWithBody?_header plain]
  obtain ⟨inside, behind, closed⟩ | ⟨found, withBlock, withSemicolon⟩ :=
    splitBraces?_block ends balanced rest
  · rw [closed, closed]
    rfl
  · rw [withBlock, withSemicolon]
    cases found with
    | none => rfl
    | some pair =>
      have same := statements_block ends balanced pair.1
      have body : typeOfBody kind name header (before ++ '{' :: (block ++ '}' :: pair.1)) =
          typeOfBody kind name header (before ++ ';' :: pair.1) := typeOfBody_congr same kind name header
      simp only [inFront, Option.map_some, Option.bind_some, List.append_assoc, List.cons_append,
        List.nil_append, body]

end

/-- A class inside of a class, with an escaped quote and braces in its literals. -/
theorem nested_class_unseen :
    let string := '\\' :: '"' :: "\x7d; int y;".toList
    let method := " char c = ".toList ++ '\'' :: (['{'] ++ '\'' :: "; int y; ".toList)
    let block := " String s = ".toList ++
      '"' :: (string ++ '"' :: ("; void f() ".toList ++ '{' :: (method ++ '}' :: "int y; ".toList)))
    let before := " int x; class B ".toList
    let declared (tail : List Char) := typeWithBody? .ordinary "A".toList
      (" extends C ".toList ++ '{' :: (before ++ tail))
    blocksAfter before = .start ∧ Balanced [.curly] block ∧
      declared ('{' :: (block ++ '}' :: " int z; \x7d".toList)) = declared "; int z; \x7d".toList ∧
      (declared "; int z; \x7d".toList).map TypeDeclaration.fields =
        some [⟨"x", "int", false⟩, ⟨"z", "int", false⟩] := by
  intro string method block before declared
  have ends : blocksAfter before = .start := by decide +kernel
  have plain {text : List Char} (letters : ∀ c ∈ text, isQuote c = false ∧ c ≠ '{' ∧ c ≠ '}') :
      Balanced [.curly] text :=
    .of_plain fun c member =>
      ⟨(letters c member).1, List.forall_mem_singleton.2 (letters c member).2⟩
  have inner : Balanced [.curly] method :=
    (plain (by simp [isQuote])).append
      (.literal rfl (.of_plain (by simp)) (plain (by simp [isQuote])))
  have balanced : Balanced [.curly] block := by
    refine (plain (by simp [isQuote])).append (.literal rfl (.escape (.of_plain (by simp))) ?_)
    exact (plain (by simp [isQuote])).append
      (.group .curly List.mem_cons_self inner (plain (by simp [isQuote])))
  have unseen := blocks_unseen ends balanced " int z; \x7d".toList
  exact ⟨ends, balanced, unseen.2 .ordinary "A".toList " extends C ".toList (by decide),
    by decide +kernel⟩

end SqlPreview.Source
