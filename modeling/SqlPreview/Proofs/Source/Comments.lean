import Mathlib
import SqlPreview.Proofs.Source.Contents

/-!
# Texts without comments

Every source text is code, literals and comments in a row, also one that ends in the middle of a
literal or a comment. Taking the comments out joins what stands around them, and what is joined is
never the beginning of a comment: a slash right before a comment would itself begin one.

This file defines the segments of a text (`Segmented`) and what is kept of them (`Segment.kept`).

Results:
1. `exists_segments`: every text has segments.
2. `Segmented.stripComments_eq`, `Segmented.kept`: without its comments, a text has the segments
   that are kept.
3. `uncomment_opening`: where the beginning of a comment is left, it is in a literal.
4. `comments_stripped`: all literals are kept in order, no comment is left, and nothing is left to
   strip.
-/

namespace SqlPreview.Source

/-! ## Segments -/

inductive Segment where
  | code (c : Char)
  /-- A literal with its quotes, of which the last one may be missing at the end of a text. -/
  | literal (text : List Char)
  /-- A comment from its opening to its end, and what stands in its place without it. -/
  | comment (text left : List Char)
deriving DecidableEq

namespace Segment

/-- The text of a segment. -/
def chars : Segment → List Char
  | code c => [c]
  | literal text => text
  | comment text _ => text

/-- What is kept of a segment without comments. -/
def kept : Segment → List Segment
  | comment _ left => left.map code
  | segment => [segment]

def literal? : Segment → Option (List Char)
  | literal text => some text
  | _ => none

def isComment : Segment → Bool
  | comment _ _ => true
  | _ => false

end Segment

/-- The literals among some segments. -/
def literalsOf (segments : List Segment) : List (List Char) := segments.filterMap Segment.literal?

/-- What may stand behind the first quote of a literal that is not closed. -/
inductive Unclosed (quote : Char) : List Char → Prop
  | nil : Unclosed quote []
  | backslash : Unclosed quote ['\\']
  | char {c : Char} {rest : List Char} :
      c ≠ '\\' → c ≠ quote → Unclosed quote rest → Unclosed quote (c :: rest)
  | escape {c : Char} {rest : List Char} : Unclosed quote rest → Unclosed quote ('\\' :: c :: rest)

/-- A whole text and its segments in order. Unlike a `Cleared` text, it may end inside of a literal
or a comment. -/
inductive Segmented : List Char → List Segment → Prop
  | nil : Segmented [] []
  | code {c : Char} {rest : List Char} {segments : List Segment} : isQuote c = false →
      (c = '/' → rest.head? ≠ some '/' ∧ rest.head? ≠ some '*') → Segmented rest segments →
      Segmented (c :: rest) (.code c :: segments)
  | literal {quote : Char} {contents rest : List Char} {segments : List Segment} :
      isQuote quote = true → Contents quote contents → Segmented rest segments →
      Segmented (quote :: (contents ++ quote :: rest))
        (.literal (quote :: (contents ++ [quote])) :: segments)
  | openLiteral {quote : Char} {contents : List Char} : isQuote quote = true →
      Unclosed quote contents → Segmented (quote :: contents) [.literal (quote :: contents)]
  | line {comment rest : List Char} {segments : List Segment} : '\n' ∉ comment →
      Segmented rest segments → Segmented ('/' :: '/' :: (comment ++ '\n' :: rest))
        (.comment ('/' :: '/' :: (comment ++ ['\n'])) ['\n'] :: segments)
  | lastLine {comment : List Char} : '\n' ∉ comment →
      Segmented ('/' :: '/' :: comment) [.comment ('/' :: '/' :: comment) []]
  | block {comment rest : List Char} {segments : List Segment} :
      ¬ ['*', '/'] <:+: comment ++ ['*'] → Segmented rest segments →
      Segmented ('/' :: '*' :: (comment ++ '*' :: '/' :: rest))
        (.comment ('/' :: '*' :: (comment ++ ['*', '/'])) [' '] :: segments)
  | openBlock {comment : List Char} : ¬ ['*', '/'] <:+: comment →
      Segmented ('/' :: '*' :: comment) [.comment ('/' :: '*' :: comment) [' ']]

/-- The segments make up the text. -/
theorem Segmented.chars_eq {text : List Char} {segments : List Segment}
    (segmented : Segmented text segments) : segments.flatMap Segment.chars = text := by
  induction segmented with
  | nil => rfl
  | code _ _ _ ih => rw [List.flatMap_cons, ih, Segment.chars, List.singleton_append]
  | literal _ _ _ ih => simp [Segment.chars, ih]
  | line _ _ ih => simp [Segment.chars, ih]
  | block _ _ ih => simp [Segment.chars, ih]
  | openLiteral _ _ => simp [Segment.chars]
  | lastLine _ => simp [Segment.chars]
  | openBlock _ => simp [Segment.chars]

/-! ## Every text has segments -/

/-- A literal is closed somewhere, or it is open up to the end. -/
theorem exists_contents (quote : Char) (text : List Char) :
    (∃ contents rest, Contents quote contents ∧ text = contents ++ quote :: rest) ∨
      Unclosed quote text := by
  induction size : text.length using Nat.strongRecOn generalizing text with
  | _ n ih =>
    match text with
    | [] => exact .inr .nil
    | c :: rest =>
      by_cases closes : c = quote
      · exact .inl ⟨[], rest, .nil, by rw [closes, List.nil_append]⟩
      by_cases escapes : c = '\\'
      · -- The character behind the backslash is skipped, whatever it is.
        subst escapes
        match rest with
        | [] => exact .inr .backslash
        | d :: more =>
          obtain ⟨contents, behind, written, rfl⟩ | unclosed :=
            ih more.length (by simp only [← size, List.length_cons]; omega) more rfl
          · exact .inl ⟨'\\' :: d :: contents, behind, .escape written, rfl⟩
          · exact .inr (.escape unclosed)
      · obtain ⟨contents, behind, written, rfl⟩ | unclosed :=
          ih rest.length (by simp only [← size, List.length_cons]; omega) rest rfl
        · exact .inl ⟨c :: contents, behind, .char escapes closes written, rfl⟩
        · exact .inr (.char escapes closes unclosed)

/-- The first closing of a block comment. -/
theorem exists_closing {text : List Char} (closed : ['*', '/'] <:+: text) :
    ∃ comment rest, ¬ ['*', '/'] <:+: comment ++ ['*'] ∧ text = comment ++ '*' :: '/' :: rest := by
  induction text with
  | nil => exact absurd (List.infix_nil.1 closed) (List.cons_ne_nil _ _)
  | cons c text ih =>
    by_cases here : ['*', '/'] <+: c :: text
    · obtain ⟨rest, same⟩ := here
      exact ⟨[], rest, fun inside => absurd inside.length_le (by decide), same.symm⟩
    · have later : ['*', '/'] <:+: text := (List.infix_cons_iff.1 closed).resolve_left here
      obtain ⟨comment, rest, first, rfl⟩ := ih later
      refine ⟨c :: comment, rest, fun inside => ?_, rfl⟩
      rw [List.cons_append] at inside
      obtain begins | inside := List.infix_cons_iff.1 inside
      · have longer : c :: (comment ++ ['*']) <+: c :: (comment ++ '*' :: '/' :: rest) :=
          ⟨'/' :: rest, by simp⟩
        exact here (begins.trans longer)
      · exact first inside

theorem exists_segments (text : List Char) : ∃ segments, Segmented text segments := by
  induction size : text.length using Nat.strongRecOn generalizing text with
  | _ n ih =>
    match text with
    | [] => exact ⟨[], .nil⟩
    | c :: rest =>
      have further (behind : List Char) (shorter : behind.length < n) :
          ∃ segments, Segmented behind segments := ih _ shorter behind rfl
      rw [List.length_cons] at size
      cases isOne : isQuote c with
      | true =>
        obtain ⟨contents, behind, written, rfl⟩ | unclosed := exists_contents c rest
        · obtain ⟨segments, segmented⟩ := further behind (by simp at size; omega)
          exact ⟨_, .literal isOne written segmented⟩
        · exact ⟨_, .openLiteral isOne unclosed⟩
      | false =>
        by_cases line : c = '/' ∧ rest.head? = some '/'
        · obtain ⟨rfl, opens⟩ := line
          obtain ⟨comment, rfl⟩ := List.head?_eq_some_iff.1 opens
          by_cases ended : '\n' ∈ comment
          · obtain ⟨inside, behind, rfl, plain⟩ := List.eq_append_cons_of_mem ended
            obtain ⟨segments, segmented⟩ := further behind (by simp at size; omega)
            exact ⟨_, .line plain segmented⟩
          · exact ⟨_, .lastLine ended⟩
        by_cases block : c = '/' ∧ rest.head? = some '*'
        · obtain ⟨rfl, opens⟩ := block
          obtain ⟨comment, rfl⟩ := List.head?_eq_some_iff.1 opens
          by_cases ended : ['*', '/'] <:+: comment
          · obtain ⟨inside, behind, plain, rfl⟩ := exists_closing ended
            obtain ⟨segments, segmented⟩ := further behind (by simp at size; omega)
            exact ⟨_, .block plain segmented⟩
          · exact ⟨_, .openBlock ended⟩
        · obtain ⟨segments, segmented⟩ := further rest (by omega)
          exact ⟨_, .code isOne (fun slash => ⟨fun next => line ⟨slash, next⟩,
            fun next => block ⟨slash, next⟩⟩) segmented⟩

/-! ## Without comments -/

theorem uncomment_unclosed {quote : Char} {contents : List Char}
    (unclosed : Unclosed quote contents) :
    uncomment (.code (.inside quote false)) contents = contents := by
  have goesOn (escaped : Bool) (c : Char) (rest : List Char) :=
    uncomment_keepsLiterals.goesOn quote escaped c rest
  induction unclosed with
  | nil => rfl
  | backslash => rw [goesOn]; rfl
  | char plain other _ ih => rw [goesOn, Quoting.next_char plain other, ih]; rfl
  | escape _ ih =>
    have escaped : (Quoting.inside quote false).next '\\' = .inside quote true := rfl
    rw [goesOn, escaped, goesOn, Quoting.next, ih]
    rfl

theorem uncomment_lastLine {comment : List Char} (plain : '\n' ∉ comment) :
    uncomment .line comment = [] := by
  induction comment with
  | nil => rfl
  | cons c comment ih =>
    obtain ⟨other, plain⟩ := not_or.1 (List.mem_cons.not.1 plain)
    rw [uncomment, if_neg (by simpa using Ne.symm other), ih plain]

theorem uncomment_openBlock {star : Bool} {comment : List Char}
    (first : star = true → comment.head? ≠ some '/') (plain : ¬ ['*', '/'] <:+: comment) :
    uncomment (.block star) comment = [' '] := by
  induction comment generalizing star with
  | nil => rfl
  | cons c comment ih =>
    have ends : (star && c == '/') = false := by
      rw [Bool.and_eq_false_imp, beq_eq_false_iff_ne]
      exact fun isStar slash => first isStar (by rw [slash]; rfl)
    rw [uncomment, ends]
    refine ih (fun isStar slash => plain ?_) fun inside => plain ?_
    · obtain ⟨more, rfl⟩ := List.head?_eq_some_iff.1 slash
      rw [beq_iff_eq.1 isStar]
      exact ⟨[], more, rfl⟩
    · exact inside.trans (List.suffix_cons c _).isInfix

namespace Segmented

variable {text : List Char} {segments : List Segment}

/-- What is left of a text is what is kept of its segments. -/
theorem stripComments_eq (segmented : Segmented text segments) :
    stripComments text = (segments.flatMap Segment.kept).flatMap Segment.chars := by
  unfold stripComments
  induction segmented with
  | nil => rfl
  | code plain goesOn _ ih =>
    rw [uncomment_code _ fun _ => goesOn, Quoting.next_plain plain, ih]
    rfl
  | literal isOne written _ ih =>
    rw [uncomment_keepsLiterals.literal_eq isOne written, ih]
    rfl
  | openLiteral isOne unclosed =>
    rw [uncomment_keepsLiterals.begins isOne, uncomment_unclosed unclosed]
    simp [Segment.kept, Segment.chars]
  | line plain _ ih =>
    rw [uncomment, uncomment_line plain, ih]
    rfl
  | lastLine plain =>
    rw [uncomment, uncomment_lastLine plain]
    rfl
  | block plain _ ih =>
    rw [uncomment, uncomment_block (by rintro ⟨⟩) plain, ih]
    rfl
  | openBlock plain =>
    rw [uncomment, uncomment_openBlock (by rintro ⟨⟩) plain]
    rfl

/-- Where no comment begins, what is kept begins as the text does. -/
theorem head?_kept (segmented : Segmented text segments) (other : text.head? ≠ some '/') :
    ((segments.flatMap Segment.kept).flatMap Segment.chars).head? = text.head? := by
  cases segmented with
  | nil | code _ _ _ | literal _ _ _ | openLiteral _ _ => rfl
  | line _ _ | lastLine _ | block _ _ | openBlock _ => exact absurd rfl other

/-- What is kept are segments again. -/
theorem kept (segmented : Segmented text segments) :
    Segmented (stripComments text) (segments.flatMap Segment.kept) := by
  rw [segmented.stripComments_eq]
  induction segmented with
  | nil => exact .nil
  | code plain goesOn more ih =>
    refine .code plain (fun slash => ?_) ih
    have same := more.head?_kept (goesOn slash).1
    exact same ▸ goesOn slash
  | literal isOne written _ ih =>
    have joined := Segmented.literal isOne written ih
    simpa [Segment.kept, Segment.chars] using joined
  | openLiteral isOne unclosed =>
    have joined := Segmented.openLiteral isOne unclosed
    simpa [Segment.kept, Segment.chars] using joined
  | line _ _ ih => exact .code (by decide) (fun slash => absurd slash (by decide)) ih
  | lastLine _ => exact .nil
  | block _ _ ih => exact .code (by decide) (fun slash => absurd slash (by decide)) ih
  | openBlock _ => exact .code (by decide) (fun slash => absurd slash (by decide)) .nil

end Segmented

theorem literalsOf_kept (segments : List Segment) :
    literalsOf (segments.flatMap Segment.kept) = literalsOf segments := by
  have left (text : List Char) : (text.map Segment.code).filterMap Segment.literal? = [] := by
    rw [List.filterMap_map, List.filterMap_eq_nil_iff]
    exact fun _ _ => rfl
  induction segments with
  | nil => rfl
  | cons segment segments ih =>
    unfold literalsOf at ih ⊢
    rw [List.flatMap_cons, List.filterMap_append, ih]
    cases segment with
    | code c => rfl
    | literal text => rfl
    | comment text text' =>
      rw [Segment.kept, left]
      rfl

theorem isComment_of_mem_kept {segments : List Segment} {segment : Segment}
    (member : segment ∈ segments.flatMap Segment.kept) : segment.isComment = false := by
  obtain ⟨origin, -, member⟩ := List.mem_flatMap.1 member
  cases origin with
  | code c =>
    obtain rfl := List.mem_singleton.1 member
    rfl
  | literal text =>
    obtain rfl := List.mem_singleton.1 member
    rfl
  | comment text left =>
    obtain ⟨c, -, rfl⟩ := List.mem_map.1 member
    rfl

/-- Segments without a comment are all kept. -/
theorem flatMap_kept {segments : List Segment}
    (plain : ∀ segment ∈ segments, segment.isComment = false) :
    segments.flatMap Segment.kept = segments := by
  induction segments with
  | nil => rfl
  | cons segment segments ih =>
    obtain ⟨first, plain⟩ := List.forall_mem_cons.1 plain
    rw [List.flatMap_cons, ih plain]
    cases segment with
    | code c => rfl
    | literal text => rfl
    | comment text left => cases first

/-! ## Openings -/

/-- Two characters that begin a comment, where they are not in a literal. -/
def OpensComment (first second : Char) : Prop := first = '/' ∧ (second = '/' ∨ second = '*')

/-- The literal that a text goes on in, if any. Behind a comment there is none. -/
def CommentState.quoting : CommentState → Quoting
  | .code quoting => quoting
  | .line | .block _ => .outside

/-- Two characters that begin a comment are left in literals only. The induction is on the text that
the comments are in, so that the literal may have begun before it. -/
theorem uncomment_opening {state : CommentState} {text before after : List Char} {c d : Char}
    (opens : OpensComment c d) (found : uncomment state text = before ++ c :: d :: after) :
    (state.quoting.after before).isOutside = false := by
  obtain ⟨rfl, second⟩ := opens
  -- What stands in place of a comment is no slash, so that none begins there.
  have goesOn {e : Char} {rest before : List Char} (plain : isQuote e = false) (other : e ≠ '/')
      (ih : ∀ {before}, uncomment (.code .outside) rest = before ++ '/' :: d :: after →
        (Quoting.outside.after before).isOutside = false)
      (found : e :: uncomment (.code .outside) rest = before ++ '/' :: d :: after) :
      (Quoting.outside.after before).isOutside = false := by
    cases before with
    | nil => exact absurd (List.cons.inj found).1 other
    | cons first before =>
      obtain ⟨rfl, behind⟩ := List.cons.inj found
      rw [Quoting.after_cons, Quoting.next_plain plain]
      exact ih behind
  have nowhere {before : List Char} (found : [] = before ++ '/' :: d :: after) : False :=
    absurd found.symm (by simp)
  fun_induction uncomment state text generalizing before with
  | case1 rest ih => exact ih found
  | case2 rest ih => exact ih found
  | case3 quoting e rest noLine noBlock ih =>
    cases before with
    | cons first before =>
      obtain ⟨rfl, behind⟩ := List.cons.inj found
      exact ih behind
    | nil =>
      obtain ⟨rfl, behind⟩ := List.cons.inj found
      cases quoting with
      | inside quote escaped => rfl
      | outside =>
        -- Outside of literals the character behind the slash is as in the text, which has none.
        have slash : Quoting.outside.next '/' = .outside := rfl
        rw [slash] at behind
        cases rest with
        | nil => exact absurd behind (by rw [uncomment]; simp)
        | cons f rest =>
          have noSlash : f ≠ '/' := fun same => noLine rest rfl rfl (by rw [same])
          have noStar : f ≠ '*' := fun same => noBlock rest rfl rfl (by rw [same])
          rw [uncomment_code rest fun _ same => absurd same noSlash] at behind
          obtain rfl := (List.cons.inj behind).1
          exact absurd second (by simp [noSlash, noStar])
  | case4 => exact (nowhere found).elim
  | case5 e rest ends ih => exact goesOn (by decide) (by decide) ih found
  | case6 e rest inside ih => exact ih found
  | case7 => exact (nowhere found).elim
  | case8 star e rest ends ih => exact goesOn (by decide) (by decide) ih found
  | case9 star e rest inside ih => exact ih found
  | case10 =>
    cases before with
    | nil => exact absurd found (by simp)
    | cons first before => exact (nowhere (List.cons.inj found).2).elim

/-- Stripping comments is complete and stable. Every text is made up of segments; without its
comments it has the same literals in order and no comment any more, what begins a comment stands
only in literals, and stripping again changes nothing. -/
theorem comments_stripped (text : List Char) :
    (∃ segments, Segmented text segments) ∧
    (∀ segments, Segmented text segments → segments.flatMap Segment.chars = text ∧
      Segmented (stripComments text) (segments.flatMap Segment.kept) ∧
      literalsOf (segments.flatMap Segment.kept) = literalsOf segments ∧
      ∀ segment ∈ segments.flatMap Segment.kept, segment.isComment = false) ∧
    (∀ before c d after, stripComments text = before ++ c :: d :: after → OpensComment c d →
      (Quoting.outside.after before).isOutside = false) ∧
    stripComments (stripComments text) = stripComments text := by
  refine ⟨exists_segments text, fun segments segmented => ?_, fun before c d after found opens =>
    uncomment_opening opens found, ?_⟩
  · exact ⟨segmented.chars_eq, segmented.kept, literalsOf_kept segments,
      fun segment => isComment_of_mem_kept⟩
  · obtain ⟨segments, segmented⟩ := exists_segments text
    have again := segmented.kept.stripComments_eq
    rw [flatMap_kept fun segment => isComment_of_mem_kept] at again
    exact again.trans segmented.stripComments_eq.symm

-- A star cannot close the comment that it opens; at the end of the text a literal is still open.
example : stripComments "a/*/ b */'//'\"//\\\" /* ".toList = "a '//'\"//\\\" /* ".toList := by
  decide +kernel

end SqlPreview.Source
