import SqlPreview.Proofs.Text.Blank
import SqlPreview.Sql.Trim

/-!
# What a trim rule strips

A trim rule takes tokens off the start of a body, each time from the top of its list, and then off
the end. Here is what goes and what stays, without the loops.

This file defines:
1. the pieces of a text that match a token (`Matches`), and texts of nothing but such pieces and
   white space (`Strippable`);
2. the rounds of one loop (`Rounds`);
3. what is left of a body when nothing can be stripped any more (`IsStripped`).

Results:
1. `afterAny?_strip`: a loop ends only where no token matches.
2. `stripped_settles`: one call of a rule strips all that can be stripped and nothing else. Taking
   tokens off the end cannot bring one to the start, because what matches a shorter text from its
   start matches the longer one.
-/

namespace SqlPreview.TrimRule

/-! ## Matches -/

/-- A character of a token stands for the same letter in either case, and white space for any white
space. -/
def StandsFor (t c : Char) : Prop :=
  if Text.isBlank t then Text.isBlank c = true else Text.lowerChar c = Text.lowerChar t

/-- A piece of a text matches a token character by character. Nothing matches the empty token. -/
def Matches (token piece : List Char) : Prop := token ≠ [] ∧ List.Forall₂ StandsFor token piece

/-- A row of white space and of pieces that match tokens. -/
inductive Strippable (tokens : List (List Char)) : List Char → Prop
  | nil : Strippable tokens []
  | blank {c : Char} {rest : List Char} : Text.isBlank c = true → Strippable tokens rest →
      Strippable tokens (c :: rest)
  | token {token piece rest : List Char} : token ∈ tokens → Matches token piece →
      Strippable tokens rest → Strippable tokens (piece ++ rest)

theorem charMatches_iff (t c : Char) : charMatches t c = true ↔ StandsFor t c := by
  unfold charMatches StandsFor
  split
  · exact Iff.rfl
  · exact beq_iff_eq

theorem afterToken?_eq_some {token text rest : List Char} :
    afterToken? token text = some rest ↔
      ∃ piece, List.Forall₂ StandsFor token piece ∧ text = piece ++ rest := by
  induction token generalizing text with
  | nil =>
    constructor
    · rintro ⟨⟩
      exact ⟨[], .nil, rfl⟩
    · rintro ⟨piece, ⟨⟩, rfl⟩
      rfl
  | cons t token ih =>
    constructor
    · intro found
      cases text with
      | nil => cases found
      | cons c text =>
        rw [afterToken?] at found
        split at found
        · next here =>
          obtain ⟨piece, there, rfl⟩ := ih.1 found
          exact ⟨c :: piece, .cons ((charMatches_iff t c).1 here) there, rfl⟩
        · cases found
    · rintro ⟨piece, stands, rfl⟩
      cases stands with
      | cons here there =>
        rw [List.cons_append, afterToken?, if_pos ((charMatches_iff t _).2 here)]
        exact ih.2 ⟨_, there, rfl⟩

theorem afterMatch?_eq_some {token text rest : List Char} :
    afterMatch? token text = some rest ↔ ∃ piece, Matches token piece ∧ text = piece ++ rest := by
  unfold afterMatch? Matches
  cases token with
  | nil => simp
  | cons t token => simp [afterToken?_eq_some]

theorem Matches.reverse {token piece : List Char} (same : Matches token piece) :
    Matches token.reverse piece.reverse :=
  ⟨fun empty => same.1 (List.reverse_eq_nil_iff.1 empty), List.forall₂_reverse_iff.2 same.2⟩

/-- A loop goes on exactly while the text begins with a piece that matches a token. -/
theorem afterAny?_eq_none {tokens : List (List Char)} {text : List Char} :
    afterAny? tokens text = none ↔
      ∀ token ∈ tokens, ∀ piece rest, Matches token piece → text ≠ piece ++ rest := by
  rw [afterAny?, List.findSome?_eq_none_iff]
  refine forall₂_congr fun token _ => ?_
  rw [Option.eq_none_iff_forall_ne_some]
  constructor
  · rintro none piece rest same rfl
    exact none rest (afterMatch?_eq_some.2 ⟨piece, same, rfl⟩)
  · intro none rest found
    obtain ⟨piece, same, whole⟩ := afterMatch?_eq_some.1 found
    exact none piece rest same whole

theorem exists_of_afterAny? {tokens : List (List Char)} {text rest : List Char}
    (found : afterAny? tokens text = some rest) :
    ∃ token ∈ tokens, ∃ piece, Matches token piece ∧ text = piece ++ rest := by
  obtain ⟨token, member, matched⟩ := List.exists_of_findSome?_eq_some found
  exact ⟨token, member, afterMatch?_eq_some.1 matched⟩

/-! ## Strippable texts -/

namespace Strippable

variable {tokens : List (List Char)} {text text' : List Char}

theorem append (first : Strippable tokens text) (second : Strippable tokens text') :
    Strippable tokens (text ++ text') := by
  induction first with
  | nil => exact second
  | blank isBlank _ ih => exact .blank isBlank ih
  | token member same _ ih =>
    rw [List.append_assoc]
    exact .token member same ih

theorem of_blank (blank : ∀ c ∈ text, Text.isBlank c = true) : Strippable tokens text := by
  induction text with
  | nil => exact .nil
  | cons c rest ih =>
    obtain ⟨here, there⟩ := List.forall_mem_cons.1 blank
    exact .blank here (ih there)

/-- Read backwards, a row of reversed tokens is a row of the tokens. -/
theorem reverse (row : Strippable (tokens.map List.reverse) text) :
    Strippable tokens text.reverse := by
  induction row with
  | nil => exact .nil
  | @blank c rest isBlank _ ih =>
    rw [List.reverse_cons]
    exact ih.append (.blank isBlank .nil)
  | @token token piece rest member same _ ih =>
    obtain ⟨original, inside, rfl⟩ := List.mem_map.1 member
    have forwards : Matches original piece.reverse := by
      have := same.reverse
      rwa [List.reverse_reverse] at this
    have alone : Strippable tokens (piece.reverse ++ []) := .token inside forwards .nil
    rw [List.reverse_append]
    rw [List.append_nil] at alone
    exact ih.append alone

end Strippable

/-! ## One loop -/

/-- One round of a loop: the first token that matches goes, and the white space behind it. -/
def round? (tokens : List (List Char)) (text : List Char) : Option (List Char) :=
  (afterAny? tokens text).map Text.trimStart

/-- So many rounds lead from the first text to the second. -/
inductive Rounds (tokens : List (List Char)) : Nat → List Char → List Char → Prop
  | none (text : List Char) : Rounds tokens 0 text text
  | more {n : Nat} {text next last : List Char} : round? tokens text = some next →
      Rounds tokens n next last → Rounds tokens (n + 1) text last

variable {tokens : List (List Char)}

/-- Every round takes a character at least, so no loop goes on for ever. -/
theorem Rounds.add_length_le {n : Nat} {text last : List Char}
    (rounds : Rounds tokens n text last) :
    n + last.length ≤ text.length := by
  induction rounds with
  | none => rw [Nat.zero_add]
  | @more n text next last first _ ih =>
    obtain ⟨rest, found, rfl⟩ := Option.map_eq_some_iff.1 first
    have shorter := length_afterAny?_lt found
    have cut : (Text.trimStart rest).length ≤ rest.length :=
      (List.dropWhile_sublist Text.isBlank).length_le
    omega

theorem strip_of_some {text rest : List Char} (found : afterAny? tokens text = some rest) :
    strip tokens text = strip tokens (Text.trimStart rest) := by
  rw [strip]
  split
  · next rest' found' =>
    rw [found] at found'
    cases found'
    rfl
  · next none =>
    rw [found] at none
    cases none

theorem strip_of_none {text : List Char} (none : afterAny? tokens text = none) :
    strip tokens text = text := by
  rw [strip]
  split
  · next rest found =>
    rw [none] at found
    cases found
  · rfl

/-- Induction on the rounds of a loop. -/
@[elab_as_elim]
theorem strip_induction (tokens : List (List Char)) {motive : List Char → Prop}
    (last : ∀ text, afterAny? tokens text = none → motive text)
    (round : ∀ text rest, afterAny? tokens text = some rest → motive (Text.trimStart rest) →
      motive text)
    (text : List Char) : motive text := by
  fun_induction strip tokens text with
  | case1 text rest found ih => exact round text rest found ih
  | case2 text none => exact last text none

theorem afterAny?_strip (tokens : List (List Char)) (text : List Char) :
    afterAny? tokens (strip tokens text) = none := by
  induction text using strip_induction tokens with
  | last text none => rwa [strip_of_none none]
  | round text rest found ih => rwa [strip_of_some found]

theorem rounds_strip (tokens : List (List Char)) (text : List Char) :
    ∃ n, Rounds tokens n text (strip tokens text) := by
  induction text using strip_induction tokens with
  | last text none =>
    rw [strip_of_none none]
    exact ⟨0, .none text⟩
  | round text rest found ih =>
    obtain ⟨n, rounds⟩ := ih
    rw [strip_of_some found]
    exact ⟨n + 1, .more (by rw [round?, found]; rfl) rounds⟩

/-- What a loop takes off is a row of white space and matching pieces. -/
theorem exists_strip (tokens : List (List Char)) (text : List Char) :
    ∃ before, Strippable tokens before ∧ text = before ++ strip tokens text := by
  induction text using strip_induction tokens with
  | last text none =>
    rw [strip_of_none none]
    exact ⟨[], .nil, rfl⟩
  | round text rest found ih =>
    obtain ⟨token, member, piece, same, rfl⟩ := exists_of_afterAny? found
    obtain ⟨gap, blank, cut⟩ := Text.exists_trimStart rest
    obtain ⟨before, row, whole⟩ := ih
    refine ⟨piece ++ (gap ++ before),
      .token member same ((Strippable.of_blank blank).append row), ?_⟩
    rw [strip_of_some found]
    calc piece ++ rest = piece ++ (gap ++ Text.trimStart rest) := congrArg _ cut
      _ = piece ++ (gap ++ (before ++ strip tokens (Text.trimStart rest))) := by rw [← whole]
      _ = _ := by simp only [List.append_assoc]

theorem startsSolid_strip (tokens : List (List Char)) {text : List Char}
    (starts : Text.StartsSolid text) :
    Text.StartsSolid (strip tokens text) := by
  induction text using strip_induction tokens with
  | last text none => rwa [strip_of_none none]
  | round text rest found ih =>
    rw [strip_of_some found]
    exact ih (Text.startsSolid_trimStart rest)

theorem strip_isSuffix (tokens : List (List Char)) (text : List Char) :
    strip tokens text <:+ text := by
  obtain ⟨before, -, whole⟩ := exists_strip tokens text
  exact ⟨before, whole.symm⟩

/-! ## Both loops -/

/-- What is left of a body when a rule has nothing more to strip: only white space and tokens are
gone, and neither end has any of them. -/
structure IsStripped (rule : TrimRule) (body rest : List Char) : Prop where
  parts : ∃ before after, body = before ++ (rest ++ after) ∧
    Strippable (rule.startTokens.map String.toList) before ∧
    Strippable (rule.stopTokens.map String.toList) after
  starts : ∀ c, rest.head? = some c → Text.isBlank c = false
  ends : ∀ c, rest.getLast? = some c → Text.isBlank c = false
  noStart : ∀ token ∈ rule.startTokens, ∀ piece after, Matches token.toList piece →
    rest ≠ piece ++ after
  noStop : ∀ token ∈ rule.stopTokens, ∀ before piece, Matches token.toList piece →
    rest ≠ before ++ piece

/-- The tokens of the end as the loop at the end reads them. -/
def backwardTokens (rule : TrimRule) : List (List Char) :=
  rule.stopTokens.map fun token => token.toList.reverse

/-- What the loop at the start leaves. -/
def fromStart (rule : TrimRule) (body : List Char) : List Char :=
  strip (rule.startTokens.map String.toList) (Text.trim body)

variable (rule : TrimRule) (body : List Char)

theorem reverse_stripped :
    (rule.stripped body).reverse = strip rule.backwardTokens (rule.fromStart body).reverse :=
  List.reverse_reverse _

theorem stripped_isPrefix : rule.stripped body <+: rule.fromStart body := by
  rw [← List.reverse_suffix, reverse_stripped]
  exact strip_isSuffix _ _

/-- No token matches where the two loops have ended. -/
theorem afterAny?_fromStart :
    afterAny? (rule.startTokens.map String.toList) (rule.fromStart body) = none :=
  afterAny?_strip _ _

theorem afterAny?_stripped :
    afterAny? rule.backwardTokens (rule.stripped body).reverse = none := by
  rw [reverse_stripped]
  exact afterAny?_strip _ _

theorem startsSolid_reverse_fromStart : Text.StartsSolid (rule.fromStart body).reverse :=
  (Text.startsSolid_reverse_trim body).of_start (List.reverse_prefix.2 (strip_isSuffix _ _))

theorem exists_stripped :
    ∃ before after, body = before ++ (rule.stripped body ++ after) ∧
      Strippable (rule.startTokens.map String.toList) before ∧
      Strippable (rule.stopTokens.map String.toList) after := by
  obtain ⟨gap, gap', blank, blank', whole⟩ := Text.exists_trim body
  obtain ⟨before, row, start⟩ := exists_strip (rule.startTokens.map String.toList) (Text.trim body)
  obtain ⟨after, row', stop⟩ := exists_strip rule.backwardTokens (rule.fromStart body).reverse
  have backwards : rule.backwardTokens = (rule.stopTokens.map String.toList).map List.reverse := by
    rw [backwardTokens, List.map_map]
    rfl
  have middle : rule.fromStart body = rule.stripped body ++ after.reverse := by
    rw [← reverse_stripped] at stop
    rw [← List.reverse_inj, stop, List.reverse_append, List.reverse_reverse]
  refine ⟨gap ++ before, after.reverse ++ gap', ?_, (Strippable.of_blank blank).append row, ?_⟩
  · calc body = gap ++ (Text.trim body ++ gap') := whole
      _ = gap ++ (before ++ rule.fromStart body ++ gap') :=
        congrArg (fun text => gap ++ (text ++ gap')) start
      _ = gap ++ before ++ (rule.stripped body ++ (after.reverse ++ gap')) := by
        rw [middle]
        simp only [List.append_assoc]
  · exact (backwards ▸ row').reverse.append (.of_blank blank')

theorem isStripped_stripped : IsStripped rule body (rule.stripped body) where
  parts := rule.exists_stripped body
  starts :=
    (startsSolid_strip _ (Text.startsSolid_trim body)).of_start (rule.stripped_isPrefix body)
  ends := by
    intro c last
    refine startsSolid_strip rule.backwardTokens (rule.startsSolid_reverse_fromStart body) c ?_
    rw [← reverse_stripped, List.head?_reverse, last]
  noStart := by
    rintro token member piece after same whole
    -- What begins the shorter text begins the longer one, where the loop had ended.
    obtain ⟨more, longer⟩ := rule.stripped_isPrefix body
    refine afterAny?_eq_none.1 (rule.afterAny?_fromStart body) token.toList
      (List.mem_map_of_mem member) piece (after ++ more) same ?_
    rw [← longer, whole, List.append_assoc]
  noStop := by
    rintro token member before piece same whole
    refine afterAny?_eq_none.1 (rule.afterAny?_stripped body) token.toList.reverse
      (List.mem_map_of_mem member) piece.reverse before.reverse same.reverse ?_
    rw [whole, List.reverse_append]

variable {rule body}

/-- A text with nothing to strip at its ends stays as it is. -/
theorem IsStripped.stripped_eq {rest : List Char} (settled : IsStripped rule body rest) :
    rule.stripped rest = rest := by
  have ends : Text.StartsSolid rest.reverse := by
    intro c head
    rw [List.head?_reverse] at head
    exact settled.ends c head
  have noStart : afterAny? (rule.startTokens.map String.toList) rest = none := by
    refine afterAny?_eq_none.2 fun token member piece after same => ?_
    obtain ⟨original, inside, rfl⟩ := List.mem_map.1 member
    exact settled.noStart original inside piece after same
  have noStop : afterAny? rule.backwardTokens rest.reverse = none := by
    refine afterAny?_eq_none.2 fun token member piece after same whole => ?_
    obtain ⟨original, inside, rfl⟩ := List.mem_map.1 member
    refine settled.noStop original inside after.reverse piece.reverse ?_ ?_
    · have := same.reverse
      rwa [List.reverse_reverse] at this
    · rw [← List.reverse_append, ← whole, List.reverse_reverse]
  have start : rule.fromStart rest = rest := by
    rw [fromStart, Text.trim_of_solid_ends settled.starts ends, strip_of_none noStart]
  rw [← List.reverse_inj, reverse_stripped, start, strip_of_none noStop]

/-- Only the spaces and texts of the rule are put around what is left, and only if something is. -/
theorem apply_eq_nil_iff : rule.apply body = [] ↔ rule.stripped body = [] := by
  unfold apply
  cases rule.stripped body with
  | nil => simp
  | cons c rest => simp

variable (rule body)

theorem exists_rounds :
    ∃ n m middle, Rounds (rule.startTokens.map String.toList) n (Text.trim body) middle ∧
      round? (rule.startTokens.map String.toList) middle = none ∧
      Rounds rule.backwardTokens m middle.reverse (rule.stripped body).reverse ∧
      round? rule.backwardTokens (rule.stripped body).reverse = none ∧ n + m ≤ body.length := by
  obtain ⟨n, first⟩ := rounds_strip (rule.startTokens.map String.toList) (Text.trim body)
  obtain ⟨m, second⟩ := rounds_strip rule.backwardTokens (rule.fromStart body).reverse
  rw [← reverse_stripped] at second
  refine ⟨n, m, rule.fromStart body, first, ?_, second, ?_, ?_⟩
  · rw [round?, afterAny?_fromStart]
    rfl
  · rw [round?, afterAny?_stripped]
    rfl
  · have left : n + (rule.fromStart body).length ≤ (Text.trim body).length := first.add_length_le
    have right := second.add_length_le
    have cut : (Text.trim body).length ≤ body.length :=
      (Text.trimEnd_isPrefix _).length_le.trans (List.dropWhile_sublist Text.isBlank).length_le
    rw [List.length_reverse, List.length_reverse] at right
    omega

/-- One call of a rule strips all that there is to strip and nothing else, in no more rounds than
the body has characters, so that a second call changes nothing. What the rule makes of a body is
empty exactly if nothing is left. -/
theorem stripped_settles :
    IsStripped rule body (rule.stripped body) ∧
    rule.stripped (rule.stripped body) = rule.stripped body ∧
    (∃ n m middle, Rounds (rule.startTokens.map String.toList) n (Text.trim body) middle ∧
      round? (rule.startTokens.map String.toList) middle = none ∧
      Rounds rule.backwardTokens m middle.reverse (rule.stripped body).reverse ∧
      round? rule.backwardTokens (rule.stripped body).reverse = none ∧ n + m ≤ body.length) ∧
    (rule.apply body = [] ↔ rule.stripped body = []) :=
  ⟨rule.isStripped_stripped body, (rule.isStripped_stripped body).stripped_eq,
    rule.exists_rounds body, apply_eq_nil_iff⟩

end SqlPreview.TrimRule
