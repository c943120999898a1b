import Mathlib.Data.List.Infix
import Mathlib.Data.List.TakeWhile
import SqlPreview.Sql.Placeholder

/-!
# Substitution in one pass

A text with placeholders is literals and placeholders in turn. There is one way to cut it so that no
literal holds a complete placeholder and only the last literal holds an opening that is never
closed. Substitution follows that cut once, from left to right.

This file defines:
1. literals that hold a placeholder or an opening (`HasPlaceholder`, `HasOpening`);
2. the literals and the placeholders of a text in turn (`Segments`), and when they are those of a
   text (`Segments.Cuts`);
3. what is asked for a placeholder (`IsExpression`), and what comes of asking for a row of them
   (`Resolver.Asked`).

Results:
1. `Segments.cuts_iff`: every text has exactly one cut.
2. `Segments.Cuts.substitute_eq`: substitution has the effects of one call for each placeholder, in
   order, and puts the answers between the literals.
3. `substitute_single_pass`: both, for a resolver that may fail and may remember what it was asked.
-/

namespace SqlPreview

/-! ## Complete and unclosed placeholders -/

/-- A complete placeholder stands somewhere in a text. -/
def HasPlaceholder (text : List Char) : Prop :=
  ∃ p : Placeholder, '}' ∉ p.body ∧ p.chars <:+: text

/-- A marker with its brace stands somewhere in a text. -/
def HasOpening (text : List Char) : Prop := ∃ marker : Marker, [marker.char, '{'] <:+: text

theorem not_hasPlaceholder_nil : ¬ HasPlaceholder [] := by
  rintro ⟨p, -, here⟩
  cases List.infix_nil.1 here

theorem not_hasOpening_nil : ¬ HasOpening [] := by
  rintro ⟨marker, here⟩
  cases List.infix_nil.1 here

theorem HasPlaceholder.hasOpening {text : List Char} (has : HasPlaceholder text) :
    HasOpening text := by
  obtain ⟨p, -, here⟩ := has
  exact ⟨p.marker, .trans (List.prefix_append [p.marker.char, '{'] (p.body ++ ['}'])).isInfix here⟩

theorem Text.bne_of_not_mem {c : Char} {text : List Char} (absent : c ∉ text) :
    ∀ d ∈ text, (d != c) = true := by
  intro d member
  rw [bne_iff_ne]
  rintro rfl
  exact absent member

theorem Marker.ofChar?_eq_some {c : Char} {marker : Marker} :
    ofChar? c = some marker ↔ c = marker.char := by
  constructor
  · intro found
    unfold ofChar? at found
    split at found <;> cases found <;> rfl
  · rintro rfl
    cases marker <;> rfl

theorem Marker.char_ne_brace (marker : Marker) : marker.char ≠ '{' := by
  cases marker <;> decide

/-- A placeholder is read where one is written, up to the first closing brace. -/
theorem Piece.placeholder?_eq_some {c : Char} {rest after : List Char} {p : Placeholder} :
    placeholder? c rest = some (p, after) ↔ '}' ∉ p.body ∧ c :: rest = p.chars ++ after := by
  constructor
  · intro found
    unfold placeholder? at found
    split at found
    · next marker inside marked =>
      obtain ⟨⟨body, tail⟩, closed, same⟩ := Option.map_eq_some_iff.1 found
      cases same
      obtain ⟨d, cuts, plain, rfl⟩ := Text.splitFirst?_eq_some.1 closed
      rw [beq_iff_eq.1 cuts, Marker.ofChar?_eq_some.1 marked]
      refine ⟨fun member => ?_, by simp [Placeholder.chars]⟩
      simpa using plain _ member
    · cases found
  · rintro ⟨closed, same⟩
    have split : Text.splitFirst? (· == '}') (p.body ++ '}' :: after) = some (p.body, after) := by
      refine Text.splitFirst?_eq_some.2 ⟨'}', by decide, fun d member => ?_, rfl⟩
      simpa using Text.bne_of_not_mem closed d member
    simp only [Placeholder.chars, List.cons_append, List.append_assoc, List.nil_append,
      List.cons.injEq] at same
    obtain ⟨rfl, rfl⟩ := same
    simp [placeholder?, Marker.ofChar?_eq_some.2 rfl, split]

namespace Piece

variable {c : Char} {rest : List Char}

/-- Whatever is opened and closed again later begins with a placeholder. -/
theorem exists_placeholder? (marker : Marker) {inside : List Char} (closed : '}' ∈ inside) :
    ∃ p after, placeholder? marker.char ('{' :: inside) = some (p, after) := by
  obtain ⟨body, after, rfl, first⟩ := List.eq_append_cons_of_mem closed
  exact ⟨⟨marker, body⟩, after, placeholder?_eq_some.2 ⟨first, by simp [Placeholder.chars]⟩⟩

theorem ofText_placeholder {p : Placeholder} (closed : '}' ∉ p.body) (after : List Char) :
    ofText (p.chars ++ after) = .placeholder p :: ofText after := by
  have found : placeholder? p.marker.char ('{' :: p.body ++ ['}'] ++ after) = some (p, after) :=
    placeholder?_eq_some.2 ⟨closed, rfl⟩
  rw [Placeholder.chars, List.cons_append, List.cons_append, ofText]
  split
  · next read =>
    cases found.symm.trans read
    rfl
  · next read => cases found.symm.trans read

theorem ofText_verbatim (plain : placeholder? c rest = none) :
    ofText (c :: rest) = .verbatim c :: ofText rest := by
  rw [ofText]
  split
  · next read => cases plain.symm.trans read
  · rfl

end Piece

theorem hasPlaceholder_cons {c : Char} {text : List Char} :
    HasPlaceholder (c :: text) ↔ Piece.placeholder? c text ≠ none ∨ HasPlaceholder text := by
  have here : (∃ p : Placeholder, '}' ∉ p.body ∧ p.chars <+: c :: text) ↔
      Piece.placeholder? c text ≠ none := by
    constructor
    · rintro ⟨p, closed, after, same⟩
      rw [Piece.placeholder?_eq_some.2 ⟨closed, same.symm⟩]
      exact Option.some_ne_none _
    · intro found
      obtain ⟨⟨p, after⟩, found⟩ := Option.ne_none_iff_exists'.1 found
      obtain ⟨closed, same⟩ := Piece.placeholder?_eq_some.1 found
      exact ⟨p, closed, after, same.symm⟩
  simp only [HasPlaceholder, List.infix_cons_iff, and_or_left, exists_or, here]

/-- In front of a placeholder, an opening would be closed by the brace of that placeholder. -/
theorem hasOpening_cons {c : Char} {literal : List Char} (p : Placeholder) (after : List Char) :
    HasOpening (c :: literal) ↔
      Piece.placeholder? c (literal ++ (p.chars ++ after)) ≠ none ∨ HasOpening literal := by
  have here : (∃ marker : Marker, [marker.char, '{'] <+: c :: literal) ↔
      Piece.placeholder? c (literal ++ (p.chars ++ after)) ≠ none := by
    constructor
    · rintro ⟨marker, rest, same⟩
      cases same
      have closed : '}' ∈ rest ++ (p.chars ++ after) := by simp [Placeholder.chars]
      obtain ⟨q, behind, found⟩ := Piece.exists_placeholder? marker closed
      exact Option.ne_none_iff_exists'.2 ⟨_, found⟩
    · intro found
      obtain ⟨⟨q, behind⟩, found⟩ := Option.ne_none_iff_exists'.1 found
      obtain ⟨-, same⟩ := Piece.placeholder?_eq_some.1 found
      obtain ⟨marked, same⟩ := List.cons.inj same
      cases literal with
      | nil => exact absurd (List.cons.inj same).1 p.marker.char_ne_brace
      | cons d literal =>
        obtain ⟨brace, -⟩ := List.cons.inj same
        exact ⟨q.marker, literal, by rw [marked, brace]; rfl⟩
  simp only [HasOpening, List.infix_cons_iff, exists_or, here]

/-! ## Literals and placeholders in turn -/

/-- Pairs of a literal and the placeholder behind it, and the last literal. -/
structure Segments where
  pairs : List (List Char × Placeholder)
  last : List Char
deriving DecidableEq, Repr

namespace Segments

/-- The text that the segments make up. -/
def chars (segments : Segments) : List Char :=
  segments.pairs.flatMap (fun pair => pair.1 ++ pair.2.chars) ++ segments.last

def literals (segments : Segments) : List (List Char) :=
  segments.pairs.map Prod.fst ++ [segments.last]

def holes (segments : Segments) : List Placeholder := segments.pairs.map Prod.snd

/-- The literals as they are, with an answer behind each but the last. -/
def fill (last : List Char) :
    List (List Char × Placeholder) → List (List Char) → List Char
  | [], _ => last
  | pair :: pairs, answers => pair.1 ++ (answers.headD [] ++ fill last pairs answers.tail)

/-- The text with an answer in place of each placeholder. -/
def filled (segments : Segments) (answers : List (List Char)) : List Char :=
  fill segments.last segments.pairs answers

/-- The segments are those of a text: each placeholder ends at its first closing brace, no literal
holds a complete one, and what is opened without being closed stands behind all of them. -/
structure Cuts (segments : Segments) (text : List Char) : Prop where
  written : segments.chars = text
  closed : ∀ p ∈ segments.holes, '}' ∉ p.body
  bare : ∀ literal ∈ segments.literals, ¬ HasPlaceholder literal
  unopened : ∀ literal ∈ segments.literals.dropLast, ¬ HasOpening literal

/-- Segments of a text that begins with a literal character. -/
def push (c : Char) : Segments → Segments
  | ⟨[], last⟩ => ⟨[], c :: last⟩
  | ⟨(literal, p) :: pairs, last⟩ => ⟨(c :: literal, p) :: pairs, last⟩

/-- Segments of a text that begins with a placeholder. -/
def begin (p : Placeholder) (segments : Segments) : Segments :=
  ⟨([], p) :: segments.pairs, segments.last⟩

def ofPieces : List Piece → Segments
  | [] => ⟨[], []⟩
  | .verbatim c :: rest => (ofPieces rest).push c
  | .placeholder p :: rest => (ofPieces rest).begin p

def pieces (segments : Segments) : List Piece :=
  segments.pairs.flatMap (fun pair => pair.1.map .verbatim ++ [.placeholder pair.2]) ++
    segments.last.map .verbatim

/-- Segments are built from the front, a character or a placeholder at a time. -/
@[elab_as_elim]
theorem build {motive : Segments → Prop} (empty : motive ⟨[], []⟩)
    (push : ∀ c segments, motive segments → motive (segments.push c))
    (begin : ∀ p segments, motive segments → motive (segments.begin p))
    (segments : Segments) : motive segments := by
  obtain ⟨pairs, last⟩ := segments
  induction pairs with
  | nil =>
    induction last with
    | nil => exact empty
    | cons c last ih => exact push c _ ih
  | cons pair pairs ih =>
    obtain ⟨literal, p⟩ := pair
    induction literal with
    | nil => exact begin p _ ih
    | cons c literal there => exact push c _ there

variable {segments : Segments} {c : Char} {p : Placeholder} {text : List Char}

theorem pieces_push : (segments.push c).pieces = .verbatim c :: segments.pieces := by
  obtain ⟨⟨⟩ | ⟨⟨literal, p⟩, pairs⟩, last⟩ := segments <;> rfl

theorem pieces_begin : (segments.begin p).pieces = .placeholder p :: segments.pieces := rfl

theorem chars_push : (segments.push c).chars = c :: segments.chars := by
  obtain ⟨⟨⟩ | ⟨⟨literal, p⟩, pairs⟩, last⟩ := segments <;> rfl

theorem chars_begin : (segments.begin p).chars = p.chars ++ segments.chars := by
  simp [begin, chars]

theorem holes_push : (segments.push c).holes = segments.holes := by
  obtain ⟨⟨⟩ | ⟨⟨literal, p⟩, pairs⟩, last⟩ := segments <;> rfl

theorem filled_push {answers : List (List Char)} :
    (segments.push c).filled answers = c :: segments.filled answers := by
  obtain ⟨⟨⟩ | ⟨⟨literal, p⟩, pairs⟩, last⟩ := segments <;> rfl

theorem filled_begin {answer : List Char} {answers : List (List Char)} :
    (segments.begin p).filled (answer :: answers) = answer ++ segments.filled answers := rfl

theorem ofPieces_pieces (segments : Segments) : ofPieces segments.pieces = segments := by
  induction segments using build with
  | empty => rfl
  | push c segments ih => rw [pieces_push, ofPieces, ih]
  | begin p segments ih => rw [pieces_begin, ofPieces, ih]

/-! ## The one cut of a text -/

theorem cuts_last {last : List Char} :
    Cuts ⟨[], last⟩ text ↔ last = text ∧ ¬ HasPlaceholder last := by
  constructor
  · rintro ⟨written, -, bare, -⟩
    exact ⟨written, bare last (by simp [literals])⟩
  · rintro ⟨written, bare⟩
    exact ⟨written, by simp [holes], by simpa [literals] using bare, by simp [literals]⟩

theorem cuts_pair {literal last : List Char} {pairs : List (List Char × Placeholder)} :
    Cuts ⟨(literal, p) :: pairs, last⟩ text ↔
      ∃ after, text = literal ++ (p.chars ++ after) ∧ ¬ HasOpening literal ∧ '}' ∉ p.body ∧
        Cuts ⟨pairs, last⟩ after := by
  have written : (⟨(literal, p) :: pairs, last⟩ : Segments).chars =
      literal ++ (p.chars ++ (⟨pairs, last⟩ : Segments).chars) := by
    simp [chars]
  have inner : (⟨(literal, p) :: pairs, last⟩ : Segments).literals.dropLast =
      literal :: (⟨pairs, last⟩ : Segments).literals.dropLast := by
    simp [literals, List.dropLast_cons_of_ne_nil]
  constructor
  · rintro ⟨rfl, closed, bare, unopened⟩
    rw [inner] at unopened
    obtain ⟨here, others⟩ := List.forall_mem_cons.1 unopened
    obtain ⟨ends, closed⟩ := List.forall_mem_cons.1 closed
    exact ⟨_, written, here, ends, rfl, closed, (List.forall_mem_cons.1 bare).2, others⟩
  · rintro ⟨after, rfl, here, ends, rfl, closed, bare, unopened⟩
    refine ⟨written, List.forall_mem_cons.2 ⟨ends, closed⟩,
      List.forall_mem_cons.2 ⟨fun has => here has.hasOpening, bare⟩, ?_⟩
    rw [inner]
    exact List.forall_mem_cons.2 ⟨here, unopened⟩

theorem cuts_begin :
    (segments.begin p).Cuts (p.chars ++ text) ↔ '}' ∉ p.body ∧ segments.Cuts text := by
  constructor
  · intro cuts
    obtain ⟨after, same, -, closed, there⟩ := cuts_pair.1 cuts
    rw [List.append_cancel_left same]
    exact ⟨closed, there⟩
  · rintro ⟨closed, there⟩
    exact cuts_pair.2 ⟨text, rfl, not_hasOpening_nil, closed, there⟩

theorem cuts_push :
    (segments.push c).Cuts (c :: text) ↔ Piece.placeholder? c text = none ∧ segments.Cuts text := by
  obtain ⟨⟨⟩ | ⟨⟨literal, p⟩, pairs⟩, last⟩ := segments
  · show Cuts ⟨[], c :: last⟩ (c :: text) ↔ _
    rw [cuts_last, cuts_last, hasPlaceholder_cons]
    constructor
    · rintro ⟨same, bare⟩
      cases same
      exact ⟨not_not.1 fun found => bare (.inl found), rfl, fun has => bare (.inr has)⟩
    · rintro ⟨plain, rfl, bare⟩
      exact ⟨rfl, fun has => has.elim (· plain) bare⟩
  · show Cuts ⟨(c :: literal, p) :: pairs, last⟩ (c :: text) ↔ _
    rw [cuts_pair, cuts_pair]
    constructor
    · rintro ⟨after, same, unopened, closed, there⟩
      cases same
      rw [hasOpening_cons p after] at unopened
      exact ⟨not_not.1 fun found => unopened (.inl found), after, rfl,
        fun has => unopened (.inr has), closed, there⟩
    · rintro ⟨plain, after, rfl, unopened, closed, there⟩
      refine ⟨after, rfl, ?_, closed, there⟩
      rw [hasOpening_cons p after]
      exact fun has => has.elim (· plain) unopened

/-- The pieces of a text are those of its cut. -/
theorem Cuts.ofText_eq (cuts : segments.Cuts text) : Piece.ofText text = segments.pieces := by
  induction segments using build generalizing text with
  | empty =>
    rw [← (cuts_last.1 cuts).1, Piece.ofText]
    rfl
  | push c segments ih =>
    obtain rfl : c :: segments.chars = text := chars_push.symm.trans cuts.written
    obtain ⟨plain, rest⟩ := cuts_push.1 cuts
    rw [Piece.ofText_verbatim plain, pieces_push, ih rest]
  | begin p segments ih =>
    obtain rfl : p.chars ++ segments.chars = text := chars_begin.symm.trans cuts.written
    obtain ⟨closed, rest⟩ := cuts_begin.1 cuts
    rw [Piece.ofText_placeholder closed, pieces_begin, ih rest]

theorem cuts_ofPieces (text : List Char) : (ofPieces (Piece.ofText text)).Cuts text := by
  fun_induction Piece.ofText text with
  | case1 => exact cuts_last.2 ⟨rfl, not_hasPlaceholder_nil⟩
  | case2 c rest p after found ih =>
    obtain ⟨closed, written⟩ := Piece.placeholder?_eq_some.1 found
    rw [written]
    exact cuts_begin.2 ⟨closed, ih⟩
  | case3 c rest plain ih => exact cuts_push.2 ⟨plain, ih⟩

/-- Every text has exactly one cut. -/
theorem cuts_iff : segments.Cuts text ↔ segments = ofPieces (Piece.ofText text) := by
  constructor
  · intro cuts
    rw [cuts.ofText_eq, ofPieces_pieces]
  · rintro rfl
    exact cuts_ofPieces text

example :
    ofPieces (Piece.ofText ['#', '#', '{', 'a', '$', '{', 'b', '}', '}', '#', '{']) =
      ⟨[(['#'], ⟨.bind, ['a', '$', '{', 'b']⟩)], ['}', '#', '{']⟩ := by cbv

/-! ## What a resolver is asked -/

/-- Substitution has the effects of one call for each placeholder, in order, and puts the answers
between the literals as they come. -/
theorem Cuts.substitute_eq {m : Type → Type} [Monad m] [LawfulMonad m]
    (resolve : Placeholder → m (List Char)) (cuts : segments.Cuts text) :
    substitute resolve text = segments.filled <$> segments.holes.mapM resolve := by
  rw [substitute, cuts.ofText_eq]
  -- The text is not mentioned any more, and the parts of the segments need not cut it.
  clear cuts
  induction segments using build with
  | empty => exact (map_pure (Segments.filled ⟨[], []⟩) []).symm
  | push c segments ih =>
    have filled : (segments.push c).filled = fun answers => c :: segments.filled answers :=
      funext fun answers => filled_push
    rw [pieces_push, holes_push, resolvePieces, ih, filled]
    simp
  | begin p segments ih =>
    rw [pieces_begin, resolvePieces, ih]
    show _ = (segments.begin p).filled <$> (p :: segments.holes).mapM resolve
    simp [filled_begin]

end Segments

/-- What is asked for a placeholder: its trimmed body, of which a bound one counts only what stands
before the first comma. -/
inductive IsExpression : Placeholder → List Char → Prop
  | raw {body : List Char} : IsExpression ⟨.raw, body⟩ (Text.trim body)
  | bare {body : List Char} : ',' ∉ body → IsExpression ⟨.bind, body⟩ (Text.trim body)
  | options {body options : List Char} : ',' ∉ body →
      IsExpression ⟨.bind, body ++ ',' :: options⟩ (Text.trim body)

theorem isExpression_expression (p : Placeholder) : IsExpression p p.expression := by
  obtain ⟨⟨⟩, body⟩ := p
  · show IsExpression _ (Text.trim (body.takeWhile (· != ',')))
    by_cases comma : ',' ∈ body
    · obtain ⟨front, options, rfl, plain⟩ := List.eq_append_cons_of_mem comma
      have taken : (front ++ ',' :: options).takeWhile (· != ',') = front := by
        rw [List.takeWhile_append_of_pos (Text.bne_of_not_mem plain)]
        exact List.append_nil front
      rw [taken]
      exact .options plain
    · rw [List.takeWhile_eq_self_iff.2 (Text.bne_of_not_mem comma)]
      exact .bare comma
  · exact .raw

/-- A resolver answers by what it remembers, or fails. -/
abbrev Resolver (σ ε : Type) := Marker → List Char → σ → Except ε (List Char) × σ

namespace Resolver

variable {σ ε : Type}

/-- The resolver as it is called for a placeholder. -/
def call (ask : Resolver σ ε) (p : Placeholder) : ExceptT ε (StateM σ) (List Char) :=
  fun memory => ask p.marker p.expression memory

/-- A row of placeholders is asked for from the left, each once. The first one that has no answer
stops it, with its error. -/
inductive Asked (ask : Resolver σ ε) :
    σ → List Placeholder → Except ε (List (List Char)) → σ → Prop
  | done {memory : σ} : Asked ask memory [] (.ok []) memory
  | answered {memory after last : σ} {p : Placeholder} {expression answer : List Char}
      {rest : List Placeholder} {outcome : Except ε (List (List Char))} :
      IsExpression p expression → ask p.marker expression memory = (.ok answer, after) →
      Asked ask after rest outcome last →
      Asked ask memory (p :: rest) (outcome.map (answer :: ·)) last
  | stopped {memory last : σ} {p : Placeholder} {expression : List Char}
      {rest : List Placeholder} {error : ε} :
      IsExpression p expression → ask p.marker expression memory = (.error error, last) →
      Asked ask memory (p :: rest) (.error error) last

theorem exists_asked (ask : Resolver σ ε) (holes : List Placeholder) (memory : σ) :
    ∃ outcome last, Asked ask memory holes outcome last ∧
      (holes.mapM ask.call).run.run memory = (outcome, last) := by
  induction holes generalizing memory with
  | nil => exact ⟨.ok [], memory, .done, rfl⟩
  | cons p rest ih =>
    rw [List.mapM_cons]
    cases called : ask p.marker p.expression memory with
    | mk result after =>
      have run : (ask.call p).run.run memory = (result, after) := called
      cases result with
      | error error =>
        refine ⟨.error error, after, .stopped (isExpression_expression p) called, ?_⟩
        simp only [ExceptT.run_bind, StateT.run_bind, run]
        rfl
      | ok answer =>
        obtain ⟨outcome, last, asked, ran⟩ := ih after
        refine ⟨_, last, .answered (isExpression_expression p) called asked, ?_⟩
        simp only [ExceptT.run_bind, StateT.run_bind, run]
        show (rest.mapM ask.call >>= fun answers => pure (answer :: answers)).run.run after = _
        simp only [ExceptT.run_bind, StateT.run_bind, ran]
        cases outcome <;> rfl

end Resolver

/-- Every text is cut in one way into literals and placeholders, and substitution follows that cut:
it asks for each placeholder in order and once, up to the first error, and leaves the literals and
the answers as they are. -/
theorem substitute_single_pass (text : List Char) :
    ∃ segments : Segments, (∀ other : Segments, other.Cuts text ↔ other = segments) ∧
      ∀ (σ ε : Type) (ask : Resolver σ ε) (memory : σ), ∃ outcome last,
        ask.Asked memory segments.holes outcome last ∧
          (substitute ask.call text).run.run memory = (outcome.map segments.filled, last) := by
  refine ⟨.ofPieces (Piece.ofText text), fun other => Segments.cuts_iff,
    fun σ ε ask memory => ?_⟩
  obtain ⟨outcome, last, asked, ran⟩ := ask.exists_asked _ memory
  refine ⟨outcome, last, asked, ?_⟩
  rw [(Segments.cuts_ofPieces text).substitute_eq, ExceptT.run_map, StateT.run_map, ran]
  rfl

end SqlPreview
