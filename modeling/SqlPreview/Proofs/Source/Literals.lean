import Mathlib
import SqlPreview.Proofs.Source.Quotes
import SqlPreview.Proofs.Source.Transparency

/-!
# Literals in statements

A statement with a literal in it reads the same for all contents of the literal, if the literal is
in the arguments of an annotation, behind a value sign, or behind a parenthesis. Elsewhere the
readers of members look into the literal.

This file defines the texts behind which a literal is nothing to fields (`Shielded`).

Results:
1. `annotationRest_literal`, `stripAnnotations_literal`, `afterLeadingAnnotations_literal`: either
   the literal goes away with an annotation, or everything before it is as without it.
2. `field?_literal`, `constants_literal`, `method?_literal`: the readers of members.
-/

namespace SqlPreview.Source

/-! ## Brackets around literals -/

theorem splitClosing?_next (kind : Bracket) (quoting : Quoting) (depth : Nat) (c : Char) :
    (quoting.next c = .outside ∧
        ∀ rest, splitClosing? kind.opening kind.closing quoting depth (c :: rest) = some ([], rest)) ∨
      ∃ depth', ∀ rest, splitClosing? kind.opening kind.closing quoting depth (c :: rest) =
        inFront [c] (splitClosing? kind.opening kind.closing (quoting.next c) depth' rest) := by
  by_cases plain : quoting.isOutside = true → c ≠ kind.opening ∧ c ≠ kind.closing
  · exact .inr ⟨depth, splitClosing?_plain plain depth⟩
  · obtain ⟨outside, bracket⟩ := Classical.not_imp.1 plain
    cases quoting with
    | inside quote escaped => cases outside
    | outside =>
      by_cases opens : c = kind.opening
      · subst opens
        exact .inr ⟨depth + 1, splitClosing?_opening depth⟩
      · obtain rfl : c = kind.closing := by
          by_contra other
          exact bracket ⟨opens, other⟩
        cases depth with
        | zero =>
          exact .inl ⟨Quoting.next_plain kind.isQuote_closing,
            splitClosing?_last (kind.opening_ne_closing kind).symm⟩
        | succ depth =>
          exact .inr ⟨depth, splitClosing?_closing (kind.opening_ne_closing kind).symm depth⟩

/-- A bracket is closed inside of a text, or it is still open behind it. -/
theorem splitClosing?_append (kind : Bracket) (quoting : Quoting) (depth : Nat)
    (text : List Char) :
    (∃ inside behind, quoting.after text = Quoting.outside.after behind ∧
        ∀ rest, splitClosing? kind.opening kind.closing quoting depth (text ++ rest) =
          some (inside, behind ++ rest)) ∨
      ∃ depth', ∀ rest, splitClosing? kind.opening kind.closing quoting depth (text ++ rest) =
        inFront text (splitClosing? kind.opening kind.closing (quoting.after text) depth' rest) := by
  induction text generalizing quoting depth with
  | nil => exact .inr ⟨depth, fun rest => (inFront_nil _).symm⟩
  | cons c text ih =>
    obtain ⟨outside, closed⟩ | ⟨depth', step⟩ := splitClosing?_next kind quoting depth c
    · refine .inl ⟨[], text, ?_, fun rest => closed (text ++ rest)⟩
      rw [Quoting.after_cons, outside]
    · obtain ⟨inside, behind, same, found⟩ | ⟨deeper, found⟩ := ih (quoting.next c) depth'
      · refine .inl ⟨c :: inside, behind, same, fun rest => ?_⟩
        rw [List.cons_append, step, found]
        rfl
      · refine .inr ⟨deeper, fun rest => ?_⟩
        rw [List.cons_append, step, found, inFront_inFront]
        rfl

/-! ## Annotations around literals -/

theorem after_plain {text : List Char} (plain : ∀ c ∈ text, isQuote c = false)
    (rest : List Char) : Quoting.outside.after (text ++ rest) = Quoting.outside.after rest := by
  induction text with
  | nil => rfl
  | cons c text ih =>
    obtain ⟨first, later⟩ := List.forall_mem_cons.1 plain
    rw [List.cons_append, Quoting.after_cons, Quoting.next_plain first, ih later]

theorem after_trimStart (text : List Char) :
    Quoting.outside.after (Text.trimStart text) = Quoting.outside.after text := by
  obtain ⟨gap, blank, same⟩ := Text.exists_trimStart text
  conv_rhs => rw [same]
  exact (after_plain (fun c member => unmarked_isBlank.isQuote_eq_false (blank c member)) _).symm

theorem after_dropWhile_annotationChar (text : List Char) :
    Quoting.outside.after (text.dropWhile isAnnotationChar) = Quoting.outside.after text := by
  have plain : ∀ c ∈ text.takeWhile isAnnotationChar, isQuote c = false := fun c member =>
    unmarked_isAnnotationChar.isQuote_eq_false (List.mem_takeWhile_imp member)
  have split := after_plain plain (text.dropWhile isAnnotationChar)
  rw [List.takeWhile_append_dropWhile] at split
  exact split.symm

theorem annotationRest_bare {text : List Char}
    (bare : (Text.trimStart (text.dropWhile isAnnotationChar)).head? ≠ some '(') :
    annotationRest text = text.dropWhile isAnnotationChar := by
  simp only [annotationRest]
  split
  · next same => exact absurd (by rw [same]; rfl) bare
  · rfl

theorem annotationRest_given {text arguments : List Char}
    (opens : Text.trimStart (text.dropWhile isAnnotationChar) = '(' :: arguments) :
    annotationRest text =
      ((splitParens? arguments).map Prod.snd).getD (text.dropWhile isAnnotationChar) := by
  simp only [annotationRest, opens]
  cases splitParens? arguments <;> rfl

section

variable {quote : Char} (isOne : isQuote quote = true)

include isOne

/-- Parentheses are closed before a literal, or not before it, and then what follows the literal
decides. -/
theorem splitParens?_literal {arguments : List Char}
    (closed : Quoting.outside.after arguments = .outside) (rest : List Char) :
    (∃ inside behind, Quoting.outside.after behind = .outside ∧
        ∀ more, splitParens? (arguments ++ more) = some (inside, behind ++ more)) ∨
      (∃ behind, ∀ contents, Contents quote contents →
        (splitParens? (arguments ++ quote :: (contents ++ quote :: rest))).map Prod.snd =
          some behind) ∨
      splitParens? arguments = none ∧ ∀ contents, Contents quote contents →
        splitParens? (arguments ++ quote :: (contents ++ quote :: rest)) = none := by
  have parens (tail : List Char) : splitParens? tail =
    splitClosing? Bracket.round.opening Bracket.round.closing .outside 0 tail := rfl
  obtain ⟨inside, behind, same, found⟩ | ⟨depth, found⟩ :=
    splitClosing?_append .round .outside 0 arguments
  · exact .inl ⟨inside, behind, same.symm.trans closed, found⟩
  · have skips {contents : List Char} (written : Contents quote contents) :
        splitParens? (arguments ++ quote :: (contents ++ quote :: rest)) =
          inFront (arguments ++ quote :: (contents ++ [quote]))
            (splitClosing? Bracket.round.opening Bracket.round.closing .outside depth rest) := by
      rw [parens, found, closed, (splitClosing?_keepsLiterals .round depth).literal_eq isOne written,
        inFront_inFront]
    right
    cases tail : splitClosing? Bracket.round.opening Bracket.round.closing .outside depth rest with
    | some pair =>
      refine .inl ⟨pair.2, fun contents written => ?_⟩
      rw [skips written, tail]
      rfl
    | none =>
      refine .inr ⟨?_, fun contents written => ?_⟩
      · rw [parens, ← List.append_nil arguments, found]
        rfl
      · rw [skips written, tail]
        rfl

/-- An annotation ends before a literal, or with the literal in its arguments. -/
theorem annotationRest_literal {text : List Char} (closed : Quoting.outside.after text = .outside)
    (rest : List Char) :
    (Quoting.outside.after (annotationRest text) = .outside ∧ ∀ contents, Contents quote contents →
        annotationRest (text ++ quote :: (contents ++ quote :: rest)) =
          annotationRest text ++ quote :: (contents ++ quote :: rest)) ∨
      ∃ behind, ∀ contents, Contents quote contents →
        annotationRest (text ++ quote :: (contents ++ quote :: rest)) = behind := by
  have notName : isAnnotationChar quote = false := eq_false_of_quote isOne (by decide) (by decide)
  have solid : Text.isBlank quote = false := eq_false_of_quote isOne (by decide) (by decide)
  have named (more : List Char) := dropWhile_stop notName text more
  have trimmed (more : List Char) : Text.trimStart ((text ++ quote :: more).dropWhile
      isAnnotationChar) = Text.trimStart (text.dropWhile isAnnotationChar) ++ quote :: more := by
    rw [named, Text.trimStart, dropWhile_stop solid]
    rfl
  have outside := (after_dropWhile_annotationChar text).trans closed
  by_cases opens : (Text.trimStart (text.dropWhile isAnnotationChar)).head? = some '('
  · obtain ⟨arguments, start⟩ := List.head?_eq_some_iff.1 opens
    have start' (more : List Char) :
        Text.trimStart ((text ++ quote :: more).dropWhile isAnnotationChar) =
          '(' :: (arguments ++ quote :: more) := by
      rw [trimmed, start, List.cons_append]
    have inArguments : Quoting.outside.after arguments = .outside := by
      rw [← after_trimStart, start] at outside
      exact outside
    obtain ⟨inside, behind, ends, found⟩ | ⟨behind, found⟩ | ⟨unclosed, found⟩ :=
      splitParens?_literal isOne inArguments rest
    · have same : annotationRest text = behind := by
        rw [annotationRest_given start, ← List.append_nil arguments, found]
        exact List.append_nil behind
      refine .inl ⟨same ▸ ends, fun contents _ => ?_⟩
      rw [annotationRest_given (start' _), found, same]
      rfl
    · refine .inr ⟨behind, fun contents written => ?_⟩
      rw [annotationRest_given (start' _), found contents written]
      rfl
    · -- Without arguments that are closed, the name is all there is.
      have same : annotationRest text = text.dropWhile isAnnotationChar := by
        rw [annotationRest_given start, unclosed]
        rfl
      refine .inl ⟨same ▸ outside, fun contents written => ?_⟩
      rw [annotationRest_given (start' _), found contents written, same, ← named]
      rfl
  · refine .inl ⟨annotationRest_bare opens ▸ outside, fun contents _ => ?_⟩
    rw [annotationRest_bare opens, annotationRest_bare, named]
    rw [trimmed]
    cases start : Text.trimStart (text.dropWhile isAnnotationChar) with
    | nil => simpa using ne_of_class isOne (by decide)
    | cons c more => rwa [start] at opens

/-- The part of a text before its first quote. -/
def unquoted (text : List Char) : List Char := text.takeWhile fun c => !isQuote c

/-- Without annotations, a text goes on after what is before its first quote with a quote. -/
theorem stripAnnotations_literal {text : List Char}
    (closed : Quoting.outside.after text = .outside) (rest : List Char) :
    (∃ plain, ∀ contents, Contents quote contents →
        stripAnnotations (text ++ quote :: (contents ++ quote :: rest)) = plain) ∨
      ∀ contents, Contents quote contents → ∃ first tail, isQuote first = true ∧
        stripAnnotations (text ++ quote :: (contents ++ quote :: rest)) =
          unquoted (stripAnnotations text) ++ first :: tail := by
  have notAt : quote ≠ '@' := ne_of_class isOne (by decide)
  induction size : text.length using Nat.strongRecOn generalizing text with
  | _ n ih =>
    cases text with
    | nil =>
      refine .inr fun contents _ =>
        ⟨quote, stripAnnotations (contents ++ quote :: rest), isOne, ?_⟩
      rw [List.nil_append, stripAnnotations_cons notAt, stripAnnotations]
      rfl
    | cons c text =>
      have shorter : text.length < n := size ▸ Nat.lt_succ_self _
      by_cases isAt : c = '@'
      · subst isAt
        have inside : Quoting.outside.after text = .outside := closed
        obtain ⟨behind, before⟩ | ⟨behind, within⟩ := annotationRest_literal isOne inside rest
        · -- The annotation ends before the literal.
          have within := Nat.lt_of_le_of_lt (length_annotationRest_le text) shorter
          simp only [List.cons_append, stripAnnotations_at]
          obtain ⟨plain, same⟩ | same := ih _ within behind rfl
          · exact .inl ⟨plain, fun contents written => by
              rw [before contents written, same contents written]⟩
          · refine .inr fun contents written => ?_
            rw [before contents written]
            exact same contents written
        · refine .inl ⟨stripAnnotations behind, fun contents written => ?_⟩
          rw [List.cons_append, stripAnnotations_at, within contents written]
      · cases quoted : isQuote c with
        | true =>
          refine .inr fun contents _ =>
            ⟨c, stripAnnotations (text ++ quote :: (contents ++ quote :: rest)), quoted, ?_⟩
          rw [List.cons_append, stripAnnotations_cons isAt, stripAnnotations_cons isAt, unquoted,
            List.takeWhile_cons_of_neg (by simp [quoted]), List.nil_append]
        | false =>
          have inside : Quoting.outside.after text = .outside := by
            rwa [Quoting.after_cons, Quoting.next_plain quoted] at closed
          have front (tail : List Char) : unquoted (c :: tail) = c :: unquoted tail :=
            List.takeWhile_cons_of_pos (by simp [quoted])
          simp only [List.cons_append, stripAnnotations_cons isAt, front]
          obtain ⟨plain, same⟩ | same := ih _ shorter inside rfl
          · exact .inl ⟨c :: plain, fun contents written => by rw [same contents written]⟩
          · refine .inr fun contents written => ?_
            obtain ⟨first, tail, quoteToo, same⟩ := same contents written
            exact ⟨first, tail, quoteToo, by rw [same]⟩

/-- Behind leading annotations that leave a parenthesis open, a literal is in the arguments of the
last of them, or that parenthesis is never closed. -/
theorem afterLeadingAnnotations_literal {text : List Char}
    (closed : Quoting.outside.after text = .outside)
    (opened : (afterLeadingAnnotations text).head? = some '(') (rest : List Char) :
    (∃ behind, ∀ contents, Contents quote contents →
        afterLeadingAnnotations (text ++ quote :: (contents ++ quote :: rest)) = behind) ∨
      ∀ contents, Contents quote contents → ∃ tail,
        afterLeadingAnnotations (text ++ quote :: (contents ++ quote :: rest)) = '(' :: tail := by
  have solid : Text.isBlank quote = false := eq_false_of_quote isOne (by decide) (by decide)
  induction size : text.length using Nat.strongRecOn generalizing text with
  | _ n ih =>
    have trimmed (more : List Char) : Text.trimStart (text ++ quote :: more) =
        Text.trimStart text ++ quote :: more := dropWhile_stop solid text more
    by_cases isAt : (Text.trimStart text).head? = some '@'
    · obtain ⟨inside, start⟩ := List.head?_eq_some_iff.1 isAt
      have start' (more : List Char) : Text.trimStart (text ++ quote :: more) =
          '@' :: (inside ++ quote :: more) := by
        rw [trimmed, start, List.cons_append]
      have closed' : Quoting.outside.after inside = .outside := by
        rw [← after_trimStart, start] at closed
        exact closed
      have shorter : (annotationRest inside).length < n := by
        have within := length_annotationRest_le inside
        have trimmed := length_dropWhile_le Text.isBlank text
        rw [← Text.trimStart, start, List.length_cons] at trimmed
        omega
      rw [afterLeadingAnnotations_at start] at opened
      obtain ⟨behind, before⟩ | ⟨behind, within⟩ := annotationRest_literal isOne closed' rest
      · obtain ⟨behind, same⟩ | same := ih _ shorter behind opened rfl
        · exact .inl ⟨behind, fun contents written => by
            rw [afterLeadingAnnotations_at (start' _), before contents written,
              same contents written]⟩
        · refine .inr fun contents written => ?_
          rw [afterLeadingAnnotations_at (start' _), before contents written]
          exact same contents written
      · exact .inl ⟨afterLeadingAnnotations behind, fun contents written => by
          rw [afterLeadingAnnotations_at (start' _), within contents written]⟩
    · rw [afterLeadingAnnotations_of_ne isAt] at opened
      obtain ⟨tail, start⟩ := List.head?_eq_some_iff.1 opened
      refine .inr fun contents _ => ⟨tail ++ quote :: (contents ++ quote :: rest), ?_⟩
      have begins : Text.trimStart (text ++ quote :: (contents ++ quote :: rest)) =
          '(' :: (tail ++ quote :: (contents ++ quote :: rest)) := by
        rw [trimmed, start, List.cons_append]
      rw [afterLeadingAnnotations_of_ne, begins]
      rw [begins]
      rintro ⟨⟩

/-! ## Fields -/

omit isOne in
/-- The text of a statement, annotations aside, comes to a value sign or a parenthesis before any
quote. -/
def Shielded (text : List Char) : Prop :=
  '=' ∈ unquoted (stripAnnotations text) ∨ '(' ∈ unquoted (stripAnnotations text)

theorem field?_literal {text : List Char} (closed : Quoting.outside.after text = .outside)
    (shielded : Shielded text) (rest : List Char) {contents contents' : List Char}
    (written : Contents quote contents) (written' : Contents quote contents') :
    field? (text ++ quote :: (contents ++ quote :: rest)) =
      field? (text ++ quote :: (contents' ++ quote :: rest)) := by
  obtain ⟨plain, same⟩ | same := stripAnnotations_literal isOne closed rest
  · rw [field?, field?, same contents written, same contents' written']
  · obtain ⟨first, tail, -, start⟩ := same contents written
    obtain ⟨first', tail', -, start'⟩ := same contents' written'
    exact field?_eq_of_front start start' shielded

/-! ## Constants -/

/-- The name of the constant that a member of the first statement of an enumeration declares. -/
def constantName? (member : List Char) : Option String :=
  (name? (Text.trim (stripAnnotations member))).map fun taken => String.ofList taken.value

theorem constantName?_literal {text : List Char} (closed : Quoting.outside.after text = .outside)
    (rest : List Char) {contents contents' : List Char} (written : Contents quote contents)
    (written' : Contents quote contents') :
    constantName? (text ++ quote :: (contents ++ quote :: rest)) =
      constantName? (text ++ quote :: (contents' ++ quote :: rest)) := by
  -- A name is read from what is before the first quote.
  have front {member first tail} (quoted : isQuote first = true)
      (same : stripAnnotations member = unquoted (stripAnnotations text) ++ first :: tail) :
      constantName? member =
        (found (name? (Text.trimStart (unquoted (stripAnnotations text))))).map fun pair =>
          String.ofList pair.1 := by
    have solid : Text.isBlank first = false := eq_false_of_quote quoted (by decide) (by decide)
    obtain ⟨kept, ends⟩ := Text.exists_trimEnd_cons solid tail
    have start : Text.trim (unquoted (stripAnnotations text) ++ first :: tail) =
        Text.trimStart (unquoted (stripAnnotations text)) ++ first :: kept := by
      rw [Text.trim, Text.trimStart, dropWhile_stop solid, ends]
      rfl
    have stops := name?_stops (Text.trimStart (unquoted (stripAnnotations text))) first kept quoted
    have read (text : List Char) : (name? text).map (fun taken => String.ofList taken.value) =
        (found (name? text)).map fun pair => String.ofList pair.1 := by
      cases name? text <;> rfl
    rw [constantName?, same, start, read, stops]
    cases found (name? (Text.trimStart (unquoted (stripAnnotations text)))) <;> rfl
  obtain ⟨plain, same⟩ | same := stripAnnotations_literal isOne closed rest
  · rw [constantName?, constantName?, same contents written, same contents' written']
  · obtain ⟨first, tail, quoted, start⟩ := same contents written
    obtain ⟨first', tail', quoted', start'⟩ := same contents' written'
    rw [front quoted start, front quoted' start']

end

theorem listPieces_next (quoting : Quoting) (depth : Nat) (c : Char) :
    (quoting.next c = .outside ∧
        ∀ rest, listPieces quoting depth (c :: rest) = [] :: listPieces .outside depth rest) ∨
      ∃ depth', ∀ rest, listPieces quoting depth (c :: rest) =
        consFirst c (listPieces (quoting.next c) depth' rest) := by
  by_cases splits : (quoting.isOutside && c == ',' && depth = 0) = true
  · left
    have comma : c = ',' := by simp_all
    have outside : quoting = .outside := by
      cases quoting with
      | outside => rfl
      | inside quote escaped => simp [Quoting.isOutside] at splits
    refine ⟨by rw [comma, outside]; rfl, fun rest => ?_⟩
    rw [listPieces, if_pos splits]
  · exact .inr ⟨_, fun rest => by rw [listPieces, if_neg splits]⟩

theorem listPieces_ne_nil (quoting : Quoting) (depth : Nat) (text : List Char) :
    listPieces quoting depth text ≠ [] := by
  cases text with
  | nil => exact List.cons_ne_nil _ _
  | cons c rest =>
    obtain ⟨-, step⟩ | ⟨depth', step⟩ := listPieces_next quoting depth c
    · rw [step]
      exact List.cons_ne_nil _ _
    · rw [step]
      exact consFirst_ne_nil _ _

/-- A list up to some place: whole pieces, the beginning of the piece that the place is in, and how
many brackets are open there. -/
theorem exists_listPieces_append (quoting : Quoting) (depth : Nat) (text : List Char) :
    ∃ pieces last depth', (pieces = [] → last = text) ∧
      (pieces ≠ [] → Quoting.outside.after last = quoting.after text) ∧
      ∀ rest, listPieces quoting depth (text ++ rest) =
        pieces ++ ontoFirst last (listPieces (quoting.after text) depth' rest) := by
  induction text generalizing quoting depth with
  | nil => exact ⟨[], [], depth, fun _ => rfl, fun other => absurd rfl other, fun rest => rfl⟩
  | cons c text ih =>
    obtain ⟨outside, step⟩ | ⟨depth', step⟩ := listPieces_next quoting depth c
    · obtain ⟨pieces, last, deeper, whole, later, same⟩ := ih .outside depth
      refine ⟨[] :: pieces, last, deeper, by simp, fun _ => ?_, fun rest => ?_⟩
      · rw [Quoting.after_cons, outside]
        by_cases empty : pieces = []
        · rw [whole empty]
        · exact later empty
      · rw [List.cons_append, step, same, Quoting.after_cons, outside, List.cons_append]
    · obtain ⟨pieces, last, deeper, whole, later, same⟩ := ih (quoting.next c) depth'
      cases pieces with
      | nil =>
        refine ⟨[], c :: last, deeper, fun _ => by rw [whole rfl], fun other => absurd rfl other,
          fun rest => ?_⟩
        rw [List.cons_append, step, same]
        rfl
      | cons piece pieces =>
        refine ⟨(c :: piece) :: pieces, last, deeper, by simp, fun _ => later (by simp),
          fun rest => ?_⟩
        rw [List.cons_append, step, same]
        rfl

theorem constants_literal {quote : Char} (isOne : isQuote quote = true) {text : List Char}
    (closed : Quoting.outside.after text = .outside) (rest : List Char)
    {contents contents' : List Char} (written : Contents quote contents)
    (written' : Contents quote contents') :
    constants (text ++ quote :: (contents ++ quote :: rest)) =
      constants (text ++ quote :: (contents' ++ quote :: rest)) := by
  obtain ⟨pieces, last, depth, whole, later, same⟩ := exists_listPieces_append .outside 0 text
  have inside : Quoting.outside.after last = .outside := by
    by_cases empty : pieces = []
    · rw [whole empty, closed]
    · rw [later empty, closed]
  obtain ⟨member, others, behind⟩ := List.exists_cons_of_ne_nil (listPieces_ne_nil .outside depth rest)
  have cut {contents : List Char} (written : Contents quote contents) :
      members (text ++ quote :: (contents ++ quote :: rest)) =
        pieces ++ (last ++ quote :: (contents ++ quote :: member)) :: others := by
    rw [members, same, closed, (listPieces_keepsLiterals depth).literal_eq isOne written, behind,
      ontoFirst_cons, ontoFirst_cons]
    simp
  have read (statement : List Char) :
      constants statement = (members statement).filterMap constantName? := rfl
  rw [read, read, cut written, cut written', List.filterMap_append, List.filterMap_append,
    List.filterMap_cons, List.filterMap_cons,
    constantName?_literal isOne inside member written written']

/-! ## Methods -/

/-- Without a name there is no method. -/
theorem methodBehind?_nil (rest : List Char) : methodBehind? [] rest = none := by
  rw [methodBehind?]
  cases splitParens? rest with
  | none => rfl
  | some pair => simp [methodWith?, Text.words]

theorem method?_of_opening {statement tail : List Char}
    (start : afterLeadingAnnotations statement = '(' :: tail) : method? statement = none := by
  rw [method?_eq, start]
  exact methodBehind?_nil tail

/-- A literal in the arguments of a leading annotation is nothing to methods. -/
theorem method?_literal {quote : Char} (isOne : isQuote quote = true) {text : List Char}
    (closed : Quoting.outside.after text = .outside)
    (opened : (afterLeadingAnnotations text).head? = some '(') (rest : List Char)
    {contents contents' : List Char} (written : Contents quote contents)
    (written' : Contents quote contents') :
    method? (text ++ quote :: (contents ++ quote :: rest)) =
      method? (text ++ quote :: (contents' ++ quote :: rest)) := by
  obtain ⟨behind, same⟩ | same := afterLeadingAnnotations_literal isOne closed opened rest
  · rw [method?_eq, method?_eq, same contents written, same contents' written']
  · obtain ⟨tail, start⟩ := same contents written
    obtain ⟨tail', start'⟩ := same contents' written'
    rw [method?_of_opening start, method?_of_opening start']

/-- Without parentheses there is no method. -/
theorem method?_eq_none {statement : List Char} (plain : '(' ∉ statement) :
    method? statement = none := by
  have kept : '(' ∉ afterLeadingAnnotations statement := by
    induction size : statement.length using Nat.strongRecOn generalizing statement with
    | _ n ih =>
      have trimmed : '(' ∉ Text.trimStart statement := fun member =>
        plain ((List.dropWhile_suffix _).mem member)
      by_cases isAt : (Text.trimStart statement).head? = some '@'
      · obtain ⟨inside, start⟩ := List.head?_eq_some_iff.1 isAt
        rw [start] at trimmed
        have absent : '(' ∉ inside := fun member => trimmed (List.mem_cons_of_mem _ member)
        have bare : annotationRest inside = inside.dropWhile isAnnotationChar := by
          refine annotationRest_bare fun opens => absent ?_
          have first := List.mem_of_mem_head? opens
          exact (List.dropWhile_suffix _).mem ((List.dropWhile_suffix _).mem first)
        rw [afterLeadingAnnotations_at start, bare]
        refine ih _ ?_ (fun member => absent ((List.dropWhile_suffix _).mem member)) rfl
        have named := length_dropWhile_le isAnnotationChar inside
        have shorter := length_dropWhile_le Text.isBlank statement
        rw [← Text.trimStart, start, List.length_cons] at shorter
        omega
      · rwa [afterLeadingAnnotations_of_ne isAt]
  rw [method?_eq]
  cases cut : Text.splitFirst? (· == '(') (afterLeadingAnnotations statement) with
  | none => rfl
  | some pair =>
    obtain ⟨c, cuts, -, same⟩ := Text.splitFirst?_eq_some.1 cut
    rw [same] at kept
    exact absurd (List.mem_append_right _ (by simp_all)) kept

end SqlPreview.Source
