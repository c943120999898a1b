import Mathlib
import SqlPreview.Proofs.Source.Literals

/-!
# Annotations of parameters

Whether an annotation gives a name to a parameter is read from the annotation alone, so a parameter
reads the same with one annotation or another, if neither gives a name. That holds behind other
annotations too, naming ones included.

This file defines what may stand in a parameter before one of its annotations (`ParameterStart`).

Results:
1. `exists_givenName?`, `exists_bindingHere?`: the name that an annotation gives.
2. `parameter?_annotations`, `methodBehind?_annotations`: one annotation in place of another.
-/

namespace SqlPreview.Source

/-! ## Names of parameters -/

/-- The text behind the words that may stand before the name in a naming annotation. -/
def afterValue (text : List Char) : List Char :=
  match Text.dropStart? "value".toList text with
  | some valued =>
    match Text.trimStart valued with
    | '=' :: rest => Text.trimStart rest
    | _ => text
  | none => text

/-- The name in the arguments of a naming annotation. -/
def givenName? (arguments : List Char) : Option (List Char) := do
  let rest ← Text.dropStart? ['"'] (afterValue (Text.trimStart arguments))
  let (name, rest) ← Text.splitFirst? (· == '"') rest
  let _ ← Text.dropStart? [')'] (Text.trimStart rest)
  some name

theorem bindingHere?_eq (text : List Char) : bindingHere? text =
    (Text.dropStart? "@Param".toList text).bind fun rest =>
      (Text.dropStart? ['('] (Text.trimStart rest)).bind givenName? := rfl

theorem mem_of_after {quote : Char} {escaped : Bool} {text : List Char}
    (closed : (Quoting.inside quote escaped).after text = .outside) : quote ∈ text := by
  induction text generalizing escaped with
  | nil => cases closed
  | cons c text ih =>
    rw [Quoting.after_cons] at closed
    by_cases ends : c = quote
    · exact ends ▸ List.mem_cons_self
    · refine List.mem_cons_of_mem c ?_
      cases escaped with
      | true => exact ih closed
      | false =>
        by_cases escape : c = '\\'
        · subst escape
          exact ih closed
        · rw [Quoting.next_char escape ends] at closed
          exact ih closed

/-- Up to the closing parenthesis, all is read that counts before the name. -/
theorem exists_afterValue {inside : List Char} (closed : Quoting.outside.after inside = .outside) :
    ∃ behind, Quoting.outside.after behind = .outside ∧ ∀ rest,
      afterValue (inside ++ ')' :: rest) = behind ++ ')' :: rest := by
  have trimmed (text rest : List Char) : Text.trimStart (text ++ ')' :: rest) =
      Text.trimStart text ++ ')' :: rest := dropWhile_stop (by decide) text rest
  have start (rest : List Char) : Text.dropStart? "value".toList (inside ++ ')' :: rest) =
      (Text.dropStart? "value".toList inside).map (· ++ ')' :: rest) :=
    dropStart?_stop (by decide) inside rest
  cases word : Text.dropStart? "value".toList inside with
  | none => exact ⟨inside, closed, fun rest => by rw [afterValue, start, word]; rfl⟩
  | some valued =>
    have behind (rest : List Char) : afterValue (inside ++ ')' :: rest) =
        match Text.trimStart valued ++ ')' :: rest with
        | '=' :: rest => Text.trimStart rest
        | _ => inside ++ ')' :: rest := by
      rw [afterValue, start, word]
      simp only [Option.map_some, trimmed]
    by_cases sign : (Text.trimStart valued).head? = some '='
    · obtain ⟨more, first⟩ := List.head?_eq_some_iff.1 sign
      refine ⟨Text.trimStart more, ?_, fun rest => ?_⟩
      · have whole : inside = "value".toList ++ valued := Text.dropStart?_eq_some.1 word
        have letters : ∀ c ∈ "value".toList, isQuote c = false := by simp [isQuote]
        rw [whole, after_plain letters, ← after_trimStart, first] at closed
        rw [after_trimStart]
        exact closed
      · rw [behind, first]
        exact trimmed more rest
    · refine ⟨inside, closed, fun rest => ?_⟩
      rw [behind]
      cases first : Text.trimStart valued with
      | nil => rfl
      | cons c more =>
        rw [first] at sign
        split
        · next same => exact absurd (congrArg some (List.head_eq_of_cons_eq same)) sign
        · rfl

/-- The name that an annotation gives does not depend on what is behind its arguments. -/
theorem exists_givenName? {inside : List Char} (closed : Quoting.outside.after inside = .outside) :
    ∃ name, ∀ rest, givenName? (inside ++ ')' :: rest) = name := by
  have trimmed (text rest : List Char) : Text.trimStart (text ++ ')' :: rest) =
      Text.trimStart text ++ ')' :: rest := dropWhile_stop (by decide) text rest
  rw [← after_trimStart] at closed
  obtain ⟨behind, closed, same⟩ := exists_afterValue closed
  have start (rest : List Char) : Text.dropStart? ['"'] (behind ++ ')' :: rest) =
      (Text.dropStart? ['"'] behind).map (· ++ ')' :: rest) :=
    dropStart?_stop (by decide) behind rest
  cases begins : Text.dropStart? ['"'] behind with
  | none => exact ⟨none, fun rest => by rw [givenName?, trimmed, same, start, begins]; rfl⟩
  | some name =>
    have quoted : '"' ∈ name := by
      rw [Text.dropStart?_eq_some.1 begins] at closed
      exact mem_of_after closed
    obtain ⟨content, later, rfl, plain⟩ := List.eq_append_cons_of_mem quoted
    have cut (rest : List Char) : Text.splitFirst? (· == '"') (content ++ '"' :: later ++ ')' :: rest) =
        some (content, later ++ ')' :: rest) :=
      Text.splitFirst?_eq_some.2 ⟨'"', rfl, fun c member => by
        rw [beq_eq_false_iff_ne]
        exact ne_of_mem_of_not_mem member plain, by simp⟩
    have opened (rest : List Char) : givenName? (inside ++ ')' :: rest) =
        (Text.dropStart? [')'] (Text.trimStart later ++ ')' :: rest)).map fun _ => content := by
      rw [givenName?, trimmed, same, start, begins, ← trimmed]
      simp only [Option.map_some, Option.bind_eq_bind, Option.bind_some, cut]
      cases Text.dropStart? [')'] (Text.trimStart (later ++ ')' :: rest)) <;> rfl
    refine ⟨if (Text.trimStart later).head?.getD ')' = ')' then some content else none, fun rest => ?_⟩
    rw [opened]
    cases Text.trimStart later with
    | nil => rfl
    | cons c more =>
      by_cases ends : c = ')'
      · subst ends
        rfl
      · simp [Text.dropStart?, ends, Ne.symm ends]

/-- Whether an annotation binds is read from the annotation alone. -/
theorem exists_bindingHere? (used : AnnotationUse) :
    ∃ name, ∀ rest, used.Apart rest → bindingHere? (used.text ++ rest) = name := by
  by_cases binds : used.name = "Param".toList
  · obtain ⟨name, arguments, named⟩ := used
    obtain rfl : name = "Param".toList := binds
    have read {arguments rest : List Char}
        (start : Text.trimStart rest = '(' :: arguments) :
        bindingHere? ("@Param".toList ++ rest) = givenName? arguments := by
      have word : Text.dropStart? "@Param".toList ("@Param".toList ++ rest) = some rest :=
        Text.dropStart?_eq_some.2 rfl
      rw [bindingHere?_eq, word, Option.bind_some, start]
      rfl
    cases arguments with
    | none =>
      refine ⟨none, fun rest apart => ?_⟩
      have word : Text.dropStart? "@Param".toList ("@Param".toList ++ rest) = some rest :=
        Text.dropStart?_eq_some.2 rfl
      have bare : Text.dropStart? ['('] (Text.trimStart rest) = none := by
        rw [Option.eq_none_iff_forall_ne_some]
        intro behind opens
        exact (apart rfl).2 (by rw [Text.dropStart?_eq_some.1 opens]; rfl)
      have none : bindingHere? ("@Param".toList ++ rest) = Option.none := by
        rw [bindingHere?_eq, word, Option.bind_some, bare]
        rfl
      exact none
    | some arguments =>
      obtain ⟨gap, inside, blank, closed⟩ := arguments
      obtain ⟨name, same⟩ := exists_givenName? closed.after_eq
      refine ⟨name, fun rest _ => ?_⟩
      have text : AnnotationUse.text ⟨"Param".toList, some ⟨gap, inside, blank, closed⟩, named⟩ ++ rest =
          "@Param".toList ++ (gap ++ '(' :: (inside ++ ')' :: rest)) := by
        simp [AnnotationUse.text, AnnotationUse.given]
      have start : Text.trimStart (gap ++ '(' :: (inside ++ ')' :: rest)) =
          '(' :: (inside ++ ')' :: rest) := Text.trimStart_append_blank blank _
      rw [text, read start, same]
  · refine ⟨none, fun rest apart => ?_⟩
    rw [AnnotationUse.text, List.cons_append, List.append_assoc]
    exact bindingHere?_named used.named (AnnotationUse.head_given apart) binds

theorem binding?_text_congr {used : AnnotationUse} (one : used.InOneMember)
    {rest rest' : List Char} (apart : used.Apart rest) (apart' : used.Apart rest')
    (same : binding? rest = binding? rest') :
    binding? (used.text ++ rest) = binding? (used.text ++ rest') := by
  obtain ⟨name, here⟩ := exists_bindingHere? used
  rw [binding?_text one, binding?_text one, here rest apart, here rest' apart', same]

/-! ## Parameters -/

/-- What may stand in a parameter before one of its annotations. -/
inductive ParameterStart : List Char → Prop
  | nil : ParameterStart []
  | char {c : Char} {rest : List Char} : isQuote c = false → c ∉ ['{', '}', ';', ',', '@'] →
      (∀ kind ∈ groups, c ≠ kind.opening ∧ c ≠ kind.closing) → ParameterStart rest →
      ParameterStart (c :: rest)
  | annotated {used : AnnotationUse} {rest : List Char} : used.InOneStatement →
      used.InOneMember → used.Apart (rest ++ ['@']) → ParameterStart rest →
      ParameterStart (used.text ++ rest)

namespace ParameterStart

variable {start : List Char}

theorem isUnbroken (begins : ParameterStart start) : Unbroken start := by
  induction begins with
  | nil => exact .nil
  | char quote plain _ _ ih =>
    simp only [List.mem_cons, not_or] at plain
    exact .char quote plain.1 plain.2.1 plain.2.2.1 ih
  | annotated one _ _ _ ih => exact (AnnotationUse.isUnbroken one).append ih

theorem isBalanced (begins : ParameterStart start) : Balanced groups start := by
  induction begins with
  | nil => exact .nil
  | char quote _ other _ ih => exact .char quote other ih
  | annotated _ one _ _ ih => exact (AnnotationUse.isBalanced one).append ih

theorem members_eq (begins : ParameterStart start) (rest : List Char) :
    members (start ++ rest) = ontoFirst start (members rest) := by
  induction begins with
  | nil => rfl
  | @char c text quote plain other _ ih =>
    have comma : c ≠ ',' := fun same => plain (by simp [same])
    have first : ∀ d ∈ [c], isQuote d = false ∧
        (∀ kind ∈ groups, d ≠ kind.opening ∧ d ≠ kind.closing) ∧ d ≠ ',' :=
      List.forall_mem_singleton.2 ⟨quote, other, comma⟩
    exact (members_plain first (text ++ rest)).trans (congrArg (consFirst c) ih)
  | annotated _ one _ _ ih =>
    rw [List.append_assoc, members_annotated one, ih, ontoFirst_append]

theorem exists_stripAnnotations (begins : ParameterStart start) : ∃ head, ∀ rest,
    stripAnnotations (start ++ '@' :: rest) = head ++ stripAnnotations ('@' :: rest) := by
  induction begins with
  | nil => exact ⟨[], fun rest => rfl⟩
  | @char c text quote plain other _ ih =>
    obtain ⟨head, same⟩ := ih
    have notAt : c ≠ '@' := fun isAt => plain (by simp [isAt])
    exact ⟨c :: head, fun rest => by
      rw [List.cons_append, stripAnnotations_cons notAt, same, List.cons_append]⟩
  | annotated _ _ apart _ ih =>
    obtain ⟨head, same⟩ := ih
    exact ⟨head, fun rest => by
      rw [List.append_assoc, stripAnnotations_annotated (apart.append (by decide) rest), same]⟩

theorem binding?_congr (begins : ParameterStart start) {rest rest' : List Char}
    (same : binding? ('@' :: rest) = binding? ('@' :: rest')) :
    binding? (start ++ '@' :: rest) = binding? (start ++ '@' :: rest') := by
  induction begins with
  | nil => exact same
  | @char c text quote plain other _ ih =>
    have notAt : '@' ∉ [c] := fun isAt => plain (by rw [← List.mem_singleton.1 isAt]; simp)
    exact (binding?_plain notAt _).trans (ih.trans (binding?_plain notAt _).symm)
  | annotated _ one apart _ ih =>
    rw [List.append_assoc, List.append_assoc]
    exact binding?_text_congr one (apart.append (by decide) rest) (apart.append (by decide) rest') ih

end ParameterStart

section

variable {used used' : AnnotationUse} (one : used.InOneParameter)
  (one' : used'.InOneParameter) (apart : ∀ rest, used.Apart rest)
  (apart' : ∀ rest, used'.Apart rest)

include one one' apart apart'

/-- A parameter reads the same with one annotation or another. -/
theorem parameter?_annotations {start : List Char} (begins : ParameterStart start)
    (rest : List Char) :
    parameter? (start ++ (used.text ++ rest)) =
      parameter? (start ++ (used'.text ++ rest)) := by
  obtain ⟨head, strip⟩ := begins.exists_stripAnnotations
  have plain {used : AnnotationUse} (apart : used.Apart rest) :
      stripAnnotations (start ++ (used.text ++ rest)) = head ++ stripAnnotations rest :=
    (strip _).trans (congrArg (head ++ ·) (stripAnnotations_annotated apart))
  have names : binding? (start ++ (used.text ++ rest)) =
      binding? (start ++ (used'.text ++ rest)) :=
    begins.binding?_congr <|
      (binding?_annotated (apart rest) one).trans (binding?_annotated (apart' rest) one').symm
  rw [parameter?, parameter?, plain (apart rest), plain (apart' rest), names]

/-- So does the method. -/
theorem methodBehind?_annotations {list start : List Char} (begins : ListStart list)
    (inside : ParameterStart start) (head rest : List Char) :
    methodBehind? head (list ++ (start ++ (used.text ++ rest))) =
      methodBehind? head (list ++ (start ++ (used'.text ++ rest))) := by
  have round : Bracket.round ∈ groups := by decide
  refine methodBehind?_congr ?_ head
  rw [splitParens?_append round begins.isBalanced, splitParens?_append round begins.isBalanced,
    splitParens?_append round inside.isBalanced, splitParens?_append round inside.isBalanced,
    splitParens?_append round (AnnotationUse.isBalanced one.2),
    splitParens?_append round (AnnotationUse.isBalanced one'.2)]
  cases splitParens? rest with
  | none => rfl
  | some pair =>
    obtain ⟨pieces, gap, blank, same⟩ := begins.exists_members
    obtain ⟨member, others, first⟩ := List.exists_cons_of_ne_nil (listPieces_ne_nil .outside 0 pair.1)
    have cut {used : AnnotationUse} (one : used.InOneParameter) :
        members (list ++ (start ++ (used.text ++ pair.1))) =
          pieces ++ (gap ++ (start ++ (used.text ++ member))) :: others := by
      rw [same, inside.members_eq, members_annotated one.2, members, first, ontoFirst_cons,
        ontoFirst_cons, ontoFirst_cons]
    have solid (used : AnnotationUse) :
        Text.trim (gap ++ (start ++ (used.text ++ member))) ≠ [] :=
      Text.trim_ne_nil (c := '@') (by decide) (by simp [AnnotationUse.text])
    simp only [inFront, Option.map_some]
    rw [parameters_eq (cut one) (cut one') (solid _) (solid _)]
    rw [parameter?_blank blank, parameter?_blank blank,
      parameter?_annotations one one' apart apart' inside]

end

/-- Arguments end with their parenthesis. -/
theorem AnnotationUse.exists_text {used : AnnotationUse} (given : used.arguments ≠ none) :
    ∃ front, used.text = front ++ [')'] := by
  obtain ⟨name, arguments, named⟩ := used
  cases arguments with
  | none => exact absurd rfl given
  | some arguments =>
    exact ⟨'@' :: (name ++ (arguments.gap ++ '(' :: arguments.inside)), by
      simp [AnnotationUse.text, AnnotationUse.given]⟩

/-- An interface reads the same with one annotation of a parameter or another. -/
theorem typeOfBody_annotations {used used' : AnnotationUse}
    (one : used.InOneParameter) (one' : used'.InOneParameter)
    (given : used.arguments ≠ none) (given' : used'.arguments ≠ none)
    (stays : used.InOneStatement) (stays' : used'.InOneStatement) {before signature list start : List Char}
    (whole : WholeMembers before) (written : Signature signature) (inOne : Unbroken list)
    (begins : ListStart list) (inside : ParameterStart start) (name header rest : List Char) :
    typeOfBody .interface name header
        (before ++ (signature ++ '(' :: (list ++ (start ++ (used.text ++ rest))))) =
      typeOfBody .interface name header
        (before ++ (signature ++ '(' :: (list ++ (start ++ (used'.text ++ rest))))) := by
  obtain ⟨pieces, gap, blank, same⟩ := exists_statementPieces_members whole
  obtain ⟨piece, others, behind⟩ :=
    List.exists_cons_of_ne_nil (statementPieces_ne_nil .outside 0 rest)
  obtain ⟨plain, isOne, trimStart⟩ := written.exists_trimStart
  obtain ⟨kept, trimmed⟩ := Text.exists_trimEnd_cons (c := ')') (by decide) piece
  have cut {used : AnnotationUse} (given : used.arguments ≠ none)
      (stays : used.InOneStatement) :
      statements (before ++ (signature ++ '(' :: (list ++ (start ++ (used.text ++ rest))))) =
        nonblank pieces ++ (plain ++ '(' :: (list ++ (start ++ (used.text ++ kept)))) ::
          nonblank others := by
    have statement : statementPieces .outside 0
        (signature ++ '(' :: (list ++ (start ++ (used.text ++ rest)))) =
          (signature ++ '(' :: (list ++ (start ++ (used.text ++ piece)))) :: others := by
      have opening : Unbroken ('(' :: (list ++ (start ++ used.text))) :=
        .char (by decide) (by decide) (by decide) (by decide)
          (inOne.append (inside.isUnbroken.append (AnnotationUse.isUnbroken stays)))
      have cut := statementPieces_unbroken (written.unbroken.append opening) rest
      rw [behind, ontoFirst_cons] at cut
      simpa using cut
    -- The end of a statement is cut behind the parenthesis of the annotation.
    have trim : Text.trim (signature ++ '(' :: (list ++ (start ++ (used.text ++ piece)))) =
        plain ++ '(' :: (list ++ (start ++ (used.text ++ kept))) := by
      obtain ⟨front, ends⟩ := AnnotationUse.exists_text given
      have shape (tail : List Char) :
          plain ++ '(' :: (list ++ (start ++ (front ++ ')' :: tail))) =
            (plain ++ '(' :: (list ++ (start ++ front))) ++ ')' :: tail := by simp
      rw [Text.trim, trimStart, ends, List.append_assoc, List.append_assoc, List.singleton_append,
        List.singleton_append, shape, trimmed, shape]
    rw [statements_eq blank (same _) statement
      (Text.trim_ne_nil (c := '(') (by decide) (by simp)), trim]
  exact typeOfBody_interface (cut given stays) (cut given' stays') <| isOne.method?_eq fun head =>
    methodBehind?_annotations one one' (fun _ bare => absurd bare given)
      (fun _ bare => absurd bare given') begins inside head kept

/-! ## Literals in annotations -/

/-- The text of an annotation of a parameter around a place in its arguments. Neither the annotation
nor one in its arguments gives a name. -/
structure Surroundings where
  name : List Char
  gap : List Char
  before : List Char
  behind : List Char
  named : ∀ c ∈ name, isAnnotationChar c = true
  other : name ≠ "Param".toList
  blank : ∀ c ∈ gap, Text.isBlank c = true
  unbroken : Unbroken before
  unbroken' : Unbroken behind
  enclosing : Enclosing groups before behind
  absent : ¬ "@Param".toList <:+: before
  absent' : ¬ "@Param".toList <:+: behind

namespace Surroundings

def opening (around : Surroundings) : List Char :=
  '@' :: (around.name ++ (around.gap ++ '(' :: around.before))

def closing (around : Surroundings) : List Char := around.behind ++ [')']

theorem isUnbroken_opening (around : Surroundings) : Unbroken around.opening := by
  have name : AnnotationUse.InOneStatement ⟨around.name, none, around.named⟩ := by rintro arguments ⟨⟩
  have arguments : Unbroken ('(' :: around.before) :=
    .char (by decide) (by decide) (by decide) (by decide) around.unbroken
  have whole := (AnnotationUse.isUnbroken name).append ((Unbroken.of_blank around.blank).append arguments)
  simpa [opening, AnnotationUse.text, AnnotationUse.given] using whole

theorem isBalanced_closing (around : Surroundings) : Balanced [.curly] around.closing :=
  around.unbroken'.balanced.append (.char (by decide) (by decide) .nil)

variable {quote : Char} (isOne : isQuote quote = true) {contents : List Char}
  (written : Contents quote contents)

include isOne written

theorem isBalanced_inside (around : Surroundings) :
    Balanced groups (around.before ++ (quote :: (contents ++ [quote]) ++ around.behind)) :=
  around.enclosing.filled (.literal isOne written .nil)

/-- The annotation with a literal at the place. -/
def filled (around : Surroundings) : AnnotationUse where
  name := around.name
  arguments := some
    { gap := around.gap
      inside := around.before ++ (quote :: (contents ++ [quote]) ++ around.behind)
      blank := around.blank
      closed := (around.isBalanced_inside isOne written).mono (by decide) }
  named := around.named

theorem text_filled (around : Surroundings) : (around.filled isOne written).text =
    around.opening ++ quote :: (contents ++ quote :: around.closing) := by
  simp [filled, opening, closing, AnnotationUse.text, AnnotationUse.given]

theorem filled_inOneStatement (around : Surroundings) :
    (around.filled isOne written).InOneStatement := by
  rintro arguments ⟨⟩
  exact around.unbroken.append ((Unbroken.literal isOne written .nil).append around.unbroken')

theorem filled_inOneParameter (around : Surroundings) (silent : ¬ "@Param".toList <:+: contents) :
    (around.filled isOne written).InOneParameter := by
  have plain : ∀ c ∈ "@Param".toList, isQuote c = false := by simp [isQuote]
  have notIn : quote ∉ "@Param".toList := fun member => ne_of_class isOne (plain quote member) rfl
  have absent : ¬ "@Param".toList <:+:
      around.before ++ (quote :: (contents ++ [quote]) ++ around.behind) := by
    rw [List.cons_append, List.append_assoc, List.singleton_append]
    intro found
    obtain inBefore | later := infix_of_infix_append notIn found
    · exact around.absent inBefore
    · exact (infix_of_infix_append notIn later).elim silent around.absent'
  refine ⟨around.other, ?_⟩
  rintro arguments ⟨⟩
  exact ⟨around.isBalanced_inside isOne written, absent⟩

end Surroundings

end SqlPreview.Source
