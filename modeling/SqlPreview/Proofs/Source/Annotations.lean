import Mathlib
import SqlPreview.Proofs.Source.Balanced
import SqlPreview.Proofs.Text.Blank
import SqlPreview.Proofs.Types.RoundTrip
import SqlPreview.Source.Reader

/-!
# Annotations

Every reader of members skips an annotation together with its arguments. Only the name that an
annotation gives to a parameter is looked for inside of annotations, nested ones included.

This file defines annotations as they are written (`AnnotationUse`).

Results:
1. `stripAnnotations_annotated`, `afterLeadingAnnotations_annotated`: both ways to skip one.
2. `field?_annotated`, `method?_annotated`, `parameter?_annotated`: every reader skips the
   annotations in front of what it reads.
-/

namespace SqlPreview.Source

/-! ## Annotations as they are written -/

/-- The arguments of an annotation, and the white space before their parentheses. -/
structure Arguments where
  gap : List Char
  inside : List Char
  blank : ∀ c ∈ gap, Text.isBlank c = true
  closed : Balanced [.round] inside

/-- The use of an annotation: a dotted name behind the at sign, and perhaps arguments. -/
structure AnnotationUse where
  name : List Char
  arguments : Option Arguments
  named : ∀ c ∈ name, isAnnotationChar c = true

namespace AnnotationUse

/-- The text of an annotation behind its name. -/
def given (used : AnnotationUse) : List Char :=
  match used.arguments with
  | some arguments => arguments.gap ++ '(' :: (arguments.inside ++ [')'])
  | none => []

def text (used : AnnotationUse) : List Char := '@' :: (used.name ++ used.given)

/-- Without arguments, what follows is neither more of the name nor arguments. -/
def Apart (used : AnnotationUse) (rest : List Char) : Prop :=
  used.arguments = none →
    (∀ c, rest.head? = some c → isAnnotationChar c = false) ∧
      (Text.trimStart rest).head? ≠ some '('

/-- No brace and no semicolon stands in the arguments outside of literals. -/
def InOneStatement (used : AnnotationUse) : Prop :=
  ∀ arguments ∈ used.arguments, Unbroken arguments.inside

/-- All brackets match that lists of parameters look at, and no annotation in the arguments gives a
name to a parameter. -/
def InOneMember (used : AnnotationUse) : Prop :=
  ∀ arguments ∈ used.arguments,
    Balanced groups arguments.inside ∧ ¬ "@Param".toList <:+: arguments.inside

/-- The annotation gives no name to a parameter itself either. -/
def InOneParameter (used : AnnotationUse) : Prop :=
  used.name ≠ "Param".toList ∧ used.InOneMember

end AnnotationUse

theorem unmarked_isAnnotationChar : Unmarked isAnnotationChar :=
  show marks.any _ = false by decide

theorem isAnnotationChar_of_blank {c : Char} (blank : Text.isBlank c = true) :
    isAnnotationChar c = false := by
  by_contra named
  have solid := TypeRef.isBlank_of_isNameChar (Bool.eq_true_of_not_eq_false named)
  rw [blank] at solid
  cases solid

namespace AnnotationUse

variable {used : AnnotationUse}

theorem isUnbroken (one : used.InOneStatement) : Unbroken used.text := by
  have name : Unbroken ('@' :: used.name) :=
    .char (by decide) (by decide) (by decide) (by decide)
      (unmarked_isAnnotationChar.unbroken used.named)
  refine name.append ?_
  obtain ⟨name, arguments, named⟩ := used
  cases arguments with
  | none => exact .nil
  | some arguments =>
    have gap : Unbroken arguments.gap := .of_blank arguments.blank
    have closing : Unbroken [')'] := .char (by decide) (by decide) (by decide) (by decide) .nil
    exact gap.append <| .char (by decide) (by decide) (by decide) (by decide) <|
      (one arguments rfl).append closing

theorem isBalanced (one : used.InOneMember) : Balanced groups used.text := by
  have name : Balanced groups ('@' :: used.name) :=
    .char (by decide) (by decide) (unmarked_isAnnotationChar.balanced used.named)
  refine name.append ?_
  obtain ⟨name, arguments, named⟩ := used
  cases arguments with
  | none => exact .nil
  | some arguments =>
    exact (Balanced.of_blank arguments.blank).append <|
      .group .round (by decide) (one arguments rfl).1 .nil

end AnnotationUse

/-! ## Skipping one annotation -/

theorem dropWhile_annotationChar {name rest : List Char}
    (named : ∀ c ∈ name, isAnnotationChar c = true)
    (ends : ∀ c, rest.head? = some c → isAnnotationChar c = false) :
    (name ++ rest).dropWhile isAnnotationChar = rest := by
  rw [List.dropWhile_append_of_pos named]
  cases rest with
  | nil => rfl
  | cons c rest => exact List.dropWhile_cons_of_neg (by simp [ends c rfl])

/-- The name ends where it ends. -/
theorem AnnotationUse.head_given {used : AnnotationUse} {rest : List Char}
    (apart : used.Apart rest) :
    ∀ c, (used.given ++ rest).head? = some c → isAnnotationChar c = false := by
  intro c head
  obtain ⟨name, arguments, named⟩ := used
  cases arguments with
  | none => exact (apart rfl).1 c head
  | some arguments =>
    obtain ⟨gap, inside, blank, closed⟩ := arguments
    cases gap with
    | nil => cases head; decide
    | cons b gap => cases head; exact isAnnotationChar_of_blank (blank _ List.mem_cons_self)

/-- Behind the at sign the name and the arguments are skipped. -/
theorem annotationRest_annotated {used : AnnotationUse} {rest : List Char}
    (apart : used.Apart rest) :
    annotationRest (used.name ++ (used.given ++ rest)) = rest := by
  have behind := dropWhile_annotationChar used.named (AnnotationUse.head_given apart)
  obtain ⟨name, arguments, named⟩ := used
  simp only [annotationRest, behind]
  cases arguments with
  | none =>
    have bare := (apart rfl).2
    simp only [AnnotationUse.given, List.nil_append]
    split
    · next opens => exact absurd (by rw [opens]; rfl) bare
    · rfl
  | some arguments =>
    obtain ⟨gap, inside, blank, closed⟩ := arguments
    have opens : Text.trimStart (gap ++ '(' :: (inside ++ ')' :: rest)) =
        '(' :: (inside ++ ')' :: rest) := Text.trimStart_append_blank blank _
    simp only [AnnotationUse.given, List.append_assoc, List.cons_append, List.nil_append, opens,
      splitParens?_balanced List.mem_cons_self closed]

theorem stripAnnotations_at (rest : List Char) :
    stripAnnotations ('@' :: rest) = stripAnnotations (annotationRest rest) := by
  rw [stripAnnotations]
  rfl

theorem stripAnnotations_cons {c : Char} (other : c ≠ '@') (rest : List Char) :
    stripAnnotations (c :: rest) = c :: stripAnnotations rest := by
  rw [stripAnnotations, if_neg (by simpa using other)]

theorem stripAnnotations_append {text : List Char} (plain : '@' ∉ text) (rest : List Char) :
    stripAnnotations (text ++ rest) = text ++ stripAnnotations rest := by
  induction text with
  | nil => rfl
  | cons c text ih =>
    obtain ⟨other, plain⟩ := not_or.1 (List.mem_cons.not.1 plain)
    rw [List.cons_append, stripAnnotations_cons (Ne.symm other), ih plain, List.cons_append]

theorem stripAnnotations_annotated {used : AnnotationUse} {rest : List Char}
    (apart : used.Apart rest) :
    stripAnnotations (used.text ++ rest) = stripAnnotations rest := by
  rw [AnnotationUse.text, List.cons_append, List.append_assoc, stripAnnotations_at,
    annotationRest_annotated apart]

theorem afterLeadingAnnotations_at {text rest : List Char}
    (start : Text.trimStart text = '@' :: rest) :
    afterLeadingAnnotations text = afterLeadingAnnotations (annotationRest rest) := by
  rw [afterLeadingAnnotations]
  split
  · next other same =>
    obtain rfl : rest = other := List.tail_eq_of_cons_eq (start.symm.trans same)
    rfl
  · next other => exact absurd start (other rest)

theorem afterLeadingAnnotations_of_ne {text : List Char}
    (start : (Text.trimStart text).head? ≠ some '@') :
    afterLeadingAnnotations text = Text.trimStart text := by
  rw [afterLeadingAnnotations]
  split
  · next rest same => exact absurd (by rw [same]; rfl) start
  · rfl

theorem afterLeadingAnnotations_annotated {used : AnnotationUse} {rest : List Char}
    (apart : used.Apart rest) :
    afterLeadingAnnotations (used.text ++ rest) = afterLeadingAnnotations rest := by
  have start : Text.trimStart (used.text ++ rest) =
      '@' :: (used.name ++ (used.given ++ rest)) := by
    rw [AnnotationUse.text, List.cons_append, List.append_assoc]
    exact List.dropWhile_cons_of_neg (by decide)
  rw [afterLeadingAnnotations_at start, annotationRest_annotated apart]

theorem afterLeadingAnnotations_congr {text other : List Char}
    (same : Text.trimStart text = Text.trimStart other) :
    afterLeadingAnnotations text = afterLeadingAnnotations other := by
  by_cases start : (Text.trimStart other).head? = some '@'
  · obtain ⟨rest, begins⟩ := List.head?_eq_some_iff.1 start
    rw [afterLeadingAnnotations_at begins, afterLeadingAnnotations_at (same.trans begins)]
  · rw [afterLeadingAnnotations_of_ne start, afterLeadingAnnotations_of_ne (same ▸ start), same]

/-! ## Readers -/

theorem takeWhile_append_blank {gap : List Char} (blank : ∀ c ∈ gap, Text.isBlank c = true)
    {d : Char} (solid : Text.isBlank d = false) (rest : List Char) :
    (gap ++ rest).takeWhile (· != d) = gap ++ rest.takeWhile (· != d) :=
  List.takeWhile_append_of_pos fun c member => bne_iff_ne.2 (ne_of_class (blank c member) solid)

theorem not_mem_of_blank {gap : List Char} (blank : ∀ c ∈ gap, Text.isBlank c = true) {d : Char}
    (solid : Text.isBlank d = false) : d ∉ gap :=
  fun member => ne_of_class (blank d member) solid rfl

section

variable {used : AnnotationUse} {gap rest : List Char}

theorem field?_annotated (apart : used.Apart rest) :
    field? (used.text ++ rest) = field? rest := by
  rw [field?, stripAnnotations_annotated apart, ← field?]

theorem field?_blank (blank : ∀ c ∈ gap, Text.isBlank c = true) (rest : List Char) :
    field? (gap ++ rest) = field? rest := by
  rw [field?, stripAnnotations_append (not_mem_of_blank blank (by decide)),
    takeWhile_append_blank blank (by decide), Text.trim_append_blank blank, ← field?]

/-- A field is read from what is before a value, and a parenthesis before that shows that there is
none. So texts that begin alike that far are the same to fields. -/
theorem field?_eq_of_front {statement other front tail tail' : List Char}
    (same : stripAnnotations statement = front ++ tail)
    (same' : stripAnnotations other = front ++ tail') (enough : '=' ∈ front ∨ '(' ∈ front) :
    field? statement = field? other := by
  by_cases valued : '=' ∈ front
  · obtain ⟨before, behind, rfl, plain⟩ := List.eq_append_cons_of_mem valued
    have cut (tail : List Char) :
        ((before ++ '=' :: behind) ++ tail).takeWhile (· != '=') = before := by
      rw [List.append_assoc, List.takeWhile_append_of_pos fun c member =>
        bne_iff_ne.2 (ne_of_mem_of_not_mem member plain)]
      simp
    rw [field?, field?, same, same', cut, cut]
  · have none {statement tail : List Char} (same : stripAnnotations statement = front ++ tail) :
        field? statement = none := by
      rw [field?, same, List.takeWhile_append_of_pos fun c member =>
        bne_iff_ne.2 (ne_of_mem_of_not_mem member valued)]
      exact if_pos <| List.contains_iff_mem.2 <| Text.mem_trim (by decide) <|
        List.mem_append_left _ (enough.resolve_left valued)
    rw [none same, none same']

theorem method?_annotated (apart : used.Apart rest) :
    method? (used.text ++ rest) = method? rest := by
  rw [method?, afterLeadingAnnotations_annotated apart, ← method?]

theorem method?_blank (blank : ∀ c ∈ gap, Text.isBlank c = true) (rest : List Char) :
    method? (gap ++ rest) = method? rest := by
  rw [method?, afterLeadingAnnotations_congr (Text.trimStart_append_blank blank rest), ← method?]

/-! ### Names of parameters -/

theorem bindingHere?_eq_none {text : List Char} (other : ¬ "@Param".toList <+: text) :
    bindingHere? text = none := by
  have none : Text.dropStart? "@Param".toList text = none := by
    rw [Option.eq_none_iff_forall_ne_some]
    intro rest found
    exact other ⟨rest, (Text.dropStart?_eq_some.1 found).symm⟩
  rw [bindingHere?, none]
  rfl

theorem binding?_cons {c : Char} {text : List Char} (other : ¬ "@Param".toList <+: c :: text) :
    binding? (c :: text) = binding? text := by
  rw [binding?, bindingHere?_eq_none other]
  rfl

theorem binding?_plain {text : List Char} (plain : '@' ∉ text) (rest : List Char) :
    binding? (text ++ rest) = binding? rest := by
  induction text with
  | nil => rfl
  | cons c text ih =>
    obtain ⟨other, plain⟩ := not_or.1 (List.mem_cons.not.1 plain)
    rw [List.cons_append, binding?_cons, ih plain]
    rintro ⟨behind, same⟩
    exact other (List.head_eq_of_cons_eq same)

theorem prefix_of_prefix_append {needle text rest : List Char} {c : Char} (ends : c ∉ needle)
    (start : needle <+: text ++ c :: rest) : needle <+: text := by
  obtain shorter | ⟨more, rfl⟩ :=
    List.prefix_or_prefix_of_prefix start (List.prefix_append text (c :: rest))
  · exact shorter
  · cases more with
    | nil => rw [List.append_nil]
    | cons d more =>
      obtain ⟨behind, same⟩ := (List.prefix_append_right_inj text).1 start
      rw [← List.head_eq_of_cons_eq same] at ends
      exact absurd (List.mem_append_right text List.mem_cons_self) ends

theorem infix_of_infix_append {needle text rest : List Char} {c : Char} (ends : c ∉ needle)
    (inside : needle <:+: text ++ c :: rest) : needle <:+: text ∨ needle <:+: rest := by
  induction text with
  | nil =>
    exact (List.infix_cons_iff.1 inside).imp_left fun start =>
      have inNil : needle <+: [] := prefix_of_prefix_append ends start
      inNil.isInfix
  | cons d text ih =>
    obtain start | later := List.infix_cons_iff.1 inside
    · exact .inl (prefix_of_prefix_append ends start).isInfix
    · exact (ih later).imp_left fun inText => inText.trans (List.suffix_cons d text).isInfix

/-- A text without the naming annotation, up to a character that is not in its name either. -/
theorem binding?_skip {text : List Char} (absent : ¬ "@Param".toList <:+: text) {c : Char}
    (ends : c ∉ "@Param".toList) (rest : List Char) :
    binding? (text ++ c :: rest) = binding? (c :: rest) := by
  induction text with
  | nil => rfl
  | cons d text ih =>
    rw [List.cons_append, binding?_cons,
      ih fun inside => absent (inside.trans (List.suffix_cons d text).isInfix)]
    exact fun start => absent (prefix_of_prefix_append ends start).isInfix

/-- The name of the naming annotation ends at its parenthesis. -/
theorem bindingHere?_longer {c : Char} (named : isAnnotationChar c = true) (rest : List Char) :
    bindingHere? ("@Param".toList ++ c :: rest) = none := by
  have solid : Text.isBlank c = false := TypeRef.isBlank_of_isNameChar named
  have other : ('(' == c) = false :=
    beq_eq_false_iff_ne.2 (ne_of_class named (by decide)).symm
  have found : Text.dropStart? "@Param".toList ("@Param".toList ++ c :: rest) = some (c :: rest) :=
    Text.dropStart?_eq_some.2 rfl
  have start : Text.trimStart (c :: rest) = c :: rest :=
    List.dropWhile_cons_of_neg (by simp [solid])
  have none : Text.dropStart? ['('] (c :: rest) = none := by
    rw [Text.dropStart?, other]
    rfl
  rw [bindingHere?, found]
  simp only [Option.bind_eq_bind, Option.bind_some, start, none, Option.bind_none]

/-- The name of an annotation is another one, or it goes on behind the name that would bind. -/
theorem bindingHere?_named {name rest : List Char} (named : ∀ c ∈ name, isAnnotationChar c = true)
    (ends : ∀ c, rest.head? = some c → isAnnotationChar c = false)
    (other : name ≠ "Param".toList) : bindingHere? ('@' :: (name ++ rest)) = none := by
  by_cases start : "Param".toList <+: name ++ rest
  · obtain ⟨more, rfl⟩ | ⟨more, same⟩ :=
      List.prefix_or_prefix_of_prefix start (List.prefix_append name rest)
    · cases more with
      | nil => exact absurd (List.append_nil _) other
      | cons c more =>
        exact bindingHere?_longer (named c (List.mem_append_right _ List.mem_cons_self)) _
    · cases more with
      | nil => exact absurd (by rw [← same, List.append_nil]) other
      | cons c more =>
        rw [← same] at start
        obtain ⟨behind, rfl⟩ := (List.prefix_append_right_inj name).1 start
        have inName : c ∈ "Param".toList := same ▸ List.mem_append_right _ List.mem_cons_self
        have letters : "Param".toList.all isAnnotationChar = true := by decide
        have goesOn := List.all_eq_true.1 letters c inName
        rw [ends c rfl] at goesOn
        cases goesOn
  · refine bindingHere?_eq_none fun whole => start ?_
    obtain ⟨behind, same⟩ := whole
    exact ⟨behind, List.tail_eq_of_cons_eq same⟩

/-- Of an annotation only its own name may bind, if no other one is in its arguments. -/
theorem binding?_text (one : used.InOneMember) (rest : List Char) :
    binding? (used.text ++ rest) =
      (bindingHere? (used.text ++ rest) <|> binding? rest) := by
  have plain : '@' ∉ used.name := fun member =>
    ne_of_class (used.named _ member) (by decide) rfl
  have given : binding? (used.given ++ rest) = binding? rest := by
    obtain ⟨name, arguments, named⟩ := used
    cases arguments with
    | none => rfl
    | some arguments =>
      obtain ⟨gap, inside, blank, closed⟩ := arguments
      obtain ⟨-, absent⟩ := one _ rfl
      simp only [AnnotationUse.given, List.append_assoc, List.cons_append, List.nil_append]
      rw [binding?_plain (not_mem_of_blank blank (by decide)), ← List.singleton_append,
        binding?_plain (by decide), binding?_skip absent (by decide), ← List.singleton_append,
        binding?_plain (by decide)]
  rw [AnnotationUse.text, List.cons_append, List.append_assoc, binding?, binding?_plain plain, given]

theorem binding?_annotated (apart : used.Apart rest) (one : used.InOneParameter) :
    binding? (used.text ++ rest) = binding? rest := by
  have none := bindingHere?_named used.named (AnnotationUse.head_given apart) one.1
  rw [binding?_text one.2, AnnotationUse.text, List.cons_append, List.append_assoc, none]
  rfl

theorem parameter?_annotated (apart : used.Apart rest) (one : used.InOneParameter) :
    parameter? (used.text ++ rest) = parameter? rest := by
  rw [parameter?, stripAnnotations_annotated apart, binding?_annotated apart one, ← parameter?]

theorem parameter?_blank (blank : ∀ c ∈ gap, Text.isBlank c = true) (rest : List Char) :
    parameter? (gap ++ rest) = parameter? rest := by
  have plain : '@' ∉ gap := not_mem_of_blank blank (by decide)
  rw [parameter?, stripAnnotations_append plain, Text.trim_append_blank blank, binding?_plain plain,
    ← parameter?]

end

end SqlPreview.Source
