import Mathlib
import SqlPreview.Proofs.Source.Annotations
import SqlPreview.Source.Reader

/-!
# Annotations in bodies

An annotation in front of a field, a method or a parameter changes nothing in what is read of a
body, as long as its arguments stay in one statement. The search for statements is the one place
where the arguments of an annotation are not a unit: it ends a statement at every brace and
semicolon outside of literals.

This file defines the text before the parameters of a method (`Signature`) and the places that an
annotation may be put at (`Place`).

Results:
1. `Signature.field?_eq`, `Signature.method?_eq`: what is read of a method depends on the text of
   its parameters only through what is read of them.
2. `methodBehind?_annotated`: an annotation in front of a parameter.
3. `annotation_transparent`: fields and methods stay the same.
4. `array_argument_not_transparent`: braces in the arguments of an annotation change a field.
-/

namespace SqlPreview.Source

/-! ## Methods -/

/-- The parameters in a list. -/
def parameters (list : List Char) : List ParameterDeclaration :=
  ((members list).filter fun member => !(Text.trim member).isEmpty).filterMap parameter?

/-- The method with some parameters, given the text before them. -/
def methodWith? (head : List Char) (parameters : List ParameterDeclaration) :
    Option MethodDeclaration := do
  let words := (Text.words head).map String.ofList
  let name ← words.getLast?
  let others := words.dropLast
  if others.isEmpty || others.any ownBodyModifiers.contains then none
  else some ⟨name, parameters⟩

/-- The method, given the text before its parameters and what follows their parenthesis. -/
def methodBehind? (head rest : List Char) : Option MethodDeclaration :=
  (splitParens? rest).bind fun pair => methodWith? head (parameters pair.1)

theorem method?_eq (statement : List Char) : method? statement =
    (Text.splitFirst? (· == '(') (afterLeadingAnnotations statement)).bind fun pair =>
      methodBehind? pair.1 pair.2 := rfl

theorem methodBehind?_congr {rest rest' : List Char}
    (same : (splitParens? rest).map (fun pair => parameters pair.1) =
      (splitParens? rest').map fun pair => parameters pair.1) (head : List Char) :
    methodBehind? head rest = methodBehind? head rest' := by
  have reads (behind : List Char) : methodBehind? head behind =
      ((splitParens? behind).map fun pair => parameters pair.1).bind (methodWith? head) := by
    rw [Option.bind_map]
    rfl
  rw [reads, reads, same]

theorem methodBehind?_closed {kinds : List Bracket} (one : .round ∈ kinds) {inside : List Char}
    (balanced : Balanced kinds inside) (head rest rest' : List Char) :
    methodBehind? head (inside ++ ')' :: rest) = methodBehind? head (inside ++ ')' :: rest') := by
  refine methodBehind?_congr ?_ head
  rw [splitParens?_balanced one balanced, splitParens?_balanced one balanced]
  rfl

/-- Only what is read of the parameters counts. -/
theorem parameters_eq {list list' first first' : List Char} {pieces others : List (List Char)}
    (cut : members list = pieces ++ first :: others)
    (cut' : members list' = pieces ++ first' :: others)
    (solid : Text.trim first ≠ []) (solid' : Text.trim first' ≠ [])
    (same : parameter? first = parameter? first') : parameters list = parameters list' := by
  simp [parameters, cut, cut', List.filterMap_cons, solid, solid', same]

/-- What stands before the parameters of a method: annotations, and text without parentheses. -/
inductive Signature : List Char → Prop
  | nil : Signature []
  | char {c : Char} {rest : List Char} : isQuote c = false → c ∉ ['{', '}', ';', '(', '@'] →
      Signature rest → Signature (c :: rest)
  | annotated {used : AnnotationUse} {rest : List Char} : used.InOneStatement →
      used.Apart (rest ++ ['(']) → Signature rest → Signature (used.text ++ rest)

/-- Whether an annotation goes on is decided by the next character that is not white space. -/
theorem AnnotationUse.Apart.append {used : AnnotationUse} {text : List Char} {c : Char}
    (apart : used.Apart (text ++ [c])) (solid : Text.isBlank c = false) (rest : List Char) :
    used.Apart (text ++ c :: rest) := by
  intro bare
  obtain ⟨ends, noArguments⟩ := apart bare
  constructor
  · exact fun d head => ends d (by cases text <;> exact head)
  · rw [Text.head?_trimStart_append solid]
    exact noArguments

theorem splitFirst?_append {cut : Char → Bool} {text : List Char}
    (plain : ∀ c ∈ text, cut c = false) (rest : List Char) :
    Text.splitFirst? cut (text ++ rest) =
      (Text.splitFirst? cut rest).map fun pair => (text ++ pair.1, pair.2) := by
  induction text with
  | nil => simp
  | cons c text ih =>
    obtain ⟨first, plain⟩ := List.forall_mem_cons.1 plain
    rw [List.cons_append, Text.splitFirst?, if_neg (by simp [first]), ih plain, Option.map_map]
    rfl

/-- The text of an annotation up to its arguments. -/
theorem not_opening_front {name gap : List Char} (named : ∀ c ∈ name, isAnnotationChar c = true)
    (blank : ∀ c ∈ gap, Text.isBlank c = true) :
    ∀ c ∈ '@' :: (name ++ gap), (c == '(') = false := by
  intro c member
  rw [beq_eq_false_iff_ne]
  obtain rfl | member := List.mem_cons.1 member
  · decide
  · obtain inName | inGap := List.mem_append.1 member
    · exact ne_of_class (named c inName) (by decide)
    · exact ne_of_class (blank c inGap) (by decide)

namespace Signature

variable {signature : List Char}

/-- Behind a signature the annotations of the parameters are left. -/
theorem exists_stripAnnotations (written : Signature signature) :
    ∃ head, ∀ rest, stripAnnotations (signature ++ '(' :: rest) =
      head ++ '(' :: stripAnnotations rest := by
  induction written with
  | nil => exact ⟨[], stripAnnotations_cons (by decide)⟩
  | @char c text _ plain _ ih =>
    obtain ⟨head, same⟩ := ih
    refine ⟨c :: head, fun rest => ?_⟩
    have other : c ≠ '@' := by
      rintro rfl
      exact plain (by decide)
    rw [List.cons_append, stripAnnotations_cons other, same, List.cons_append]
  | annotated _ apart _ ih =>
    obtain ⟨head, same⟩ := ih
    refine ⟨head, fun rest => ?_⟩
    rw [List.append_assoc, stripAnnotations_annotated (apart.append (by decide) rest), same]

/-- The parameters of a method are nothing to fields: they are behind a value, or they show that
this is no field. -/
theorem field?_eq (written : Signature signature) (rest rest' : List Char) :
    field? (signature ++ '(' :: rest) = field? (signature ++ '(' :: rest') := by
  obtain ⟨head, same⟩ := written.exists_stripAnnotations
  have front (tail : List Char) : stripAnnotations (signature ++ '(' :: tail) =
      (head ++ ['(']) ++ stripAnnotations tail := by
    rw [same, List.append_assoc, List.singleton_append]
  exact field?_eq_of_front (front rest) (front rest') (.inr (by simp))

/-- From the name of the method on. -/
theorem methodBehind?_eq (written : Signature signature) {rest rest' : List Char}
    (same : ∀ head, methodBehind? head rest = methodBehind? head rest') (front : List Char) :
    ((Text.splitFirst? (· == '(') (signature ++ '(' :: rest)).bind fun pair =>
        methodBehind? (front ++ pair.1) pair.2) =
      (Text.splitFirst? (· == '(') (signature ++ '(' :: rest')).bind fun pair =>
        methodBehind? (front ++ pair.1) pair.2 := by
  -- Text without parentheses goes to the front.
  have step {text : List Char} (plain : ∀ c ∈ text, (c == '(') = false) (tail front : List Char) :
      ((Text.splitFirst? (· == '(') (text ++ tail)).bind fun pair =>
          methodBehind? (front ++ pair.1) pair.2) =
        (Text.splitFirst? (· == '(') tail).bind fun pair =>
          methodBehind? ((front ++ text) ++ pair.1) pair.2 := by
    rw [splitFirst?_append plain, Option.bind_map]
    simp only [Function.comp_def, List.append_assoc]
  induction written generalizing front with
  | nil => exact same _
  | @char c text _ plain _ ih =>
    have other : ∀ d ∈ [c], (d == '(') = false := by
      simp only [List.mem_singleton, forall_eq, beq_eq_false_iff_ne]
      rintro rfl
      exact plain (by decide)
    have begins (tail : List Char) : c :: text ++ '(' :: tail = [c] ++ (text ++ '(' :: tail) := rfl
    rw [begins, begins, step other, step other, ih]
  | @annotated used text _ _ _ ih =>
    obtain ⟨name, arguments, named⟩ := used
    cases arguments with
    | none =>
      have plain := not_opening_front named (List.forall_mem_nil _)
      rw [List.append_assoc, List.append_assoc]
      exact (step plain _ _).trans ((ih _).trans (step plain _ _).symm)
    | some arguments =>
      obtain ⟨gap, inside, blank, closed⟩ := arguments
      have plain := not_opening_front named blank
      have begins (tail : List Char) :
          AnnotationUse.text ⟨name, some ⟨gap, inside, blank, closed⟩, named⟩ ++ text ++ tail =
            '@' :: (name ++ gap) ++ '(' :: (inside ++ ')' :: (text ++ tail)) := by
        simp [AnnotationUse.text, AnnotationUse.given]
      rw [begins, begins, step plain, step plain]
      exact methodBehind?_closed List.mem_cons_self closed _ _ _

theorem method?_eq (written : Signature signature) {rest rest' : List Char}
    (same : ∀ head, methodBehind? head rest = methodBehind? head rest') :
    method? (signature ++ '(' :: rest) = method? (signature ++ '(' :: rest') := by
  induction written with
  | nil =>
    have kept (tail : List Char) : method? ('(' :: tail) = methodBehind? [] tail := by
      have start : Text.trimStart ('(' :: tail) = '(' :: tail :=
        List.dropWhile_cons_of_neg (by decide)
      have none : (Text.trimStart ('(' :: tail)).head? ≠ some '@' := by
        rw [start]
        rintro ⟨⟩
      rw [Source.method?_eq, afterLeadingAnnotations_of_ne none, start]
      rfl
    exact (kept rest).trans ((same []).trans (kept rest').symm)
  | @char c text quote plain written ih =>
    cases blank : Text.isBlank c with
    | true =>
      have skipped (tail : List Char) : method? (c :: text ++ '(' :: tail) =
          method? (text ++ '(' :: tail) := by
        rw [Source.method?_eq, List.cons_append,
          afterLeadingAnnotations_congr (Text.trimStart_cons_blank blank _), ← Source.method?_eq]
      rw [skipped, skipped, ih]
    | false =>
      have kept (tail : List Char) :
          afterLeadingAnnotations (c :: text ++ '(' :: tail) = c :: text ++ '(' :: tail := by
        have start : Text.trimStart (c :: text ++ '(' :: tail) = c :: text ++ '(' :: tail :=
          List.dropWhile_cons_of_neg (by simp [blank])
        rw [afterLeadingAnnotations_of_ne, start]
        rw [start]
        rintro ⟨⟩
        exact plain (by decide)
      rw [Source.method?_eq, Source.method?_eq, kept, kept]
      exact (Signature.char quote plain written).methodBehind?_eq same []
  | @annotated used text _ apart _ ih =>
    have skipped (tail : List Char) : method? (used.text ++ text ++ '(' :: tail) =
        method? (text ++ '(' :: tail) := by
      rw [List.append_assoc]
      exact method?_annotated (apart.append (by decide) tail)
    rw [skipped, skipped, ih]

theorem unbroken (written : Signature signature) : Unbroken signature := by
  induction written with
  | nil => exact .nil
  | char quote plain _ ih =>
    simp only [List.mem_cons, not_or] at plain
    exact .char quote plain.1 plain.2.1 plain.2.2.1 ih
  | annotated one _ _ ih => exact (AnnotationUse.isUnbroken one).append ih

/-- White space at the start is no part of what a signature says. -/
theorem exists_trimStart (written : Signature signature) :
    ∃ plain, Signature plain ∧ ∀ rest,
      Text.trimStart (signature ++ '(' :: rest) = plain ++ '(' :: rest := by
  induction written with
  | nil => exact ⟨[], .nil, fun rest => List.dropWhile_cons_of_neg (by decide)⟩
  | @char c text quote other written ih =>
    cases blank : Text.isBlank c with
    | true =>
      obtain ⟨plain, isOne, same⟩ := ih
      exact ⟨plain, isOne, fun rest => (Text.trimStart_cons_blank blank _).trans (same rest)⟩
    | false =>
      exact ⟨c :: text, .char quote other written, fun rest =>
        List.dropWhile_cons_of_neg (by simp [blank])⟩
  | @annotated used text one apart written ih =>
    exact ⟨used.text ++ text, .annotated one apart written, fun rest =>
      List.dropWhile_cons_of_neg (by decide)⟩

end Signature

/-! ## Runs of annotations -/

/-- Annotations in front of a declaration that begins with some character, and the white space
around them. -/
inductive Annotations (next : Char) : List Char → Prop
  | blank {gap : List Char} : (∀ c ∈ gap, Text.isBlank c = true) → Annotations next gap
  | annotated {used : AnnotationUse} {gap rest : List Char} :
      (∀ c ∈ gap, Text.isBlank c = true) → used.Apart (rest ++ [next]) →
      Annotations next rest → Annotations next (gap ++ (used.text ++ rest))

namespace Annotations

/-- One annotation, with a space behind it. -/
theorem annotated_space {next : Char} {gap : List Char} (used : AnnotationUse)
    (blank : ∀ c ∈ gap, Text.isBlank c = true) (solid : Text.isBlank next = false)
    (bare : next ≠ '(') : Annotations next (gap ++ (used.text ++ [' '])) := by
  refine .annotated blank (fun _ => ⟨?_, ?_⟩) (.blank isBlank_space)
  · rintro c ⟨⟩
    decide
  · have starts : Text.StartsSolid [next] := by
      rintro c ⟨⟩
      exact solid
    rw [Text.trimStart_append_blank isBlank_space, starts.trimStart_eq]
    simpa using bare

variable {next : Char} {lead : List Char} (solid : Text.isBlank next = false)

include solid

/-- White space is all that is left of annotations. -/
theorem exists_stripAnnotations (annotations : Annotations next lead) :
    ∃ gap, (∀ c ∈ gap, Text.isBlank c = true) ∧ ∀ rest,
      stripAnnotations (lead ++ next :: rest) = gap ++ stripAnnotations (next :: rest) := by
  induction annotations with
  | @blank gap blank =>
    exact ⟨gap, blank, fun rest => stripAnnotations_append (not_mem_of_blank blank (by decide)) _⟩
  | @annotated used gap _ blank apart _ ih =>
    obtain ⟨gap', blank', same⟩ := ih
    refine ⟨gap ++ gap', List.forall_mem_append.2 ⟨blank, blank'⟩, fun rest => ?_⟩
    rw [List.append_assoc, List.append_assoc, stripAnnotations_append (not_mem_of_blank blank (by decide)),
      stripAnnotations_annotated (apart.append solid rest), same, List.append_assoc]

/-- A method is read without them. -/
theorem method?_eq (annotations : Annotations next lead) (rest : List Char) :
    method? (lead ++ next :: rest) = method? (next :: rest) := by
  induction annotations with
  | blank blank => exact method?_blank blank _
  | annotated blank apart _ ih =>
    rw [List.append_assoc, List.append_assoc, method?_blank blank,
      method?_annotated (apart.append solid rest), ih]

end Annotations

/-! ## Parameters -/

/-- A character that a declaration may begin with. -/
def BeginsDeclaration (c : Char) : Prop :=
  Text.isBlank c = false ∧ c ∉ ['(', ')', '{', '}', ';', ',']

/-- A list up to where a member begins. -/
inductive ListStart : List Char → Prop
  | first {gap : List Char} : (∀ c ∈ gap, Text.isBlank c = true) → ListStart gap
  | later {members gap : List Char} : Balanced groups members →
      (∀ c ∈ gap, Text.isBlank c = true) → ListStart (members ++ ',' :: gap)

theorem ListStart.isBalanced {list : List Char} (start : ListStart list) : Balanced groups list := by
  cases start with
  | first blank => exact .of_blank blank
  | later balanced blank =>
    exact balanced.append (.char (by decide) (by decide) (.of_blank blank))

/-- Text without brackets and commas stays in one member. -/
theorem members_plain {text : List Char} (plain : ∀ c ∈ text, isQuote c = false ∧
      (∀ kind ∈ groups, c ≠ kind.opening ∧ c ≠ kind.closing) ∧ c ≠ ',') (rest : List Char) :
    members (text ++ rest) = ontoFirst text (members rest) := by
  induction text with
  | nil => rfl
  | cons c text ih =>
    obtain ⟨⟨quote, other, comma⟩, plain⟩ := List.forall_mem_cons.1 plain
    rw [List.cons_append, members, listPieces_plain fun _ => ⟨opensGroup_eq_false other,
      closesGroup_eq_false other, fun same => absurd same comma⟩, Quoting.next_plain quote,
      ← members, ih plain]
    rfl

theorem members_blank {gap : List Char} (blank : ∀ c ∈ gap, Text.isBlank c = true)
    (rest : List Char) : members (gap ++ rest) = ontoFirst gap (members rest) :=
  members_plain (fun c member => unmarked_isBlank.inMember (blank c member)) rest

theorem ListStart.exists_members {list : List Char} (start : ListStart list) :
    ∃ pieces gap, (∀ c ∈ gap, Text.isBlank c = true) ∧
      ∀ rest, members (list ++ rest) = pieces ++ ontoFirst gap (members rest) := by
  cases start with
  | first blank => exact ⟨[], list, blank, members_blank blank⟩
  | @later _ gap balanced blank =>
    obtain ⟨pieces, same⟩ := exists_members_comma balanced
    refine ⟨pieces, gap, blank, fun rest => ?_⟩
    rw [List.append_assoc, List.cons_append, same, members_blank blank]

theorem members_annotated {used : AnnotationUse} (one : used.InOneMember)
    (rest : List Char) :
    members (used.text ++ rest) = ontoFirst used.text (members rest) := by
  have begins (behind : List Char) : members ('@' :: (used.name ++ behind)) =
      ontoFirst ('@' :: used.name) (members behind) := by
    refine (members_plain ?_ behind : members ('@' :: used.name ++ behind) = _)
    exact List.forall_mem_cons.2 ⟨by decide, fun c member =>
      unmarked_isAnnotationChar.inMember (used.named c member)⟩
  have behind : members (used.given ++ rest) =
      ontoFirst used.given (members rest) := by
    obtain ⟨name, arguments, named⟩ := used
    cases arguments with
    | none => rfl
    | some arguments =>
      have round : Bracket.round ∈ groups := by decide
      have group := listPieces_group round (one arguments rfl).1 0 rest
      simp only [AnnotationUse.given, List.append_assoc, List.cons_append, List.nil_append]
      rw [members_blank arguments.blank, ontoFirst_append]
      exact congrArg (ontoFirst arguments.gap) group
  rw [AnnotationUse.text, List.cons_append, List.append_assoc, begins, behind, ← ontoFirst_append]
  rfl

theorem exists_members_cons {c : Char} (other : c ≠ ',') (rest : List Char) :
    ∃ member others, members (c :: rest) = (c :: member) :: others := by
  have outside : (c == ',') = false := beq_eq_false_iff_ne.2 other
  rw [members, listPieces.eq_def]
  simp only [outside, Bool.and_false, Bool.false_and, Bool.false_eq_true, if_false]
  generalize listPieces _ _ rest = pieces
  cases pieces with
  | nil => exact ⟨[], [], rfl⟩
  | cons member others => exact ⟨member, others, rfl⟩

theorem splitParens?_cons {c : Char} (other : c ≠ ')') {rest inside behind : List Char}
    (found : splitParens? (c :: rest) = some (inside, behind)) : ∃ more, inside = c :: more := by
  obtain ⟨tail, front⟩ : ∃ tail, splitParens? (c :: rest) = inFront [c] tail := by
    by_cases opens : c = '('
    · subst opens
      exact ⟨_, splitClosing?_opening 0 rest⟩
    · exact ⟨_, splitClosing?_plain (fun _ => ⟨opens, other⟩) 0 rest⟩
  rw [front] at found
  obtain ⟨pair, -, same⟩ := Option.map_eq_some_iff.1 found
  exact ⟨pair.1, (congrArg Prod.fst same).symm⟩

/-- An annotation in front of a parameter changes nothing in what is read of the method. -/
theorem methodBehind?_annotated {used : AnnotationUse} {list gap : List Char} {c : Char}
    (start : ListStart list) (one : used.InOneParameter)
    (blank : ∀ b ∈ gap, Text.isBlank b = true) (begins : BeginsDeclaration c)
    (apart : ∀ rest, used.Apart (gap ++ c :: rest)) (head rest : List Char) :
    methodBehind? head (list ++ (used.text ++ (gap ++ c :: rest))) =
      methodBehind? head (list ++ c :: rest) := by
  obtain ⟨solid, others⟩ := begins
  simp only [List.mem_cons, not_or] at others
  obtain ⟨-, notClosing, -, -, -, notComma, -⟩ := others
  have round : Bracket.round ∈ groups := by decide
  refine methodBehind?_congr ?_ head
  rw [splitParens?_append round start.isBalanced, splitParens?_append round start.isBalanced,
    splitParens?_append round (AnnotationUse.isBalanced one.2),
    splitParens?_append round (.of_blank blank)]
  cases closed : splitParens? (c :: rest) with
  | none => rfl
  | some pair =>
    -- What the parentheses hold goes on where the parameter begins.
    obtain ⟨more, inside⟩ := splitParens?_cons notClosing closed
    obtain ⟨pieces, front, blanks, same⟩ := start.exists_members
    obtain ⟨member, others, first⟩ := exists_members_cons notComma more
    have plain : members (list ++ c :: more) = pieces ++ (front ++ c :: member) :: others := by
      rw [same, first, ontoFirst_cons]
    have annotated : members (list ++ (used.text ++ (gap ++ c :: more))) =
        pieces ++ (front ++ (used.text ++ (gap ++ c :: member))) :: others := by
      rw [same, members_annotated one.2, members_blank blank, first, ontoFirst_cons, ontoFirst_cons,
        ontoFirst_cons]
    simp only [inFront, Option.map_some, inside]
    rw [parameters_eq annotated plain]
    · exact Text.trim_ne_nil (c := '@') (by decide) (List.mem_append_right _ List.mem_cons_self)
    · exact Text.trim_ne_nil solid (List.mem_append_right _ List.mem_cons_self)
    · rw [parameter?_blank blanks, parameter?_annotated (apart member) one, parameter?_blank blank,
        parameter?_blank blanks]

/-! ## Statements -/

/-- Statements that the readers take for the same. -/
def Alike (statement other : List Char) : Prop :=
  field? statement = field? other ∧ method? statement = method? other

theorem Alike.rfl {statement : List Char} : Alike statement statement := ⟨.refl _, .refl _⟩

theorem filterMap_eq {α : Type} {read : List Char → Option α} {first second : List (List Char)}
    (alike : List.Forall₂ (fun statement other => read statement = read other) first second) :
    first.filterMap read = second.filterMap read := by
  induction alike with
  | nil => exact .refl _
  | cons same _ ih => rw [List.filterMap_cons, List.filterMap_cons, same, ih]

/-- Fields and methods are read from each statement on its own. -/
theorem typeOfBody_alike {body body' : List Char}
    (alike : List.Forall₂ Alike (statements body) (statements body')) (kind : ClassKind)
    (name header : List Char) :
    (typeOfBody kind name header body).fields = (typeOfBody kind name header body').fields ∧
      (typeOfBody kind name header body).methods =
        (typeOfBody kind name header body').methods := by
  have fields := filterMap_eq (alike.imp fun _ _ same => same.1)
  have methods := filterMap_eq (alike.imp fun _ _ same => same.2)
  have tails {first second : List (List Char)} (alike : List.Forall₂ Alike first second) :
      List.Forall₂ Alike first.tail second.tail := by
    cases alike with
    | nil => exact .nil
    | cons _ alike => exact alike
  have later := filterMap_eq ((tails alike).imp fun _ _ same => same.1)
  cases kind with
  | ordinary => exact ⟨fields, .refl _⟩
  | interface => exact ⟨.refl _, methods⟩
  | enumeration => exact ⟨later, .refl _⟩

section

variable {name header : List Char} {body body' first first' : List Char}
  {earlier others : List (List Char)}

theorem typeOfBody_congr (same : statements body = statements body') (kind : ClassKind)
    (name header : List Char) :
    typeOfBody kind name header body = typeOfBody kind name header body' := by
  simp only [typeOfBody, same]

variable (cut : statements body = earlier ++ first :: others)
  (cut' : statements body' = earlier ++ first' :: others)

include cut cut'

theorem typeOfBody_ordinary (same : field? first = field? first') :
    typeOfBody .ordinary name header body = typeOfBody .ordinary name header body' := by
  simp only [typeOfBody, cut, cut', List.filterMap_append, List.filterMap_cons, same]

theorem typeOfBody_interface (same : method? first = method? first') :
    typeOfBody .interface name header body = typeOfBody .interface name header body' := by
  simp only [typeOfBody, cut, cut', List.filterMap_append, List.filterMap_cons, same]

/-- The first statement of an enumeration declares its constants, the others are members. -/
theorem typeOfBody_enumeration (same : constants first = constants first')
    (later : earlier ≠ [] → field? first = field? first') :
    typeOfBody .enumeration name header body = typeOfBody .enumeration name header body' := by
  cases earlier with
  | nil => simp [typeOfBody, cut, cut', same]
  | cons statement earlier =>
    simp [typeOfBody, cut, cut', List.filterMap_cons, later (List.cons_ne_nil _ _)]

end

/-- Pieces as statements: trimmed, and without blank ones. -/
def nonblank (pieces : List (List Char)) : List (List Char) :=
  (pieces.map Text.trim).filter fun statement => !statement.isEmpty

/-- A statement behind whole members. -/
theorem statements_eq {before rest first gap : List Char} {pieces others : List (List Char)}
    (blank : ∀ c ∈ gap, Text.isBlank c = true)
    (whole : statementPieces .outside 0 (before ++ rest) =
      pieces ++ ontoFirst gap (statementPieces .outside 0 rest))
    (cut : statementPieces .outside 0 rest = first :: others) (solid : Text.trim first ≠ []) :
    statements (before ++ rest) = nonblank pieces ++ Text.trim first :: nonblank others := by
  simp [statements, nonblank, whole, cut, ontoFirst_cons, Text.trim_append_blank blank, solid]

/-- Bodies that differ in one statement, which the readers take for the same. -/
theorem statements_alike {before rest rest' first first' : List Char}
    {others : List (List Char)} (members : WholeMembers before)
    (pieces : statementPieces .outside 0 rest = first :: others)
    (pieces' : statementPieces .outside 0 rest' = first' :: others)
    (solid : Text.trim first ≠ []) (solid' : Text.trim first' ≠ [])
    (alike : Alike (Text.trim first) (Text.trim first')) :
    List.Forall₂ Alike (statements (before ++ rest)) (statements (before ++ rest')) := by
  obtain ⟨earlier, gap, blank, whole⟩ := exists_statementPieces_members members
  rw [statements_eq blank (whole rest) pieces solid, statements_eq blank (whole rest') pieces' solid']
  have unchanged (statements : List (List Char)) : List.Forall₂ Alike statements statements :=
    List.forall₂_same.2 fun statement _ => Alike.rfl
  exact List.rel_append (unchanged _) (.cons alike (unchanged _))

/-! ## Places -/

/-- The text of a body before an annotation in front of a member, or in front of a parameter of a
method. -/
inductive Place (used : AnnotationUse) : List Char → Prop
  | member {before : List Char} : WholeMembers before → Place used before
  | parameter {before signature list : List Char} : WholeMembers before → Signature signature →
      Unbroken list → ListStart list → used.InOneParameter →
      Place used (before ++ (signature ++ '(' :: list))

theorem exists_statementPieces_cons {c : Char} (begins : BeginsDeclaration c) (rest : List Char) :
    ∃ piece others, statementPieces .outside 0 (c :: rest) = (c :: piece) :: others := by
  obtain ⟨-, others⟩ := begins
  simp only [List.mem_cons, not_or] at others
  obtain ⟨-, -, opening, closing, semicolon, -⟩ := others
  rw [statementPieces_plain fun _ => ⟨opening, closing, fun same => absurd same semicolon⟩, keptAt,
    if_pos rfl, ontoFirst_singleton]
  cases statementPieces (Quoting.outside.next c) 0 rest with
  | nil => exact ⟨[], [], rfl⟩
  | cons piece others => exact ⟨piece, others, rfl⟩

section

variable {used : AnnotationUse} {gap : List Char} {c : Char}
  (blank : ∀ b ∈ gap, Text.isBlank b = true) (begins : BeginsDeclaration c)

include blank begins

/-- The annotation is in the same statement as what it stands in front of. -/
theorem exists_statementPieces_annotated (one : used.InOneStatement) (rest : List Char) :
    ∃ piece others, statementPieces .outside 0 (c :: rest) = (c :: piece) :: others ∧
      statementPieces .outside 0 (used.text ++ (gap ++ c :: rest)) =
        (used.text ++ (gap ++ c :: piece)) :: others := by
  obtain ⟨piece, others, pieces⟩ := exists_statementPieces_cons begins rest
  have unbroken : Unbroken (used.text ++ gap) :=
    (AnnotationUse.isUnbroken one).append (.of_blank blank)
  refine ⟨piece, others, pieces, ?_⟩
  rw [← List.append_assoc, statementPieces_unbroken unbroken, pieces, ontoFirst_cons,
    List.append_assoc]

variable (apart : ∀ rest, used.Apart (gap ++ c :: rest))

include apart

theorem alike_annotated_member (piece : List Char) :
    Alike (Text.trim (used.text ++ (gap ++ c :: piece))) (Text.trim (c :: piece)) := by
  obtain ⟨kept, trimmed⟩ := Text.exists_trimEnd_cons begins.1 piece
  have plain : Text.trim (c :: piece) = c :: kept := by
    have start : Text.trimStart (c :: piece) = c :: piece :=
      List.dropWhile_cons_of_neg (by simp [begins.1])
    rw [Text.trim, start]
    exact trimmed []
  have annotated : Text.trim (used.text ++ (gap ++ c :: piece)) =
      used.text ++ (gap ++ c :: kept) := by
    have start : Text.trimStart (used.text ++ (gap ++ c :: piece)) =
        used.text ++ (gap ++ c :: piece) := List.dropWhile_cons_of_neg (by decide)
    rw [Text.trim, start, ← List.append_assoc, trimmed, List.append_assoc]
  rw [plain, annotated]
  exact ⟨(field?_annotated (apart kept)).trans (field?_blank blank _),
    (method?_annotated (apart kept)).trans (method?_blank blank _)⟩

theorem alike_annotated_parameter {signature list : List Char} (written : Signature signature)
    (start : ListStart list) (one : used.InOneParameter) (piece : List Char) :
    Alike (Text.trim (signature ++ '(' :: list ++ (used.text ++ (gap ++ c :: piece))))
      (Text.trim (signature ++ '(' :: list ++ c :: piece)) := by
  obtain ⟨kept, trimmed⟩ := Text.exists_trimEnd_cons begins.1 piece
  obtain ⟨plain, isOne, trimStart⟩ := written.exists_trimStart
  have trim (more : List Char) : Text.trim (signature ++ '(' :: list ++ (more ++ c :: piece)) =
      plain ++ '(' :: (list ++ (more ++ c :: kept)) := by
    have first : signature ++ '(' :: list ++ (more ++ c :: piece) =
        signature ++ '(' :: (list ++ (more ++ c :: piece)) := by simp
    have last (tail : List Char) : plain ++ '(' :: (list ++ (more ++ c :: tail)) =
        (plain ++ '(' :: (list ++ more)) ++ c :: tail := by simp
    rw [first, Text.trim, trimStart, last, trimmed, ← last]
  have shorter := trim []
  have longer := trim (used.text ++ gap)
  simp only [List.nil_append, List.append_assoc] at shorter longer ⊢
  rw [shorter, longer]
  exact ⟨isOne.field?_eq _ _, isOne.method?_eq fun head =>
    methodBehind?_annotated start one blank begins apart head kept⟩

/-- An annotation in front of a member or a parameter leaves alike statements. -/
theorem statements_annotated {before : List Char} (place : Place used before)
    (one : used.InOneStatement) (rest : List Char) :
    List.Forall₂ Alike (statements (before ++ (used.text ++ (gap ++ c :: rest))))
      (statements (before ++ c :: rest)) := by
  obtain ⟨piece, others, plain, annotated⟩ :=
    exists_statementPieces_annotated blank begins one rest
  cases place with
  | member members =>
    exact statements_alike members annotated plain
      (Text.trim_ne_nil (c := '@') (by decide) List.mem_cons_self)
      (Text.trim_ne_nil begins.1 List.mem_cons_self)
      (alike_annotated_member blank begins apart piece)
  | @parameter before signature list members written inOne listStart oneParameter =>
    have front : Unbroken (signature ++ '(' :: list) :=
      written.unbroken.append (.char (by decide) (by decide) (by decide) (by decide) inOne)
    have cut {more behind : List Char} (same : statementPieces .outside 0 more = behind :: others) :
        statementPieces .outside 0 (signature ++ '(' :: list ++ more) =
          (signature ++ '(' :: list ++ behind) :: others := by
      rw [statementPieces_unbroken front, same, ontoFirst_cons]
    have solid (behind : List Char) : Text.trim (signature ++ '(' :: list ++ behind) ≠ [] :=
      Text.trim_ne_nil (c := '(') (by decide) (by simp)
    rw [List.append_assoc before, List.append_assoc before]
    exact statements_alike members (cut annotated) (cut plain) (solid _) (solid _)
      (alike_annotated_parameter blank begins apart written listStart oneParameter piece)

end

theorem AnnotationUse.apart_of_begins {used : AnnotationUse} {gap : List Char} {c : Char}
    (blank : ∀ b ∈ gap, Text.isBlank b = true) (begins : BeginsDeclaration c)
    (apart : used.arguments = none → gap ≠ [] ∨ isAnnotationChar c = false)
    (rest : List Char) : used.Apart (gap ++ c :: rest) := by
  intro bare
  obtain ⟨solid, others⟩ := begins
  simp only [List.mem_cons, not_or] at others
  constructor
  · intro d head
    cases gap with
    | nil =>
      cases head
      exact (apart bare).resolve_left (not_not_intro rfl)
    | cons b gap =>
      cases head
      exact isAnnotationChar_of_blank (blank _ List.mem_cons_self)
  · have start : Text.trimStart (c :: rest) = c :: rest :=
      List.dropWhile_cons_of_neg (by simp [solid])
    rw [Text.trimStart_append_blank blank, start]
    exact fun opens => others.1 (Option.some.inj opens)

/-- Annotations are transparent as long as they stay in one statement: in front of a member or of a
parameter they change neither the fields nor the methods of a type. -/
theorem annotation_transparent (kind : ClassKind) (name header rest : List Char)
    {used : AnnotationUse} {before gap : List Char} {c : Char}
    (place : Place used before) (one : used.InOneStatement)
    (blank : ∀ b ∈ gap, Text.isBlank b = true) (begins : BeginsDeclaration c)
    (apart : used.arguments = none → gap ≠ [] ∨ isAnnotationChar c = false) :
    let plain := typeOfBody kind name header (before ++ c :: rest)
    let annotated := typeOfBody kind name header
      (before ++ (used.text ++ (gap ++ c :: rest)))
    annotated.fields = plain.fields ∧ annotated.methods = plain.methods :=
  typeOfBody_alike (statements_annotated blank begins
    (AnnotationUse.apart_of_begins blank begins apart) place one rest) kind name header

/-- An annotation of a second parameter, with braces and a semicolon in a literal. -/
theorem message_transparent :
    let used : AnnotationUse :=
      ⟨"Size".toList, some ⟨[], "max = ".toList ++ '"' :: ("\x7d;\x7b".toList ++ ['"']), by simp,
        (Balanced.of_plain (by simp [isQuote, Bracket.opening, Bracket.closing])).append
          (.literal rfl (.of_plain (by simp)) .nil)⟩, List.all_eq_true.1 (by decide)⟩
    let first := "Map".toList ++ '<' :: ("K, V".toList ++ '>' :: " m".toList)
    let before := ("int a()".toList ++ [';']) ++ ("B find".toList ++ '(' :: (first ++ [',', ' ']))
    let plain := typeOfBody .interface "A".toList [] (before ++ "C c);".toList)
    let annotated := typeOfBody .interface "A".toList []
      (before ++ (used.text ++ ([' '] ++ "C c);".toList)))
    Place used before ∧ used.InOneStatement ∧ BeginsDeclaration 'C' ∧
      annotated.fields = plain.fields ∧ annotated.methods = plain.methods := by
  intro used first before plain annotated
  have others : WholeMembers ("int a()".toList ++ [';']) :=
    .statement (.of_plain (by simp [isQuote])) .nil
  have blank : ∀ b ∈ [' '], Text.isBlank b = true :=
    List.forall_mem_cons.2 ⟨by decide, List.forall_mem_nil _⟩
  have balanced : Balanced groups first := by
    refine (Balanced.of_plain ?_).append (.group .angle (by decide) (.of_plain ?_) (.of_plain ?_)) <;>
      simp [isQuote, groups, Bracket.opening, Bracket.closing]
  have signature : Signature "B find".toList := by
    repeat refine .char (by decide) (by decide) ?_
    exact .nil
  have one : used.InOneParameter := by
    refine ⟨by decide, fun arguments same => ?_⟩
    cases same
    refine ⟨?_, fun inside => ?_⟩
    · exact (Balanced.of_plain (by simp [isQuote, groups, Bracket.opening, Bracket.closing])).append
        (.literal rfl (.of_plain (by simp)) .nil)
    · exact absurd (inside.subset (List.mem_cons_self (a := '@'))) (by simp)
  have place : Place used before :=
    .parameter others signature (.of_plain (by simp [first, isQuote]))
      (.later balanced blank) one
  have unbroken : used.InOneStatement := fun arguments same => by
    cases same
    exact (Unbroken.of_plain (by simp [isQuote])).append (.literal rfl (.of_plain (by simp)) .nil)
  have begins : BeginsDeclaration 'C' := ⟨by decide, by decide⟩
  exact ⟨place, unbroken, begins, annotation_transparent .interface "A".toList []
    " c);".toList place unbroken blank begins (by rintro ⟨⟩)⟩

/-- Braces in the arguments end a statement inside of an annotation. -/
theorem array_argument_not_transparent :
    let inside := '{' :: '"' :: ("unchecked".toList ++ ['"', '}'])
    let used : AnnotationUse := ⟨"SuppressWarnings".toList, some ⟨[], inside, by simp,
      .char rfl (by decide) (.literal rfl (.of_plain (by simp)) (.char rfl (by decide) .nil))⟩,
      List.all_eq_true.1 (by decide)⟩
    let plain := typeOfBody .ordinary "A".toList [] "int x;".toList
    let annotated := typeOfBody .ordinary "A".toList []
      (used.text ++ ([' '] ++ "int x;".toList))
    Balanced [.round, .curly] inside ∧ plain.fields = [⟨"x", "int", false⟩] ∧
      annotated.fields = [⟨"x", ") int", false⟩] :=
  have literal : Balanced [.round, .curly] ('"' :: ("unchecked".toList ++ ['"'])) :=
    .literal rfl (.of_plain (by simp)) .nil
  ⟨.group .curly (by simp) literal .nil, by decide +kernel, by decide +kernel⟩

end SqlPreview.Source
