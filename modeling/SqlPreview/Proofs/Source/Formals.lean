import Mathlib
import SqlPreview.Proofs.Source.Parameters
import SqlPreview.Proofs.Source.TypeTexts
import SqlPreview.Proofs.Sql.Fragments

/-!
# Formal parameters

A formal parameter goes through the search for commas and the removal of annotations and of the word
`final` to the last white space, before which its type stands. Nothing of it is lost on the way but
the dimensions behind its name, which fields keep. With other white space than a space behind
`final`, the word is taken for a part of the type, and the parameter is dropped.

This file defines formal parameters as they are written (`Formal`).

Results:
1. `Formal.balanced`, `Formal.unbroken`, `Formal.members_eq`: every search goes over a formal
   parameter.
2. `Formal.parameter?_written`, `Formal.readChars?_typeRead`: what is read of it, and what type that
   is.
3. `parameters_formalList`: the parameters in a list.
-/

namespace SqlPreview.Source

/-! ## Formal parameters as they are written -/

/-- The name that an annotation gives to a parameter, and the white space behind the annotation. -/
structure Naming where
  name : List Char
  gap : List Char
  closed : Contents '"' name
  plain : '"' ∉ name
  blank : ∀ c ∈ gap, Text.isBlank c = true

/-- A formal parameter: perhaps a name that an annotation gives to it, perhaps `final` with white
space behind it, a type, a name and dimensions. -/
structure Formal where
  lead : List Char
  naming : Option Naming
  finalGap : Option (List Char)
  type : List Char
  meaning : TypeRef
  gap : List Char
  name : List Char
  dims : Nat
  trail : List Char
  blankLead : ∀ c ∈ lead, Text.isBlank c = true
  blankFinal : ∀ final ∈ finalGap, final ≠ [] ∧ ∀ c ∈ final, Text.isBlank c = true
  read : TypeRef.readChars? type = some meaning
  typed : ¬ "final ".toList <+: Text.trimStart type ++ gap
  apart : gap ≠ []
  blankGap : ∀ c ∈ gap, Text.isBlank c = true
  present : name ≠ []
  named : ∀ c ∈ name, TypeRef.isNameChar c = true
  blankTrail : ∀ c ∈ trail, Text.isBlank c = true

namespace Naming

/-- The annotation that gives the name. -/
def used (naming : Naming) : AnnotationUse where
  name := "Param".toList
  arguments := some
    { gap := []
      inside := '"' :: (naming.name ++ ['"'])
      blank := nofun
      closed := .literal rfl naming.closed .nil }
  named := List.all_eq_true.1 (by decide +kernel)

def text (naming : Naming) : List Char := naming.used.text ++ naming.gap

variable (naming : Naming)

theorem used_text_append (rest : List Char) : naming.used.text ++ rest =
    "@Param".toList ++ '(' :: ('"' :: (naming.name ++ ['"']) ++ ')' :: rest) := by
  simp [used, AnnotationUse.text, AnnotationUse.given]

theorem balanced_inside : Balanced groups ('"' :: (naming.name ++ ['"'])) :=
  .literal rfl naming.closed .nil

theorem plain_word : ∀ c ∈ "@Param".toList, isQuote c = false ∧
    (∀ kind ∈ groups, c ≠ kind.opening ∧ c ≠ kind.closing) ∧ c ≠ ',' := by
  simp [isQuote, groups, Bracket.opening, Bracket.closing]

theorem balanced : Balanced groups naming.text := by
  have word : Balanced groups "@Param".toList :=
    .of_plain fun c member => ⟨(plain_word c member).1, (plain_word c member).2.1⟩
  rw [text, used_text_append]
  exact word.append (.group .round (by decide) naming.balanced_inside (.of_blank naming.blank))

theorem unbroken : Unbroken naming.text := by
  have inOne : naming.used.InOneStatement := by
    rintro arguments ⟨⟩
    exact .literal rfl naming.closed .nil
  exact (AnnotationUse.isUnbroken inOne).append (.of_blank naming.blank)

theorem members_eq (rest : List Char) :
    members (naming.text ++ rest) = ontoFirst naming.text (members rest) := by
  have round : Bracket.round ∈ groups := by decide
  have group := listPieces_group round naming.balanced_inside 0 (naming.gap ++ rest)
  rw [text, List.append_assoc, used_text_append, members_plain plain_word]
  have step : members ('(' :: ('"' :: (naming.name ++ ['"']) ++ ')' :: (naming.gap ++ rest))) = _ :=
    group
  rw [step, ← members, members_blank naming.blank, ← ontoFirst_append, ← ontoFirst_append]
  rfl

theorem stripAnnotations_text (rest : List Char) :
    stripAnnotations (naming.text ++ rest) = naming.gap ++ stripAnnotations rest := by
  have apart : naming.used.Apart (naming.gap ++ rest) := by rintro ⟨⟩
  rw [text, List.append_assoc, stripAnnotations_annotated apart,
    stripAnnotations_append (not_mem_of_blank naming.blank (by decide))]

/-- The annotation gives its name, whatever is behind it. -/
theorem binding?_text (rest : List Char) :
    binding? (naming.text ++ rest) = some naming.name := by
  have word (tail : List Char) : Text.dropStart? "@Param".toList ("@Param".toList ++ tail) = some tail :=
    Text.dropStart?_eq_some.2 rfl
  have cut : Text.splitFirst? (· == '"') (naming.name ++ '"' :: ')' :: (naming.gap ++ rest)) =
      some (naming.name, ')' :: (naming.gap ++ rest)) :=
    Text.splitFirst?_eq_some.2 ⟨'"', rfl, fun c member => by
      rw [beq_eq_false_iff_ne]
      exact ne_of_mem_of_not_mem member naming.plain, rfl⟩
  have read : bindingHere? (naming.used.text ++ (naming.gap ++ rest)) =
      (Text.splitFirst? (· == '"') (naming.name ++ '"' :: ')' :: (naming.gap ++ rest))).bind fun pair =>
        (Text.dropStart? [')'] (Text.trimStart pair.2)).bind fun _ => some pair.1 := by
    rw [used_text_append, bindingHere?_eq, word, Option.bind_some, List.cons_append, List.append_assoc]
    rfl
  rw [cut] at read
  obtain ⟨more, same⟩ : ∃ more, naming.used.text ++ (naming.gap ++ rest) = '@' :: more := ⟨_, rfl⟩
  rw [text, List.append_assoc, same, binding?, ← same, read]
  rfl

end Naming

namespace Formal

/-- The name behind the type, and the dimensions behind the name. -/
def nameText (formal : Formal) : List Char := formal.name ++ TypeRef.brackets formal.dims

/-- What is written from the type on. -/
def typedText (formal : Formal) : List Char := formal.type ++ (formal.gap ++ formal.nameText)

/-- What is written behind the annotation. -/
def plainText (formal : Formal) : List Char :=
  match formal.finalGap with
  | some gap => "final".toList ++ (gap ++ formal.typedText)
  | none => formal.typedText

def namingText (formal : Formal) : List Char :=
  match formal.naming with
  | some naming => naming.text
  | none => []

def text (formal : Formal) : List Char :=
  formal.lead ++ (formal.namingText ++ (formal.plainText ++ formal.trail))

/-- The name that is given to the parameter. -/
def binding (formal : Formal) : Option String :=
  formal.naming.map fun naming => String.ofList naming.name

/-- The type that the parameter has, with the dimensions behind its name. -/
def declaredType (formal : Formal) : TypeRef :=
  { formal.meaning with dims := formal.meaning.dims + formal.dims }

/-- If there is the word `final`, a space is behind it. -/
def spaced (formal : Formal) : Bool := formal.finalGap.all fun gap => gap.head? == some ' '

/-- What is read as the type: without the space, the word `final` is a part of it. -/
def typeRead (formal : Formal) : List Char :=
  match formal.finalGap with
  | some gap =>
    if gap.head? = some ' ' then formal.type else "final".toList ++ (gap ++ formal.type)
  | none => formal.type

/-! ## Where a parameter ends -/

variable (formal : Formal)

theorem typeText_nameText : TypeText false formal.nameText := by
  refine (TypeText.of_name formal.named).append ?_
  induction formal.dims with
  | zero => exact .nil
  | succ dims ih =>
    rw [TypeRef.brackets_succ]
    exact @TypeText.group _ .square [] _ (by decide) .nil ih

theorem typeText_plainText : TypeText false (formal.plainText ++ formal.trail) := by
  have typed : TypeText false formal.typedText :=
    (TypeRef.typeText_of_readChars? formal.read).append
      ((TypeText.of_blank formal.blankGap).append formal.typeText_nameText)
  refine TypeText.append ?_ (.of_blank formal.blankTrail)
  unfold plainText
  cases final : formal.finalGap with
  | none => exact typed
  | some gap =>
    have word : TypeText false "final".toList := .of_name (List.all_eq_true.1 (by decide +kernel))
    exact word.append ((TypeText.of_blank (formal.blankFinal gap final).2).append typed)

theorem at_not_mem_plainText : '@' ∉ formal.plainText ++ formal.trail :=
  formal.typeText_plainText.not_mem (by decide) (by decide)

theorem balanced : Balanced groups formal.text := by
  refine (Balanced.of_blank formal.blankLead).append (.append ?_ formal.typeText_plainText.balanced)
  unfold namingText
  cases formal.naming with
  | none => exact .nil
  | some naming => exact naming.balanced

theorem unbroken : Unbroken formal.text := by
  refine (Unbroken.of_blank formal.blankLead).append (.append ?_ formal.typeText_plainText.unbroken)
  unfold namingText
  cases formal.naming with
  | none => exact .nil
  | some naming => exact naming.unbroken

/-- A formal parameter stays in one member of the list. -/
theorem members_eq (rest : List Char) :
    members (formal.text ++ rest) = ontoFirst formal.text (members rest) := by
  have naming (tail : List Char) :
      members (formal.namingText ++ tail) = ontoFirst formal.namingText (members tail) := by
    unfold namingText
    cases formal.naming with
    | none => rfl
    | some naming => exact naming.members_eq tail
  rw [text, List.append_assoc, List.append_assoc, members_blank formal.blankLead, naming,
    formal.typeText_plainText.members_eq]
  simp only [ontoFirst_append]

theorem trim_text_ne_nil : Text.trim formal.text ≠ [] := by
  obtain ⟨c, more, same⟩ := List.exists_cons_of_ne_nil formal.present
  have named : c ∈ formal.name := same ▸ List.mem_cons_self
  have inTyped : c ∈ formal.typedText := by simp [typedText, nameText, named]
  have inPlain : c ∈ formal.plainText := by
    unfold plainText
    cases formal.finalGap <;> simp [inTyped]
  exact Text.trim_ne_nil (TypeRef.isBlank_of_isNameChar (formal.named c named)) (by simp [text, inPlain])

/-! ## What is read of a parameter -/

theorem binding?_text : binding? formal.text = formal.naming.map Naming.name := by
  have none : binding? (formal.plainText ++ formal.trail) = none := by
    rw [← List.append_nil (_ ++ _), binding?_plain formal.at_not_mem_plainText]
    rfl
  rw [text, binding?_plain (not_mem_of_blank formal.blankLead (by decide)), namingText]
  cases formal.naming with
  | none => exact none
  | some naming => exact naming.binding?_text _

theorem exists_stripAnnotations : ∃ gap, (∀ c ∈ gap, Text.isBlank c = true) ∧
    stripAnnotations formal.text = gap ++ (formal.plainText ++ formal.trail) := by
  have plain : stripAnnotations (formal.plainText ++ formal.trail) =
      formal.plainText ++ formal.trail := by
    have strip := stripAnnotations_append formal.at_not_mem_plainText []
    rwa [List.append_nil, stripAnnotations, List.append_nil] at strip
  rw [text, stripAnnotations_append (not_mem_of_blank formal.blankLead (by decide)), namingText]
  cases formal.naming with
  | none => exact ⟨formal.lead, formal.blankLead, congrArg (formal.lead ++ ·) plain⟩
  | some naming =>
    refine ⟨formal.lead ++ naming.gap, List.forall_mem_append.2 ⟨formal.blankLead, naming.blank⟩, ?_⟩
    exact (congrArg (formal.lead ++ ·) (naming.stripAnnotations_text _)).trans (by simp [plain])

theorem solid_nameText : ∀ c ∈ formal.nameText, Text.isBlank c = false := by
  refine List.forall_mem_append.2 ⟨fun c member => TypeRef.isBlank_of_isNameChar (formal.named c member), ?_⟩
  induction formal.dims with
  | zero => nofun
  | succ dims ih =>
    rw [TypeRef.brackets_succ]
    exact List.forall_mem_cons.2 ⟨by decide, List.forall_mem_cons.2 ⟨by decide, ih⟩⟩

theorem trimStart_type_ne_nil : Text.trimStart formal.type ≠ [] := by
  obtain ⟨taken, read, -⟩ := TypeRef.type?_of_readChars? formal.read
  obtain ⟨c, rest, first, -⟩ := TypeRef.exists_cons_of_type? read
  intro empty
  rw [Text.trim, empty] at first
  cases first

/-- Trimming stops at the name, and at what is before the white space in front of it. -/
theorem trim_named (front : List Char) {trail : List Char} (solid : Text.trimStart front ≠ [])
    (blank : ∀ c ∈ trail, Text.isBlank c = true) :
    Text.trim (front ++ (formal.gap ++ formal.nameText) ++ trail) =
      Text.trimStart front ++ (formal.gap ++ formal.nameText) := by
  have ends : Text.StartsSolid (Text.trimStart front ++ (formal.gap ++ formal.nameText)).reverse := by
    intro c head
    obtain ⟨last, others, same⟩ := List.exists_cons_of_ne_nil
      (List.reverse_ne_nil_iff.2 (List.append_ne_nil_of_left_ne_nil formal.present _))
    rw [List.reverse_append, List.reverse_append, List.append_assoc, nameText, same] at head
    cases head
    exact formal.solid_nameText c (List.mem_reverse.1 (by rw [nameText, same]; exact List.mem_cons_self))
  rw [Text.trim_append_blank_end _ blank, Text.trim, Text.trimStart_append solid,
    Text.trimEnd_eq_self ends]

/-- The type is not the word `final`. -/
theorem not_final_prefix :
    ¬ "final ".toList <+: Text.trimStart formal.type ++ (formal.gap ++ formal.nameText) := by
  intro starts
  rw [← List.append_assoc] at starts
  obtain shorter | within := List.prefix_or_prefix_of_prefix starts
    (List.prefix_append (Text.trimStart formal.type ++ formal.gap) formal.nameText)
  · exact formal.typed shorter
  · -- White space stands only at the end of the word.
    have whole : ∀ start ∈ "final ".toList.inits,
        start.getLast?.any Text.isBlank = true → start = "final ".toList := by decide +kernel
    have last := formal.blankGap _ (List.getLast_mem formal.apart)
    have same := whole _ ((List.mem_inits _ _).2 within) (by
      rw [List.getLast?_append_of_ne_nil _ formal.apart, List.getLast?_eq_some_getLast formal.apart]
      exact last)
    exact formal.typed (same ▸ List.prefix_rfl)

end Formal

theorem afterFinal_word (rest : List Char) :
    afterFinal ("final ".toList ++ rest) = afterFinal rest := by
  have word : Text.dropStart? "final ".toList ("final ".toList ++ rest) = some rest :=
    Text.dropStart?_eq_some.2 rfl
  rw [afterFinal]
  split
  · next found =>
    rw [word] at found
    cases found
    rfl
  · next none =>
    rw [word] at none
    cases none

theorem afterFinal_of_not {text : List Char} (other : ¬ "final ".toList <+: text) :
    afterFinal text = text := by
  rw [afterFinal]
  split
  · next rest found => exact absurd ⟨rest, (Text.dropStart?_eq_some.1 found).symm⟩ other
  · rfl

namespace Formal

variable (formal : Formal)

theorem trim_named_self {front : List Char} (start : Text.StartsSolid front) (present : front ≠ []) :
    Text.trim (front ++ (formal.gap ++ formal.nameText)) =
      front ++ (formal.gap ++ formal.nameText) := by
  have trimmed := formal.trim_named front (by rwa [start.trimStart_eq])
    (nofun : ∀ c ∈ [], Text.isBlank c = true)
  rwa [List.append_nil, start.trimStart_eq] at trimmed

/-- With a space behind it, the word is left out. -/
theorem trim_afterFinal_space {more : List Char} (blank : ∀ c ∈ more, Text.isBlank c = true) :
    Text.trim (afterFinal ("final ".toList ++
        (more ++ (formal.type ++ (formal.gap ++ formal.nameText))))) =
      Text.trimStart formal.type ++ (formal.gap ++ formal.nameText) := by
  have exposed : Text.trimStart (more ++ (formal.type ++ (formal.gap ++ formal.nameText))) =
      Text.trimStart formal.type ++ (formal.gap ++ formal.nameText) := by
    rw [Text.trimStart_append_blank blank, Text.trimStart_append formal.trimStart_type_ne_nil]
  have other : ¬ "final ".toList <+: more ++ (formal.type ++ (formal.gap ++ formal.nameText)) := by
    rintro ⟨rest, same⟩
    have start : Text.StartsSolid (more ++ (formal.type ++ (formal.gap ++ formal.nameText))) := by
      rw [← same]
      rintro c ⟨⟩
      decide
    rw [start.trimStart_eq] at exposed
    exact formal.not_final_prefix ⟨rest, same.trans exposed⟩
  have typed := formal.trim_named _ formal.trimStart_type_ne_nil
    (nofun : ∀ c ∈ [], Text.isBlank c = true)
  rw [List.append_nil] at typed
  rw [afterFinal_word, afterFinal_of_not other, Text.trim_append_blank blank, typed]

/-- What is left of a parameter without its annotation and its modifier. -/
theorem trim_afterFinal :
    Text.trim (afterFinal (Text.trim (stripAnnotations formal.text))) =
      Text.trimStart formal.typeRead ++ (formal.gap ++ formal.nameText) := by
  obtain ⟨gap, blank, strip⟩ := formal.exists_stripAnnotations
  rw [strip, Text.trim_append_blank blank]
  unfold plainText typeRead
  cases final : formal.finalGap with
  | none =>
    simp only [typedText]
    rw [formal.trim_named _ formal.trimStart_type_ne_nil formal.blankTrail,
      afterFinal_of_not formal.not_final_prefix,
      formal.trim_named_self (Text.startsSolid_trimStart _) formal.trimStart_type_ne_nil]
  | some gap =>
    obtain ⟨nonempty, blank⟩ := formal.blankFinal gap final
    obtain ⟨c, more, rfl⟩ := List.exists_cons_of_ne_nil nonempty
    have start : Text.StartsSolid ("final".toList ++ (c :: more ++ formal.type)) := by
      rintro d ⟨⟩
      decide
    have present : "final".toList ++ (c :: more ++ formal.type) ≠ [] := List.cons_ne_nil _ _
    have shape : "final".toList ++ (c :: more ++ formal.typedText) ++ formal.trail =
        "final".toList ++ (c :: more ++ formal.type) ++ (formal.gap ++ formal.nameText) ++
          formal.trail := by simp [typedText]
    simp only [List.head?_cons, Option.some.injEq]
    rw [shape, formal.trim_named _ (by rwa [start.trimStart_eq]) formal.blankTrail, start.trimStart_eq]
    by_cases space : c = ' '
    · subst space
      have behind : "final".toList ++ (' ' :: more ++ formal.type) ++ (formal.gap ++ formal.nameText) =
          "final ".toList ++ (more ++ (formal.type ++ (formal.gap ++ formal.nameText))) := by simp
      rw [if_pos rfl, behind]
      exact formal.trim_afterFinal_space (List.forall_mem_cons.1 blank).2
    · have other : ¬ "final ".toList <+:
          "final".toList ++ (c :: more ++ formal.type) ++ (formal.gap ++ formal.nameText) := by
        rintro ⟨rest, same⟩
        have next : ' ' :: rest = c :: (more ++ formal.type ++ (formal.gap ++ formal.nameText)) := by
          simpa using same
        exact space (List.head_eq_of_cons_eq next).symm
      rw [if_neg space, afterFinal_of_not other, formal.trim_named_self start present,
        start.trimStart_eq]

theorem readChars?_typeRead :
    TypeRef.readChars? formal.typeRead = if formal.spaced then some formal.meaning else none := by
  unfold typeRead spaced
  cases final : formal.finalGap with
  | none => exact formal.read
  | some gap =>
    obtain ⟨nonempty, blank⟩ := formal.blankFinal gap final
    simp only [Option.all_some, beq_iff_eq]
    split
    · exact formal.read
    · have word : TypeRef.IsTypeName "final".toList :=
        ⟨by decide, List.all_eq_true.1 (by decide +kernel), by decide⟩
      exact TypeRef.readChars?_behind_word word blank nonempty formal.read

/-- What is read of a formal parameter. -/
theorem parameter?_written : parameter? formal.text =
    some ⟨formal.binding, String.ofList (Text.trim formal.typeRead)⟩ := by
  obtain ⟨init, last, gap⟩ : ∃ init last, formal.gap = init ++ [last] :=
    ⟨_, _, (List.dropLast_append_getLast formal.apart).symm⟩
  have blank := formal.blankGap
  rw [gap] at blank
  obtain ⟨blankInit, blankLast⟩ := List.forall_mem_append.1 blank
  have shape : Text.trimStart formal.typeRead ++ (formal.gap ++ formal.nameText) =
      (Text.trimStart formal.typeRead ++ init) ++ last :: formal.nameText := by
    rw [gap]
    simp
  have cut := Text.splitLast?_append (blankLast last List.mem_cons_self)
    (Text.trimStart formal.typeRead ++ init) formal.solid_nameText
  have trimmed : Text.trim (Text.trimStart formal.typeRead ++ init) = Text.trim formal.typeRead := by
    rw [Text.trim_append_blank_end _ blankInit, Text.trim, Text.trim,
      (Text.startsSolid_trimStart _).trimStart_eq]
  rw [parameter?, trim_afterFinal, shape, cut, binding?_text, binding]
  simp only [Option.bind_eq_bind, Option.bind_some, Text.trimmed, String.toList_ofList, trimmed,
    Option.map_map]
  rfl

end Formal

/-! ## Lists of formal parameters -/

/-- The list of some formal parameters. -/
def formalList (formals : List Formal) : List Char :=
  Text.joined [','] (formals.map Formal.text)

theorem formalList_cons (formal next : Formal) (formals : List Formal) :
    formalList (formal :: next :: formals) = formal.text ++ ',' :: formalList (next :: formals) := by
  have step : formalList (formal :: next :: formals) =
      formal.text ++ [','] ++ formalList (next :: formals) := rfl
  rw [step, List.append_assoc, List.singleton_append]

theorem balanced_formalList (formals : List Formal) : Balanced groups (formalList formals) := by
  induction formals with
  | nil => exact .nil
  | cons formal formals ih =>
    cases formals with
    | nil => exact formal.balanced
    | cons next formals =>
      rw [formalList_cons]
      exact formal.balanced.append (.char (by decide) (by decide) ih)

theorem unbroken_formalList (formals : List Formal) : Unbroken (formalList formals) := by
  induction formals with
  | nil => exact .nil
  | cons formal formals ih =>
    cases formals with
    | nil => exact formal.unbroken
    | cons next formals =>
      rw [formalList_cons]
      exact formal.unbroken.append (.char (by decide) (by decide) (by decide) (by decide) ih)

theorem members_formalList (formal : Formal) (formals : List Formal) :
    members (formalList (formal :: formals)) = (formal :: formals).map Formal.text := by
  induction formals generalizing formal with
  | nil =>
    have one := formal.members_eq []
    have last : members [] = [[]] := rfl
    rw [List.append_nil, last, ontoFirst_cons, List.append_nil] at one
    exact one
  | cons next formals ih =>
    have comma : members (',' :: formalList (next :: formals)) =
        [] :: members (formalList (next :: formals)) := rfl
    rw [formalList_cons, formal.members_eq, comma, ontoFirst_cons, List.append_nil, ih next]
    rfl

/-- The parameters in a list are those of its formal parameters. -/
theorem parameters_formalList (formals : List Formal) : parameters (formalList formals) =
    formals.map fun formal => ⟨formal.binding, String.ofList (Text.trim formal.typeRead)⟩ := by
  cases formals with
  | nil => rfl
  | cons formal formals =>
    have kept : ((formal :: formals).map Formal.text).filter (fun member =>
        !(Text.trim member).isEmpty) = (formal :: formals).map Formal.text := by
      refine List.filter_eq_self.2 fun member inside => ?_
      obtain ⟨used, -, rfl⟩ := List.mem_map.1 inside
      simp [used.trim_text_ne_nil]
    rw [parameters, members_formalList, kept, List.filterMap_map, ← List.filterMap_eq_map]
    exact List.filterMap_congr fun used _ => used.parameter?_written

end SqlPreview.Source
