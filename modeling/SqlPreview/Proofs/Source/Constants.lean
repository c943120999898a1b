import Mathlib
import SqlPreview.Proofs.Params.Coercion
import SqlPreview.Proofs.Source.Blocks
import SqlPreview.Source.Index

/-!
# Constants of enumerations

The constants of an enumeration are read from the first statement of its body, and a statement ends
at every brace. So they are recovered up to the first one that has a brace in it: one with a class
body, or with a block in its arguments. Up to there every constant is recovered, as long as the
search for commas, which takes angle brackets for brackets, is back outside of all brackets behind
each of them.

This file defines constants as they are written (`ConstantUse`), the texts that a list is not split
in (`isOneMember`), and the constants that stay in one piece (`Kept`) or end the statement (`Cut`).

Results:
1. `listPieces_oneMember`: a list is not split in such a text.
2. `Undivided.scan_eq`, `Kept.of_undivided`: nor is it where commas stand only inside of brackets.
3. `constantName?_written`: the name of a constant is recovered from its text.
4. `constants_until_cut`: the constants of an enumeration, and the texts that are read as them.
5. `constants_behind_cut_lost`: constants that are not recovered.
-/

namespace SqlPreview.Source

/-! ## Constants as they are written -/

/-- The body of a constant, and the white space before its braces. -/
structure ConstantBody where
  gap : List Char
  inside : List Char
  blank : ∀ c ∈ gap, Text.isBlank c = true
  closed : Balanced [.curly] inside

/-- A constant in the list of an enumeration: annotations, a name, and perhaps arguments and a body,
with white space around each of them. -/
structure ConstantUse where
  lead : List Char
  first : Char
  more : List Char
  arguments : Option Arguments
  body : Option ConstantBody
  gap : List Char
  annotated : Annotations first lead
  begins : Text.isIdentStart first = true
  named : ∀ c ∈ more, isNameChar c = true
  blank : ∀ c ∈ gap, Text.isBlank c = true

namespace ConstantUse

def nameChars (used : ConstantUse) : List Char := used.first :: used.more

def name (used : ConstantUse) : String := String.ofList used.nameChars

/-- The text of a constant behind its name. -/
def given (used : ConstantUse) : List Char :=
  (match used.arguments with
    | some arguments => arguments.gap ++ '(' :: (arguments.inside ++ [')'])
    | none => []) ++
  ((match used.body with
    | some body => body.gap ++ '{' :: (body.inside ++ ['}'])
    | none => []) ++ used.gap)

def text (used : ConstantUse) : List Char := used.lead ++ (used.nameChars ++ used.given)

end ConstantUse

/-- The list of some constants. -/
def constantList (uses : List ConstantUse) : List Char :=
  Text.joined [','] (uses.map ConstantUse.text)

/-! ## Lists -/

/-- Where the search for commas is behind a text. -/
def groupsAfter (cursor : Cursor) (text : List Char) : Cursor :=
  cursor.after opensGroup closesGroup text

/-- No comma of a text separates members of a list. -/
def isOneMember (cursor : Cursor) : List Char → Bool
  | [] => true
  | c :: rest =>
    !(c == ',' && cursor == .start) && isOneMember (cursor.next opensGroup closesGroup c) rest

theorem isOneMember_of_append {cursor : Cursor} {text more : List Char}
    (one : isOneMember cursor (text ++ more) = true) : isOneMember cursor text = true := by
  induction text generalizing cursor with
  | nil => rfl
  | cons c text ih =>
    rw [List.cons_append, isOneMember, Bool.and_eq_true] at one
    rw [isOneMember, one.1, ih one.2]
    rfl

/-- A list is not split in such a text. -/
theorem listPieces_oneMember {cursor : Cursor} {text : List Char}
    (one : isOneMember cursor text = true) (rest : List Char) :
    listPieces cursor.quoting cursor.depth (text ++ rest) =
      ontoFirst text (listPieces (groupsAfter cursor text).quoting
        (groupsAfter cursor text).depth rest) := by
  induction text generalizing cursor with
  | nil => rfl
  | cons c text ih =>
    rw [isOneMember, Bool.and_eq_true] at one
    obtain ⟨whole, one⟩ := one
    have goesOn : ¬ (cursor.quoting.isOutside && c == ',' && decide (cursor.depth = 0)) = true := by
      intro splits
      obtain ⟨quoting, depth⟩ := cursor
      cases quoting with
      | inside quote escaped => simp [Quoting.isOutside] at splits
      | outside => simp_all [Cursor.start, Quoting.isOutside]
    rw [List.cons_append, listPieces, if_neg goesOn]
    exact congrArg (consFirst c) (ih one)

/-- Literals are closed, and commas stand only inside of brackets that match. -/
inductive Undivided : List Char → Prop
  | nil : Undivided []
  | char {c : Char} {rest : List Char} :
      isQuote c = false → (∀ kind ∈ groups, c ≠ kind.opening ∧ c ≠ kind.closing) → c ≠ ',' →
      Undivided rest → Undivided (c :: rest)
  | literal {quote : Char} {contents rest : List Char} :
      isQuote quote = true → Contents quote contents → Undivided rest →
      Undivided (quote :: (contents ++ quote :: rest))
  | group {inside rest : List Char} (kind : Bracket) : kind ∈ groups → Balanced groups inside →
      Undivided rest → Undivided (kind.opening :: (inside ++ kind.closing :: rest))

section

variable {β : Type} {scan : Cursor → List Char → β}
  (goesOn : ∀ cursor c rest, (c = ',' → cursor ≠ .start) →
    scan cursor (c :: rest) = scan (cursor.next opensGroup closesGroup c) rest)

include goesOn

/-- A scan that only looks at commas goes over literals. -/
theorem keepsLiterals_of_goesOn (depth : Nat) :
    KeepsLiterals (fun quoting => scan ⟨quoting, depth⟩) fun _ behind => behind where
  joins _ _ _ := rfl
  begins {quote} isOne rest := by
    have notOpening : opensGroup quote = false := eq_false_of_quote isOne rfl rfl
    have notClosing : closesGroup quote = false := eq_false_of_quote isOne rfl rfl
    rw [goesOn _ _ _ fun same => absurd same (ne_of_class isOne rfl), Cursor.next, notOpening,
      notClosing, Quoting.next_quote isOne]
    rfl
  goesOn quote escaped c rest := by
    rw [goesOn _ _ _ fun _ => by simp [Cursor.start]]
    rfl

theorem scan_plain {c : Char} (plain : isQuote c = false)
    (other : ∀ kind ∈ groups, c ≠ kind.opening ∧ c ≠ kind.closing) {depth : Nat}
    (inner : c = ',' → depth ≠ 0) (rest : List Char) :
    scan ⟨.outside, depth⟩ (c :: rest) = scan ⟨.outside, depth⟩ rest := by
  rw [goesOn _ _ _ fun same start => inner same (congrArg Cursor.depth start), Cursor.next,
    opensGroup_eq_false other, closesGroup_eq_false other, Quoting.next_plain plain]
  rfl

theorem scan_opening {kind : Bracket} (one : kind ∈ groups) (depth : Nat) (rest : List Char) :
    scan ⟨.outside, depth⟩ (kind.opening :: rest) = scan ⟨.outside, depth + 1⟩ rest := by
  cases kind with
  | curly => exact absurd one (by decide)
  | round | square | angle => exact goesOn _ _ _ (absurd · (by decide))

theorem scan_closing {kind : Bracket} (one : kind ∈ groups) (depth : Nat) (rest : List Char) :
    scan ⟨.outside, depth + 1⟩ (kind.closing :: rest) = scan ⟨.outside, depth⟩ rest := by
  cases kind with
  | curly => exact absurd one (by decide)
  | round | square | angle => exact goesOn _ _ _ (absurd · (by decide))

theorem scan_balanced {text : List Char} (balanced : Balanced groups text) (depth : Nat)
    (rest : List Char) :
    scan ⟨.outside, depth + 1⟩ (text ++ rest) = scan ⟨.outside, depth + 1⟩ rest := by
  induction balanced generalizing depth rest with
  | nil => rfl
  | char plain other _ ih =>
    rw [List.cons_append, scan_plain goesOn plain other fun _ => Nat.succ_ne_zero depth, ih]
  | literal isOne written _ ih =>
    rw [List.cons_append, List.append_assoc, List.cons_append,
      (keepsLiterals_of_goesOn goesOn (depth + 1)).literal_eq isOne written, ih]
  | group kind one _ _ ihInside ihBehind =>
    rw [List.cons_append, List.append_assoc, List.cons_append, scan_opening goesOn one, ihInside,
      scan_closing goesOn one, ihBehind]

/-- It goes over a text in which commas stand only inside of brackets. -/
theorem Undivided.scan_eq {text : List Char} (undivided : Undivided text) (rest : List Char) :
    scan .start (text ++ rest) = scan .start rest := by
  induction undivided with
  | nil => rfl
  | char plain other notComma _ ih =>
    exact (scan_plain goesOn plain other (fun same => absurd same notComma) _).trans ih
  | literal isOne written _ ih =>
    rw [List.cons_append, List.append_assoc, List.cons_append, ← ih]
    exact (keepsLiterals_of_goesOn goesOn 0).literal_eq isOne written _
  | group kind one inside _ ih =>
    rw [List.cons_append, List.append_assoc, List.cons_append, ← ih]
    exact (scan_opening goesOn one 0 _).trans
      ((scan_balanced goesOn inside 0 _).trans (scan_closing goesOn one 0 _))

end

namespace Undivided

variable {text : List Char} (undivided : Undivided text)

include undivided

theorem isOneMember : isOneMember .start text = true := by
  have goesOn (cursor : Cursor) (c : Char) (rest : List Char) (inner : c = ',' → cursor ≠ .start) :
      Source.isOneMember cursor (c :: rest) =
        Source.isOneMember (cursor.next opensGroup closesGroup c) rest := by
    have kept : (c == ',' && cursor == .start) = false := by
      rw [Bool.and_eq_false_imp]
      exact fun comma => beq_eq_false_iff_ne.2 (inner (eq_of_beq comma))
    rw [Source.isOneMember, kept]
    rfl
  have past := undivided.scan_eq goesOn []
  rwa [List.append_nil] at past

theorem groupsAfter_eq : groupsAfter .start text = .start := by
  have goesOn (cursor : Cursor) (c : Char) (rest : List Char) (_ : c = ',' → cursor ≠ .start) :
      groupsAfter cursor (c :: rest) =
        groupsAfter (cursor.next opensGroup closesGroup c) rest := rfl
  have past := undivided.scan_eq goesOn []
  rwa [List.append_nil] at past

end Undivided

/-! ## Names -/

theorem isBlank_of_isNameChar {c : Char} (named : isNameChar c = true) :
    Text.isBlank c = false := Text.isBlank_of_apart (by decide +kernel) named

theorem isNameChar_of_identStart {c : Char} (begins : Text.isIdentStart c = true) :
    isNameChar c = true := by
  simp only [Text.isIdentStart, Bool.or_eq_true, beq_iff_eq] at begins
  obtain (letter | rfl) | rfl := begins
  · have ascii : c.toNat < 128 := by
      have bounds := letter
      simp only [Text.isAsciiLetter, Bool.or_eq_true, Bool.and_eq_true, decide_eq_true_eq] at bounds
      obtain ⟨-, high⟩ | ⟨-, high⟩ := bounds
      · exact Nat.lt_of_le_of_lt (high : c.toNat ≤ 122) (by decide)
      · exact Nat.lt_of_le_of_lt (high : c.toNat ≤ 90) (by decide)
    simp [isNameChar, Text.isWordChar, ascii, letter]
  · decide
  · decide

/-- Trimming the end stops at a text that ends without white space. -/
theorem exists_trimEnd_append {text : List Char} (present : text ≠ [])
    (ends : Text.StartsSolid text.reverse) (rest : List Char) :
    ∃ kept, kept <+: rest ∧ ∀ before,
      Text.trimEnd (before ++ (text ++ rest)) = before ++ (text ++ kept) := by
  by_cases blank : Text.trimEnd rest = []
  · obtain ⟨gap, blanks, same⟩ := Text.exists_trimEnd rest
    rw [blank, List.nil_append] at same
    have trimmed : Text.trimEnd (text ++ rest) = text := by
      rw [same, Text.trimEnd_append_blank text blanks, Text.trimEnd_eq_self ends]
    refine ⟨[], List.nil_prefix, fun before => ?_⟩
    rw [Text.trimEnd_append before (by rwa [trimmed]), trimmed, List.append_nil]
  · have trimmed := Text.trimEnd_append text blank
    refine ⟨Text.trimEnd rest, Text.trimEnd_isPrefix rest, fun before => ?_⟩
    rw [Text.trimEnd_append before (by simp [trimmed, present]), trimmed]

/-- A text at which a name ends, also when its annotations are left out. -/
def EndsName (rest : List Char) : Prop :=
  ∀ c, rest.head? = some c → isNameChar c = false ∧ c ≠ '@'

theorem endsName_nil : EndsName [] := nofun

theorem endsName_cons {c : Char} (other : isNameChar c = false) (notAt : c ≠ '@')
    (rest : List Char) : EndsName (c :: rest) := by
  rintro d ⟨⟩
  exact ⟨other, notAt⟩

namespace EndsName

variable {rest : List Char} (ends : EndsName rest)

include ends

theorem of_prefix {kept : List Char} (before : kept <+: rest) : EndsName kept := by
  obtain ⟨more, rfl⟩ := before
  intro c head
  exact ends c (by rw [List.head?_append, head]; rfl)

theorem blank_append {gap : List Char} (blank : ∀ c ∈ gap, Text.isBlank c = true) :
    EndsName (gap ++ rest) := by
  cases gap with
  | nil => exact ends
  | cons b gap =>
    have isBlank := blank b List.mem_cons_self
    refine endsName_cons (Bool.eq_false_of_not_eq_true fun named => ?_)
      (ne_of_class isBlank (by decide)) _
    rw [isBlank_of_isNameChar named] at isBlank
    cases isBlank

theorem strip : EndsName (stripAnnotations rest) := by
  cases rest with
  | nil => rwa [stripAnnotations]
  | cons c rest =>
    obtain ⟨other, notAt⟩ := ends c rfl
    rw [stripAnnotations_cons notAt]
    exact endsName_cons other notAt _

end EndsName

namespace ConstantUse

variable (used : ConstantUse)

theorem nameChars_each : ∀ c ∈ used.nameChars, isNameChar c = true :=
  List.forall_mem_cons.2 ⟨isNameChar_of_identStart used.begins, used.named⟩

theorem isBlank_first : Text.isBlank used.first = false :=
  isBlank_of_isNameChar (used.nameChars_each _ List.mem_cons_self)

theorem startsSolid_reverse_nameChars : Text.StartsSolid used.nameChars.reverse := by
  intro c head
  exact isBlank_of_isNameChar
    (used.nameChars_each c (List.mem_reverse.1 (List.mem_of_mem_head? head)))

/-- Behind the name a constant goes on with white space, a parenthesis or a brace. -/
theorem endsName_given : EndsName used.given := by
  obtain ⟨lead, first, more, arguments, body, gap, annotated, begins, named, blank⟩ := used
  cases arguments with
  | some arguments =>
    rw [given, List.append_assoc, List.cons_append]
    exact (endsName_cons (by decide) (by decide) _).blank_append arguments.blank
  | none =>
    cases body with
    | some body =>
      rw [given, List.nil_append, List.append_assoc, List.cons_append]
      exact (endsName_cons (by decide) (by decide) _).blank_append body.blank
    | none =>
      have ends := endsName_nil.blank_append blank
      rwa [List.append_nil] at ends

/-- The name of a constant is recovered from its text up to any place behind the name. -/
theorem constantName?_written {rest : List Char} (ends : EndsName rest) :
    constantName? (used.lead ++ (used.nameChars ++ rest)) = some used.name := by
  obtain ⟨gap, blank, strip⟩ := used.annotated.exists_stripAnnotations used.isBlank_first
  have plain : '@' ∉ used.nameChars := fun member =>
    ne_of_class (used.nameChars_each _ member) (by decide) rfl
  obtain ⟨kept, before, trimEnd⟩ := exists_trimEnd_append (List.cons_ne_nil used.first used.more)
    used.startsSolid_reverse_nameChars (stripAnnotations rest)
  have trimStart : Text.trimStart (used.nameChars ++ stripAnnotations rest) =
      used.nameChars ++ stripAnnotations rest :=
    List.dropWhile_cons_of_neg (by simp [used.isBlank_first])
  have trimmed : Text.trim (stripAnnotations (used.lead ++ (used.nameChars ++ rest))) =
      used.first :: (used.more ++ kept) := by
    have stripped : stripAnnotations (used.lead ++ (used.nameChars ++ rest)) =
        gap ++ stripAnnotations (used.nameChars ++ rest) := strip (used.more ++ rest)
    rw [stripped, Text.trim_append_blank blank, stripAnnotations_append plain, Text.trim, trimStart]
    exact trimEnd []
  have word : (used.more ++ kept).takeWhile isNameChar = used.more := by
    rw [List.takeWhile_append_of_pos used.named]
    have stops := ends.strip.of_prefix before
    cases kept with
    | nil => simp
    | cons c kept => rw [List.takeWhile_cons_of_neg (by simp [(stops c rfl).1]), List.append_nil]
  rw [constantName?, trimmed, name?, if_pos used.begins]
  simp only [Option.map_some, word]
  rfl

end ConstantUse

/-! ## Enumerations -/

namespace ConstantUse

/-- A constant that stays in one statement and in one member of the list. -/
structure Whole (used : ConstantUse) : Prop where
  unbroken : Unbroken used.text
  oneMember : isOneMember .start used.text = true

/-- Behind the constant all brackets are closed, so that the comma behind it separates it from the
next one. -/
structure Kept (used : ConstantUse) : Prop extends used.Whole where
  closed : groupsAfter .start used.text = .start

/-- A constant with a brace behind its name. Up to the brace it stays in one member. -/
def Cut (used : ConstantUse) : Prop :=
  ∃ plain behind, used.given = plain ++ '{' :: behind ∧
    Unbroken (used.lead ++ (used.nameChars ++ plain)) ∧
    isOneMember .start (used.lead ++ (used.nameChars ++ plain)) = true

/-- A constant without braces whose commas stand only inside of brackets that match is kept. -/
theorem Kept.of_undivided {used : ConstantUse} (unbroken : Unbroken used.text)
    (undivided : Undivided used.text) : used.Kept where
  unbroken := unbroken
  oneMember := undivided.isOneMember
  closed := undivided.groupsAfter_eq

theorem Kept.members_eq {used : ConstantUse} (kept : used.Kept) (rest : List Char) :
    members (used.text ++ ',' :: rest) = used.text :: members rest := by
  have ends : listPieces .outside 0 (',' :: rest) = [] :: listPieces .outside 0 rest := rfl
  have one := listPieces_oneMember kept.oneMember (',' :: rest)
  rw [kept.closed] at one
  refine one.trans ?_
  rw [Cursor.start, ends, ontoFirst_cons, List.append_nil]
  rfl

end ConstantUse

/-- The text of whole constants, each with the comma behind it. -/
def earlierText (kept : List ConstantUse) : List Char :=
  kept.flatMap fun used => used.text ++ [',']

theorem constantList_cons (used : ConstantUse) (others : List ConstantUse) :
    ∃ rest, constantList (used :: others) = used.text ++ rest ∧ (others = [] → rest = []) := by
  cases others with
  | nil => exact ⟨[], (List.append_nil _).symm, fun _ => rfl⟩
  | cons next others =>
    exact ⟨',' :: constantList (next :: others), by simp [constantList, Text.joined], nofun⟩

theorem constantList_append (kept : List ConstantUse) (last : ConstantUse)
    (others : List ConstantUse) :
    constantList (kept ++ last :: others) = earlierText kept ++ constantList (last :: others) := by
  induction kept with
  | nil => rfl
  | cons used kept ih =>
    obtain ⟨next, more, same⟩ : ∃ next more, kept ++ last :: others = next :: more := by
      cases kept with
      | nil => exact ⟨last, others, rfl⟩
      | cons next more => exact ⟨next, more ++ last :: others, rfl⟩
    have step : constantList (used :: (next :: more)) =
        used.text ++ [','] ++ constantList (next :: more) := rfl
    rw [List.cons_append, same, step, ← same, ih, earlierText, earlierText, List.flatMap_cons]
    simp only [List.append_assoc]

theorem constants_blank {gap : List Char} (blank : ∀ c ∈ gap, Text.isBlank c = true)
    (rest : List Char) : constants (gap ++ rest) = constants rest := by
  obtain ⟨member, others, first⟩ := List.exists_cons_of_ne_nil (listPieces_ne_nil .outside 0 rest)
  have same : constantName? (gap ++ member) = constantName? member := by
    rw [constantName?, stripAnnotations_append (not_mem_of_blank blank (by decide)),
      Text.trim_append_blank blank, ← constantName?]
  have read (statement : List Char) :
      constants statement = (members statement).filterMap constantName? := rfl
  rw [read, read, members_blank blank, members, first, ontoFirst_cons, List.filterMap_cons,
    List.filterMap_cons, same]

/-- White space at the start of a statement is in no constant. -/
theorem constants_trim {statement : List Char} (solid : Text.trim statement ≠ []) :
    constants (Text.trim statement) = constants (Text.trimEnd statement) := by
  obtain ⟨gap, blank, same⟩ := Text.exists_trimEnd_eq solid
  rw [same, constants_blank blank]

section

variable {kept : List ConstantUse} (whole : ∀ used ∈ kept, used.Kept)

include whole

theorem members_earlierText (rest : List Char) :
    members (earlierText kept ++ rest) = kept.map ConstantUse.text ++ members rest := by
  induction kept with
  | nil => rfl
  | cons used kept ih =>
    obtain ⟨first, whole⟩ := List.forall_mem_cons.1 whole
    rw [earlierText, List.flatMap_cons, List.append_assoc, List.append_assoc, List.singleton_append,
      first.members_eq, ← earlierText, ih whole, List.map_cons, List.cons_append]

theorem unbroken_earlierText : Unbroken (earlierText kept) := by
  induction kept with
  | nil => exact .nil
  | cons used kept ih =>
    obtain ⟨first, whole⟩ := List.forall_mem_cons.1 whole
    have comma : Unbroken [','] := .char (by decide) (by decide) (by decide) (by decide) .nil
    exact (first.unbroken.append comma).append (ih whole)

variable {last : ConstantUse} {plain : List Char} (ends : EndsName plain)
  (one : isOneMember .start (last.lead ++ (last.nameChars ++ plain)) = true)

include ends one

/-- The constants of a statement, up to any place behind the name of the last one. -/
theorem constants_list :
    constants (earlierText kept ++ (last.lead ++ (last.nameChars ++ plain))) =
      (kept ++ [last]).map ConstantUse.name := by
  have tail : members (last.lead ++ (last.nameChars ++ plain)) =
      [last.lead ++ (last.nameChars ++ plain)] := by
    have pieces := listPieces_oneMember one []
    rw [List.append_nil, listPieces, ontoFirst_cons, List.append_nil] at pieces
    exact pieces
  have names : (kept.map ConstantUse.text).filterMap constantName? = kept.map ConstantUse.name := by
    rw [List.filterMap_map, ← List.filterMap_eq_map]
    exact List.filterMap_congr fun used _ => used.constantName?_written used.endsName_given
  have read (statement : List Char) :
      constants statement = (members statement).filterMap constantName? := rfl
  rw [read, members_earlierText whole, tail, List.filterMap_append, names, List.filterMap_cons,
    last.constantName?_written ends]
  simp

/-- White space behind the last constant is in none either. -/
theorem constants_statement :
    constants (Text.trim (earlierText kept ++ (last.lead ++ (last.nameChars ++ plain)))) =
      (kept ++ [last]).map ConstantUse.name := by
  obtain ⟨shorter, before, trimEnd⟩ := exists_trimEnd_append
    (List.cons_ne_nil last.first last.more) last.startsSolid_reverse_nameChars plain
  have solid : Text.trim (earlierText kept ++ (last.lead ++ (last.nameChars ++ plain))) ≠ [] :=
    Text.trim_ne_nil last.isBlank_first (by simp [ConstantUse.nameChars])
  have trimmed := trimEnd (earlierText kept ++ last.lead)
  obtain ⟨more, rfl⟩ := before
  have shape : last.lead ++ (last.nameChars ++ (shorter ++ more)) =
      (last.lead ++ (last.nameChars ++ shorter)) ++ more := by simp
  rw [shape] at one
  rw [List.append_assoc, List.append_assoc] at trimmed
  rw [constants_trim solid]
  refine (congrArg constants trimmed).trans ?_
  exact constants_list whole (ends.of_prefix (List.prefix_append _ _)) (isOneMember_of_append one)

end

/-- What follows the first statement of a body: nothing, or a character that ends it. -/
def EndsStatement (rest : List Char) : Prop :=
  ∀ c, rest.head? = some c → c = '{' ∨ c = ';'

theorem exists_statements_first {first rest : List Char} (unbroken : Unbroken first)
    (ends : EndsStatement rest) (solid : Text.trim first ≠ []) :
    ∃ others, statements (first ++ rest) = Text.trim first :: others := by
  obtain ⟨pieces, behind⟩ : ∃ pieces, statementPieces .outside 0 rest = [] :: pieces := by
    cases rest with
    | nil => exact ⟨[], rfl⟩
    | cons c rest => obtain rfl | rfl := ends c rfl <;> exact ⟨_, rfl⟩
  refine ⟨nonblank pieces, ?_⟩
  rw [statements, statementPieces_unbroken unbroken, behind, ontoFirst_cons, List.append_nil]
  simp [nonblank, solid]

/-- An enumeration reads a text as the constant that it names, white space around it apart, and any
other text as that text. -/
theorem coerce_constant {table : ClassTable} {type : TypeRef} {info : ClassInfo}
    (found : table.find? type.name = some info)
    (enumeration : type.category table = .scalar .enumeration) (known : info.constants ≠ [])
    (s : String) : coerce table (.string s) (some type) =
      if Text.trimmed s ∈ info.constants then .constant info.name (Text.trimmed s)
      else .string s := by
  have declared : info.constants.isEmpty = false := by simpa using known
  rw [coerce_scalar enumeration Json.noConfusion, found]
  simp only [Scalar.read?, Scalar.constant?, Scalar.trimmed?, declared, Bool.false_or,
    List.contains_iff_mem, Option.bind_eq_bind, Option.bind_some]
  rw [show String.ofList (Text.trim s.toList) = Text.trimmed s from rfl]
  split <;> rfl

section

variable {kept others : List ConstantUse} {last : ConstantUse} {rest : List Char}
  (stops : last.Cut ∨ last.Whole ∧ others = []) (ends : rest = [] ∨ rest.head? = some ';')

include stops ends

/-- The first statement of a body ends at the brace of the constant that has one, or at the end of
the list. -/
theorem exists_cut : ∃ plain behind, EndsName plain ∧
    Unbroken (last.lead ++ (last.nameChars ++ plain)) ∧
    isOneMember .start (last.lead ++ (last.nameChars ++ plain)) = true ∧ EndsStatement behind ∧
    constantList (last :: others) ++ rest =
      (last.lead ++ (last.nameChars ++ plain)) ++ behind := by
  obtain ⟨plain, behind, given, unbroken, one⟩ | ⟨stays, rfl⟩ := stops
  · obtain ⟨more, list, -⟩ := constantList_cons last others
    have name : EndsName plain := last.endsName_given.of_prefix ⟨'{' :: behind, given.symm⟩
    refine ⟨plain, '{' :: (behind ++ (more ++ rest)), name, unbroken, one, ?_, ?_⟩
    · rintro c ⟨⟩
      exact .inl rfl
    · rw [list, ConstantUse.text, given]
      simp
  · refine ⟨last.given, rest, last.endsName_given, stays.unbroken, stays.oneMember, ?_, rfl⟩
    intro c head
    obtain rfl | semicolon := ends
    · cases head
    · rw [semicolon] at head
      exact .inr (Option.some.inj head).symm

theorem constants_enumeration (whole : ∀ used ∈ kept, used.Kept) (name header : List Char) :
    (typeOfBody .enumeration name header
      (constantList (kept ++ last :: others) ++ rest)).constants =
        (kept ++ [last]).map ConstantUse.name := by
  obtain ⟨plain, behind, endsName, unbroken, one, endsStatement, same⟩ := exists_cut stops ends
  have body : constantList (kept ++ last :: others) ++ rest =
      (earlierText kept ++ (last.lead ++ (last.nameChars ++ plain))) ++ behind := by
    rw [constantList_append, List.append_assoc, same, ← List.append_assoc (earlierText kept)]
  have solid : Text.trim (earlierText kept ++ (last.lead ++ (last.nameChars ++ plain))) ≠ [] :=
    Text.trim_ne_nil last.isBlank_first (by simp [ConstantUse.nameChars])
  obtain ⟨more, first⟩ := exists_statements_first
    ((unbroken_earlierText whole).append unbroken) endsStatement solid
  change constants ((statements (constantList (kept ++ last :: others) ++ rest)).headD []) = _
  rw [body, first, List.headD_cons]
  exact constants_statement whole endsName one

end

/-- The constants of an enumeration are recovered up to the first one with a brace in it: all of
them exactly if that is the last one. What is read as a constant are the recovered names. -/
theorem constants_until_cut {kept others : List ConstantUse} {last : ConstantUse} {rest : List Char}
    (whole : ∀ used ∈ kept, used.Kept) (stops : last.Cut ∨ last.Whole ∧ others = [])
    (ends : rest = [] ∨ rest.head? = some ';') (name header : List Char) :
    let uses := kept ++ last :: others
    let declared := typeOfBody .enumeration name header (constantList uses ++ rest)
    let recovered := (kept ++ [last]).map ConstantUse.name
    declared.constants = recovered ∧
      (declared.constants = uses.map ConstantUse.name ↔ others = []) ∧
      ∀ (table : ClassTable) (type : TypeRef) (known : List String) (file : SourceFile)
        (s : String),
        table.find? type.name = some (Index.classInfo known file declared) →
        type.category table = .scalar .enumeration →
        coerce table (.string s) (some type) =
          if Text.trimmed s ∈ recovered then
            .constant (qualifiedName file.package (String.ofList name)) (Text.trimmed s)
          else .string s := by
  intro uses declared recovered
  have names : declared.constants = recovered :=
    constants_enumeration stops ends whole name header
  refine ⟨names, ?_, fun table type known file s found enumeration => ?_⟩
  · rw [names]
    refine ⟨fun all => ?_, fun none => ?_⟩
    · have lengths := congrArg List.length all
      simp only [recovered, uses, List.length_map, List.length_append, List.length_cons,
        List.length_nil] at lengths
      exact List.length_eq_zero_iff.1 (by omega)
    · simp only [recovered, uses, none]
  · have constants : (Index.classInfo known file declared).constants = recovered := names
    rw [coerce_constant found enumeration (by simp [constants, recovered]), constants]
    rfl

/-! ## Enumerations -/

/-- The arguments `(x -> f(x, 1))`. -/
def argumentsLambda : Arguments where
  gap := []
  inside := "x -> f".toList ++ '(' :: ("x, 1".toList ++ [')'])
  blank := isBlank_nil
  closed := (Balanced.of_plain (by simp [isQuote, Bracket.opening, Bracket.closing])).append
    (.group .round List.mem_cons_self
      (.of_plain (by simp [isQuote, Bracket.opening, Bracket.closing])) .nil)

/-- A literal with a comma and a brace in it. -/
def argumentsLiteral : Arguments where
  gap := []
  inside := '"' :: ("a,\x7b".toList ++ ['"'])
  blank := isBlank_nil
  closed := .literal rfl (.of_plain (by simp)) .nil

/-- The arguments `(1 < 2)`. -/
def argumentsComparison : Arguments where
  gap := []
  inside := "1 < 2".toList
  blank := isBlank_nil
  closed := .of_plain (by simp [isQuote, Bracket.opening, Bracket.closing])

def classBody : ConstantBody where
  gap := [' ']
  inside := " int y; ".toList
  blank := isBlank_space
  closed := .of_plain (by simp [isQuote, Bracket.opening, Bracket.closing])

def emptyBody : ConstantBody where
  gap := [' ']
  inside := [' ']
  blank := isBlank_space
  closed := .of_blank isBlank_space

def annotationDeprecated : AnnotationUse :=
  ⟨"Deprecated".toList, none, List.all_eq_true.1 (by decide +kernel)⟩

/-- A constant of one letter without annotations. -/
def letterConstant (lead : List Char) (letter : Char) (arguments : Option Arguments)
    (body : Option ConstantBody) (blank : ∀ c ∈ lead, Text.isBlank c = true)
    (begins : Text.isIdentStart letter = true) : ConstantUse :=
  ⟨lead, letter, [], arguments, body, [], .blank blank, begins, List.forall_mem_nil _,
    isBlank_nil⟩

def constantA : ConstantUse where
  lead := annotationDeprecated.text ++ [' ']
  first := 'A'
  more := []
  arguments := some argumentsLambda
  body := none
  gap := []
  annotated := .annotated_space annotationDeprecated isBlank_nil rfl (by decide)
  begins := rfl
  named := List.forall_mem_nil _
  blank := isBlank_nil

def constantB : ConstantUse :=
  letterConstant ['\n', ' '] 'B' (some argumentsLiteral) none isBlank_line rfl

def constantC : ConstantUse := letterConstant ['\n', ' '] 'C' none (some classBody) isBlank_line rfl

def constantD : ConstantUse := letterConstant ['\n', ' '] 'D' none none isBlank_line rfl

theorem constantA_kept : constantA.Kept := by
  have text : constantA.text = "@Deprecated A(x -> f(x, 1))".toList := by rfl
  exact
    { unbroken := by rw [text]; exact .of_plain (by simp [isQuote])
      oneMember := by rw [text]; decide +kernel
      closed := by rw [text]; decide +kernel }

theorem constantB_kept : constantB.Kept := by
  have text : constantB.text = "\n B(".toList ++ '"' :: ("a,\x7b".toList ++ '"' :: [')']) := by rfl
  have group : constantB.text = '\n' :: ' ' :: 'B' :: Bracket.round.opening ::
      ('"' :: ("a,\x7b".toList ++ ['"']) ++ [Bracket.round.closing]) := by rfl
  refine .of_undivided ?_ ?_
  · rw [text]
    exact (Unbroken.of_plain (by simp [isQuote])).append
      (.literal rfl (.of_plain (by simp)) (.of_plain (by simp [isQuote])))
  · rw [group]
    refine .char rfl (by decide) (by decide) (.char rfl (by decide) (by decide) ?_)
    exact .char rfl (by decide) (by decide)
      (.group .round (by decide) (.literal rfl (.of_plain (by simp)) .nil) .nil)

theorem constantC_cut : constantC.Cut := by
  have start : constantC.lead ++ (constantC.nameChars ++ [' ']) = "\n C ".toList := by rfl
  refine ⟨[' '], _, rfl, ?_, ?_⟩
  · rw [start]
    exact .of_plain (by simp [isQuote])
  · rw [start]
    decide +kernel

/-- A lambda does no harm, nor do a comma and a brace in a literal; a class body ends the list. -/
theorem constants_before_class_body :
    let argument := '"' :: ("a,\x7b".toList ++ ['"'])
    let list := "@Deprecated A(x -> f(x, 1)),\n B(".toList ++ (argument ++
      "),\n C \x7b int y; \x7d,\n D; int x;".toList)
    let declared := typeOfBody .enumeration ['E'] [' '] list
    let table := ClassTable.ofList [Index.classInfo [] ⟨"p", [], []⟩ declared]
    declared.constants = ["A", "B", "C"] ∧
      coerce table (.string " B ") (some (.named "p.E")) = .constant "p.E" "B" ∧
      coerce table (.string "D") (some (.named "p.E")) = .string "D" := by
  have whole : ∀ used ∈ [constantA, constantB], used.Kept := by
    simp [constantA_kept, constantB_kept]
  have stops : constantC.Cut ∨ constantC.Whole ∧ [constantD] = [] := .inl constantC_cut
  have ends : "; int x;".toList = [] ∨ "; int x;".toList.head? = some ';' := by decide
  obtain ⟨names, -, coerced⟩ := constants_until_cut whole stops ends ['E'] [' ']
  intro argument list declared table
  have same : constantList ([constantA, constantB] ++ constantC :: [constantD]) ++
      "; int x;".toList = list := by rfl
  have recovered : ([constantA, constantB] ++ [constantC]).map ConstantUse.name =
      ["A", "B", "C"] := by rfl
  rw [same, recovered] at names
  rw [same, recovered] at coerced
  have found : table.find? "p.E" = some (Index.classInfo [] ⟨"p", [], []⟩ declared) := by rfl
  have enumeration : (TypeRef.named "p.E").category table = .scalar .enumeration := by rfl
  have coerced (s : String) := coerced table (.named "p.E") [] ⟨"p", [], []⟩ s found enumeration
  exact ⟨names, coerced " B ", coerced "D"⟩

/-- What stands behind a class body, or behind a comparison in arguments, is not recovered. -/
theorem constants_behind_cut_lost :
    let recovered (list : List Char) := (typeOfBody .enumeration ['E'] [' '] list).constants
    ∃ a a' b : ConstantUse,
      constantList [a, b] = "A \x7b \x7d, B".toList ∧ constantList [a', b] = "A(1 < 2), B".toList ∧
        recovered (constantList [a, b]) = ["A"] ∧ [a, b].map ConstantUse.name = ["A", "B"] ∧
        recovered (constantList [a', b]) = ["A"] ∧ [a', b].map ConstantUse.name = ["A", "B"] := by
  have behindBody :
      (typeOfBody .enumeration ['E'] [' '] "A \x7b \x7d, B".toList).constants = ["A"] := by
    decide +kernel
  have behindComparison :
      (typeOfBody .enumeration ['E'] [' '] "A(1 < 2), B".toList).constants = ["A"] := by
    decide +kernel
  exact ⟨letterConstant [] 'A' none (some emptyBody) isBlank_nil rfl,
    letterConstant [] 'A' (some argumentsComparison) none isBlank_nil rfl,
    letterConstant [' '] 'B' none none isBlank_space rfl,
    rfl, rfl, behindBody, rfl, behindComparison, rfl⟩

end SqlPreview.Source
