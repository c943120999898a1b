import Mathlib
import SqlPreview.Source.Quoting

/-!
# Balanced source text

Texts whose literals are closed and whose brackets match are units to the scans of source text: a
scan that counts the brackets goes over such a text and goes on behind it as it came.

This file defines the contents of literals (`Contents`), texts without breaks (`Unbroken`), texts
that are balanced in some kinds of brackets (`Balanced`, `Enclosing`), texts in which blocks are
left open (`Opened`), and runs of whole members of a body (`WholeMembers`).

Results:
1. `splitClosing?_balanced`: the search for a closing bracket.
2. `statementPieces_unbroken`, `exists_statementPieces_opened`, `exists_statementPieces_members`:
   the statements of a body.
3. `listPieces_group`, `exists_listPieces`: the members of a list.
-/

namespace SqlPreview.Source

/-! ## Texts -/

/-- What may stand between the quotes of a literal: a backslash takes the character after it along,
and the quote itself stands only behind one. -/
inductive Contents (quote : Char) : List Char → Prop
  | nil : Contents quote []
  | char {c : Char} {rest : List Char} :
      c ≠ '\\' → c ≠ quote → Contents quote rest → Contents quote (c :: rest)
  | escape {c : Char} {rest : List Char} : Contents quote rest → Contents quote ('\\' :: c :: rest)

/-- Literals are closed, and no brace and no semicolon stands outside of them. -/
inductive Unbroken : List Char → Prop
  | nil : Unbroken []
  | char {c : Char} {rest : List Char} :
      isQuote c = false → c ≠ '{' → c ≠ '}' → c ≠ ';' → Unbroken rest → Unbroken (c :: rest)
  | literal {quote : Char} {contents rest : List Char} :
      isQuote quote = true → Contents quote contents → Unbroken rest →
      Unbroken (quote :: (contents ++ quote :: rest))

inductive Bracket where
  | round
  | square
  | angle
  | curly
deriving DecidableEq

namespace Bracket

def opening : Bracket → Char
  | round => '('
  | square => '['
  | angle => '<'
  | curly => '{'

def closing : Bracket → Char
  | round => ')'
  | square => ']'
  | angle => '>'
  | curly => '}'

end Bracket

/-- Literals are closed, and outside of them every bracket of these kinds has its partner. -/
inductive Balanced (kinds : List Bracket) : List Char → Prop
  | nil : Balanced kinds []
  | char {c : Char} {rest : List Char} :
      isQuote c = false → (∀ kind ∈ kinds, c ≠ kind.opening ∧ c ≠ kind.closing) →
      Balanced kinds rest → Balanced kinds (c :: rest)
  | literal {quote : Char} {contents rest : List Char} :
      isQuote quote = true → Contents quote contents → Balanced kinds rest →
      Balanced kinds (quote :: (contents ++ quote :: rest))
  | group {inside rest : List Char} (kind : Bracket) : kind ∈ kinds → Balanced kinds inside →
      Balanced kinds rest → Balanced kinds (kind.opening :: (inside ++ kind.closing :: rest))

/-- Some blocks, perhaps none, are still open at the end. -/
inductive Opened : List Char → Prop
  | balanced {text : List Char} : Balanced [.curly] text → Opened text
  | deeper {text rest : List Char} :
      Balanced [.curly] text → Opened rest → Opened (text ++ '{' :: rest)

/-- Members of a body, each up to its semicolon or the end of its block. -/
inductive WholeMembers : List Char → Prop
  | nil : WholeMembers []
  | blank {c : Char} {rest : List Char} :
      Text.isBlank c = true → WholeMembers rest → WholeMembers (c :: rest)
  | statement {text rest : List Char} :
      Unbroken text → WholeMembers rest → WholeMembers (text ++ ';' :: rest)
  | block {text inside rest : List Char} :
      Unbroken text → Balanced [.curly] inside → WholeMembers rest →
      WholeMembers (text ++ '{' :: (inside ++ '}' :: rest))

theorem Contents.of_plain {quote : Char} {text : List Char}
    (plain : ∀ c ∈ text, c ≠ '\\' ∧ c ≠ quote) : Contents quote text := by
  induction text with
  | nil => exact .nil
  | cons c text ih =>
    obtain ⟨⟨notEscape, notQuote⟩, plain⟩ := List.forall_mem_cons.1 plain
    exact .char notEscape notQuote (ih plain)

/-- Text before and behind a place such that both together are balanced, whatever balanced text
stands at that place. -/
inductive Enclosing (kinds : List Bracket) : List Char → List Char → Prop
  | here {before behind : List Char} : Balanced kinds before → Balanced kinds behind →
      Enclosing kinds before behind
  | group {outer before behind outer' : List Char} (kind : Bracket) : kind ∈ kinds →
      Balanced kinds outer → Enclosing kinds before behind → Balanced kinds outer' →
      Enclosing kinds (outer ++ kind.opening :: before) (behind ++ kind.closing :: outer')

section

variable {text more : List Char}

theorem Unbroken.append (first : Unbroken text) (second : Unbroken more) :
    Unbroken (text ++ more) := by
  induction first with
  | nil => exact second
  | char plain one two three _ ih => exact .char plain one two three ih
  | literal quote written _ ih =>
    rw [List.cons_append, List.append_assoc, List.cons_append]
    exact .literal quote written ih

theorem Balanced.append {kinds : List Bracket} (first : Balanced kinds text)
    (second : Balanced kinds more) : Balanced kinds (text ++ more) := by
  induction first with
  | nil => exact second
  | char plain other _ ih => exact .char plain other ih
  | literal quote written _ ih =>
    rw [List.cons_append, List.append_assoc, List.cons_append]
    exact .literal quote written ih
  | group kind one inside _ _ ih =>
    rw [List.cons_append, List.append_assoc, List.cons_append]
    exact .group kind one inside ih

theorem Enclosing.filled {kinds : List Bracket} {before behind : List Char}
    (enclosing : Enclosing kinds before behind) (balanced : Balanced kinds text) :
    Balanced kinds (before ++ (text ++ behind)) := by
  induction enclosing with
  | here first last => exact first.append (balanced.append last)
  | group kind one outer _ outer' ih =>
    have whole := outer.append (.group kind one ih outer')
    simpa using whole

theorem Unbroken.of_plain
    (plain : ∀ c ∈ text, isQuote c = false ∧ c ≠ '{' ∧ c ≠ '}' ∧ c ≠ ';') : Unbroken text := by
  induction text with
  | nil => exact .nil
  | cons c text ih =>
    obtain ⟨⟨quote, opening, closing, semicolon⟩, plain⟩ := List.forall_mem_cons.1 plain
    exact .char quote opening closing semicolon (ih plain)

theorem Balanced.of_plain {kinds : List Bracket} (plain : ∀ c ∈ text,
    isQuote c = false ∧ ∀ kind ∈ kinds, c ≠ kind.opening ∧ c ≠ kind.closing) :
    Balanced kinds text := by
  induction text with
  | nil => exact .nil
  | cons c text ih =>
    obtain ⟨⟨quote, other⟩, plain⟩ := List.forall_mem_cons.1 plain
    exact .char quote other (ih plain)

theorem Unbroken.balanced (unbroken : Unbroken text) : Balanced [.curly] text := by
  induction unbroken with
  | nil => exact .nil
  | char plain opening closing _ _ ih =>
    exact .char plain (by simpa [Bracket.opening, Bracket.closing] using ⟨opening, closing⟩) ih
  | literal quote written _ ih => exact .literal quote written ih

end

/-! ## Characters -/

theorem Bracket.isQuote_opening (kind : Bracket) : isQuote kind.opening = false := by
  cases kind <;> decide

theorem Bracket.isQuote_closing (kind : Bracket) : isQuote kind.closing = false := by
  cases kind <;> decide

theorem Bracket.opening_inj {kind other : Bracket} (same : kind.opening = other.opening) :
    kind = other := by
  cases kind <;> cases other <;> first | rfl | exact absurd same (by decide)

theorem Bracket.closing_inj {kind other : Bracket} (same : kind.closing = other.closing) :
    kind = other := by
  cases kind <;> cases other <;> first | rfl | exact absurd same (by decide)

theorem Bracket.opening_ne_closing (kind other : Bracket) : kind.opening ≠ other.closing := by
  cases kind <;> cases other <;> decide

section

variable {quote : Char} (isOne : isQuote quote = true)

include isOne

/-- A quote is none of the characters that readers look for. -/
theorem eq_false_of_quote {p : Char → Bool} (double : p '"' = false) (single : p '\'' = false) :
    p quote = false := by
  rw [isQuote, Bool.or_eq_true, beq_iff_eq, beq_iff_eq] at isOne
  obtain rfl | rfl := isOne
  · exact double
  · exact single

end

theorem ne_of_class {isOne : Char → Bool} {c d : Char} (one : isOne c = true)
    (other : isOne d = false) : c ≠ d := by
  rintro rfl
  rw [one] at other
  cases other

/-- The characters at which readers of sources stop: quotes, brackets, commas and semicolons. -/
def marks : List Char := ['"', '\'', '(', ')', '[', ']', '<', '>', '{', '}', ',', ';']

/-- A class of characters that has no marks. -/
def Unmarked (isOne : Char → Bool) : Prop := marks.any isOne = false

namespace Unmarked

variable {isOne : Char → Bool} (unmarked : Unmarked isOne)

include unmarked

section

variable {c : Char} (one : isOne c = true)

include one

theorem ne_mark {d : Char} (mark : d ∈ marks) : c ≠ d :=
  ne_of_class one (Bool.eq_false_of_not_eq_true (List.any_eq_false.1 unmarked d mark))

theorem isQuote_eq_false : isQuote c = false := by
  rw [isQuote, Bool.or_eq_false_iff, beq_eq_false_iff_ne, beq_eq_false_iff_ne]
  exact ⟨unmarked.ne_mark one (by decide), unmarked.ne_mark one (by decide)⟩

theorem ne_bracket (kind : Bracket) : c ≠ kind.opening ∧ c ≠ kind.closing := by
  cases kind <;> exact ⟨unmarked.ne_mark one (by decide), unmarked.ne_mark one (by decide)⟩

/-- The character stands in one member of a list. -/
theorem inMember {kinds : List Bracket} : isQuote c = false ∧
    (∀ kind ∈ kinds, c ≠ kind.opening ∧ c ≠ kind.closing) ∧ c ≠ ',' :=
  ⟨unmarked.isQuote_eq_false one, fun kind _ => unmarked.ne_bracket one kind,
    unmarked.ne_mark one (by decide)⟩

/-- The character stands in one statement. -/
theorem inStatement : isQuote c = false ∧ c ≠ '{' ∧ c ≠ '}' ∧ c ≠ ';' :=
  ⟨unmarked.isQuote_eq_false one, unmarked.ne_mark one (by decide),
    unmarked.ne_mark one (by decide), unmarked.ne_mark one (by decide)⟩

end

variable {text : List Char} (each : ∀ c ∈ text, isOne c = true)

include each

theorem balanced {kinds : List Bracket} : Balanced kinds text :=
  .of_plain fun c member => ⟨unmarked.isQuote_eq_false (each c member), fun kind _ =>
    unmarked.ne_bracket (each c member) kind⟩

theorem unbroken : Unbroken text :=
  .of_plain fun c member => unmarked.inStatement (each c member)

end Unmarked

theorem unmarked_isBlank : Unmarked Text.isBlank := show marks.any _ = false by decide

theorem isBlank_nil : ∀ c ∈ ([] : List Char), Text.isBlank c = true := List.forall_mem_nil _

theorem isBlank_space : ∀ c ∈ [' '], Text.isBlank c = true := List.all_eq_true.1 (by decide)

theorem isBlank_line : ∀ c ∈ ['\n', ' '], Text.isBlank c = true := List.all_eq_true.1 (by decide)

theorem Balanced.of_blank {kinds : List Bracket} {gap : List Char}
    (blank : ∀ c ∈ gap, Text.isBlank c = true) : Balanced kinds gap :=
  unmarked_isBlank.balanced blank

theorem Unbroken.of_blank {gap : List Char} (blank : ∀ c ∈ gap, Text.isBlank c = true) :
    Unbroken gap := unmarked_isBlank.unbroken blank

theorem WholeMembers.balanced {text : List Char} (members : WholeMembers text) :
    Balanced [.curly] text := by
  induction members with
  | nil => exact .nil
  | @blank c rest blank _ ih =>
    have gap : ∀ b ∈ [c], Text.isBlank b = true := List.forall_mem_singleton.2 blank
    exact (Balanced.of_blank gap).append ih
  | statement unbroken _ ih =>
    exact unbroken.balanced.append (.char (by decide) (by decide) ih)
  | block unbroken inside _ ih =>
    exact unbroken.balanced.append (.group .curly List.mem_cons_self inside ih)

/-! ## Quoting -/

namespace Quoting

theorem after_append (quoting : Quoting) (text more : List Char) :
    quoting.after (text ++ more) = (quoting.after text).after more :=
  List.foldl_append

theorem after_cons (quoting : Quoting) (c : Char) (rest : List Char) :
    quoting.after (c :: rest) = (quoting.next c).after rest := rfl

theorem next_plain {c : Char} (plain : isQuote c = false) : outside.next c = outside := by
  rw [next, plain]
  rfl

theorem next_quote {quote : Char} (isOne : isQuote quote = true) :
    outside.next quote = inside quote false :=
  if_pos isOne

theorem next_closing {quote : Char} (isOne : isQuote quote = true) :
    (inside quote false).next quote = outside := by
  have plain : quote ≠ '\\' := by
    rintro rfl
    exact absurd isOne (by decide)
  simp [next, plain]

theorem next_char {quote c : Char} (plain : c ≠ '\\') (other : c ≠ quote) :
    (inside quote false).next c = inside quote false := by
  simp [next, plain, other]

end Quoting

/-! ## Scans -/

/-- A scan of source text that goes over literals: it sets what it has seen in front of what it
makes of the rest, without a look at what a literal contains. -/
structure KeepsLiterals {β : Type} (scan : Quoting → List Char → β)
    (inFront : List Char → β → β) : Prop where
  joins (text more : List Char) (found : β) :
    inFront text (inFront more found) = inFront (text ++ more) found
  begins {quote : Char} (isOne : isQuote quote = true) (rest : List Char) :
    scan .outside (quote :: rest) = inFront [quote] (scan (.inside quote false) rest)
  goesOn (quote : Char) (escaped : Bool) (c : Char) (rest : List Char) :
    scan (.inside quote escaped) (c :: rest) =
      inFront [c] (scan ((Quoting.inside quote escaped).next c) rest)

namespace KeepsLiterals

variable {β : Type} {scan : Quoting → List Char → β} {inFront : List Char → β → β}
  {quote : Char} {contents : List Char}

theorem contents_eq (keeps : KeepsLiterals scan inFront) (isOne : isQuote quote = true)
    (written : Contents quote contents) (rest : List Char) :
    scan (.inside quote false) (contents ++ quote :: rest) =
      inFront (contents ++ [quote]) (scan .outside rest) := by
  induction written with
  | nil => rw [List.nil_append, keeps.goesOn, Quoting.next_closing isOne, List.nil_append]
  | char plain other _ ih =>
    rw [List.cons_append, keeps.goesOn, Quoting.next_char plain other, ih, keeps.joins]
    rfl
  | escape _ ih =>
    have escaped : (Quoting.inside quote false).next '\\' = .inside quote true := rfl
    rw [List.cons_append, List.cons_append, keeps.goesOn, escaped, keeps.goesOn, Quoting.next, ih,
      keeps.joins, keeps.joins]
    rfl

theorem literal_eq (keeps : KeepsLiterals scan inFront) (isOne : isQuote quote = true)
    (written : Contents quote contents) (rest : List Char) :
    scan .outside (quote :: (contents ++ quote :: rest)) =
      inFront (quote :: (contents ++ [quote])) (scan .outside rest) := by
  rw [keeps.begins isOne, keeps.contents_eq isOne written, keeps.joins]
  rfl

end KeepsLiterals

theorem after_keepsLiterals : KeepsLiterals Quoting.after fun _ behind => behind where
  joins _ _ _ := rfl
  begins isOne rest := by rw [Quoting.after_cons, Quoting.next_quote isOne]
  goesOn _ _ _ _ := rfl

/-- Behind a balanced text all literals are closed. -/
theorem Balanced.after_append {kinds : List Bracket} {text : List Char}
    (balanced : Balanced kinds text) (rest : List Char) :
    Quoting.outside.after (text ++ rest) = Quoting.outside.after rest := by
  induction balanced generalizing rest with
  | nil => rfl
  | char plain _ _ ih => rw [List.cons_append, Quoting.after_cons, Quoting.next_plain plain, ih]
  | literal isOne written _ ih =>
    rw [List.cons_append, List.append_assoc, List.cons_append,
      after_keepsLiterals.literal_eq isOne written, ih]
  | group kind _ _ _ ihInside ihBehind =>
    rw [List.cons_append, List.append_assoc, List.cons_append, Quoting.after_cons,
      Quoting.next_plain kind.isQuote_opening, ihInside, Quoting.after_cons,
      Quoting.next_plain kind.isQuote_closing, ihBehind]

theorem Balanced.after_eq {kinds : List Bracket} {text : List Char}
    (balanced : Balanced kinds text) : Quoting.outside.after text = .outside := by
  have ends := balanced.after_append []
  rwa [List.append_nil] at ends

/-- Text that is balanced in some kinds of brackets is so in fewer of them. -/
theorem Balanced.mono {kinds kinds' : List Bracket} (fewer : kinds' ⊆ kinds) {text : List Char}
    (balanced : Balanced kinds text) : Balanced kinds' text := by
  induction balanced with
  | nil => exact .nil
  | char plain other _ ih => exact .char plain (fun kind member => other kind (fewer member)) ih
  | literal isOne written _ ih => exact .literal isOne written ih
  | group kind _ _ _ ihInside ihBehind =>
    by_cases one : kind ∈ kinds'
    · exact .group kind one ihInside ihBehind
    · have others : ∀ other ∈ kinds', kind ≠ other := fun other member same => one (same ▸ member)
      refine .char kind.isQuote_opening (fun other member => ⟨fun same =>
        others other member (Bracket.opening_inj same), kind.opening_ne_closing other⟩) ?_
      refine ihInside.append (.char kind.isQuote_closing (fun other member =>
        ⟨(other.opening_ne_closing kind).symm, fun same =>
          others other member (Bracket.closing_inj same)⟩) ihBehind)

/-! ## Closing brackets -/

/-- What was found behind a text, with the text before what it is inside of. -/
def inFront (text : List Char) (found : Option (List Char × List Char)) :
    Option (List Char × List Char) :=
  found.map fun pair => (text ++ pair.1, pair.2)

theorem inFront_nil (found : Option (List Char × List Char)) : inFront [] found = found := by
  cases found <;> rfl

theorem inFront_inFront (text more : List Char) (found : Option (List Char × List Char)) :
    inFront text (inFront more found) = inFront (text ++ more) found := by
  cases found with
  | none => rfl
  | some pair => simp [inFront]

section

variable {opening closing : Char}

/-- A character that neither opens nor closes. -/
theorem splitClosing?_plain {quoting : Quoting} {c : Char}
    (plain : quoting.isOutside = true → c ≠ opening ∧ c ≠ closing) (depth : Nat)
    (rest : List Char) : splitClosing? opening closing quoting depth (c :: rest) =
      inFront [c] (splitClosing? opening closing (quoting.next c) depth rest) := by
  rw [splitClosing?.eq_def]
  cases outside : quoting.isOutside with
  | false => rfl
  | true =>
    obtain ⟨notOpening, notClosing⟩ := plain outside
    simp only [beq_eq_false_iff_ne.2 notOpening, beq_eq_false_iff_ne.2 notClosing]
    rfl

theorem splitClosing?_opening (depth : Nat) (rest : List Char) :
    splitClosing? opening closing .outside depth (opening :: rest) =
      inFront [opening]
        (splitClosing? opening closing (Quoting.outside.next opening) (depth + 1) rest) := by
  simp [splitClosing?, Quoting.isOutside, inFront]

theorem splitClosing?_closing (other : closing ≠ opening) (depth : Nat) (rest : List Char) :
    splitClosing? opening closing .outside (depth + 1) (closing :: rest) =
      inFront [closing]
        (splitClosing? opening closing (Quoting.outside.next closing) depth rest) := by
  simp [splitClosing?, Quoting.isOutside, inFront, other]

theorem splitClosing?_last (other : closing ≠ opening) (rest : List Char) :
    splitClosing? opening closing .outside 0 (closing :: rest) = some ([], rest) := by
  simp [splitClosing?, Quoting.isOutside, other]

end

theorem splitClosing?_keepsLiterals (kind : Bracket) (depth : Nat) :
    KeepsLiterals (fun quoting => splitClosing? kind.opening kind.closing quoting depth) inFront where
  joins := inFront_inFront
  begins {quote} isOne rest := by
    have plain : quote ≠ kind.opening ∧ quote ≠ kind.closing :=
      ⟨ne_of_class isOne kind.isQuote_opening, ne_of_class isOne kind.isQuote_closing⟩
    rw [splitClosing?_plain fun _ => plain, Quoting.next_quote isOne]
  goesOn quote escaped c rest := splitClosing?_plain (by simp [Quoting.isOutside]) depth rest

/-- The search for a closing bracket goes over a balanced text. -/
theorem splitClosing?_balanced {kinds : List Bracket} {kind : Bracket} {text : List Char}
    (one : kind ∈ kinds) (balanced : Balanced kinds text) (depth : Nat) (rest : List Char) :
    splitClosing? kind.opening kind.closing .outside depth (text ++ rest) =
      inFront text (splitClosing? kind.opening kind.closing .outside depth rest) := by
  induction balanced generalizing depth rest with
  | nil => exact (inFront_nil _).symm
  | char plain other _ ih =>
    rw [List.cons_append, splitClosing?_plain fun _ => other kind one, Quoting.next_plain plain,
      ih, inFront_inFront]
    rfl
  | literal isOne written _ ih =>
    rw [List.cons_append, List.append_assoc, List.cons_append,
      (splitClosing?_keepsLiterals kind depth).literal_eq isOne written, ih, inFront_inFront]
    simp
  | @group inside behind other _ _ _ ihInside ihBehind =>
    rw [List.cons_append, List.append_assoc, List.cons_append]
    by_cases same : other = kind
    · subst same
      rw [splitClosing?_opening, Quoting.next_plain other.isQuote_opening, ihInside,
        splitClosing?_closing (other.opening_ne_closing other).symm,
        Quoting.next_plain other.isQuote_closing, ihBehind]
      simp only [inFront_inFront]
      simp
    · have opens : other.opening ≠ kind.opening ∧ other.opening ≠ kind.closing :=
        ⟨fun h => same (Bracket.opening_inj h), other.opening_ne_closing kind⟩
      have closes : other.closing ≠ kind.opening ∧ other.closing ≠ kind.closing :=
        ⟨(kind.opening_ne_closing other).symm, fun h => same (Bracket.closing_inj h)⟩
      rw [splitClosing?_plain fun _ => opens, Quoting.next_plain other.isQuote_opening, ihInside,
        splitClosing?_plain fun _ => closes, Quoting.next_plain other.isQuote_closing, ihBehind]
      simp only [inFront_inFront]
      simp

theorem splitParens?_append {kinds : List Bracket} {text : List Char} (one : .round ∈ kinds)
    (balanced : Balanced kinds text) (rest : List Char) :
    splitParens? (text ++ rest) = inFront text (splitParens? rest) :=
  splitClosing?_balanced one balanced 0 rest

/-- Between round brackets that match, the inside is found. -/
theorem splitParens?_balanced {kinds : List Bracket} {inside : List Char}
    (one : .round ∈ kinds) (balanced : Balanced kinds inside) (rest : List Char) :
    splitParens? (inside ++ ')' :: rest) = some (inside, rest) := by
  rw [splitParens?_append one balanced, splitParens?, splitClosing?_last (by decide)]
  simp [inFront]

/-- Between braces that match, the inside is found. -/
theorem splitBraces?_balanced {inside : List Char} (balanced : Balanced [.curly] inside)
    (rest : List Char) : splitBraces? (inside ++ '}' :: rest) = some (inside, rest) := by
  rw [splitBraces?]
  refine (splitClosing?_balanced List.mem_cons_self balanced 0 _).trans ?_
  rw [Bracket.opening, Bracket.closing, splitClosing?_last (by decide)]
  simp [inFront]

/-! ## Statements -/

/-- A text in front of the first of some pieces. -/
def ontoFirst (text : List Char) (pieces : List (List Char)) : List (List Char) :=
  text.foldr consFirst pieces

theorem consFirst_ne_nil (c : Char) (pieces : List (List Char)) : consFirst c pieces ≠ [] := by
  cases pieces <;> exact List.cons_ne_nil _ _

theorem ontoFirst_append (text more : List Char) (pieces : List (List Char)) :
    ontoFirst (text ++ more) pieces = ontoFirst text (ontoFirst more pieces) :=
  List.foldr_append

theorem ontoFirst_cons (text piece : List Char) (pieces : List (List Char)) :
    ontoFirst text (piece :: pieces) = (text ++ piece) :: pieces := by
  induction text with
  | nil => rfl
  | cons c text ih => rw [ontoFirst, List.foldr_cons, ← ontoFirst, ih]; rfl

theorem ontoFirst_singleton (c : Char) (pieces : List (List Char)) :
    ontoFirst [c] pieces = consFirst c pieces := rfl

/-- Text at some depth of braces, in front of the pieces behind it: only text outside of all braces
is kept. -/
def keptAt (depth : Nat) (text : List Char) (pieces : List (List Char)) : List (List Char) :=
  if depth = 0 then ontoFirst text pieces else pieces

theorem keptAt_keptAt (depth : Nat) (text more : List Char) (pieces : List (List Char)) :
    keptAt depth text (keptAt depth more pieces) = keptAt depth (text ++ more) pieces := by
  unfold keptAt
  split
  · exact (ontoFirst_append _ _ _).symm
  · rfl

theorem statementPieces_plain {quoting : Quoting} {c : Char} {depth : Nat}
    (plain : quoting.isOutside = true → c ≠ '{' ∧ c ≠ '}' ∧ (c = ';' → depth ≠ 0))
    (rest : List Char) : statementPieces quoting depth (c :: rest) =
      keptAt depth [c] (statementPieces (quoting.next c) depth rest) := by
  rw [statementPieces.eq_def]
  cases outside : quoting.isOutside with
  | false => rfl
  | true =>
    obtain ⟨notOpening, notClosing, inner⟩ := plain outside
    have goesOn : (c == ';' && decide (depth = 0)) = false := by
      rw [Bool.and_eq_false_imp]
      exact fun same => decide_eq_false (inner (beq_iff_eq.1 same))
    simp only [beq_eq_false_iff_ne.2 notOpening, beq_eq_false_iff_ne.2 notClosing,
      Bool.true_and, goesOn]
    rfl

theorem statementPieces_ne_nil (quoting : Quoting) (depth : Nat) (text : List Char) :
    statementPieces quoting depth text ≠ [] := by
  induction text generalizing quoting depth with
  | nil => exact List.cons_ne_nil _ _
  | cons c text ih =>
    rw [statementPieces]
    split
    · dsimp only
      split
      · exact List.cons_ne_nil _ _
      · exact ih _ _
    · split
      · exact ih _ _
      · split
        · exact List.cons_ne_nil _ _
        · dsimp only
          split
          · exact consFirst_ne_nil _ _
          · exact ih _ _

theorem statementPieces_keepsLiterals (depth : Nat) :
    KeepsLiterals (fun quoting => statementPieces quoting depth) (keptAt depth) where
  joins := keptAt_keptAt depth
  begins {quote} isOne rest := by
    rw [statementPieces_plain fun _ => ⟨ne_of_class isOne rfl, ne_of_class isOne rfl, fun same =>
      absurd same (ne_of_class isOne rfl)⟩, Quoting.next_quote isOne]
  goesOn quote escaped c rest := statementPieces_plain (by simp [Quoting.isOutside]) rest

/-- Text without breaks stays in one statement. -/
theorem statementPieces_unbroken {text : List Char} (unbroken : Unbroken text)
    (rest : List Char) : statementPieces .outside 0 (text ++ rest) =
      ontoFirst text (statementPieces .outside 0 rest) := by
  induction unbroken with
  | nil => rfl
  | char plain opening closing semicolon _ ih =>
    rw [List.cons_append, statementPieces_plain fun _ => ⟨opening, closing, fun same =>
      absurd same semicolon⟩, Quoting.next_plain plain, ih]
    rfl
  | literal isOne written _ ih =>
    rw [List.cons_append, List.append_assoc, List.cons_append,
      (statementPieces_keepsLiterals 0).literal_eq isOne written, ih, keptAt, if_pos rfl,
      ← ontoFirst_append]
    simp

theorem statementPieces_opening (depth : Nat) (rest : List Char) :
    statementPieces .outside (depth + 1) ('{' :: rest) =
      statementPieces .outside (depth + 2) rest := rfl

theorem statementPieces_closing (depth : Nat) (rest : List Char) :
    statementPieces .outside (depth + 1) ('}' :: rest) =
      statementPieces .outside depth rest := rfl

/-- Nothing of a block is kept. -/
theorem statementPieces_balanced {text : List Char} (balanced : Balanced [.curly] text)
    (depth : Nat) (rest : List Char) : statementPieces .outside (depth + 1) (text ++ rest) =
      statementPieces .outside (depth + 1) rest := by
  induction balanced generalizing depth rest with
  | nil => rfl
  | char plain other _ ih =>
    obtain ⟨opening, closing⟩ := other .curly List.mem_cons_self
    rw [List.cons_append, statementPieces_plain fun _ => ⟨opening, closing, fun _ =>
      Nat.succ_ne_zero depth⟩, Quoting.next_plain plain, ih]
    rfl
  | literal isOne written _ ih =>
    rw [List.cons_append, List.append_assoc, List.cons_append,
      (statementPieces_keepsLiterals (depth + 1)).literal_eq isOne written, ih]
    rfl
  | group kind one _ _ ihInside ihBehind =>
    obtain rfl := List.mem_singleton.1 one
    rw [List.cons_append, List.append_assoc, List.cons_append, Bracket.opening, Bracket.closing,
      statementPieces_opening, ihInside, statementPieces_closing, ihBehind]

theorem statementPieces_block {inside : List Char} (balanced : Balanced [.curly] inside)
    (rest : List Char) : statementPieces .outside 0 ('{' :: (inside ++ '}' :: rest)) =
      [] :: statementPieces .outside 0 rest := by
  have opens : statementPieces .outside 0 ('{' :: (inside ++ '}' :: rest)) =
      [] :: statementPieces .outside 1 (inside ++ '}' :: rest) := rfl
  rw [opens, statementPieces_balanced balanced 0, statementPieces_closing]

/-- What is left open stays open behind. -/
theorem exists_statementPieces_opened {text : List Char} (opened : Opened text) (depth : Nat) :
    ∃ deeper, ∀ rest, statementPieces .outside (depth + 1) (text ++ rest) =
      statementPieces .outside (deeper + 1) rest := by
  induction opened generalizing depth with
  | balanced balanced => exact ⟨depth, statementPieces_balanced balanced depth⟩
  | deeper balanced _ ih =>
    obtain ⟨deeper, same⟩ := ih (depth + 1)
    refine ⟨deeper, fun rest => ?_⟩
    rw [List.append_assoc, List.cons_append, statementPieces_balanced balanced,
      statementPieces_opening, same]

/-- Behind whole members a new statement begins, with white space from them at most. -/
theorem exists_statementPieces_members {before : List Char} (members : WholeMembers before) :
    ∃ pieces gap, (∀ c ∈ gap, Text.isBlank c = true) ∧ ∀ rest,
      statementPieces .outside 0 (before ++ rest) =
        pieces ++ ontoFirst gap (statementPieces .outside 0 rest) := by
  induction members with
  | nil => exact ⟨[], [], by simp, fun rest => rfl⟩
  | @blank c before blank _ ih =>
    obtain ⟨pieces, gap, blanks, same⟩ := ih
    have step (rest : List Char) : statementPieces .outside 0 (c :: rest) =
        consFirst c (statementPieces .outside 0 rest) := by
      obtain ⟨quote, opening, closing, semicolon⟩ := unmarked_isBlank.inStatement blank
      rw [statementPieces_plain fun _ => ⟨opening, closing, fun same => absurd same semicolon⟩,
        Quoting.next_plain quote]
      rfl
    cases pieces with
    | nil =>
      refine ⟨[], c :: gap, List.forall_mem_cons.2 ⟨blank, blanks⟩, fun rest => ?_⟩
      rw [List.cons_append, step, same]
      rfl
    | cons piece pieces =>
      refine ⟨(c :: piece) :: pieces, gap, blanks, fun rest => ?_⟩
      rw [List.cons_append, step, same]
      rfl
  | @statement text before unbroken _ ih =>
    obtain ⟨pieces, gap, blanks, same⟩ := ih
    refine ⟨text :: pieces, gap, blanks, fun rest => ?_⟩
    have ends : statementPieces .outside 0 (';' :: (before ++ rest)) =
        [] :: statementPieces .outside 0 (before ++ rest) := rfl
    rw [List.append_assoc, List.cons_append, statementPieces_unbroken unbroken, ends,
      ontoFirst_cons, List.append_nil, same, List.cons_append]
  | @block text inside before unbroken balanced _ ih =>
    obtain ⟨pieces, gap, blanks, same⟩ := ih
    refine ⟨text :: pieces, gap, blanks, fun rest => ?_⟩
    rw [List.append_assoc, List.cons_append, List.append_assoc, List.cons_append,
      statementPieces_unbroken unbroken, statementPieces_block balanced, ontoFirst_cons,
      List.append_nil, same, List.cons_append]

/-! ## Lists -/

theorem listPieces_plain {quoting : Quoting} {c : Char} {depth : Nat}
    (plain : quoting.isOutside = true →
      opensGroup c = false ∧ closesGroup c = false ∧ (c = ',' → depth ≠ 0))
    (rest : List Char) : listPieces quoting depth (c :: rest) =
      consFirst c (listPieces (quoting.next c) depth rest) := by
  rw [listPieces.eq_def]
  cases outside : quoting.isOutside with
  | false => rfl
  | true =>
    obtain ⟨notOpening, notClosing, inner⟩ := plain outside
    have goesOn : (c == ',' && decide (depth = 0)) = false := by
      rw [Bool.and_eq_false_imp]
      exact fun same => decide_eq_false (inner (beq_iff_eq.1 same))
    simp only [notOpening, notClosing, Bool.true_and, goesOn]
    rfl

theorem listPieces_keepsLiterals (depth : Nat) :
    KeepsLiterals (fun quoting => listPieces quoting depth) ontoFirst where
  joins text more pieces := (ontoFirst_append text more pieces).symm
  begins {quote} isOne rest := by
    have notOpening : opensGroup quote = false := eq_false_of_quote isOne rfl rfl
    have notClosing : closesGroup quote = false := eq_false_of_quote isOne rfl rfl
    rw [listPieces_plain fun _ => ⟨notOpening, notClosing, fun same =>
      absurd same (ne_of_class isOne rfl)⟩, Quoting.next_quote isOne]
    rfl
  goesOn quote escaped c rest := listPieces_plain (by simp [Quoting.isOutside]) rest

/-- The brackets inside which a list is not split. -/
def groups : List Bracket := [.round, .square, .angle]

theorem opensGroup_eq_false {c : Char}
    (other : ∀ kind ∈ groups, c ≠ kind.opening ∧ c ≠ kind.closing) : opensGroup c = false := by
  have round : c ≠ '(' := (other .round (by decide)).1
  have square : c ≠ '[' := (other .square (by decide)).1
  have angle : c ≠ '<' := (other .angle (by decide)).1
  simp [opensGroup, round, square, angle]

theorem closesGroup_eq_false {c : Char}
    (other : ∀ kind ∈ groups, c ≠ kind.opening ∧ c ≠ kind.closing) : closesGroup c = false := by
  have round : c ≠ ')' := (other .round (by decide)).2
  have square : c ≠ ']' := (other .square (by decide)).2
  have angle : c ≠ '>' := (other .angle (by decide)).2
  simp [closesGroup, round, square, angle]

theorem listPieces_opening {kind : Bracket} (one : kind ∈ groups) (depth : Nat)
    (rest : List Char) : listPieces .outside depth (kind.opening :: rest) =
      consFirst kind.opening (listPieces .outside (depth + 1) rest) := by
  cases kind with
  | curly => exact absurd one (by decide)
  | round | square | angle => rfl

theorem listPieces_closing {kind : Bracket} (one : kind ∈ groups) (depth : Nat)
    (rest : List Char) : listPieces .outside (depth + 1) (kind.closing :: rest) =
      consFirst kind.closing (listPieces .outside depth rest) := by
  cases kind with
  | curly => exact absurd one (by decide)
  | round | square | angle => rfl

/-- Inside brackets a list is not split. -/
theorem listPieces_balanced {text : List Char} (balanced : Balanced groups text) (depth : Nat)
    (rest : List Char) : listPieces .outside (depth + 1) (text ++ rest) =
      ontoFirst text (listPieces .outside (depth + 1) rest) := by
  induction balanced generalizing depth rest with
  | nil => rfl
  | char plain other _ ih =>
    rw [List.cons_append, listPieces_plain fun _ => ⟨opensGroup_eq_false other,
      closesGroup_eq_false other, fun _ => Nat.succ_ne_zero depth⟩, Quoting.next_plain plain, ih]
    rfl
  | literal isOne written _ ih =>
    rw [List.cons_append, List.append_assoc, List.cons_append,
      (listPieces_keepsLiterals (depth + 1)).literal_eq isOne written, ih, ← ontoFirst_append]
    simp
  | @group inside behind kind one _ _ ihInside ihBehind =>
    rw [List.cons_append, List.append_assoc, List.cons_append, listPieces_opening one, ihInside,
      listPieces_closing one, ihBehind]
    simp only [← ontoFirst_singleton, ← ontoFirst_append]
    simp

theorem listPieces_group {kind : Bracket} {inside : List Char} (one : kind ∈ groups)
    (balanced : Balanced groups inside) (depth : Nat) (rest : List Char) :
    listPieces .outside depth (kind.opening :: (inside ++ kind.closing :: rest)) =
      ontoFirst (kind.opening :: (inside ++ [kind.closing])) (listPieces .outside depth rest) := by
  rw [listPieces_opening one, listPieces_balanced balanced, listPieces_closing one]
  simp only [← ontoFirst_singleton, ← ontoFirst_append]
  simp

/-- Pieces behind a text, when the text goes onto the first of them. -/
theorem exists_ontoFirst (text : List Char) (pieces : List (List Char)) (last : List Char) :
    ∃ pieces' last', ∀ behind, ontoFirst text (pieces ++ ontoFirst last behind) =
      pieces' ++ ontoFirst last' behind := by
  cases pieces with
  | nil => exact ⟨[], text ++ last, fun behind => (ontoFirst_append text last behind).symm⟩
  | cons piece pieces =>
    exact ⟨(text ++ piece) :: pieces, last, fun behind => ontoFirst_cons text piece _⟩

theorem exists_listPieces {text : List Char} (balanced : Balanced groups text) :
    ∃ pieces last, ∀ rest, listPieces .outside 0 (text ++ rest) =
      pieces ++ ontoFirst last (listPieces .outside 0 rest) := by
  induction balanced with
  | nil => exact ⟨[], [], fun rest => rfl⟩
  | @char c text plain other _ ih =>
    obtain ⟨pieces, last, same⟩ := ih
    by_cases comma : c = ','
    · subst comma
      refine ⟨[] :: pieces, last, fun rest => ?_⟩
      rw [List.cons_append, List.cons_append, ← same]
      rfl
    · obtain ⟨pieces', last', joined⟩ := exists_ontoFirst [c] pieces last
      refine ⟨pieces', last', fun rest => ?_⟩
      rw [List.cons_append, listPieces_plain fun _ => ⟨opensGroup_eq_false other,
        closesGroup_eq_false other, fun same => absurd same comma⟩, Quoting.next_plain plain, same,
        ← joined]
      rfl
  | @literal quote contents text isOne written _ ih =>
    obtain ⟨pieces, last, same⟩ := ih
    obtain ⟨pieces', last', joined⟩ :=
      exists_ontoFirst (quote :: (contents ++ [quote])) pieces last
    refine ⟨pieces', last', fun rest => ?_⟩
    rw [List.cons_append, List.append_assoc, List.cons_append,
      (listPieces_keepsLiterals 0).literal_eq isOne written, same, joined]
  | @group inside text kind one balanced _ _ ih =>
    obtain ⟨pieces, last, same⟩ := ih
    obtain ⟨pieces', last', joined⟩ :=
      exists_ontoFirst (kind.opening :: (inside ++ [kind.closing])) pieces last
    refine ⟨pieces', last', fun rest => ?_⟩
    rw [List.cons_append, List.append_assoc, List.cons_append, listPieces_group one balanced, same,
      joined]

/-- Behind a comma the members are those of the rest. -/
theorem exists_members_comma {text : List Char} (balanced : Balanced groups text) :
    ∃ pieces, ∀ rest, members (text ++ ',' :: rest) = pieces ++ members rest := by
  obtain ⟨pieces, last, same⟩ := exists_listPieces balanced
  refine ⟨pieces ++ [last], fun rest => ?_⟩
  have ends : listPieces .outside 0 (',' :: rest) = [] :: listPieces .outside 0 rest := rfl
  rw [members, same, ends, ontoFirst_cons, List.append_nil, List.append_assoc, members]
  rfl

end SqlPreview.Source
