import Mathlib
import SqlPreview.Proofs.Source.Parameters
import SqlPreview.Source.Index

/-!
# Contents of literals

An index does not depend on what a string literal contains, wherever the readers of members go over
literals: in blocks, behind values, in annotations. It does depend on it elsewhere. Packages, imports
and types are searched for inside of literals too, the constants of an interface are read as methods
when there is a parenthesis in them, and the name of a parameter is looked for in literals.

This file defines source texts up to a place in code (`Cleared`), the places where readers do not
look into a literal (`Sheltered`), and contents in which nothing is found (`Silent`).

Results:
1. `stripComments_literal`: comments around a literal.
2. `Sheltered.declared_eq`: what a type declares.
3. `contents_ignored`: an index stays the same.
4. `class_in_literal_found`: a class declared in a literal is in the index.
-/

namespace SqlPreview.Source

/-! ## Comments -/

/-- A text that ends outside of comments and literals, and its code, where every comment to the end
of a line has gone and every block comment is a space. -/
inductive Cleared : List Char → List Char → Prop
  | nil : Cleared [] []
  | char {c : Char} {rest code : List Char} : isQuote c = false →
      (c = '/' → rest.head? ≠ some '/' ∧ rest.head? ≠ some '*') → Cleared rest code →
      Cleared (c :: rest) (c :: code)
  | literal {quote : Char} {contents rest code : List Char} : isQuote quote = true →
      Contents quote contents → Cleared rest code →
      Cleared (quote :: (contents ++ quote :: rest)) (quote :: (contents ++ quote :: code))
  | line {comment rest code : List Char} : '\n' ∉ comment → Cleared rest code →
      Cleared ('/' :: '/' :: (comment ++ '\n' :: rest)) ('\n' :: code)
  | block {comment rest code : List Char} : ¬ ['*', '/'] <:+: comment ++ ['*'] →
      Cleared rest code → Cleared ('/' :: '*' :: (comment ++ '*' :: '/' :: rest)) (' ' :: code)

theorem Cleared.plain {text rest code : List Char}
    (plain : ∀ c ∈ text, isQuote c = false ∧ c ≠ '/') (cleared : Cleared rest code) :
    Cleared (text ++ rest) (text ++ code) := by
  induction text with
  | nil => exact cleared
  | cons c text ih =>
    obtain ⟨⟨quote, slash⟩, plain⟩ := List.forall_mem_cons.1 plain
    exact .char quote (fun same => absurd same slash) (ih plain)

theorem Cleared.of_plain {text : List Char} (plain : ∀ c ∈ text, isQuote c = false ∧ c ≠ '/') :
    Cleared text text := by
  have cleared := Cleared.plain plain .nil
  rwa [List.append_nil] at cleared

theorem uncomment_code {quoting : Quoting} {c : Char} (rest : List Char)
    (goesOn : quoting = .outside → c = '/' → rest.head? ≠ some '/' ∧ rest.head? ≠ some '*') :
    uncomment (.code quoting) (c :: rest) = c :: uncomment (.code (quoting.next c)) rest := by
  rw [uncomment]
  · intro behind outside slash same
    exact (goesOn outside slash).1 (by rw [same]; rfl)
  · intro behind outside slash same
    exact (goesOn outside slash).2 (by rw [same]; rfl)

theorem uncomment_keepsLiterals :
    KeepsLiterals (fun quoting => uncomment (.code quoting)) (· ++ ·) where
  joins text more found := (List.append_assoc text more found).symm
  begins {quote} isOne rest := by
    rw [uncomment_code rest fun _ same => absurd same (ne_of_class isOne (by decide)),
      Quoting.next_quote isOne]
    rfl
  goesOn quote escaped c rest := uncomment_code rest fun outside => nomatch outside

theorem uncomment_line {comment : List Char} (plain : '\n' ∉ comment) (rest : List Char) :
    uncomment .line (comment ++ '\n' :: rest) = '\n' :: uncomment (.code .outside) rest := by
  induction comment with
  | nil => rfl
  | cons c comment ih =>
    obtain ⟨other, plain⟩ := not_or.1 (List.mem_cons.not.1 plain)
    rw [List.cons_append, uncomment, if_neg (by simpa using Ne.symm other), ih plain]

theorem uncomment_block {star : Bool} {comment : List Char}
    (first : star = true → comment.head? ≠ some '/')
    (plain : ¬ ['*', '/'] <:+: comment ++ ['*']) (rest : List Char) :
    uncomment (.block star) (comment ++ '*' :: '/' :: rest) =
      ' ' :: uncomment (.code .outside) rest := by
  induction comment generalizing star with
  | nil => simp [uncomment]
  | cons c comment ih =>
    have ends : (star && c == '/') = false := by
      rw [Bool.and_eq_false_imp, beq_eq_false_iff_ne]
      exact fun isStar slash => first isStar (by rw [slash]; rfl)
    rw [List.cons_append, uncomment, ends]
    refine ih (fun isStar slash => plain ?_) fun inside => plain ?_
    · obtain ⟨more, rfl⟩ := List.head?_eq_some_iff.1 slash
      rw [beq_iff_eq.1 isStar]
      exact ⟨[], more ++ ['*'], rfl⟩
    · exact inside.trans (List.suffix_cons c _).isInfix

/-- Up to a quote, comments go away and the rest stays. -/
theorem Cleared.uncomment_eq {text code : List Char} (cleared : Cleared text code) {quote : Char}
    (isOne : isQuote quote = true) (rest : List Char) :
    stripComments (text ++ quote :: rest) = code ++ stripComments (quote :: rest) := by
  have notSlash : quote ≠ '/' := ne_of_class isOne (by decide)
  have notStar : quote ≠ '*' := ne_of_class isOne (by decide)
  induction cleared with
  | nil => rfl
  | @char c text code plain goesOn _ ih =>
    have goesOn' (slash : c = '/') : (text ++ quote :: rest).head? ≠ some '/' ∧
        (text ++ quote :: rest).head? ≠ some '*' := by
      cases text with
      | nil => exact ⟨by simpa using notSlash, by simpa using notStar⟩
      | cons d text => exact goesOn slash
    rw [List.cons_append, stripComments, uncomment_code _ fun _ => goesOn',
      Quoting.next_plain plain, ← stripComments, ih, List.cons_append]
  | literal quoted written _ ih =>
    have skipped := uncomment_keepsLiterals.literal_eq quoted written
    rw [List.cons_append, List.append_assoc, List.cons_append, stripComments, skipped,
      ← stripComments, ih]
    simp
  | line plain _ ih =>
    rw [List.cons_append, List.cons_append, List.append_assoc, List.cons_append, stripComments,
      uncomment, uncomment_line plain, ← stripComments, ih, List.cons_append]
  | block plain _ ih =>
    rw [List.cons_append, List.cons_append, List.append_assoc, List.cons_append, List.cons_append,
      stripComments, uncomment, uncomment_block (by rintro ⟨⟩) plain, ← stripComments, ih,
      List.cons_append]

theorem stripComments_literal {text code : List Char} (cleared : Cleared text code) {quote : Char}
    (isOne : isQuote quote = true) {contents : List Char} (written : Contents quote contents)
    (rest : List Char) : stripComments (text ++ quote :: (contents ++ quote :: rest)) =
      code ++ quote :: (contents ++ quote :: stripComments rest) := by
  have skipped := uncomment_keepsLiterals.literal_eq isOne written rest
  rw [cleared.uncomment_eq isOne, stripComments, skipped, ← stripComments]
  simp

/-! ## Statements -/

section

variable {quote : Char} (isOne : isQuote quote = true) {contents contents' : List Char}
  (written : Contents quote contents) (written' : Contents quote contents')

include isOne

/-- A body with a literal in a statement: the literal is in one statement, the others are the
same. -/
theorem exists_statements_literal {before start gap : List Char} {pieces : List (List Char)}
    (blank : ∀ c ∈ gap, Text.isBlank c = true)
    (whole : ∀ rest, statementPieces .outside 0 (before ++ rest) =
      pieces ++ ontoFirst gap (statementPieces .outside 0 rest))
    (unbroken : Unbroken start) (rest : List Char) :
    ∃ kept others, ∀ contents, Contents quote contents →
      statements (before ++ (start ++ quote :: (contents ++ quote :: rest))) =
        nonblank pieces ++ (Text.trimStart start ++ quote :: (contents ++ quote :: kept)) :: others := by
  have solid : Text.isBlank quote = false := eq_false_of_quote isOne (by decide) (by decide)
  obtain ⟨piece, others, behind⟩ :=
    List.exists_cons_of_ne_nil (statementPieces_ne_nil .outside 0 rest)
  obtain ⟨kept, ends⟩ := Text.exists_trimEnd_cons solid piece
  refine ⟨kept, nonblank others, fun contents written => ?_⟩
  have trimmed : Text.trim (start ++ quote :: (contents ++ quote :: piece)) =
      Text.trimStart start ++ quote :: (contents ++ quote :: kept) := by
    have begins : Text.trimStart (start ++ quote :: (contents ++ quote :: piece)) =
        Text.trimStart start ++ quote :: (contents ++ quote :: piece) := dropWhile_stop solid _ _
    have front (tail : List Char) : Text.trimStart start ++ quote :: (contents ++ quote :: tail) =
        (Text.trimStart start ++ quote :: contents) ++ quote :: tail := by simp
    rw [Text.trim, begins, front, ends, front]
  have cut : statementPieces .outside 0 (start ++ quote :: (contents ++ quote :: rest)) =
      (start ++ quote :: (contents ++ quote :: piece)) :: others := by
    have literal := (statementPieces_keepsLiterals 0).literal_eq isOne written rest
    rw [statementPieces_unbroken unbroken, literal, behind, keptAt, if_pos rfl, ontoFirst_cons,
      ontoFirst_cons]
    simp
  rw [statements_eq blank (whole _) cut (by rw [trimmed]; simp), trimmed]

/-- What follows an opened block and a literal in it does not depend on the literal. -/
theorem statements_opened {before start inside : List Char} (members : WholeMembers before)
    (unbroken : Unbroken start) (opened : Opened inside) {contents contents' : List Char}
    (written : Contents quote contents) (written' : Contents quote contents') (rest : List Char) :
    statements (before ++ (start ++ '{' :: (inside ++ quote :: (contents ++ quote :: rest)))) =
      statements (before ++ (start ++ '{' :: (inside ++ quote :: (contents' ++ quote :: rest)))) := by
  obtain ⟨pieces, gap, -, same⟩ := exists_statementPieces_members members
  obtain ⟨deeper, opens⟩ := exists_statementPieces_opened opened 0
  have cut {contents : List Char} (written : Contents quote contents) :
      statementPieces .outside 0 (start ++ '{' :: (inside ++ quote :: (contents ++ quote :: rest))) =
        ontoFirst start ([] :: statementPieces .outside (deeper + 1) rest) := by
    have begins (tail : List Char) : statementPieces .outside 0 ('{' :: tail) =
        [] :: statementPieces .outside 1 tail := rfl
    have literal := (statementPieces_keepsLiterals (deeper + 1)).literal_eq isOne written rest
    rw [statementPieces_unbroken unbroken, begins, opens, literal]
    rfl
  rw [statements, statements, same, same, cut written, cut written']

end

/-! ## Types -/

theorem typeWithBody?_header {header : List Char} (plain : '{' ∉ header) (kind : ClassKind)
    (name rest : List Char) : typeWithBody? kind name (header ++ '{' :: rest) =
      (splitBraces? rest).bind fun pair =>
        if header.contains ';' then none else some (typeOfBody kind name header pair.1) := by
  have cut : Text.splitFirst? (· == '{') (header ++ '{' :: rest) = some (header, rest) :=
    Text.splitFirst?_eq_some.2 ⟨'{', rfl, fun c member => by
      rw [beq_eq_false_iff_ne]
      exact ne_of_mem_of_not_mem member plain, rfl⟩
  rw [typeWithBody?, cut]
  rfl

/-- A semicolon before the body. -/
theorem typeWithBody?_noBody {text : List Char} (plain : '{' ∉ text) (ends : ';' ∈ text)
    (kind : ClassKind) (name rest : List Char) : typeWithBody? kind name (text ++ rest) = none := by
  have noBrace : ∀ c ∈ text, (c == '{') = false := fun c member => by
    rw [beq_eq_false_iff_ne]
    exact ne_of_mem_of_not_mem member plain
  rw [typeWithBody?, splitFirst?_append noBrace]
  cases Text.splitFirst? (· == '{') rest with
  | none => rfl
  | some pair =>
    have inHeader : (text ++ pair.1).contains ';' = true :=
      List.contains_iff_mem.2 (List.mem_append_left _ ends)
    simp only [Option.map_some, Option.bind_eq_bind, Option.bind_some, inHeader, if_true]
    cases splitBraces? pair.2 <;> rfl

theorem exists_splitClosing?_opened {text : List Char} (opened : Opened text) (depth : Nat) :
    ∃ deeper, ∀ rest, splitClosing? '{' '}' .outside depth (text ++ rest) =
      inFront text (splitClosing? '{' '}' .outside deeper rest) := by
  have skips {text : List Char} (balanced : Balanced [.curly] text) (depth : Nat)
      (rest : List Char) : splitClosing? '{' '}' .outside depth (text ++ rest) =
        inFront text (splitClosing? '{' '}' .outside depth rest) := by
    have one : Bracket.curly ∈ [Bracket.curly] := List.mem_singleton_self _
    exact splitClosing?_balanced one balanced depth rest
  induction opened generalizing depth with
  | balanced balanced => exact ⟨depth, skips balanced depth⟩
  | @deeper text behind balanced _ ih =>
    obtain ⟨deeper, same⟩ := ih (depth + 1)
    have opens (tail : List Char) : splitClosing? '{' '}' .outside depth ('{' :: tail) =
        inFront ['{'] (splitClosing? '{' '}' .outside (depth + 1) tail) :=
      splitClosing?_opening depth tail
    refine ⟨deeper, fun rest => ?_⟩
    rw [List.append_assoc, List.cons_append, skips balanced, opens, same, inFront_inFront,
      inFront_inFront]
    simp

section

variable {quote : Char} (isOne : isQuote quote = true) {contents contents' : List Char}
  (written : Contents quote contents) (written' : Contents quote contents')

include isOne written written'

/-- A type reads the same if its body does, whatever is left of the body behind the literal. -/
theorem typeWithBody?_literal {header front behind : List Char} (plain : '{' ∉ header)
    (opened : Opened front) (balanced : Balanced [.curly] behind) {kind : ClassKind}
    {name : List Char}
    (same : ∀ tail,
      typeOfBody kind name header (front ++ quote :: (contents ++ quote :: (behind ++ tail))) =
        typeOfBody kind name header (front ++ quote :: (contents' ++ quote :: (behind ++ tail))))
    (rest : List Char) :
    typeWithBody? kind name
        (header ++ '{' :: front ++ quote :: (contents ++ quote :: (behind ++ rest))) =
      typeWithBody? kind name
        (header ++ '{' :: front ++ quote :: (contents' ++ quote :: (behind ++ rest))) := by
  obtain ⟨depth, opens⟩ := exists_splitClosing?_opened opened 0
  have skips {contents : List Char} (written : Contents quote contents) :
      splitBraces? (front ++ quote :: (contents ++ quote :: (behind ++ rest))) =
        inFront (front ++ quote :: (contents ++ quote :: behind))
          (splitClosing? '{' '}' .outside depth rest) := by
    have literal := (splitClosing?_keepsLiterals .curly depth).literal_eq isOne written
    have inBehind := splitClosing?_balanced (List.mem_singleton_self _) balanced depth rest
    rw [splitBraces?, opens]
    refine (congrArg (inFront front) ((literal _).trans (congrArg _ inBehind))).trans ?_
    rw [inFront_inFront, inFront_inFront]
    simp [Bracket.opening, Bracket.closing]
  rw [List.append_assoc, List.append_assoc, List.cons_append, List.cons_append,
    typeWithBody?_header plain, typeWithBody?_header plain, skips written, skips written']
  cases splitClosing? '{' '}' .outside depth rest with
  | none => rfl
  | some pair =>
    have equal := same pair.1
    simp only [inFront, Option.map_some, Option.bind_some, List.append_assoc, List.cons_append]
    rw [equal]

end

/-! ## Sheltered places -/

/-- The places of a literal at which readers do not look into it, for a type that begins before
it: given the text from the name of the type to the literal, and the text behind the literal. -/
inductive Sheltered (contents contents' : List Char) : ClassKind → List Char → List Char → Prop
  /-- The word declares nothing: a semicolon comes before any body. -/
  | noBody {kind : ClassKind} {text rest : List Char} : '{' ∉ text → ';' ∈ text →
      Sheltered contents contents' kind text rest
  /-- The body of the type ends before the literal. -/
  | finished {kind : ClassKind} {header body behind rest : List Char} : '{' ∉ header →
      Balanced [.curly] body →
      Sheltered contents contents' kind (header ++ '{' :: (body ++ '}' :: behind)) rest
  /-- In a block of the body: of a method, of a nested type, or of an array. -/
  | block {kind : ClassKind} {header members start inside rest : List Char} : '{' ∉ header →
      WholeMembers members → Unbroken start → Opened inside →
      Sheltered contents contents' kind (header ++ '{' :: (members ++ (start ++ '{' :: inside))) rest
  /-- In a member with fields around it, behind a value sign or a parenthesis. -/
  | member {kind : ClassKind} {header members start rest : List Char} : kind ≠ .interface →
      '{' ∉ header → WholeMembers members → Unbroken start → Shielded start →
      Sheltered contents contents' kind (header ++ '{' :: (members ++ start)) rest
  /-- Among the constants of an enumeration. -/
  | constant {header start rest : List Char} : '{' ∉ header → Unbroken start →
      Sheltered contents contents' .enumeration (header ++ '{' :: start) rest
  /-- In an annotation in front of a method. -/
  | method {header members start rest : List Char} : '{' ∉ header → WholeMembers members →
      Unbroken start → (afterLeadingAnnotations start).head? = some '(' →
      Sheltered contents contents' .interface (header ++ '{' :: (members ++ start)) rest
  /-- In an annotation of a parameter that gives it no name. -/
  | parameter {header members signature list start rest : List Char} : '{' ∉ header →
      WholeMembers members → Signature signature → Unbroken list → ListStart list →
      ParameterStart start → (around : Surroundings) →
      Sheltered contents contents' .interface (header ++ '{' :: (members ++ (signature ++
        '(' :: (list ++ (start ++ around.opening))))) (around.closing ++ rest)
  /-- In a statement of an interface without any parenthesis. -/
  | value {header members start behind rest : List Char} : '{' ∉ header →
      WholeMembers members → Unbroken start → '(' ∉ start → '(' ∉ contents → '(' ∉ contents' →
      Unbroken behind → '(' ∉ behind →
      Sheltered contents contents' .interface (header ++ '{' :: (members ++ start))
        (behind ++ ';' :: rest)

section

variable {quote : Char} (isOne : isQuote quote = true) {contents contents' : List Char}
  (written : Contents quote contents) (written' : Contents quote contents')

include isOne written written'

theorem field?_trimStart {start : List Char} (unbroken : Unbroken start)
    (shielded : Shielded start) (rest : List Char) :
    field? (Text.trimStart start ++ quote :: (contents ++ quote :: rest)) =
      field? (Text.trimStart start ++ quote :: (contents' ++ quote :: rest)) := by
  obtain ⟨gap, blank, same⟩ := Text.exists_trimStart start
  have begins (tail : List Char) : field? (Text.trimStart start ++ tail) = field? (start ++ tail) := by
    conv_rhs => rw [same, List.append_assoc, field?_blank blank]
  rw [begins, begins, field?_literal isOne unbroken.balanced.after_eq shielded rest written written']

theorem method?_trimStart {start : List Char} (unbroken : Unbroken start)
    (opened : (afterLeadingAnnotations start).head? = some '(') (rest : List Char) :
    method? (Text.trimStart start ++ quote :: (contents ++ quote :: rest)) =
      method? (Text.trimStart start ++ quote :: (contents' ++ quote :: rest)) := by
  obtain ⟨gap, blank, same⟩ := Text.exists_trimStart start
  have begins (tail : List Char) : method? (Text.trimStart start ++ tail) = method? (start ++ tail) := by
    conv_rhs => rw [same, List.append_assoc, method?_blank blank]
  rw [begins, begins, method?_literal isOne unbroken.balanced.after_eq opened rest written written']

theorem constants_trimStart {start : List Char} (unbroken : Unbroken start) (rest : List Char) :
    constants (Text.trimStart start ++ quote :: (contents ++ quote :: rest)) =
      constants (Text.trimStart start ++ quote :: (contents' ++ quote :: rest)) := by
  have closed : Quoting.outside.after (Text.trimStart start) = .outside := by
    rw [after_trimStart, unbroken.balanced.after_eq]
  exact constants_literal isOne closed rest written written'

/-! ### Bodies -/

theorem typeOfBody_block {members start inside : List Char} (whole : WholeMembers members)
    (unbroken : Unbroken start) (opened : Opened inside) (kind : ClassKind)
    (name header rest : List Char) :
    typeOfBody kind name header
        (members ++ (start ++ '{' :: (inside ++ quote :: (contents ++ quote :: rest)))) =
      typeOfBody kind name header
        (members ++ (start ++ '{' :: (inside ++ quote :: (contents' ++ quote :: rest)))) :=
  typeOfBody_congr (statements_opened isOne whole unbroken opened written written' rest) kind name
    header

theorem typeOfBody_member {members start : List Char} {kind : ClassKind} (other : kind ≠ .interface)
    (whole : WholeMembers members) (unbroken : Unbroken start) (shielded : Shielded start)
    (name header rest : List Char) :
    typeOfBody kind name header (members ++ (start ++ quote :: (contents ++ quote :: rest))) =
      typeOfBody kind name header
        (members ++ (start ++ quote :: (contents' ++ quote :: rest))) := by
  obtain ⟨pieces, gap, blank, same⟩ := exists_statementPieces_members whole
  obtain ⟨kept, others, cut⟩ := exists_statements_literal isOne blank same unbroken rest
  have fields := field?_trimStart isOne written written' unbroken shielded kept
  cases kind with
  | interface => exact absurd rfl other
  | ordinary => exact typeOfBody_ordinary (cut _ written) (cut _ written') fields
  | enumeration =>
    exact typeOfBody_enumeration (cut _ written) (cut _ written')
      (constants_trimStart isOne written written' unbroken kept) fun _ => fields

theorem typeOfBody_constant {start : List Char} (unbroken : Unbroken start)
    (name header rest : List Char) :
    typeOfBody .enumeration name header (start ++ quote :: (contents ++ quote :: rest)) =
      typeOfBody .enumeration name header (start ++ quote :: (contents' ++ quote :: rest)) := by
  have whole (rest : List Char) : statementPieces .outside 0 ([] ++ rest) =
      [] ++ ontoFirst [] (statementPieces .outside 0 rest) := rfl
  obtain ⟨kept, others, cut⟩ :=
    exists_statements_literal isOne (List.forall_mem_nil _) whole unbroken rest
  exact typeOfBody_enumeration (cut _ written) (cut _ written')
    (constants_trimStart isOne written written' unbroken kept) fun other => absurd rfl other

theorem typeOfBody_method {members start : List Char} (whole : WholeMembers members)
    (unbroken : Unbroken start) (opened : (afterLeadingAnnotations start).head? = some '(')
    (name header rest : List Char) :
    typeOfBody .interface name header (members ++ (start ++ quote :: (contents ++ quote :: rest))) =
      typeOfBody .interface name header
        (members ++ (start ++ quote :: (contents' ++ quote :: rest))) := by
  obtain ⟨pieces, gap, blank, same⟩ := exists_statementPieces_members whole
  obtain ⟨kept, others, cut⟩ := exists_statements_literal isOne blank same unbroken rest
  exact typeOfBody_interface (cut _ written) (cut _ written')
    (method?_trimStart isOne written written' unbroken opened kept)

omit written written' in
/-- The statement ends with the semicolon behind the literal, so there is no parenthesis in it. -/
theorem exists_statements_value {members start behind : List Char} (whole : WholeMembers members)
    (unbroken : Unbroken start) (absent : '(' ∉ start) (unbroken' : Unbroken behind)
    (absent' : '(' ∉ behind) (rest : List Char) :
    ∃ earlier others, ∀ contents, Contents quote contents → '(' ∉ contents → ∃ statement,
      method? statement = none ∧
        statements (members ++ (start ++ quote :: (contents ++ quote :: (behind ++ ';' :: rest)))) =
          earlier ++ statement :: others := by
  obtain ⟨pieces, gap, blank, same⟩ := exists_statementPieces_members whole
  refine ⟨nonblank pieces, nonblank (statementPieces .outside 0 rest), fun contents written silent =>
    ⟨Text.trim (start ++ quote :: (contents ++ quote :: behind)), ?_, ?_⟩⟩
  · refine method?_eq_none fun member => ?_
    have opening : '(' ≠ quote := (ne_of_class isOne (by decide)).symm
    simpa [absent, silent, absent', opening] using Text.mem_of_mem_trim member
  · have solid : Text.isBlank quote = false := eq_false_of_quote isOne (by decide) (by decide)
    have statement : Unbroken (start ++ quote :: (contents ++ quote :: behind)) :=
      unbroken.append (.literal isOne written unbroken')
    have ends : statementPieces .outside 0 (';' :: rest) =
        [] :: statementPieces .outside 0 rest := rfl
    have cut := statementPieces_unbroken statement (';' :: rest)
    rw [ends, ontoFirst_cons, List.append_nil] at cut
    have shape : start ++ quote :: (contents ++ quote :: (behind ++ ';' :: rest)) =
        start ++ quote :: (contents ++ quote :: behind) ++ ';' :: rest := by simp
    rw [shape, statements_eq blank (same _) cut (Text.trim_ne_nil solid (by simp))]

theorem typeOfBody_value {members start behind : List Char} (whole : WholeMembers members)
    (unbroken : Unbroken start) (absent : '(' ∉ start) (unbroken' : Unbroken behind)
    (absent' : '(' ∉ behind) (silent : '(' ∉ contents) (silent' : '(' ∉ contents')
    (name header rest : List Char) :
    typeOfBody .interface name header
        (members ++ (start ++ quote :: (contents ++ quote :: (behind ++ ';' :: rest)))) =
      typeOfBody .interface name header
        (members ++ (start ++ quote :: (contents' ++ quote :: (behind ++ ';' :: rest)))) := by
  obtain ⟨earlier, others, cut⟩ :=
    exists_statements_value isOne whole unbroken absent unbroken' absent' rest
  obtain ⟨statement, none, same⟩ := cut contents written silent
  obtain ⟨statement', none', same'⟩ := cut contents' written' silent'
  exact typeOfBody_interface same same' (none.trans none'.symm)

/-- A sheltered literal is nothing to what a type declares. -/
theorem Sheltered.declared_eq {kind : ClassKind} {text rest : List Char}
    (sheltered : Sheltered contents contents' kind text rest)
    (silent : ¬ "@Param".toList <:+: contents) (silent' : ¬ "@Param".toList <:+: contents')
    (name : List Char) :
    typeWithBody? kind name (text ++ quote :: (contents ++ quote :: rest)) =
      typeWithBody? kind name (text ++ quote :: (contents' ++ quote :: rest)) := by
  cases sheltered with
  | noBody plain ends => rw [typeWithBody?_noBody plain ends, typeWithBody?_noBody plain ends]
  | @finished _ header body behind _ plain balanced =>
    simp only [List.append_assoc, List.cons_append]
    rw [typeWithBody?_header plain, typeWithBody?_header plain, splitBraces?_balanced balanced,
      splitBraces?_balanced balanced]
    rfl
  | @block _ header members start inside _ plain whole unbroken opened =>
    have front : Opened (members ++ (start ++ '{' :: inside)) := by
      rw [← List.append_assoc]
      exact .deeper (whole.balanced.append unbroken.balanced) opened
    refine typeWithBody?_literal isOne written written' plain front .nil (fun tail => ?_) rest
    simpa using typeOfBody_block isOne written written' whole unbroken opened kind name header tail
  | @member _ header members start _ other plain whole unbroken shielded =>
    have front : Opened (members ++ start) := .balanced (whole.balanced.append unbroken.balanced)
    refine typeWithBody?_literal isOne written written' plain front .nil (fun tail => ?_) rest
    simpa using
      typeOfBody_member isOne written written' other whole unbroken shielded name header tail
  | @constant header start _ plain unbroken =>
    have front : Opened start := .balanced unbroken.balanced
    refine typeWithBody?_literal isOne written written' plain front .nil (fun tail => ?_) rest
    exact typeOfBody_constant isOne written written' unbroken name header tail
  | @method header members start _ plain whole unbroken opened =>
    have front : Opened (members ++ start) := .balanced (whole.balanced.append unbroken.balanced)
    refine typeWithBody?_literal isOne written written' plain front .nil (fun tail => ?_) rest
    simpa using typeOfBody_method isOne written written' whole unbroken opened name header tail
  | @parameter header members signature list start rest plain whole signed inOne listStart inside
      around =>
    have front : Opened (members ++ (signature ++ '(' :: (list ++ (start ++ around.opening)))) := by
      have parameters : Unbroken ('(' :: (list ++ (start ++ around.opening))) :=
        .char (by decide) (by decide) (by decide) (by decide)
          (inOne.append (inside.isUnbroken.append around.isUnbroken_opening))
      exact .balanced (whole.balanced.append (signed.unbroken.append parameters).balanced)
    refine typeWithBody?_literal isOne written written' plain front around.isBalanced_closing
      (fun tail => ?_) rest
    have read := typeOfBody_annotations (around.filled_inOneParameter isOne written silent)
      (around.filled_inOneParameter isOne written' silent') (by rintro ⟨⟩) (by rintro ⟨⟩)
      (around.filled_inOneStatement isOne written) (around.filled_inOneStatement isOne written')
      whole signed inOne listStart inside name header tail
    simpa [Surroundings.text_filled] using read
  | @value header members start behind rest plain whole unbroken absent silent silent' unbroken'
      absent' =>
    have front : Opened (members ++ start) := .balanced (whole.balanced.append unbroken.balanced)
    have ends : Balanced [.curly] (behind ++ [';']) :=
      unbroken'.balanced.append (.char (by decide) (by decide) .nil)
    have shape : behind ++ ';' :: rest = (behind ++ [';']) ++ rest := by simp
    rw [shape]
    refine typeWithBody?_literal isOne written written' plain front ends (fun tail => ?_) rest
    simpa using typeOfBody_value isOne written written' whole unbroken absent unbroken' absent'
      silent silent' name header tail

end

/-! ## Files -/

/-- Contents of a literal that declare nothing and name no parameter, given the code before and
behind the literal. The package of a file is the first one found. -/
structure Silent (quote : Char) (code rest contents : List Char) : Prop where
  package : occurrences (fun _ => package?) none code = [] →
    occurrences (fun _ => package?) (some quote) contents = []
  imports : ∀ name ∈ occurrences (fun _ => import?) (some quote) contents, name = none
  types : ∀ head ∈ occurrences typeHead? (some quote) contents,
    (head.extended (quote :: rest)).declared = none
  names : ¬ "@Param".toList <:+: contents

/-- What is found in a text with a literal: before it, in it, and behind it. -/
theorem occurrences_literal {α : Type}
    {find : (previous : Option Char) → (text : List Char) → Option (Taken text α)} {quote : Char}
    (grow : List Char → α → α)
    (stops : ∀ previous text rest, found (find previous (text ++ quote :: rest)) =
      (found (find previous text)).map (Prod.map (grow (quote :: rest)) (· ++ quote :: rest)))
    (code contents rest : List Char) :
    occurrences find none (code ++ quote :: (contents ++ quote :: rest)) =
      (occurrences find none code).map (grow (quote :: (contents ++ quote :: rest))) ++
        ((occurrences find (some quote) contents).map (grow (quote :: rest)) ++
          occurrences find (some quote) rest) := by
  rw [occurrences_quote _ fun previous text => stops previous text _,
    occurrences_quote _ fun previous text => stops previous text _]

section

variable {quote : Char} (isOne : isQuote quote = true) {code rest contents contents' : List Char}

include isOne

/-- The file around silent contents. -/
theorem fileOfCode_literal (silent : Silent quote code rest contents) :
    fileOfCode (code ++ quote :: (contents ++ quote :: rest)) =
      { package := String.ofList ((occurrences (fun _ => package?) none code ++
          occurrences (fun _ => package?) (some quote) rest).headD [])
        imports := (occurrences (fun _ => import?) none code ++
          occurrences (fun _ => import?) (some quote) rest).filterMap fun name =>
            name.map String.ofList
        types := (occurrences typeHead? none code).filterMap (fun head =>
            (head.extended (quote :: (contents ++ quote :: rest))).declared) ++
          (occurrences typeHead? (some quote) rest).filterMap TypeHead.declared } := by
  have packages := occurrences_literal (fun _ => id)
    (fun _ text rest => package?_stops text quote rest isOne) code contents rest
  have imports := occurrences_literal (fun _ => id)
    (fun _ text rest => import?_stops text quote rest isOne) code contents rest
  have types := occurrences_literal (fun more head => TypeHead.extended head more)
    (fun previous text rest => typeHead?_stops previous isOne text rest) code contents rest
  simp only [List.map_id] at packages imports
  have noImport : (occurrences (fun _ => import?) (some quote) contents).filterMap
      (fun name => name.map String.ofList) = [] :=
    List.filterMap_eq_nil_iff.2 fun name member => by rw [silent.imports name member]; rfl
  have noType : (occurrences typeHead? (some quote) contents).filterMap
      (fun head => (head.extended (quote :: rest)).declared) = [] :=
    List.filterMap_eq_nil_iff.2 silent.types
  rw [fileOfCode, occurrences_typeHere?, packages, imports, types]
  congr 1
  · cases first : occurrences (fun _ => package?) none code with
    | nil => rw [silent.package first, List.nil_append, List.nil_append]
    | cons name names => rfl
  · simp [noImport]
  · simp only [List.filterMap_map, List.filterMap_append, Function.comp_def, id, noType,
      List.nil_append]

/-- A sheltered literal is nothing to a file. -/
theorem read_literal {text rest : List Char} (cleared : Cleared text code)
    (written : Contents quote contents) (written' : Contents quote contents')
    (silent : Silent quote code (stripComments rest) contents)
    (silent' : Silent quote code (stripComments rest) contents')
    (sheltered : ∀ head ∈ occurrences typeHead? none code, head.behindAt = false →
      Sheltered contents contents' head.kind head.text (stripComments rest)) :
    read (String.ofList (text ++ quote :: (contents ++ quote :: rest))) =
      read (String.ofList (text ++ quote :: (contents' ++ quote :: rest))) := by
  have types : (occurrences typeHead? none code).filterMap (fun head =>
        (head.extended (quote :: (contents ++ quote :: stripComments rest))).declared) =
      (occurrences typeHead? none code).filterMap fun head =>
        (head.extended (quote :: (contents' ++ quote :: stripComments rest))).declared := by
    refine List.filterMap_congr fun head member => ?_
    rw [TypeHead.declared_extended, TypeHead.declared_extended]
    by_cases behindAt : head.behindAt = true
    · rw [if_pos behindAt, if_pos behindAt]
    · rw [if_neg behindAt, if_neg behindAt]
      exact (sheltered head member (Bool.eq_false_of_not_eq_true behindAt)).declared_eq isOne
        written written' silent.names silent'.names head.name
  simp only [read, String.toList_ofList]
  rw [stripComments_literal cleared isOne written, stripComments_literal cleared isOne written',
    fileOfCode_literal isOne silent, fileOfCode_literal isOne silent', types]

end

/-- What a literal contains does not matter to an index, as long as the readers do not look into the
literal and nothing in it reads as a declaration. -/
theorem contents_ignored {quote : Char} (isOne : isQuote quote = true)
    {text code contents contents' rest : List Char} (cleared : Cleared text code)
    (written : Contents quote contents) (written' : Contents quote contents')
    (silent : Silent quote code (stripComments rest) contents)
    (silent' : Silent quote code (stripComments rest) contents')
    (sheltered : ∀ head ∈ occurrences typeHead? none code, head.behindAt = false →
      Sheltered contents contents' head.kind head.text (stripComments rest))
    (before after : List String) :
    Index.ofTexts
        (before ++ String.ofList (text ++ quote :: (contents ++ quote :: rest)) :: after) =
      Index.ofTexts
        (before ++ String.ofList (text ++ quote :: (contents' ++ quote :: rest)) :: after) := by
  simp only [Index.ofTexts, List.map_append, List.map_cons,
    read_literal isOne cleared written written' silent silent' sheltered]

/-- An SQL statement, and other text that is full of what readers look for. -/
theorem sql_ignored :
    let contents := "SELECT name FROM t WHERE id = #{id}".toList
    let contents' := "'); class B; // import q.T, interface \x7d".toList
    let declared := " package p; interface M \x7b ".toList
    let selects := "  @Select(".toList
    let text := '/' :: '*' :: (" rows ".toList ++ '*' :: '/' ::
      (declared ++ '/' :: '/' :: (" one row".toList ++ '\n' :: selects)))
    let code := ' ' :: (declared ++ '\n' :: selects)
    let rest := ") A find(int id); \x7d".toList
    let index (contents : List Char) := Index.ofTexts
      ["class A \x7b\x7d", String.ofList (text ++ '"' :: (contents ++ '"' :: rest))]
    Cleared text code ∧ Silent '"' code rest contents ∧ Silent '"' code rest contents' ∧
      ((index contents).signatures.find? "p.M" "find").isSome = true ∧
      index contents = index contents' := by
  intro contents contents' declared selects text code rest index
  have last : Cleared selects selects := .of_plain (by simp [selects, isQuote])
  have cleared : Cleared text code :=
    .block (by decide +kernel) (.plain (by simp [declared, isQuote]) (.line (by simp) last))
  have silent : Silent '"' code rest contents :=
    ⟨by decide +kernel, by decide +kernel, by decide +kernel, by decide +kernel⟩
  have silent' : Silent '"' code rest contents' :=
    ⟨by decide +kernel, by decide +kernel, by decide +kernel, by decide +kernel⟩
  have sheltered : ∀ head ∈ occurrences typeHead? none code, head.behindAt = false →
      Sheltered contents contents' head.kind head.text rest := by
    have heads : occurrences typeHead? none code =
        [⟨false, .interface, "M".toList, [' '] ++ '{' :: ([' ', '\n'] ++ selects)⟩] := by
      decide +kernel
    rw [heads, List.forall_mem_singleton]
    intro _
    have blank : WholeMembers [' ', '\n'] := .blank (by decide) (.blank (by decide) .nil)
    have unbroken : Unbroken selects := .of_plain (by simp [selects, isQuote])
    exact .method (by decide) blank unbroken (by decide +kernel)
  have noComment : stripComments rest = rest := by decide +kernel
  refine ⟨cleared, silent, silent', by decide +kernel, ?_⟩
  exact contents_ignored rfl cleared (.of_plain (by simp [contents]))
    (.of_plain (by simp [contents'])) (noComment.symm ▸ silent) (noComment.symm ▸ silent')
    (noComment.symm ▸ sheltered) ["class A \x7b\x7d"] []

/-- A class in a literal is found like any other. -/
theorem class_in_literal_found :
    let contents := "class B \x7b int x; \x7d".toList
    let start := "class A \x7b String s = ".toList
    let index (contents : List Char) := Index.ofTexts
      [String.ofList (start ++ '"' :: (contents ++ '"' :: "; \x7d".toList))]
    Contents '"' [] ∧ Contents '"' contents ∧ (index []).classes.find? "B" = none ∧
      ((index contents).classes.find? "B").isSome = true :=
  ⟨.nil, .of_plain (by simp), Option.isNone_iff_eq_none.1 (by decide +kernel), by decide +kernel⟩

end SqlPreview.Source
