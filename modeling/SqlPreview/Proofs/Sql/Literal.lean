import Mathlib
import SqlPreview.Proofs.Sql.Squeeze
import SqlPreview.Sql.Render

/-!
# Bound values in the final SQL

A value that is bound in a text becomes a literal. This module compares two renderings of one text
that differ in the bound values only, and asks what the layout leaves of a literal.

Results:
1. `statement_same_outside_quotes`: outside quotes, the SQL does not depend on the bound values.
2. `literals_kept_iff_tidy`: the layout keeps the literals exactly where they are tidy; it rewrites
   runs of white space and spaces beside parentheses and commas inside literals too.
-/

namespace SqlPreview

open Quoted

/-! ## Texts that bind outside quotes -/

/-- The character that a piece of a text stands for itself. -/
def Piece.literal? : Piece → Option Char
  | .verbatim c => some c
  | .placeholder _ => none

def Piece.hole? : Piece → Option Placeholder
  | .verbatim _ => none
  | .placeholder p => some p

/-- The placeholders among some pieces, in order. -/
def placeholders (pieces : List Piece) : List Placeholder := pieces.filterMap Piece.hole?

/-- No placeholder is spliced, and before each one the literal text has an even number of single
quotes. -/
structure BindsOutside (pieces : List Piece) : Prop where
  bound : ∀ p ∈ placeholders pieces, p.marker = .bind
  even : ∀ i (h : i < pieces.length), pieces[i].hole?.isSome = true →
    Even (((pieces.take i).filterMap Piece.literal?).count '\'')

/-- Every placeholder has a value, and one that is written in quotes. -/
def AllQuoted (context : Context) (pieces : List Piece) : Prop :=
  ∀ p ∈ placeholders pieces,
    ∃ v : Value, evaluate context.get? (String.ofList p.expression) = .ok v ∧ v.isBare = false

/-! ## Texts alike outside their literals -/

/-- Two texts that differ only in literals that stand outside quotes. -/
inductive Alike : List Char → List Char → Prop
  | same (text : List Char) : Alike text text
  | literal {before after after' : List Char} (value value' : List Char) : Closed before →
      Alike after after' →
      Alike (before ++ (Value.quoteSql value ++ after)) (before ++ (Value.quoteSql value' ++ after'))

namespace Alike

variable {sql sql' : List Char}

theorem outside_eq (alike : Alike sql sql') : outside sql = outside sql' := by
  induction alike with
  | same => rfl
  | literal value value' closed _ ih =>
    rw [outside_append closed, outside_append closed, outside_append (closed_quoteSql value),
      outside_append (closed_quoteSql value'), outside_quoteSql, outside_quoteSql, ih]

theorem squeeze (alike : Alike sql sql') : Alike (Layout.squeeze sql) (Layout.squeeze sql') := by
  induction alike with
  | same => exact .same _
  | literal value value' closed _ ih =>
    rw [Layout.squeeze_append_quoteSql, Layout.squeeze_append_quoteSql]
    exact .literal _ _ (Layout.closed_squeeze closed) ih

theorem trimStart (alike : Alike sql sql') : Alike (Text.trimStart sql) (Text.trimStart sql') := by
  cases alike with
  | same => exact .same _
  | literal value value' closed alike =>
    rw [Layout.trimStart_append_quoteSql, Layout.trimStart_append_quoteSql]
    exact .literal _ _ (Layout.closed_trimStart closed) alike

theorem trimEnd (alike : Alike sql sql') : Alike (Text.trimEnd sql) (Text.trimEnd sql') := by
  induction alike with
  | same => exact .same _
  | literal value value' closed _ ih =>
    rw [Layout.trimEnd_append_quoteSql, Layout.trimEnd_append_quoteSql]
    exact .literal _ _ closed ih

theorem format (alike : Alike sql sql') : Alike (Layout.format sql) (Layout.format sql') :=
  alike.squeeze.trimStart.trimEnd

end Alike

/-! ## Substitution -/

theorem sqlChars_of_not_isBare {v : Value} (quoted : v.isBare = false) :
    v.sqlChars = Value.quoteSql v.chars := by
  unfold Value.sqlChars
  split
  · cases quoted
  · rw [quoted]
    rfl

namespace Render

variable {setting : Setting} {parent : String}

theorem inText_quoted {scope : Scope} {p : Placeholder} {v : Value} (marked : p.marker = .bind)
    (found : evaluate scope.context.get? (String.ofList p.expression) = .ok v)
    (quoted : v.isBare = false) :
    inText setting scope parent p = .ok (Value.quoteSql v.chars) := by
  simp only [inText, value, marked, found]
  exact congrArg Except.ok (sqlChars_of_not_isBare quoted)

/-- The text before the pieces is carried along, because a literal may stand behind literal text
that closes its quotes only together with earlier text. -/
theorem resolvePieces_alike {scope scope' : Scope} (pieces : List Piece) (before : List Char)
    (bound : ∀ p ∈ placeholders pieces, p.marker = .bind)
    (even : ∀ i (h : i < pieces.length), pieces[i].hole?.isSome = true →
      Even ((before ++ (pieces.take i).filterMap Piece.literal?).count '\''))
    (left : AllQuoted scope.context pieces) (right : AllQuoted scope'.context pieces) :
    ∃ sql sql', resolvePieces (inText setting scope parent) pieces = .ok sql ∧
      resolvePieces (inText setting scope' parent) pieces = .ok sql' ∧
      Alike (before ++ sql) (before ++ sql') := by
  induction pieces generalizing before with
  | nil => exact ⟨[], [], rfl, rfl, .same _⟩
  | cons piece rest ih =>
    cases piece with
    | verbatim c =>
      have even' : ∀ i (h : i < rest.length), rest[i].hole?.isSome = true →
          Even ((before ++ [c] ++ (rest.take i).filterMap Piece.literal?).count '\'') := by
        intro i h hole
        have := even (i + 1) (Nat.succ_lt_succ h) hole
        simpa [Piece.literal?] using this
      obtain ⟨sql, sql', run, run', alike⟩ := ih (before ++ [c]) bound even' left right
      refine ⟨c :: sql, c :: sql', ?_, ?_, by simpa using alike⟩
      · rw [resolvePieces, run]
        rfl
      · rw [resolvePieces, run']
        rfl
    | placeholder p =>
      -- What is before is closed and so is the literal: the count starts anew behind it.
      have closedBefore : Even (before.count '\'') := by
        simpa using even 0 (Nat.zero_lt_succ _) rfl
      have even' : ∀ i (h : i < rest.length), rest[i].hole?.isSome = true →
          Even (([] ++ (rest.take i).filterMap Piece.literal?).count '\'') := by
        intro i h hole
        have := even (i + 1) (Nat.succ_lt_succ h) hole
        rw [List.count_append, Nat.even_add] at this
        exact this.1 closedBefore
      obtain ⟨⟨v, found, quoted⟩, left'⟩ := List.forall_mem_cons.1 left
      obtain ⟨⟨v', found', quoted'⟩, right'⟩ := List.forall_mem_cons.1 right
      obtain ⟨marked, bound'⟩ := List.forall_mem_cons.1 bound
      obtain ⟨sql, sql', run, run', alike⟩ := ih [] bound' even' left' right'
      refine ⟨Value.quoteSql v.chars ++ sql, Value.quoteSql v'.chars ++ sql', ?_, ?_, ?_⟩
      · rw [resolvePieces, inText_quoted marked found quoted, run]
        rfl
      · rw [resolvePieces, inText_quoted marked found' quoted', run']
        rfl
      · exact .literal _ _ (closed_of_even _ closedBefore) alike

theorem nodes_text (room : Nat) (scope : Scope) (text : String) :
    nodes setting room scope parent [.text text] =
      substitute (inText setting scope parent) text.toList := by
  have alone (tag : Scope → Element → Rendered) :
      siblings setting tag parent scope [.text text] =
        substitute (inText setting scope parent) text.toList := by
    rw [siblings]
    cases substitute (inText setting scope parent) text.toList with
    | error e => rfl
    | ok head => exact congrArg Except.ok (List.append_nil head)
  cases room with
  | zero => exact alone _
  | succ room => exact alone _

theorem statement_text {id : String} {kind : StatementKind} {parameterType : Option String}
    {text : String} {context : Context} {sql : List Char}
    (run : resolvePieces (inText setting ⟨context, [], setting.path.ns⟩ kind.name)
      (Piece.ofText text.toList) = .ok sql) :
    Render.statement setting ⟨id, kind, parameterType, [.text text]⟩ context =
      .ok (String.ofList (Layout.format sql)) := by
  rw [Render.statement, nodes_text, substitute, run]
  rfl

/-! ## Outside the literals -/

/-- Where all values of a text are written in quotes and bound outside quotes, the SQL without its
quoted regions is the same for all values. -/
theorem statement_same_outside_quotes (setting : Setting) (id : String) (kind : StatementKind)
    (parameterType : Option String) (text : String) (context context' : Context)
    (binds : BindsOutside (Piece.ofText text.toList))
    (left : AllQuoted context (Piece.ofText text.toList))
    (right : AllQuoted context' (Piece.ofText text.toList)) :
    ∃ sql sql',
      Render.statement setting ⟨id, kind, parameterType, [.text text]⟩ context = .ok sql ∧
      Render.statement setting ⟨id, kind, parameterType, [.text text]⟩ context' = .ok sql' ∧
      outside sql.toList = outside sql'.toList := by
  obtain ⟨sql, sql', run, run', alike⟩ :=
    @resolvePieces_alike setting kind.name ⟨context, [], setting.path.ns⟩
      ⟨context', [], setting.path.ns⟩ _ [] binds.bound binds.even left right
  refine ⟨_, _, statement_text run, statement_text run', ?_⟩
  rw [String.toList_ofList, String.toList_ofList]
  exact alike.format.outside_eq

set_option maxRecDepth 10000 in
theorem read_x : Expr.read "x" = .ok (.ident "x") := by cbv

set_option maxRecDepth 10000 in
theorem read_y : Expr.read "y" = .ok (.ident "y") := by cbv

theorem evaluate_variable {lookup : String → Option Value} {text name : String} {v : Value}
    (read : Expr.read text = .ok (.ident name)) (bound : lookup name = some v) :
    evaluate lookup text = .ok v := by
  rw [evaluate, read]
  show Expr.eval lookup (.ident name) = .ok v
  rw [Expr.eval, bound]
  rfl

/-- The values differ in quotes, parentheses, commas and white space, and in kind. -/
theorem pairs_same_outside_quotes :
    let text : String := "a = 'k' AND b IN ( #\x7bx\x7d , #\x7by, jdbcType=CHAR\x7d )"
    let context : Context := .ofBase [("x", .string "it's ( "), ("y", .character '\'')]
    let context' : Context := .ofBase [("x", .sequence .list []), ("y", .string " ,  #\x7bx\x7d")]
    BindsOutside (Piece.ofText text.toList) ∧ AllQuoted context (Piece.ofText text.toList) ∧
    AllQuoted context' (Piece.ofText text.toList) ∧
    ∃ sql sql',
      Render.statement ⟨.empty, {}, ⟨"m", "s"⟩⟩ ⟨"s", .select, none, [.text text]⟩ context = .ok sql ∧
      Render.statement ⟨.empty, {}, ⟨"m", "s"⟩⟩ ⟨"s", .select, none, [.text text]⟩ context' =
        .ok sql' ∧
      outside sql.toList = outside sql'.toList := by
  intro text context context'
  have binds : BindsOutside (Piece.ofText text.toList) := ⟨by decide +kernel, by decide +kernel⟩
  have holes : ∀ p ∈ placeholders (Piece.ofText text.toList),
      String.ofList p.expression = "x" ∨ String.ofList p.expression = "y" := by
    decide +kernel
  have left : AllQuoted context (Piece.ofText text.toList) := by
    intro p member
    rcases holes p member with named | named
    · exact ⟨.string "it's ( ", by rw [named]; exact evaluate_variable read_x rfl, rfl⟩
    · exact ⟨.character '\'', by rw [named]; exact evaluate_variable read_y rfl, rfl⟩
  have right : AllQuoted context' (Piece.ofText text.toList) := by
    intro p member
    rcases holes p member with named | named
    · exact ⟨.sequence .list [], by rw [named]; exact evaluate_variable read_x rfl, rfl⟩
    · exact ⟨.string " ,  #\x7bx\x7d", by rw [named]; exact evaluate_variable read_y rfl, rfl⟩
  exact ⟨binds, left, right, statement_same_outside_quotes _ _ _ _ _ _ _ binds left right⟩

/-! ## Inside the literals -/

theorem format_quoteSql (value : List Char) :
    Layout.format (Value.quoteSql value) = Value.quoteSql (Layout.squeeze value) := by
  have start := Layout.trimStart_append_quoteSql [] (Layout.squeeze value) []
  have stop := Layout.trimEnd_append_quoteSql [] (Layout.squeeze value) []
  simp only [List.nil_append, List.append_nil] at start stop
  rw [Layout.format, ← Layout.squeeze, Layout.squeeze_quoteSql, Text.trim, start]
  simpa [Text.trimStart, Text.trimEnd] using stop

/-- A bound string comes out as its literal, rewritten by the layout. -/
theorem statement_bound_string (setting : Setting) (id : String) (kind : StatementKind)
    (parameterType : Option String) (context : Context) (s : String) :
    Render.statement setting ⟨id, kind, parameterType, [.text "#\x7bx\x7d"]⟩
        (context.bind "x" (.string s)) =
      .ok (String.ofList (Value.quoteSql (Layout.squeeze s.toList))) := by
  have pieces : Piece.ofText "#\x7bx\x7d".toList = [.placeholder ⟨.bind, ['x']⟩] := by
    decide +kernel
  have named : String.ofList (Placeholder.expression ⟨.bind, ['x']⟩) = "x" := by decide +kernel
  have found : evaluate (context.bind "x" (.string s)).get?
      (String.ofList (Placeholder.expression ⟨.bind, ['x']⟩)) = .ok (.string s) := by
    rw [named]
    exact evaluate_variable read_x (by rw [Context.get?_bind, if_pos rfl])
  rw [← format_quoteSql]
  refine statement_text ?_
  rw [pieces, resolvePieces, inText_quoted rfl found rfl]
  exact congrArg Except.ok (List.append_nil _)

/-- The layout keeps the contents of the quoted regions of a text exactly where each is tidy, and
a bound string comes out as its literal exactly if it is tidy. -/
theorem literals_kept_iff_tidy (sql : List Char) (setting : Setting) (id : String)
    (kind : StatementKind) (parameterType : Option String) (context : Context) (s : String) :
    (contents (Layout.format sql) = contents sql ↔
      ∀ region ∈ contents sql, Layout.Tidy region) ∧
    (Render.statement setting ⟨id, kind, parameterType, [.text "#\x7bx\x7d"]⟩
        (context.bind "x" (.string s)) = .ok (String.ofList (Value.quoteSql s.toList)) ↔
      Layout.Tidy s.toList) := by
  constructor
  · rw [Layout.contents_format]
    constructor
    · intro same region member
      have fixed := List.map_eq_map_iff.1 (same.trans (List.map_id _).symm) region member
      exact (Layout.squeeze_eq_self_iff region).1 fixed
    · intro tidy
      refine (List.map_congr_left fun region member => ?_).trans (List.map_id _)
      exact (Layout.squeeze_eq_self_iff region).2 (tidy region member)
  · rw [statement_bound_string, ← Layout.squeeze_eq_self_iff]
    constructor
    · intro same
      exact quoteSql_injective (String.ofList_injective (Except.ok.inj same))
    · intro fixed
      rw [fixed]

/-- Two spaces in a literal become one. -/
theorem format_narrows_literal :
    let sql := "'a  b'".toList
    Even (sql.count '\'') ∧ contents sql = ["a  b".toList] ∧
    contents (Layout.format sql) = ["a b".toList] := by
  decide +kernel

end Render

end SqlPreview
