import SqlPreview.Expr.Parser
import SqlPreview.Proofs.Result

/-!
# Literals of expressions that are read

The parser makes no literals of its own: each is written by a token of the expression. What its
readers leave behind are tokens that were there before.

This file defines:
1. expressions of which every literal has a property (`Expr.EachLiteral`);
2. the values that a token writes as literals (`Token.Writes`).

Result: `Expr.eachLiteral_of_read`, every literal of an expression is written by one of its tokens.
-/

namespace SqlPreview

/-- Every literal of an expression has a property. -/
inductive Expr.EachLiteral (P : Value → Prop) : Expr → Prop
  | literal {v : Value} : P v → EachLiteral P (.literal v)
  | ident (name : String) : EachLiteral P (.ident name)
  | member {target : Expr} (name : String) : EachLiteral P target → EachLiteral P (.member target name)
  | index {target position : Expr} :
      EachLiteral P target → EachLiteral P position → EachLiteral P (.index target position)
  | call {target : Expr} (method : String) {args : List Expr} :
      EachLiteral P target → (∀ arg ∈ args, EachLiteral P arg) →
      EachLiteral P (.call target method args)
  | unary (op : UnaryOp) {operand : Expr} : EachLiteral P operand → EachLiteral P (.unary op operand)
  | binary (op : BinaryOp) {left right : Expr} :
      EachLiteral P left → EachLiteral P right → EachLiteral P (.binary op left right)
  | conditional {condition yes no : Expr} :
      EachLiteral P condition → EachLiteral P yes → EachLiteral P no →
      EachLiteral P (.conditional condition yes no)
  | list {items : List Expr} : (∀ item ∈ items, EachLiteral P item) → EachLiteral P (.list items)

theorem Expr.EachLiteral.mono {P Q : Value → Prop} (weaker : ∀ v, P v → Q v) {e : Expr}
    (each : e.EachLiteral P) : e.EachLiteral Q := by
  induction each with
  | literal holds => exact .literal (weaker _ holds)
  | ident name => exact .ident name
  | member name _ target => exact .member name target
  | index _ _ target position => exact .index target position
  | call method _ _ target args => exact .call method target args
  | unary op _ operand => exact .unary op operand
  | binary op _ _ left right => exact .binary op left right
  | conditional _ _ _ condition yes no => exact .conditional condition yes no
  | list _ items => exact .list items

/-- What a token writes as a literal. -/
inductive Token.Writes : Token → Value → Prop
  | integer {digits : List Char} {suffix : Option Char} {v : Value} :
      Parser.integerLiteral? digits suffix = some v → Writes (.integer digits suffix) v
  | floating {digits : List Char} {suffix : Option Char} {v : Value} :
      Parser.floatingLiteral? digits suffix = some v → Writes (.floating digits suffix) v
  | string (text : String) : Writes (.string text) (.string text)
  | word {name : String} {v : Value} : Parser.wordExpr name = .literal v → Writes (.word name) v

/-- A literal that one of the tokens writes. -/
def WrittenIn (all : List Lexeme) (v : Value) : Prop := ∃ lexeme ∈ all, lexeme.token.Writes v

namespace Parser

variable {α : Type} {all : List Lexeme} {expr deeper : Reader Expr} {P : α → Prop}

/-- Of tokens that are all among `all`, a reader takes what has the property and leaves tokens that
are among them. -/
def Takes (all : List Lexeme) (P : α → Prop) (reader : Reader α) : Prop :=
  ∀ input, input ⊆ all → Yields (fun taken => P taken.value ∧ taken.rest ⊆ all) (reader input)

/-- The literals of an expression are written by the tokens. -/
abbrev Spelled (all : List Lexeme) : Expr → Prop := Expr.EachLiteral (WrittenIn all)

theorem symbol?_subset {s : Symbol} {input : List Lexeme} {taken : Taken input Unit}
    (found : symbol? s input = some taken) (within : input ⊆ all) : taken.rest ⊆ all := by
  unfold symbol? at found
  split at found
  · split at found
    · cases found
      exact (List.cons_subset.1 within).2
    · cases found
  · cases found

theorem takes_expect (s : Symbol) : Takes all (fun _ => True) (expect s) := by
  intro input within
  unfold expect
  split
  · next found => exact ⟨trivial, symbol?_subset found within⟩
  · trivial

/-! ## Primaries -/

theorem takes_moreArguments (each : Takes all (Spelled all) expr) (close : Symbol) :
    Takes all (fun es => ∀ e ∈ es, Spelled all e) (moreArguments expr close) := by
  intro input
  induction length : input.length using Nat.strongRecOn generalizing input with
  | ind bound ih =>
    intro within
    rw [moreArguments]
    refine (each input within).bind fun first => ?_
    rintro ⟨spelled, left⟩
    split
    · next comma found =>
      have shorter := first.shorter
      have shorter' := comma.shorter
      refine (ih _ (by omega) comma.rest rfl (symbol?_subset found left)).bind fun others => ?_
      rintro ⟨spelled', left'⟩
      exact ⟨List.forall_mem_cons.2 ⟨spelled, spelled'⟩, left'⟩
    · refine (takes_expect close first.rest left).bind fun closed => ?_
      rintro ⟨-, left'⟩
      exact ⟨List.forall_mem_singleton.2 spelled, left'⟩

theorem takes_arguments (each : Takes all (Spelled all) expr) (close : Symbol) :
    Takes all (fun es => ∀ e ∈ es, Spelled all e) (arguments expr close) := by
  intro input within
  unfold arguments
  split
  · next found => exact ⟨List.forall_mem_nil _, symbol?_subset found within⟩
  · exact takes_moreArguments each close input within

theorem spelled_wordExpr {lexeme : Lexeme} {name : String} (listed : lexeme ∈ all)
    (word : lexeme.token = .word name) : Spelled all (wordExpr name) := by
  have literal (v : Value) (same : wordExpr name = .literal v) : Spelled all (wordExpr name) :=
    same ▸ .literal ⟨lexeme, listed, word ▸ .word same⟩
  unfold wordExpr at literal ⊢
  split
  · exact literal _ rfl
  · exact literal _ rfl
  · exact literal _ rfl
  · exact .ident name

theorem takes_primary (each : Takes all (Spelled all) expr) :
    Takes all (Spelled all) (primary expr) := by
  intro input within
  cases input with
  | nil => trivial
  | cons lexeme rest =>
    obtain ⟨listed, left⟩ := List.cons_subset.1 within
    obtain ⟨token, offset⟩ := lexeme
    cases token with
    | integer digits suffix =>
      simp only [primary]
      split
      · next v read => exact ⟨.literal ⟨_, listed, .integer read⟩, left⟩
      · trivial
    | floating digits suffix =>
      simp only [primary]
      split
      · next v read => exact ⟨.literal ⟨_, listed, .floating read⟩, left⟩
      · trivial
    | string text => exact ⟨.literal ⟨_, listed, .string text⟩, left⟩
    | word name => exact ⟨spelled_wordExpr listed rfl, left⟩
    | symbol s =>
      cases s with
      | leftParen =>
        refine (each rest left).bind fun inner ⟨spelled, left⟩ => ?_
        exact (takes_expect .rightParen inner.rest left).bind fun closed ⟨_, left⟩ => ⟨spelled, left⟩
      | leftBrace =>
        exact (takes_arguments each .rightBrace rest left).bind fun items ⟨spelled, left⟩ =>
          ⟨.list spelled, left⟩
      | _ => trivial

/-! ## Operators -/

/-- What may take nothing leaves tokens that are among `all`. -/
def GoesOn (all : List Lexeme) {input : List Lexeme} :
    Except FormFault (Expr × { rest : List Lexeme // rest.length ≤ input.length }) → Prop :=
  Yields fun result => Spelled all result.1 ∧ result.2.val ⊆ all

theorem goesOn_postfixes (each : Takes all (Spelled all) expr) {target : Expr}
    (spelled : Spelled all target) (input : List Lexeme) (within : input ⊆ all) :
    GoesOn all (postfixes expr target input) := by
  induction length : input.length using Nat.strongRecOn generalizing input target with
  | ind bound ih =>
    rw [postfixes]
    split
    · next dot found =>
      have shorter := dot.shorter
      have left := symbol?_subset found within
      split
      · next name offset after cut =>
        rw [cut] at shorter left
        rw [List.length_cons] at shorter
        have left := (List.cons_subset.1 left).2
        split
        · next opened found =>
          have shorter' := opened.shorter
          have left := symbol?_subset found left
          refine (takes_arguments each .rightParen opened.rest left).bind fun args => ?_
          rintro ⟨spelled', left⟩
          have shorter'' := args.shorter
          refine (ih _ (by omega) (.call name spelled spelled') args.rest left rfl).bind ?_
          exact fun _ result => result
        · refine (ih _ (by omega) (.member name spelled) after left rfl).bind ?_
          exact fun _ result => result
      · trivial
    · split
      · next opened found =>
        have shorter := opened.shorter
        have left := symbol?_subset found within
        refine (each opened.rest left).bind fun position => ?_
        rintro ⟨spelled', left⟩
        have shorter' := position.shorter
        refine (takes_expect .rightBracket position.rest left).bind fun closed => ?_
        rintro ⟨-, left⟩
        have shorter'' := closed.shorter
        refine (ih _ (by omega) (.index spelled spelled') closed.rest left rfl).bind ?_
        exact fun _ result => result
      · exact ⟨spelled, within⟩

theorem takes_operand (each : Takes all (Spelled all) expr) :
    Takes all (Spelled all) (operand expr) := by
  intro input within
  refine (takes_primary each input within).bind fun first ⟨spelled, left⟩ => ?_
  exact (goesOn_postfixes each spelled first.rest left).bind fun _ result => result

theorem takes_unary (each : Takes all (Spelled all) expr) (inner : Takes all (Spelled all) deeper) :
    Takes all (Spelled all) (unary expr deeper) := by
  intro input within
  unfold unary
  split
  · exact takes_operand each [] within
  · next lexeme rest =>
    split
    · next op _ =>
      exact (inner rest (List.cons_subset.1 within).2).bind fun operand ⟨spelled, left⟩ =>
        ⟨.unary op spelled, left⟩
    · exact takes_operand each _ within

theorem binaryOp?_subset {input : List Lexeme} {taken : Taken input BinaryOp}
    (found : binaryOp? input = some taken) (within : input ⊆ all) : taken.rest ⊆ all := by
  unfold binaryOp? at found
  split at found
  · obtain ⟨op, -, rfl⟩ := Option.map_eq_some_iff.1 found
    exact (List.cons_subset.1 within).2
  · cases found
    exact (List.cons_subset.1 (List.cons_subset.1 within).2).2
  · obtain ⟨op, -, rfl⟩ := Option.map_eq_some_iff.1 found
    exact (List.cons_subset.1 within).2
  · cases found

/-- Operands and the operators behind them call each other, each time on fewer tokens. -/
theorem takes_joined {reader : Reader Expr} (each : Takes all (Spelled all) reader) (bound : Nat) :
    (∀ least input, input.length = bound → input ⊆ all →
      Yields (fun taken => Spelled all taken.value ∧ taken.rest ⊆ all) (binary reader least input)) ∧
    (∀ least left input, input.length = bound → Spelled all left → input ⊆ all →
      GoesOn all (binaryRest reader least left input)) := by
  induction bound using Nat.strongRecOn with
  | ind bound ih =>
    constructor
    · intro least input length within
      rw [binary]
      refine (each input within).bind fun first ⟨spelled, left⟩ => ?_
      have shorter := first.shorter
      refine ((ih _ (by omega)).2 least first.value first.rest rfl spelled left).bind ?_
      exact fun _ result => result
    · intro least left input length spelled within
      rw [binaryRest]
      split
      · exact ⟨spelled, within⟩
      · next op found =>
        have shorter := op.shorter
        split
        · exact ⟨spelled, within⟩
        · refine ((ih _ (by omega)).1 _ op.rest rfl (binaryOp?_subset found within)).bind ?_
          rintro right ⟨spelled', left⟩
          have shorter' := right.shorter
          have joined := Expr.EachLiteral.binary op.value spelled spelled'
          refine ((ih _ (by omega)).2 least _ right.rest rfl joined left).bind ?_
          exact fun _ result => result

theorem takes_binary {reader : Reader Expr} (each : Takes all (Spelled all) reader) (least : Nat) :
    Takes all (Spelled all) (binary reader least) := fun input within =>
  (takes_joined each input.length).1 least input rfl within

theorem takes_conditional {reader : Reader Expr} (each : Takes all (Spelled all) reader)
    (branch : Takes all (Spelled all) expr) : Takes all (Spelled all) (conditional reader expr) := by
  intro input within
  refine (takes_binary each 1 input within).bind fun condition ⟨spelled, left⟩ => ?_
  split
  · exact ⟨spelled, left⟩
  · next mark found =>
    refine (branch mark.rest (symbol?_subset found left)).bind fun yes ⟨spelled', left⟩ => ?_
    refine (takes_expect .colon yes.rest left).bind fun colon ⟨_, left⟩ => ?_
    exact (branch colon.rest left).bind fun no ⟨spelled'', left⟩ =>
      ⟨.conditional spelled spelled' spelled'', left⟩

/-! ## Nesting -/

theorem takes_level (room : Nat) :
    Takes all (Spelled all) (level room).expr ∧ Takes all (Spelled all) (level room).unary := by
  have deep : Takes all (Spelled all) tooDeep := fun _ _ => trivial
  induction room with
  | zero => exact ⟨deep, takes_unary deep deep⟩
  | succ room ih =>
    obtain ⟨each, inner⟩ := ih
    have outer := takes_conditional inner each
    exact ⟨outer, takes_unary outer inner⟩

theorem spelled_whole (input : List Lexeme) : Yields (Spelled input) (whole input) := by
  refine ((takes_level maxNesting).1 input (List.Subset.refl _)).bind fun taken ⟨spelled, _⟩ => ?_
  split
  · exact spelled
  · trivial

end Parser

/-- Every literal of a read expression is written by one of its tokens. -/
theorem Expr.eachLiteral_of_read {text : String} {e : Expr} (read : Expr.read text = .ok e) :
    ∃ all, Lexer.lexemes 0 text.toList = .ok all ∧ e.EachLiteral (WrittenIn all) := by
  unfold Expr.read at read
  dsimp only at read
  cases found : Lexer.lexemes 0 text.toList with
  | error fault =>
    rw [found] at read
    cases read
  | ok all =>
    have spelled := Parser.spelled_whole all
    rw [found] at read
    cases parsed : Parser.whole all with
    | error fault =>
      have none : (Except.ok all >>= Parser.whole) = .error fault := parsed
      rw [none] at read
      cases read
    | ok e' =>
      have some : (Except.ok all >>= Parser.whole) = .ok e' := parsed
      rw [some] at read
      cases read
      rw [parsed] at spelled
      exact ⟨all, rfl, spelled⟩

/-! ## Floating numbers -/

namespace Lexer

/-- A number starts with a digit or a point. -/
def StartsPlain : Token → Prop
  | .floating digits _ =>
    ∃ c rest, digits = c :: rest ∧ (Text.isAsciiDigit c = true ∨ c = '.')
  | _ => True

theorem startsPlain_token (c : Char) (rest : List Char) :
    Yields (fun taken => StartsPlain taken.value.1) (token c rest) := by
  unfold token
  split
  · dsimp only
    split <;> split <;> trivial
  · split
    · next starts =>
      have plain : Text.isAsciiDigit c = true ∨ c = '.' := by
        simp only [startsNumber, Bool.or_eq_true, Bool.and_eq_true, beq_iff_eq] at starts
        exact starts.imp_right And.left
      have front {digits after : List Char} (whole : digits ++ after = c :: rest)
          (some : digits ≠ []) (suffix : Option Char) : StartsPlain (.floating digits suffix) := by
        obtain ⟨d, more, rfl⟩ := List.exists_cons_of_ne_nil some
        cases whole
        exact ⟨c, more, rfl, plain⟩
      split
      next digits isFloating after cut =>
        have whole : digits ++ after = c :: rest := by
          rw [← splitNumber_append false (c :: rest), cut]
        split
        · trivial
        · next some =>
          have either (floating : Bool) (suffix : Option Char) :
              StartsPlain (if floating then .floating digits suffix else .integer digits suffix) := by
            cases floating
            · trivial
            · exact front whole some suffix
          cases after with
          | nil => exact either isFloating none
          | cons s more =>
            dsimp only
            split
            · exact either (isFloating || isFloatingSuffix s) _
            · exact either isFloating none
    · -- A string or a symbol.
      split
      · split <;> trivial
      · split
        · split
          · trivial
          · split <;> trivial
        · split <;> trivial

theorem startsPlain_lexemes (offset : Nat) (text : List Char) :
    Yields (fun all => ∀ lexeme ∈ all, StartsPlain lexeme.token) (lexemes offset text) := by
  induction offset, text using lexemes.induct with
  | case1 offset =>
    rw [lexemes]
    exact List.forall_mem_nil _
  | case2 offset c rest blank ih =>
    rw [lexemes, if_pos blank]
    exact ih
  | case3 offset c rest noBlank problem failed =>
    rw [lexemes, if_neg noBlank, failed]
    trivial
  | case4 offset c rest noBlank taken succeeded ih =>
    have first := startsPlain_token c rest
    rw [succeeded] at first
    rw [lexemes, if_neg noBlank, succeeded]
    exact ih.bind fun others each => List.forall_mem_cons.2 ⟨first, each⟩

end Lexer

end SqlPreview
