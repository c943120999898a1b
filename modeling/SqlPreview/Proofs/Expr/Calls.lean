import Mathlib
import SqlPreview.Expr.Parser

/-!
# Calls of the parser

The parser as calls of parsing functions that move a cursor over the tokens and count how deep they
are nested. A call is given by the calls that it makes in its turn, without a reason why that should
end: a performance goes only so many calls deep and comes to nothing where it would have to go
deeper. One loop of a function is a call of its own, so that a round of it is one too.

This file defines:
1. the cursor and what may be done with it (`Cursor`, `Counted`);
2. the calls and what each of them does (`Call`, `Call.body`, `Call.perform`);
3. what the reader of the same part of the grammar takes (`Call.read`), and what it takes one level
   deeper (`Call.below`).

Results:
1. `Call.perform_extends`: a performance that comes to something comes to the same if it may go
   deeper.
2. One equation for what each reader takes, by what the readers of its parts take.
-/

namespace SqlPreview.Parser

variable {α β : Type}

/-! ## The cursor -/

/-- The tokens that are left, how deep the calls are nested, and how deep they have been at most. -/
structure Cursor where
  left : List Lexeme
  depth : Nat
  peak : Nat

namespace Cursor

/-- In front of other tokens. -/
def moved (cursor : Cursor) (rest : List Lexeme) : Cursor := { cursor with left := rest }

/-- One level deeper. -/
def entered (cursor : Cursor) : Cursor :=
  { cursor with depth := cursor.depth + 1, peak := max cursor.peak (cursor.depth + 1) }

/-- One level less deep. -/
def returned (cursor : Cursor) : Cursor := { cursor with depth := cursor.depth - 1 }

/-- How many levels there may be below. -/
def room (cursor : Cursor) : Nat := maxNesting - cursor.depth

end Cursor

/-- What gives a value or a fault and moves a cursor, if it comes to an end. -/
def Counted (α : Type) : Type := Cursor → Option (Except FormFault α × Cursor)

instance : Monad Counted where
  pure a := fun cursor => some (.ok a, cursor)
  bind first next := fun cursor =>
    match first cursor with
    | some (.ok a, moved) => next a moved
    | some (.error fault, moved) => some (.error fault, moved)
    | none => none

namespace Counted

def taking (read : Reader α) : Counted α := fun cursor =>
  match read cursor.left with
  | .ok taken => some (.ok taken.value, cursor.moved taken.rest)
  | .error fault => some (.error fault, cursor)

def trying (read? : (input : List Lexeme) → Option (Taken input α)) : Counted (Option α) :=
  fun cursor =>
    match read? cursor.left with
    | some taken => some (.ok (some taken.value), cursor.moved taken.rest)
    | none => some (.ok none, cursor)

/-- One level deeper, if there may be one. The counter stays where it is if there may not, and is
put back however the call ends. -/
def nested (inner : Counted α) : Counted α := fun cursor =>
  if maxNesting < cursor.depth + 1 then some (.error (faultAt .tooDeep cursor.left), cursor.entered)
  else (inner cursor.entered).map (Prod.map id Cursor.returned)

/-- What comes to something comes to the same in the other. -/
def Extends (small large : Counted α) : Prop :=
  ∀ cursor outcome, small cursor = some outcome → large cursor = some outcome

theorem Extends.refl (counted : Counted α) : Extends counted counted := fun _ _ found => found

theorem Extends.bind {first first' : Counted α} {next next' : α → Counted β}
    (front : Extends first first') (behind : ∀ a, Extends (next a) (next' a)) :
    Extends (first >>= next) (first' >>= next') := by
  intro cursor outcome found
  simp only [Bind.bind] at found ⊢
  cases run : first cursor with
  | none =>
    rw [run] at found
    cases found
  | some pair =>
    rw [run] at found
    rw [front cursor pair run]
    obtain ⟨result, moved⟩ := pair
    cases result with
    | ok a => exact behind a moved outcome found
    | error fault => exact found

theorem Extends.nested {inner inner' : Counted α} (extended : Extends inner inner') :
    Extends (nested inner) (nested inner') := by
  intro cursor outcome found
  unfold Counted.nested at found ⊢
  split at found
  next deep => rwa [if_pos deep]
  next shallow =>
    obtain ⟨pair, run, same⟩ := Option.map_eq_some_iff.1 found
    rw [if_neg shallow, extended _ pair run, ← same]
    rfl

end Counted

open Counted

/-! ## The calls -/

/-- The parsing functions with what they are given, and the loops that three of them end in. -/
inductive Call where
  | expr
  | conditional
  | binary (least : Nat)
  /-- The loop over the operators of at least a precedence behind a left operand. -/
  | operators (least : Nat) (left : Expr)
  | unary
  | operand
  /-- The loop over what is applied to an expression. -/
  | applied (target : Expr)
  | arguments (close : Symbol)
  /-- The loop over the arguments behind those read before. -/
  | items (close : Symbol) (before : List Expr)
  | primary

namespace Call

abbrev Result : Call → Type
  | .arguments _ | .items _ _ => List Expr
  | _ => Expr

/-! ### Single tokens -/

def lexeme : Reader Lexeme := fun input =>
  match input with
  | lexeme :: rest => .ok ⟨lexeme, rest, Nat.lt_succ_self _⟩
  | [] => .error (faultAt .unexpectedEnd [])

def name : Reader String := fun input =>
  match input with
  | ⟨.word name, _⟩ :: rest => .ok ⟨name, rest, Nat.lt_succ_self _⟩
  | other => .error (faultAt .expectedMember other)

def prefixed? (input : List Lexeme) : Option (Taken input UnaryOp) :=
  match input with
  | lexeme :: rest => (prefixOp? lexeme.token).map fun op => ⟨op, rest, Nat.lt_succ_self _⟩
  | [] => none

def operatorOf? (least : Nat) (input : List Lexeme) : Option (Taken input BinaryOp) :=
  (binaryOp? input).filter fun op => least ≤ op.value.precedence

/-- The expression that one token is. -/
def atom (lexeme : Lexeme) : Except FormFault Expr :=
  (Parser.primary tooDeep [lexeme]).map Taken.value

/-! ### Functions -/

/-- What a call does, by what the calls do that it makes. -/
def body (self : (call : Call) → Counted call.Result) : (call : Call) → Counted call.Result
  | .expr => nested (self .conditional)
  | .conditional => do
    let condition ← self (.binary 1)
    match ← trying (symbol? .question) with
    | none => pure condition
    | some () =>
      let yes ← self .expr
      taking (expect .colon)
      let no ← self .expr
      pure (.conditional condition yes no)
  | .binary least => do
    let left ← self .unary
    self (.operators least left)
  | .operators least left => do
    match ← trying (operatorOf? least) with
    | none => pure left
    | some op =>
      let right ← self (.binary (op.precedence + 1))
      self (.operators least (.binary op left right))
  | .unary => do
    match ← trying prefixed? with
    | none => self .operand
    | some op =>
      let inner ← nested (self .unary)
      pure (.unary op inner)
  | .operand => do
    let target ← self .primary
    self (.applied target)
  | .applied target => do
    match ← trying (symbol? .dot) with
    | some () =>
      let member ← taking name
      match ← trying (symbol? .leftParen) with
      | some () =>
        let args ← self (.arguments .rightParen)
        self (.applied (.call target member args))
      | none => self (.applied (.member target member))
    | none =>
      match ← trying (symbol? .leftBracket) with
      | some () =>
        let position ← self .expr
        taking (expect .rightBracket)
        self (.applied (.index target position))
      | none => pure target
  | .arguments close => do
    match ← trying (symbol? close) with
    | some () => pure []
    | none => self (.items close [])
  | .items close before => do
    let item ← self .expr
    match ← trying (symbol? .comma) with
    | some () => self (.items close (before ++ [item]))
    | none =>
      taking (expect close)
      pure (before ++ [item])
  | .primary => do
    let first ← taking lexeme
    match first.token with
    | .symbol .leftParen =>
      let inner ← self .expr
      taking (expect .rightParen)
      pure inner
    | .symbol .leftBrace =>
      let items ← self (.arguments .rightBrace)
      pure (.list items)
    | _ => fun cursor => some (atom first, cursor)

/-- A call that may go `n` calls deep. -/
def perform : Nat → (call : Call) → Counted call.Result
  | 0, _ => fun _ => none
  | n + 1, call => call.body (perform n)

section

variable {self self' : (call : Call) → Counted call.Result}

theorem body_extends (extended : ∀ call, Extends (self call) (self' call)) (call : Call) :
    Extends (call.body self) (call.body self') := by
  cases call with
  | expr => exact (extended .conditional).nested
  | conditional =>
    refine (extended _).bind fun condition => (Extends.refl _).bind fun mark => ?_
    cases mark with
    | none => exact .refl _
    | some _ =>
      exact (extended _).bind fun yes => (Extends.refl _).bind fun _ =>
        (extended _).bind fun no => .refl _
  | binary least => exact (extended _).bind fun left => extended _
  | operators least left =>
    refine (Extends.refl _).bind fun op => ?_
    cases op with
    | none => exact .refl _
    | some op => exact (extended _).bind fun right => extended _
  | unary =>
    refine (Extends.refl _).bind fun op => ?_
    cases op with
    | none => exact extended _
    | some op => exact (extended _).nested.bind fun inner => .refl _
  | operand => exact (extended _).bind fun target => extended _
  | applied target =>
    refine (Extends.refl _).bind fun dot => ?_
    cases dot with
    | some _ =>
      refine (Extends.refl _).bind fun member => (Extends.refl _).bind fun opened => ?_
      cases opened with
      | some _ => exact (extended _).bind fun args => extended _
      | none => exact extended _
    | none =>
      refine (Extends.refl _).bind fun opened => ?_
      cases opened with
      | some _ =>
        exact (extended _).bind fun position => (Extends.refl _).bind fun _ => extended _
      | none => exact .refl _
  | arguments close =>
    refine (Extends.refl _).bind fun closed => ?_
    cases closed with
    | some _ => exact .refl _
    | none => exact extended _
  | items close before =>
    refine (extended _).bind fun item => (Extends.refl _).bind fun comma => ?_
    cases comma with
    | some _ => exact extended _
    | none => exact .refl _
  | primary =>
    refine (Extends.refl _).bind fun first => ?_
    obtain ⟨token, offset⟩ := first
    cases token with
    | symbol s =>
      cases s with
      | leftParen => exact (extended .expr).bind fun inner => .refl _
      | leftBrace => exact (extended (.arguments .rightBrace)).bind fun items => .refl _
      | _ => exact .refl _
    | _ => exact .refl _

end

theorem perform_extends {n m : Nat} (le : n ≤ m) (call : Call) :
    Extends (perform n call) (perform m call) := by
  induction n generalizing m call with
  | zero => exact fun cursor outcome found => nomatch found
  | succ n ih =>
    obtain ⟨m, rfl⟩ := Nat.exists_eq_add_one_of_ne_zero (Nat.ne_zero_of_lt le)
    exact body_extends (ih (Nat.le_of_succ_le_succ le)) call

/-! ### Readers -/

/-- What is taken and what is left, without the proof that it is shorter. -/
def plain {input : List Lexeme} (taken : Except FormFault (Taken input α)) :
    Except FormFault (α × List Lexeme) :=
  taken.map fun taken => (taken.value, taken.rest)

/-- `plain` for what may take nothing. -/
def onward {input : List Lexeme}
    (gone : Except FormFault (Expr × { rest : List Lexeme // rest.length ≤ input.length })) :
    Except FormFault (Expr × List Lexeme) :=
  gone.map fun gone => (gone.1, gone.2.val)

/-- What the reader of the same part takes where `room` more levels may nest. -/
def read (room : Nat) : (call : Call) → List Lexeme → Except FormFault (call.Result × List Lexeme)
  | .expr, input => plain ((level room).expr input)
  | .conditional, input => plain (Parser.conditional (level room).unary (level room).expr input)
  | .binary least, input => plain (Parser.binary (level room).unary least input)
  | .operators least left, input => onward (binaryRest (level room).unary least left input)
  | .unary, input => plain ((level room).unary input)
  | .operand, input => plain (Parser.operand (level room).expr input)
  | .applied target, input => onward (postfixes (level room).expr target input)
  | .arguments close, input => plain (Parser.arguments (level room).expr close input)
  | .items close before, input =>
    (plain (moreArguments (level room).expr close input)).map (Prod.map (before ++ ·) id)
  | .primary, input => plain (Parser.primary (level room).expr input)

/-- What is taken one level deeper, if there may be one. -/
def below : Nat → (call : Call) → List Lexeme → Except FormFault (call.Result × List Lexeme)
  | 0, _, input => .error (faultAt .tooDeep input)
  | room + 1, call, input => read room call input

variable {room : Nat}

theorem read_conditional (input : List Lexeme) : read room .conditional input =
    read room (.binary 1) input >>= fun condition =>
      match symbol? .question condition.2 with
      | none => .ok condition
      | some mark =>
        read room .expr mark.rest >>= fun yes => plain (expect .colon yes.2) >>= fun colon =>
          read room .expr colon.2 >>= fun no =>
            .ok (.conditional condition.1 yes.1 no.1, no.2) := by
  simp only [read]
  rw [Parser.conditional]
  cases Parser.binary (level room).unary 1 input with
  | error fault => rfl
  | ok condition =>
    simp only [plain, Except.map, bind, Except.bind]
    cases symbol? .question condition.rest with
    | none => rfl
    | some mark =>
      dsimp only
      cases (level room).expr mark.rest with
      | error fault => rfl
      | ok yes =>
        dsimp only
        cases expect .colon yes.rest with
        | error fault => rfl
        | ok colon =>
          dsimp only
          cases (level room).expr colon.rest <;> rfl

theorem read_binary (least : Nat) (input : List Lexeme) : read room (.binary least) input =
    read room .unary input >>= fun left => read room (.operators least left.1) left.2 := by
  simp only [read]
  rw [Parser.binary]
  cases (level room).unary input with
  | error fault => rfl
  | ok first =>
    simp only [plain, onward, Except.map, bind, Except.bind]
    cases binaryRest (level room).unary least first.value first.rest <;> rfl

theorem read_operators (least : Nat) (left : Expr) (input : List Lexeme) :
    read room (.operators least left) input =
      match operatorOf? least input with
      | none => .ok (left, input)
      | some op =>
        read room (.binary (op.value.precedence + 1)) op.rest >>= fun right =>
          read room (.operators least (.binary op.value left right.1)) right.2 := by
  simp only [read, operatorOf?]
  rw [binaryRest]
  cases binaryOp? input with
  | none => rfl
  | some op =>
    by_cases loose : op.value.precedence < least
    · have refused : ¬ (decide (least ≤ op.value.precedence) = true) := by simpa using loose
      simp only [if_pos loose, Option.filter_some, if_neg refused]
      rfl
    · have taken : decide (least ≤ op.value.precedence) = true := by simpa using loose
      simp only [if_neg loose, Option.filter_some, if_pos taken]
      cases Parser.binary (level room).unary (op.value.precedence + 1) op.rest with
      | error fault => rfl
      | ok right =>
        simp only [plain, onward, Except.map, bind, Except.bind]
        cases binaryRest (level room).unary least (.binary op.value left right.value) right.rest <;>
          rfl

theorem read_expr (input : List Lexeme) :
    read room .expr input = below room .conditional input := by
  cases room <;> rfl

theorem read_unary (input : List Lexeme) : read room .unary input =
    match prefixed? input with
    | none => read room .operand input
    | some op => (below room .unary op.rest).map (Prod.map (.unary op.value) id) := by
  cases input with
  | nil => cases room <;> rfl
  | cons lexeme rest =>
    cases op : prefixOp? lexeme.token with
    | none => cases room <;> simp [read, prefixed?, level, Parser.unary, op]
    | some op =>
      cases room with
      | zero => simp [read, prefixed?, level, Parser.unary, op]; rfl
      | succ room =>
        simp only [read, below, prefixed?, level, Parser.unary, op, Option.map_some]
        cases (level room).unary rest <;> rfl

theorem read_operand (input : List Lexeme) : read room .operand input =
    read room .primary input >>= fun target => read room (.applied target.1) target.2 := by
  simp only [read]
  rw [Parser.operand]
  cases Parser.primary (level room).expr input with
  | error fault => rfl
  | ok first =>
    simp only [plain, onward, Except.map, bind, Except.bind]
    cases postfixes (level room).expr first.value first.rest <;> rfl

theorem plain_name_of_ne {input : List Lexeme}
    (other : ∀ member offset after, input ≠ ⟨.word member, offset⟩ :: after) :
    plain (name input) = .error (faultAt .expectedMember input) := by
  unfold name
  split
  next member offset after => exact absurd rfl (other member offset after)
  · rfl

theorem read_applied (target : Expr) (input : List Lexeme) :
    read room (.applied target) input =
      match symbol? .dot input with
      | some dot =>
        plain (name dot.rest) >>= fun member =>
          match symbol? .leftParen member.2 with
          | some opened =>
            read room (.arguments .rightParen) opened.rest >>= fun args =>
              read room (.applied (.call target member.1 args.1)) args.2
          | none => read room (.applied (.member target member.1)) member.2
      | none =>
        match symbol? .leftBracket input with
        | some opened =>
          read room .expr opened.rest >>= fun position =>
            plain (expect .rightBracket position.2) >>= fun closed =>
              read room (.applied (.index target position.1)) closed.2
        | none => .ok (target, input) := by
  simp only [read]
  rw [postfixes]
  cases symbol? .dot input with
  | some dot =>
    dsimp only
    split
    next member offset after cut =>
      have named : plain (name dot.rest) = .ok (member, after) := by
        rw [cut]
        rfl
      rw [named]
      simp only [bind, Except.bind]
      cases symbol? .leftParen after with
      | none =>
        dsimp only
        cases postfixes (level room).expr (.member target member) after <;> rfl
      | some opened =>
        dsimp only
        cases Parser.arguments (level room).expr .rightParen opened.rest with
        | error fault => rfl
        | ok args =>
          dsimp only [plain, Except.map]
          cases postfixes (level room).expr (.call target member args.value) args.rest <;> rfl
    next other =>
      rw [plain_name_of_ne other]
      rfl
  | none =>
    cases symbol? .leftBracket input with
    | none => rfl
    | some opened =>
      dsimp only
      cases (level room).expr opened.rest with
      | error fault => rfl
      | ok position =>
        simp only [plain, onward, Except.map, bind, Except.bind]
        cases expect .rightBracket position.rest with
        | error fault => rfl
        | ok closed =>
          dsimp only
          cases postfixes (level room).expr (.index target position.value) closed.rest <;> rfl

theorem read_arguments (close : Symbol) (input : List Lexeme) :
    read room (.arguments close) input =
      match symbol? close input with
      | some closed => .ok ([], closed.rest)
      | none => read room (.items close []) input := by
  simp only [read, Parser.arguments]
  cases symbol? close input with
  | some closed => rfl
  | none =>
    dsimp only
    cases moreArguments (level room).expr close input <;> rfl

theorem read_items (close : Symbol) (before : List Expr) (input : List Lexeme) :
    read room (.items close before) input =
      read room .expr input >>= fun item =>
        match symbol? .comma item.2 with
        | some comma => read room (.items close (before ++ [item.1])) comma.rest
        | none =>
          plain (expect close item.2) >>= fun closed => .ok (before ++ [item.1], closed.2) := by
  simp only [read]
  rw [moreArguments]
  cases (level room).expr input with
  | error fault => rfl
  | ok item =>
    simp only [plain, Except.map, bind, Except.bind]
    cases symbol? .comma item.rest with
    | none =>
      dsimp only
      cases expect close item.rest <;> rfl
    | some comma =>
      dsimp only
      cases moreArguments (level room).expr close comma.rest with
      | error fault => rfl
      | ok others => simp [pure, Except.pure]

theorem read_primary (input : List Lexeme) : read room .primary input =
    plain (lexeme input) >>= fun first =>
      match first.1.token with
      | .symbol .leftParen =>
        read room .expr first.2 >>= fun inner =>
          plain (expect .rightParen inner.2) >>= fun closed => .ok (inner.1, closed.2)
      | .symbol .leftBrace =>
        (read room (.arguments .rightBrace) first.2).map (Prod.map Expr.list id)
      | _ => (atom first.1).map fun value => (value, first.2) := by
  cases input with
  | nil => rfl
  | cons first rest =>
    obtain ⟨token, offset⟩ := first
    have front : plain (lexeme (⟨token, offset⟩ :: rest)) = .ok (⟨token, offset⟩, rest) := rfl
    rw [front]
    simp only [bind, Except.bind, read, Parser.primary]
    cases token with
    | word name => rfl
    | string text => rfl
    | integer digits suffix =>
      simp only [atom, Parser.primary]
      cases integerLiteral? digits suffix <;> rfl
    | floating digits suffix =>
      simp only [atom, Parser.primary]
      cases floatingLiteral? digits suffix <;> rfl
    | symbol s =>
      cases s with
      | leftParen =>
        dsimp only
        cases (level room).expr rest with
        | error fault => rfl
        | ok inner =>
          dsimp only [plain, Except.map]
          cases expect .rightParen inner.rest <;> rfl
      | leftBrace =>
        dsimp only
        cases Parser.arguments (level room).expr .rightBrace rest <;> rfl
      | _ => rfl

end Call

end SqlPreview.Parser
