import SqlPreview.Expr.Basic
import SqlPreview.Expr.Token

/-!
# Writing expressions

An expression can be written in more than one way, because some operators are spelled both as a
symbol and as a word. Parentheses stand only where the precedences need them.

This file defines:
1. the text of a token and of a row of tokens (`Token.chars`, `Token.line`);
2. all the rows of tokens that write an expression (`Expr.writings`);
3. the expressions that have a written form (`Expr.Plain`), and their height (`Expr.height`).

Results:
1. `Expr.induction`: what passes from the parts of an expression to the whole holds for all
   expressions.
2. `Expr.exists_writing`: a plain expression can be written.
-/

namespace SqlPreview

/-! ## Tokens as text -/

namespace Token

/-- What stands between single quotes for a string. -/
def escaped : List Char → List Char
  | [] => []
  | c :: rest => if c == '\\' || c == '\'' then '\\' :: c :: escaped rest else c :: escaped rest

def chars : Token → List Char
  | .word name => name.toList
  | .integer digits suffix => digits ++ suffix.toList
  | .floating digits suffix => digits ++ suffix.toList
  | .string text => '\'' :: (escaped text.toList ++ ['\''])
  | .symbol s => s.text.toList

/-- Tokens with one space between neighbours. -/
def line (tokens : List Token) : List Char := Text.joined [' '] (tokens.map chars)

end Token

/-! ## Spellings -/

/-- The token that writes a literal. A long integer and a big one end in their type letter. -/
def Value.token? : Value → Option Token
  | .null => some (.word "null")
  | .boolean true => some (.word "true")
  | .boolean false => some (.word "false")
  | .int n => some (.integer (Text.decimalDigits n.toInt.toNat) none)
  | .long n => some (.integer (Text.decimalDigits n.toInt.toNat) (some 'L'))
  | .bigInteger n => some (.integer (Text.decimalDigits n.toNat) (some 'H'))
  | .string s => some (.string s)
  | _ => none

def UnaryOp.spellings : UnaryOp → List Token
  | .not => [.symbol .bang, .word "not"]
  | .negate => [.symbol .minus]

/-- The spellings of an operator. `not in` is two tokens. -/
def BinaryOp.spellings : BinaryOp → List (List Token)
  | .or => [[.symbol .or], [.word "or"]]
  | .and => [[.symbol .and], [.word "and"]]
  | .eq => [[.symbol .eq], [.word "eq"]]
  | .ne => [[.symbol .ne], [.word "neq"]]
  | .lt => [[.symbol .lt], [.word "lt"]]
  | .gt => [[.symbol .gt], [.word "gt"]]
  | .le => [[.symbol .le], [.word "lte"]]
  | .ge => [[.symbol .ge], [.word "gte"]]
  | .isIn => [[.word "in"]]
  | .notIn => [[.word "not", .word "in"]]
  | .add => [[.symbol .plus]]
  | .sub => [[.symbol .minus]]
  | .mul => [[.symbol .star]]
  | .div => [[.symbol .slash]]
  | .rem => [[.symbol .percent]]

namespace Expr

/-! ## Rows of tokens that write an expression -/

/-- How tightly the outermost operator binds: a conditional loosest, then the binary operators by
their precedence, then the prefix operators, then everything that no operator splits. -/
def level : Expr → Nat
  | .conditional .. => 0
  | .binary op .. => op.precedence
  | .unary .. => 7
  | _ => 8

/-- A part in parentheses where its outermost operator binds less tightly than its place needs. -/
def enclosed (least : Nat) (e : Expr) (tokens : List Token) : List Token :=
  if e.level < least then .symbol .leftParen :: (tokens ++ [.symbol .rightParen]) else tokens

mutual

/-- The rows of tokens that write an expression, one for each choice of spellings. The left operand
of a binary operator may be an operation of the same precedence, the right one may not. -/
def writings : Expr → List (List Token)
  | .literal v => v.token?.toList.map fun token => [token]
  | .ident name => [[.word name]]
  | .member target name =>
    target.writings.map fun t => enclosed 8 target t ++ [.symbol .dot, .word name]
  | .index target position =>
    target.writings.flatMap fun t => position.writings.map fun p =>
      enclosed 8 target t ++ .symbol .leftBracket :: (p ++ [.symbol .rightBracket])
  | .call target method args =>
    target.writings.flatMap fun t => (listWritings args).map fun a =>
      enclosed 8 target t ++
        .symbol .dot :: .word method :: .symbol .leftParen :: (a ++ [.symbol .rightParen])
  | .unary op operand =>
    op.spellings.flatMap fun sign => operand.writings.map fun x => sign :: enclosed 7 operand x
  | .binary op left right =>
    op.spellings.flatMap fun sign => left.writings.flatMap fun l => right.writings.map fun r =>
      enclosed op.precedence left l ++ (sign ++ enclosed (op.precedence + 1) right r)
  | .conditional condition yes no =>
    condition.writings.flatMap fun c => yes.writings.flatMap fun y => no.writings.map fun n =>
      enclosed 1 condition c ++ .symbol .question :: (y ++ .symbol .colon :: n)
  | .list items =>
    (listWritings items).map fun i => .symbol .leftBrace :: (i ++ [.symbol .rightBrace])

/-- The rows of tokens that write expressions with commas between them. -/
def listWritings : List Expr → List (List Token)
  | [] => [[]]
  | [e] => e.writings
  | e :: next :: rest =>
    e.writings.flatMap fun t => (listWritings (next :: rest)).map fun ts => t ++ .symbol .comma :: ts

end

/-! ## Plain expressions -/

mutual

/-- How many steps it is to the deepest leaf. -/
def height : Expr → Nat
  | .literal _ => 0
  | .ident _ => 0
  | .member target _ => target.height + 1
  | .index target position => max target.height position.height + 1
  | .call target _ args => max (target.height + 1) (listHeight args)
  | .unary _ operand => operand.height + 1
  | .binary _ left right => max left.height right.height + 1
  | .conditional condition yes no => max condition.height (max yes.height no.height) + 1
  | .list items => listHeight items

/-- The height of a node with these children, which is a leaf where there are none. -/
def listHeight : List Expr → Nat
  | [] => 0
  | e :: rest => max (e.height + 1) (listHeight rest)

end

/-- The words that are not names of variables. -/
def reserved : List String :=
  ["null", "true", "false", "not", "and", "or", "eq", "neq", "lt", "gt", "lte", "gte", "in"]

/-- A text that is one word. -/
def IsName (name : String) : Prop := Lexer.lexemes 0 name.toList = .ok [⟨.word name, 0⟩]

end Expr

/-- A literal with a written form that is not floating. -/
def Value.Plain : Value → Prop
  | .null => True
  | .boolean _ => True
  | .int n => 0 ≤ n.toInt
  | .long n => 0 ≤ n.toInt
  | .bigInteger n => 0 ≤ n ∧ n ≤ maxBig
  | .string _ => True
  | _ => False

namespace Expr

mutual

/-- An expression of plain literals whose names can be written. Any word may name a property or a
method. -/
def Plain : Expr → Prop
  | .literal v => v.Plain
  | .ident name => IsName name ∧ name ∉ reserved
  | .member target name => target.Plain ∧ IsName name
  | .index target position => target.Plain ∧ position.Plain
  | .call target method args => target.Plain ∧ IsName method ∧ ListPlain args
  | .unary _ operand => operand.Plain
  | .binary _ left right => left.Plain ∧ right.Plain
  | .conditional condition yes no => condition.Plain ∧ yes.Plain ∧ no.Plain
  | .list items => ListPlain items

def ListPlain : List Expr → Prop
  | [] => True
  | e :: rest => e.Plain ∧ ListPlain rest

end

theorem listPlain_iff (es : List Expr) : ListPlain es ↔ ∀ e ∈ es, e.Plain := by
  induction es with
  | nil => simp [ListPlain]
  | cons e rest ih => simp [ListPlain, ih]

theorem height_lt_listHeight {e : Expr} {es : List Expr} (member : e ∈ es) :
    e.height < listHeight es := by
  induction es with
  | nil => cases member
  | cons first rest ih =>
    rw [listHeight]
    rcases List.mem_cons.1 member with rfl | member
    · exact Nat.lt_of_lt_of_le (Nat.lt_succ_self _) (Nat.le_max_left _ _)
    · exact Nat.lt_of_lt_of_le (ih member) (Nat.le_max_right _ _)

section Induction

variable {motive : Expr → Prop}
  (literal : ∀ v, motive (.literal v))
  (ident : ∀ name, motive (.ident name))
  (member : ∀ target name, motive target → motive (.member target name))
  (index : ∀ target position, motive target → motive position → motive (.index target position))
  (call : ∀ target method args, motive target → (∀ e ∈ args, motive e) →
    motive (.call target method args))
  (unary : ∀ op operand, motive operand → motive (.unary op operand))
  (binary : ∀ op left right, motive left → motive right → motive (.binary op left right))
  (conditional : ∀ condition yes no, motive condition → motive yes → motive no →
    motive (.conditional condition yes no))
  (list : ∀ items, (∀ e ∈ items, motive e) → motive (.list items))

include literal ident member index call unary binary conditional list

/-- Induction over an expression, where arguments and items are known by membership. -/
theorem induction (e : Expr) : motive e := by
  refine Expr.rec (motive_1 := motive) (motive_2 := fun es => ∀ e ∈ es, motive e)
    literal ident member index ?_ unary binary conditional list ?_ ?_ e
  · exact fun target method args ih all => call target method args ih all
  · intro e none
    cases none
  · intro first rest ih all
    exact List.forall_mem_cons.2 ⟨ih, all⟩

end Induction

/-! ## Every plain expression can be written -/

theorem exists_listWriting {es : List Expr} (each : ∀ e ∈ es, ∃ tokens, tokens ∈ e.writings) :
    ∃ tokens, tokens ∈ listWritings es := by
  induction es with
  | nil => exact ⟨[], List.mem_singleton_self _⟩
  | cons e rest ih =>
    obtain ⟨⟨t, here⟩, others⟩ := List.forall_mem_cons.1 each
    cases rest with
    | nil => exact ⟨t, here⟩
    | cons next rest =>
      obtain ⟨ts, there⟩ := ih others
      exact ⟨_, List.mem_flatMap.2 ⟨t, here, List.mem_map_of_mem there⟩⟩

/-- A plain expression can be written. -/
theorem exists_writing (e : Expr) (plain : e.Plain) : ∃ tokens, tokens ∈ e.writings := by
  induction e using Expr.induction with
  | literal v =>
    cases v <;> first
      | exact plain.elim
      | exact ⟨_, List.mem_singleton_self _⟩
      | skip
    case boolean b =>
      cases b <;> exact ⟨_, List.mem_singleton_self _⟩
  | ident name => exact ⟨_, List.mem_singleton_self _⟩
  | member target name ih =>
    obtain ⟨t, written⟩ := ih plain.1
    exact ⟨_, List.mem_map_of_mem written⟩
  | index target position ih ih' =>
    obtain ⟨t, written⟩ := ih plain.1
    obtain ⟨p, written'⟩ := ih' plain.2
    exact ⟨_, List.mem_flatMap.2 ⟨t, written, List.mem_map_of_mem written'⟩⟩
  | call target method args ih ih' =>
    obtain ⟨t, written⟩ := ih plain.1
    have each := (listPlain_iff args).1 plain.2.2
    obtain ⟨a, written'⟩ := exists_listWriting fun e among => ih' e among (each e among)
    exact ⟨_, List.mem_flatMap.2 ⟨t, written, List.mem_map_of_mem written'⟩⟩
  | unary op operand ih =>
    obtain ⟨x, written⟩ := ih plain
    obtain ⟨sign, spelled⟩ : ∃ sign, sign ∈ op.spellings := by
      cases op <;> exact ⟨_, List.mem_cons_self⟩
    exact ⟨_, List.mem_flatMap.2 ⟨sign, spelled, List.mem_map_of_mem written⟩⟩
  | binary op left right ih ih' =>
    obtain ⟨l, written⟩ := ih plain.1
    obtain ⟨r, written'⟩ := ih' plain.2
    obtain ⟨sign, spelled⟩ : ∃ sign, sign ∈ op.spellings := by
      cases op <;> exact ⟨_, List.mem_cons_self⟩
    exact ⟨_, List.mem_flatMap.2 ⟨sign, spelled,
      List.mem_flatMap.2 ⟨l, written, List.mem_map_of_mem written'⟩⟩⟩
  | conditional condition yes no ih ih' ih'' =>
    obtain ⟨c, written⟩ := ih plain.1
    obtain ⟨y, written'⟩ := ih' plain.2.1
    obtain ⟨n, written''⟩ := ih'' plain.2.2
    exact ⟨_, List.mem_flatMap.2 ⟨c, written,
      List.mem_flatMap.2 ⟨y, written', List.mem_map_of_mem written''⟩⟩⟩
  | list items ih =>
    have each := (listPlain_iff items).1 plain
    obtain ⟨i, written⟩ := exists_listWriting fun e among => ih e among (each e among)
    exact ⟨_, List.mem_map_of_mem written⟩

end Expr

end SqlPreview
