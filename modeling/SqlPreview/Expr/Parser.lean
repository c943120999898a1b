import SqlPreview.Expr.Basic
import SqlPreview.Expr.Error

/-!
# Reading expressions

A reader for each level of the grammar, from conditionals down to primaries. Binary operators are
read by precedence; parentheses, conditionals and prefix operators may nest `maxNesting` deep, so
the readers of one nesting level are built from those of the next.
-/

namespace SqlPreview

namespace Parser

/-- How deep expressions may nest. -/
def maxNesting : Nat := 128

/-- A reader of the tokens at the front of a list. -/
abbrev Reader (α : Type) := (input : List Lexeme) → Except FormFault (Taken input α)

/-- A problem at the next token, or at the end of the expression. -/
def faultAt (problem : FormProblem) (input : List Lexeme) : FormFault :=
  ⟨problem, input.head?.map Lexeme.offset⟩

/-- What is left after a symbol, if it comes next. -/
def symbol? (s : Symbol) (input : List Lexeme) : Option (Taken input Unit) :=
  match input with
  | ⟨.symbol t, _⟩ :: rest => if s = t then some ⟨(), rest, by simp⟩ else none
  | _ => none

/-- What is left after a symbol that has to come next. -/
def expect (s : Symbol) (input : List Lexeme) : Except FormFault (Taken input Unit) :=
  match symbol? s input with
  | some taken => .ok taken
  | none => .error (faultAt (.expectedSymbol s) input)

/-! ## Primaries -/

/-- The literal that integer digits and a type letter write, if it fits. -/
def integerLiteral? (digits : List Char) (suffix : Option Char) : Option Value := do
  let n ← (Number.Decimal.integer? digits).bind Value.big?
  let long :=
    if -0x8000000000000000 ≤ n && n < 0x8000000000000000 then some (Value.long (Int64.ofInt n))
    else none
  match suffix with
  | some 'l' | some 'L' => long
  | some 'h' | some 'H' => some (.bigInteger n)
  | some 'b' | some 'B' => some (.decimal (String.ofList digits))
  | _ =>
    if -0x80000000 ≤ n && n < 0x80000000 then some (.int (Int32.ofInt n)) else long

/-- The literal that floating digits and a type letter write, if they are a number. -/
def floatingLiteral? (digits : List Char) (suffix : Option Char) : Option Value :=
  (Number.Floating.read? .double digits).map fun x =>
    match suffix with
    | some 'f' | some 'F' => .float (x.convert .single)
    | some 'b' | some 'B' => .decimal (String.ofList digits)
    | _ => .double x

/-- What a word stands for on its own. -/
def wordExpr (name : String) : Expr :=
  match name with
  | "null" => .literal .null
  | "true" => .literal (.boolean true)
  | "false" => .literal (.boolean false)
  | name => .ident name

/-- Expressions separated by commas, given what follows the opening symbol, up to `close`. -/
def moreArguments (expr : Reader Expr) (close : Symbol) : Reader (List Expr) := fun input => do
  let first ← expr input
  match symbol? .comma first.rest with
  | some comma =>
    have : comma.rest.length < input.length := Nat.lt_trans comma.shorter first.shorter
    let others ← moreArguments expr close comma.rest
    pure ⟨first.value :: others.value, others.rest, Nat.lt_trans others.shorter this⟩
  | none => do
    let closed ← expect close first.rest
    pure ⟨[first.value], closed.rest, Nat.lt_trans closed.shorter first.shorter⟩
termination_by input => input.length

/-- Arguments, given what follows the opening symbol, up to `close`. -/
def arguments (expr : Reader Expr) (close : Symbol) : Reader (List Expr) := fun input =>
  match symbol? close input with
  | some closed => .ok (closed.map fun _ => [])
  | none => moreArguments expr close input

/-- An expression that no operator splits, when `expr` reads what stands in brackets. -/
def primary (expr : Reader Expr) : Reader Expr := fun input =>
  match input with
  | [] => .error (faultAt .unexpectedEnd [])
  | ⟨token, offset⟩ :: rest =>
    match token with
    | .integer digits suffix =>
      match integerLiteral? digits suffix with
      | some value => .ok ⟨.literal value, rest, by simp⟩
      | none => .error ⟨.integerOutOfRange, some offset⟩
    | .floating digits suffix =>
      match floatingLiteral? digits suffix with
      | some value => .ok ⟨.literal value, rest, by simp⟩
      | none => .error ⟨.malformedNumber, some offset⟩
    | .string text => .ok ⟨.literal (.string text), rest, by simp⟩
    | .word name => .ok ⟨wordExpr name, rest, by simp⟩
    | .symbol .leftParen => do
      let inner ← expr rest
      let closed ← expect .rightParen inner.rest
      pure ⟨inner.value, closed.rest, by
        have := inner.shorter; have := closed.shorter
        simp only [List.length_cons]; omega⟩
    | .symbol .leftBrace => do
      let items ← arguments expr .rightBrace rest
      pure ((items.map .list).widen (by simp))
    | .symbol s => .error ⟨.unexpectedSymbol s, some offset⟩

/-! ## Operators -/

/-- Properties, method calls and elements after an expression. -/
def postfixes (expr : Reader Expr) (target : Expr) (input : List Lexeme) :
    Except FormFault (Expr × { rest : List Lexeme // rest.length ≤ input.length }) :=
  match symbol? .dot input with
  | some dot =>
    match h : dot.rest with
    | ⟨.word name, _⟩ :: after =>
      have shorter : after.length < input.length := by
        have := dot.shorter
        rw [h, List.length_cons] at this
        omega
      match symbol? .leftParen after with
      | some opened => do
        let args ← arguments expr .rightParen opened.rest
        let (whole, rest) ← postfixes expr (.call target name args.value) args.rest
        pure (whole, ⟨rest.val, by
          have := opened.shorter; have := args.shorter; have := rest.property; omega⟩)
      | none => do
        let (whole, rest) ← postfixes expr (.member target name) after
        pure (whole, ⟨rest.val, by have := rest.property; omega⟩)
    | other => .error (faultAt .expectedMember other)
  | none =>
    match symbol? .leftBracket input with
    | some opened => do
      let position ← expr opened.rest
      let closed ← expect .rightBracket position.rest
      let (whole, rest) ← postfixes expr (.index target position.value) closed.rest
      pure (whole, ⟨rest.val, by
        have := opened.shorter; have := position.shorter; have := closed.shorter
        have := rest.property; omega⟩)
    | none => .ok (target, ⟨input, Nat.le_refl _⟩)
termination_by input.length
decreasing_by
  · have := opened.shorter; have := args.shorter; omega
  · exact shorter
  · have := opened.shorter; have := position.shorter; have := closed.shorter; omega

/-- A primary with what is applied to it. -/
def operand (expr : Reader Expr) : Reader Expr := fun input => do
  let first ← primary expr input
  let (whole, rest) ← postfixes expr first.value first.rest
  pure ⟨whole, rest.val, Nat.lt_of_le_of_lt rest.property first.shorter⟩

/-- The prefix operator that comes next. -/
def prefixOp? : Token → Option UnaryOp
  | .symbol .bang => some .not
  | .word "not" => some .not
  | .symbol .minus => some .negate
  | _ => none

/-- An operand with prefix operators, when `deeper` reads what one of them applies to. -/
def unary (expr deeper : Reader Expr) : Reader Expr := fun input =>
  match input with
  | [] => operand expr []
  | lexeme :: rest =>
    match prefixOp? lexeme.token with
    | some op => do
      let inner ← deeper rest
      pure ((inner.map (.unary op)).widen (by simp))
    | none => operand expr (lexeme :: rest)

/-- The binary operator that a symbol writes. -/
def symbolOp? : Symbol → Option BinaryOp
  | .or => some .or
  | .and => some .and
  | .eq => some .eq
  | .ne => some .ne
  | .lt => some .lt
  | .gt => some .gt
  | .le => some .le
  | .ge => some .ge
  | .plus => some .add
  | .minus => some .sub
  | .star => some .mul
  | .slash => some .div
  | .percent => some .rem
  | _ => none

/-- The binary operator that a word writes. -/
def wordOp? : String → Option BinaryOp
  | "or" => some .or
  | "and" => some .and
  | "eq" => some .eq
  | "neq" => some .ne
  | "lt" => some .lt
  | "gt" => some .gt
  | "lte" => some .le
  | "gte" => some .ge
  | "in" => some .isIn
  | _ => none

/-- The binary operator that comes next. -/
def binaryOp? (input : List Lexeme) : Option (Taken input BinaryOp) :=
  match input with
  | ⟨.symbol s, _⟩ :: rest => (symbolOp? s).map fun op => ⟨op, rest, by simp⟩
  | ⟨.word "not", _⟩ :: ⟨.word "in", _⟩ :: rest =>
    some ⟨.notIn, rest, by simp only [List.length_cons]; omega⟩
  | ⟨.word name, _⟩ :: rest => (wordOp? name).map fun op => ⟨op, rest, by simp⟩
  | _ => none

mutual

/-- Operands joined by operators of at least a precedence. -/
def binary (unary : Reader Expr) (least : Nat) (input : List Lexeme) :
    Except FormFault (Taken input Expr) := do
  let first ← unary input
  let (whole, rest) ← binaryRest unary least first.value first.rest
  pure ⟨whole, rest.val, Nat.lt_of_le_of_lt rest.property first.shorter⟩
termination_by (input.length, 0)
decreasing_by exact Prod.Lex.left _ _ first.shorter

/-- The operators of at least a precedence after a left operand, with their right operands. -/
def binaryRest (unary : Reader Expr) (least : Nat) (left : Expr) (input : List Lexeme) :
    Except FormFault (Expr × { rest : List Lexeme // rest.length ≤ input.length }) :=
  match binaryOp? input with
  | none => .ok (left, ⟨input, Nat.le_refl _⟩)
  | some op =>
    if op.value.precedence < least then .ok (left, ⟨input, Nat.le_refl _⟩)
    else do
      let right ← binary unary (op.value.precedence + 1) op.rest
      let (whole, rest) ← binaryRest unary least (.binary op.value left right.value) right.rest
      pure (whole, ⟨rest.val, by
        have := op.shorter; have := right.shorter; have := rest.property; omega⟩)
termination_by (input.length, 1)
decreasing_by
  · exact Prod.Lex.left _ _ op.shorter
  · exact Prod.Lex.left _ _ (Nat.lt_trans right.shorter op.shorter)

end

/-- An expression, when `unary` reads its operands and `expr` the branches of a conditional. -/
def conditional (unary expr : Reader Expr) : Reader Expr := fun input => do
  let condition ← binary unary 1 input
  match symbol? .question condition.rest with
  | none => pure condition
  | some mark => do
    let yes ← expr mark.rest
    let colon ← expect .colon yes.rest
    let no ← expr colon.rest
    pure ⟨.conditional condition.value yes.value no.value, no.rest, by
      have := condition.shorter; have := mark.shorter; have := yes.shorter
      have := colon.shorter; have := no.shorter; omega⟩

/-! ## Nesting -/

/-- The readers of one nesting level. -/
structure Level where
  expr : Reader Expr
  unary : Reader Expr

/-- A reader where nothing may nest any more. -/
def tooDeep : Reader Expr := fun input => .error (faultAt .tooDeep input)

/-- The readers where `room` more levels may nest. -/
def level (room : Nat) : Level :=
  match room with
  | 0 => ⟨tooDeep, unary tooDeep tooDeep⟩
  | room + 1 =>
    let inner := level room
    let expr := conditional inner.unary inner.expr
    ⟨expr, unary expr inner.unary⟩

/-- The expression that is the whole of a token list. -/
def whole (input : List Lexeme) : Except FormFault Expr := do
  let taken ← (level maxNesting).expr input
  match taken.rest with
  | [] => pure taken.value
  | rest => .error (faultAt .trailingInput rest)

end Parser

/-- Reads an expression. -/
def Expr.read (text : String) : Except EvalError Expr :=
  let chars := text.toList
  match Lexer.lexemes 0 chars >>= Parser.whole with
  | .ok expr => .ok expr
  | .error fault =>
    .error (.malformed text (fault.offset.getD (Text.utf8Size chars)) fault.problem)

end SqlPreview
