import SqlPreview.Value.Basic

/-!
# Expressions

The expressions that mapper files put into tests, loops and placeholders: literals, names,
properties, elements, method calls and operators.
-/

namespace SqlPreview

inductive UnaryOp where
  | not
  | negate
deriving DecidableEq, Repr

inductive BinaryOp where
  | or
  | and
  | eq
  | ne
  | lt
  | gt
  | le
  | ge
  | isIn
  | notIn
  | add
  | sub
  | mul
  | div
  | rem
deriving DecidableEq, Repr

namespace BinaryOp

/-- The operator as it is written in messages. -/
def symbol : BinaryOp → String
  | .or => "||"
  | .and => "&&"
  | .eq => "=="
  | .ne => "!="
  | .lt => "<"
  | .gt => ">"
  | .le => "<="
  | .ge => ">="
  | .isIn => "in"
  | .notIn => "not in"
  | .add => "+"
  | .sub => "-"
  | .mul => "*"
  | .div => "/"
  | .rem => "%"

/-- How tightly the operator binds. Operators of one precedence associate to the left. -/
def precedence : BinaryOp → Nat
  | .or => 1
  | .and => 2
  | .eq | .ne => 3
  | .lt | .gt | .le | .ge | .isIn | .notIn => 4
  | .add | .sub => 5
  | .mul | .div | .rem => 6

end BinaryOp

inductive Expr where
  | literal (value : Value)
  | ident (name : String)
  | member (target : Expr) (name : String)
  | index (target position : Expr)
  | call (target : Expr) (method : String) (args : List Expr)
  | unary (op : UnaryOp) (operand : Expr)
  | binary (op : BinaryOp) (left right : Expr)
  | conditional (condition yes no : Expr)
  | list (items : List Expr)

instance : Inhabited Expr := ⟨.literal .null⟩

end SqlPreview
