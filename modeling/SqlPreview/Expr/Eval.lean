import SqlPreview.Expr.Method
import SqlPreview.Expr.Parser

/-!
# Evaluating expressions

The value of an expression, given the value of every name. Names without a value are nothing, and
the operators of logic look at their right side only when they need it.
-/

namespace SqlPreview

/-- The values of names. -/
abbrev Lookup := String → Option Value

mutual

def Expr.eval (lookup : Lookup) : Expr → Except EvalError Value
  | .literal value => .ok value
  | .ident name => .ok ((lookup name).getD .null)
  | .list items => do
    let values ← Expr.evalAll lookup items
    pure (.sequence .list values)
  | .member target name => do
    let target ← target.eval lookup
    Method.property target name
  | .index target position => do
    let target ← target.eval lookup
    let position ← position.eval lookup
    Method.element target position
  | .call target method args => do
    let target ← target.eval lookup
    let args ← Expr.evalAll lookup args
    Method.call target method args
  | .unary op operand => do
    let operand ← operand.eval lookup
    Operator.unary op operand
  | .binary .and left right => do
    let left ← left.eval lookup
    if left.truthy then
      let right ← right.eval lookup
      pure (.boolean right.truthy)
    else pure (.boolean false)
  | .binary .or left right => do
    let left ← left.eval lookup
    if left.truthy then pure (.boolean true)
    else
      let right ← right.eval lookup
      pure (.boolean right.truthy)
  | .binary op left right => do
    let left ← left.eval lookup
    let right ← right.eval lookup
    Operator.binary op left right
  | .conditional condition yes no => do
    let condition ← condition.eval lookup
    if condition.truthy then yes.eval lookup else no.eval lookup

/-- The values of expressions in order, up to the first that has none. -/
def Expr.evalAll (lookup : Lookup) : List Expr → Except EvalError (List Value)
  | [] => .ok []
  | expr :: rest => do
    let value ← expr.eval lookup
    let values ← Expr.evalAll lookup rest
    pure (value :: values)

end

/-- The value of a written expression. -/
def evaluate (lookup : Lookup) (expression : String) : Except EvalError Value := do
  let expr ← Expr.read expression
  expr.eval lookup

end SqlPreview
