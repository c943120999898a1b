import Mathlib
import SqlPreview.Expr.Eval
import SqlPreview.Proofs.Expr.Writing

/-!
# Names in expressions

The names that an expression looks up, which are those of its name nodes: the names of members and
of methods are no lookups.

Results:
1. `Expr.eval_congr`: the value of an expression, or its failure, depends on its names only.
2. `evaluate_congr`: the same for written expressions.
-/

namespace SqlPreview

mutual

/-- The names that an expression looks up. -/
def Expr.names : Expr → List String
  | .literal _ => []
  | .ident name => [name]
  | .member target _ => target.names
  | .index target position => target.names ++ position.names
  | .call target _ args => target.names ++ Expr.namesAll args
  | .unary _ operand => operand.names
  | .binary _ left right => left.names ++ right.names
  | .conditional condition yes no => condition.names ++ (yes.names ++ no.names)
  | .list items => Expr.namesAll items

def Expr.namesAll : List Expr → List String
  | [] => []
  | expr :: rest => expr.names ++ Expr.namesAll rest

end

/-- The names in a written expression. One that cannot be read has none. -/
def namesIn (expression : String) : List String :=
  match Expr.read expression with
  | .ok expr => expr.names
  | .error _ => []

/-- Two lookups give the same for some names. -/
def AgreeOn (names : List String) (lookup lookup' : Lookup) : Prop :=
  ∀ name ∈ names, lookup name = lookup' name

theorem agreeOn_append {names more : List String} {lookup lookup' : Lookup} :
    AgreeOn (names ++ more) lookup lookup' ↔
      AgreeOn names lookup lookup' ∧ AgreeOn more lookup lookup' :=
  List.forall_mem_append

namespace Expr

variable {lookup lookup' : Lookup}

theorem evalAll_congr {exprs : List Expr} (agree : AgreeOn (namesAll exprs) lookup lookup')
    (each : ∀ expr ∈ exprs, AgreeOn expr.names lookup lookup' →
      expr.eval lookup = expr.eval lookup') :
    evalAll lookup exprs = evalAll lookup' exprs := by
  induction exprs with
  | nil => rfl
  | cons expr rest ih =>
    obtain ⟨here, there⟩ := agreeOn_append.1 agree
    obtain ⟨first, others⟩ := List.forall_mem_cons.1 each
    rw [evalAll, evalAll, first here, ih there others]

/-- Lookups that agree on the names of an expression give it the same value or the same failure. -/
theorem eval_congr (expr : Expr) (agree : AgreeOn expr.names lookup lookup') :
    expr.eval lookup = expr.eval lookup' := by
  induction expr using Expr.induction with
  | literal value => rfl
  | ident name =>
    have same : lookup name = lookup' name := agree name (List.mem_singleton_self _)
    rw [eval, eval, same]
  | member target name ih => rw [eval, eval, ih agree]
  | index target position ihTarget ihPosition =>
    obtain ⟨ofTarget, ofPosition⟩ := agreeOn_append.1 agree
    rw [eval, eval, ihTarget ofTarget, ihPosition ofPosition]
  | call target method args ihTarget ihArgs =>
    obtain ⟨ofTarget, ofArgs⟩ := agreeOn_append.1 agree
    rw [eval, eval, ihTarget ofTarget, evalAll_congr ofArgs ihArgs]
  | unary op operand ih => rw [eval, eval, ih agree]
  | binary op left right ihLeft ihRight =>
    obtain ⟨ofLeft, ofRight⟩ := agreeOn_append.1 agree
    cases op <;> simp only [eval, ihLeft ofLeft, ihRight ofRight]
  | conditional condition yes no ihCondition ihYes ihNo =>
    obtain ⟨ofCondition, ofBranches⟩ := agreeOn_append.1 agree
    obtain ⟨ofYes, ofNo⟩ := agreeOn_append.1 ofBranches
    rw [eval, eval, ihCondition ofCondition, ihYes ofYes, ihNo ofNo]
  | list items ih => rw [eval, eval, evalAll_congr agree ih]

end Expr

theorem evaluate_congr {lookup lookup' : Lookup} {expression : String}
    (agree : AgreeOn (namesIn expression) lookup lookup') :
    evaluate lookup expression = evaluate lookup' expression := by
  unfold evaluate
  unfold namesIn at agree
  cases read : Expr.read expression with
  | error e => rfl
  | ok expr =>
    rw [read] at agree
    exact expr.eval_congr agree

end SqlPreview
