import Mathlib
import SqlPreview.Proofs.Expr.Writing
import SqlPreview.Sql.Render

/-!
# Bound names and their expressions

A binding gives a name the value of an expression. Reading the name then is the same as having the
expression in its place.

This file defines:
1. expressions with other ones in place of all names (`Expr.substitute`), and of one
   (`Expr.replace`);
2. when expressions stand for the names of a lookup (`Expr.StandsFor`).

Results:
1. `Expr.eval_substitute`: expressions may be put in place of the names that they stand for.
2. `Expr.standsFor_bind`: behind a binding, the bound expression stands for the name, and every
   other name for itself.
3. `bound_name_replaced`: reading a bound name is having its expression in place, in a context and
   behind a tag.
4. `hidden_offset_replaced`: a binding that hides the name which its expression reads.
-/

namespace SqlPreview

namespace Expr

mutual

/-- An expression with other ones in place of its names. The names of members and of methods are no
such names. -/
def substitute (new : String → Expr) : Expr → Expr
  | .literal value => .literal value
  | .ident name => new name
  | .member target name => .member (target.substitute new) name
  | .index target position => .index (target.substitute new) (position.substitute new)
  | .call target method args => .call (target.substitute new) method (substituteAll new args)
  | .unary op operand => .unary op (operand.substitute new)
  | .binary op left right => .binary op (left.substitute new) (right.substitute new)
  | .conditional condition yes no =>
    .conditional (condition.substitute new) (yes.substitute new) (no.substitute new)
  | .list items => .list (substituteAll new items)

def substituteAll (new : String → Expr) : List Expr → List Expr
  | [] => []
  | expr :: rest => expr.substitute new :: substituteAll new rest

end

/-- An expression with another one in place of a name. -/
def replace (expr : Expr) (name : String) (new : Expr) : Expr :=
  expr.substitute fun other => if other = name then new else .ident other

/-- Where some names are read as in `inner`, others give their values as expressions. A name without
a value has the value of nothing. -/
def StandsFor (new : String → Expr) (lookup inner : Lookup) : Prop :=
  ∀ name, (new name).eval lookup = .ok ((inner name).getD .null)

variable {lookup inner : Lookup} {new : String → Expr}

theorem evalAll_substituteAll {exprs : List Expr}
    (each : ∀ e ∈ exprs, (e.substitute new).eval lookup = e.eval inner) :
    evalAll lookup (substituteAll new exprs) = evalAll inner exprs := by
  induction exprs with
  | nil => rfl
  | cons e rest ih =>
    obtain ⟨first, others⟩ := List.forall_mem_cons.1 each
    rw [substituteAll, evalAll, evalAll, first, ih others]

/-- Every operand is evaluated in the same order and to the same end, so that the failures are the
same as well, and what is never looked at may stand for anything. -/
theorem eval_substitute (stands : StandsFor new lookup inner) (e : Expr) :
    (e.substitute new).eval lookup = e.eval inner := by
  induction e using Expr.induction with
  | literal value => rfl
  | ident name => rw [substitute, stands, eval]
  | member target name ih => rw [substitute, eval, eval, ih]
  | index target position ihTarget ihPosition => rw [substitute, eval, eval, ihTarget, ihPosition]
  | call target method args ihTarget ihArgs =>
    rw [substitute, eval, eval, ihTarget, evalAll_substituteAll ihArgs]
  | unary op operand ih => rw [substitute, eval, eval, ih]
  | binary op left right ihLeft ihRight =>
    cases op <;> simp only [substitute, eval, ihLeft, ihRight]
  | conditional condition yes no ihCondition ihYes ihNo =>
    rw [substitute, eval, eval, ihCondition, ihYes, ihNo]
  | list items ih => rw [substitute, eval, eval, evalAll_substituteAll ih]

/-- The innermost binding of a name is the one that is read, whatever the frames below it and the
base have under that name. -/
theorem standsFor_bind {context : Context} {name : String} {d : Expr} {v : Value}
    (value : d.eval context.get? = .ok v) :
    StandsFor (fun other => if other = name then d else .ident other) context.get?
      (context.bind name v).get? := by
  intro other
  rw [context.get?_bind]
  by_cases bound : other = name
  · simp only [if_pos bound, value, Option.getD_some]
  · simp only [if_neg bound, eval]

end Expr

namespace Render

/-- A complete binding tag whose expression has a value binds its name to it. -/
theorem afterBind_of_eval {setting : Setting} {scope : Scope} {element : Element}
    {name text : String} {d : Expr} {v : Value} (named : element.attribute? "name" = some name)
    (valued : element.attribute? "value" = some text) (read : Expr.read text = .ok d)
    (value : d.eval scope.context.get? = .ok v) :
    afterBind setting scope element = .ok { scope with context := scope.context.bind name v } := by
  have evaluated : evaluate scope.context.get? text = .ok v := by
    rw [evaluate, read]
    exact value
  rw [afterBind, named, valued]
  simp only [Render.value, evaluated]
  rfl

end Render

/-- Reading a bound name is the same as having the bound expression in its place: an expression has
the same value, or the same failure, inside the binding as it has outside with the name replaced. It
is so for the names that binding tags bind. -/
theorem bound_name_replaced {context : Context} {d : Expr} {v : Value}
    (value : d.eval context.get? = .ok v) (name : String) :
    (∀ e : Expr, e.eval (context.bind name v).get? = (e.replace name d).eval context.get?) ∧
    ∀ (setting : Render.Setting) (scope : Render.Scope) (element : Element) (text : String),
      scope.context = context → element.attribute? "name" = some name →
      element.attribute? "value" = some text → Expr.read text = .ok d →
      ∃ after, Render.afterBind setting scope element = .ok after ∧
        ∀ (expression : String) (e : Expr), Expr.read expression = .ok e →
          evaluate after.context.get? expression = (e.replace name d).eval context.get? := by
  have inPlace (e : Expr) :
      e.eval (context.bind name v).get? = (e.replace name d).eval context.get? :=
    (Expr.eval_substitute (Expr.standsFor_bind value) e).symm
  refine ⟨inPlace, fun setting scope element text same named valued read => ?_⟩
  subst same
  refine ⟨_, Render.afterBind_of_eval named valued read value, fun expression e parsed => ?_⟩
  rw [evaluate, parsed]
  exact inPlace e

set_option maxRecDepth 10000 in
/-- The bound expression reads the name that its binding hides. -/
theorem hidden_offset_replaced :
    let context : Context := .ofBase [("offset", .int 10)]
    let further : Expr := .binary .add (.ident "offset") (.literal (.int 5))
    let square : Expr := .binary .mul (.ident "offset") (.ident "offset")
    let tag : Element := ⟨"bind", [("name", "offset"), ("value", "offset + 5")], []⟩
    further.eval context.get? = .ok (.int 15) ∧
    square.replace "offset" further = .binary .mul further further ∧
    (square.replace "offset" further).eval context.get? = .ok (.int 225) ∧
    square.eval (context.bind "offset" (.int 15)).get? = .ok (.int 225) ∧
    ∃ after, Render.afterBind ⟨.empty, {}, ⟨"m", "s"⟩⟩ ⟨context, [], "m"⟩ tag = .ok after ∧
      evaluate after.context.get? "offset*offset" = .ok (.int 225) := by
  intro context further square tag
  have value : further.eval context.get? = .ok (.int 15) := by rfl
  have squared : (square.replace "offset" further).eval context.get? = .ok (.int 225) := by rfl
  have readFurther : Expr.read "offset + 5" = .ok further := by cbv
  have readSquare : Expr.read "offset*offset" = .ok square := by cbv
  obtain ⟨inPlace, behindTag⟩ := bound_name_replaced value "offset"
  obtain ⟨after, bound, same⟩ :=
    behindTag ⟨.empty, {}, ⟨"m", "s"⟩⟩ ⟨context, [], "m"⟩ tag _ rfl rfl rfl readFurther
  exact ⟨value, rfl, squared, (inPlace square).trans squared, after, bound,
    (same _ _ readSquare).trans squared⟩

end SqlPreview
