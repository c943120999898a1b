import SqlPreview.Expr.Eval
import SqlPreview.Proofs.Dictionary
import SqlPreview.Proofs.Expr.Literals
import SqlPreview.Proofs.Value.Decimals

/-!
# Decimal numbers that evaluation gives

Evaluation takes decimal numbers from the literals of an expression, from the values of its names,
and from inside these. The only operator that makes one out of another is the minus sign.

Results:
1. One rule for each operation that a value may come out of: `simple_binary`, `eachDecimal_unary`,
   `eachDecimal_property`, `eachDecimal_element`, `eachDecimal_call`.
2. `eachDecimal_eval`: what holds of the decimal numbers that go in, and survives a minus sign, holds
   of those that come out.
-/

namespace SqlPreview

open Value (EachDecimal)

variable {P : List Char → Prop}

/-! ## Operators -/

namespace Operator

theorem simple_fit (w : Width) (n : Int) : (w.fit n).isSimple = true := by
  cases w with
  | int | long => rw [Width.fit]; split <;> rfl
  | big => rfl

theorem simple_arithmetic (op : BinaryOp) (a b : Value) :
    Yields (fun v => v.isSimple = true) (arithmetic op a b) := by
  unfold arithmetic
  split
  · trivial
  · split
    · unfold integers
      dsimp only
      split
      · trivial
      · split
        · exact simple_fit _ _
        · trivial
    · split
      · dsimp only
        split <;> rfl
      · trivial

/-- No binary operator answers with a decimal number. -/
theorem simple_binary (op : BinaryOp) (a b : Value) :
    Yields (fun v => v.isSimple = true) (binary op a b) := by
  cases op with
  | or | and | eq | ne => rfl
  | lt | gt | le | ge | isIn | notIn =>
    rw [binary]
    split
    · rfl
    · trivial
  | add =>
    rw [binary]
    split
    · rfl
    · exact simple_arithmetic .add a b
  | sub => exact simple_arithmetic .sub a b
  | mul => exact simple_arithmetic .mul a b
  | div => exact simple_arithmetic .div a b
  | rem => exact simple_arithmetic .rem a b

theorem negateWithin_eq_some {low n : Int} {make : Int → Value} {v : Value}
    (negated : negateWithin low n make = some v) : n ≠ low ∧ v = make (-n) := by
  unfold negateWithin at negated
  split at negated
  · cases negated
  · next other =>
    cases negated
    exact ⟨other, rfl⟩

theorem simple_negate? {v w : Value} (noDecimal : ∀ text, v ≠ .decimal text)
    (negated : negate? v = some w) : w.isSimple = true := by
  cases v with
  | decimal text => exact absurd rfl (noDecimal text)
  | byte n | short n | int n | long n | bigInteger n =>
    rw [negate?] at negated
    obtain ⟨-, rfl⟩ := negateWithin_eq_some negated
    rfl
  | float | double =>
    cases negated
    rfl
  | number n => cases n <;> cases negated <;> rfl
  | _ => cases negated

/-- The minus sign keeps a property of decimal numbers. -/
def KeptByMinus (P : List Char → Prop) : Prop :=
  ∀ text v, P text.toList → negate? (.decimal text) = some v → EachDecimal P v

theorem eachDecimal_unary (kept : KeptByMinus P) (op : UnaryOp) {v : Value} (each : EachDecimal P v) :
    Yields (EachDecimal P) (unary op v) := by
  cases op with
  | not => exact .simple rfl
  | negate =>
    rw [unary]
    split
    · next w negated =>
      by_cases decimal : ∃ text, v = .decimal text
      · obtain ⟨text, rfl⟩ := decimal
        cases each with
        | decimal holds => exact kept text w holds negated
        | simple none => cases none
      · exact .simple (simple_negate? (fun text same => decimal ⟨text, same⟩) negated)
    · trivial

end Operator

/-! ## Properties, elements and methods -/

namespace Method

theorem eachDecimal_get? {fields : Dict Value} (each : ∀ field ∈ fields, EachDecimal P field.2)
    (name : String) : EachDecimal P ((fields.get? name).getD .null) := by
  cases found : fields.get? name with
  | none => exact .simple rfl
  | some v => exact each _ (Dict.mem_of_get? found)

theorem fields_of_map {fields : List (String × Value)} (each : EachDecimal P (.map fields)) :
    ∀ field ∈ fields, EachDecimal P field.2 := by
  cases each with
  | map each => exact each
  | simple none => cases none

theorem items_of_sequence {kind : Sequence} {items : List Value}
    (each : EachDecimal P (.sequence kind items)) : ∀ item ∈ items, EachDecimal P item := by
  cases each with
  | sequence _ each => exact each
  | simple none => cases none

theorem eachDecimal_property {target : Value} (each : EachDecimal P target) (name : String) :
    Yields (EachDecimal P) (property target name) := by
  unfold property
  split
  · trivial
  · exact eachDecimal_get? (fields_of_map each) name
  · split <;> first | exact .simple rfl | trivial
  · split <;> first | exact .simple rfl | trivial
  · split <;> first | exact .simple rfl | trivial
  · trivial

theorem eachDecimal_element {target : Value} (each : EachDecimal P target) (index : Value) :
    Yields (EachDecimal P) (element target index) := by
  unfold element
  split
  · trivial
  · exact eachDecimal_get? (fields_of_map each) index.text
  · split
    · trivial
    · split
      · next item found =>
        split at found
        · cases found
        · exact items_of_sequence each item (List.mem_of_getElem? found)
      · trivial
  · trivial

theorem simple_substringMethod (text : List Char) (args : List Value) :
    Yields (fun v => v.isSimple = true) (substringMethod text args) := by
  unfold substringMethod
  split
  · refine (yields_true _).bind fun start _ => ?_
    exact (yields_true _).bind fun part _ => rfl
  · refine (yields_true _).bind fun start _ => ?_
    refine (yields_true _).bind fun stop _ => ?_
    exact (yields_true _).bind fun part _ => rfl
  · trivial

theorem simple_position (needle text : List Char) : (position needle text).isSimple = true := by
  unfold position
  split <;> rfl

/-- The methods of strings give no decimal numbers. -/
theorem simple_ofString {text : List Char} {method : String} {args : List Value}
    {result : Except EvalError Value} (answer : ofString text method args = some result) :
    Yields (fun v => v.isSimple = true) result := by
  unfold ofString at answer
  dsimp only at answer
  split at answer <;> cases answer
  case h_10 => exact .map fun needle => simple_position needle text
  case h_11 => exact simple_substringMethod text args
  all_goals exact .map fun _ => rfl

theorem eachDecimal_ofSequence {kind : Sequence} {items : List Value}
    (each : EachDecimal P (.sequence kind items)) {method : String} {args : List Value}
    {result : Except EvalError Value}
    (answer : ofSequence (.sequence kind items) items method args = some result) :
    Yields (EachDecimal P) result := by
  unfold ofSequence at answer
  split at answer <;> cases answer
  case h_5 =>
    exact (yields_true _).bind fun index _ => eachDecimal_element each index
  case h_6 =>
    refine .map fun arg => .simple ?_
    split <;> rfl
  all_goals exact .map fun _ => .simple rfl

theorem eachDecimal_ofMap {fields : Dict Value} (each : ∀ field ∈ fields, EachDecimal P field.2)
    {method : String} {args : List Value} {result : Except EvalError Value}
    (answer : ofMap fields method args = some result) : Yields (EachDecimal P) result := by
  unfold ofMap at answer
  split at answer <;> cases answer
  case h_5 => exact .map fun arg => eachDecimal_get? each arg.text
  all_goals exact .map fun _ => .simple rfl

theorem eachDecimal_ofKind {target : Value} (each : EachDecimal P target) {method : String}
    {args : List Value} {result : Except EvalError Value}
    (answer : ofKind target method args = some result) : Yields (EachDecimal P) result := by
  unfold ofKind at answer
  split at answer
  · exact (simple_ofString answer).mono fun _ => .simple
  · exact eachDecimal_ofSequence each answer
  · exact eachDecimal_ofMap (fields_of_map each) answer
  · split at answer
    · cases answer
      exact .map fun _ => .simple rfl
    · cases answer
  · cases answer

theorem eachDecimal_call {target : Value} (each : EachDecimal P target) (method : String)
    (args : List Value) : Yields (EachDecimal P) (call target method args) := by
  unfold call
  split
  · trivial
  · split
    · exact .map fun _ => .simple rfl
    · exact .map fun _ => .simple rfl
    · cases answer : ofKind target method args with
      | none => trivial
      | some result => exact eachDecimal_ofKind each answer

end Method

/-! ## Expressions -/

variable {lookup : Lookup}

theorem eachDecimal_evalAll {es : List Expr}
    (each : ∀ e ∈ es, Yields (EachDecimal P) (e.eval lookup)) :
    Yields (fun values => ∀ v ∈ values, EachDecimal P v) (Expr.evalAll lookup es) := by
  induction es with
  | nil =>
    rw [Expr.evalAll]
    exact List.forall_mem_nil _
  | cons e rest ih =>
    obtain ⟨first, others⟩ := List.forall_mem_cons.1 each
    rw [Expr.evalAll]
    refine first.bind fun v holds => ?_
    exact (ih others).bind fun values hold => List.forall_mem_cons.2 ⟨holds, hold⟩

/-- What holds of the decimal numbers in the literals of an expression and in the values of its
names, and is kept by the minus sign, holds of those in its value. -/
theorem eachDecimal_eval (kept : Operator.KeptByMinus P)
    (known : ∀ name v, lookup name = some v → EachDecimal P v) {e : Expr}
    (literals : e.EachLiteral (EachDecimal P)) : Yields (EachDecimal P) (e.eval lookup) := by
  induction literals with
  | literal holds =>
    rw [Expr.eval]
    exact holds
  | ident name =>
    rw [Expr.eval]
    cases found : lookup name with
    | none => exact .simple rfl
    | some v => exact known name v found
  | member name _ target =>
    rw [Expr.eval]
    exact target.bind fun v holds => Method.eachDecimal_property holds name
  | index _ _ target position =>
    rw [Expr.eval]
    refine target.bind fun v holds => ?_
    exact position.bind fun place _ => Method.eachDecimal_element holds place
  | call method _ _ target args =>
    rw [Expr.eval]
    refine target.bind fun v holds => ?_
    exact (eachDecimal_evalAll args).bind fun values _ => Method.eachDecimal_call holds method values
  | unary op _ operand =>
    rw [Expr.eval]
    exact operand.bind fun v holds => Operator.eachDecimal_unary kept op holds
  | binary op _ _ left right =>
    have answers (v w : Value) : Yields (EachDecimal P) (Operator.binary op v w) :=
      (Operator.simple_binary op v w).mono fun _ => .simple
    -- The operators of logic may do without their right side.
    cases op with
    | and | or =>
      rw [Expr.eval]
      refine left.bind fun v _ => ?_
      split
      · first | exact .simple rfl | exact right.bind fun w _ => .simple rfl
      · first | exact .simple rfl | exact right.bind fun w _ => .simple rfl
    | _ =>
      rw [Expr.eval]
      · exact left.bind fun v _ => right.bind fun w _ => answers v w
      all_goals exact nofun
  | conditional _ _ _ condition yes no =>
    rw [Expr.eval]
    refine condition.bind fun v _ => ?_
    split
    · exact yes
    · exact no
  | list _ items =>
    rw [Expr.eval]
    exact (eachDecimal_evalAll items).bind fun values hold => .sequence .list hold

end SqlPreview
