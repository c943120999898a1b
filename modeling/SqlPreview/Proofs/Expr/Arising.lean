import SqlPreview.Proofs.Expr.Sign

/-!
# Values that can come up

This file defines the values that JSON and expressions can give (`Value.Arises`).

Result: `eachDecimal_of_arises`, every decimal number in such a value is unsigned behind a kept sign.
-/

namespace SqlPreview

open Number (NumericLiteral)
open Value (EachDecimal)

theorem eachDecimal_of_writes {t : Token} (starts : Lexer.StartsPlain t) {v : Value}
    (writes : t.Writes v) : EachDecimal IsKept v := by
  have written {digits : List Char} (literal : NumericLiteral digits) :
      EachDecimal IsKept (.decimal (String.ofList digits)) := by
    refine .decimal (isKept_of_literal ?_)
    rwa [String.toList_ofList]
  cases writes with
  | @integer digits suffix _ write =>
    obtain ⟨n, read, write⟩ := Option.bind_eq_some_iff.1 write
    obtain ⟨m, read, -⟩ := Option.bind_eq_some_iff.1 read
    have long {v : Value}
        (write : (if -0x8000000000000000 ≤ n && n < 0x8000000000000000
          then some (Value.long (Int64.ofInt n)) else none) = some v) : EachDecimal IsKept v := by
      split at write
      · cases write
        exact .simple rfl
      · cases write
    dsimp only at write
    split at write
    · exact long write
    · exact long write
    · cases write
      exact .simple rfl
    · cases write
      exact .simple rfl
    · cases write
      exact written (Number.numericLiteral_of_integer? read)
    · cases write
      exact written (Number.numericLiteral_of_integer? read)
    · split at write
      · cases write
        exact .simple rfl
      · exact long write
  | @floating digits suffix _ write =>
    obtain ⟨c, rest, rfl, plain⟩ := starts
    obtain ⟨x, read, rfl⟩ := Option.map_eq_some_iff.1 write
    split
    · exact .simple rfl
    · exact .simple rfl
    · exact written (Number.numericLiteral_of_floating plain read)
    · exact written (Number.numericLiteral_of_floating plain read)
    · exact .simple rfl
  | string text => exact .simple rfl
  | word write =>
    unfold Parser.wordExpr at write
    split at write <;> cases write <;> exact .simple rfl

namespace Value

/-- What JSON is read as, what expressions over such values evaluate to, and the parts of both. -/
inductive Arises : Value → Prop
  | coerced (table : ClassTable) {text : String} {json : Json} (target : Option TypeRef) :
      Json.read text = .ok json → Arises (coerce table json target)
  | evaluated {lookup : Lookup} {expression : String} {v : Value} :
      (∀ name v, lookup name = some v → Arises v) → evaluate lookup expression = .ok v → Arises v
  | item {kind : Sequence} {items : List Value} {v : Value} :
      Arises (.sequence kind items) → v ∈ items → Arises v
  | entry {fields : List (String × Value)} {field : String × Value} :
      Arises (.map fields) → field ∈ fields → Arises field.2

end Value

theorem eachDecimal_evaluate {lookup : Lookup} {expression : String} {v : Value}
    (known : ∀ name v, lookup name = some v → EachDecimal IsKept v)
    (result : evaluate lookup expression = .ok v) : EachDecimal IsKept v := by
  unfold evaluate at result
  cases read : Expr.read expression with
  | error fault =>
    rw [read] at result
    cases result
  | ok e =>
    rw [read] at result
    obtain ⟨all, lexed, spelled⟩ := Expr.eachLiteral_of_read read
    have starts := Lexer.startsPlain_lexemes 0 expression.toList
    rw [lexed] at starts
    have literals : e.EachLiteral (EachDecimal IsKept) := by
      refine spelled.mono fun v written => ?_
      obtain ⟨lexeme, member, writes⟩ := written
      exact eachDecimal_of_writes (starts lexeme member) writes
    have yields := eachDecimal_eval keptByMinus_isKept known literals
    rwa [show e.eval lookup = .ok v from result] at yields

/-- Every decimal number that can come up is unsigned behind a kept sign. -/
theorem eachDecimal_of_arises {v : Value} (arises : v.Arises) : EachDecimal IsKept v := by
  induction arises with
  | coerced table target read =>
    exact (eachDecimal_coerce table (Json.finite_of_read read) target).mono fun _ => isKept_of_literal
  | evaluated _ result known => exact eachDecimal_evaluate known result
  | item _ member each => exact Method.items_of_sequence each _ member
  | entry _ member each => exact Method.fields_of_map each _ member

end SqlPreview
