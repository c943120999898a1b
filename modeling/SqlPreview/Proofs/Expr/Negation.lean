import SqlPreview.Proofs.Expr.Arising

/-!
# The minus sign

Integers are negated by value. A decimal number is negated in its text, and in front of a plus sign
the minus sign makes a text that is no number.

This file defines:
1. integers and decimal numbers (`Value.isExact`), and those that are kept with a plus sign
   (`Value.hasPlus`);
2. the negation of an exact number (`NegatedExactly`).

Results:
1. `negatedExactly_of_integer?`: integers are negated exactly.
2. `negated_exactly_iff`: an exact number that can come up is negated exactly if and only if it has no
   plus sign.
3. `plus_sign_negated`: a number of which the negation is none.
-/

namespace SqlPreview

open Number (Decimal IsUnsigned)
open Value (EachDecimal)

namespace Value

/-- Integers and decimal numbers. -/
def isExact : Value → Bool
  | .decimal _ => true
  | v => v.isIntegral

theorem integer_or_decimal {v : Value} (exact : v.isExact = true) :
    (∃ n, v.integer? = some n) ∨ ∃ text, v = .decimal text := by
  cases v with
  | decimal text => exact .inr ⟨text, rfl⟩
  | _ => exact .inl (Option.isSome_iff_exists.1 exact)

/-- A decimal number that is kept with a plus sign. -/
def hasPlus : Value → Bool
  | .decimal text =>
    match text.toList with
    | '+' :: _ | '-' :: '+' :: _ => true
    | _ => false
  | _ => false

end Value

/-- The negation `w` of `v`, which denotes `q`. -/
structure NegatedExactly (v w : Value) (q : ℚ) : Prop where
  original : v.rational? = some q
  numeric : w.isNumeric = true
  counted : w.double?.isSome = true
  negation : w.rational? = some (-q)
  back : ∀ u, Operator.unary .negate w = .ok u → u.rational? = some q

namespace Operator

theorem negate?_of_unary {v w : Value} (negated : unary .negate v = .ok w) : negate? v = some w := by
  unfold unary at negated
  dsimp only at negated
  split at negated
  · next w' found =>
    cases negated
    exact found
  · cases negated

/-- All but the least of the integers that a kind of value holds can be negated in it. -/
theorem integer?_negateWithin {low n : ℤ} {make : ℤ → Value} {w : Value} (least : low ≤ n)
    (greatest : n < -low) (held : ∀ m, low ≤ m → m < -low → (make m).integer? = some m)
    (negated : negateWithin low n make = some w) : w.integer? = some (-n) := by
  obtain ⟨other, rfl⟩ := negateWithin_eq_some negated
  exact held (-n) (by omega) (by omega)

/-- A negated integer is the integer with the other sign. -/
theorem integer?_negate? {v w : Value} {n : ℤ} (integer : v.integer? = some n)
    (negated : negate? v = some w) : w.integer? = some (-n) := by
  cases v with
  | byte n =>
    cases integer
    rw [negate?] at negated
    refine integer?_negateWithin n.le_toInt n.toInt_lt (fun m low high => ?_) negated
    exact congrArg some (Int8.toInt_ofInt_of_le low high)
  | short n =>
    cases integer
    rw [negate?] at negated
    refine integer?_negateWithin n.le_toInt n.toInt_lt (fun m low high => ?_) negated
    exact congrArg some (Int16.toInt_ofInt_of_le low high)
  | int n =>
    cases integer
    rw [negate?] at negated
    refine integer?_negateWithin n.le_toInt n.toInt_lt (fun m low high => ?_) negated
    exact congrArg some (Int32.toInt_ofInt_of_le low high)
  | long n =>
    cases integer
    rw [negate?] at negated
    refine integer?_negateWithin n.le_toInt n.toInt_lt (fun m low high => ?_) negated
    exact congrArg some (Int64.toInt_ofInt_of_le low high)
  | bigInteger n =>
    cases integer
    rw [negate?] at negated
    obtain ⟨-, rfl⟩ := negateWithin_eq_some negated
    rfl
  | number n =>
    cases n with
    | integer n =>
      cases integer
      cases negated
      rfl
    | floating x => cases integer
  | _ => cases integer

end Operator

theorem NegatedExactly.of_rational? {v w : Value} {q : ℚ} (original : v.rational? = some q)
    (negation : w.rational? = some (-q))
    (back : ∀ u, Operator.unary .negate w = .ok u → u.rational? = some q) :
    NegatedExactly v w q := by
  obtain ⟨x, counted, -⟩ := Value.double?_of_rational? negation
  exact ⟨original, Value.isNumeric_of_rational? negation, Option.isSome_iff_exists.2 ⟨x, counted⟩,
    negation, back⟩

theorem negatedExactly_of_integer? {v w : Value} {n : ℤ} (integer : v.integer? = some n)
    (negated : Operator.unary .negate v = .ok w) : NegatedExactly v w n := by
  have negation := Operator.integer?_negate? integer (Operator.negate?_of_unary negated)
  refine .of_rational? (Value.rational?_of_integer? integer) ?_ fun u again => ?_
  · rw [Value.rational?_of_integer? negation, Int.cast_neg]
  · have back := Operator.integer?_negate? negation (Operator.negate?_of_unary again)
    rw [Value.rational?_of_integer? back, neg_neg]

theorem hasPlus_kept {unsigned : List Char} (isUnsigned : IsUnsigned unsigned) (sign : KeptSign) :
    (Value.decimal (String.ofList (sign.chars ++ unsigned))).hasPlus = sign.hasPlus := by
  obtain ⟨c, rest, rfl, plain⟩ := isUnsigned.begins
  have other : c ≠ '+' ∧ c ≠ '-' := by
    constructor <;> rintro rfl <;> exact absurd plain (by decide)
  rw [Value.hasPlus, String.toList_ofList]
  cases sign with
  | absent | minus => simp [KeptSign.chars, KeptSign.hasPlus, other]
  | plus | minusPlus => rfl

/-- What becomes of an unsigned number behind a kept sign. -/
theorem negated_kept {unsigned : List Char} (isUnsigned : IsUnsigned unsigned) (sign : KeptSign)
    {v w : Value} (before : v = .decimal (String.ofList (sign.chars ++ unsigned)))
    (after : w = .decimal (String.ofList (sign.turned.chars ++ unsigned))) :
    ((∃ q, NegatedExactly v w q) ↔ v.hasPlus = false) ∧
      (v.hasPlus = true →
        w.double?.isSome = (!v.double?.isSome) ∧ Operator.unary .negate w = .ok v) := by
  obtain ⟨q, denoted⟩ := rational?_kept isUnsigned
  have original : v.rational? = sign.applied q := before ▸ denoted sign
  have negation : w.rational? = sign.turned.applied q := after ▸ denoted sign.turned
  have back : Operator.unary .negate w = .ok v := by
    rw [after, Operator.unary, negate?_kept isUnsigned, KeptSign.turned_turned, before]
  have plus_eq : v.hasPlus = sign.hasPlus := before ▸ hasPlus_kept isUnsigned sign
  have either (plus : v.hasPlus = true) : w.rational?.isSome = !v.rational?.isSome := by
    rw [original, negation]
    exact KeptSign.isSome_applied_turned (plus_eq ▸ plus) q
  refine ⟨⟨?_, fun noPlus => ?_⟩, fun plus => ⟨?_, back⟩⟩
  · rintro ⟨p, exactly⟩
    refine Bool.eq_false_iff.2 fun plus => ?_
    have both := either plus
    rw [exactly.original, exactly.negation] at both
    cases both
  · obtain ⟨p, found, turned⟩ := KeptSign.applied_turned (plus_eq ▸ noPlus) q
    refine ⟨p, .of_rational? (original.trans found) (negation.trans turned) fun u again => ?_⟩
    rw [back] at again
    cases again
    exact original.trans found
  · have before_isSome : v.double?.isSome = v.rational?.isSome :=
      before ▸ isSome_double?_kept isUnsigned sign
    have after_isSome : w.double?.isSome = w.rational?.isSome :=
      after ▸ isSome_double?_kept isUnsigned sign.turned
    rw [before_isSome, after_isSome]
    exact either plus

/-- An integer or a decimal number that can come up is negated exactly if and only if it is kept
without a plus sign. With a plus sign, only one of it and its negation counts as a number, and each
of the two is negated to the other. -/
theorem negated_exactly_iff {v w : Value} (arises : v.Arises) (exact : v.isExact = true)
    (negated : Operator.unary .negate v = .ok w) :
    ((∃ q, NegatedExactly v w q) ↔ v.hasPlus = false) ∧
      (v.hasPlus = true →
        w.double?.isSome = (!v.double?.isSome) ∧ Operator.unary .negate w = .ok v) := by
  rcases Value.integer_or_decimal exact with ⟨n, integer⟩ | ⟨text, rfl⟩
  · have noPlus : v.hasPlus = false := by
      cases v <;> first | rfl | cases integer
    refine ⟨iff_of_true ⟨n, negatedExactly_of_integer? integer negated⟩ noPlus, fun plus => ?_⟩
    rw [noPlus] at plus
    cases plus
  · have kept : IsKept text.toList := by
      cases eachDecimal_of_arises arises with
      | decimal kept => exact kept
      | simple none => cases none
    obtain ⟨sign, unsigned, isUnsigned, same, negation⟩ :=
      negate?_of_isKept kept (Operator.negate?_of_unary negated)
    exact negated_kept isUnsigned sign (congrArg Value.decimal same) negation

/-- A decimal number that a text of JSON is read as. -/
theorem price_negated :
    let price := coerce .empty (.string "2.50") (some (.named "java.math.BigDecimal"))
    let negation : Value := .decimal "-2.50"
    price.Arises ∧ price.isExact = true ∧ Operator.unary .negate price = .ok negation ∧
      ((∃ q, NegatedExactly price negation q) ↔ price.hasPlus = false) ∧
      (price.hasPlus = true →
        negation.double?.isSome = (!price.double?.isSome) ∧
          Operator.unary .negate negation = .ok price) := by
  intro price negation
  have read : Json.read "\"2.50\"" = .ok (.string "2.50") := by cbv
  have arises : price.Arises := .coerced .empty (some (.named "java.math.BigDecimal")) read
  have exact : price.isExact = true := by decide +kernel
  have negated : Operator.unary .negate price = .ok negation := by rfl
  exact ⟨arises, exact, negated, negated_exactly_iff arises exact negated⟩

/-- A number of which the negation is none. -/
theorem plus_sign_negated :
    let five := coerce .empty (.string "+5") (some (.named "java.math.BigDecimal"))
    let negation : Value := .decimal "-+5"
    five.Arises ∧ five.isExact = true ∧ five.double?.isSome = true ∧
      Operator.unary .negate five = .ok negation ∧
      negation.double? = none ∧ negation.rational? = none := by
  intro five negation
  have read : Json.read "\"+5\"" = .ok (.string "+5") := by cbv
  have arises : five.Arises := .coerced .empty (some (.named "java.math.BigDecimal")) read
  have unread : Decimal.read? "-+5".toList = none := by decide +kernel
  refine ⟨arises, by decide +kernel, by decide +kernel, by rfl, by decide +kernel, ?_⟩
  rw [Value.rational?, unread]
  rfl

end SqlPreview
