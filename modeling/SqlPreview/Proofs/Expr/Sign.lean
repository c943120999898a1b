import SqlPreview.Proofs.Expr.Decimals
import SqlPreview.Proofs.Number.Written
import SqlPreview.Proofs.Value.Exact

/-!
# Signs of decimal numbers

A decimal number is negated in its text, by taking a minus sign away or putting one in front. This
file defines the signs that come up in this way (`KeptSign`), and the texts that are an unsigned number
behind one of them (`IsKept`).

Results:
1. `rational?_kept`: what is denoted behind each of the signs.
2. `negate?_of_isKept`: a negation turns the sign, and does nothing else.
-/

namespace SqlPreview

open Number (Decimal IsUnsigned NumericLiteral)

/-- The signs in front of the decimal numbers that are kept. -/
inductive KeptSign where
  | absent
  | minus
  | plus
  | minusPlus
deriving DecidableEq, Repr

namespace KeptSign

def chars : KeptSign → List Char
  | .absent => []
  | .minus => ['-']
  | .plus => ['+']
  | .minusPlus => ['-', '+']

/-- The sign after one more negation. -/
def turned : KeptSign → KeptSign
  | .absent => .minus
  | .minus => .absent
  | .plus => .minusPlus
  | .minusPlus => .plus

/-- What is denoted with this sign by a text that denotes `q` without one. -/
def applied (q : ℚ) : KeptSign → Option ℚ
  | .absent | .plus => some q
  | .minus => some (-q)
  | .minusPlus => none

def hasPlus : KeptSign → Bool
  | .absent | .minus => false
  | .plus | .minusPlus => true

theorem turned_turned (sign : KeptSign) : sign.turned.turned = sign := by
  cases sign <;> rfl

/-- Without a plus sign, turning the sign negates what is denoted. -/
theorem applied_turned {sign : KeptSign} (noPlus : sign.hasPlus = false) (q : ℚ) :
    ∃ p, sign.applied q = some p ∧ sign.turned.applied q = some (-p) := by
  cases sign with
  | absent => exact ⟨q, rfl, rfl⟩
  | minus => exact ⟨-q, rfl, congrArg some (neg_neg q).symm⟩
  | plus | minusPlus => cases noPlus

/-- With a plus sign, there is a number either before or after turning the sign. -/
theorem isSome_applied_turned {sign : KeptSign} (plus : sign.hasPlus = true) (q : ℚ) :
    (sign.turned.applied q).isSome = !(sign.applied q).isSome := by
  cases sign with
  | absent | minus => cases plus
  | plus | minusPlus => rfl

end KeptSign

/-- An unsigned number behind a kept sign. -/
def IsKept (text : List Char) : Prop :=
  ∃ (sign : KeptSign) (unsigned : List Char), IsUnsigned unsigned ∧ text = sign.chars ++ unsigned

theorem isKept_of_literal {text : List Char} (literal : NumericLiteral text) : IsKept text := by
  obtain ⟨isSign, unsigned⟩ := literal
  cases isSign with
  | absent => exact ⟨.absent, _, unsigned, rfl⟩
  | minus => exact ⟨.minus, _, unsigned, rfl⟩
  | plus => exact ⟨.plus, _, unsigned, rfl⟩

section

variable {unsigned : List Char}

/-- Behind any of the signs, an unsigned number denotes what the sign makes of it. -/
theorem rational?_kept (isUnsigned : IsUnsigned unsigned) : ∃ q : ℚ, ∀ sign : KeptSign,
    (Value.decimal (String.ofList (sign.chars ++ unsigned))).rational? = sign.applied q := by
  obtain ⟨d, read⟩ := Option.isSome_iff_exists.1 (Decimal.unsigned?_isSome isUnsigned false)
  have value : Decimal.unsignedValue? unsigned = some d.toRat := by
    rw [Decimal.unsignedValue?, read, Option.map_some]
  refine ⟨d.toRat, fun sign => ?_⟩
  rw [Value.rational?, String.toList_ofList]
  show Decimal.value? _ = _
  cases sign with
  | absent => exact (Decimal.value?_unsigned isUnsigned).trans value
  | plus => exact (Decimal.value?_plus unsigned).trans value
  | minus => exact (Decimal.value?_minus unsigned).trans (congrArg _ value)
  | minusPlus => rfl

theorem negate?_kept (isUnsigned : IsUnsigned unsigned) (sign : KeptSign) :
    Operator.negate? (.decimal (String.ofList (sign.chars ++ unsigned))) =
      some (.decimal (String.ofList (sign.turned.chars ++ unsigned))) := by
  rw [Operator.negate?, String.toList_ofList]
  cases sign with
  | absent =>
    obtain ⟨c, rest, rfl, plain⟩ := isUnsigned.begins
    split
    · next same =>
      cases same
      exact absurd plain (by decide)
    · rfl
  | minus | plus | minusPlus => rfl

/-- A text counts as a number if it denotes one. -/
theorem isSome_double?_kept (isUnsigned : IsUnsigned unsigned) (sign : KeptSign) :
    (Value.decimal (String.ofList (sign.chars ++ unsigned))).double?.isSome =
      (Value.decimal (String.ofList (sign.chars ++ unsigned))).rational?.isSome := by
  obtain ⟨q, denoted⟩ := rational?_kept isUnsigned
  rw [denoted sign]
  cases exact : sign.applied q with
  | some p =>
    obtain ⟨x, counted, -⟩ := Value.double?_of_rational? ((denoted sign).trans exact)
    rw [counted]
    rfl
  | none =>
    cases sign with
    | absent | minus | plus => cases exact
    | minusPlus =>
      have unread : Decimal.read? (KeptSign.minusPlus.chars ++ unsigned) = none := rfl
      have unnamed : Number.Floating.named? (String.ofList ('+' :: unsigned.map Char.toLower)) = none :=
        Number.named?_eq_none _ (by decide)
      rw [Value.double?, String.toList_ofList, Number.Floating.read?, unread]
      show Option.isSome (Option.map _ (Number.Floating.named?
        (String.ofList ('+' :: unsigned.map Char.toLower)))) = _
      rw [unnamed]
      rfl

end

/-- A negation turns the sign. -/
theorem negate?_of_isKept {text : String} {w : Value} (kept : IsKept text.toList)
    (negated : Operator.negate? (.decimal text) = some w) :
    ∃ (sign : KeptSign) (unsigned : List Char), IsUnsigned unsigned ∧
      text = String.ofList (sign.chars ++ unsigned) ∧
      w = .decimal (String.ofList (sign.turned.chars ++ unsigned)) := by
  obtain ⟨sign, unsigned, isUnsigned, same⟩ := kept
  have text_eq : text = String.ofList (sign.chars ++ unsigned) := by
    rw [← same, String.ofList_toList]
  rw [text_eq, negate?_kept isUnsigned] at negated
  cases negated
  exact ⟨sign, unsigned, isUnsigned, text_eq, rfl⟩

theorem keptByMinus_isKept : Operator.KeptByMinus IsKept := by
  intro text v kept negated
  obtain ⟨sign, unsigned, isUnsigned, -, rfl⟩ := negate?_of_isKept kept negated
  refine .decimal ⟨sign.turned, unsigned, isUnsigned, ?_⟩
  rw [String.toList_ofList]

end SqlPreview
