import Mathlib.Data.List.Perm.Subperm
import SqlPreview.Expr.Operator
import SqlPreview.Proofs.Dictionary
import SqlPreview.Proofs.Number.Order

/-!
# Equality as tests see it

Tests compare numbers by value, also with numbers that a string writes, names by their text,
sequences member by member and maps entry by entry. The order of the two sides never matters.

This file defines:
1. values whose maps have every name once (`Value.WellFormed`);
2. pairs of values that are compared part by part (`SameShape`), and how all other pairs are
   compared (`equalWhole`).

Results:
1. `equalWhole_comm`: values without parts compare alike both ways.
2. `looselyEqualFields_comm`: maps do, although only the entries of the first are gone through.
3. `looselyEqual_comm`: all well-formed values do.
-/

namespace SqlPreview

/-- Every map in a value, at any depth, has every name once, as dictionaries have. -/
inductive Value.WellFormed : Value → Prop
  | whole {v : Value} : (∀ kind items, v ≠ .sequence kind items) → (∀ fields, v ≠ .map fields) →
      WellFormed v
  | sequence {kind : Sequence} {items : List Value} :
      (∀ item ∈ items, WellFormed item) → WellFormed (.sequence kind items)
  | map {fields : Dict Value} :
      fields.names.Nodup → (∀ field ∈ fields, WellFormed field.2) → WellFormed (.map fields)

theorem Value.isNull_iff {v : Value} : v.isNull = true ↔ v = .null := by
  cases v <;> simp [Value.isNull]

namespace Operator

/-- Two sequences, or two maps. -/
inductive SameShape : Value → Value → Prop
  | sequence {kind kind' : Sequence} {as bs : List Value} :
      SameShape (.sequence kind as) (.sequence kind' bs)
  | map {as bs : List (String × Value)} : SameShape (.map as) (.map bs)

theorem SameShape.symm {a b : Value} (same : SameShape a b) : SameShape b a := by
  cases same with
  | sequence => exact .sequence
  | map => exact .map

/-- Equality of values that are not compared part by part. -/
def equalWhole (a b : Value) : Bool :=
  if a.isNull || b.isNull then a.isNull && b.isNull
  else if a.isNumeric && b.isNumeric then numbersEqual a b
  else if a.isNumeric || b.isNumeric then numberEqualsOther a b
  else if isName a && isName b then a.text == b.text
  else Value.same a b

theorem looselyEqual_whole {a b : Value} (apart : ¬ SameShape a b) :
    looselyEqual a b = equalWhole a b := by
  rw [looselyEqual.eq_def]
  split
  · rfl
  · exact absurd .sequence apart
  · exact absurd .map apart
  · next differ _ _ =>
    have notBoth : (a.isNull && b.isNull) = false := by
      rw [Bool.and_eq_false_iff, ← Bool.not_eq_true, ← Bool.not_eq_true, Value.isNull_iff,
        Value.isNull_iff, ← not_and_or]
      exact fun both => differ both.1 both.2
    rw [equalWhole, notBoth]

/-! ## Values without parts -/

theorem sameDouble_comm (x y : Option Number.Floating) : sameDouble x y = sameDouble y x := by
  cases x with
  | none => cases y <;> rfl
  | some x =>
    cases y with
    | none => rfl
    | some y => exact x.same_comm y

theorem numbersEqual_comm (a b : Value) : numbersEqual a b = numbersEqual b a := by
  unfold numbersEqual
  rw [sameDouble_comm a.double?]
  cases a.integer? with
  | none => cases b.integer? <;> rfl
  | some m =>
    cases b.integer? with
    | none => rfl
    | some n => exact BEq.comm

theorem numberEqualsOther_comm (a b : Value) : numberEqualsOther a b = numberEqualsOther b a := by
  unfold numberEqualsOther
  rw [Bool.or_comm]
  congr 1
  cases numericView? a with
  | none => cases numericView? b <;> rfl
  | some x =>
    cases numericView? b with
    | none => rfl
    | some y => exact x.same_comm y

theorem jsonNumber_same_comm (m n : JsonNumber) : m.same n = n.same m := by
  cases m with
  | integer a =>
    cases n with
    | integer b => exact BEq.comm
    | floating y => rfl
  | floating x =>
    cases n with
    | integer b => rfl
    | floating y => exact x.same_comm y

theorem same_of_same {a b : Value} (apart : ¬ SameShape a b) (same : Value.same a b = true) :
    Value.same b a = true := by
  rw [Value.same.eq_def] at same
  split at same
  case h_1 => rfl
  case h_8 x y | h_9 x y =>
    rw [Value.same, y.same_comm]
    exact same
  case h_12 m n =>
    rw [Value.same, jsonNumber_same_comm]
    exact same
  case h_19 type a type' b =>
    rw [Value.same, BEq.comm (a := type'), BEq.comm (a := b)]
    exact same
  case h_20 => exact absurd .sequence apart
  case h_21 => exact absurd .map apart
  case h_22 => cases same
  all_goals
    rw [Value.same, BEq.comm]
    exact same

theorem same_comm {a b : Value} (apart : ¬ SameShape a b) : Value.same a b = Value.same b a := by
  rw [Bool.eq_iff_iff]
  exact ⟨same_of_same apart, same_of_same (mt SameShape.symm apart)⟩

theorem equalWhole_comm {a b : Value} (apart : ¬ SameShape a b) :
    equalWhole a b = equalWhole b a := by
  unfold equalWhole
  rw [Bool.or_comm a.isNull, Bool.and_comm a.isNull, Bool.and_comm a.isNumeric,
    Bool.or_comm a.isNumeric, Bool.and_comm (isName a), numbersEqual_comm, numberEqualsOther_comm,
    same_comm apart, BEq.comm (a := a.text)]

/-! ## Values with parts -/

theorem looselyEqualItems_comm {as bs : List Value}
    (each : ∀ a ∈ as, ∀ b ∈ bs, looselyEqual a b = looselyEqual b a) :
    looselyEqualItems as bs = looselyEqualItems bs as := by
  induction as generalizing bs with
  | nil => cases bs <;> rfl
  | cons a as ih =>
    cases bs with
    | nil => rfl
    | cons b bs =>
      rw [looselyEqualItems, looselyEqualItems, each a List.mem_cons_self b List.mem_cons_self,
        ih fun x inside y inside' =>
          each x (List.mem_cons_of_mem _ inside) y (List.mem_cons_of_mem _ inside')]

theorem looselyEqualFields_iff {as bs : List (String × Value)} :
    looselyEqualFields as bs = true ↔
      ∀ field ∈ as, ∃ b, Dict.get? bs field.1 = some b ∧ looselyEqual field.2 b = true := by
  induction as with
  | nil => simp [looselyEqualFields]
  | cons field rest ih =>
    obtain ⟨name, a⟩ := field
    rw [looselyEqualFields, Bool.and_eq_true, ih, List.forall_mem_cons]
    refine and_congr ?_ Iff.rfl
    show _ ↔ ∃ b, bs.lookup name = some b ∧ looselyEqual a b = true
    cases bs.lookup name with
    | none => simp
    | some b => simp

/-- The names of the first map are among those of the second, and there are as many, so they are
all. -/
theorem looselyEqualFields_of_swap {as bs : Dict Value} (once : as.names.Nodup)
    (once' : bs.names.Nodup) (length : as.length = bs.length)
    (each : ∀ a ∈ as, ∀ b ∈ bs, looselyEqual a.2 b.2 = looselyEqual b.2 a.2)
    (equal : looselyEqualFields as bs = true) : looselyEqualFields bs as = true := by
  rw [looselyEqualFields_iff] at equal ⊢
  have within : as.names ⊆ bs.names := by
    intro name member
    obtain ⟨a, inside⟩ := Dict.mem_names.1 member
    obtain ⟨b, found, -⟩ := equal _ inside
    exact Dict.mem_names.2 ⟨b, Dict.mem_of_get? found⟩
  -- Without the count the second map could have names that are never looked at.
  have all : as.names.Perm bs.names := by
    refine (once.subperm within).perm_of_length_le ?_
    simp only [Dict.names, List.length_map, length, Nat.le_refl]
  rintro ⟨name, b⟩ inside'
  obtain ⟨a, inside⟩ := Dict.mem_names.1 (all.mem_iff.2 (Dict.mem_names.2 ⟨b, inside'⟩))
  obtain ⟨b', found, same⟩ := equal _ inside
  cases ((Dict.get?_eq_some_iff once').2 inside').symm.trans found
  exact ⟨a, (Dict.get?_eq_some_iff once).2 inside, (each _ inside _ inside').symm.trans same⟩

theorem looselyEqualFields_comm {as bs : Dict Value} (once : as.names.Nodup)
    (once' : bs.names.Nodup) (length : as.length = bs.length)
    (each : ∀ a ∈ as, ∀ b ∈ bs, looselyEqual a.2 b.2 = looselyEqual b.2 a.2) :
    looselyEqualFields as bs = looselyEqualFields bs as := by
  rw [Bool.eq_iff_iff]
  exact ⟨looselyEqualFields_of_swap once once' length each,
    looselyEqualFields_of_swap once' once length.symm fun b inside' a inside =>
      (each a inside b inside').symm⟩

/-- The order of the sides does not matter. The induction is on the first value; the members of
both are compared before the values themselves are. -/
theorem looselyEqual_comm {a b : Value} (formed : a.WellFormed) (formed' : b.WellFormed) :
    looselyEqual a b = looselyEqual b a := by
  have wholly {a b : Value} (apart : ¬ SameShape a b) : looselyEqual a b = looselyEqual b a := by
    rw [looselyEqual_whole apart, looselyEqual_whole (mt SameShape.symm apart),
      equalWhole_comm apart]
  induction formed generalizing b with
  | whole noItems noFields =>
    refine wholly fun same => ?_
    cases same with
    | sequence => exact noItems _ _ rfl
    | map => exact noFields _ rfl
  | @sequence kind as each ih =>
    cases formed' with
    | whole noItems _ => exact wholly fun | .sequence => noItems _ _ rfl
    | map => exact wholly fun same => nomatch same
    | sequence each' =>
      rw [looselyEqual, looselyEqual]
      exact looselyEqualItems_comm fun a inside b inside' => ih a inside (each' b inside')
  | @map as once each ih =>
    cases formed' with
    | whole _ noFields => exact wholly fun | .map => noFields _ rfl
    | sequence => exact wholly fun same => nomatch same
    | @map bs once' each' =>
      rw [looselyEqual, looselyEqual, BEq.comm (a := as.length)]
      by_cases length : bs.length = as.length
      · rw [looselyEqualFields_comm once once' length.symm fun a inside b inside' =>
          ih a inside (each' b inside')]
      · have differ : (bs.length == as.length) = false := by simpa using length
        rw [differ, Bool.false_and, Bool.false_and]

end Operator

end SqlPreview
