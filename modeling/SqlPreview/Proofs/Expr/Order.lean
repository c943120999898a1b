import SqlPreview.Proofs.Expr.Equality
import SqlPreview.Proofs.Time.Order

/-!
# Order and equality of values

Order and equality are two rules of their own. They agree, but for numbers and characters: a
character has the place of its code point among the numbers, and is equal to none of them.

This file defines:
1. the parts of the order: numbers (`compareNumbers`), what is read as floating numbers
   (`compareDoubles`), and values of one type (`compareAlike`);
2. numbers beside the character that has them as its code point (`codePointPair`).

Results:
1. `compare?_swap`: comparing the other way turns the answer round.
2. `looselyEqual_of_compare?`: values are equal if neither comes before the other, code points
   apart.
3. `order_consistent`: of less, equal and greater exactly one holds, code points apart, and the
   other two operators are negations.
4. `code_point_beside_character`: for a code point and its character none of the three holds.
-/

namespace SqlPreview.Operator

open Std
open Number (Floating)

/-! ## Parts of the order -/

/-- The order of floating numbers that are both there. -/
def compareDoubles : Option Floating → Option Floating → Option Ordering
  | some x, some y => x.compare? y
  | _, _ => none

def compareNumbers (a b : Value) : Option Ordering :=
  match a.integer?, b.integer? with
  | some m, some n => some (compare m n)
  | _, _ => compareDoubles a.double? b.double?

/-- The order of two values of one type that is neither a number nor a text. -/
def compareAlike : Value → Value → Option Ordering
  | .boolean a, .boolean b => some (compare a.toNat b.toNat)
  | .date a, .date b => some (a.compare b)
  | .localDate a, .localDate b => some (a.compare b)
  | .localDateTime a, .localDateTime b => some (a.compare b)
  | .localTime a, .localTime b => some (a.compare b)
  | _, _ => none

theorem compare?_eq (a b : Value) : compare? a b =
    if a.isNumeric && b.isNumeric then compareNumbers a b
    else if a.isNumeric || b.isNumeric then compareDoubles (numericView? a) (numericView? b)
    else if a.isTextual && b.isTextual then some (compare a.text b.text)
    else compareAlike a b := rfl

/-! ## The other way -/

theorem compareDoubles_swap (x y : Option Floating) :
    compareDoubles y x = (compareDoubles x y).map Ordering.swap := by
  cases x with
  | none => cases y <;> rfl
  | some x =>
    cases y with
    | none => rfl
    | some y => exact x.compare?_swap y

theorem compareNumbers_swap (a b : Value) :
    compareNumbers b a = (compareNumbers a b).map Ordering.swap := by
  unfold compareNumbers
  cases a.integer? with
  | none => cases b.integer? <;> exact compareDoubles_swap _ _
  | some m =>
    cases b.integer? with
    | none => exact compareDoubles_swap _ _
    | some n => exact congrArg some (Int.compare_swap m n).symm

theorem compareAlike_swap (a b : Value) :
    compareAlike b a = (compareAlike a b).map Ordering.swap := by
  unfold compareAlike
  split
  case h_6 booleans dates days times clocks =>
    -- No type in common this way round, so none the other way.
    split
    · exact absurd rfl (booleans _ _ rfl)
    · exact absurd rfl (dates _ _ rfl)
    · exact absurd rfl (days _ _ rfl)
    · exact absurd rfl (times _ _ rfl)
    · exact absurd rfl (clocks _ _ rfl)
    · rfl
  all_goals exact congrArg some OrientedCmp.eq_swap

/-- Integers are ordered as they are, whatever their widths. -/
theorem compare?_integers {a b : Value} {m n : Int} (first : a.integer? = some m)
    (second : b.integer? = some n) : compare? a b = some (compare m n) := by
  have numeric {v : Value} {n : Int} (found : v.integer? = some n) : v.isNumeric = true := by
    cases v <;> first | rfl | cases found
  rw [compare?_eq, numeric first, numeric second, Bool.and_self, if_pos rfl, compareNumbers, first,
    second]

theorem compare?_swap (a b : Value) : compare? b a = (compare? a b).map Ordering.swap := by
  rw [compare?_eq, compare?_eq, Bool.and_comm b.isNumeric, Bool.or_comm b.isNumeric,
    Bool.and_comm b.isTextual]
  split
  · exact compareNumbers_swap a b
  · split
    · exact compareDoubles_swap _ _
    · split
      · exact congrArg some OrientedCmp.eq_swap
      · exact compareAlike_swap a b

/-! ## Equality -/

/-- The second value is a character, and the first a number that is its code point. -/
def isCodePointOf (v : Value) : Value → Bool
  | .character c => v.isNumeric && sameDouble v.double? (some (.ofInt .double c.toNat))
  | _ => false

/-- One of two values is a character, and the other a number that is its code point. -/
def codePointPair (a b : Value) : Bool := isCodePointOf a b || isCodePointOf b a

theorem sameDouble_of_compareDoubles {x y : Option Floating} {order : Ordering}
    (ordered : compareDoubles x y = some order) : sameDouble x y = (order == .eq) := by
  cases x with
  | none => cases ordered
  | some x =>
    cases y with
    | none => cases ordered
    | some y =>
      show (x.compare? y == some .eq) = _
      rw [show x.compare? y = some order from ordered]
      rfl

theorem numbersEqual_of_compareNumbers {a b : Value} {order : Ordering}
    (ordered : compareNumbers a b = some order) : numbersEqual a b = (order == .eq) := by
  unfold compareNumbers at ordered
  unfold numbersEqual
  cases first : a.integer? with
  | none =>
    rw [first] at ordered
    exact sameDouble_of_compareDoubles ordered
  | some m =>
    cases second : b.integer? with
    | none =>
      rw [first, second] at ordered
      exact sameDouble_of_compareDoubles ordered
    | some n =>
      rw [first, second] at ordered
      cases ordered
      rw [Bool.eq_iff_iff, beq_iff_eq, beq_iff_eq, LawfulEqCmp.compare_eq_iff_eq]

theorem numericView?_of_isNumeric {v : Value} (numeric : v.isNumeric = true) :
    numericView? v = v.double? := by
  cases v <;> first | rfl | cases numeric

theorem isString_of_isNumeric {v : Value} (numeric : v.isNumeric = true) : isString v = false := by
  cases v <;> first | rfl | cases numeric

/-- What is read as a number is one, or a string, or a character. -/
theorem numericView?_cases {v : Value} {x : Floating} (read : numericView? v = some x) :
    v.isNumeric = true ∨ (∃ s, v = .string s) ∨ ∃ c, v = .character c := by
  cases v with
  | string s => exact .inr (.inl ⟨s, rfl⟩)
  | character c => exact .inr (.inr ⟨c, rfl⟩)
  | byte | short | int | long | float | double | bigInteger | decimal | number => exact .inl rfl
  | _ => cases read

theorem isCodePointOf_of_not_numeric {v : Value} (other : v.isNumeric = false) (w : Value) :
    isCodePointOf v w = false := by
  unfold isCodePointOf
  split
  · rw [other, Bool.false_and]
  · rfl

theorem codePointPair_comm (a b : Value) : codePointPair a b = codePointPair b a :=
  Bool.or_comm _ _

/-- A number is equal to a string that writes it, but to no character. -/
theorem numberEqualsOther_of_number {a b : Value} {order : Ordering} (numeric : a.isNumeric = true)
    (other : b.isNumeric = false)
    (ordered : compareDoubles (numericView? a) (numericView? b) = some order) :
    numberEqualsOther a b = (order == .eq && !codePointPair a b) := by
  cases read : numericView? a with
  | none => rw [read] at ordered; cases ordered
  | some x =>
    cases read' : numericView? b with
    | none => rw [read, read'] at ordered; cases ordered
    | some y =>
      rw [read, read'] at ordered
      have same : x.same y = (order == .eq) := sameDouble_of_compareDoubles ordered
      rw [numberEqualsOther, read, read', codePointPair, isCodePointOf_of_not_numeric other,
        Bool.or_false, ← same]
      rcases numericView?_cases read' with numeric' | ⟨s, rfl⟩ | ⟨c, rfl⟩
      · exact absurd numeric' (Bool.eq_false_iff.1 other)
      · simp [isString, isCodePointOf]
      · -- The number is equal to the code point exactly if it is the code point.
        have double : a.double? = some x := (numericView?_of_isNumeric numeric).symm.trans read
        cases read'
        rw [isCodePointOf, numeric, double, isString_of_isNumeric numeric]
        simp [isString, sameDouble]

/-- A number beside a value that is none. -/
theorem numberEqualsOther_of_compareDoubles {a b : Value} {order : Ordering}
    (mixed : (a.isNumeric && b.isNumeric) = false ∧ (a.isNumeric || b.isNumeric) = true)
    (ordered : compareDoubles (numericView? a) (numericView? b) = some order) :
    numberEqualsOther a b = (order == .eq && !codePointPair a b) := by
  cases numeric : a.isNumeric with
  | true =>
    rw [numeric, Bool.true_and] at mixed
    exact numberEqualsOther_of_number numeric mixed.1 ordered
  | false =>
    rw [numeric, Bool.false_or] at mixed
    have swapped : compareDoubles (numericView? b) (numericView? a) = some order.swap := by
      rw [compareDoubles_swap, ordered]
      rfl
    rw [numberEqualsOther_comm, codePointPair_comm,
      numberEqualsOther_of_number mixed.2 numeric swapped]
    cases order <;> rfl

theorem same_of_compareAlike {a b : Value} {order : Ordering}
    (ordered : compareAlike a b = some order) : Value.same a b = (order == .eq) := by
  unfold compareAlike at ordered
  split at ordered
  case h_1 x y =>
    cases ordered
    cases x <;> cases y <;> rfl
  case h_6 => cases ordered
  all_goals
    cases ordered
    rw [Value.same, Bool.eq_iff_iff, beq_iff_eq, beq_iff_eq, LawfulEqCmp.compare_eq_iff_eq]

theorem isCodePointOf_of_isNumeric (v : Value) {w : Value} (numeric : w.isNumeric = true) :
    isCodePointOf v w = false := by
  cases w <;> first | rfl | cases numeric

theorem isName_of_isTextual {v : Value} (textual : v.isTextual = true) : isName v = true := by
  cases v <;> first | rfl | cases textual

theorem isName_of_compareAlike {a b : Value} {order : Ordering}
    (ordered : compareAlike a b = some order) : (isName a && isName b) = false := by
  unfold compareAlike at ordered
  split at ordered
  case h_6 => cases ordered
  all_goals rfl

theorem compare?_null (v : Value) : compare? .null v = none := by
  cases v <;> rfl

theorem not_isNull_of_compare? {a b : Value} {order : Ordering}
    (ordered : compare? a b = some order) : (a.isNull || b.isNull) = false := by
  rw [Bool.or_eq_false_iff, ← Bool.not_eq_true, ← Bool.not_eq_true, Value.isNull_iff,
    Value.isNull_iff]
  constructor
  · rintro rfl
    cases (compare?_null b).symm.trans ordered
  · rintro rfl
    rw [compare?_swap, compare?_null] at ordered
    cases ordered

theorem not_sameShape_of_compare? {a b : Value} {order : Ordering}
    (ordered : compare? a b = some order) : ¬ SameShape a b := by
  intro same
  cases same with
  | sequence => cases ordered
  | map => cases ordered

/-- Values of which neither comes before the other are equal, unless one is the code point of the
other. The order and the equality go through the same cases, in the same turn. -/
theorem looselyEqual_of_compare? {a b : Value} {order : Ordering}
    (ordered : compare? a b = some order) :
    looselyEqual a b = (order == .eq && !codePointPair a b) := by
  rw [looselyEqual_whole (not_sameShape_of_compare? ordered), equalWhole,
    not_isNull_of_compare? ordered, if_neg Bool.false_ne_true]
  rw [compare?_eq] at ordered
  by_cases both : (a.isNumeric && b.isNumeric) = true
  · rw [if_pos both] at ordered ⊢
    obtain ⟨numeric, numeric'⟩ := Bool.and_eq_true_iff.1 both
    rw [numbersEqual_of_compareNumbers ordered, codePointPair, isCodePointOf_of_isNumeric a numeric',
      isCodePointOf_of_isNumeric b numeric, Bool.or_false, Bool.not_false, Bool.and_true]
  rw [if_neg both] at ordered ⊢
  by_cases either : (a.isNumeric || b.isNumeric) = true
  · rw [if_pos either] at ordered ⊢
    exact numberEqualsOther_of_compareDoubles ⟨Bool.eq_false_iff.2 both, either⟩ ordered
  rw [if_neg either] at ordered ⊢
  obtain ⟨other, other'⟩ := Bool.or_eq_false_iff.1 (Bool.eq_false_iff.2 either)
  rw [codePointPair, isCodePointOf_of_not_numeric other, isCodePointOf_of_not_numeric other',
    Bool.or_false, Bool.not_false, Bool.and_true]
  by_cases textual : (a.isTextual && b.isTextual) = true
  · rw [if_pos textual] at ordered
    obtain ⟨text, text'⟩ := Bool.and_eq_true_iff.1 textual
    cases ordered
    rw [isName_of_isTextual text, isName_of_isTextual text', Bool.and_self, if_pos rfl,
      Bool.eq_iff_iff, beq_iff_eq, beq_iff_eq, LawfulEqCmp.compare_eq_iff_eq]
  · rw [if_neg textual] at ordered
    rw [isName_of_compareAlike ordered, if_neg Bool.false_ne_true, same_of_compareAlike ordered]

theorem compare?_of_isCodePointOf {a b : Value} (point : isCodePointOf a b = true) :
    compare? a b = some .eq := by
  unfold isCodePointOf at point
  split at point
  case h_2 => cases point
  case h_1 c =>
    obtain ⟨numeric, same⟩ := Bool.and_eq_true_iff.1 point
    rw [compare?_eq, numeric, Bool.true_or, if_pos rfl, numericView?_of_isNumeric numeric]
    cases double : a.double? with
    | none => rw [double] at same; cases same
    | some x =>
      rw [double] at same
      exact beq_iff_eq.1 same

/-- A number and the character at that code point have one place in the order. -/
theorem compare?_of_codePointPair {a b : Value} (pair : codePointPair a b = true) :
    compare? a b = some .eq := by
  rcases Bool.or_eq_true_iff.1 pair with point | point
  · exact compare?_of_isCodePointOf point
  · rw [compare?_swap, compare?_of_isCodePointOf point]
    rfl

/-! ## Operators -/

/-- Where an ordering operator has an answer, it is the one for the order of the values. -/
theorem binary_of_compare? {a b : Value} {order : Ordering} (ordered : compare? a b = some order)
    {op : BinaryOp} (ordering : op ∈ [.lt, .gt, .le, .ge]) :
    binary op a b = .ok (.boolean (holds op order)) := by
  simp only [List.mem_cons, List.not_mem_nil, or_false] at ordering
  rcases ordering with rfl | rfl | rfl | rfl <;> simp only [binary, ordered]

theorem binary_of_unordered {a b : Value} (unordered : compare? a b = none) {op : BinaryOp}
    (ordering : op ∈ [.lt, .gt, .le, .ge]) : binary op a b = .error (mismatch op a b) := by
  simp only [List.mem_cons, List.not_mem_nil, or_false] at ordering
  rcases ordering with rfl | rfl | rfl | rfl <;> simp only [binary, unordered]

/-- Greater is less with the sides exchanged, whether or not the values have an order. -/
theorem binary_gt_iff (a b answer : Value) :
    binary .gt b a = .ok answer ↔ binary .lt a b = .ok answer := by
  cases ordered : compare? a b with
  | none =>
    have swapped : compare? b a = none := by rw [compare?_swap, ordered]; rfl
    rw [binary_of_unordered ordered (by simp), binary_of_unordered swapped (by simp)]
    exact iff_of_false nofun nofun
  | some order =>
    have swapped : compare? b a = some order.swap := by rw [compare?_swap, ordered]; rfl
    rw [binary_of_compare? ordered (by simp), binary_of_compare? swapped (by simp)]
    cases order <;> exact Iff.rfl

/-- Order and equality are consistent, code points apart. Two values have no order, and then no
ordering operator has an answer, or exactly one of less, equal and greater holds, and the other two
operators are the negations of greater and less. For a number and the character at that code point
none of the three holds. -/
theorem order_consistent (a b : Value) :
    (∀ answer, binary .gt b a = .ok answer ↔ binary .lt a b = .ok answer) ∧
    ((binary .lt a b = .error (mismatch .lt a b) ∧ binary .gt a b = .error (mismatch .gt a b) ∧
        binary .le a b = .error (mismatch .le a b) ∧ binary .ge a b = .error (mismatch .ge a b)) ∨
      ∃ less equal greater : Bool,
        binary .lt a b = .ok (.boolean less) ∧
        binary .eq a b = .ok (.boolean equal) ∧
        binary .gt a b = .ok (.boolean greater) ∧
        binary .le a b = .ok (.boolean (!greater)) ∧
        binary .ge a b = .ok (.boolean (!less)) ∧
        [less, equal, greater].count true = if codePointPair a b then 0 else 1) := by
  refine ⟨binary_gt_iff a b, ?_⟩
  cases ordered : compare? a b with
  | none =>
    exact .inl ⟨binary_of_unordered ordered (by simp), binary_of_unordered ordered (by simp),
      binary_of_unordered ordered (by simp), binary_of_unordered ordered (by simp)⟩
  | some order =>
    refine .inr ⟨order == .lt, looselyEqual a b, order == .gt,
      binary_of_compare? ordered (by simp), rfl, binary_of_compare? ordered (by simp),
      binary_of_compare? ordered (by simp), binary_of_compare? ordered (by simp), ?_⟩
    rw [looselyEqual_of_compare? ordered]
    cases pair : codePointPair a b with
    | true =>
      cases (compare?_of_codePointPair pair).symm.trans ordered
      rfl
    | false => cases order <;> rfl

/-- The code point of a letter stands where the letter does: it is neither less nor greater, and
still not equal. -/
theorem code_point_beside_character :
    let number : Value := .number (.integer 97)
    let letter : Value := .character 'a'
    binary .lt number letter = .ok (.boolean false) ∧
    binary .eq number letter = .ok (.boolean false) ∧
    binary .gt number letter = .ok (.boolean false) := by
  intro number letter
  have pair : codePointPair number letter = true := by decide +kernel
  have ordered := compare?_of_codePointPair pair
  have apart : looselyEqual number letter = false := by
    rw [looselyEqual_of_compare? ordered, pair]
    rfl
  refine ⟨binary_of_compare? ordered (by simp), ?_, binary_of_compare? ordered (by simp)⟩
  rw [binary, apart]

end SqlPreview.Operator
