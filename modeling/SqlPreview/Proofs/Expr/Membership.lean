import SqlPreview.Expr.Eval
import SqlPreview.Proofs.Expr.Order

/-!
# Membership

Whether a value is in a sequence can be asked by `in` and `not in`, by `contains`, and by the sign
of `indexOf`. The operators compare the value with the members, the methods compare the members with
the value; equality is symmetric, so the answers agree.

This file defines when an element of a sequence is found equal to a value (`ElementEquals`).

Results:
1. `any_looselyEqual`: both ways to look for a member find the same.
2. `eval_indexOf`: `indexOf` gives the first place of a member, or minus one.
3. `membership_consistent`: equality is symmetric, and all ways to ask for membership agree.
4. `row_among_rows_consistent`: a row among rows that write their entries in other orders.
5. `far_member_missed`: a member that `indexOf` gives a negative place.
-/

namespace SqlPreview

namespace Value

/-- A count wraps around after 32 bits. -/
theorem integer?_count_wrapped (n : Nat) : (count n).integer? = some (Int.bmod n 0x100000000) :=
  congrArg some Int32.toInt_ofInt

theorem integer?_count_iff {n : Nat} :
    (count n).integer? = some (n : Int) ↔ n < 0x80000000 := by
  rw [integer?_count_wrapped, Option.some.injEq, Int.bmod_def]
  omega

/-- A count of fewer than 32 bits is what it counts. -/
theorem integer?_count {n : Nat} (small : n < 0x80000000) :
    (count n).integer? = some (n : Int) := integer?_count_iff.2 small

end Value

/-! ## Methods -/

namespace Method

theorem call_contains (kind : Sequence) (items : List Value) (v : Value) :
    call (.sequence kind items) "contains" [v] =
      .ok (.boolean (items.any fun item => Operator.looselyEqual item v)) := rfl

theorem call_indexOf (kind : Sequence) (items : List Value) (v : Value) :
    call (.sequence kind items) "indexOf" [v] =
      .ok (match items.findIdx? fun item => Operator.looselyEqual item v with
        | some place => .count place
        | none => .int (-1)) := rfl

theorem call_containsKey (fields : Dict Value) (v : Value) :
    call (.map fields) "containsKey" [v] = .ok (.boolean (fields.has v.text)) := rfl

theorem element_sequence {kind : Sequence} {items : List Value} {place : Value} {i : Nat}
    (at_ : place.integer? = some (i : Int)) (inside : i < items.length) :
    element (.sequence kind items) place = .ok items[i] := by
  have found : (if (i : Int) < 0 then none else items[(i : Int).toNat]?) = some items[i] := by
    rw [if_neg (by omega), Int.toNat_natCast, List.getElem?_eq_getElem inside]
  rw [element, at_]
  simp only [found]

end Method

namespace Operator

theorem any_looselyEqual {items : List Value} {v : Value} (formed : v.WellFormed)
    (each : ∀ item ∈ items, item.WellFormed) :
    (items.any fun item => looselyEqual v item) = items.any fun item => looselyEqual item v := by
  rw [Bool.eq_iff_iff, List.any_eq_true, List.any_eq_true]
  refine exists_congr fun item => and_congr_right fun inside => ?_
  rw [looselyEqual_comm formed (each item inside)]

theorem binary_isIn {v w : Value} {found : Bool} (answer : member? v w = some found) :
    binary .isIn v w = .ok (.boolean found) := by
  rw [binary, answer]
  cases found <;> rfl

theorem binary_notIn {v w : Value} {found : Bool} (answer : member? v w = some found) :
    binary .notIn v w = .ok (.boolean (!found)) := by
  rw [binary, answer]
  cases found <;> rfl

/-- The value is compared with the members, but nothing changes if they are compared with it. -/
theorem member?_sequence {kind : Sequence} {items : List Value} {v : Value} (formed : v.WellFormed)
    (each : ∀ item ∈ items, item.WellFormed) :
    member? v (.sequence kind items) = some (items.any fun item => looselyEqual item v) :=
  congrArg some (any_looselyEqual formed each)

/-- A count is a negative number where it wraps around to one. -/
theorem binary_ge_count (n : Nat) : binary .ge (.count n) (.int 0) =
    .ok (.boolean (decide (n % 0x100000000 < 0x80000000))) := by
  have zero : (Value.int 0).integer? = some 0 := rfl
  have sign : (compare (Int.bmod n 0x100000000) 0 != .lt) =
      decide (n % 0x100000000 < 0x80000000) := by
    rw [Bool.eq_iff_iff, bne_iff_ne, decide_eq_true_iff, ne_eq, Int.compare_eq_lt, Int.bmod_def]
    omega
  rw [binary_of_compare? (compare?_integers (Value.integer?_count_wrapped n) zero) (by simp)]
  exact congrArg (Except.ok ∘ Value.boolean) sign

end Operator

/-! ## Expressions -/

namespace Expr

variable {lookup : Lookup} {left right : Expr} {a b : Value}

/-- An operator between expressions that have values is the operator between the values. -/
theorem eval_binary (op : BinaryOp) (first : left.eval lookup = .ok a)
    (second : right.eval lookup = .ok b) :
    (binary op left right).eval lookup = Operator.binary op a b := by
  cases op with
  | and =>
    rw [eval, first, second]
    show (if a.truthy then Except.ok (Value.boolean b.truthy) else .ok (.boolean false)) =
      .ok (.boolean (a.truthy && b.truthy))
    cases a.truthy <;> rfl
  | or =>
    rw [eval, first, second]
    show (if a.truthy then Except.ok (Value.boolean true) else .ok (.boolean b.truthy)) =
      .ok (.boolean (a.truthy || b.truthy))
    cases a.truthy <;> rfl
  | _ =>
    show (left.eval lookup >>= fun a => right.eval lookup >>= fun b =>
      Operator.binary _ a b) = _
    rw [first, second]
    rfl

theorem eval_call (method : String) (first : left.eval lookup = .ok a)
    (second : right.eval lookup = .ok b) :
    (call left method [right]).eval lookup = Method.call a method [b] := by
  rw [eval, first, evalAll, second]
  rfl

theorem eval_index (first : left.eval lookup = .ok a) (second : right.eval lookup = .ok b) :
    (index left right).eval lookup = Method.element a b := by
  rw [eval, first, second]
  rfl

/-- Whether the element of a sequence at a place is equal to a value, however the place is
written. -/
def ElementEquals (lookup : Lookup) (xs x : Expr) (i : Nat) (answer : Bool) : Prop :=
  ∀ place : Value, place.integer? = some (i : Int) →
    (binary .eq (index xs (literal place)) x).eval lookup = .ok (.boolean answer)

theorem elementEquals {xs x : Expr} {v : Value} {kind : Sequence} {items : List Value}
    (value : x.eval lookup = .ok v) (values : xs.eval lookup = .ok (.sequence kind items)) {i : Nat}
    (inside : i < items.length) :
    ElementEquals lookup xs x i (Operator.looselyEqual items[i] v) := by
  intro place at_
  have element : (index xs (literal place)).eval lookup = .ok items[i] :=
    (eval_index values (by rw [eval])).trans (Method.element_sequence at_ inside)
  exact eval_binary .eq element value

/-- `indexOf` gives the first place of a member that is equal, or minus one. -/
theorem eval_indexOf {xs x : Expr} {v : Value} {kind : Sequence} {items : List Value}
    (value : x.eval lookup = .ok v) (values : xs.eval lookup = .ok (.sequence kind items)) :
    ((items.any fun item => Operator.looselyEqual item v) = false ∧
      (call xs "indexOf" [x]).eval lookup = .ok (.int (-1))) ∨
    ((items.any fun item => Operator.looselyEqual item v) = true ∧
      ∃ i, i < items.length ∧ (call xs "indexOf" [x]).eval lookup = .ok (.count i) ∧
        ElementEquals lookup xs x i true ∧ ∀ j < i, ElementEquals lookup xs x j false) := by
  have answer := (eval_call "indexOf" values value).trans (Method.call_indexOf kind items v)
  cases found : items.findIdx? fun item => Operator.looselyEqual item v with
  | none =>
    rw [found] at answer
    rw [List.findIdx?_eq_none_iff] at found
    refine .inl ⟨?_, answer⟩
    rw [List.any_eq_false]
    exact fun item inside => Bool.eq_false_iff.1 (found item inside)
  | some i =>
    rw [found] at answer
    obtain ⟨inside, equal, before⟩ := List.findIdx?_eq_some_iff_getElem.1 found
    refine .inr ⟨List.any_eq_true.2 ⟨_, List.getElem_mem inside, equal⟩, i, inside, answer, ?_,
      fun j earlier => ?_⟩
    · exact equal ▸ elementEquals value values inside
    · exact Bool.eq_false_iff.2 (before j earlier) ▸
        elementEquals value values (Nat.lt_trans earlier inside)

/-- Equality is symmetric, and so all ways to ask for membership agree, as far as 32 bits count. In
a sequence `in`, the negation of `not in`, and `contains` have one answer. `indexOf` gives the least
place at which the element is equal, or minus one. Places wrap around after 32 bits, so the sign of
`indexOf` is that answer exactly if the place is in the lower half of a turn, and it is wherever 32
bits hold all places. In a map `in` and `containsKey` have one answer. -/
theorem membership_consistent (lookup : Lookup) :
    (∀ a b : Value, a.WellFormed → b.WellFormed →
      Operator.looselyEqual a b = Operator.looselyEqual b a) ∧
    (∀ (x xs : Expr) (v : Value) (kind : Sequence) (items : List Value),
      x.eval lookup = .ok v → xs.eval lookup = .ok (.sequence kind items) → v.WellFormed →
      (∀ item ∈ items, item.WellFormed) →
      let sign := (binary .ge (call xs "indexOf" [x]) (literal (.int 0))).eval lookup
      ∃ found : Bool,
        (binary .isIn x xs).eval lookup = .ok (.boolean found) ∧
        (binary .notIn x xs).eval lookup = .ok (.boolean (!found)) ∧
        (call xs "contains" [x]).eval lookup = .ok (.boolean found) ∧
        (items.length ≤ 0x80000000 → sign = .ok (.boolean found)) ∧
        (found = false → (call xs "indexOf" [x]).eval lookup = .ok (.int (-1)) ∧
          sign = .ok (.boolean false)) ∧
        (found = true → ∃ i, i < items.length ∧
          (call xs "indexOf" [x]).eval lookup = .ok (.count i) ∧
          ((Value.count i).integer? = some (i : Int) ↔ i < 0x80000000) ∧
          sign = .ok (.boolean (decide (i % 0x100000000 < 0x80000000))) ∧
          ElementEquals lookup xs x i true ∧ ∀ j < i, ElementEquals lookup xs x j false)) ∧
    ∀ (x m : Expr) (v : Value) (fields : Dict Value),
      x.eval lookup = .ok v → m.eval lookup = .ok (.map fields) →
      ∃ found : Bool,
        (binary .isIn x m).eval lookup = .ok (.boolean found) ∧
        (binary .notIn x m).eval lookup = .ok (.boolean (!found)) ∧
        (call m "containsKey" [x]).eval lookup = .ok (.boolean found) := by
  refine ⟨fun a b formed formed' => Operator.looselyEqual_comm formed formed', ?_, ?_⟩
  · intro x xs v kind items value values formed each sign
    have member : Operator.member? v (.sequence kind items) = some _ :=
      Operator.member?_sequence formed each
    have isIn := (eval_binary .isIn value values).trans (Operator.binary_isIn member)
    have notIn := (eval_binary .notIn value values).trans (Operator.binary_notIn member)
    have contains := (eval_call "contains" values value).trans (Method.call_contains kind items v)
    have zero : (literal (.int 0)).eval lookup = .ok (.int 0) := by rw [eval]
    rcases eval_indexOf value values with ⟨absent, place⟩ | ⟨present, i, inside, place, here, before⟩
    · rw [absent] at isIn notIn contains
      have negative : sign = .ok (.boolean false) := (eval_binary .ge place zero).trans rfl
      exact ⟨false, isIn, notIn, contains, fun _ => negative, fun _ => ⟨place, negative⟩, nofun⟩
    · rw [present] at isIn notIn contains
      have wrapped : sign = .ok (.boolean (decide (i % 0x100000000 < 0x80000000))) :=
        (eval_binary .ge place zero).trans (Operator.binary_ge_count i)
      refine ⟨true, isIn, notIn, contains, fun short => ?_, nofun,
        fun _ => ⟨i, inside, place, Value.integer?_count_iff, wrapped, here, before⟩⟩
      rw [wrapped, decide_eq_true (by omega)]
  · intro x m v fields value values
    have member : Operator.member? v (.map fields) = some (fields.has v.text) := rfl
    exact ⟨fields.has v.text, (eval_binary .isIn value values).trans (Operator.binary_isIn member),
      (eval_binary .notIn value values).trans (Operator.binary_notIn member),
      (eval_call "containsKey" values value).trans (Method.call_containsKey fields v)⟩

/-- A row is equal to one that has its entries in another order and its number as a text, and so it
is a member of a list with that other row. -/
theorem row_among_rows_consistent :
    let row : Value := .map [("id", .int 2), ("name", .string "b")]
    let other : Value := .map [("name", .string "b"), ("id", .string "2")]
    let name : Value := .string "name"
    let rows : Expr := literal (.sequence .list [name, other])
    let nowhere : Lookup := fun _ => none
    Operator.looselyEqual row other = Operator.looselyEqual other row ∧
    (binary .isIn (literal row) rows).eval nowhere = .ok (.boolean true) ∧
    (binary .notIn (literal row) rows).eval nowhere = .ok (.boolean false) ∧
    (binary .ge (call rows "indexOf" [literal row]) (literal (.int 0))).eval nowhere =
      .ok (.boolean true) ∧
    ∃ found : Bool, (binary .isIn (literal name) (literal row)).eval nowhere = .ok (.boolean found) ∧
      (call (literal row) "containsKey" [literal name]).eval nowhere = .ok (.boolean found) := by
  intro row other name rows nowhere
  obtain ⟨symmetric, among, named⟩ := membership_consistent nowhere
  have plain (n : Int32) : (Value.int n).WellFormed := .whole nofun nofun
  have text (s : String) : (Value.string s).WellFormed := .whole nofun nofun
  have rowFormed : row.WellFormed := by
    refine .map (by decide) ?_
    simp only [List.forall_mem_cons]
    exact ⟨plain 2, text "b", nofun⟩
  have otherFormed : other.WellFormed := by
    refine .map (by decide) ?_
    simp only [List.forall_mem_cons]
    exact ⟨text "b", text "2", nofun⟩
  have rowsFormed : ∀ item ∈ [name, other], item.WellFormed := by
    simp only [List.forall_mem_cons]
    exact ⟨text "name", otherFormed, nofun⟩
  obtain ⟨found, isIn, notIn, contains, place, -⟩ :=
    among (literal row) rows row .list [name, other] rfl rfl rowFormed rowsFormed
  have equal : [name, other].any (fun item => Operator.looselyEqual item row) = true := by
    decide +kernel
  have answer : (call rows "contains" [literal row]).eval nowhere = .ok (.boolean true) :=
    congrArg (fun found => Except.ok (Value.boolean found)) equal
  cases contains.symm.trans answer
  obtain ⟨key, keyIn, -, hasKey⟩ := named (literal name) (literal row) name _ rfl rfl
  exact ⟨symmetric row other rowFormed otherFormed, isIn, notIn, place (by decide), key, keyIn,
    hasKey⟩

/-- A member behind 2^31 others is in the list, and its place wraps around to a negative number. -/
theorem far_member_missed :
    let zeros := List.replicate 0x80000000 (Value.int 0)
    let xs : Expr := literal (.sequence .list (zeros ++ [.int 1]))
    let x : Expr := literal (.int 1)
    let nowhere : Lookup := fun _ => none
    (binary .isIn x xs).eval nowhere = .ok (.boolean true) ∧
      (call xs "contains" [x]).eval nowhere = .ok (.boolean true) ∧
      (call xs "indexOf" [x]).eval nowhere = .ok (.int (-0x80000000)) ∧
      (binary .ge (call xs "indexOf" [x]) (literal (.int 0))).eval nowhere =
        .ok (.boolean false) := by
  have unequal : Operator.looselyEqual (.int 0) (.int 1) = false := by decide +kernel
  have equal : Operator.looselyEqual (.int 1) (.int 1) = true := by decide +kernel
  intro zeros xs x nowhere
  have value : x.eval nowhere = .ok (.int 1) := by rw [eval]
  have values : xs.eval nowhere = .ok (.sequence .list (zeros ++ [.int 1])) := by rw [eval]
  have last : Value.int 1 ∈ zeros ++ [.int 1] := List.mem_append_right _ List.mem_cons_self
  have among : Operator.member? (.int 1) (.sequence .list (zeros ++ [.int 1])) = some true :=
    congrArg some (List.any_eq_true.2 ⟨_, last, equal⟩)
  have present : ((zeros ++ [Value.int 1]).any fun item =>
      Operator.looselyEqual item (.int 1)) = true :=
    List.any_eq_true.2 ⟨_, last, equal⟩
  have place : (zeros ++ [Value.int 1]).findIdx? (fun item => Operator.looselyEqual item (.int 1)) =
      some 0x80000000 := by
    rw [List.findIdx?_append, List.findIdx?_replicate, unequal, List.length_replicate]
    simp [equal]
  have negative : Value.count 0x80000000 = .int (-0x80000000) := congrArg Value.int (by decide)
  have indexOf := (eval_call "indexOf" values value).trans (Method.call_indexOf _ _ _)
  rw [place] at indexOf
  refine ⟨(eval_binary .isIn value values).trans (Operator.binary_isIn among), ?_, ?_, ?_⟩
  · rw [eval_call "contains" values value, Method.call_contains, present]
  · exact negative ▸ indexOf
  · exact (eval_binary .ge indexOf (by rw [eval])).trans (Operator.binary_ge_count _)

end Expr

end SqlPreview
