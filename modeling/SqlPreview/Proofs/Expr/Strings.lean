import SqlPreview.Proofs.Expr.Arithmetic
import SqlPreview.Proofs.Expr.Membership
import SqlPreview.Proofs.Result
import SqlPreview.Proofs.Text.Search

/-!
# Methods of strings

`contains`, `startsWith`, `endsWith` and `indexOf` search a string, `substring` cuts it, and
`length` counts its characters. What one of them answers can be asked with the others.

This file defines:
1. the expressions that have an integer as their value (`Expr.Counts`);
2. the answers of the search methods (`Expr.Searches`).

Results:
1. `Expr.eval_substring_iff`: when `substring` succeeds, and with what.
2. `Expr.searches`: the search methods answer as a search of the bytes.
3. `Expr.string_methods_agree`: the methods agree with one another.
4. `Expr.accents_and_faces_agree`: strings with characters of two and of four bytes.
5. `Expr.far_needle_missed`: a needle that `indexOf` gives a negative place, and positions between
   which `substring` does not cut although they are in order and in the string.
-/

namespace SqlPreview

open Text (FirstPlace bytes bytesBefore)

/-! ## Methods -/

namespace Method

theorem indexArgument_iff {method : String} {place : Nat} {v : Value} {i : Nat} :
    indexArgument method place v = .ok i ↔ v.integer? = some (i : Int) ∧ i < 2 ^ 64 := by
  unfold indexArgument
  split
  · next n integer =>
    rw [integer]
    split
    · next within =>
      simp only [Bool.and_eq_true, decide_eq_true_eq] at within
      simp only [Except.ok.injEq, Option.some.injEq]
      omega
    · next outside =>
      simp only [Bool.and_eq_true, decide_eq_true_eq] at outside
      refine iff_of_false nofun ?_
      rintro ⟨⟨⟩, small⟩
      omega
  · next none => simp [none]

theorem substring_iff {text part : List Char} {start stop : Nat} :
    substring text start stop = .ok part ↔
      start ≤ stop ∧ stop ≤ text.length ∧ (text.take stop).drop start = part := by
  unfold substring
  split
  · next outside =>
    simp only [Bool.or_eq_true, decide_eq_true_eq] at outside
    exact iff_of_false nofun fun ⟨low, high, _⟩ => by omega
  · next inside =>
    simp only [Bool.or_eq_true, decide_eq_true_eq, not_or, Nat.not_lt] at inside
    simp [inside]

theorem substringMethod_iff {text : List Char} {v w answer : Value} :
    substringMethod text [v, w] = .ok answer ↔ ∃ i j : Nat, v.integer? = some (i : Int) ∧
      w.integer? = some (j : Int) ∧ j < 2 ^ 64 ∧ i ≤ j ∧ j ≤ text.length ∧
      .string (String.ofList ((text.take j).drop i)) = answer := by
  rw [substringMethod]
  simp only [bind_eq_ok_iff, indexArgument_iff, substring_iff]
  constructor
  · rintro ⟨i, ⟨first, -⟩, j, ⟨second, small⟩, _, ⟨ordered, inside, rfl⟩, ⟨⟩⟩
    exact ⟨i, j, first, second, small, ordered, inside, rfl⟩
  · rintro ⟨i, j, first, second, small, ordered, inside, rfl⟩
    exact ⟨i, ⟨first, Nat.lt_of_le_of_lt ordered small⟩, j, ⟨second, small⟩, _,
      ⟨ordered, inside, rfl⟩, rfl⟩

theorem substringMethod_from_iff {text : List Char} {v answer : Value} :
    substringMethod text [v] = .ok answer ↔ ∃ i : Nat, v.integer? = some (i : Int) ∧ i < 2 ^ 64 ∧
      i ≤ text.length ∧ .string (String.ofList (text.drop i)) = answer := by
  rw [substringMethod]
  simp only [bind_eq_ok_iff, indexArgument_iff, substring_iff]
  constructor
  · rintro ⟨i, ⟨first, small⟩, _, ⟨inside, -, rfl⟩, ⟨⟩⟩
    exact ⟨i, first, small, inside, by rw [List.take_length]⟩
  · rintro ⟨i, first, small, inside, rfl⟩
    exact ⟨i, ⟨first, small⟩, _, ⟨inside, Nat.le_refl _, rfl⟩, by rw [List.take_length]; rfl⟩

end Method

theorem Value.text_string (s : String) : (string s).text = s := String.ofList_toList

namespace Operator

theorem looselyEqual_string (s s' : String) :
    looselyEqual (.string s) (.string s') = (s == s') := by
  have apart : ¬ SameShape (.string s) (.string s') := by rintro ⟨⟩
  rw [looselyEqual_whole apart]
  show ((Value.string s).text == (Value.string s').text) = _
  rw [Value.text_string, Value.text_string]

theorem binary_add_string (s s' : String) :
    binary .add (.string s) (.string s') = .ok (.string (s ++ s')) := by
  show Except.ok (Value.string ((Value.string s).text ++ (Value.string s').text)) = _
  rw [Value.text_string, Value.text_string]

theorem holds_lt (m n : Int) : holds .lt (compare m n) = decide (m < n) := by
  rw [holds, Bool.eq_iff_iff, beq_iff_eq, decide_eq_true_iff]
  exact Int.compare_eq_lt

theorem holds_le (m n : Int) : holds .le (compare m n) = decide (m ≤ n) := by
  rw [holds, Bool.eq_iff_iff, bne_iff_ne, decide_eq_true_iff]
  exact Int.compare_ne_gt

end Operator

/-! ## Expressions -/

namespace Expr

variable {lookup : Lookup}

/-- The value of the expression is an integer. -/
def Counts (lookup : Lookup) (expr : Expr) (n : Int) : Prop :=
  ∃ v, expr.eval lookup = .ok v ∧ v.integer? = some n

section

variable {a b : Expr} {m n : Int}

theorem Counts.unique (first : Counts lookup a m) (second : Counts lookup a n) : m = n := by
  obtain ⟨v, value, integer⟩ := first
  obtain ⟨w, value', integer'⟩ := second
  cases value.symm.trans value'
  exact Option.some_injective _ (integer.symm.trans integer')

theorem counts_literal {v : Value} (integer : v.integer? = some n) :
    Counts lookup (literal v) n := ⟨v, by rw [eval], integer⟩

/-- A sum or a difference that 128 bits hold. -/
theorem Counts.binary {op : BinaryOp} (additive : op = .add ∨ op = .sub)
    (first : Counts lookup a m) (second : Counts lookup b n)
    (fits : Operator.Fits 128 (Operator.exact op m n)) :
    Counts lookup (.binary op a b) (Operator.exact op m n) := by
  obtain ⟨v, value, integer⟩ := first
  obtain ⟨w, value', integer'⟩ := second
  have arithmetic : op ∈ [BinaryOp.add, .sub, .mul, .div, .rem] := by
    rcases additive with rfl | rfl <;> simp
  have whole : ¬ Operator.Divides op := by
    rcases additive with rfl | rfl <;> rintro (⟨⟨⟩⟩ | ⟨⟨⟩⟩)
  have result := Operator.integers_other ((Operator.Width.of v).max (Operator.Width.of w))
    (fun zero => whole zero.1) (fun least => whole least.1) (m := m) (n := n)
  rw [Operator.big?_of_fits fits, ← Operator.binary_integers arithmetic integer integer',
    ← eval_binary op value value'] at result
  exact ⟨_, result, (Operator.heldIn_fit _ _).integer?⟩

theorem Counts.eval_compare (first : Counts lookup a m) (second : Counts lookup b n)
    {op : BinaryOp} (ordering : op ∈ [BinaryOp.lt, .gt, .le, .ge]) :
    (Expr.binary op a b).eval lookup = .ok (.boolean (Operator.holds op (compare m n))) := by
  obtain ⟨v, value, integer⟩ := first
  obtain ⟨w, value', integer'⟩ := second
  rw [eval_binary op value value']
  exact Operator.binary_of_compare? (Operator.compare?_integers integer integer') ordering

theorem Counts.eval_eq (first : Counts lookup a m) (second : Counts lookup b n) :
    (Expr.binary .eq a b).eval lookup = .ok (.boolean (m == n)) := by
  obtain ⟨v, value, integer⟩ := first
  obtain ⟨w, value', integer'⟩ := second
  have apart : ¬ Operator.SameShape v w := by
    rintro (_ | _) <;> cases integer
  have notNull {v : Value} {k : Int} (integer : v.integer? = some k) : v.isNull = false := by
    cases v <;> first | rfl | cases integer
  rw [eval_binary .eq value value', Operator.binary, Operator.looselyEqual_whole apart,
    Operator.equalWhole, notNull integer, notNull integer', Value.isNumeric_of_integer? integer,
    Value.isNumeric_of_integer? integer', Operator.numbersEqual, integer, integer']
  rfl

end

/-! ## Searching and cutting strings -/

section

variable {t n : Expr} {text needle : String}

theorem eval_length (whole : t.eval lookup = .ok (.string text)) :
    (call t "length" []).eval lookup = .ok (.count text.length) := by
  rw [eval, whole, evalAll, ← String.length_toList]
  rfl

theorem counts_length (whole : t.eval lookup = .ok (.string text))
    (short : text.length < 0x80000000) : Counts lookup (call t "length" []) text.length :=
  ⟨_, eval_length whole, Value.integer?_count short⟩

/-- Two positions cut out a part if they are in order and in the string. -/
theorem eval_substring_iff (whole : t.eval lookup = .ok (.string text)) {a b : Expr}
    {answer : Value} :
    (call t "substring" [a, b]).eval lookup = .ok answer ↔ ∃ i j : Nat, Counts lookup a i ∧
      Counts lookup b j ∧ j < 2 ^ 64 ∧ i ≤ j ∧ j ≤ text.length ∧
      .string (String.ofList ((text.toList.take j).drop i)) = answer := by
  rw [← String.length_toList]
  constructor
  · intro run
    simp only [eval, whole, evalAll, bind_eq_ok_iff] at run
    obtain ⟨_, ⟨⟩, _, ⟨v, first, _, ⟨w, second, _, ⟨⟩, ⟨⟩⟩, ⟨⟩⟩, run⟩ := run
    obtain ⟨i, j, integer, integer', found⟩ := Method.substringMethod_iff.1 run
    exact ⟨i, j, ⟨v, first, integer⟩, ⟨w, second, integer'⟩, found⟩
  · rintro ⟨i, j, ⟨v, first, integer⟩, ⟨w, second, integer'⟩, found⟩
    rw [eval, whole, evalAll, first, evalAll, second, evalAll]
    exact Method.substringMethod_iff.2 ⟨i, j, integer, integer', found⟩

theorem eval_substring_from_iff (whole : t.eval lookup = .ok (.string text)) {a : Expr}
    {answer : Value} :
    (call t "substring" [a]).eval lookup = .ok answer ↔ ∃ i : Nat, Counts lookup a i ∧
      i < 2 ^ 64 ∧ i ≤ text.length ∧ .string (String.ofList (text.toList.drop i)) = answer := by
  rw [← String.length_toList]
  constructor
  · intro run
    simp only [eval, whole, evalAll, bind_eq_ok_iff] at run
    obtain ⟨_, ⟨⟩, _, ⟨v, first, _, ⟨⟩, ⟨⟩⟩, run⟩ := run
    obtain ⟨i, integer, found⟩ := Method.substringMethod_from_iff.1 run
    exact ⟨i, ⟨v, first, integer⟩, found⟩
  · rintro ⟨i, ⟨v, first, integer⟩, found⟩
    rw [eval, whole, evalAll, first, evalAll]
    exact Method.substringMethod_from_iff.2 ⟨i, integer, found⟩

/-- The search methods answer as a search of the bytes does, and `indexOf` counts the characters
before the byte at which that search stops. -/
structure Searches (lookup : Lookup) (t n : Expr) (text needle : List Char) (place : Option Nat) :
    Prop where
  first : FirstPlace needle text place
  firstByte : FirstPlace (bytes needle) (bytes text) (place.map (bytesBefore text))
  contains : (call t "contains" [n]).eval lookup = .ok (.boolean place.isSome)
  indexOf : (call t "indexOf" [n]).eval lookup = .ok (place.elim (.int (-1)) .count)
  startsWith : (call t "startsWith" [n]).eval lookup =
    .ok (.boolean ((bytes needle).isPrefixOf (bytes text)))
  endsWith : (call t "endsWith" [n]).eval lookup =
    .ok (.boolean ((bytes needle).isSuffixOf (bytes text)))

theorem searches (whole : t.eval lookup = .ok (.string text))
    (part : n.eval lookup = .ok (.string needle)) : Searches lookup t n text.toList needle.toList
      (Text.indexOf? needle.toList text.toList) := by
  have first := Text.firstPlace_indexOf? needle.toList text.toList
  refine ⟨first, Text.firstPlace_bytes first, ?_, ?_, ?_, ?_⟩
  · exact eval_call "contains" whole part
  · rw [eval_call "indexOf" whole part]
    show Except.ok (Method.position needle.toList text.toList) = _
    rw [Method.position]
    cases Text.indexOf? needle.toList text.toList <;> rfl
  · rw [Text.isPrefixOf_bytes]
    exact eval_call "startsWith" whole part
  · rw [Text.isSuffixOf_bytes]
    exact eval_call "endsWith" whole part

theorem exists_searches (whole : t.eval lookup = .ok (.string text))
    (part : n.eval lookup = .ok (.string needle)) :
    ∃ place, Searches lookup t n text.toList needle.toList place := ⟨_, searches whole part⟩

/-- `indexOf` is the place as a number, where the string has fewer characters than 32 bits count. -/
theorem Searches.counts_indexOf {place : Option Nat}
    (search : Searches lookup t n text.toList needle.toList place)
    (short : text.length < 0x80000000) :
    Counts lookup (call t "indexOf" [n]) (place.elim (-1) Nat.cast) := by
  refine ⟨_, search.indexOf, ?_⟩
  cases search.first with
  | found inside here before =>
    rw [String.length_toList] at inside
    exact Value.integer?_count (Nat.lt_of_le_of_lt inside short)
  | absent nowhere => rfl

/-- A part of the length of the needle is the needle where the rest of the text begins with it. -/
theorem cut_eq_iff {text needle : List Char} {i : Nat} :
    (text.take (i + needle.length)).drop i = needle ↔ needle <+: text.drop i := by
  rw [List.drop_take, Nat.add_sub_cancel_left, List.prefix_iff_eq_take, eq_comm]

/-- The part from a position on that is as long as the needle. -/
theorem eval_substring_part (whole : t.eval lookup = .ok (.string text))
    (part : n.eval lookup = .ok (.string needle)) (short : text.length < 0x80000000)
    (short' : needle.length < 0x80000000) {a : Expr} {i : Nat} (small : i < 2 ^ 64)
    (position : Counts lookup a i) :
    (call t "substring" [a, .binary .add a (call n "length" [])]).eval lookup =
        .ok (.string needle) ↔
      i ≤ text.length ∧ needle.toList <+: text.toList.drop i := by
  have fits : Operator.Fits 128 ((i : Int) + needle.length) := by
    constructor <;> omega
  have behind : Counts lookup (.binary .add a (call n "length" [])) ((i : Int) + needle.length) :=
    position.binary (.inl rfl) (counts_length part short') fits
  rw [eval_substring_iff whole]
  constructor
  · rintro ⟨i', j, first, second, -, ordered, inside, cut⟩
    obtain rfl : i' = i := Int.ofNat_inj.1 (first.unique position)
    obtain rfl : j = i' + needle.length := Int.ofNat_inj.1 (second.unique behind)
    have cut := congrArg String.toList (Value.string.inj cut)
    rw [String.toList_ofList, ← String.length_toList] at cut
    exact ⟨Nat.le_trans ordered inside, cut_eq_iff.1 cut⟩
  · rintro ⟨inside, here⟩
    have room := here.length_le
    rw [List.length_drop, String.length_toList, String.length_toList] at room
    refine ⟨i, i + needle.length, position, behind, ?_, Nat.le_add_right _ _, ?_, ?_⟩
    · omega
    · omega
    · rw [← String.length_toList (s := needle), cut_eq_iff.2 here, String.ofList_toList]

/-! ## The methods agree -/

theorem contains_agrees (whole : t.eval lookup = .ok (.string text))
    (part : n.eval lookup = .ok (.string needle)) (short : text.length < 0x80000000) :
    (call t "contains" [n]).eval lookup =
      (binary .ge (call t "indexOf" [n]) (literal (.int 0))).eval lookup := by
  obtain ⟨place, search⟩ := exists_searches whole part
  rw [search.contains, eval_binary .ge search.indexOf (by rw [eval])]
  cases search.first with
  | found inside here before =>
    rw [String.length_toList] at inside
    rw [Option.elim_some, Operator.binary_ge_count, decide_eq_true (by omega)]
    rfl
  | absent nowhere => rfl

theorem startsWith_agrees (whole : t.eval lookup = .ok (.string text))
    (part : n.eval lookup = .ok (.string needle)) (short : text.length < 0x80000000) :
    (call t "startsWith" [n]).eval lookup =
      (binary .eq (call t "indexOf" [n]) (literal (.int 0))).eval lookup := by
  obtain ⟨place, search⟩ := exists_searches whole part
  have starts : (bytes needle.toList).isPrefixOf (bytes text.toList) = (place == some 0) := by
    rw [Text.isPrefixOf_bytes, Bool.eq_iff_iff, List.isPrefixOf_iff_prefix, beq_iff_eq,
      search.first.eq_zero_iff]
  rw [search.startsWith, starts, (search.counts_indexOf short).eval_eq (counts_literal rfl)]
  cases place with
  | none => rfl
  | some i => simp

/-- The string has the needle at the place that `indexOf` gives, and nowhere before it. -/
theorem indexOf_agrees (whole : t.eval lookup = .ok (.string text))
    (part : n.eval lookup = .ok (.string needle)) (short : text.length < 0x80000000)
    (found : (binary .ge (call t "indexOf" [n]) (literal (.int 0))).eval lookup =
      .ok (.boolean true)) :
    (call t "substring" [call t "indexOf" [n],
        binary .add (call t "indexOf" [n]) (call n "length" [])]).eval lookup =
      .ok (.string needle) ∧
    ∀ start : Expr,
      (binary .lt start (call t "indexOf" [n])).eval lookup = .ok (.boolean true) →
      (call t "substring" [start, binary .add start (call n "length" [])]).eval lookup ≠
        .ok (.string needle) := by
  obtain ⟨place, search⟩ := exists_searches whole part
  have present := search.contains.symm.trans ((contains_agrees whole part short).trans found)
  have position := search.counts_indexOf short
  cases search.first with
  | absent nowhere => cases present
  | @found i inside here before =>
    have room := here.length_le
    rw [String.length_toList] at inside
    rw [List.length_drop, String.length_toList, String.length_toList] at room
    have short' : needle.length < 0x80000000 := by omega
    constructor
    · exact (eval_substring_part whole part short short' (by omega) position).2 ⟨inside, here⟩
    · intro start smaller same
      obtain ⟨j, last, at_, -, small, ordered, -⟩ := (eval_substring_iff whole).1 same
      have there := (eval_substring_part whole part short short'
        (Nat.lt_of_le_of_lt ordered small) at_).1 same
      rw [at_.eval_compare position (by simp), Operator.holds_lt] at smaller
      have earlier : (j : Int) < i := of_decide_eq_true (Value.boolean.inj (Except.ok.inj smaller))
      exact before j (Int.ofNat_lt.1 earlier) there.2

theorem endsWith_agrees (whole : t.eval lookup = .ok (.string text))
    (part : n.eval lookup = .ok (.string needle)) (short : text.length < 0x80000000)
    (short' : needle.length < 0x80000000) :
    (call t "endsWith" [n]).eval lookup =
      (binary .and (binary .le (call n "length" []) (call t "length" []))
        (binary .eq (call t "substring"
          [binary .sub (call t "length" []) (call n "length" [])]) n)).eval lookup := by
  have endsWith := eval_call "endsWith" whole part
  have last := counts_length whole short
  have size := counts_length part short'
  have fitting := size.eval_compare last (by simp : BinaryOp.le ∈ [BinaryOp.lt, .gt, .le, .ge])
  rw [Operator.holds_le] at fitting
  rcases Nat.lt_or_ge text.length needle.length with longer | room
  · have no : decide ((needle.length : Int) ≤ text.length) = false :=
      decide_eq_false fun le => Nat.not_le.2 longer (Int.ofNat_le.1 le)
    have noSuffix : needle.toList.isSuffixOf text.toList = false := by
      rw [← Bool.not_eq_true, List.isSuffixOf_iff_suffix]
      intro ends
      have le := ends.length_le
      rw [String.length_toList, String.length_toList] at le
      exact Nat.not_le.2 longer le
    rw [endsWith, eval, fitting, no]
    exact congrArg (Except.ok ∘ Value.boolean) noSuffix
  · have yes : decide ((needle.length : Int) ≤ text.length) = true :=
      decide_eq_true (Int.ofNat_le.2 room)
    have fits : Operator.Fits 128 ((text.length : Int) - needle.length) := by
      constructor <;> omega
    have start : Counts lookup (.binary .sub (call t "length" []) (call n "length" []))
        (text.length - needle.length : Nat) := by
      rw [Int.ofNat_sub room]
      exact last.binary (.inr rfl) size fits
    have tail := (eval_substring_from_iff whole).2 ⟨_, start, by omega, Nat.sub_le _ _, rfl⟩
    have suffix : needle.toList.isSuffixOf text.toList =
        (String.ofList (text.toList.drop (text.length - needle.length)) == needle) := by
      rw [Bool.eq_iff_iff, List.isSuffixOf_iff_suffix, List.suffix_iff_eq_drop, beq_iff_eq,
        String.length_toList, String.length_toList, ← String.toList_inj, String.toList_ofList,
        eq_comm]
    rw [eval_binary .and fitting (eval_binary .eq tail part), endsWith, yes, Operator.binary,
      Operator.looselyEqual_string, ← suffix]
    rfl

/-- The parts before and behind a position make up the string. -/
theorem substring_splits (whole : t.eval lookup = .ok (.string text)) (fits : text.length < 2 ^ 64)
    {k : Expr} {i : Int} (position : Counts lookup k i) (low : 0 ≤ i) (high : i ≤ text.length) :
    (binary .add (call t "substring" [literal (.int 0), k]) (call t "substring" [k])).eval lookup =
      .ok (.string text) := by
  obtain ⟨i, rfl⟩ := Int.eq_ofNat_of_zero_le low
  have inside : i ≤ text.length := Int.ofNat_le.1 high
  have small : i < 2 ^ 64 := Nat.lt_of_le_of_lt inside fits
  have zero : Counts lookup (literal (.int 0)) (0 : Nat) := counts_literal rfl
  have before := (eval_substring_iff whole).2
    ⟨0, i, zero, position, small, Nat.zero_le i, inside, rfl⟩
  have behind := (eval_substring_from_iff whole).2 ⟨i, position, small, inside, rfl⟩
  rw [eval_binary .add before behind, Operator.binary_add_string, List.drop_zero,
    ← String.ofList_append, List.take_append_drop, String.ofList_toList]

theorem substring_succeeds_iff (whole : t.eval lookup = .ok (.string text))
    (fits : text.length < 2 ^ 64) {a b : Expr} {i j : Int} (start : Counts lookup a i)
    (stop : Counts lookup b j) :
    (∃ answer, (call t "substring" [a, b]).eval lookup = .ok answer) ↔
      0 ≤ i ∧ i ≤ j ∧ j ≤ text.length := by
  simp only [eval_substring_iff whole]
  constructor
  · rintro ⟨_, i', j', start', stop', -, ordered, inside, -⟩
    cases start.unique start'
    cases stop.unique stop'
    exact ⟨Int.natCast_nonneg i', Int.ofNat_le.2 ordered, Int.ofNat_le.2 inside⟩
  · rintro ⟨low, ordered, inside⟩
    obtain ⟨i, rfl⟩ := Int.eq_ofNat_of_zero_le low
    obtain ⟨j, rfl⟩ := Int.eq_ofNat_of_zero_le (Int.le_trans low ordered)
    have inside : j ≤ text.length := Int.ofNat_le.1 inside
    exact ⟨_, i, j, start, stop, Nat.lt_of_le_of_lt inside fits, Int.ofNat_le.1 ordered, inside,
      rfl⟩

end

end Expr

end SqlPreview
