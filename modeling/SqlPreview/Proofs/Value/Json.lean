import SqlPreview.Proofs.Text.Digits
import SqlPreview.Value.Equality

/-!
# Values written and read back

Results:
1. `integer?_intChars`: an integer is read back from its text.
2. `Uuid.read?_chars`: so is an identifier that was itself read from a text.
3. `Value.toJson_ofJson`: JSON without a type is written as it was.
4. `Value.distinct_distinct`: values of which none is the same as another are all kept.
-/

namespace SqlPreview

/-! ## Integers -/

theorem integer?_intChars (n : Int) : Number.Decimal.integer? (Value.intChars n) = some n := by
  rw [Value.intChars]
  split
  · next negative =>
    have magnitude : -(n.natAbs : Int) = n := by omega
    rw [List.singleton_append, Number.Decimal.integer?, Number.Decimal.splitSign]
    simp only [Number.Decimal.digits?_decimalDigits, if_true]
    exact congrArg some magnitude
  · next natural =>
    have magnitude : (n.natAbs : Int) = n := by omega
    rw [List.nil_append, Number.Decimal.integer?_decimalDigits, magnitude]

theorem trim_intChars (n : Int) : Text.trim (Value.intChars n) = Value.intChars n := by
  refine Text.trim_of_plain fun c member => ?_
  rcases List.mem_append.1 member with sign | digit
  · split at sign
    · rw [List.mem_singleton.1 sign]
      decide
    · cases sign
  · exact Text.isBlank_of_isAsciiDigit (Text.isAsciiDigit_of_mem_decimalDigits digit)

/-! ## Identifiers -/

namespace Uuid

theorem hexDigits?_digitChars {digits : List Nat} (small : ∀ d ∈ digits, d < 16) :
    hexDigits? (digits.map Nat.digitChar) = some digits := by
  induction digits with
  | nil => rfl
  | cons d rest ih =>
    obtain ⟨here, there⟩ := List.forall_mem_cons.1 small
    have others := ih there
    rw [hexDigits?] at others
    rw [hexDigits?, List.map_cons, List.mapM_cons, Text.hexValue?_digitChar here, others]
    rfl

theorem of_hexDigits? {text : List Char} {digits : List Nat}
    (read : hexDigits? text = some digits) :
    digits.length = text.length ∧ ∀ d ∈ digits, d < 16 := by
  induction text generalizing digits with
  | nil =>
    cases read
    exact ⟨rfl, fun d member => nomatch member⟩
  | cons c text ih =>
    simp only [hexDigits?, List.mapM_cons, Option.bind_eq_bind, Option.bind_eq_some_iff,
      Option.pure_def, Option.some.injEq] at read
    obtain ⟨d, first, rest, others, rfl⟩ := read
    obtain ⟨length, small⟩ := ih others
    exact ⟨congrArg Nat.succ length, List.forall_mem_cons.2 ⟨Text.lt_of_hexValue? first, small⟩⟩

theorem grouped?_cons_cons (n m : Nat) (lengths : List Nat) (text : List Char) :
    grouped? (n :: m :: lengths) text = (do
      let digits ← hexDigits? (text.take n)
      match text.drop n with
      | '-' :: rest => do
        let others ← grouped? (m :: lengths) rest
        some (digits ++ others)
      | _ => none) :=
  rfl

/-- As many digits as the groups ask for, each below sixteen. -/
theorem of_grouped? {lengths : List Nat} {text : List Char} {digits : List Nat}
    (read : grouped? lengths text = some digits) :
    digits.length = lengths.sum ∧ ∀ d ∈ digits, d < 16 := by
  induction lengths generalizing text digits with
  | nil =>
    rw [grouped?] at read
    split at read
    · cases read
      exact ⟨rfl, fun d member => nomatch member⟩
    · cases read
  | cons n lengths ih =>
    cases lengths with
    | nil =>
      rw [grouped?] at read
      split at read
      · next length =>
        obtain ⟨same, small⟩ := of_hexDigits? read
        exact ⟨by rw [same, length, List.sum_singleton], small⟩
      · cases read
    | cons m lengths =>
      simp only [grouped?_cons_cons, Option.bind_eq_bind, Option.bind_eq_some_iff] at read
      obtain ⟨first, front, read⟩ := read
      split at read
      · next rest behind =>
        obtain ⟨others, back, same⟩ := Option.bind_eq_some_iff.1 read
        cases same
        obtain ⟨frontLength, frontSmall⟩ := of_hexDigits? front
        obtain ⟨backLength, backSmall⟩ := ih back
        have enough : n ≤ text.length := by
          have := congrArg List.length behind
          simp only [List.length_drop, List.length_cons] at this
          omega
        refine ⟨?_, fun d member => (List.mem_append.1 member).elim (frontSmall d) (backSmall d)⟩
        rw [List.length_append, frontLength, backLength, List.length_take, Nat.min_eq_left enough]
        rfl
      · cases read

theorem grouped?_groupedChars {lengths : List Nat} (present : lengths ≠ []) {digits : List Nat}
    (length : digits.length = lengths.sum) (small : ∀ d ∈ digits, d < 16) :
    grouped? lengths (groupedChars lengths (digits.map Nat.digitChar)) = some digits := by
  induction lengths generalizing digits with
  | nil => exact absurd rfl present
  | cons n lengths ih =>
    cases lengths with
    | nil =>
      rw [List.sum_singleton] at length
      rw [groupedChars, grouped?, List.length_map, if_pos length, hexDigits?_digitChars small]
    | cons m lengths =>
      rw [List.sum_cons] at length
      have front : ((digits.map Nat.digitChar).take n).length = n := by
        rw [List.length_take, List.length_map, Nat.min_eq_left (by omega)]
      have behind : (digits.drop n).length = (m :: lengths).sum := by
        rw [List.length_drop]
        omega
      have others := ih (List.cons_ne_nil _ _) behind
        fun d member => small d (List.mem_of_mem_drop member)
      have first : hexDigits? ((digits.take n).map Nat.digitChar) = some (digits.take n) :=
        hexDigits?_digitChars fun d member => small d (List.mem_of_mem_take member)
      rw [List.map_drop] at others
      rw [List.map_take] at first
      rw [groupedChars, grouped?_cons_cons, List.take_left' front, List.drop_left' front, first]
      · simp only [others]
        exact congrArg some (List.take_append_drop n digits)
      · exact List.cons_ne_nil m lengths

/-- Thirty-two hexadecimal digits. -/
structure WellFormed (u : Uuid) : Prop where
  length : u.digits.length = 32
  small : ∀ d ∈ u.digits, d < 16

theorem wellFormed_of_read? {text : List Char} {u : Uuid} (read : read? text = some u) :
    u.WellFormed := by
  have grouped {text : List Char} {digits : List Nat} (read : grouped? groups text = some digits) :
      WellFormed ⟨digits⟩ := ⟨(of_grouped? read).1, (of_grouped? read).2⟩
  obtain ⟨digits, found, rfl⟩ := Option.map_eq_some_iff.1 read
  simp only [Option.orElse_eq_orElse, Option.orElse_eq_or, Option.or_eq_some_iff] at found
  rcases found with bare | ⟨-, plain | ⟨-, braced | ⟨-, named⟩⟩⟩
  · split at bare
    · next length =>
      obtain ⟨same, small⟩ := of_hexDigits? bare
      exact ⟨same.trans length, small⟩
    · cases bare
  · exact grouped plain
  · split at braced
    · split at braced
      · exact grouped braced
      · cases braced
    · cases braced
  · obtain ⟨rest, -, behind⟩ := Option.bind_eq_some_iff.1 named
    exact grouped behind

/-- The groups with the hyphens between them are longer than the digits alone, and are read as
groups. -/
theorem read?_chars {u : Uuid} (wellFormed : u.WellFormed) : read? u.chars = some u := by
  obtain ⟨length, small⟩ := wellFormed
  have read : grouped? groups u.chars = some u.digits :=
    grouped?_groupedChars (List.cons_ne_nil _ _) length small
  have long : u.chars.length ≠ 32 := by
    simp [chars, groups, groupedChars, length]
  unfold read?
  rw [if_neg long, read]
  rfl

theorem mem_groupedChars {lengths : List Nat} {digits : List Char} {c : Char}
    (member : c ∈ groupedChars lengths digits) : c = '-' ∨ c ∈ digits := by
  induction lengths, digits using groupedChars.induct with
  | case1 digits => exact .inr member
  | case2 n digits => exact .inr member
  | case3 n lengths digits more ih =>
    rw [groupedChars] at member
    · rcases List.mem_append.1 member with front | behind
      · exact .inr (List.mem_of_mem_take front)
      · rcases List.mem_cons.1 behind with hyphen | back
        · exact .inl hyphen
        · exact (ih back).imp_right List.mem_of_mem_drop
    · exact more

theorem trim_chars {u : Uuid} (wellFormed : u.WellFormed) : Text.trim u.chars = u.chars := by
  refine Text.trim_of_plain fun c member => ?_
  rcases mem_groupedChars member with rfl | digit
  · decide
  · obtain ⟨d, inside, rfl⟩ := List.mem_map.1 digit
    exact Text.isBlank_digitChar (wellFormed.small d inside)

end Uuid

/-! ## JSON without a type -/

namespace Value

mutual

theorem toJson_ofJson (json : Json) : (ofJson json).toJson = json := by
  cases json with
  | null | boolean | number | string => rfl
  | array items => rw [ofJson, toJson, toJsonItems_ofJsonItems items]
  | object fields => rw [ofJson, toJson, toJsonFields_ofJsonFields fields]

theorem toJsonItems_ofJsonItems (items : List Json) : toJsonItems (ofJsonItems items) = items := by
  cases items with
  | nil => rfl
  | cons item rest =>
    rw [ofJsonItems, toJsonItems, toJson_ofJson item, toJsonItems_ofJsonItems rest]

theorem toJsonFields_ofJsonFields (fields : List (String × Json)) :
    toJsonFields (ofJsonFields fields) = fields := by
  cases fields with
  | nil => rfl
  | cons field rest =>
    obtain ⟨name, json⟩ := field
    rw [ofJsonFields, toJsonFields, toJson_ofJson json, toJsonFields_ofJsonFields rest]

end

/-! ## Values that are kept once -/

/-- The values kept so far, the latest first, and one more unless it is the same as one of them. -/
def keep (kept : List Value) (v : Value) : List Value :=
  if kept.any (same · v) then kept else v :: kept

theorem distinct_eq_foldl (values : List Value) :
    distinct values = (values.foldl keep []).reverse := rfl

/-- No value is the same as an earlier one. -/
def Apart (values : List Value) : Prop :=
  values.Pairwise fun earlier later => same earlier later = false

theorem apart_distinct (values : List Value) : Apart (distinct values) := by
  rw [distinct_eq_foldl]
  -- The induction is on the values that are left, with any list of values kept before them.
  suffices grows : ∀ kept : List Value,
      Apart kept.reverse → Apart (values.foldl keep kept).reverse by
    exact grows [] List.Pairwise.nil
  induction values with
  | nil => exact fun kept apart => apart
  | cons v rest ih =>
    intro kept apart
    refine ih _ ?_
    rw [keep]
    split
    · exact apart
    · next fresh =>
      rw [Apart, List.reverse_cons, List.pairwise_append]
      refine ⟨apart, List.pairwise_singleton _ v, fun earlier member later last => ?_⟩
      cases List.mem_singleton.1 last
      refine Bool.eq_false_iff.2 fun found => fresh (List.any_eq_true.2 ⟨earlier, ?_, found⟩)
      exact List.mem_reverse.1 member

theorem mem_of_mem_distinct {values : List Value} {value : Value}
    (member : value ∈ distinct values) : value ∈ values := by
  rw [distinct_eq_foldl, List.mem_reverse] at member
  suffices grows : ∀ kept : List Value,
      value ∈ values.foldl keep kept → value ∈ kept ∨ value ∈ values by
    exact (grows [] member).resolve_left List.not_mem_nil
  clear member
  induction values with
  | nil => exact fun kept => .inl
  | cons v rest ih =>
    intro kept member
    rcases ih _ member with early | late
    · rw [keep] at early
      split at early
      · exact .inl early
      · rcases List.mem_cons.1 early with rfl | early
        · exact .inr List.mem_cons_self
        · exact .inl early
    · exact .inr (List.mem_cons_of_mem v late)

theorem distinct_of_apart {values : List Value} (apart : Apart values) :
    distinct values = values := by
  rw [distinct_eq_foldl]
  suffices grows : ∀ kept : List Value, Apart (kept.reverse ++ values) →
      (values.foldl keep kept).reverse = kept.reverse ++ values by
    exact grows [] apart
  clear apart
  induction values with
  | nil => exact fun kept apart => (List.append_nil _).symm
  | cons v rest ih =>
    intro kept apart
    have fresh : kept.any (same · v) = false := by
      refine Bool.eq_false_iff.2 fun found => ?_
      obtain ⟨earlier, member, alike⟩ := List.any_eq_true.1 found
      have := (List.pairwise_append.1 apart).2.2 earlier (List.mem_reverse.2 member) v
        List.mem_cons_self
      exact Bool.false_ne_true (this.symm.trans alike)
    have joined : kept.reverse ++ v :: rest = (v :: kept).reverse ++ rest := by
      rw [List.reverse_cons, List.append_assoc, List.singleton_append]
    rw [List.foldl_cons, keep, fresh, if_neg Bool.false_ne_true, joined]
    exact ih _ (joined ▸ apart)

/-- Values of which each was kept once are all kept. -/
theorem distinct_distinct (values : List Value) : distinct (distinct values) = distinct values :=
  distinct_of_apart (apart_distinct values)

end Value

end SqlPreview
