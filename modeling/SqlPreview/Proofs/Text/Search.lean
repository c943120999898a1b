import Mathlib
import SqlPreview.Text.Cut

/-!
# Searching a text

A text can be searched for another one by characters, or by the bytes of both with the place then
turned into a number of characters. In UTF-8 no byte that begins a character continues one, so both
searches stop at the same place.

This file defines the first place of a list in another (`FirstPlace`) and the bytes of a text
(`bytes`).

Results:
1. `firstPlace_indexOf?`: the search by characters finds the first place.
2. `bytes_prefix_iff` and `bytes_suffix_iff`: bytes begin and end where characters do.
3. `firstPlace_bytes`: the search by bytes stops at the bytes before the first place.
-/

namespace SqlPreview.Text

/-! ## The first place -/

section

variable {α : Type} {needle text : List α}

/-- The first place at which a list is found in another, if it is. -/
inductive FirstPlace (needle text : List α) : Option Nat → Prop
  | found {i : Nat} : i ≤ text.length → needle <+: text.drop i →
      (∀ j < i, ¬ needle <+: text.drop j) → FirstPlace needle text (some i)
  | absent : (∀ i ≤ text.length, ¬ needle <+: text.drop i) → FirstPlace needle text none

/-- A text that does not begin with the needle is searched from its second place on. -/
theorem FirstPlace.cons {c : α} {place : Option Nat} (other : ¬ needle <+: c :: text)
    (rest : FirstPlace needle text place) :
    FirstPlace needle (c :: text) (place.map (· + 1)) := by
  cases rest with
  | @found i inside here before =>
    refine .found (Nat.succ_le_succ inside) here fun j earlier => ?_
    cases j with
    | zero => exact other
    | succ j => exact before j (Nat.lt_of_succ_lt_succ earlier)
  | absent nowhere =>
    refine .absent fun j inside => ?_
    cases j with
    | zero => exact other
    | succ j => exact nowhere j (Nat.le_of_succ_le_succ inside)

/-- The first place is the start exactly if the text begins with the needle. -/
theorem FirstPlace.eq_zero_iff {place : Option Nat} (first : FirstPlace needle text place) :
    place = some 0 ↔ needle <+: text := by
  cases first with
  | @found i inside here before =>
    constructor
    · rintro ⟨⟩
      exact here
    · intro starts
      rcases Nat.eq_zero_or_pos i with rfl | later
      · rfl
      · exact absurd starts (before 0 later)
  | absent nowhere => exact iff_of_false nofun (nowhere 0 (Nat.zero_le _))

end

theorem firstPlace_indexOf? (needle text : List Char) :
    FirstPlace needle text (indexOf? needle text) := by
  induction text with
  | nil =>
    cases needle with
    | nil => exact .found (Nat.le_refl 0) List.nil_prefix nofun
    | cons d needle => exact .absent (by simp)
  | cons c text ih =>
    rw [indexOf?]
    split
    · next starts => exact .found (Nat.zero_le _) (List.isPrefixOf_iff_prefix.1 starts) nofun
    · next other => exact ih.cons fun starts => other (List.isPrefixOf_iff_prefix.2 starts)

/-- A character behind any number of others is found behind them. -/
theorem indexOf?_behind {c d : Char} (other : c ≠ d) (n : Nat) :
    indexOf? [d] (List.replicate n c ++ [d]) = some n := by
  induction n with
  | zero => simp [indexOf?]
  | succ n ih =>
    rw [List.replicate_succ, List.cons_append, indexOf?, ih]
    simp [other.symm]

/-! ## Bytes -/

/-- The bytes of a text in UTF-8. -/
def bytes (text : List Char) : List UInt8 := text.flatMap String.utf8EncodeChar

@[simp] theorem bytes_nil : bytes [] = [] := rfl

@[simp] theorem bytes_cons (c : Char) (text : List Char) :
    bytes (c :: text) = String.utf8EncodeChar c ++ bytes text := rfl

@[simp] theorem bytes_append (text rest : List Char) :
    bytes (text ++ rest) = bytes text ++ bytes rest := List.flatMap_append

/-- A character is read from its bytes, whatever bytes follow. -/
theorem encode_append_inj {c d : Char} {rest rest' : List UInt8}
    (same : String.utf8EncodeChar c ++ rest = String.utf8EncodeChar d ++ rest') :
    c = d ∧ rest = rest' := by
  have decoded (c : Char) (rest : List UInt8) :
      (String.utf8EncodeChar c ++ rest).toByteArray.utf8DecodeChar? 0 = some c := by
    rw [List.toByteArray_append, ← List.utf8Encode_singleton]
    exact List.utf8DecodeChar?_utf8Encode_singleton_append
  have equal : c = d := Option.some_injective _ <| by rw [← decoded c rest, same, decoded d rest']
  subst equal
  exact ⟨rfl, List.append_cancel_left same⟩

/-- A text begins with another exactly if its bytes begin with the bytes of the other. -/
theorem bytes_prefix_iff {needle text : List Char} :
    bytes needle <+: bytes text ↔ needle <+: text := by
  constructor
  · intro starts
    induction needle generalizing text with
    | nil => exact List.nil_prefix
    | cons d needle ih =>
      obtain ⟨rest, whole⟩ := starts
      rw [bytes_cons, List.append_assoc] at whole
      cases text with
      | nil => simp [String.utf8EncodeChar_ne_nil] at whole
      | cons c text =>
        obtain ⟨same, others⟩ := encode_append_inj whole
        exact List.cons_prefix_cons.2 ⟨same, ih ⟨rest, others⟩⟩
  · rintro ⟨rest, rfl⟩
    exact ⟨bytes rest, (bytes_append needle rest).symm⟩

theorem bytes_injective : Function.Injective bytes := by
  intro text other same
  have forth : text <+: other := bytes_prefix_iff.1 (same ▸ List.prefix_rfl)
  have back : other <+: text := bytes_prefix_iff.1 (same ▸ List.prefix_rfl)
  exact forth.eq_of_length (Nat.le_antisymm forth.length_le back.length_le)

/-- How many bytes the characters before a place take. -/
def bytesBefore (text : List Char) (i : Nat) : Nat := (bytes (text.take i)).length

theorem drop_bytesBefore (text : List Char) (i : Nat) :
    (bytes text).drop (bytesBefore text i) = bytes (text.drop i) := by
  have whole : bytes text = bytes (text.take i) ++ bytes (text.drop i) := by
    rw [← bytes_append, List.take_append_drop]
  rw [whole, bytesBefore, List.drop_left]

theorem bytesBefore_le (text : List Char) (i : Nat) : bytesBefore text i ≤ (bytes text).length := by
  have whole := congrArg (List.length ∘ bytes) (List.take_append_drop i text)
  simp only [Function.comp_apply, bytes_append, List.length_append] at whole
  exact Nat.le.intro whole

theorem bytesBefore_mono (text : List Char) {i j : Nat} (le : i ≤ j) :
    bytesBefore text i ≤ bytesBefore text j := by
  have cut : text.take i = (text.take j).take i := by rw [List.take_take, Nat.min_eq_left le]
  rw [bytesBefore, cut]
  exact bytesBefore_le (text.take j) i

/-- A byte that begins a character is found only where a character begins. -/
theorem exists_bytesBefore {text : List Char} {b : Nat} (inside : b ≤ (bytes text).length)
    (begins : ∀ byte, ((bytes text).drop b).head? = some byte → byte.IsUTF8FirstByte) :
    ∃ i ≤ text.length, bytesBefore text i = b := by
  induction text generalizing b with
  | nil => exact ⟨0, Nat.le_refl 0, (Nat.le_zero.1 inside).symm⟩
  | cons c text ih =>
    rcases Nat.lt_or_ge b (String.utf8EncodeChar c).length with within | behind
    · have byte : ((bytes (c :: text)).drop b).head? = some (String.utf8EncodeChar c)[b] := by
        rw [List.head?_drop, bytes_cons, List.getElem?_append_left within,
          List.getElem?_eq_getElem within]
      have zero : b = 0 := UInt8.isUTF8FirstByte_getElem_utf8EncodeChar.1 (begins _ byte)
      exact ⟨0, Nat.zero_le _, zero.symm⟩
    · have rest : (bytes (c :: text)).drop b =
          (bytes text).drop (b - (String.utf8EncodeChar c).length) := by
        rw [bytes_cons, List.drop_append, List.drop_eq_nil_of_le behind, List.nil_append]
      rw [bytes_cons, List.length_append] at inside
      obtain ⟨i, inside', place⟩ := ih (by omega) (rest ▸ begins)
      refine ⟨i + 1, Nat.succ_le_succ inside', ?_⟩
      rw [bytesBefore, List.take_succ_cons, bytes_cons, List.length_append]
      show _ + bytesBefore text i = b
      omega

theorem isUTF8FirstByte_of_head? {needle : List Char} {byte : UInt8}
    (head : (bytes needle).head? = some byte) : byte.IsUTF8FirstByte := by
  cases needle with
  | nil => cases head
  | cons d needle =>
    obtain ⟨first, more, encoded⟩ :=
      List.exists_cons_of_ne_nil (String.utf8EncodeChar_ne_nil (c := d))
    have begins := UInt8.isUTF8FirstByte_getElem_zero_utf8EncodeChar (c := d)
    simp only [bytes_cons, encoded] at head begins
    cases head
    exact begins

/-- The bytes of a text that is not empty are found only where its characters are. -/
theorem bytes_prefix_drop_iff {needle text : List Char} (nonempty : needle ≠ []) {b : Nat}
    (inside : b ≤ (bytes text).length) :
    bytes needle <+: (bytes text).drop b ↔
      ∃ i ≤ text.length, bytesBefore text i = b ∧ needle <+: text.drop i := by
  constructor
  · intro here
    have some_ : bytes needle ≠ [] := fun none => nonempty (bytes_injective none)
    have begins : ∀ byte, ((bytes text).drop b).head? = some byte → byte.IsUTF8FirstByte := by
      intro byte head
      obtain ⟨rest, whole⟩ := here
      rw [← whole, List.head?_append_of_ne_nil _ some_] at head
      exact isUTF8FirstByte_of_head? head
    obtain ⟨i, inside', rfl⟩ := exists_bytesBefore inside begins
    rw [drop_bytesBefore] at here
    exact ⟨i, inside', rfl, bytes_prefix_iff.1 here⟩
  · rintro ⟨i, -, rfl, here⟩
    rw [drop_bytesBefore]
    exact bytes_prefix_iff.2 here

/-- A text ends with another exactly if its bytes end with the bytes of the other. -/
theorem bytes_suffix_iff {needle text : List Char} :
    bytes needle <:+ bytes text ↔ needle <:+ text := by
  constructor
  · intro ends
    rcases eq_or_ne needle [] with rfl | nonempty
    · exact List.nil_suffix
    · have tail := List.suffix_iff_eq_drop.1 ends
      have here : bytes needle <+: (bytes text).drop _ := ⟨[], (List.append_nil _).trans tail⟩
      obtain ⟨i, -, place, -⟩ := (bytes_prefix_drop_iff nonempty (Nat.sub_le _ _)).1 here
      rw [← place, drop_bytesBefore] at tail
      exact bytes_injective tail ▸ List.drop_suffix i text
  · rintro ⟨before, rfl⟩
    exact ⟨bytes before, (bytes_append before needle).symm⟩

theorem isPrefixOf_bytes (needle text : List Char) :
    (bytes needle).isPrefixOf (bytes text) = needle.isPrefixOf text := by
  rw [Bool.eq_iff_iff, List.isPrefixOf_iff_prefix, List.isPrefixOf_iff_prefix, bytes_prefix_iff]

theorem isSuffixOf_bytes (needle text : List Char) :
    (bytes needle).isSuffixOf (bytes text) = needle.isSuffixOf text := by
  rw [Bool.eq_iff_iff, List.isSuffixOf_iff_suffix, List.isSuffixOf_iff_suffix, bytes_suffix_iff]

/-- The search by bytes stops at the bytes before the place at which the search by characters
stops. -/
theorem firstPlace_bytes {needle text : List Char} {place : Option Nat}
    (first : FirstPlace needle text place) :
    FirstPlace (bytes needle) (bytes text) (place.map (bytesBefore text)) := by
  rcases eq_or_ne needle [] with rfl | nonempty
  · cases first.eq_zero_iff.2 List.nil_prefix
    exact .found (Nat.zero_le _) List.nil_prefix nofun
  · cases first with
    | @found i inside here before =>
      have le := bytesBefore_le text i
      refine .found le ?_ fun b earlier occurs => ?_
      · exact (bytes_prefix_drop_iff nonempty le).2 ⟨i, inside, rfl, here⟩
      · obtain ⟨j, -, rfl, there⟩ :=
          (bytes_prefix_drop_iff nonempty (Nat.le_trans (Nat.le_of_lt earlier) le)).1 occurs
        have smaller : j < i := by
          by_contra later
          exact Nat.not_le.2 earlier (bytesBefore_mono text (Nat.le_of_not_lt later))
        exact before j smaller there
    | absent nowhere =>
      refine .absent fun b inside here => ?_
      obtain ⟨i, inside', -, here⟩ := (bytes_prefix_drop_iff nonempty inside).1 here
      exact nowhere i inside' here

end SqlPreview.Text
