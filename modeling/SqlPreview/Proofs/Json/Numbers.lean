import Mathlib
import SqlPreview.Json.Reader
import SqlPreview.Proofs.Dictionary
import SqlPreview.Proofs.Result

/-!
# The numbers of JSON that is read

The reader makes every number of a significand, which it keeps below 64 bits, and an exponent. What
holds of all such numbers is no rule of the type, so it is proved of everything that is read.

This file defines:
1. JSON of which every number has a property (`Json.EachNumber`);
2. properties of the numbers that the reader makes (`Json.MadeOfParts`).

Result: `Json.eachNumber_of_read`, the numbers of the JSON that a text gives have every such property.
-/

namespace SqlPreview

namespace Json

variable {P : JsonNumber → Prop}

/-- Every number in JSON has a property. -/
inductive EachNumber (P : JsonNumber → Prop) : Json → Prop
  | null : EachNumber P .null
  | boolean (b : Bool) : EachNumber P (.boolean b)
  | number {n : JsonNumber} : P n → EachNumber P (.number n)
  | string (s : String) : EachNumber P (.string s)
  | array {items : List Json} : (∀ item ∈ items, EachNumber P item) → EachNumber P (.array items)
  | object {fields : List (String × Json)} :
      (∀ field ∈ fields, EachNumber P field.2) → EachNumber P (.object fields)

/-- A property of all numbers made of a significand of 64 bits. -/
structure MadeOfParts (P : JsonNumber → Prop) : Prop where
  integer (negative : Bool) {n : Nat} : n < 0x10000000000000000 → P (.ofInteger negative n)
  floating (negative : Bool) {significand : Nat} {exponent : Int} {x : Number.Floating} :
    significand < 0x10000000000000000 → JsonNumber.fromParts significand exponent = some x →
    P (signedFloating negative x)

theorem MadeOfParts.zero (made : MadeOfParts P) (negative : Bool) :
    P (signedFloating negative (.zero .double false)) :=
  have read : JsonNumber.fromParts 0 (-617) = some (.zero .double false) := rfl
  made.floating negative (by decide) read

/-! ## Numbers -/

theorem absorb_lt {significand : Nat} (small : significand < 0x10000000000000000)
    (digits : List Char) : (JsonNumber.absorb significand digits).1 < 0x10000000000000000 := by
  induction digits generalizing significand with
  | nil => exact small
  | cons d digits ih =>
    rw [JsonNumber.absorb]
    dsimp only
    split
    · next fits => exact ih fits
    · exact small

section

variable (made : MadeOfParts P) {input : List Char} {negative : Bool} {significand : Nat} {exponent : Int}
  {text : List Char}

include made

theorem scaledNumber_gives (small : significand < 0x10000000000000000)
    (shorter : text.length < input.length) :
    Gives P (scaledNumber negative significand exponent text shorter) := by
  rw [scaledNumber]
  split
  · next found => exact made.floating negative small found
  · trivial

theorem exponentPart_gives (small : significand < 0x10000000000000000)
    (shorter : text.length < input.length) :
    Gives P (exponentPart negative significand exponent text shorter) := by
  unfold exponentPart
  dsimp only
  split
  · split <;> trivial
  · split
    · split
      · trivial
      · exact made.zero negative
    · exact scaledNumber_gives made small _

theorem afterDigits_gives (small : significand < 0x10000000000000000)
    (shorter : text.length < input.length) :
    Gives P (afterDigits negative significand exponent text shorter) := by
  unfold afterDigits
  split
  · split
    · exact exponentPart_gives made small _
    · exact scaledNumber_gives made small _
  · exact scaledNumber_gives made small _

theorem fractionPart_gives (small : significand < 0x10000000000000000)
    (shorter : text.length < input.length) :
    Gives P (fractionPart negative significand exponent text shorter) := by
  unfold fractionPart
  dsimp only
  split
  · split <;> trivial
  · exact afterDigits_gives made (absorb_lt small _) _

theorem numberBody_gives (within : text.length ≤ input.length) :
    Gives P (numberBody input negative text within) := by
  unfold numberBody
  split
  · trivial
  · next d more _ =>
    have small : (JsonNumber.absorb 0 (d :: more.takeWhile Text.isAsciiDigit)).1 < _ :=
      absorb_lt (by decide) _
    dsimp only
    split
    · trivial
    · split
      · trivial
      · split
        · exact fractionPart_gives made small _
        · split
          · exact made.integer negative small
          · exact afterDigits_gives made small _

end

/-! ## Values -/

theorem length_lt_of_skipBlanks {text rest : List Char} {c : Char}
    (ahead : skipBlanks text = c :: rest) : rest.length < text.length := by
  have := length_dropWhile_le isBlank text
  rw [← skipBlanks, ahead, List.length_cons] at this
  exact this

theorem restOfName_gives {json : Json} (each : json.EachNumber P) {input : List Char}
    (expected text : List Char) (shorter : text.length < input.length) :
    Gives (EachNumber P) (restOfName json expected text shorter) := by
  induction expected generalizing text with
  | nil => exact each
  | cons e expected ih =>
    cases text with
    | nil => trivial
    | cons c rest =>
      rw [restOfName]
      split
      · exact ih _ _
      · trivial

section

variable {reader : ValueReader} (each : ∀ text, Gives (EachNumber P) (reader text))

include each

theorem moreItems_gives (text : List Char) :
    Gives (fun items => ∀ item ∈ items, EachNumber P item) (moreItems reader text) := by
  induction length : text.length using Nat.strongRecOn generalizing text with
  | ind bound ih =>
    rw [moreItems]
    split
    · trivial
    · exact List.forall_mem_nil _
    · next comma =>
      have atMost := length_lt_of_skipBlanks comma
      split
      · trivial
      · trivial
      · refine (each _).bind fun item first => ?_
        refine (ih _ (by have := item.shorter; omega) item.rest rfl).bind fun others rest => ?_
        exact List.forall_mem_cons.2 ⟨first, rest⟩
    · trivial

theorem items_gives (text : List Char) :
    Gives (fun items => ∀ item ∈ items, EachNumber P item) (items reader text) := by
  rw [items]
  split
  · trivial
  · exact List.forall_mem_nil _
  · refine (each _).bind fun item first => ?_
    refine (moreItems_gives each item.rest).bind fun others rest => ?_
    exact List.forall_mem_cons.2 ⟨first, rest⟩

theorem field_gives (text : List Char) :
    Gives (fun field => EachNumber P field.2) (field reader text) := by
  unfold field
  refine (yields_true _).bind fun name _ => ?_
  split
  · trivial
  · exact (each _).bind fun item each => each
  · trivial

theorem moreFields_gives (text : List Char) :
    Gives (fun fields => ∀ field ∈ fields, EachNumber P field.2) (moreFields reader text) := by
  induction length : text.length using Nat.strongRecOn generalizing text with
  | ind bound ih =>
    rw [moreFields]
    split
    · trivial
    · exact List.forall_mem_nil _
    · next comma =>
      have atMost := length_lt_of_skipBlanks comma
      split
      · trivial
      · next quote =>
        have shorter := length_lt_of_skipBlanks quote
        refine (field_gives each _).bind fun one first => ?_
        refine (ih _ (by have := one.shorter; omega) one.rest rfl).bind fun others rest => ?_
        exact List.forall_mem_cons.2 ⟨first, rest⟩
      · trivial
      · trivial
    · trivial

theorem fields_gives (text : List Char) :
    Gives (fun fields => ∀ field ∈ fields, EachNumber P field.2) (fields reader text) := by
  rw [fields]
  split
  · trivial
  · exact List.forall_mem_nil _
  · refine (field_gives each _).bind fun one first => ?_
    refine (moreFields_gives each one.rest).bind fun others rest => ?_
    exact List.forall_mem_cons.2 ⟨first, rest⟩
  · trivial

end

theorem valueWith_gives (made : MadeOfParts P)
    {array : (text : List Char) → Except JsonFault (Taken text (List Json))}
    {object : (text : List Char) → Except JsonFault (Taken text (List (String × Json)))}
    (items : ∀ text, Gives (fun items => ∀ item ∈ items, EachNumber P item) (array text))
    (fields : ∀ text, Gives (fun fields => ∀ field ∈ fields, EachNumber P field.2) (object text))
    (text : List Char) : Gives (EachNumber P) (valueWith array object text) := by
  have number {input text : List Char} {negative : Bool} (within : text.length ≤ input.length) :
      Gives (EachNumber P) (do
        let n ← numberBody input negative text within
        pure (n.map .number)) :=
    (numberBody_gives made within).bind fun n holds => .number holds
  unfold valueWith
  split
  · trivial
  · dsimp only
    split
    · exact restOfName_gives .null _ _ _
    · exact restOfName_gives (.boolean true) _ _ _
    · exact restOfName_gives (.boolean false) _ _ _
    · exact number _
    · exact (yields_true _).bind fun body _ => .string _
    · exact (items _).bind fun items each => .array each
    · refine (fields _).bind fun pairs each => .object fun field member => ?_
      exact each field (Dict.mem_of_mem_ofPairs member)
    · split
      · exact number _
      · trivial

theorem value_gives (made : MadeOfParts P) (room : Nat) (text : List Char) :
    Gives (EachNumber P) (value room text) := by
  induction room generalizing text with
  | zero =>
    rw [value]
    refine valueWith_gives made ?_ ?_ text <;> exact fun _ => True.intro
  | succ room ih => exact valueWith_gives made (items_gives ih) (fields_gives ih) text

theorem eachNumber_of_readChars (made : MadeOfParts P) {text : List Char} {json : Json} (found : readChars text = .ok json) :
    json.EachNumber P := by
  have given := value_gives made maxNesting text
  unfold readChars at found
  cases taken : value maxNesting text with
  | error fault =>
    rw [taken] at found
    cases found
  | ok first =>
    rw [taken] at given found
    simp only [bind, Except.bind] at found
    split at found
    · cases found
      exact given
    · cases found

/-- What holds of the numbers made of their parts holds of every number that a text gives. -/
theorem eachNumber_of_read (made : MadeOfParts P) {text : String} {json : Json} (found : read text = .ok json) :
    json.EachNumber P := by
  rw [read] at found
  split at found
  · next other same =>
    cases found
    exact eachNumber_of_readChars made same
  · cases found

end Json

end SqlPreview
