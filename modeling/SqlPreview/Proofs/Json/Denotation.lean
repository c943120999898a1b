import SqlPreview.Proofs.Json.Finite
import SqlPreview.Proofs.Number.Formats

/-!
# What JSON numbers denote

Every number of a JSON text denotes a rational number: an integer of 64 bits, signed or unsigned, or
a number of the 64-bit format (`JsonNumber.Denotes`).

Result: `Json.denotes_of_read`, no number of the JSON that a text gives is anything else, and neither
is a text that is read as one number (`denotes_of_wholeNumber?`).
-/

namespace SqlPreview

open Number (Floating)

/-- The rational number that an integer of 64 bits or a finite floating number of 64 bits is. -/
inductive JsonNumber.Denotes : JsonNumber → ℚ → Prop
  | integer {n : ℤ} : -2 ^ 63 ≤ n → n < 2 ^ 64 → Denotes (.integer n) n
  | floating {negative : Bool} {m : ℕ} {e : ℤ} : (Floating.finite negative m e).IsOf .double →
      Denotes (.floating (.finite negative m e)) (Floating.ofParts negative m e)

namespace Json

theorem denotes_signed {x : Floating} (finite : x.isFinite = true) (isOf : x.IsOf .double)
    (negative : Bool) : ∃ q, (signedFloating negative x).Denotes q := by
  have value {x : Floating} (finite : x.isFinite = true) (isOf : x.IsOf .double) :
      ∃ q, (JsonNumber.floating x).Denotes q := by
    cases x with
    | finite => exact ⟨_, .floating isOf⟩
    | infinite | nan => cases finite
  cases negative with
  | false => exact value finite isOf
  | true =>
    refine value ?_ (Floating.isOf_neg isOf)
    cases x with
    | finite => rfl
    | infinite | nan => cases finite

theorem denotes_madeOfParts : MadeOfParts fun n => ∃ q, n.Denotes q where
  integer negative n small := by
    rw [JsonNumber.ofInteger]
    split
    · exact ⟨_, .integer (by omega) (by omega)⟩
    · split
      · exact denotes_signed (JsonNumber.between_significand small).isFinite
          (Floating.isOf_ofInt _) true
      · next fits =>
        simp only [Bool.or_eq_true, decide_eq_true_eq, not_or, Nat.not_lt] at fits
        exact ⟨_, .integer (by omega) (by omega)⟩
  floating negative _ _ _ small made :=
    denotes_signed (JsonNumber.isFinite_fromParts small made) (JsonNumber.isOf_fromParts made)
      negative

/-- A number that is the whole of a text denotes a rational number. -/
theorem denotes_of_wholeNumber? {negative : Bool} {text : List Char} {n : JsonNumber}
    (found : wholeNumber? negative text = some n) : ∃ q, n.Denotes q := by
  have given : Gives (fun n => ∃ q, n.Denotes q) (numberBody text negative text le_rfl) :=
    numberBody_gives denotes_madeOfParts le_rfl
  unfold wholeNumber? at found
  split at found
  · next taken body =>
    rw [body] at given
    split at found
    · cases found
      exact given
    · cases found
  · cases found

/-- Every number of the JSON that a text gives denotes a rational number. -/
theorem denotes_of_read {text : String} {json : Json} (found : read text = .ok json) :
    json.EachNumber fun n => ∃ q, n.Denotes q :=
  eachNumber_of_read denotes_madeOfParts found

end Json

end SqlPreview
