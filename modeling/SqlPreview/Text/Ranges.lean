/-!
# Character classes as ranges

A class of a character standard is a list of code point ranges. Membership is the only question
that is asked of it, so the class stays the plain data that the standard publishes.
-/

namespace SqlPreview.Text

/-- Code point ranges, both ends included. -/
abbrev Ranges := List (Nat × Nat)

/-- A character is in a class when one of its ranges holds it. -/
def Ranges.holds (ranges : Ranges) (c : Char) : Bool :=
  ranges.any fun range => range.1 ≤ c.toNat && c.toNat ≤ range.2

theorem Ranges.holds_iff (ranges : Ranges) (c : Char) :
    ranges.holds c = true ↔ ∃ range ∈ ranges, range.1 ≤ c.toNat ∧ c.toNat ≤ range.2 := by
  simp [Ranges.holds, List.any_eq_true]

end SqlPreview.Text
