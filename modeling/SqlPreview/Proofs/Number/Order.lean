import SqlPreview.Number.Floating

/-!
# Order of floating numbers

Floating numbers have an order except where one is not a number. Turning the comparison round turns
its answer round, so equality of numbers is symmetric.

Results:
1. `compare?_swap`: the comparison the other way.
2. `same_comm`: numeric equality is symmetric.
-/

namespace SqlPreview.Number.Floating

/-- Both ways the numbers are brought to the same unit. -/
theorem aligned_comm (m₁ e₁ m₂ e₂ : Int) :
    (aligned m₂ e₂ m₁ e₁).1 = (aligned m₁ e₁ m₂ e₂).2.1 ∧
      (aligned m₂ e₂ m₁ e₁).2.1 = (aligned m₁ e₁ m₂ e₂).1 := by
  simp only [aligned, Int.min_comm e₂ e₁, and_self]

theorem compare?_swap (x y : Floating) : compare? y x = (compare? x y).map Ordering.swap := by
  cases x with
  | nan => cases y <;> rfl
  | infinite a =>
    cases y with
    | nan => rfl
    | infinite b => simp only [compare?, Option.map_some, Nat.compare_swap]
    | finite b m e => cases a <;> rfl
  | finite a m e =>
    cases y with
    | nan => rfl
    | infinite b => cases b <;> rfl
    | finite b m' e' =>
      obtain ⟨left, right⟩ := aligned_comm (signed a m) e (signed b m') e'
      simp only [compare?, Option.map_some, left, right, Int.compare_swap]

theorem same_comm (x y : Floating) : same x y = same y x := by
  unfold same
  rw [compare?_swap x y]
  cases compare? x y with
  | none => rfl
  | some order => cases order <;> rfl

end SqlPreview.Number.Floating
