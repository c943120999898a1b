import SqlPreview.Time.Calendar

/-!
# Order of dates and times

Days, times of day and instants are ordered from the largest unit to the smallest. Turning a
comparison round turns its answer round, and only equal ones compare as equal.
-/

namespace SqlPreview

open Std

instance : OrientedCmp Date.compare where
  eq_swap := by simp only [Date.compare, Ordering.swap_then, ← OrientedCmp.eq_swap, implies_true]

instance : LawfulEqCmp Date.compare where
  eq_of_compare {a b} same := by
    obtain ⟨year, month, day⟩ := a
    obtain ⟨year', month', day'⟩ := b
    simp only [Date.compare, Ordering.then_eq_eq, LawfulEqCmp.compare_eq_iff_eq] at same
    obtain ⟨rfl, rfl, rfl⟩ := same
    rfl

instance : OrientedCmp TimeOfDay.compare where
  eq_swap := by
    simp only [TimeOfDay.compare, Ordering.swap_then, ← OrientedCmp.eq_swap, implies_true]

instance : LawfulEqCmp TimeOfDay.compare where
  eq_of_compare {a b} same := by
    obtain ⟨second, nano⟩ := a
    obtain ⟨second', nano'⟩ := b
    simp only [TimeOfDay.compare, Ordering.then_eq_eq, LawfulEqCmp.compare_eq_iff_eq] at same
    obtain ⟨rfl, rfl⟩ := same
    rfl

instance : OrientedCmp DateTime.compare where
  eq_swap := by
    simp only [DateTime.compare, Ordering.swap_then, ← OrientedCmp.eq_swap, implies_true]

instance : LawfulEqCmp DateTime.compare where
  eq_of_compare {a b} same := by
    obtain ⟨date, time⟩ := a
    obtain ⟨date', time'⟩ := b
    simp only [DateTime.compare, Ordering.then_eq_eq, LawfulEqCmp.compare_eq_iff_eq] at same
    obtain ⟨rfl, rfl⟩ := same
    rfl

/-! An instant is ordered as its date and time are. -/

instance : OrientedCmp Instant.compare where
  eq_swap :=
    have turned : OrientedCmp DateTime.compare := inferInstance
    turned.eq_swap

instance : LawfulEqCmp Instant.compare where
  eq_of_compare same :=
    have lawful : LawfulEqCmp DateTime.compare := inferInstance
    congrArg Instant.mk (lawful.eq_of_compare same)

end SqlPreview
