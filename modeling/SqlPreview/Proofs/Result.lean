import SqlPreview.Taken

/-!
# Results that may fail

This file defines what holds of a result, if there is one (`Yields`), and of the value that a reader
takes, if it takes one (`Gives`). Both are carried along a chain of steps by `Yields.bind`, and what
is kept by the steps of a fold is carried along the fold by `foldlM_keeps`.
-/

namespace SqlPreview

variable {ε α β : Type} {P : α → Prop} {Q : β → Prop}

/-- If there is a result, it has the property. -/
def Yields (P : α → Prop) : Except ε α → Prop
  | .ok a => P a
  | .error _ => True

theorem Yields.bind {first : Except ε α} {next : α → Except ε β} (yields : Yields P first)
    (goes : ∀ a, P a → Yields Q (next a)) : Yields Q (first >>= next) := by
  cases first with
  | error => trivial
  | ok a => exact goes a yields

theorem Yields.map {result : Except ε α} {f : α → β} (goes : ∀ a, Q (f a)) :
    Yields Q (result.map f) := by
  cases result with
  | error => trivial
  | ok a => exact goes a

theorem Yields.mono {R : α → Prop} {result : Except ε α} (yields : Yields P result)
    (weaker : ∀ a, P a → R a) : Yields R result := by
  cases result with
  | error => trivial
  | ok a => exact weaker a yields

theorem yields_true (result : Except ε α) : Yields (fun _ => True) result := by
  cases result <;> trivial

/-- A chain of two steps has the results that the second gives for results of the first. -/
theorem bind_eq_ok_iff {first : Except ε α} {next : α → Except ε β} {b : β} :
    first >>= next = .ok b ↔ ∃ a, first = .ok a ∧ next a = .ok b := by
  cases first with
  | error => exact iff_of_false nofun fun ⟨_, found, _⟩ => nomatch found
  | ok a =>
    constructor
    · intro run
      exact ⟨a, rfl, run⟩
    · rintro ⟨_, ⟨⟩, run⟩
      exact run

/-- What every step of a fold keeps, the whole fold keeps. -/
theorem foldlM_keeps {step : β → α → Except ε β} {items : List α}
    (each : ∀ item ∈ items, ∀ state next, Q state → step state item = .ok next → Q next)
    {first last : β} (start : Q first) (run : items.foldlM step first = .ok last) : Q last := by
  induction items generalizing first with
  | nil => exact Except.ok.inj run ▸ start
  | cons item rest ih =>
    obtain ⟨here, each⟩ := List.forall_mem_cons.1 each
    rw [List.foldlM_cons] at run
    obtain ⟨next, stepped, run⟩ := bind_eq_ok_iff.1 run
    exact ih each (here first next start stepped) run

/-- If a value is taken, it has the property. -/
abbrev Gives {τ : Type} {input : List τ} (P : α → Prop) : Except ε (Taken input α) → Prop :=
  Yields fun taken => P taken.value

end SqlPreview
