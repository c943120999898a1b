/-!
# What a reader takes

A reader takes a value from the front of its input and leaves a shorter rest. Readers that call
one another end because every rest carries the proof that it is shorter.
-/

namespace SqlPreview

universe u v

/-- A value read from the front of `input`, and what is left. -/
structure Taken {τ : Type u} (input : List τ) (α : Type v) where
  value : α
  rest : List τ
  shorter : rest.length < input.length

namespace Taken

variable {τ : Type u} {α : Type v}

/-- What was taken from a shorter input was taken from a longer one. -/
def widen {input longer : List τ} (taken : Taken input α) (h : input.length ≤ longer.length) :
    Taken longer α :=
  ⟨taken.value, taken.rest, Nat.lt_of_lt_of_le taken.shorter h⟩

theorem within {input : List τ} (taken : Taken input α) : taken.rest.length ≤ input.length :=
  Nat.le_of_lt taken.shorter

/-- Another value in place of the one taken. -/
def map {β : Type v} {input : List τ} (taken : Taken input α) (f : α → β) : Taken input β :=
  ⟨f taken.value, taken.rest, taken.shorter⟩

end Taken

theorem length_le_cons {τ : Type u} (first : τ) (rest : List τ) :
    rest.length ≤ (first :: rest).length :=
  Nat.le_succ _

theorem length_dropWhile_le {τ : Type u} (p : τ → Bool) (input : List τ) :
    (input.dropWhile p).length ≤ input.length :=
  (List.dropWhile_sublist p).length_le

end SqlPreview
