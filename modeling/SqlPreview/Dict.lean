/-!
# Ordered dictionaries

Names with values, in the order in which the names were first given. Giving a name again replaces
its value and keeps its place.
-/

namespace SqlPreview

/-- Pairs of a name and a value, each name at most once. -/
abbrev Dict (α : Type) := List (String × α)

namespace Dict

variable {α : Type}

def get? (dict : Dict α) (name : String) : Option α := dict.lookup name

def has (dict : Dict α) (name : String) : Bool := (dict.get? name).isSome

def names (dict : Dict α) : List String := dict.map Prod.fst

/-- Gives a name a value, in its old place if it had one and at the end otherwise. -/
def put (dict : Dict α) (name : String) (value : α) : Dict α :=
  match dict with
  | [] => [(name, value)]
  | (other, old) :: rest =>
    if other == name then (name, value) :: rest else (other, old) :: put rest name value

/-- Gives a name a value unless it has one. -/
def putIfAbsent (dict : Dict α) (name : String) (value : α) : Dict α :=
  if dict.has name then dict else dict.put name value

/-- Gives names values one after another. -/
def putAll (dict : Dict α) (pairs : List (String × α)) : Dict α :=
  pairs.foldl (fun d pair => d.put pair.1 pair.2) dict

/-- The dictionary that pairs build up, the later of two with one name winning. -/
def ofPairs (pairs : List (String × α)) : Dict α := putAll [] pairs

@[simp] theorem get?_nil (name : String) : get? ([] : Dict α) name = none := rfl

theorem get?_cons (other : String) (value : α) (rest : Dict α) (name : String) :
    get? ((other, value) :: rest) name = if name == other then some value else get? rest name := by
  rw [get?, List.lookup_cons, get?]
  split <;> simp_all

theorem get?_put (dict : Dict α) (name : String) (value : α) (other : String) :
    (dict.put name value).get? other = if other = name then some value else dict.get? other := by
  induction dict with
  | nil => simp [put, get?_cons]
  | cons pair rest ih =>
    obtain ⟨key, old⟩ := pair
    rw [put]
    by_cases h : key = name
    · subst h
      by_cases g : other = key <;> simp [get?_cons, g]
    · by_cases g : other = key
      · subst g
        simp [get?_cons, h]
      · simp [get?_cons, h, g, ih]

end Dict

end SqlPreview
