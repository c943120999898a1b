import SqlPreview.Taken
import SqlPreview.Text.Letter
import SqlPreview.Types.Basic

/-!
# Reading type references

Wildcards stand for their upper bound or for the type of all objects, and the three points of a
variable argument list count as one dimension. White space may stand before every symbol.
-/

namespace SqlPreview.TypeRef

/-- What a type name is made of. -/
def isNameChar (c : Char) : Bool := Text.isAlphanumeric c || c == '_' || c == '$' || c == '.'

/-- A symbol after white space. -/
def symbol? (c : Char) (text : List Char) : Option (Taken text Unit) :=
  match h : Text.trimStart text with
  | d :: rest =>
    if c == d then
      some ⟨(), rest, by
        have : (d :: rest).length ≤ text.length := h ▸ length_dropWhile_le _ _
        exact this⟩
    else none
  | [] => none

/-- A word after white space that is no part of a longer one. -/
def keyword? (word : List Char) (text : List Char) : Option (List Char) :=
  match Text.dropStart? word (Text.trimStart text) with
  | none => none
  | some rest =>
    match rest with
    | c :: _ => if Text.isAlphanumeric c || c == '_' then none else some rest
    | [] => some []

theorem length_keyword?_le {word text rest : List Char} (h : keyword? word text = some rest) :
    rest.length ≤ text.length := by
  unfold keyword? at h
  split at h
  · simp at h
  · next rest' found =>
    have := Text.dropStart?_eq_some.1 found
    have bound : (Text.trimStart text).length ≤ text.length := length_dropWhile_le _ _
    rw [this, List.length_append] at bound
    split at h
    · split at h
      · simp at h
      · cases h; omega
    · cases h; simp

/-- The characters of a name and what follows it. A point before another point is not part of the
name. -/
def splitName : List Char → List Char × List Char
  | [] => ([], [])
  -- Two points begin the mark of a variable argument list.
  | '.' :: '.' :: rest => ([], '.' :: '.' :: rest)
  | c :: rest =>
    if isNameChar c then
      let (name, after) := splitName rest
      (c :: name, after)
    else ([], c :: rest)

theorem splitName_append (text : List Char) :
    (splitName text).1 ++ (splitName text).2 = text := by
  fun_induction splitName text <;> simp_all

/-- A name after white space. -/
def name? (text : List Char) : Option (Taken text String) :=
  match h : splitName (Text.trimStart text) with
  | ([], _) => none
  | (c :: name, rest) =>
    some ⟨String.ofList (c :: name), rest, by
      have whole := splitName_append (Text.trimStart text)
      have bound : (Text.trimStart text).length ≤ text.length := length_dropWhile_le _ _
      rw [h] at whole
      rw [← whole] at bound
      simp only [List.length_append, List.length_cons] at bound
      omega⟩

/-- The dimensions after a type, and the text after them; nothing when a bracket or a point is left
unfinished. -/
def dims? (text : List Char) : Option (Nat × { rest : List Char // rest.length ≤ text.length }) :=
  match symbol? '[' text with
  | some opened => do
    let closed ← symbol? ']' opened.rest
    let (count, rest) ← dims? closed.rest
    have within := Nat.le_trans closed.within opened.within
    some (count + 1, ⟨rest.val, Nat.le_trans rest.property within⟩)
  | none =>
    match symbol? '.' text with
    | some one => do
      let two ← symbol? '.' one.rest
      let three ← symbol? '.' two.rest
      let (count, rest) ← dims? three.rest
      have within := Nat.le_trans three.within (Nat.le_trans two.within one.within)
      some (count + 1, ⟨rest.val, Nat.le_trans rest.property within⟩)
    | none => some (0, ⟨text, Nat.le_refl _⟩)
termination_by text.length
decreasing_by
  · exact Nat.lt_trans closed.shorter opened.shorter
  · exact Nat.lt_trans three.shorter (Nat.lt_trans two.shorter one.shorter)

mutual

/-- A type at the front of a text. -/
def type? (text : List Char) : Option (Taken text TypeRef) :=
  match symbol? '?' text with
  | some wildcard =>
    match h : keyword? "extends".toList wildcard.rest with
    | some bound =>
      have : bound.length < text.length :=
        Nat.lt_of_le_of_lt (length_keyword?_le h) wildcard.shorter
      (type? bound).map fun type => type.widen (Nat.le_of_lt this)
    | none =>
      match h : keyword? "super".toList wildcard.rest with
      | some bound =>
        have : bound.length < text.length :=
          Nat.lt_of_le_of_lt (length_keyword?_le h) wildcard.shorter
        (type? bound).map fun type => (type.map fun _ => object).widen (Nat.le_of_lt this)
      | none => some (wildcard.map fun _ => object)
  | none =>
    match name? text with
    | none => none
    | some name =>
      match symbol? '<' name.rest with
      | none => do
        let (count, rest) ← dims? name.rest
        some ⟨⟨name.value, [], count⟩, rest.val,
          Nat.lt_of_le_of_lt rest.property name.shorter⟩
      | some opened =>
        have : opened.rest.length < text.length := Nat.lt_trans opened.shorter name.shorter
        match symbol? '>' opened.rest with
        | some closed => do
          let (count, rest) ← dims? closed.rest
          some ⟨⟨name.value, [], count⟩, rest.val, by
            have := closed.shorter; have := rest.property; omega⟩
        | none => do
          let args ← args? opened.rest
          let (count, rest) ← dims? args.rest
          some ⟨⟨name.value, args.value, count⟩, rest.val, by
            have := args.shorter; have := rest.property; omega⟩
termination_by (text.length, 0)

/-- The arguments of a type, given what follows the opening bracket, up to the closing one. -/
def args? (text : List Char) : Option (Taken text (List TypeRef)) := do
  let arg ← type? text
  match symbol? ',' arg.rest with
  | some comma =>
    have : comma.rest.length < text.length := Nat.lt_trans comma.shorter arg.shorter
    let others ← args? comma.rest
    some ⟨arg.value :: others.value, others.rest, Nat.lt_trans others.shorter this⟩
  | none => do
    let closed ← symbol? '>' arg.rest
    some ⟨[arg.value], closed.rest, Nat.lt_trans closed.shorter arg.shorter⟩
termination_by (text.length, 1)

end

/-- The type that is the whole of a text, white space around it apart. -/
def readChars? (text : List Char) : Option TypeRef :=
  match type? (Text.trim text) with
  | some taken => if (Text.trimStart taken.rest).isEmpty then some taken.value else none
  | none => none

/-- The type that a text writes. -/
def read? (text : String) : Option TypeRef := readChars? text.toList

end SqlPreview.TypeRef
