import Mathlib
import SqlPreview.Proofs.Source.Balanced
import SqlPreview.Source.Reader

/-!
# Searches and quotes

Packages, imports and types are searched for in the whole text of a file, literals included. Their
readers stop at quotes, so what they find is found before a quote, or behind it.

This file defines the beginning of a type (`TypeHead`), which is what is found of a type before the
first quote.

Results:
1. `package?_stops`, `import?_stops`, `typeHead?_stops`: readers that stop at quotes.
2. `occurrences_quote`: what such a reader finds in a text with a quote.
3. `occurrences_typeHere?`: types are found by their beginnings.
-/

namespace SqlPreview.Source

section

variable {α β : Type}

/-- What was taken, without the proof that it was. -/
def found {text : List Char} (taken : Option (Taken text α)) : Option (α × List Char) :=
  taken.map fun taken => (taken.value, taken.rest)

/-- A reader that does not read past a quote: it reads the same before a quote as before the end. -/
def StopsAtQuotes (read : (text : List Char) → Option (Taken text α)) : Prop :=
  ∀ (text : List Char) (quote : Char) (rest : List Char), isQuote quote = true →
    found (read (text ++ quote :: rest)) =
      (found (read text)).map (Prod.map id (· ++ quote :: rest))

theorem takeWhile_stop {p : Char → Bool} {c : Char} (stops : p c = false)
    (text rest : List Char) : (text ++ c :: rest).takeWhile p = text.takeWhile p := by
  induction text with
  | nil => simp [stops]
  | cons d text ih => simp only [List.cons_append, List.takeWhile_cons, ih]

theorem dropWhile_stop {p : Char → Bool} {c : Char} (stops : p c = false)
    (text rest : List Char) :
    (text ++ c :: rest).dropWhile p = text.dropWhile p ++ c :: rest := by
  induction text with
  | nil => simp [stops]
  | cons d text ih =>
    simp only [List.cons_append, List.dropWhile_cons, ih]
    split <;> rfl

theorem dropStart?_stop {word : List Char} {c : Char} (other : c ∉ word) (text rest : List Char) :
    Text.dropStart? word (text ++ c :: rest) =
      (Text.dropStart? word text).map (· ++ c :: rest) := by
  induction word generalizing text with
  | nil => rfl
  | cons d word ih =>
    obtain ⟨first, later⟩ := not_or.1 (List.mem_cons.not.1 other)
    cases text with
    | nil => simp [Text.dropStart?, Ne.symm first]
    | cons e text =>
      simp only [List.cons_append, Text.dropStart?, ih later]
      split <;> rfl

/-! ## Words and names -/

/-- The text behind the white space that ends a keyword. -/
def afterBlank? : List Char → Option (List Char)
  | c :: rest => if Text.isBlank c then some (Text.trimStart rest) else none
  | [] => none

theorem found_keyword? (word : String) (text : List Char) : found (keyword? word text) =
    ((Text.dropStart? word.toList text).bind afterBlank?).map fun rest => ((), rest) := by
  rw [keyword?]
  split
  · next c rest start =>
    conv_rhs => rw [start]
    simp only [Option.bind_some, afterBlank?]
    split <;> rfl
  · next other =>
    cases start : Text.dropStart? word.toList text with
    | none => rfl
    | some rest =>
      cases rest with
      | nil => rfl
      | cons c rest => exact absurd start (other c rest)

theorem keyword?_stops {word : String} (letters : ∀ c ∈ word.toList, isQuote c = false) :
    StopsAtQuotes (keyword? word) := by
  intro text quote rest isOne
  have other : quote ∉ word.toList := fun member => ne_of_class isOne (letters _ member) rfl
  have solid : Text.isBlank quote = false := eq_false_of_quote isOne (by decide) (by decide)
  rw [found_keyword?, found_keyword?, dropStart?_stop other]
  cases Text.dropStart? word.toList text with
  | none => rfl
  | some behind =>
    cases behind with
    | nil => simp [afterBlank?, solid]
    | cons c behind =>
      simp only [Option.map_some, Option.bind_some, List.cons_append, afterBlank?]
      split
      · simp [Text.trimStart, dropWhile_stop solid]
      · rfl

theorem name?_stops : StopsAtQuotes name? := by
  intro text quote rest isOne
  have notStart : Text.isIdentStart quote = false := eq_false_of_quote isOne (by decide) (by decide)
  have notInside : isNameChar quote = false := eq_false_of_quote isOne (by decide) (by decide)
  cases text with
  | nil => simp [name?, notStart, found]
  | cons c text =>
    simp only [List.cons_append, name?, takeWhile_stop notInside, dropWhile_stop notInside]
    split <;> rfl

/-- One reader behind another. -/
theorem StopsAtQuotes.andThen {first : (text : List Char) → Option (Taken text α)}
    {second read : (text : List Char) → Option (Taken text β)} (stops : StopsAtQuotes first)
    (stops' : StopsAtQuotes second)
    (both : ∀ text, found (read text) =
      (found (first text)).bind fun pair => found (second pair.2)) : StopsAtQuotes read := by
  intro text quote rest isOne
  rw [both, both, stops text quote rest isOne]
  cases found (first text) with
  | none => rfl
  | some pair => exact stops' pair.2 quote rest isOne

/-- Another value in place of the one read. -/
theorem StopsAtQuotes.map {first : (text : List Char) → Option (Taken text α)}
    (stops : StopsAtQuotes first) (f : α → β) :
    StopsAtQuotes fun text => (first text).map fun taken => taken.map f := by
  have mapped (text : List Char) : found ((first text).map fun taken => taken.map f) =
      (found (first text)).map (Prod.map f id) := by
    cases first text <;> rfl
  intro text quote rest isOne
  rw [mapped, mapped, stops text quote rest isOne]
  cases found (first text) <;> rfl

/-- The first of two readers that reads anything. -/
theorem StopsAtQuotes.orElse {first second read : (text : List Char) → Option (Taken text α)}
    (stops : StopsAtQuotes first) (stops' : StopsAtQuotes second)
    (either : ∀ text, found (read text) = (found (first text)).or (found (second text))) :
    StopsAtQuotes read := by
  intro text quote rest isOne
  rw [either, either, stops text quote rest isOne, stops' text quote rest isOne]
  cases found (first text) <;> rfl

theorem found_andThen {text : List Char} (first : Option (Taken text α))
    (second : (text : List Char) → Option (Taken text β)) :
    found (first.bind fun word => (second word.rest).bind fun name =>
        some (name.widen (Nat.le_of_lt word.shorter))) =
      (found first).bind fun pair => found (second pair.2) := by
  cases first with
  | none => rfl
  | some word =>
    simp only [found, Option.bind_some, Option.map_some]
    cases second word.rest <;> rfl

/-! ## Packages and imports -/

theorem afterSemicolon?_stops {quote : Char} (isOne : isQuote quote = true)
    (text rest : List Char) :
    afterSemicolon? (text ++ quote :: rest) = (afterSemicolon? text).map (· ++ quote :: rest) := by
  have solid : Text.isBlank quote = false := eq_false_of_quote isOne (by decide) (by decide)
  have other : quote ∉ [';'] := fun member =>
    ne_of_class isOne (by decide) (List.mem_singleton.1 member)
  rw [afterSemicolon?, Text.trimStart, dropWhile_stop solid, dropStart?_stop other]
  rfl

theorem found_dottedName? (text : List Char) : found (dottedName? text) =
    if (text.takeWhile isDottedChar).isEmpty then none
    else (afterSemicolon? (text.dropWhile isDottedChar)).map fun rest =>
      (text.takeWhile isDottedChar, rest) := by
  rw [dottedName?]
  split
  · rfl
  · split
    · next rest same =>
        conv_rhs => rw [same]
        rfl
    · next none =>
        conv_rhs => rw [none]
        rfl

theorem dottedName?_stops : StopsAtQuotes dottedName? := by
  intro text quote rest isOne
  have stops : isDottedChar quote = false := eq_false_of_quote isOne (by decide) (by decide)
  rw [found_dottedName?, found_dottedName?, takeWhile_stop stops, dropWhile_stop stops,
    afterSemicolon?_stops isOne]
  split
  · rfl
  · cases afterSemicolon? (text.dropWhile isDottedChar) <;> rfl

/-- The text after a star, white space and a semicolon. -/
def afterStar? (text : List Char) : Option (List Char) :=
  (Text.dropStart? ['*'] text).bind afterSemicolon?

theorem found_wildcardName? (text : List Char) : found (wildcardName? text) =
    let name := text.takeWhile isDottedChar
    if name.length < 2 || name.getLast? != some '.' then none
    else (afterStar? (text.dropWhile isDottedChar)).map fun rest => (name ++ ['*'], rest) := by
  rw [wildcardName?]
  dsimp only
  split
  · rfl
  · split
    · next star begins =>
      have dropped : afterStar? (text.dropWhile isDottedChar) = afterSemicolon? star := by
        rw [begins]
        rfl
      rw [dropped]
      split
      · next rest same =>
          conv_rhs => rw [same]
          rfl
      · next none =>
          conv_rhs => rw [none]
          rfl
    · next other =>
      have none : Text.dropStart? ['*'] (text.dropWhile isDottedChar) = none := by
        rw [Option.eq_none_iff_forall_ne_some]
        exact fun rest start => other rest (Text.dropStart?_eq_some.1 start)
      rw [afterStar?, none]
      rfl

theorem wildcardName?_stops : StopsAtQuotes wildcardName? := by
  intro text quote rest isOne
  have stops : isDottedChar quote = false := eq_false_of_quote isOne (by decide) (by decide)
  have other : quote ∉ ['*'] := fun member =>
    ne_of_class isOne (by decide) (List.mem_singleton.1 member)
  rw [found_wildcardName?, found_wildcardName?, takeWhile_stop stops, dropWhile_stop stops,
    afterStar?, dropStart?_stop other, afterStar?]
  dsimp only
  split
  · rfl
  · cases Text.dropStart? ['*'] (text.dropWhile isDottedChar) with
    | none => rfl
    | some behind =>
      simp only [Option.map_some, Option.bind_some, afterSemicolon?_stops isOne]
      cases afterSemicolon? behind <;> rfl

theorem importedName?_stops : StopsAtQuotes importedName? :=
  dottedName?_stops.orElse wildcardName?_stops fun text => by
    rw [importedName?]
    cases dottedName? text <;> rfl

theorem package?_stops : StopsAtQuotes package? := by
  have word : StopsAtQuotes (keyword? "package") := keyword?_stops (by simp [isQuote])
  exact word.andThen dottedName?_stops fun text => found_andThen _ _

theorem staticImport?_stops : StopsAtQuotes staticImport? := by
  have word : StopsAtQuotes (keyword? "static") := keyword?_stops (by simp [isQuote])
  exact word.andThen importedName?_stops fun text => found_andThen _ _

/-- What stands behind the word of an import. -/
def importBehind? (text : List Char) : Option (Taken text (Option (List Char))) :=
  ((staticImport? text).map fun member => member.map fun _ => none) <|>
    (importedName? text).map fun name => name.map some

theorem importBehind?_stops : StopsAtQuotes importBehind? :=
  (staticImport?_stops.map fun _ => none).orElse (importedName?_stops.map some) fun text => by
    rw [importBehind?]
    cases staticImport? text <;> rfl

theorem import?_stops : StopsAtQuotes import? := by
  have word : StopsAtQuotes (keyword? "import") := keyword?_stops (by simp [isQuote])
  refine word.andThen importBehind?_stops fun text => ?_
  rw [import?]
  cases keyword? "import" text with
  | none => rfl
  | some word =>
    simp only [found, importBehind?, Option.bind_eq_bind, Option.bind_some, Option.map_some]
    cases staticImport? word.rest with
    | some member => rfl
    | none => cases importedName? word.rest <;> rfl

/-! ## Types -/

/-- What is found of a type before the first quote: whether it is an annotation type, the word that
declares it, its name, and the text behind that. -/
structure TypeHead where
  behindAt : Bool
  kind : ClassKind
  name : List Char
  text : List Char
deriving DecidableEq

namespace TypeHead

/-- With more text at the end. -/
def extended (head : TypeHead) (more : List Char) : TypeHead :=
  { head with text := head.text ++ more }

/-- The declaration that begins so, if any. -/
def declared (head : TypeHead) : Option TypeDeclaration :=
  if head.behindAt then none else typeWithBody? head.kind head.name head.text

theorem declared_extended (head : TypeHead) (more : List Char) : (head.extended more).declared =
    if head.behindAt then none else typeWithBody? head.kind head.name (head.text ++ more) := rfl

end TypeHead

/-- One of the words that declare a type. -/
def typeWordOf? (words : List (String × ClassKind)) (text : List Char) :
    Option (Taken text ClassKind) :=
  words.findSome? fun word => (keyword? word.1 text).map fun taken => taken.map fun _ => word.2

/-- The beginning of a type. -/
def typeHead? (previous : Option Char) (text : List Char) : Option (Taken text TypeHead) :=
  (typeWordOf? typeKeywords text).bind fun word => (name? word.rest).map fun name =>
    ⟨⟨previous == some '@', word.value, name.value, name.rest⟩, name.rest,
      Nat.lt_trans name.shorter word.shorter⟩

theorem typeHere?_eq (previous : Option Char) (text : List Char) :
    typeHere? previous text = (typeHead? previous text).map fun taken =>
      taken.map TypeHead.declared := by
  have behind (words : List (String × ClassKind)) :
      ((words.findSome? fun word => (keyword? word.1 text).map fun taken => (word.2, taken)).map
        fun pair => pair.2.map fun _ => pair.1) = typeWordOf? words text := by
    induction words with
    | nil => rfl
    | cons word words ih =>
      simp only [typeWordOf?, List.findSome?_cons]
      cases keyword? word.1 text with
      | some taken => rfl
      | none => exact ih
  have opened : typeHere? previous text =
      (typeKeywords.findSome? fun word => (keyword? word.1 text).map fun taken =>
        (word.2, taken)).bind fun pair => (name? pair.2.rest).map fun name =>
          ⟨if previous == some '@' then none else typeWithBody? pair.1 name.value name.rest,
            name.rest, Nat.lt_trans name.shorter pair.2.shorter⟩ := by
    rw [typeHere?]
    cases typeKeywords.findSome? _ with
    | none => rfl
    | some pair => cases same : name? pair.2.rest <;> simp [same]
  rw [opened, typeHead?, ← behind]
  cases typeKeywords.findSome? _ with
  | none => rfl
  | some pair =>
    simp only [Option.bind_some, Option.map_some, Option.map_map]
    rfl

theorem typeWordOf?_stops {words : List (String × ClassKind)}
    (letters : ∀ word ∈ words, ∀ c ∈ word.1.toList, isQuote c = false) :
    StopsAtQuotes (typeWordOf? words) := by
  induction words with
  | nil => exact fun _ _ _ _ => rfl
  | cons word words ih =>
    obtain ⟨first, later⟩ := List.forall_mem_cons.1 letters
    refine ((keyword?_stops first).map fun _ => word.2).orElse (ih later) fun text => ?_
    rw [typeWordOf?, List.findSome?_cons]
    cases keyword? word.1 text <;> rfl

theorem typeHead?_stops (previous : Option Char) {quote : Char} (isOne : isQuote quote = true)
    (text rest : List Char) : found (typeHead? previous (text ++ quote :: rest)) =
      (found (typeHead? previous text)).map
        (Prod.map (fun head => head.extended (quote :: rest)) (· ++ quote :: rest)) := by
  have both (text : List Char) : found (typeHead? previous text) =
      (found (typeWordOf? typeKeywords text)).bind fun word => (found (name? word.2)).map fun name =>
        (⟨previous == some '@', word.1, name.1, name.2⟩, name.2) := by
    rw [typeHead?]
    cases typeWordOf? typeKeywords text with
    | none => rfl
    | some word =>
      simp only [found, Option.bind_some, Option.map_some]
      cases name? word.rest <;> rfl
  have letters : ∀ word ∈ typeKeywords, ∀ c ∈ word.1.toList, isQuote c = false := by
    simp [typeKeywords, isQuote]
  rw [both, both, typeWordOf?_stops letters text quote rest isOne]
  cases found (typeWordOf? typeKeywords text) with
  | none => rfl
  | some word =>
    simp only [Option.map_some, Option.bind_some, Prod.map, name?_stops word.2 quote rest isOne]
    cases found (name? word.2) <;> rfl

/-! ## Searches -/

section

variable {find : (previous : Option Char) → (text : List Char) → Option (Taken text α)}

theorem occurrences_cons (previous : Option Char) (c : Char) (rest : List Char) :
    occurrences find previous (c :: rest) =
      match if previous.any Text.isWordChar then none else found (find previous (c :: rest)) with
      | some (value, behind) => value :: occurrences find none behind
      | none => occurrences find (some c) rest := by
  rw [occurrences]
  cases previous.any Text.isWordChar with
  | true => rfl
  | false => cases find previous (c :: rest) <;> rfl

theorem found_nil (previous : Option Char) : found (find previous []) = none := by
  cases find previous [] with
  | none => rfl
  | some taken => exact absurd taken.shorter (Nat.not_lt_zero _)

theorem length_found {previous : Option Char} {text behind : List Char} {value : α}
    (taken : found (find previous text) = some (value, behind)) : behind.length < text.length := by
  obtain ⟨whole, -, same⟩ := Option.map_eq_some_iff.1 taken
  cases same
  exact whole.shorter

/-- Induction along a search: behind one character, or behind a find. -/
theorem search_induction {motive : Option Char → List Char → Prop} (nil : ∀ previous, motive previous [])
    (cons : ∀ previous c text, motive (some c) text →
      (∀ behind, behind.length < (c :: text).length → motive none behind) →
        motive previous (c :: text)) (previous : Option Char) (text : List Char) :
    motive previous text := by
  induction size : text.length using Nat.strongRecOn generalizing previous text with
  | _ n ih =>
    cases text with
    | nil => exact nil previous
    | cons c text =>
      refine cons previous c text (ih text.length ?_ _ _ rfl) fun behind shorter => ?_
      · rw [← size, List.length_cons]
        exact Nat.lt_succ_self _
      · exact ih behind.length (size ▸ shorter) _ _ rfl

/-- What is found in a text with a quote: what is found before it, and what is found behind it. -/
theorem occurrences_quote {quote : Char} {rest : List Char} (grow : α → α)
    (stops : ∀ previous text, found (find previous (text ++ quote :: rest)) =
      (found (find previous text)).map (Prod.map grow (· ++ quote :: rest)))
    (previous : Option Char) (text : List Char) :
    occurrences find previous (text ++ quote :: rest) =
      (occurrences find previous text).map grow ++ occurrences find (some quote) rest := by
  induction previous, text using search_induction with
  | nil previous =>
    have none : found (find previous (quote :: rest)) = none := by
      rw [← List.nil_append (quote :: rest), stops, found_nil]
      rfl
    rw [List.nil_append, occurrences_cons, none, ite_self, occurrences]
    rfl
  | cons previous c text later behind =>
    have step := stops previous (c :: text)
    rw [List.cons_append] at step ⊢
    rw [occurrences_cons, occurrences_cons previous c text, step]
    cases previous.any Text.isWordChar with
    | true => exact later
    | false =>
      cases taken : found (find previous (c :: text)) with
      | none => exact later
      | some pair => exact congrArg (grow pair.1 :: ·) (behind pair.2 (length_found taken))

/-- Other values are found at the same places. -/
theorem occurrences_map {β : Type} (f : α → β) (previous : Option Char) (text : List Char) :
    occurrences (fun previous text => (find previous text).map fun taken => taken.map f) previous
      text = (occurrences find previous text).map f := by
  induction previous, text using search_induction with
  | nil previous => simp [occurrences]
  | cons previous c text later behind =>
    have mapped : found ((find previous (c :: text)).map fun taken => taken.map f) =
        (found (find previous (c :: text))).map (Prod.map f id) := by
      cases find previous (c :: text) <;> rfl
    rw [occurrences_cons, occurrences_cons, mapped]
    cases previous.any Text.isWordChar with
    | true => exact later
    | false =>
      cases taken : found (find previous (c :: text)) with
      | none => exact later
      | some pair => exact congrArg (f pair.1 :: ·) (behind pair.2 (length_found taken))

end

/-- Types are found by their beginnings. -/
theorem occurrences_typeHere? (previous : Option Char) (text : List Char) :
    occurrences typeHere? previous text =
      (occurrences typeHead? previous text).map TypeHead.declared := by
  have same : typeHere? = fun previous text => (typeHead? previous text).map fun taken =>
      taken.map TypeHead.declared := by
    funext previous text
    exact typeHere?_eq previous text
  rw [same, occurrences_map]

end

end SqlPreview.Source
