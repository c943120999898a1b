import Mathlib
import SqlPreview.Proofs.Source.Transparency

/-!
# Types in lists

The brackets of a type match, and commas stand only between them. So a type stays in one statement
and in one member of a list, and lists are never split inside of it.

This file defines texts of this shape (`TypeText`).

Results:
1. `TypeText.balanced`, `TypeText.unbroken`, `TypeText.members_eq`: every search goes over them.
2. `TypeRef.typeText_of_readChars?`: what is read as a type is such a text.
3. `TypeRef.readChars?_behind_word`: behind another word it is no longer a type.
-/

namespace SqlPreview

namespace Source

/-! ## Texts with matching brackets -/

/-- What a type is made of, apart from brackets and commas. -/
def isTypeChar (c : Char) : Bool := TypeRef.isNameChar c || Text.isBlank c || c == '?'

/-- The brackets of a type match. Outside of them there are no commas, unless it is a list. -/
inductive TypeText : Bool → List Char → Prop
  | nil {listed : Bool} : TypeText listed []
  | char {listed : Bool} {c : Char} {rest : List Char} :
      isTypeChar c = true → TypeText listed rest → TypeText listed (c :: rest)
  | comma {rest : List Char} : TypeText true rest → TypeText true (',' :: rest)
  | group {listed : Bool} {kind : Bracket} {inside rest : List Char} :
      kind ∈ [.square, .angle] → TypeText true inside → TypeText listed rest →
      TypeText listed (kind.opening :: (inside ++ kind.closing :: rest))

theorem unmarked_isTypeChar : Unmarked isTypeChar := show marks.any _ = false by decide

namespace TypeText

variable {listed : Bool} {text : List Char}

theorem of_chars (typed : ∀ c ∈ text, isTypeChar c = true) : TypeText listed text := by
  induction text with
  | nil => exact .nil
  | cons c text ih =>
    obtain ⟨first, typed⟩ := List.forall_mem_cons.1 typed
    exact .char first (ih typed)

theorem of_blank (blank : ∀ c ∈ text, Text.isBlank c = true) : TypeText listed text :=
  .of_chars fun c member => by simp [isTypeChar, blank c member]

theorem of_name (named : ∀ c ∈ text, TypeRef.isNameChar c = true) : TypeText listed text :=
  .of_chars fun c member => by simp [isTypeChar, named c member]

theorem append (shaped : TypeText listed text) {more : List Char} (behind : TypeText listed more) :
    TypeText listed (text ++ more) := by
  induction shaped with
  | nil => exact behind
  | char typed _ ih => exact .char typed (ih behind)
  | comma _ ih => exact .comma (ih behind)
  | group one inside _ _ ih =>
    rw [List.cons_append, List.append_assoc, List.cons_append]
    exact .group one inside (ih behind)

theorem asList (shaped : TypeText listed text) : TypeText true text := by
  induction shaped with
  | nil => exact .nil
  | char typed _ ih => exact .char typed ih
  | comma _ ih => exact .comma ih
  | group one inside _ _ ih => exact .group one inside ih

theorem balanced (shaped : TypeText listed text) : Balanced groups text := by
  induction shaped with
  | nil => exact .nil
  | char typed _ ih =>
    exact .char (unmarked_isTypeChar.isQuote_eq_false typed)
      (fun kind _ => unmarked_isTypeChar.ne_bracket typed kind) ih
  | comma _ ih => exact .char (by decide) (by decide) ih
  | @group _ kind _ _ one _ _ ihInside ih =>
    have group : kind ∈ groups := List.mem_cons_of_mem _ one
    exact .group kind group ihInside ih

theorem unbroken (shaped : TypeText listed text) : Unbroken text := by
  induction shaped with
  | nil => exact .nil
  | char typed _ ih =>
    obtain ⟨quote, opening, closing, semicolon⟩ := unmarked_isTypeChar.inStatement typed
    exact .char quote opening closing semicolon ih
  | comma _ ih => exact .char (by decide) (by decide) (by decide) (by decide) ih
  | @group _ kind inside rest one _ _ ihInside ih =>
    have bracket {c : Char} (isOne : c ∈ [kind.opening, kind.closing]) :
        isQuote c = false ∧ c ≠ '{' ∧ c ≠ '}' ∧ c ≠ ';' := by
      simp only [List.mem_cons, List.not_mem_nil, or_false] at one isOne
      obtain rfl | rfl := one <;> obtain rfl | rfl := isOne <;> decide
    obtain ⟨quote, opening, closing, semicolon⟩ := bracket (c := kind.opening) (by simp)
    obtain ⟨quote', opening', closing', semicolon'⟩ := bracket (c := kind.closing) (by simp)
    exact .char quote opening closing semicolon
      (ihInside.append (.char quote' opening' closing' semicolon' ih))

theorem not_mem (shaped : TypeText listed text) {d : Char} (other : isTypeChar d = false)
    (apart : d ∉ [',', '[', ']', '<', '>']) : d ∉ text := by
  induction shaped with
  | nil => exact List.not_mem_nil
  | char typed _ ih => exact List.mem_cons.not.2 (not_or.2 ⟨(ne_of_class typed other).symm, ih⟩)
  | comma _ ih => exact List.mem_cons.not.2 (not_or.2 ⟨fun same => apart (by simp [same]), ih⟩)
  | @group _ kind _ _ one _ _ ihInside ih =>
    have bracket {c : Char} (isOne : c ∈ [kind.opening, kind.closing]) : d ≠ c := by
      simp only [List.mem_cons, List.not_mem_nil, or_false] at one isOne
      rintro rfl
      obtain rfl | rfl := one <;> obtain rfl | rfl := isOne <;> exact apart (by decide)
    simp only [List.mem_cons, List.mem_append, not_or]
    exact ⟨bracket (by simp), ihInside, bracket (by simp), ih⟩

/-- A type stays in one member of a list. -/
theorem members_eq (shaped : TypeText false text) (rest : List Char) :
    members (text ++ rest) = ontoFirst text (members rest) := by
  generalize same : false = listed at shaped
  induction shaped with
  | nil => rfl
  | @char _ c text typed _ ih =>
    have plain : ∀ d ∈ [c], isQuote d = false ∧
        (∀ kind ∈ groups, d ≠ kind.opening ∧ d ≠ kind.closing) ∧ d ≠ ',' :=
      List.forall_mem_singleton.2 (unmarked_isTypeChar.inMember typed)
    exact (members_plain plain (text ++ rest)).trans (congrArg (ontoFirst [c]) (ih same))
  | comma => cases same
  | @group _ kind inside text one inner _ _ ih =>
    have group : kind ∈ groups := List.mem_cons_of_mem _ one
    have whole : kind.opening :: (inside ++ kind.closing :: text) =
        (kind.opening :: (inside ++ [kind.closing])) ++ text := by simp
    have step := listPieces_group group inner.balanced 0 (text ++ rest)
    rw [whole, ontoFirst_append, ← ih same, List.append_assoc, List.cons_append, List.append_assoc]
    exact step

end TypeText

end Source

/-! ## What is read as a type -/

namespace TypeRef

open Source (Bracket TypeText isTypeChar)

variable {text : List Char}

theorem trimStart_of_symbol? {c : Char} {taken : Taken text Unit} (found : symbol? c text = some taken) :
    Text.trimStart text = c :: taken.rest := by
  unfold symbol? at found
  split at found
  · next d rest first =>
    split at found
    · next equal =>
      cases found
      obtain rfl := eq_of_beq equal
      exact first
    · cases found
  · cases found

theorem exists_of_symbol? {c : Char} {taken : Taken text Unit} (found : symbol? c text = some taken) :
    ∃ gap, (∀ b ∈ gap, Text.isBlank b = true) ∧ text = gap ++ c :: taken.rest := by
  obtain ⟨gap, blank, same⟩ := Text.exists_trimStart text
  exact ⟨gap, blank, by rw [← trimStart_of_symbol? found, ← same]⟩

theorem exists_of_keyword? {word rest : List Char} (found : keyword? word text = some rest) :
    ∃ gap, (∀ b ∈ gap, Text.isBlank b = true) ∧ text = gap ++ (word ++ rest) := by
  obtain ⟨gap, blank, same⟩ := Text.exists_trimStart text
  refine ⟨gap, blank, ?_⟩
  have begins : Text.dropStart? word (Text.trimStart text) = some rest := by
    unfold keyword? at found
    split at found
    · cases found
    · next first =>
      split at found
      · split at found
        · cases found
        · cases found
          exact first
      · cases found
        exact first
  rw [← Text.dropStart?_eq_some.1 begins, ← same]

theorem trimStart_of_name? {taken : Taken text String} (found : name? text = some taken) :
    Text.trimStart text = taken.value.toList ++ taken.rest := by
  unfold name? at found
  split at found
  · cases found
  · next c name rest split =>
    cases found
    have whole := splitName_append (Text.trimStart text)
    rw [split] at whole
    rw [String.toList_ofList, whole]

/-- A text that begins with the text of a type, or of a list of types, and goes on with the rest. -/
def Shaped (listed : Bool) (text rest : List Char) : Prop :=
  ∃ taken, text = taken ++ rest ∧ TypeText listed taken

namespace Shaped

variable {listed : Bool} {middle rest : List Char}

theorem refl (text : List Char) : Shaped listed text text := ⟨[], rfl, .nil⟩

theorem trans (first : Shaped listed text middle) (second : Shaped listed middle rest) :
    Shaped listed text rest := by
  obtain ⟨taken, rfl, shaped⟩ := first
  obtain ⟨more, rfl, shaped'⟩ := second
  exact ⟨taken ++ more, (List.append_assoc ..).symm, shaped.append shaped'⟩

theorem asList (shaped : Shaped listed text rest) : Shaped true text rest := by
  obtain ⟨taken, same, shaped⟩ := shaped
  exact ⟨taken, same, shaped.asList⟩

theorem of_blank {gap : List Char} (blank : ∀ b ∈ gap, Text.isBlank b = true) :
    Shaped listed (gap ++ rest) rest := ⟨gap, rfl, .of_blank blank⟩

/-- Between two symbols that are brackets there may be a list of types. -/
theorem group (kind : Bracket) (one : kind ∈ [.square, .angle])
    {opened : Taken text Unit} (opens : symbol? kind.opening text = some opened)
    (inside : Shaped true opened.rest middle)
    {closed : Taken middle Unit} (closes : symbol? kind.closing middle = some closed) :
    Shaped listed text closed.rest := by
  obtain ⟨gap, blank, same⟩ := exists_of_symbol? opens
  obtain ⟨gap', blank', same'⟩ := exists_of_symbol? closes
  obtain ⟨taken, cut, shaped⟩ := inside
  refine ⟨gap ++ kind.opening :: ((taken ++ gap') ++ [kind.closing]), ?_, ?_⟩
  · rw [same, cut]
    conv_lhs => rw [same']
    simp
  · exact (TypeText.of_blank blank).append (.group one (shaped.append (.of_blank blank')) .nil)

theorem symbol {c : Char} (typed : isTypeChar c = true) {taken : Taken text Unit}
    (found : symbol? c text = some taken) : Shaped listed text taken.rest := by
  obtain ⟨gap, blank, same⟩ := exists_of_symbol? found
  exact ⟨gap ++ [c], by simpa using same, (TypeText.of_blank blank).append (.char typed .nil)⟩

theorem comma {taken : Taken text Unit} (found : symbol? ',' text = some taken) :
    Shaped true text taken.rest := by
  obtain ⟨gap, blank, same⟩ := exists_of_symbol? found
  exact ⟨gap ++ [','], by simpa using same, (TypeText.of_blank blank).append (.comma .nil)⟩

end Shaped

theorem shaped_of_keyword? {word rest : List Char} (named : ∀ c ∈ word, isNameChar c = true)
    (found : keyword? word text = some rest) : Shaped false text rest := by
  obtain ⟨gap, blank, same⟩ := exists_of_keyword? found
  exact ⟨gap ++ word, by rw [same, List.append_assoc], (TypeText.of_blank blank).append (.of_name named)⟩

theorem shaped_of_name? {taken : Taken text String} (found : name? text = some taken) :
    Shaped false text taken.rest := by
  obtain ⟨gap, blank, same⟩ := Text.exists_trimStart text
  exact ⟨gap ++ taken.value.toList, by rw [List.append_assoc, ← trimStart_of_name? found, ← same],
    (TypeText.of_blank blank).append (.of_name (isTypeName_of_name? found).each)⟩

theorem shaped_of_dims? {text : List Char}
    {result : Nat × { rest : List Char // rest.length ≤ text.length }}
    (found : dims? text = some result) : Shaped false text result.2.val := by
  rw [dims?] at found
  split at found
  · next opened opens =>
    obtain ⟨closed, closes, found⟩ := Option.bind_eq_some_iff.1 found
    obtain ⟨⟨count, rest⟩, read, ⟨⟩⟩ := Option.bind_eq_some_iff.1 found
    have := Nat.lt_trans closed.shorter opened.shorter
    exact (Shaped.group .square (by decide) opens (.refl _) closes).trans (shaped_of_dims? read)
  · split at found
    · next one first =>
      obtain ⟨two, second, found⟩ := Option.bind_eq_some_iff.1 found
      obtain ⟨three, third, found⟩ := Option.bind_eq_some_iff.1 found
      obtain ⟨⟨count, rest⟩, read, ⟨⟩⟩ := Option.bind_eq_some_iff.1 found
      have := Nat.lt_trans three.shorter (Nat.lt_trans two.shorter one.shorter)
      have point : isTypeChar '.' = true := by decide
      exact ((Shaped.symbol point first).trans ((Shaped.symbol point second).trans
        (.symbol point third))).trans (shaped_of_dims? read)
    · cases found
      exact .refl _
termination_by text.length

mutual

theorem shaped_of_type? {text : List Char} {taken : Taken text TypeRef}
    (found : type? text = some taken) : Shaped false text taken.rest := by
  rw [type?] at found
  split at found
  · next wildcard asks =>
    have sign : Shaped false text wildcard.rest := .symbol (by decide) asks
    split at found
    · next bound keyword =>
      have shorter : bound.length < text.length :=
        Nat.lt_of_le_of_lt (length_keyword?_le keyword) wildcard.shorter
      obtain ⟨type, read, rfl⟩ := Option.map_eq_some_iff.1 found
      have inner : Shaped false bound type.rest := shaped_of_type? read
      exact sign.trans ((shaped_of_keyword? (List.all_eq_true.1 (by decide +kernel)) keyword).trans
        inner)
    · split at found
      · next bound keyword =>
        have shorter : bound.length < text.length :=
          Nat.lt_of_le_of_lt (length_keyword?_le keyword) wildcard.shorter
        obtain ⟨type, read, rfl⟩ := Option.map_eq_some_iff.1 found
        have inner : Shaped false bound type.rest := shaped_of_type? read
        exact sign.trans ((shaped_of_keyword? (List.all_eq_true.1 (by decide +kernel)) keyword).trans
          inner)
      · cases found
        exact sign
  · split at found
    · cases found
    · next name named =>
      have begins := shaped_of_name? named
      split at found
      · obtain ⟨⟨count, rest⟩, read, ⟨⟩⟩ := Option.bind_eq_some_iff.1 found
        exact begins.trans (shaped_of_dims? read)
      · next opened opens =>
        have shorter : opened.rest.length < text.length :=
          Nat.lt_trans opened.shorter name.shorter
        split at found
        · next closed closes =>
          obtain ⟨⟨count, rest⟩, read, ⟨⟩⟩ := Option.bind_eq_some_iff.1 found
          exact begins.trans ((Shaped.group .angle (by decide) opens (.refl _) closes).trans
            (shaped_of_dims? read))
        · obtain ⟨args, read, found⟩ := Option.bind_eq_some_iff.1 found
          obtain ⟨⟨count, rest⟩, read', ⟨⟩⟩ := Option.bind_eq_some_iff.1 found
          obtain ⟨middle, closed, inside, closes, same⟩ := shaped_of_args? read
          have group : Shaped false name.rest closed.rest :=
            .group .angle (by decide) opens inside closes
          rw [← same] at group
          exact begins.trans (group.trans (shaped_of_dims? read'))
termination_by (text.length, 0)

/-- Arguments are a list of types up to an angle bracket. -/
theorem shaped_of_args? {text : List Char} {taken : Taken text (List TypeRef)}
    (found : args? text = some taken) : ∃ (middle : List Char) (closed : Taken middle Unit),
      Shaped true text middle ∧ symbol? '>' middle = some closed ∧ taken.rest = closed.rest := by
  rw [args?] at found
  obtain ⟨arg, read, found⟩ := Option.bind_eq_some_iff.1 found
  have first := shaped_of_type? read
  split at found
  · next comma parts =>
    have shorter : comma.rest.length < text.length := Nat.lt_trans comma.shorter arg.shorter
    obtain ⟨others, read', ⟨⟩⟩ := Option.bind_eq_some_iff.1 found
    obtain ⟨middle, closed, inside, closes, same⟩ := shaped_of_args? read'
    exact ⟨middle, closed, first.asList.trans ((Shaped.comma parts).trans inside), closes, same⟩
  · obtain ⟨closed, closes, ⟨⟩⟩ := Option.bind_eq_some_iff.1 found
    exact ⟨arg.rest, closed, first.asList, closes, rfl⟩
termination_by (text.length, 1)

end

theorem readChars?_eq_some_iff {type : TypeRef} : readChars? text = some type ↔
    ∃ taken, type? (Text.trim text) = some taken ∧ Text.trimStart taken.rest = [] ∧
      taken.value = type := by
  unfold readChars?
  split
  · next taken read => simp [read]
  · next none => simp [none]

theorem type?_of_readChars? {type : TypeRef} (found : readChars? text = some type) :
    ∃ taken, type? (Text.trim text) = some taken ∧ Text.trimStart taken.rest = [] := by
  obtain ⟨taken, read, ends, -⟩ := readChars?_eq_some_iff.1 found
  exact ⟨taken, read, ends⟩

theorem readChars?_trim (text : List Char) : readChars? (Text.trim text) = readChars? text := by
  ext type
  rw [readChars?_eq_some_iff, readChars?_eq_some_iff, Text.trim_trim]

/-- What is read as a type has the shape of one. -/
theorem typeText_of_readChars? {type : TypeRef} (found : readChars? text = some type) :
    TypeText false text := by
  obtain ⟨before, after, blank, blank', same⟩ := Text.exists_trim text
  obtain ⟨taken, read, ends⟩ := type?_of_readChars? found
  obtain ⟨written, cut, shaped⟩ := shaped_of_type? read
  rw [same, cut]
  exact (TypeText.of_blank blank).append
    ((shaped.append (.of_blank (List.dropWhile_eq_nil_iff.1 ends))).append (.of_blank blank'))

/-! ## A word and a type are no type -/

theorem dims?_single_point {text point : List Char} (begins : Text.trimStart point = '.' :: text)
    (single : (Text.trimStart text).head? ≠ some '.') : dims? point = none := by
  obtain ⟨first, opens, -, same⟩ := reads_symbol '.' text point begins
  have noBracket : symbol? '[' point = none := symbol?_eq_none (by simp [begins])
  have second : symbol? '.' first.rest = none := symbol?_eq_none (same ▸ single)
  rw [dims?, noBracket, opens]
  simp [second]

/-- Behind one point the points of dimensions no longer come in threes. -/
theorem dims?_behind_point {text point : List Char}
    {result : Nat × { rest : List Char // rest.length ≤ text.length }}
    (found : dims? text = some result) (ends : Text.trimStart result.2.val = [])
    (begins : Text.trimStart point = '.' :: text) : dims? point = none := by
  obtain ⟨first, opens, -, same⟩ := reads_symbol '.' text point begins
  have noBracket : symbol? '[' point = none := symbol?_eq_none (by simp [begins])
  rw [dims?, noBracket, opens]
  cases second : symbol? '.' first.rest with
  | none => simp [second]
  | some two =>
    cases third : symbol? '.' two.rest with
    | none => simp [second, third]
    | some three =>
      have inText : Text.trimStart text = '.' :: two.rest :=
        (congrArg Text.trimStart same).symm.trans (trimStart_of_symbol? second)
      obtain ⟨one, found₁, -, same₁⟩ := reads_symbol '.' two.rest text inText
      have noBracket' : symbol? '[' text = none := symbol?_eq_none (by simp [inText])
      rw [dims?, noBracket', found₁] at found
      obtain ⟨two', found₂, found⟩ := Option.bind_eq_some_iff.1 found
      obtain ⟨three', found₃, found⟩ := Option.bind_eq_some_iff.1 found
      obtain ⟨⟨count, rest⟩, read, ⟨⟩⟩ := Option.bind_eq_some_iff.1 found
      have shorter := Nat.lt_trans three'.shorter (Nat.lt_trans two'.shorter one.shorter)
      have same₂ : two'.rest = three.rest := by
        have begins₂ := (congrArg Text.trimStart same₁).symm.trans (trimStart_of_symbol? found₂)
        exact List.tail_eq_of_cons_eq (begins₂.symm.trans (trimStart_of_symbol? third))
      have none : dims? three.rest = none :=
        dims?_behind_point read ends
          ((congrArg Text.trimStart same₂).symm.trans (trimStart_of_symbol? found₃))
      simp [second, third, none]
termination_by text.length

/-- A type begins with a question mark or a name, which arguments or dimensions follow. -/
theorem type?_cases {taken : Taken text TypeRef} (found : type? text = some taken) :
    (∃ wildcard, symbol? '?' text = some wildcard) ∨
      ∃ name, name? text = some name ∧ ((∃ opened, symbol? '<' name.rest = some opened) ∨
        ∃ dims, dims? name.rest = some dims ∧ dims.2.val = taken.rest) := by
  rw [type?] at found
  split at found
  · next wildcard asks => exact .inl ⟨wildcard, asks⟩
  · split at found
    · cases found
    · next name named =>
      refine .inr ⟨name, named, ?_⟩
      split at found
      · obtain ⟨dims, read, ⟨⟩⟩ := Option.bind_eq_some_iff.1 found
        exact .inr ⟨dims, read, rfl⟩
      · next opened opens => exact .inl ⟨opened, opens⟩

theorem exists_cons_of_type? {taken : Taken text TypeRef} (found : type? text = some taken) :
    ∃ c rest, Text.trimStart text = c :: rest ∧ (c = '?' ∨ isNameChar c = true) := by
  obtain ⟨wildcard, asks⟩ | ⟨name, named, -⟩ := type?_cases found
  · exact ⟨_, _, trimStart_of_symbol? asks, .inl rfl⟩
  · obtain ⟨nonempty, each, -⟩ := isTypeName_of_name? named
    obtain ⟨c, more, letters⟩ := List.exists_cons_of_ne_nil nonempty
    exact ⟨c, more ++ name.rest, by rw [trimStart_of_name? named, letters, List.cons_append],
      .inr (each c (letters ▸ List.mem_cons_self))⟩

/-- No type is made of dimensions alone. -/
theorem trimStart_ne_nil_of_dims? {taken : Taken text TypeRef} (found : type? text = some taken)
    (ends : Text.trimStart taken.rest = []) {behind : List Char}
    (begins : Text.trimStart behind = text)
    {result : Nat × { rest : List Char // rest.length ≤ behind.length }}
    (read : dims? behind = some result) : Text.trimStart result.2.val ≠ [] := by
  have solid : Text.trimStart text = text := begins ▸ (Text.startsSolid_trimStart behind).trimStart_eq
  -- Where no dimension begins, none is read, and all of the type is left.
  have plain (bracket : text.head? ≠ some '[') (point : text.head? ≠ some '.') (more : text ≠ []) :
      Text.trimStart result.2.val ≠ [] := by
    rw [← begins] at bracket point
    rw [dims?, symbol?_eq_none bracket, symbol?_eq_none point] at read
    cases read
    rwa [begins]
  obtain ⟨wildcard, asks⟩ | ⟨name, named, rest⟩ := type?_cases found
  · have first := trimStart_of_symbol? asks
    rw [solid] at first
    exact plain (by simp [first]) (by simp [first]) (by simp [first])
  · have begin := trimStart_of_name? named
    rw [solid] at begin
    obtain ⟨-, each, apart⟩ := isTypeName_of_name? named
    obtain ⟨c, more, letters⟩ := List.exists_cons_of_ne_nil (isTypeName_of_name? named).ne_nil
    rw [letters] at begin each apart
    by_cases point : c = '.'
    · subst point
      suffices none : dims? behind = none by
        rw [none] at read
        cases read
      have pointed : Text.trimStart behind = '.' :: (more ++ name.rest) := begins.trans begin
      cases more with
      | nil =>
        obtain ⟨opened, opens⟩ | ⟨dims, rest, same⟩ := rest
        · exact dims?_single_point pointed (by simp [trimStart_of_symbol? opens])
        · exact dims?_behind_point rest (same ▸ ends) pointed
      | cons d more =>
        have named : isNameChar d = true := each d (by simp)
        have other : d ≠ '.' := fun isPoint =>
          (List.isChain_cons_cons.1 apart).1 ⟨rfl, isPoint⟩
        refine dims?_single_point pointed ?_
        rw [List.cons_append, trimStart_cons (isBlank_of_isNameChar named)]
        simpa using other
    · have named : isNameChar c = true := each c List.mem_cons_self
      have bracket : c ≠ '[' := by
        rintro rfl
        exact absurd named (by decide)
      exact plain (by simpa [begin] using bracket) (by simpa [begin] using point) (by simp [begin])

/-- A word in front of a type makes it none. -/
theorem readChars?_behind_word {word : String} {gap : List Char}
    (letters : IsTypeName word.toList)
    (blank : ∀ c ∈ gap, Text.isBlank c = true) (apart : gap ≠ []) {type : TypeRef}
    (found : readChars? text = some type) : readChars? (word.toList ++ (gap ++ text)) = none := by
  obtain ⟨taken, read, ends⟩ := type?_of_readChars? found
  have solid := (Text.startsSolid_trim text).trimStart_eq
  obtain ⟨c, rest, first, begins⟩ := exists_cons_of_type? read
  rw [solid] at first
  have present : Text.trim text ≠ [] := first ▸ List.cons_ne_nil c rest
  obtain ⟨before, blank', trimEnd⟩ := Text.exists_trimEnd_eq present
  have gaps : ∀ b ∈ gap ++ before, Text.isBlank b = true := List.forall_mem_append.2 ⟨blank, blank'⟩
  have inner : Text.trimStart ((gap ++ before) ++ Text.trim text) = Text.trim text := by
    rw [Text.trimStart_append_blank gaps, solid]
  obtain ⟨d, more, start⟩ := List.exists_cons_of_ne_nil letters.ne_nil
  have named : isNameChar d = true := letters.each d (start ▸ List.mem_cons_self)
  have whole : Text.trim (word.toList ++ (gap ++ text)) =
      word.toList ++ ((gap ++ before) ++ Text.trim text) := by
    have trimStart : Text.trimStart (word.toList ++ (gap ++ text)) = word.toList ++ (gap ++ text) := by
      rw [start, List.cons_append]
      exact trimStart_cons (isBlank_of_isNameChar named) _
    have nonempty : Text.trimEnd text ≠ [] := by simp [trimEnd, present]
    rw [Text.trim, trimStart, ← List.append_assoc, Text.trimEnd_append _ nonempty, trimEnd]
    simp only [List.append_assoc]
  have starts : Text.trimStart (Text.trim (word.toList ++ (gap ++ text))) =
      word.toList ++ ((gap ++ before) ++ Text.trim text) := by
    rw [(Text.startsSolid_trim _).trimStart_eq, whole]
  have stops : EndsName ((gap ++ before) ++ Text.trim text) := by
    obtain ⟨b, gap, rfl⟩ := List.exists_cons_of_ne_nil apart
    refine endsName_cons (Bool.eq_false_of_not_eq_true fun named => ?_) _
    exact absurd (blank b List.mem_cons_self) (by simp [isBlank_of_isNameChar named])
  obtain ⟨name, taken₁, -, behind⟩ := reads_name letters stops _ starts
  have inner' : Text.trimStart name.rest = Text.trim text := by rw [behind, inner]
  rw [Option.eq_none_iff_forall_ne_some]
  intro other accepted
  obtain ⟨taken', read', ends'⟩ := type?_of_readChars? accepted
  obtain ⟨wildcard, asks⟩ | ⟨name', taken₂, ⟨opened, opens⟩ | ⟨dims, read₂, same⟩⟩ :=
    type?_cases read'
  · have sign := starts.symm.trans (trimStart_of_symbol? asks)
    obtain rfl : d = '?' := List.head_eq_of_cons_eq ((congrArg (· ++ _) start).symm.trans sign)
    exact absurd named (by decide)
  · obtain rfl := Option.some.inj (taken₂.symm.trans taken₁)
    have bracket := (first.symm.trans inner'.symm).trans (trimStart_of_symbol? opens)
    obtain rfl := List.head_eq_of_cons_eq bracket
    exact absurd begins (by decide)
  · obtain rfl := Option.some.inj (taken₂.symm.trans taken₁)
    exact trimStart_ne_nil_of_dims? read ends inner' read₂ (same ▸ ends')

end TypeRef

end SqlPreview
