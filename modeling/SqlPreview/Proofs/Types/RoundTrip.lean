import Mathlib
import SqlPreview.Proofs.Text.Blank
import SqlPreview.Types.Reader

/-!
# Reading what types print

A type that was read from any text is read again from its own text. The text of a type has neither
wildcards nor variable arguments, which the reader has turned into bounds and dimensions, but its
names may be odd: they may begin with a digit, or begin and end with a point.

This file defines the types that can be read (`TypeRef.Legible`).

Results:
1. `TypeRef.legible_of_type?`: what is read is legible.
2. `TypeRef.readBack`: a legible type is read from the front of its text, whatever may follow it.
3. `TypeRef.exists_read?_iff`: the legible types are all that can be read.
4. `TypeRef.reread_from_text`: a type that was read is read again from its text.
-/

namespace SqlPreview

/-! ## Names are no white space -/

namespace Text

/-- The code points in some ranges, one by one. -/
def Ranges.points (ranges : Ranges) : List Nat :=
  ranges.flatMap fun range => List.range' range.1 (range.2 + 1 - range.1)

theorem Ranges.mem_points {ranges : Ranges} {c : Char} (held : ranges.holds c = true) :
    c.toNat ∈ ranges.points := by
  obtain ⟨range, member, low, high⟩ := (ranges.holds_iff c).1 held
  exact List.mem_flatMap.2 ⟨range, member, List.mem_range'_1.2 ⟨low, by omega⟩⟩

/-- Characters of a class that no white space is of are none. -/
theorem isBlank_of_apart {named : Char → Bool}
    (apart : ∀ n ∈ blanks.points, named (Char.ofNat n) = false) {c : Char}
    (member : named c = true) : isBlank c = false := by
  by_contra blank
  have none := apart c.toNat (Ranges.mem_points (Bool.eq_true_of_not_eq_false blank))
  rw [Char.ofNat_toNat, member] at none
  cases none

end Text

namespace TypeRef

open Text (trimStart isBlank StartsSolid)

/-- No white space is alphanumeric: the ranges do not meet. -/
theorem isBlank_of_isNameChar {c : Char} (named : isNameChar c = true) : isBlank c = false :=
  Text.isBlank_of_apart (by decide +kernel) named

/-! ## Legible types -/

/-- A name is made of name characters, of which no two neighbours are points. -/
structure IsTypeName (name : List Char) : Prop where
  ne_nil : name ≠ []
  each : ∀ c ∈ name, isNameChar c = true
  apart : name.IsChain fun c d => ¬ (c = '.' ∧ d = '.')

/-- A type of which all names can be read. -/
inductive Legible : TypeRef → Prop
  | of {name : String} {args : List TypeRef} {dims : Nat} : IsTypeName name.toList →
      (∀ arg ∈ args, Legible arg) → Legible ⟨name, args, dims⟩

/-! ## What is read is legible -/

theorem splitName_each (text : List Char) : ∀ c ∈ (splitName text).1, isNameChar c = true := by
  fun_induction splitName text with
  | case1 | case2 | case4 => intro c member; cases member
  | case3 c rest pair named name after split ih =>
    rw [split] at ih
    exact List.forall_mem_cons.2 ⟨named, ih⟩

/-- A name stops before two points, so that a point in it is never followed by another one. -/
theorem splitName_apart (text : List Char) :
    (splitName text).1.IsChain fun c d => ¬ (c = '.' ∧ d = '.') := by
  fun_induction splitName text with
  | case1 | case2 | case4 => exact .nil
  | case3 c rest pair named name after split ih =>
    rw [split] at ih
    have whole := splitName_append rest
    rw [split] at whole
    refine List.isChain_cons.2 ⟨?_, ih⟩
    rintro d head ⟨rfl, rfl⟩
    cases name with
    | nil => cases head
    | cons e name =>
      cases head
      exact pair _ rfl whole.symm

theorem isTypeName_of_name? {text : List Char} {taken : Taken text String}
    (found : name? text = some taken) : IsTypeName taken.value.toList := by
  unfold name? at found
  split at found
  · cases found
  · next c name rest split =>
    cases found
    rw [String.toList_ofList]
    have each := splitName_each (trimStart text)
    have apart := splitName_apart (trimStart text)
    rw [split] at each apart
    exact ⟨List.cons_ne_nil c name, each, apart⟩

theorem legible_object : object.Legible :=
  .of ⟨by decide, List.all_eq_true.1 (by cbv), by decide⟩ nofun

mutual

/-- A wildcard gives its bound or the type of all objects, everything else has the name that was
read. -/
theorem legible_of_type? {text : List Char} {taken : Taken text TypeRef}
    (found : type? text = some taken) : taken.value.Legible := by
  rw [type?] at found
  split at found
  · next wildcard _ =>
    split at found
    · next bound keyword =>
      have shorter : bound.length < text.length :=
        Nat.lt_of_le_of_lt (length_keyword?_le keyword) wildcard.shorter
      obtain ⟨type, read, rfl⟩ := Option.map_eq_some_iff.1 found
      have inner : type.value.Legible := legible_of_type? read
      exact inner
    · split at found
      · obtain ⟨type, read, rfl⟩ := Option.map_eq_some_iff.1 found
        exact legible_object
      · cases found
        exact legible_object
  · split at found
    · cases found
    · next name named =>
      have formed := isTypeName_of_name? named
      split at found
      · obtain ⟨dims, -, ⟨⟩⟩ := Option.bind_eq_some_iff.1 found
        exact .of formed nofun
      · next opened _ =>
        have shorter : opened.rest.length < text.length :=
          Nat.lt_trans opened.shorter name.shorter
        split at found
        · obtain ⟨dims, -, ⟨⟩⟩ := Option.bind_eq_some_iff.1 found
          exact .of formed nofun
        · obtain ⟨args, read, found⟩ := Option.bind_eq_some_iff.1 found
          obtain ⟨dims, -, ⟨⟩⟩ := Option.bind_eq_some_iff.1 found
          exact .of formed (legible_of_args? read)
termination_by (text.length, 0)

theorem legible_of_args? {text : List Char} {taken : Taken text (List TypeRef)}
    (found : args? text = some taken) : ∀ arg ∈ taken.value, arg.Legible := by
  rw [args?] at found
  obtain ⟨arg, read, found⟩ := Option.bind_eq_some_iff.1 found
  have first := legible_of_type? read
  split at found
  · next comma _ =>
    have shorter : comma.rest.length < text.length := Nat.lt_trans comma.shorter arg.shorter
    obtain ⟨others, read', ⟨⟩⟩ := Option.bind_eq_some_iff.1 found
    exact List.forall_mem_cons.2 ⟨first, legible_of_args? read'⟩
  · obtain ⟨closed, -, ⟨⟩⟩ := Option.bind_eq_some_iff.1 found
    exact List.forall_mem_cons.2 ⟨first, nofun⟩
termination_by (text.length, 1)

end

/-! ## What readers take -/

variable {α : Type} {c : Char} {text name rest : List Char}

/-- On a text that begins like this, apart from white space, the reader takes the value and leaves
the rest. -/
def Reads (reader : (text : List Char) → Option (Taken text α)) (written : List Char) (value : α)
    (rest : List Char) : Prop :=
  ∀ text, trimStart text = written →
    ∃ taken, reader text = some taken ∧ taken.value = value ∧ taken.rest = rest

theorem reads_symbol (c : Char) (rest : List Char) : Reads (symbol? c) (c :: rest) () rest := by
  intro text begins
  unfold symbol?
  split
  · next d more cut =>
    cases cut.symm.trans begins
    exact ⟨_, if_pos BEq.rfl, rfl, rfl⟩
  · next cut => cases cut.symm.trans begins

theorem symbol?_eq_none (other : (trimStart text).head? ≠ some c) : symbol? c text = none := by
  unfold symbol?
  split
  · next d more cut =>
    refine if_neg fun same => other ?_
    rw [cut, eq_of_beq same]
    rfl
  · rfl

/-- A text that begins with a name character begins with no symbol. -/
theorem symbol?_eq_none_of_name {d : Char} (named : isNameChar d = true)
    (begins : trimStart text = d :: rest) (symbol : isNameChar c = false) :
    symbol? c text = none := by
  refine symbol?_eq_none ?_
  rw [begins]
  rintro ⟨⟩
  exact absurd named (by simp [symbol])

/-- A text at which a name ends. -/
def EndsName (rest : List Char) : Prop := ∀ c, rest.head? = some c → isNameChar c = false

theorem endsName_cons (symbol : isNameChar c = false) (rest : List Char) :
    EndsName (c :: rest) := by
  rintro d ⟨⟩
  exact symbol

theorem isNameChar_point : isNameChar '.' = true := by simp [isNameChar]

theorem splitName_cons (single : ¬ (c = '.' ∧ rest.head? = some '.')) :
    splitName (c :: rest) =
      if isNameChar c then (c :: (splitName rest).1, (splitName rest).2) else ([], c :: rest) := by
  rw [splitName.eq_def]
  split
  · contradiction
  · next same =>
    cases same
    exact absurd ⟨rfl, rfl⟩ single
  · next same =>
    cases same
    rfl

theorem splitName_of_ends (ends : EndsName rest) : splitName rest = ([], rest) := by
  cases rest with
  | nil => rfl
  | cons d rest =>
    have other := ends d rfl
    have noPoint : d ≠ '.' := by
      rintro rfl
      rw [isNameChar_point] at other
      contradiction
    rw [splitName_cons fun pair => noPoint pair.1, if_neg (by simp [other])]

theorem splitName_of_name (each : ∀ c ∈ name, isNameChar c = true)
    (apart : name.IsChain fun c d => ¬ (c = '.' ∧ d = '.')) (ends : EndsName rest) :
    splitName (name ++ rest) = (name, rest) := by
  induction name with
  | nil => exact splitName_of_ends ends
  | cons c name ih =>
    obtain ⟨named, others⟩ := List.forall_mem_cons.1 each
    obtain ⟨neighbour, apart⟩ := List.isChain_cons.1 apart
    have single : ¬ (c = '.' ∧ (name ++ rest).head? = some '.') := by
      rintro ⟨point, next⟩
      cases name with
      | nil => exact absurd (ends '.' next) (by simp [isNameChar_point])
      | cons d name => exact neighbour d rfl ⟨point, by simpa using next⟩
    rw [List.cons_append, splitName_cons single, if_pos named, ih others apart]

theorem reads_name {name : String} (formed : IsTypeName name.toList) (ends : EndsName rest) :
    Reads name? (name.toList ++ rest) name rest := by
  intro text begins
  have cut := splitName_of_name formed.each formed.apart ends
  rw [← begins] at cut
  unfold name?
  split
  · next none =>
    obtain ⟨empty, -⟩ := Prod.mk.inj (cut.symm.trans none)
    exact absurd empty formed.ne_nil
  · next d more after found =>
    obtain ⟨same, behind⟩ := Prod.mk.inj (cut.symm.trans found)
    refine ⟨_, rfl, ?_, behind.symm⟩
    exact (congrArg String.ofList same.symm).trans String.ofList_toList

/-! ## Dimensions -/

/-- The text of some dimensions. -/
def brackets (dims : Nat) : List Char := (List.replicate dims ['[', ']']).flatten

/-- A text at which a type ends. -/
def EndsType (rest : List Char) : Prop := ∀ c, rest.head? = some c → c = ',' ∨ c = '>'

theorem brackets_succ (dims : Nat) : brackets (dims + 1) = '[' :: ']' :: brackets dims := by
  rw [brackets, List.replicate_succ]
  rfl

theorem EndsType.trimStart_eq (ends : EndsType rest) : trimStart rest = rest := by
  refine StartsSolid.trimStart_eq fun c head => ?_
  rcases ends c head with rfl | rfl <;> decide

theorem EndsType.symbol?_eq_none (ends : EndsType rest) (comma : c ≠ ',') (closing : c ≠ '>') :
    symbol? c rest = none := by
  refine TypeRef.symbol?_eq_none ?_
  rw [ends.trimStart_eq]
  intro head
  rcases ends c head with same | same
  · exact comma same
  · exact closing same

theorem trimStart_cons (solid : isBlank c = false) (rest : List Char) :
    trimStart (c :: rest) = c :: rest := List.dropWhile_cons_of_neg (by simp [solid])

theorem dims?_brackets (ends : EndsType rest) (dims : Nat) (begins : text = brackets dims ++ rest) :
    ∃ result, dims? text = some result ∧ result.1 = dims ∧ result.2.val = rest := by
  induction dims generalizing text with
  | zero =>
    have same : text = rest := begins
    rw [dims?, same, ends.symbol?_eq_none (by decide) (by decide),
      ends.symbol?_eq_none (by decide) (by decide)]
    exact ⟨_, rfl, rfl, rfl⟩
  | succ dims ih =>
    rw [brackets_succ] at begins
    obtain ⟨opened, found, -, behind⟩ := reads_symbol '[' (']' :: (brackets dims ++ rest)) text
      (begins ▸ trimStart_cons (by decide) _)
    obtain ⟨closed, found', -, behind'⟩ := reads_symbol ']' (brackets dims ++ rest) opened.rest
      (behind ▸ trimStart_cons (by decide) _)
    obtain ⟨result, run, count, behind''⟩ := ih behind'
    rw [dims?, found]
    simp only [found', Option.bind_eq_bind, Option.bind_some, run]
    exact ⟨_, rfl, congrArg (· + 1) count, behind''⟩

/-! ## Types -/

theorem chars_eq (name : String) (args : List TypeRef) (dims : Nat) :
    chars ⟨name, args, dims⟩ =
      name.toList ++ ((if args = [] then [] else '<' :: (argsChars args ++ ['>'])) ++
        brackets dims) := by
  cases args with
  | nil => rfl
  | cons arg args =>
    rw [chars, if_neg (List.cons_ne_nil _ _)]
    simp [brackets]

theorem Legible.exists_cons {type : TypeRef} (legible : type.Legible) :
    ∃ c more, type.chars = c :: more ∧ isNameChar c = true := by
  cases legible with
  | @of name args dims formed each =>
    obtain ⟨c, more, same⟩ := List.exists_cons_of_ne_nil formed.ne_nil
    have named : isNameChar c = true := formed.each c (same ▸ List.mem_cons_self)
    exact ⟨c, _, by rw [chars_eq, same, List.cons_append], named⟩

theorem exists_cons_argsChars {args : List TypeRef} (nonempty : args ≠ [])
    (each : ∀ arg ∈ args, arg.Legible) :
    ∃ c more, argsChars args = c :: more ∧ isNameChar c = true := by
  cases args with
  | nil => contradiction
  | cons arg args =>
    obtain ⟨c, more, same, named⟩ := (each arg List.mem_cons_self).exists_cons
    cases args with
    | nil => exact ⟨c, more, same, named⟩
    | cons next args =>
      exact ⟨c, _, by rw [argsChars, same, List.cons_append], named⟩

/-- A type is read from the front of its text, whatever it is an argument of. -/
def ReadBack (type : TypeRef) : Prop :=
  ∀ rest, EndsType rest → Reads type? (type.chars ++ rest) type rest

theorem reads_args {args : List TypeRef} (nonempty : args ≠ []) (each : ∀ arg ∈ args, arg.Legible)
    (readBack : ∀ arg ∈ args, ReadBack arg) :
    Reads args? (argsChars args ++ '>' :: rest) args rest := by
  induction args with
  | nil => contradiction
  | cons arg args ih =>
    obtain ⟨first, others⟩ := List.forall_mem_cons.1 readBack
    intro text begins
    cases args with
    | nil =>
      obtain ⟨taken, read, value, behind⟩ := first ('>' :: rest) (by simp [EndsType]) text begins
      obtain ⟨closed, found, -, behind'⟩ := reads_symbol '>' rest taken.rest
        (behind ▸ trimStart_cons (by decide) _)
      have noComma : symbol? ',' taken.rest = none := by
        refine symbol?_eq_none ?_
        rw [behind, trimStart_cons (by decide)]
        simp
      rw [args?, read]
      simp only [Option.bind_eq_bind, Option.bind_some, noComma, found]
      exact ⟨_, rfl, congrArg (· :: []) value, behind'⟩
    | cons next args =>
      have each' := (List.forall_mem_cons.1 each).2
      rw [argsChars, List.append_assoc] at begins
      obtain ⟨taken, read, value, behind⟩ := first _ (by simp [EndsType]) text begins
      obtain ⟨comma, found, -, behind'⟩ :=
        reads_symbol ',' (' ' :: (argsChars (next :: args) ++ '>' :: rest)) taken.rest
          (behind ▸ trimStart_cons (by decide) _)
      obtain ⟨c, more, starts, named⟩ := exists_cons_argsChars (List.cons_ne_nil next args) each'
      have gap : trimStart comma.rest = argsChars (next :: args) ++ '>' :: rest := by
        rw [behind', Text.trimStart_cons_blank (by decide), starts]
        exact trimStart_cons (isBlank_of_isNameChar named) _
      obtain ⟨more, read', values, behind''⟩ :=
        ih (List.cons_ne_nil next args) each' others comma.rest gap
      rw [args?, read]
      simp only [Option.bind_eq_bind, Option.bind_some, found, read']
      exact ⟨_, rfl, congrArg₂ List.cons value values, behind''⟩

theorem EndsType.head?_brackets (ends : EndsType rest) (dims : Nat)
    (head : (brackets dims ++ rest).head? = some c) : c = '[' ∨ c = ',' ∨ c = '>' := by
  cases dims with
  | zero => exact .inr (ends c head)
  | succ dims =>
    rw [brackets_succ] at head
    cases head
    exact .inl rfl

theorem EndsType.startsSolid_brackets (ends : EndsType rest) (dims : Nat) :
    StartsSolid (brackets dims ++ rest) := by
  intro c head
  rcases ends.head?_brackets dims head with rfl | rfl | rfl <;> decide

theorem EndsType.endsName (ends : EndsType rest) (dims : Nat) :
    EndsName (brackets dims ++ rest) := by
  intro c head
  rcases ends.head?_brackets dims head with rfl | rfl | rfl <;> decide

/-- A type that begins with a name is no wildcard. -/
theorem IsTypeName.no_wildcard (formed : IsTypeName name) (begins : trimStart text = name ++ rest) :
    symbol? '?' text = none := by
  obtain ⟨d, more, rfl⟩ := List.exists_cons_of_ne_nil formed.ne_nil
  exact symbol?_eq_none_of_name (formed.each d List.mem_cons_self) begins (by decide)

variable {args : List TypeRef} {typeName : String}

/-- A name without arguments ends at its dimensions, or where the type ends. -/
theorem reads_plain (formed : IsTypeName typeName.toList) (ends : EndsType rest) (dims : Nat) :
    Reads type? (typeName.toList ++ (brackets dims ++ rest)) ⟨typeName, [], dims⟩ rest := by
  intro text begins
  have noWildcard := formed.no_wildcard begins
  obtain ⟨found, read, value, behind⟩ := reads_name formed (ends.endsName dims) text begins
  have noArgs : symbol? '<' found.rest = none := by
    refine symbol?_eq_none fun head => ?_
    rw [behind, (ends.startsSolid_brackets dims).trimStart_eq] at head
    rcases ends.head?_brackets dims head with h | h | h <;> cases h
  obtain ⟨result, run, count, behind'⟩ := dims?_brackets ends dims behind
  rw [type?, noWildcard]
  simp only [read, noArgs, Option.bind_eq_bind, Option.bind_some, run]
  exact ⟨_, rfl, by rw [value, count], behind'⟩

theorem reads_generic (formed : IsTypeName typeName.toList) (nonempty : args ≠ [])
    (legible : ∀ arg ∈ args, arg.Legible) (readBack : ∀ arg ∈ args, ReadBack arg)
    (ends : EndsType rest) (dims : Nat) :
    Reads type? (typeName.toList ++ '<' :: (argsChars args ++ '>' :: (brackets dims ++ rest)))
      ⟨typeName, args, dims⟩ rest := by
  intro text begins
  have noWildcard := formed.no_wildcard begins
  obtain ⟨found, read, value, behind⟩ := reads_name formed (endsName_cons (by decide) _) text begins
  obtain ⟨opened, found', -, behind'⟩ :=
    reads_symbol '<' (argsChars args ++ '>' :: (brackets dims ++ rest)) found.rest
      (behind ▸ trimStart_cons (by decide) _)
  obtain ⟨e, more, starts, named⟩ := exists_cons_argsChars nonempty legible
  have gap : trimStart opened.rest = argsChars args ++ '>' :: (brackets dims ++ rest) := by
    rw [behind', starts]
    exact trimStart_cons (isBlank_of_isNameChar named) _
  have noClosing : symbol? '>' opened.rest = none :=
    symbol?_eq_none_of_name named (by rw [gap, starts, List.cons_append]) (by decide)
  obtain ⟨inner, read', values, behind''⟩ := reads_args nonempty legible readBack opened.rest gap
  obtain ⟨result, run, count, left⟩ := dims?_brackets ends dims behind''
  rw [type?, noWildcard]
  simp only [read, found', noClosing, read', Option.bind_eq_bind, Option.bind_some, run]
  exact ⟨_, rfl, by rw [value, values, count], left⟩

theorem readBack (type : TypeRef) (legible : type.Legible) : ReadBack type := by
  induction legible with
  | @of name args dims formed legible ih =>
    intro rest ends
    by_cases bare : args = []
    · subst bare
      rw [chars, List.append_assoc]
      exact reads_plain formed ends dims
    · have generic := reads_generic formed bare legible ih ends dims
      rw [chars_eq, if_neg bare]
      simpa using generic

/-! ## Whole texts -/

/-- The text of a type ends in a name, in a closing angle bracket or in a closing bracket. -/
theorem Legible.startsSolid_reverse {type : TypeRef} (legible : type.Legible) :
    StartsSolid type.chars.reverse := by
  have last (before : List Char) {c : Char} (solid : isBlank c = false) :
      StartsSolid (before ++ [c]).reverse := by
    intro d head
    rw [List.reverse_concat] at head
    cases head
    exact solid
  cases legible with
  | @of name args dims formed each =>
    rw [chars_eq]
    cases dims with
    | succ dims =>
      have ends : brackets (dims + 1) = (brackets dims ++ ['[']) ++ [']'] := by
        simp [brackets, List.replicate_succ']
      rw [ends, ← List.append_assoc, ← List.append_assoc]
      exact last _ (by decide)
    | zero =>
      have none : brackets 0 = [] := rfl
      rw [none, List.append_nil]
      by_cases bare : args = []
      · rw [if_pos bare, List.append_nil, ← List.dropLast_concat_getLast formed.ne_nil]
        exact last _ (isBlank_of_isNameChar (formed.each _ (List.getLast_mem formed.ne_nil)))
      · rw [if_neg bare, ← List.cons_append, ← List.append_assoc]
        exact last _ (by decide)

/-- A legible type is read from its text. -/
theorem read?_text {type : TypeRef} (legible : type.Legible) : read? type.text = some type := by
  obtain ⟨c, more, starts, named⟩ := legible.exists_cons
  have solid : StartsSolid type.chars := by
    rintro d head
    rw [starts] at head
    cases head
    exact isBlank_of_isNameChar named
  have trimmed := Text.trim_of_solid_ends solid legible.startsSolid_reverse
  obtain ⟨taken, read, value, behind⟩ := readBack type legible [] nofun (Text.trim type.chars)
    (by rw [trimmed, solid.trimStart_eq, List.append_nil])
  rw [read?, text, String.toList_ofList, readChars?, read]
  simp only [behind, value]
  rfl

theorem legible_of_read? {text : String} {type : TypeRef} (found : read? text = some type) :
    type.Legible := by
  unfold read? readChars? at found
  split at found
  · next taken read =>
    split at found
    · cases found
      exact legible_of_type? read
    · cases found
  · cases found

/-- The legible types are all that can be read. -/
theorem exists_read?_iff {type : TypeRef} : (∃ text, read? text = some type) ↔ type.Legible :=
  ⟨fun ⟨_, found⟩ => legible_of_read? found, fun legible => ⟨_, read?_text legible⟩⟩

/-- A type that was read from any text is read again from its own text. -/
theorem reread_from_text {text : String} {type : TypeRef} (found : read? text = some type) :
    read? type.text = some type :=
  read?_text (legible_of_read? found)

/-- A wildcard with an upper bound is read as the bound. -/
theorem type?_of_bound {bound : List Char} {taken : Taken bound TypeRef}
    (begins : trimStart text = '?' :: ' ' :: ("extends".toList ++ bound))
    (spaced : bound.head? = some ' ') (read : type? bound = some taken) :
    ∃ whole, type? text = some whole ∧ whole.value = taken.value ∧ whole.rest = taken.rest := by
  obtain ⟨wildcard, found, -, behind⟩ := reads_symbol '?' _ text begins
  have word : trimStart wildcard.rest = "extends".toList ++ bound := by
    rw [behind, Text.trimStart_cons_blank (by decide)]
    exact trimStart_cons (by decide) _
  have keyword : keyword? "extends".toList wildcard.rest = some bound := by
    obtain ⟨rest, rfl⟩ := List.head?_eq_some_iff.1 spaced
    rw [keyword?, Text.dropStart?_eq_some.2 word]
    exact if_neg (by decide)
  rw [type?, found]
  dsimp only
  split
  · next bound' keyword' =>
    cases keyword.symm.trans keyword'
    rw [read]
    exact ⟨_, rfl, rfl, rfl⟩
  · next none => cases none.symm.trans keyword

set_option maxRecDepth 10000 in
/-- Names may end in a point before a bracket, begin with a digit and have letters of any alphabet,
and white space may stand before every symbol. -/
theorem odd_names_reread :
    let odd : TypeRef := ⟨"a.", [⟨".9é", [], 0⟩, ⟨"$", [], 2⟩], 0⟩
    read? " ? extends a. <.9é<>\t,$ ...[]> " = some odd ∧ odd.text = "a.<.9é, $[][]>" ∧
    read? "a.<.9é, $[][]>" = some odd := by
  intro odd
  have bound : type? [' ', 'a', '.', ' ', '<', '.', '9', 'é', '<', '>', '\t', ',', '$', ' ',
      '.', '.', '.', '[', ']', '>'] = some ⟨odd, [], by decide⟩ := by cbv
  have begins : trimStart (Text.trim " ? extends a. <.9é<>\t,$ ...[]> ".toList) =
      '?' :: ' ' :: ("extends".toList ++ [' ', 'a', '.', ' ', '<', '.', '9', 'é', '<', '>', '\t',
        ',', '$', ' ', '.', '.', '.', '[', ']', '>']) := by decide +kernel
  obtain ⟨whole, read, value, behind⟩ := type?_of_bound begins rfl bound
  have found : read? " ? extends a. <.9é<>\t,$ ...[]> " = some odd := by
    rw [read?, readChars?, read]
    simp only [behind, value]
    rfl
  have printed : odd.text = "a.<.9é, $[][]>" := by decide +kernel
  have again := reread_from_text found
  rw [printed] at again
  exact ⟨found, printed, again⟩

end TypeRef

end SqlPreview
