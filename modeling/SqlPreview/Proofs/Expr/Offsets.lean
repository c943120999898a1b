import Mathlib
import SqlPreview.Expr.Token
import SqlPreview.Proofs.Text.Digits

/-!
# Where tokens start

The lexer goes round a loop: in each round it skips a blank or takes a token, and it counts the
bytes that it has behind it. A round takes at least one character, so that the loop ends, and the
bytes are those of whole characters, so that every token starts where a character does.

This file defines:
1. the bytes of a text at which its characters start (`Text.StartsAt`);
2. the loop (`Lexer.Scan`, `Lexer.Scan.next`) and what holds between its rounds
   (`Lexer.Scan.Sound`).

Results:
1. `Lexer.token_takes`: a token takes characters from the front, and as many bytes as they have.
2. `Lexer.Scan.sound_next`, `Lexer.Scan.sound_iterate`: what a round keeps, and what all keep.
3. `Lexer.Scan.exists_ended`: the loop ends after at most one round more than there are characters.
4. `Lexer.offsets_increase`: tokens start at characters, each behind the one before.
-/

namespace SqlPreview

namespace Text

theorem utf8Size_append (text more : List Char) :
    utf8Size (text ++ more) = utf8Size text + utf8Size more := by
  have shift (n : Nat) : more.foldl (fun n c => n + c.utf8Size) n = n + utf8Size more := by
    unfold utf8Size
    induction more generalizing n with
    | nil => rfl
    | cons c more ih =>
      rw [List.foldl_cons, List.foldl_cons, ih, ih (0 + c.utf8Size)]
      omega
  rw [utf8Size, List.foldl_append, shift]
  rfl

theorem utf8Size_singleton (c : Char) : utf8Size [c] = c.utf8Size := Nat.zero_add _

theorem utf8Size_cons (c : Char) (text : List Char) :
    utf8Size (c :: text) = c.utf8Size + utf8Size text := by
  rw [← List.singleton_append, utf8Size_append, utf8Size_singleton]

theorem utf8Size_pos {text : List Char} (some : text ≠ []) : 0 < utf8Size text := by
  obtain ⟨c, rest, rfl⟩ := List.exists_cons_of_ne_nil some
  rw [utf8Size_cons]
  exact Nat.lt_add_right _ c.utf8Size_pos

theorem utf8Size_of_ascii {c : Char} (ascii : c.toNat < 128) : c.utf8Size = 1 :=
  Char.utf8Size_eq_one_iff.2 (UInt32.le_iff_toNat_le.2 (Nat.le_of_lt_succ ascii))

theorem utf8Size_eq_length {text : List Char} (ascii : ∀ c ∈ text, c.toNat < 128) :
    utf8Size text = text.length := by
  induction text with
  | nil => rfl
  | cons c text ih =>
    obtain ⟨first, others⟩ := List.forall_mem_cons.1 ascii
    rw [utf8Size_cons, utf8Size_of_ascii first, ih others, List.length_cons, Nat.add_comm]

/-- A character of the text starts at this byte of it. -/
def StartsAt (text : List Char) (offset : Nat) : Prop :=
  ∃ before c after, text = before ++ c :: after ∧ utf8Size before = offset

end Text

namespace Lexer

open Text

/-! ## Tokens -/

/-- What a number is made of takes one byte each. -/
theorem ascii_of_splitNumber (floating : Bool) (text : List Char) :
    ∀ c ∈ (splitNumber floating text).1, c.toNat < 128 := by
  have ascii {c d : Char} (same : (c == d) = true) (small : d.toNat < 128) : c.toNat < 128 :=
    beq_iff_eq.1 same ▸ small
  have ascii₂ {c d e : Char} (same : (c == d || c == e) = true)
      (small : d.toNat < 128 ∧ e.toNat < 128) : c.toNat < 128 :=
    (Bool.or_eq_true_iff.1 same).elim (ascii · small.1) (ascii · small.2)
  fun_induction splitNumber floating text with
  | case1 | case7 => exact List.forall_mem_nil _
  | case2 floating c rest digit digits isFloating after same ih =>
    rw [same] at ih
    have := (isAsciiDigit_iff c).1 digit
    exact List.forall_mem_cons.2 ⟨by omega, ih⟩
  | case3 floating c rest _ point digits isFloating after same ih =>
    rw [same] at ih
    have isPoint := (Bool.and_eq_true_iff.1 (Bool.and_eq_true_iff.1 point).1).1
    exact List.forall_mem_cons.2 ⟨ascii isPoint (by decide), ih⟩
  | case4 floating c _ mark sign rest signed digits isFloating after same _ ih =>
    rw [same] at ih
    exact List.forall_mem_cons.2 ⟨ascii₂ mark (by decide),
      List.forall_mem_cons.2 ⟨ascii₂ signed (by decide), ih⟩⟩
  | case5 floating c _ mark sign rest _ digits isFloating after same _ ih =>
    rw [same] at ih
    exact List.forall_mem_cons.2 ⟨ascii₂ mark (by decide), ih⟩
  | case6 floating c _ mark _ => exact List.forall_mem_singleton.2 (ascii₂ mark (by decide))

theorem string?_takes {quote : Char} {text : List Char} {body : Taken text (List Char × Nat)}
    (read : string? quote text = some body) :
    ∃ consumed, text = consumed ++ body.rest ∧ utf8Size consumed = body.value.2 := by
  fun_induction string? quote text with
  | case1 | case2 => cases read
  | case3 c escapes escaped rest ih =>
    obtain ⟨inner, within, same⟩ := Option.bind_eq_some_iff.1 read
    cases same
    obtain ⟨consumed, same, size⟩ := ih within
    obtain rfl : c = '\\' := beq_iff_eq.1 escapes
    refine ⟨'\\' :: escaped :: consumed, congrArg ('\\' :: escaped :: ·) same, ?_⟩
    have backslash : '\\'.utf8Size = 1 := rfl
    rw [utf8Size_cons, utf8Size_cons, size, backslash, Nat.add_assoc]
  | case4 c rest _ closes =>
    cases read
    exact ⟨[c], rfl, utf8Size_singleton c⟩
  | case5 c rest _ _ ih =>
    obtain ⟨inner, within, same⟩ := Option.bind_eq_some_iff.1 read
    cases same
    obtain ⟨consumed, same, size⟩ := ih within
    exact ⟨c :: consumed, congrArg (c :: ·) same, by rw [utf8Size_cons, size]⟩

theorem size_double? {c d : Char} {s : Symbol} (spelled : Symbol.double? c d = some s) :
    utf8Size [c, d] = 2 := by
  unfold Symbol.double? at spelled
  split at spelled <;> first | rfl | cases spelled

theorem size_single? {c : Char} {s : Symbol} (spelled : Symbol.single? c = some s) :
    utf8Size [c] = 1 := by
  unfold Symbol.single? at spelled
  split at spelled <;> first | rfl | cases spelled

theorem size_suffix {c : Char} (suffix : isSuffix c = true) : utf8Size [c] = 1 := by
  have letter : c ∈ ['l', 'L', 'd', 'D', 'f', 'F', 'b', 'B', 'h', 'H'] := by
    simpa [isSuffix] using suffix
  have each : ∀ c ∈ ['l', 'L', 'd', 'D', 'f', 'F', 'b', 'B', 'h', 'H'], c.toNat < 128 := by simp
  exact utf8Size_eq_length (List.forall_mem_singleton.2 (each c letter))

/-- A token takes characters from the front of the text, and the bytes that they have. -/
theorem token_takes {c : Char} {rest : List Char} {taken : Taken (c :: rest) (Token × Nat)}
    (read : token c rest = .ok taken) :
    ∃ consumed, c :: rest = consumed ++ taken.rest ∧ utf8Size consumed = taken.value.2 := by
  rw [token.eq_def] at read
  split at read
  · -- A word.
    dsimp only at read
    generalize (if c == '#' then rest.takeWhile continuesWord
      else c :: rest.takeWhile continuesWord) = spelled at read
    split at read <;> cases read
    refine ⟨c :: rest.takeWhile continuesWord, ?_, rfl⟩
    rw [List.cons_append, List.takeWhile_append_dropWhile]
  split at read
  · -- A number.
    split at read
    next digits isFloating after found =>
      have same := splitNumber_append false (c :: rest)
      have size := utf8Size_eq_length (ascii_of_splitNumber false (c :: rest))
      rw [found] at same size
      dsimp only at read
      split at read
      · cases read
      · cases after with
        | nil =>
          cases read
          exact ⟨digits, same.symm, size⟩
        | cons s more =>
          dsimp only at read
          split at read
          next suffix =>
            cases read
            refine ⟨digits ++ [s], by rw [List.append_assoc]; exact same.symm, ?_⟩
            rw [utf8Size_append, size, size_suffix suffix]
          · cases read
            exact ⟨digits, same.symm, size⟩
  split at read
  next quoted =>
    -- A string.
    split at read
    · cases read
    next body inner =>
      cases read
      obtain ⟨consumed, same, size⟩ := string?_takes inner
      have quote : c.utf8Size = 1 := by
        obtain single | double := Bool.or_eq_true_iff.1 quoted
        · rw [beq_iff_eq.1 single]
          rfl
        · rw [beq_iff_eq.1 double]
          rfl
      exact ⟨c :: consumed, congrArg (c :: ·) same, by rw [utf8Size_cons, size, quote]⟩
  -- A symbol.
  split at read
  next d more _ =>
    split at read
    next s spelled =>
      cases read
      exact ⟨[c, d], rfl, size_double? spelled⟩
    · split at read
      next s spelled =>
        cases read
        exact ⟨[c], rfl, size_single? spelled⟩
      · cases read
  · split at read
    next s spelled =>
      cases read
      exact ⟨[c], rfl, size_single? spelled⟩
    · cases read

/-! ## The loop -/

/-- The lexer between two rounds of its loop, at a byte of the text and with the tokens found before
it, or behind its loop. -/
inductive Scan where
  | running (offset : Nat) (rest : List Char) (found : List Lexeme)
  | ended (result : Except FormFault (List Lexeme))

namespace Scan

def start (text : List Char) : Scan := .running 0 text []

/-- One round of the loop. -/
def next : Scan → Scan
  | .running _ [] found => .ended (.ok found)
  | .running offset (c :: rest) found =>
    if isBlank c then .running (offset + c.utf8Size) rest found
    else
      match token c rest with
      | .error problem => .ended (.error ⟨problem, some offset⟩)
      | .ok taken =>
        .running (offset + taken.value.2) taken.rest (found ++ [⟨taken.value.1, offset⟩])
  | .ended result => .ended result

/-- Tokens that start at characters of the text, each behind the one before. -/
structure Placed (text : List Char) (found : List Lexeme) : Prop where
  starts : ∀ lexeme ∈ found, StartsAt text lexeme.offset
  increasing : (found.map Lexeme.offset).Pairwise (· < ·)

/-- What holds between the rounds. -/
def Sound (text : List Char) : Scan → Prop
  | .running offset rest found =>
    Placed text found ∧ (∀ lexeme ∈ found, lexeme.offset < offset) ∧
      ∃ before, text = before ++ rest ∧ utf8Size before = offset
  | .ended (.ok found) => Placed text found
  | .ended (.error _) => True

theorem sound_start (text : List Char) : Sound text (start text) :=
  ⟨⟨List.forall_mem_nil _, .nil⟩, List.forall_mem_nil _, [], rfl, rfl⟩

theorem Placed.push {text : List Char} {found : List Lexeme} (placed : Placed text found)
    {lexeme : Lexeme} (starts : StartsAt text lexeme.offset)
    (behind : ∀ other ∈ found, other.offset < lexeme.offset) : Placed text (found ++ [lexeme]) where
  starts := List.forall_mem_append.2 ⟨placed.starts, List.forall_mem_singleton.2 starts⟩
  increasing := by
    rw [List.map_append, List.pairwise_append]
    refine ⟨placed.increasing, List.pairwise_singleton _ _, ?_⟩
    simpa using behind

theorem sound_next {text : List Char} {scan : Scan} (sound : Sound text scan) :
    Sound text scan.next := by
  match scan with
  | .ended result => exact sound
  | .running offset [] found => exact sound.1
  | .running offset (c :: rest) found =>
    obtain ⟨placed, behind, before, same, size⟩ := sound
    have moved (consumed : List Char) (n : Nat) : utf8Size consumed = n →
        utf8Size (before ++ consumed) = offset + n := fun bytes => by
      rw [utf8Size_append, size, bytes]
    rw [next]
    split
    · refine ⟨placed, fun lexeme member => Nat.lt_add_right _ (behind lexeme member),
        before ++ [c], ?_, moved [c] _ (utf8Size_singleton c)⟩
      rw [same, List.append_assoc, List.singleton_append]
    · split
      · trivial
      next taken read =>
        obtain ⟨consumed, cut, bytes⟩ := token_takes read
        have some : 0 < taken.value.2 := by
          rw [← bytes]
          refine utf8Size_pos ?_
          rintro rfl
          rw [List.nil_append] at cut
          exact absurd taken.shorter (cut ▸ Nat.lt_irrefl _)
        refine ⟨placed.push ⟨before, c, rest, same, size⟩ behind, ?_,
          before ++ consumed, ?_, moved consumed _ bytes⟩
        · have before (lexeme : Lexeme) (member : lexeme ∈ found) :=
            Nat.lt_add_right taken.value.2 (behind lexeme member)
          exact List.forall_mem_append.2
            ⟨before, List.forall_mem_singleton.2 (Nat.lt_add_of_pos_right some)⟩
        · rw [same, List.append_assoc]
          exact congrArg (before ++ ·) cut

theorem sound_iterate {text : List Char} {scan : Scan} (sound : Sound text scan) (n : Nat) :
    Sound text (next^[n] scan) := by
  induction n generalizing scan with
  | zero => exact sound
  | succ n ih => exact ih (sound_next sound)

/-- From every place on, the loop ends with the tokens of the rest behind those found before. -/
theorem exists_ended (offset : Nat) (rest : List Char) (found : List Lexeme) :
    ∃ n ≤ rest.length + 1, next^[n] (.running offset rest found) =
      .ended ((lexemes offset rest).map (found ++ ·)) := by
  induction offset, rest using lexemes.induct generalizing found with
  | case1 offset =>
    refine ⟨1, Nat.le_refl _, ?_⟩
    rw [lexemes]
    exact congrArg (fun found => Scan.ended (.ok found)) (List.append_nil found).symm
  | case2 offset c rest blank ih =>
    obtain ⟨n, few, run⟩ := ih found
    refine ⟨n + 1, Nat.succ_le_succ few, ?_⟩
    rw [Function.iterate_succ_apply, next, if_pos blank, run, lexemes, if_pos blank]
  | case3 offset c rest solid problem failed =>
    refine ⟨1, Nat.le_add_left _ _, ?_⟩
    rw [Function.iterate_one, next, if_neg solid, lexemes, if_neg solid, failed]
    rfl
  | case4 offset c rest solid taken read ih =>
    obtain ⟨n, few, run⟩ := ih (found ++ [⟨taken.value.1, offset⟩])
    refine ⟨n + 1, Nat.succ_le_succ (Nat.le_trans few taken.shorter), ?_⟩
    rw [Function.iterate_succ_apply, next, if_neg solid, lexemes, if_neg solid, read]
    dsimp only
    rw [run]
    cases lexemes (offset + taken.value.2) taken.rest with
    | error fault => rfl
    | ok others => exact congrArg (fun found => Scan.ended (.ok found)) (List.append_assoc ..)

end Scan

/-- The loop of the lexer ends, with what the text is read as, and it places the tokens. -/
theorem offsets_increase (text : List Char) :
    (∃ n ≤ text.length + 1, Scan.next^[n] (.start text) = .ended (lexemes 0 text)) ∧
      ∀ found, lexemes 0 text = .ok found → Scan.Placed text found := by
  obtain ⟨n, few, run⟩ := Scan.exists_ended 0 text []
  have same : (lexemes 0 text).map ([] ++ ·) = lexemes 0 text := by
    cases lexemes 0 text <;> rfl
  rw [same] at run
  refine ⟨⟨n, few, run⟩, fun found read => ?_⟩
  have sound := Scan.sound_iterate (Scan.sound_start text) n
  rw [Scan.start, run, read] at sound
  exact sound

end Lexer

end SqlPreview
