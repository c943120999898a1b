import SqlPreview.Proofs.Expr.Writing
import SqlPreview.Proofs.Text.Digits

/-!
# Tokens read back from a line

Every token of a written expression is recognised by its own text, as long as a space or the end
follows it.

Results:
1. `Token.Legible`: the tokens that a line gives back; words, integers, strings and symbols.
2. `Lexer.isName_iff`: what is read as one word is a word character by character.
3. `Lexer.lexemes_line`: a line of legible tokens is read as these tokens.
-/

namespace SqlPreview

/-- What follows a token in a line: a space or the end. -/
inductive Gap : List Char → Prop
  | done : Gap []
  | space (rest : List Char) : Gap (' ' :: rest)

namespace Token

/-- Where a gap follows, the token is read from its own text. -/
def Legible (t : Token) : Prop :=
  ∃ c cs, t.chars = c :: cs ∧ Text.isBlank c = false ∧
    ∀ rest, Gap rest → ∃ taken, Lexer.token c (cs ++ rest) = .ok taken ∧ taken.value.1 = t ∧
      taken.rest = rest

end Token

namespace Lexer

open Token

/-! ## Symbols -/

theorem legible_symbol (s : Symbol) : Legible (.symbol s) := by
  cases s <;> refine ⟨_, _, rfl, by decide, ?_⟩ <;> intro rest gap <;> cases gap <;>
    exact ⟨_, rfl, rfl, rfl⟩

/-! ## Words -/

/-- A word character by character: no hash in front, because that would be dropped. -/
def isWord : List Char → Bool
  | c :: rest => startsWord c && c != '#' && !Text.isBlank c && rest.all continuesWord
  | [] => false

theorem takeWhile_gap {cs rest : List Char} (continued : ∀ c ∈ cs, continuesWord c = true)
    (gap : Gap rest) : (cs ++ rest).takeWhile continuesWord = cs := by
  rw [List.takeWhile_append_of_pos continued]
  cases gap <;> exact List.append_nil cs

theorem dropWhile_gap {cs rest : List Char} (continued : ∀ c ∈ cs, continuesWord c = true)
    (gap : Gap rest) : (cs ++ rest).dropWhile continuesWord = rest := by
  rw [List.dropWhile_append_of_pos continued]
  cases gap <;> rfl

theorem legible_word {name : String} (word : isWord name.toList = true) :
    Legible (.word name) := by
  cases spelled : name.toList with
  | nil =>
    rw [spelled] at word
    cases word
  | cons c cs =>
    rw [spelled] at word
    simp only [isWord, Bool.and_eq_true, Bool.not_eq_true', bne_iff_ne, List.all_eq_true] at word
    obtain ⟨⟨⟨starts, noHash⟩, noBlank⟩, continued⟩ := word
    refine ⟨c, cs, spelled, noBlank, ?_⟩
    intro rest gap
    have whole : String.ofList (c :: cs) = name := by rw [← spelled, String.ofList_toList]
    have noHash' : ¬ (c == '#') = true := mt beq_iff_eq.1 noHash
    have noEmpty : ¬ (c :: cs).isEmpty = true := Bool.false_ne_true
    simp only [token, if_pos starts, takeWhile_gap continued gap, if_neg noHash', if_neg noEmpty]
    exact ⟨_, rfl, congrArg Token.word whole, dropWhile_gap continued gap⟩

/-! ## Strings -/

theorem string?_escaped (text rest : List Char) :
    ∃ body, string? '\'' (escaped text ++ '\'' :: rest) = some body ∧ body.value.1 = text ∧
      body.rest = rest := by
  induction text with
  | nil =>
    rw [escaped, List.nil_append, string?.eq_def]
    exact ⟨_, rfl, rfl, rfl⟩
  | cons c text ih =>
    obtain ⟨body, read, same, left⟩ := ih
    by_cases special : (c == '\\' || c == '\'') = true
    · have kept : unescape c = c := by
        rcases Bool.or_eq_true_iff.1 special with back | quote
        · rw [beq_iff_eq.1 back]
          rfl
        · rw [beq_iff_eq.1 quote]
          rfl
      rw [escaped, if_pos special, List.cons_append, List.cons_append, string?.eq_def]
      simp only [read]
      refine ⟨_, rfl, ?_, left⟩
      rw [kept, same]
    · obtain ⟨back, quote⟩ := not_or.1 (mt Bool.or_eq_true_iff.2 special)
      rw [escaped, if_neg special, List.cons_append, string?.eq_def]
      simp only [if_neg back, if_neg quote, read]
      exact ⟨_, rfl, congrArg (c :: ·) same, left⟩

theorem legible_string (text : String) : Legible (.string text) := by
  refine ⟨'\'', escaped text.toList ++ ['\''], rfl, by decide, ?_⟩
  intro rest _
  obtain ⟨body, read, same, left⟩ := string?_escaped text.toList rest
  have noWord : ¬ startsWord '\'' = true := by decide
  have noNumber (cs : List Char) : ¬ startsNumber '\'' cs = true := Bool.false_ne_true
  have quote : ('\'' == '\'' || '\'' == '"') = true := rfl
  rw [List.append_assoc, List.singleton_append, token.eq_def, if_neg noWord, if_neg (noNumber _),
    if_pos quote]
  simp only [read]
  refine ⟨_, rfl, ?_, left⟩
  show Token.string (String.ofList body.value.1) = _
  rw [same, String.ofList_toList]

/-! ## Integers -/

/-- What ends the digits of an integer: neither a digit nor a point nor an exponent mark. -/
def EndsDigits : List Char → Prop
  | [] => True
  | c :: _ => Text.isAsciiDigit c = false ∧ c ≠ '.' ∧ c ≠ 'e' ∧ c ≠ 'E'

theorem splitNumber_digits {digits rest : List Char}
    (each : ∀ c ∈ digits, Text.isAsciiDigit c = true) (ends : EndsDigits rest) :
    splitNumber false (digits ++ rest) = (digits, false, rest) := by
  induction digits with
  | nil =>
    cases rest with
    | nil => rfl
    | cons c more =>
      obtain ⟨noDigit, noPoint, noSmall, noLarge⟩ := ends
      rw [List.nil_append, splitNumber.eq_def]
      simp [noDigit, noPoint, noSmall, noLarge]
  | cons d digits ih =>
    obtain ⟨digit, others⟩ := List.forall_mem_cons.1 each
    rw [List.cons_append, splitNumber.eq_def]
    simp only [digit, if_true, ih others]

theorem startsWord_of_isAsciiDigit {c : Char} (digit : Text.isAsciiDigit c = true) :
    startsWord c = false := by
  obtain ⟨low, high⟩ := (Text.isAsciiDigit_iff c).1 digit
  have other (d : Char) (outside : d.toNat < 48 ∨ 57 < d.toNat) : (c == d) = false := by
    refine beq_eq_false_iff_ne.2 ?_
    rintro rfl
    omega
  have noLetter : Text.isAlphabetic c = false := by
    have small : ¬ 'a' ≤ c := fun (above : 97 ≤ c.toNat) => by omega
    have large : ¬ 'A' ≤ c := fun (above : 65 ≤ c.toNat) => by omega
    rw [Text.isAlphabetic, if_pos (by omega), Text.isAsciiLetter]
    simp [small, large]
  rw [startsWord, noLetter, other '_' (by decide), other '$' (by decide), other '#' (by decide)]
  rfl

/-- An integer is read as its digits with the letter behind them, which must not be able to
continue the number or make it floating. -/
theorem legible_integer {digits : List Char} {suffix : Option Char} (present : digits ≠ [])
    (each : ∀ c ∈ digits, Text.isAsciiDigit c = true)
    (typed : ∀ s, suffix = some s → isSuffix s = true ∧ isFloatingSuffix s = false ∧
      EndsDigits [s]) :
    Legible (.integer digits suffix) := by
  cases digits with
  | nil => exact absurd rfl present
  | cons c ds =>
    have digit := each c List.mem_cons_self
    refine ⟨c, ds ++ suffix.toList, rfl, Text.isBlank_of_isAsciiDigit digit, ?_⟩
    intro rest gap
    have ends : EndsDigits (suffix.toList ++ rest) := by
      cases suffix with
      | none =>
        cases gap with
        | done => exact trivial
        | space rest => exact ⟨by decide, by decide, by decide, by decide⟩
      | some s => exact (typed s rfl).2.2
    have noWord : ¬ startsWord c = true := Bool.eq_false_iff.1 (startsWord_of_isAsciiDigit digit)
    have number : startsNumber c (ds ++ suffix.toList ++ rest) = true :=
      Bool.or_eq_true_iff.2 (.inl digit)
    have noFirst : ¬ c :: ds = [] := List.cons_ne_nil c ds
    rw [token.eq_def, if_neg noWord, if_pos number]
    split
    next digits' isFloating after found =>
      rw [List.append_assoc, ← List.cons_append, splitNumber_digits each ends] at found
      cases found
      rw [dif_neg noFirst]
      -- The letter is taken behind the digits, or else the gap is looked at in its place.
      cases suffix with
      | none => cases gap <;> exact ⟨_, rfl, rfl, rfl⟩
      | some s =>
        obtain ⟨marked, whole, _⟩ := typed s rfl
        simp only [Option.toList, List.singleton_append, if_pos marked, whole]
        exact ⟨_, rfl, rfl, rfl⟩

/-! ## Lines -/

theorem lexemes_legible {t : Token} (legible : Legible t) {rest : List Char} (gap : Gap rest)
    (offset : Nat) :
    ∃ next, lexemes offset (t.chars ++ rest) =
      (lexemes next rest).map fun others => ⟨t, offset⟩ :: others := by
  obtain ⟨c, cs, spelled, noBlank, read⟩ := legible
  obtain ⟨taken, found, same, left⟩ := read rest gap
  refine ⟨offset + taken.value.2, ?_⟩
  have noBlank' : ¬ Text.isBlank c = true := Bool.eq_false_iff.1 noBlank
  rw [spelled, List.cons_append, lexemes, if_neg noBlank', found]
  show (lexemes (offset + taken.value.2) taken.rest >>= _) = _
  rw [same, left]
  rfl

theorem lexemes_space (offset : Nat) (rest : List Char) :
    lexemes offset (' ' :: rest) = lexemes (offset + 1) rest := by
  have blank : Text.isBlank ' ' = true := by decide
  rw [lexemes, if_pos blank]
  rfl

/-- A line of legible tokens is read as these tokens. -/
theorem lexemes_line {tokens : List Token} (legible : ∀ t ∈ tokens, Legible t) (offset : Nat) :
    ∃ found, lexemes offset (line tokens) = .ok found ∧ found.map Lexeme.token = tokens := by
  induction tokens generalizing offset with
  | nil => exact ⟨[], by rw [line, List.map_nil, Text.joined, lexemes], rfl⟩
  | cons t rest ih =>
    obtain ⟨first, others⟩ := List.forall_mem_cons.1 legible
    cases rest with
    | nil =>
      obtain ⟨next, read⟩ := lexemes_legible first .done offset
      rw [List.append_nil, lexemes] at read
      exact ⟨_, read, rfl⟩
    | cons u rest =>
      obtain ⟨next, read⟩ := lexemes_legible first (.space (line (u :: rest))) offset
      obtain ⟨found, read', same⟩ := ih others (next + 1)
      have cutting : line (t :: u :: rest) = t.chars ++ ' ' :: line (u :: rest) := by
        simp [line, Text.joined]
      rw [cutting, read, lexemes_space, read']
      exact ⟨_, rfl, congrArg (t :: ·) same⟩

/-! ## Names -/

theorem le_offset {offset : Nat} {text : List Char} {found : List Lexeme}
    (read : lexemes offset text = .ok found) : ∀ l ∈ found, offset ≤ l.offset := by
  induction offset, text using lexemes.induct generalizing found with
  | case1 offset =>
    rw [lexemes] at read
    cases read
    intro l none
    cases none
  | case2 offset c rest blank ih =>
    rw [lexemes, if_pos blank] at read
    intro l member
    exact Nat.le_trans (Nat.le_add_right _ _) (ih read l member)
  | case3 offset c rest noBlank problem failed =>
    rw [lexemes, if_neg noBlank, failed] at read
    cases read
  | case4 offset c rest noBlank taken succeeded ih =>
    rw [lexemes, if_neg noBlank, succeeded] at read
    cases deeper : lexemes (offset + taken.value.2) taken.rest with
    | error fault =>
      simp only [deeper] at read
      cases read
    | ok others =>
      simp only [deeper] at read
      cases read
      refine List.forall_mem_cons.2 ⟨Nat.le_refl _, ?_⟩
      intro l member
      exact Nat.le_trans (Nat.le_add_right _ _) (ih deeper l member)

theorem startsWord_of_token {c : Char} {rest : List Char} {taken : Taken (c :: rest) (Token × Nat)}
    {name : String} (read : token c rest = .ok taken) (word : taken.value.1 = .word name) :
    startsWord c = true := by
  refine Decidable.byContradiction fun noWord => ?_
  have apart (floating : Bool) (digits : List Char) (suffix : Option Char) :
      (if floating then Token.floating digits suffix else .integer digits suffix) ≠ .word name := by
    cases floating <;> exact Token.noConfusion
  rw [token.eq_def, if_neg noWord] at read
  -- What is left makes a number, a string or a symbol, or fails.
  split at read
  · split at read
    next digits isFloating after found =>
      split at read
      · cases read
      · cases after with
        | nil =>
          cases read
          exact apart _ _ _ word
        | cons s more =>
          dsimp only at read
          split at read <;> cases read <;> exact apart _ _ _ word
  · split at read
    · split at read <;> cases read
      cases word
    · split at read
      · split at read
        · cases read
          cases word
        · split at read <;> cases read
          cases word
      · split at read <;> cases read
        cases word

theorem spelled_of_token {c : Char} {rest : List Char} {taken : Taken (c :: rest) (Token × Nat)}
    {name : String} (read : token c rest = .ok taken) (word : taken.value.1 = .word name) :
    name.toList = if c == '#' then rest.takeWhile continuesWord
      else c :: rest.takeWhile continuesWord := by
  rw [token.eq_def, if_pos (startsWord_of_token read word)] at read
  dsimp only at read
  generalize (if c == '#' then rest.takeWhile continuesWord
    else c :: rest.takeWhile continuesWord) = spelled at read ⊢
  split at read
  · cases read
  · cases read
    cases word
    exact String.toList_ofList

/-- A text that is read as one word is a word. White space in front would move the word away from
the first byte, and a hash in front would be dropped. -/
theorem isWord_of_isName {name : String} (named : Expr.IsName name) :
    isWord name.toList = true := by
  rw [Expr.IsName] at named
  cases spelled : name.toList with
  | nil =>
    rw [spelled, lexemes] at named
    cases named
  | cons c rest =>
    rw [spelled, lexemes.eq_def] at named
    dsimp only at named
    by_cases blank : Text.isBlank c = true
    -- A blank is skipped, so what is found starts behind it.
    · rw [if_pos blank] at named
      have below := le_offset named _ List.mem_cons_self
      exact absurd (Nat.lt_of_lt_of_le (Char.utf8Size_pos c) (Nat.le_trans (Nat.le_add_left _ _) below))
        (Nat.lt_irrefl _)
    · rw [if_neg blank] at named
      cases read : token c rest with
      | error problem =>
        rw [read] at named
        cases named
      | ok taken =>
        cases deeper : lexemes (0 + taken.value.2) taken.rest with
        | error fault =>
          simp only [read, deeper] at named
          cases named
        | ok others =>
          simp only [read, deeper] at named
          have word : taken.value.1 = .word name :=
            congrArg Lexeme.token (List.cons.inj (Except.ok.inj named)).1
          have whole := spelled_of_token read word
          rw [spelled] at whole
          split at whole
          -- What is left of the text without its hash is shorter than the text.
          next hash =>
            have short := (List.takeWhile_sublist continuesWord (l := rest)).length_le
            rw [← whole] at short
            exact absurd short (Nat.not_succ_le_self _)
          next noHash =>
            have continued : rest.all continuesWord = true := by
              rw [(List.cons.inj whole).2]
              exact List.all_takeWhile
            simp only [isWord, startsWord_of_token read word, continued, Bool.and_true,
              Bool.true_and, bne, Bool.eq_false_iff.2 blank, Bool.eq_false_iff.2 noHash]
            rfl

/-- The texts that are one word are the words. -/
theorem isName_iff {name : String} : Expr.IsName name ↔ isWord name.toList = true := by
  constructor
  · exact isWord_of_isName
  · intro word
    obtain ⟨next, read⟩ := lexemes_legible (legible_word word) .done 0
    rw [List.append_nil, lexemes] at read
    exact read

end Lexer

/-! ## Written expressions -/

namespace Expr

open Token Lexer

/-- Rows of legible tokens only. -/
def AllLegible (tokens : List Token) : Prop := ∀ t ∈ tokens, Legible t

theorem AllLegible.append {tokens tokens' : List Token} (legible : AllLegible tokens)
    (legible' : AllLegible tokens') : AllLegible (tokens ++ tokens') := by
  intro t member
  rcases List.mem_append.1 member with member | member
  · exact legible t member
  · exact legible' t member

theorem AllLegible.cons {t : Token} {tokens : List Token} (first : Legible t)
    (legible : AllLegible tokens) : AllLegible (t :: tokens) :=
  List.forall_mem_cons.2 ⟨first, legible⟩

theorem AllLegible.singleton {t : Token} (legible : Legible t) : AllLegible [t] :=
  List.forall_mem_singleton.2 legible

theorem AllLegible.enclosed {tokens : List Token} (legible : AllLegible tokens) (least : Nat)
    (e : Expr) : AllLegible (Expr.enclosed least e tokens) := by
  unfold Expr.enclosed
  split
  · exact .cons (legible_symbol _) (legible.append (.singleton (legible_symbol _)))
  · exact legible

theorem legible_digits (n : Nat) {suffix : Option Char}
    (typed : ∀ s, suffix = some s → isSuffix s = true ∧ isFloatingSuffix s = false ∧
      EndsDigits [s]) :
    Legible (.integer (Text.decimalDigits n) suffix) :=
  legible_integer (Text.decimalDigits_ne_nil n)
    (fun _ member => Text.isAsciiDigit_of_mem_decimalDigits member) typed

theorem legible_value {v : Value} {t : Token} (written : v.token? = some t) : Legible t := by
  unfold Value.token? at written
  split at written <;> cases written
  · exact legible_word (by decide)
  · exact legible_word (by decide)
  · exact legible_word (by decide)
  · refine legible_digits _ ?_
    rintro s none
    cases none
  · refine legible_digits _ ?_
    rintro s ⟨⟩
    exact ⟨by decide, by decide, by decide, by decide, by decide, by decide⟩
  · refine legible_digits _ ?_
    rintro s ⟨⟩
    exact ⟨by decide, by decide, by decide, by decide, by decide, by decide⟩
  · exact legible_string _

/-- A symbol or a word, which is what operators are spelled with. -/
def isSign : Token → Bool
  | .symbol _ => true
  | .word name => isWord name.toList
  | _ => false

theorem legible_sign {t : Token} (sign : isSign t = true) : Legible t := by
  cases t with
  | symbol s => exact legible_symbol s
  | word name => exact legible_word sign
  | integer | floating | string => cases sign

theorem legible_unary {op : UnaryOp} {sign : Token} (spelled : sign ∈ op.spellings) :
    Legible sign := by
  have signs : ∀ sign ∈ op.spellings, isSign sign = true := by
    cases op <;> decide
  exact legible_sign (signs sign spelled)

theorem legible_binary {op : BinaryOp} {sign : List Token} (spelled : sign ∈ op.spellings) :
    AllLegible sign := by
  have signs : ∀ sign ∈ op.spellings, ∀ t ∈ sign, isSign t = true := by
    cases op <;> decide
  intro t member
  exact legible_sign (signs sign spelled t member)

theorem legible_listWriting {es : List Expr}
    (each : ∀ e ∈ es, ∀ tokens ∈ e.writings, AllLegible tokens) :
    ∀ tokens ∈ listWritings es, AllLegible tokens := by
  induction es with
  | nil =>
    intro tokens written
    rw [listWritings, List.mem_singleton] at written
    subst written
    exact List.forall_mem_nil _
  | cons e rest ih =>
    obtain ⟨first, others⟩ := List.forall_mem_cons.1 each
    cases rest with
    | nil => exact first
    | cons next rest =>
      intro tokens written
      rw [listWritings] at written
      obtain ⟨t, here, written⟩ := List.mem_flatMap.1 written
      obtain ⟨ts, there, rfl⟩ := List.mem_map.1 written
      exact (first t here).append (.cons (legible_symbol _) (ih others ts there))

/-- All tokens of a written plain expression are legible. -/
theorem legible_writing (e : Expr) (plain : e.Plain) :
    ∀ tokens ∈ e.writings, AllLegible tokens := by
  induction e using Expr.induction with
  | literal v =>
    intro tokens written
    obtain ⟨t, found, rfl⟩ := List.mem_map.1 written
    exact .singleton (legible_value (Option.mem_toList.1 found))
  | ident name =>
    intro tokens written
    rw [writings, List.mem_singleton] at written
    subst written
    exact .singleton (legible_word (isWord_of_isName plain.1))
  | member target name ih =>
    intro tokens written
    obtain ⟨t, here, rfl⟩ := List.mem_map.1 written
    have named := legible_word (isWord_of_isName plain.2)
    exact ((ih plain.1 t here).enclosed 8 target).append
      (.cons (legible_symbol _) (.singleton named))
  | index target position ih ih' =>
    intro tokens written
    obtain ⟨t, here, written⟩ := List.mem_flatMap.1 written
    obtain ⟨p, there, rfl⟩ := List.mem_map.1 written
    have bracketed := (ih' plain.2 p there).append (.singleton (legible_symbol .rightBracket))
    exact ((ih plain.1 t here).enclosed 8 target).append (.cons (legible_symbol _) bracketed)
  | call target method args ih ih' =>
    intro tokens written
    obtain ⟨t, here, written⟩ := List.mem_flatMap.1 written
    obtain ⟨a, there, rfl⟩ := List.mem_map.1 written
    have named := legible_word (isWord_of_isName plain.2.1)
    have each := (listPlain_iff args).1 plain.2.2
    have listed := legible_listWriting (fun e among => ih' e among (each e among)) a there
    have closed := listed.append (.singleton (legible_symbol .rightParen))
    exact ((ih plain.1 t here).enclosed 8 target).append
      (.cons (legible_symbol _) (.cons named (.cons (legible_symbol _) closed)))
  | unary op operand ih =>
    intro tokens written
    obtain ⟨sign, spelled, written⟩ := List.mem_flatMap.1 written
    obtain ⟨x, here, rfl⟩ := List.mem_map.1 written
    exact .cons (legible_unary spelled) ((ih plain x here).enclosed 7 operand)
  | binary op left right ih ih' =>
    intro tokens written
    obtain ⟨sign, spelled, written⟩ := List.mem_flatMap.1 written
    obtain ⟨l, here, written⟩ := List.mem_flatMap.1 written
    obtain ⟨r, there, rfl⟩ := List.mem_map.1 written
    exact ((ih plain.1 l here).enclosed _ left).append
      ((legible_binary spelled).append ((ih' plain.2 r there).enclosed _ right))
  | conditional condition yes no ih ih' ih'' =>
    intro tokens written
    obtain ⟨c, here, written⟩ := List.mem_flatMap.1 written
    obtain ⟨y, there, written⟩ := List.mem_flatMap.1 written
    obtain ⟨n, last, rfl⟩ := List.mem_map.1 written
    have branches := (ih' plain.2.1 y there).append
      (.cons (legible_symbol .colon) (ih'' plain.2.2 n last))
    exact ((ih plain.1 c here).enclosed 1 condition).append (.cons (legible_symbol _) branches)
  | list items ih =>
    intro tokens written
    obtain ⟨i, here, rfl⟩ := List.mem_map.1 written
    have each := (listPlain_iff items).1 plain
    have listed := legible_listWriting (fun e among => ih e among (each e among)) i here
    exact .cons (legible_symbol _) (listed.append (.singleton (legible_symbol _)))

end Expr

end SqlPreview
