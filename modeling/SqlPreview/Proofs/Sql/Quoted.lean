import Mathlib.Algebra.Group.Nat.Even
import SqlPreview.Text.Cut
import SqlPreview.Value.Text

/-!
# Quoted regions of SQL

Single quotes cut a text into pieces that stand outside and inside quotes by turns. This module
defines what stands where, and how both sides behave when texts are joined.

Results:
1. `outside_append`: behind a text that closes its quotes, another text is read as if it stood
   alone.
2. `closed_of_even`: a text with an even number of quotes closes them.
3. `outside_quoteSql`: a literal lies inside quotes as a whole, whatever it holds.
-/

namespace SqlPreview

namespace Text

theorem splitWhere_append {cut : Char → Bool} {c : Char} (h : cut c = true)
    (before after : List Char) :
    splitWhere cut (before ++ c :: after) = splitWhere cut before ++ splitWhere cut after := by
  induction before with
  | nil => simp [splitWhere, h]
  | cons d before ih =>
    simp only [List.cons_append, splitWhere, ih]
    split
    · rfl
    · obtain ⟨piece, pieces, cutting⟩ :=
        List.exists_cons_of_ne_nil (splitWhere_ne_nil cut before)
      rw [cutting]
      rfl

theorem splitWhere_of_forall {cut : Char → Bool} {text : List Char}
    (h : ∀ c ∈ text, cut c = false) : splitWhere cut text = [text] := by
  induction text with
  | nil => rfl
  | cons c rest ih =>
    rw [splitWhere, ih fun d member => h d (List.mem_cons_of_mem _ member)]
    simp [h c List.mem_cons_self]

end Text

namespace Quoted

/-- The pieces of a text between its single quotes, at least one. -/
def pieces (text : List Char) : List (List Char) := Text.splitOn '\'' text

/-- The pieces that stand outside quotes, joined. Where the last quote has no partner, it stays
with all that is behind it. -/
def joinOuter : List (List Char) → List Char
  | [] => []
  | [piece] => piece
  | [piece, tail] => piece ++ '\'' :: tail
  | piece :: _ :: next :: rest => piece ++ joinOuter (next :: rest)

/-- The pieces that stand inside quotes; each has a quote on either side. -/
def keepInner : List (List Char) → List (List Char)
  | _ :: piece :: next :: rest => piece :: keepInner (next :: rest)
  | _ => []

/-- A text without its quoted regions, the quotes included. -/
def outside (text : List Char) : List Char := joinOuter (pieces text)

/-- The contents of the quoted regions of a text, in order. -/
def contents (text : List Char) : List (List Char) := keepInner (pieces text)

example : outside "a = 'x' or 'it''s'".toList = "a =  or ".toList := by decide
example : contents "a = 'x y' or 'it''s".toList = ["x y".toList, "it".toList] := by decide

/-! ## Pieces -/

theorem pieces_plain {text : List Char} (plain : '\'' ∉ text) : pieces text = [text] := by
  refine Text.splitWhere_of_forall fun c member => ?_
  have : c ≠ '\'' := fun same => plain (same ▸ member)
  simpa using this

theorem pieces_append_quote (before after : List Char) :
    pieces (before ++ '\'' :: after) = pieces before ++ pieces after := by
  refine Text.splitWhere_append ?_ before after
  rfl

theorem pieces_ne_nil (text : List Char) : pieces text ≠ [] := Text.splitWhere_ne_nil _ text

/-- A text without quotes joins the first piece of what follows it. -/
theorem pieces_append_plain {text : List Char} (plain : '\'' ∉ text) (after : List Char) :
    ∃ piece rest, pieces after = piece :: rest ∧ pieces (text ++ after) = (text ++ piece) :: rest := by
  obtain ⟨piece, rest, cutting⟩ := List.exists_cons_of_ne_nil (pieces_ne_nil after)
  refine ⟨piece, rest, cutting, ?_⟩
  induction text with
  | nil => exact cutting
  | cons c text ih =>
    have other : c ≠ '\'' := fun same => plain (same ▸ List.mem_cons_self)
    have rest := ih fun member => plain (List.mem_cons_of_mem _ member)
    rw [pieces, Text.splitOn] at rest ⊢
    rw [List.cons_append, Text.splitWhere, rest]
    simp [other]

/-- Induction on the quotes of a text, the first one first. -/
@[elab_as_elim]
theorem quoteInduction {motive : List Char → Prop} (plain : ∀ text, '\'' ∉ text → motive text)
    (quote : ∀ before after, '\'' ∉ before → motive after → motive (before ++ '\'' :: after))
    (text : List Char) : motive text := by
  by_cases member : '\'' ∈ text
  · obtain ⟨before, after, same, first⟩ := List.eq_append_cons_of_mem member
    have shorter : after.length < text.length := by
      rw [same, List.length_append, List.length_cons]
      omega
    rw [same]
    exact quote before after first (quoteInduction plain quote after)
  · exact plain text member
termination_by text.length

/-! ## Closed texts -/

/-- A text that closes every quote that it opens. -/
inductive Closed : List Char → Prop
  | plain {text : List Char} : '\'' ∉ text → Closed text
  | quoted {before inside after : List Char} : '\'' ∉ before → '\'' ∉ inside → Closed after →
      Closed (before ++ '\'' :: (inside ++ '\'' :: after))

theorem outside_plain {text : List Char} (plain : '\'' ∉ text) : outside text = text := by
  rw [outside, pieces_plain plain]
  rfl

theorem outside_quoted {before inside : List Char} (plain : '\'' ∉ before) (within : '\'' ∉ inside)
    (after : List Char) :
    outside (before ++ '\'' :: (inside ++ '\'' :: after)) = before ++ outside after := by
  obtain ⟨piece, rest, cutting⟩ := List.exists_cons_of_ne_nil (pieces_ne_nil after)
  rw [outside, outside, pieces_append_quote, pieces_append_quote, pieces_plain plain,
    pieces_plain within, cutting]
  rfl

theorem outside_append_plain {text : List Char} (plain : '\'' ∉ text) (after : List Char) :
    outside (text ++ after) = text ++ outside after := by
  obtain ⟨piece, rest, cutting, joined⟩ := pieces_append_plain plain after
  rw [outside, outside, cutting, joined]
  match rest with
  | [] | [_] | _ :: _ :: _ => simp [joinOuter]

theorem outside_append {text : List Char} (closed : Closed text) (after : List Char) :
    outside (text ++ after) = outside text ++ outside after := by
  induction closed with
  | plain plain => rw [outside_append_plain plain, outside_plain plain]
  | @quoted before inside rest plain within _ ih =>
    calc outside (before ++ '\'' :: (inside ++ '\'' :: rest) ++ after)
        = outside (before ++ '\'' :: (inside ++ '\'' :: (rest ++ after))) := by simp
      _ = before ++ (outside rest ++ outside after) := by rw [outside_quoted plain within, ih]
      _ = outside (before ++ '\'' :: (inside ++ '\'' :: rest)) ++ outside after := by
        rw [outside_quoted plain within, List.append_assoc]

theorem closed_of_even (text : List Char) (even : Even (text.count '\'')) : Closed text := by
  by_cases opened : '\'' ∈ text
  · obtain ⟨before, rest, same, plain⟩ := List.eq_append_cons_of_mem opened
    -- Behind the first quote an odd number is left, so there is one that closes it.
    have odd : ¬ Even (rest.count '\'') := by
      rw [same, List.count_append, List.count_cons_self, List.count_eq_zero_of_not_mem plain,
        Nat.zero_add, Nat.even_add_one] at even
      exact even
    have closing : '\'' ∈ rest := by
      by_contra none
      rw [List.count_eq_zero_of_not_mem none] at odd
      exact odd Even.zero
    obtain ⟨inside, after, same', within⟩ := List.eq_append_cons_of_mem closing
    have shorter : after.length < text.length := by
      simp only [same, same', List.length_append, List.length_cons]
      omega
    have evenAfter : Even (after.count '\'') := by
      rw [same', List.count_append, List.count_cons_self,
        List.count_eq_zero_of_not_mem within, Nat.zero_add, Nat.even_add_one, not_not] at odd
      exact odd
    rw [same, same']
    exact .quoted plain within (closed_of_even after evenAfter)
  · exact .plain opened
termination_by text.length

/-! ## Literals -/

/-- A text with every quote in it doubled. -/
def doubled (text : List Char) : List Char :=
  text.flatMap fun c => if c == '\'' then ['\'', '\''] else [c]

theorem quoteSql_eq (text : List Char) : Value.quoteSql text = '\'' :: (doubled text ++ ['\'']) :=
  rfl

theorem doubled_cons (c : Char) (rest : List Char) :
    doubled (c :: rest) = c :: ((if c = '\'' then ['\''] else []) ++ doubled rest) := by
  by_cases quote : c = '\''
  · subst quote
    rfl
  · rw [if_neg quote, doubled, List.flatMap_cons, beq_eq_false_iff_ne.2 quote]
    rfl

theorem doubled_plain {text : List Char} (plain : '\'' ∉ text) : doubled text = text := by
  induction text with
  | nil => rfl
  | cons c text ih =>
    have other : c ≠ '\'' := fun same => plain (same ▸ List.mem_cons_self)
    rw [doubled_cons, if_neg other, List.nil_append,
      ih fun member => plain (List.mem_cons_of_mem _ member)]

theorem doubled_injective {text text' : List Char} (same : doubled text = doubled text') :
    text = text' := by
  induction text generalizing text' with
  | nil =>
    cases text' with
    | nil => rfl
    | cons d rest' =>
      rw [doubled_cons] at same
      cases same
  | cons c rest ih =>
    cases text' with
    | nil =>
      rw [doubled_cons] at same
      cases same
    | cons d rest' =>
      -- Equal first characters are doubled alike, so the rests are equal texts doubled.
      rw [doubled_cons, doubled_cons, List.cons.injEq] at same
      obtain ⟨rfl, behind⟩ := same
      rw [ih (List.append_cancel_left behind)]

theorem quoteSql_injective {text text' : List Char}
    (same : Value.quoteSql text = Value.quoteSql text') : text = text' := by
  rw [quoteSql_eq, quoteSql_eq, List.cons.injEq] at same
  exact doubled_injective (List.append_cancel_right same.2)

theorem quoteSql_plain {text : List Char} (plain : '\'' ∉ text) :
    Value.quoteSql text = '\'' :: (text ++ ['\'']) := by
  rw [quoteSql_eq, doubled_plain plain]

theorem quoteSql_append_quote {before : List Char} (plain : '\'' ∉ before) (after : List Char) :
    Value.quoteSql (before ++ '\'' :: after) =
      '\'' :: (before ++ '\'' :: Value.quoteSql after) := by
  have parts : doubled (before ++ '\'' :: after) = before ++ '\'' :: '\'' :: doubled after := by
    rw [doubled, List.flatMap_append]
    exact congrArg (· ++ _) (doubled_plain plain)
  rw [quoteSql_eq, quoteSql_eq, parts]
  simp

theorem closed_quoteSql (text : List Char) : Closed (Value.quoteSql text) := by
  induction text using quoteInduction with
  | plain text plain =>
    rw [quoteSql_plain plain]
    exact @Closed.quoted [] _ _ List.not_mem_nil plain (.plain List.not_mem_nil)
  | quote before after plain ih =>
    rw [quoteSql_append_quote plain]
    exact @Closed.quoted [] _ _ List.not_mem_nil plain ih

theorem outside_quoteSql (text : List Char) : outside (Value.quoteSql text) = [] := by
  induction text using quoteInduction with
  | plain text plain =>
    rw [quoteSql_plain plain]
    exact @outside_quoted [] _ List.not_mem_nil plain []
  | quote before after plain ih =>
    rw [quoteSql_append_quote plain]
    exact (@outside_quoted [] _ List.not_mem_nil plain _).trans ih

end Quoted

end SqlPreview
