import SqlPreview.Proofs.Sql.Quoted
import SqlPreview.Sql.Layout

/-!
# What the layout does to quoted regions

The layout is a row of local rewrites and a cut at both ends. No rewrite sees across a quote, so
each piece of a text between quotes is laid out as if it stood alone, the quoted ones too.

Results:
1. `pieces_squeeze`: the rewrites work piece by piece.
2. `contents_format`: the layout rewrites the content of every quoted region.
3. `squeeze_eq_self_iff`: the rewrites leave exactly the tidy texts as they are.
-/

namespace SqlPreview.Layout

/-- The rewrites of the layout, without the cut at the ends. -/
def squeeze (sql : List Char) : List Char :=
  tightenBefore ',' (tightenBefore ')' (tightenOpen (collapse sql)))

/-! ## The passes beside a quote -/

theorem collapse_cons (c : Char) (rest : List Char) :
    collapse (c :: rest) =
      if Text.isBlank c then ' ' :: collapse (rest.dropWhile Text.isBlank)
      else c :: collapse rest := by
  rw [collapse]

theorem not_isBlank_quote : Text.isBlank '\'' = false := by decide

theorem dropBlank_append_quote (before after : List Char) :
    (before ++ '\'' :: after).dropWhile Text.isBlank =
      before.dropWhile Text.isBlank ++ '\'' :: after := by
  rw [List.dropWhile_append]
  split
  · next empty =>
    rw [List.isEmpty_iff.1 empty, List.dropWhile_cons_of_neg (by simp [not_isBlank_quote])]
    rfl
  · rfl

theorem collapse_append_quote (before after : List Char) :
    collapse (before ++ '\'' :: after) = collapse before ++ '\'' :: collapse after := by
  fun_induction collapse before with
  | case1 => simp [collapse_cons, not_isBlank_quote]
  | case2 c rest blank ih =>
    rw [List.cons_append, collapse_cons, if_pos blank, dropBlank_append_quote, ih]
    rfl
  | case3 c rest solid ih =>
    rw [List.cons_append, collapse_cons, if_neg solid, ih]
    rfl

theorem tightenOpen_cons {c : Char} {rest : List Char}
    (h : ¬ (c = '(' ∧ rest.head? = some ' ')) :
    tightenOpen (c :: rest) = c :: tightenOpen rest := by
  rw [tightenOpen]
  intro rest' bracket space
  subst bracket space
  exact h ⟨rfl, rfl⟩

theorem tightenOpen_append_quote (before after : List Char) :
    tightenOpen (before ++ '\'' :: after) = tightenOpen before ++ '\'' :: tightenOpen after := by
  fun_induction tightenOpen before with
  | case1 rest ih => simp [tightenOpen, ih]
  | case2 c rest other ih =>
    rw [List.cons_append, tightenOpen_cons, ih]
    · rfl
    · rintro ⟨bracket, space⟩
      cases rest with
      | nil => simp at space
      | cons d rest =>
        have : d = ' ' := by simpa using space
        subst this
        exact other rest bracket rfl
  | case3 =>
    refine tightenOpen_cons ?_
    rintro ⟨quote, -⟩
    exact absurd quote (by decide)

theorem tightenBefore_cons {mark c : Char} {rest : List Char}
    (h : ¬ (c = ' ' ∧ rest.head? = some mark)) :
    tightenBefore mark (c :: rest) = c :: tightenBefore mark rest := by
  cases rest with
  | nil => simp [tightenBefore]
  | cons d rest =>
    by_cases space : c = ' '
    · subst space
      have other : d ≠ mark := fun same => h ⟨rfl, by rw [same]; rfl⟩
      rw [tightenBefore, if_neg (by simpa using other)]
    · rw [tightenBefore]
      intro d' rest' same
      exact absurd same space

theorem tightenBefore_space_mark (mark : Char) (rest : List Char) :
    tightenBefore mark (' ' :: mark :: rest) = mark :: tightenBefore mark rest := by
  rw [tightenBefore, if_pos (beq_self_eq_true mark)]

theorem tightenBefore_append_quote {mark : Char} (other : mark ≠ '\'') (before after : List Char) :
    tightenBefore mark (before ++ '\'' :: after) =
      tightenBefore mark before ++ '\'' :: tightenBefore mark after := by
  fun_induction tightenBefore mark before with
  | case1 c rest marked ih =>
    have same : c = mark := by simpa using marked
    subst same
    rw [List.cons_append, List.cons_append, tightenBefore_space_mark, ih]
    rfl
  | case2 c rest unmarked ih =>
    have different : c ≠ mark := by simpa using unmarked
    rw [List.cons_append, tightenBefore_cons, ih]
    · rfl
    · rintro ⟨-, found⟩
      exact different (by simpa using found)
  | case3 c rest other' ih =>
    rw [List.cons_append, tightenBefore_cons, ih]
    · rfl
    · rintro ⟨space, found⟩
      cases rest with
      | nil => exact other (by simpa using found.symm)
      | cons d rest => exact other' d rest space rfl
  | case4 =>
    refine tightenBefore_cons ?_
    rintro ⟨quote, -⟩
    exact absurd quote (by decide)

theorem squeeze_append_quote (before after : List Char) :
    squeeze (before ++ '\'' :: after) = squeeze before ++ '\'' :: squeeze after := by
  rw [squeeze, collapse_append_quote, tightenOpen_append_quote,
    tightenBefore_append_quote (by decide), tightenBefore_append_quote (by decide)]
  rfl

/-! ## What the passes keep and drop -/

theorem mem_collapse {c : Char} {text : List Char} (member : c ∈ collapse text) :
    c = ' ' ∨ c ∈ text := by
  fun_induction collapse text with
  | case1 => exact absurd member List.not_mem_nil
  | case2 d rest blank ih =>
    rcases List.mem_cons.1 member with same | member
    · exact .inl same
    · refine (ih member).imp_right fun inRest => List.mem_cons_of_mem _ ?_
      exact (List.dropWhile_sublist _).subset inRest
  | case3 d rest solid ih =>
    rcases List.mem_cons.1 member with same | member
    · exact .inr (same ▸ List.mem_cons_self)
    · exact (ih member).imp_right (List.mem_cons_of_mem _)

theorem tightenOpen_sublist (text : List Char) : (tightenOpen text).Sublist text := by
  fun_induction tightenOpen text with
  | case1 rest ih => exact (ih.cons ' ').cons_cons '('
  | case2 c rest _ ih => exact ih.cons_cons c
  | case3 => exact .slnil

theorem tightenBefore_sublist (mark : Char) (text : List Char) :
    (tightenBefore mark text).Sublist text := by
  fun_induction tightenBefore mark text with
  | case1 c rest _ ih => exact (ih.cons_cons c).cons ' '
  | case2 c rest _ ih => exact ih.cons_cons ' '
  | case3 c rest _ ih => exact ih.cons_cons c
  | case4 => exact .slnil

theorem squeeze_sublist_collapse (text : List Char) : (squeeze text).Sublist (collapse text) :=
  ((tightenBefore_sublist _ _).trans (tightenBefore_sublist _ _)).trans (tightenOpen_sublist _)

theorem quote_not_mem_squeeze {text : List Char} (plain : '\'' ∉ text) : '\'' ∉ squeeze text := by
  intro member
  rcases mem_collapse ((squeeze_sublist_collapse text).subset member) with space | member
  · exact absurd space (by decide)
  · exact plain member

/-! ## Pieces -/

open Quoted

theorem pieces_squeeze (sql : List Char) : pieces (squeeze sql) = (pieces sql).map squeeze := by
  induction sql using quoteInduction with
  | plain text plain =>
    rw [pieces_plain plain, pieces_plain (quote_not_mem_squeeze plain)]
    rfl
  | quote before after plain ih =>
    rw [squeeze_append_quote, pieces_append_quote, pieces_append_quote, ih, pieces_plain plain,
      pieces_plain (quote_not_mem_squeeze plain)]
    rfl

theorem keepInner_map (f : List Char → List Char) (texts : List (List Char)) :
    keepInner (texts.map f) = (keepInner texts).map f := by
  fun_induction keepInner texts with
  | case1 outer piece next rest ih => simpa [keepInner] using ih
  | case2 texts short =>
    match texts with
    | [] | [_] | [_, _] => rfl
    | outer :: piece :: next :: rest => exact absurd rfl (short outer piece next rest)

theorem contents_squeeze (sql : List Char) : contents (squeeze sql) = (contents sql).map squeeze := by
  rw [contents, pieces_squeeze, keepInner_map]
  rfl

/-! The cut at the ends reaches the first piece and the last, which stand outside or have no
closing quote. -/

theorem trimStart_append_quote (before after : List Char) :
    Text.trimStart (before ++ '\'' :: after) = Text.trimStart before ++ '\'' :: after :=
  dropBlank_append_quote before after

theorem quote_not_mem_trimStart {text : List Char} (plain : '\'' ∉ text) :
    '\'' ∉ Text.trimStart text :=
  fun member => plain ((List.dropWhile_sublist _).subset member)

theorem pieces_trimStart (sql : List Char) :
    ∃ first first' rest, pieces sql = first :: rest ∧ pieces (Text.trimStart sql) = first' :: rest := by
  induction sql using quoteInduction with
  | plain text plain =>
    have trimmed := pieces_plain (quote_not_mem_trimStart plain)
    exact ⟨text, Text.trimStart text, [], pieces_plain plain, trimmed⟩
  | quote before after plain _ =>
    refine ⟨before, Text.trimStart before, pieces after, ?_, ?_⟩
    · rw [pieces_append_quote, pieces_plain plain]
      rfl
    · rw [trimStart_append_quote, pieces_append_quote, pieces_plain (quote_not_mem_trimStart plain)]
      rfl

theorem trimEnd_append_quote (before after : List Char) :
    Text.trimEnd (before ++ '\'' :: after) = before ++ '\'' :: Text.trimEnd after := by
  simp only [Text.trimEnd, List.reverse_append, List.reverse_cons, List.append_assoc]
  rw [List.singleton_append, dropBlank_append_quote]
  simp

theorem pieces_trimEnd (sql : List Char) :
    ∃ rest last last', pieces sql = rest ++ [last] ∧ pieces (Text.trimEnd sql) = rest ++ [last'] := by
  induction sql using quoteInduction with
  | plain text plain =>
    have plain' : '\'' ∉ Text.trimEnd text := fun member => by
      rw [Text.trimEnd, List.mem_reverse] at member
      exact plain (List.mem_reverse.1 ((List.dropWhile_sublist _).subset member))
    exact ⟨[], text, Text.trimEnd text, pieces_plain plain, pieces_plain plain'⟩
  | quote before after _ ih =>
    obtain ⟨rest, last, last', cut, cut'⟩ := ih
    refine ⟨pieces before ++ rest, last, last', ?_, ?_⟩
    · rw [pieces_append_quote, cut, List.append_assoc]
    · rw [trimEnd_append_quote, pieces_append_quote, cut', List.append_assoc]

theorem keepInner_append_last (texts : List (List Char)) (last last' : List Char) :
    keepInner (texts ++ [last]) = keepInner (texts ++ [last']) := by
  match texts with
  | [] | [_] => rfl
  | [_, _] => rfl
  | outer :: piece :: next :: rest =>
    have ih := keepInner_append_last (next :: rest) last last'
    simpa [keepInner] using ih

theorem contents_trim (sql : List Char) : contents (Text.trim sql) = contents sql := by
  have start : contents (Text.trimStart sql) = contents sql := by
    obtain ⟨first, first', rest, cut, cut'⟩ := pieces_trimStart sql
    rw [contents, contents, cut, cut']
    match rest with
    | [] | [_] | _ :: _ :: _ => rfl
  obtain ⟨rest, last, last', cut, cut'⟩ := pieces_trimEnd (Text.trimStart sql)
  rw [Text.trim, ← start, contents, contents, cut, cut']
  exact keepInner_append_last rest last' last

/-- The layout rewrites what stands in quotes just as it does the rest. -/
theorem contents_format (sql : List Char) : contents (format sql) = (contents sql).map squeeze :=
  (contents_trim (squeeze sql)).trans (contents_squeeze sql)

theorem closed_squeeze {text : List Char} (closed : Closed text) : Closed (squeeze text) := by
  induction closed with
  | plain plain => exact .plain (quote_not_mem_squeeze plain)
  | quoted plain within _ ih =>
    rw [squeeze_append_quote, squeeze_append_quote]
    exact .quoted (quote_not_mem_squeeze plain) (quote_not_mem_squeeze within) ih

theorem squeeze_nil : squeeze [] = [] := by simp [squeeze, collapse, tightenOpen, tightenBefore]

theorem squeeze_cons_quote (rest : List Char) : squeeze ('\'' :: rest) = '\'' :: squeeze rest := by
  have beside := squeeze_append_quote [] rest
  rwa [squeeze_nil] at beside

theorem squeeze_quoteSql (text : List Char) :
    squeeze (Value.quoteSql text) = Value.quoteSql (squeeze text) := by
  induction text using quoteInduction with
  | plain text plain =>
    rw [quoteSql_plain plain, quoteSql_plain (quote_not_mem_squeeze plain), squeeze_cons_quote,
      squeeze_append_quote, squeeze_nil]
  | quote before after plain ih =>
    rw [quoteSql_append_quote plain, squeeze_append_quote,
      quoteSql_append_quote (quote_not_mem_squeeze plain), squeeze_cons_quote,
      squeeze_append_quote, ih]

/-- A literal is laid out apart from what stands around it. -/
theorem squeeze_append_quoteSql (before value after : List Char) :
    squeeze (before ++ (Value.quoteSql value ++ after)) =
      squeeze before ++ (Value.quoteSql (squeeze value) ++ squeeze after) := by
  have alone := squeeze_quoteSql value
  rw [quoteSql_eq value, squeeze_cons_quote, squeeze_append_quote, squeeze_nil] at alone
  rw [← alone, quoteSql_eq]
  simp only [List.cons_append, List.append_assoc, List.nil_append]
  rw [squeeze_append_quote, squeeze_append_quote]

theorem trimStart_append_quoteSql (before value after : List Char) :
    Text.trimStart (before ++ (Value.quoteSql value ++ after)) =
      Text.trimStart before ++ (Value.quoteSql value ++ after) := by
  rw [quoteSql_eq, List.cons_append]
  exact trimStart_append_quote before _

theorem trimEnd_append_quoteSql (before value after : List Char) :
    Text.trimEnd (before ++ (Value.quoteSql value ++ after)) =
      before ++ (Value.quoteSql value ++ Text.trimEnd after) := by
  have closing := trimEnd_append_quote (before ++ '\'' :: doubled value) after
  simpa [quoteSql_eq] using closing

theorem closed_trimStart {text : List Char} (closed : Closed text) :
    Closed (Text.trimStart text) := by
  cases closed with
  | plain plain => exact .plain (quote_not_mem_trimStart plain)
  | quoted plain within closed =>
    rw [trimStart_append_quote]
    exact .quoted (quote_not_mem_trimStart plain) within closed

/-! ## Tidy texts -/

/-- A text in which the layout has nothing to rewrite. -/
structure Tidy (text : List Char) : Prop where
  /-- The only white space is the space. -/
  spaces : ∀ c ∈ text, Text.isBlank c = true → c = ' '
  /-- No space stands beside another, behind an opening parenthesis, before a closing one or before
  a comma. -/
  tight : ∀ pair ∈ [[' ', ' '], ['(', ' '], [' ', ')'], [' ', ',']], ¬ pair <:+: text

theorem pair_infix_cons {a b c : Char} {rest : List Char} :
    [a, b] <:+: c :: rest ↔ (a = c ∧ rest.head? = some b) ∨ [a, b] <:+: rest := by
  rw [List.infix_cons_iff, List.cons_prefix_cons, List.singleton_prefix_iff_head?_eq_some]

theorem length_collapse_le (text : List Char) : (collapse text).length ≤ text.length := by
  fun_induction collapse text with
  | case1 => exact Nat.le_refl _
  | case2 c rest blank ih =>
    have := (List.dropWhile_sublist Text.isBlank (l := rest)).length_le
    simp only [List.length_cons]
    omega
  | case3 c rest solid ih =>
    simp only [List.length_cons]
    omega

theorem collapse_eq_self_iff (text : List Char) :
    collapse text = text ↔
      (∀ c ∈ text, Text.isBlank c = true → c = ' ') ∧ ¬ [' ', ' '] <:+: text := by
  fun_induction collapse text with
  | case1 => simp
  | case2 c rest blank ih =>
    by_cases next : ∃ d, rest.head? = some d ∧ Text.isBlank d = true
    -- A second blank is dropped, and it makes a pair of spaces if both are spaces.
    · obtain ⟨d, head, blank'⟩ := next
      obtain ⟨rest', same⟩ := List.head?_eq_some_iff.1 head
      subst same
      refine iff_of_false (fun same => ?_) fun ⟨spaces, single⟩ => ?_
      · have kept := length_collapse_le ((d :: rest').dropWhile Text.isBlank)
        have dropped := (List.dropWhile_sublist Text.isBlank (l := rest')).length_le
        rw [List.cons.injEq] at same
        rw [same.2, List.dropWhile_cons_of_pos blank', List.length_cons] at kept
        omega
      · have first := spaces c List.mem_cons_self blank
        have second := spaces d (List.mem_cons_of_mem _ List.mem_cons_self) blank'
        exact single (pair_infix_cons.2 (.inl ⟨first.symm, second ▸ rfl⟩))
    · have kept : rest.dropWhile Text.isBlank = rest := by
        cases rest with
        | nil => rfl
        | cons d rest' =>
          exact List.dropWhile_cons_of_neg fun blank' => next ⟨d, rfl, blank'⟩
      have first : ¬ (' ' = c ∧ rest.head? = some ' ') :=
        fun ⟨_, head⟩ => next ⟨' ', head, by decide⟩
      rw [kept] at ih ⊢
      rw [List.cons.injEq, ih, pair_infix_cons, List.forall_mem_cons, or_iff_right first, and_assoc]
      exact and_congr_left fun _ => ⟨fun same _ => same.symm, fun spaces => (spaces blank).symm⟩
  | case3 c rest solid ih =>
    have first : ¬ (' ' = c ∧ rest.head? = some ' ') := by
      rintro ⟨same, -⟩
      subst same
      exact solid (by decide)
    rw [List.cons.injEq, ih, pair_infix_cons]
    simp [first, solid]

theorem tightenOpen_eq_self_iff (text : List Char) :
    tightenOpen text = text ↔ ¬ ['(', ' '] <:+: text := by
  fun_induction tightenOpen text with
  | case1 rest ih =>
    have shorter := (tightenOpen_sublist rest).length_le
    refine iff_of_false (fun same => ?_) fun none => none (pair_infix_cons.2 (.inl ⟨rfl, rfl⟩))
    have := congrArg List.length same
    simp only [List.length_cons] at this
    omega
  | case2 c rest other ih =>
    have first : ¬ ('(' = c ∧ rest.head? = some ' ') := by
      rintro ⟨same, space⟩
      cases rest with
      | nil => cases space
      | cons d rest => exact other rest same.symm (by rw [Option.some.inj space])
    rw [List.cons.injEq, ih, pair_infix_cons]
    simp [first]
  | case3 => simp

theorem tightenBefore_eq_self_iff (mark : Char) (text : List Char) :
    tightenBefore mark text = text ↔ ¬ [' ', mark] <:+: text := by
  fun_induction tightenBefore mark text with
  | case1 c rest marked ih =>
    have shorter := (tightenBefore_sublist mark rest).length_le
    have same : c = mark := by simpa using marked
    refine iff_of_false (fun same => ?_) fun none =>
      none (pair_infix_cons.2 (.inl ⟨rfl, by rw [same]; rfl⟩))
    have := congrArg List.length same
    simp only [List.length_cons] at this
    omega
  | case2 c rest unmarked ih =>
    have different : c ≠ mark := by simpa using unmarked
    rw [List.cons.injEq, ih, @pair_infix_cons ' ' mark ' ']
    simp [different]
  | case3 c rest other ih =>
    have first : ¬ (' ' = c ∧ rest.head? = some mark) := by
      rintro ⟨same, found⟩
      cases rest with
      | nil => cases found
      | cons d rest => exact other d rest same.symm rfl
    rw [List.cons.injEq, ih, pair_infix_cons]
    simp [first]
  | case4 => simp

/-- Every pass only shortens, so where the whole changes nothing no pass does. -/
theorem squeeze_eq_self_iff (text : List Char) : squeeze text = text ↔ Tidy text := by
  constructor
  · intro same
    have collapsed : collapse text = text := by
      have all := squeeze_sublist_collapse text
      rw [same] at all
      exact (all.eq_of_length_le (length_collapse_le text)).symm
    have openPass := tightenOpen_sublist text
    have closePass := tightenBefore_sublist ')' (tightenOpen text)
    have commaPass := tightenBefore_sublist ',' (tightenBefore ')' (tightenOpen text))
    -- The last pass ends with all characters, so the two before it have dropped none.
    rw [squeeze, collapsed] at same
    rw [same] at commaPass
    have opened : tightenOpen text = text :=
      openPass.eq_of_length_le (commaPass.trans closePass).length_le
    rw [opened] at same closePass commaPass
    have closed : tightenBefore ')' text = text := closePass.eq_of_length_le commaPass.length_le
    rw [closed] at same
    obtain ⟨spaces, single⟩ := (collapse_eq_self_iff text).1 collapsed
    refine ⟨spaces, fun pair member => ?_⟩
    simp only [List.mem_cons, List.not_mem_nil, or_false] at member
    rcases member with rfl | rfl | rfl | rfl
    · exact single
    · exact (tightenOpen_eq_self_iff text).1 opened
    · exact (tightenBefore_eq_self_iff ')' text).1 closed
    · exact (tightenBefore_eq_self_iff ',' text).1 same
  · intro tidy
    have collapsed := (collapse_eq_self_iff text).2 ⟨tidy.spaces, tidy.tight _ (by simp)⟩
    have opened := (tightenOpen_eq_self_iff text).2 (tidy.tight _ (by simp))
    have closed := (tightenBefore_eq_self_iff ')' text).2 (tidy.tight _ (by simp))
    have comma := (tightenBefore_eq_self_iff ',' text).2 (tidy.tight _ (by simp))
    rw [squeeze, collapsed, opened, closed, comma]

end SqlPreview.Layout
