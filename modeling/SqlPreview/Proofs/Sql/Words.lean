import SqlPreview.Proofs.Sql.Squeeze
import SqlPreview.Proofs.Text.Blank

/-!
# The layout by words

The layout is a row of rewrites and a cut, but what comes out can be said at once: the words of the
text, with one space between neighbours where no parenthesis and no comma asks for none.

This file defines:
1. the words of a text, by where they stand (`Runs`);
2. the layout of given words (`laidOut`);
3. texts in which white space is dropped or made a space (`Respaced`).

Results:
1. `squeeze_break`: at white space between two words the rewrites leave what the words ask for.
2. `format_eq_laidOut`: the layout of a text is the layout of its words, so it is final and
   touches nothing but white space.
-/

namespace SqlPreview.Layout

/-! ## Words -/

/-- A text without white space. -/
def Solid (text : List Char) : Prop := ∀ c ∈ text, Text.isBlank c = false

/-- The second texts are the words of the first: they hold no white space, and only white space
stands before, between and behind them. -/
inductive Runs : List Char → List (List Char) → Prop
  | blank {gap : List Char} : (∀ c ∈ gap, Text.isBlank c = true) → Runs gap []
  | word {gap word rest : List Char} {words : List (List Char)} :
      (∀ c ∈ gap, Text.isBlank c = true) → word ≠ [] → Solid word →
      (∀ c, rest.head? = some c → Text.isBlank c = true) → Runs rest words →
      Runs (gap ++ (word ++ rest)) (word :: words)

/-- What the layout puts between two neighbours, which their facing characters decide. -/
def between (word next : List Char) : List Char :=
  if word.getLast? = some '(' ∨ next.head? = some ')' ∨ next.head? = some ',' then [] else [' ']

/-- Words in their final layout. -/
def laidOut : List (List Char) → List Char
  | [] => []
  | [word] => word
  | word :: next :: rest => word ++ (between word next ++ laidOut (next :: rest))

/-- The second text is the first one with some of its white space dropped and all other white space
made a space. -/
inductive Respaced : List Char → List Char → Prop
  | nil : Respaced [] []
  | keep {c : Char} {text out : List Char} : Text.isBlank c = false → Respaced text out →
      Respaced (c :: text) (c :: out)
  | drop {c : Char} {text out : List Char} : Text.isBlank c = true → Respaced text out →
      Respaced (c :: text) out
  | space {c : Char} {text out : List Char} : Text.isBlank c = true → Respaced text out →
      Respaced (c :: text) (' ' :: out)

theorem Solid.ne_space {text : List Char} (solid : Solid text) {c : Char} (member : c ∈ text) :
    c ≠ ' ' := by
  rintro rfl
  exact absurd (solid _ member) (by decide)

theorem solid_cons {c : Char} {text : List Char} :
    Solid (c :: text) ↔ Text.isBlank c = false ∧ Solid text := List.forall_mem_cons

/-! ## The passes beside a word -/

variable {word : List Char}

theorem collapse_solid_append (solid : Solid word) (rest : List Char) :
    collapse (word ++ rest) = word ++ collapse rest := by
  induction word with
  | nil => rfl
  | cons c word ih =>
    obtain ⟨here, there⟩ := solid_cons.1 solid
    rw [List.cons_append, collapse_cons, if_neg (by simp [here]), ih there]
    rfl

theorem head_collapse {text : List Char} (starts : Text.StartsSolid text) :
    (collapse text).head? = text.head? := by
  cases text with
  | nil => rw [collapse]
  | cons c rest =>
    rw [collapse_cons, if_neg (by simp [starts c rfl])]
    rfl

theorem head_tightenOpen (text : List Char) : (tightenOpen text).head? = text.head? := by
  fun_cases tightenOpen text with
  | case1 rest => rfl
  | case2 c rest _ => rfl
  | case3 => rfl

theorem head_tightenBefore (mark : Char) {text : List Char} (starts : text.head? ≠ some ' ') :
    (tightenBefore mark text).head? = text.head? := by
  cases text with
  | nil => rfl
  | cons c rest =>
    rw [tightenBefore_cons]
    · rfl
    · rintro ⟨rfl, -⟩
      exact starts rfl

theorem tightenOpen_solid_append (solid : Solid word) {rest : List Char}
    (starts : rest.head? ≠ some ' ') : tightenOpen (word ++ rest) = word ++ tightenOpen rest := by
  induction word with
  | nil => rfl
  | cons c word ih =>
    rw [List.cons_append, tightenOpen_cons, ih (solid_cons.1 solid).2]
    · rfl
    · rintro ⟨-, space⟩
      cases word with
      | nil => exact starts space
      | cons d word =>
        have second : d ≠ ' ' := solid.ne_space (List.mem_cons_of_mem _ List.mem_cons_self)
        exact second (Option.some.inj space)

/-- A space behind a word goes if the word ends with an opening parenthesis. -/
theorem tightenOpen_space (solid : Solid word) (rest : List Char) :
    tightenOpen (word ++ ' ' :: rest) =
      word ++ ((if word.getLast? = some '(' then [] else [' ']) ++ tightenOpen rest) := by
  induction word with
  | nil =>
    rw [List.nil_append, tightenOpen_cons (by simp)]
    rfl
  | cons c word ih =>
    have ih := ih (solid_cons.1 solid).2
    cases word with
    | nil =>
      by_cases bracket : c = '('
      · subst bracket
        rfl
      · rw [List.cons_append, tightenOpen_cons fun h => bracket h.1, List.nil_append,
          tightenOpen_cons (by simp)]
        simp [bracket]
    | cons d word =>
      have second : d ≠ ' ' := solid.ne_space (List.mem_cons_of_mem _ List.mem_cons_self)
      rw [List.cons_append, tightenOpen_cons, ih, List.getLast?_cons_cons]
      · rfl
      · rintro ⟨-, space⟩
        exact second (Option.some.inj space)

theorem tightenBefore_solid_append (mark : Char) (solid : Solid word) (rest : List Char) :
    tightenBefore mark (word ++ rest) = word ++ tightenBefore mark rest := by
  induction word with
  | nil => rfl
  | cons c word ih =>
    rw [List.cons_append, tightenBefore_cons, ih (solid_cons.1 solid).2]
    · rfl
    · rintro ⟨space, -⟩
      exact solid.ne_space List.mem_cons_self space

/-- A space that an earlier pass may have dropped goes now if the mark stands behind it. -/
theorem tightenBefore_gap {mark : Char} (other : mark ≠ ' ') (gone : Prop) [Decidable gone]
    (rest : List Char) :
    tightenBefore mark ((if gone then [] else [' ']) ++ rest) =
      (if gone ∨ rest.head? = some mark then [] else [' ']) ++ tightenBefore mark rest := by
  by_cases dropped : gone
  · simp [dropped]
  · by_cases marked : rest.head? = some mark
    · obtain ⟨behind, same⟩ := List.head?_eq_some_iff.1 marked
      subst same
      rw [if_neg dropped, if_pos (.inr marked), List.singleton_append, tightenBefore_space_mark,
        tightenBefore_cons fun h => other h.1]
      rfl
    · have kept : ¬ (gone ∨ rest.head? = some mark) := not_or.2 ⟨dropped, marked⟩
      rw [if_neg dropped, if_neg kept, List.singleton_append,
        tightenBefore_cons fun h => marked h.2]
      rfl

/-- The character that a text begins with goes through all passes, so each pass sees it. -/
theorem head_opened {text : List Char} (starts : Text.StartsSolid text) :
    (tightenOpen (collapse text)).head? = text.head? :=
  (head_tightenOpen _).trans (head_collapse starts)

theorem head_closed {text : List Char} (starts : Text.StartsSolid text) :
    (tightenBefore ')' (tightenOpen (collapse text))).head? = text.head? :=
  (head_tightenBefore ')' (head_opened starts ▸ starts.head_ne_space)).trans (head_opened starts)

theorem head_squeeze {text : List Char} (starts : Text.StartsSolid text) :
    (squeeze text).head? = text.head? :=
  (head_tightenBefore ',' (head_closed starts ▸ starts.head_ne_space)).trans (head_closed starts)

/-- White space behind a word becomes what the word and the text behind it ask for. A word without
characters stands for the start of the text. -/
theorem squeeze_break (solid : Solid word) {b : Char} (blank : Text.isBlank b = true)
    (rest : List Char) :
    squeeze (word ++ b :: rest) =
      word ++ (between word (Text.trimStart rest) ++ squeeze (Text.trimStart rest)) := by
  have starts := Text.startsSolid_trimStart rest
  have collapsed : collapse (word ++ b :: rest) =
      word ++ ' ' :: collapse (Text.trimStart rest) := by
    rw [collapse_solid_append solid, collapse_cons, if_pos blank]
    rfl
  rw [squeeze, collapsed, tightenOpen_space solid, tightenBefore_solid_append ')' solid,
    tightenBefore_gap (by decide), tightenBefore_solid_append ',' solid,
    tightenBefore_gap (by decide), head_opened starts, head_closed starts]
  simp only [or_assoc]
  rfl

theorem squeeze_solid_append (solid : Solid word) {rest : List Char}
    (starts : Text.StartsSolid rest) :
    squeeze (word ++ rest) = word ++ squeeze rest := by
  have first : (collapse rest).head? ≠ some ' ' := head_collapse starts ▸ starts.head_ne_space
  rw [squeeze, collapse_solid_append solid, tightenOpen_solid_append solid first,
    tightenBefore_solid_append ')' solid, tightenBefore_solid_append ',' solid]
  rfl

theorem squeeze_solid (solid : Solid word) : squeeze word = word := by
  have alone : squeeze (word ++ []) = word ++ squeeze [] :=
    squeeze_solid_append solid fun c head => by cases head
  rwa [List.append_nil, squeeze_nil, List.append_nil] at alone

/-! ## The cut at the ends -/

theorem trimStart_squeeze (text : List Char) :
    Text.trimStart (squeeze text) = squeeze (Text.trimStart text) := by
  have kept {text : List Char} (starts : Text.StartsSolid text) :
      Text.trimStart (squeeze text) = squeeze text := by
    refine Text.StartsSolid.trimStart_eq ?_
    rw [Text.StartsSolid, head_squeeze starts]
    exact starts
  cases text with
  | nil => exact kept (Text.startsSolid_trimStart [])
  | cons b rest =>
    cases blank : Text.isBlank b with
    | false =>
      have starts : Text.StartsSolid (b :: rest) := by
        rintro c ⟨⟩
        exact blank
      rw [kept starts, starts.trimStart_eq]
    | true =>
      have none : Solid [] := List.forall_mem_nil _
      have start : squeeze (b :: rest) = between [] (Text.trimStart rest) ++
          squeeze (Text.trimStart rest) :=
        squeeze_break none blank rest
      rw [start, Text.trimStart_cons_blank blank, between]
      split
      · exact kept (Text.startsSolid_trimStart rest)
      · rw [List.singleton_append, Text.trimStart_cons_blank (by decide)]
        exact kept (Text.startsSolid_trimStart rest)

theorem trimEnd_solid (solid : Solid word) : Text.trimEnd word = word :=
  Text.trimEnd_eq_self fun c head => solid c (List.mem_reverse.1 (List.mem_of_mem_head? head))

/-! ## All words -/

theorem words_cons_blank {b : Char} (blank : Text.isBlank b = true) (rest : List Char) :
    Text.words (b :: rest) = Text.words rest := by
  rw [Text.words, if_pos blank]

/-- Induction on the words of a text, the first one first. -/
@[elab_as_elim]
theorem wordInduction {motive : List Char → Prop} (nil : motive [])
    (blank : ∀ b rest, Text.isBlank b = true → motive rest → motive (b :: rest))
    (word : ∀ word rest, word ≠ [] → Solid word →
      (∀ c, rest.head? = some c → Text.isBlank c = true) →
      Text.words (word ++ rest) = word :: Text.words rest → motive rest → motive (word ++ rest))
    (text : List Char) : motive text := by
  fun_induction Text.words text with
  | case1 => exact nil
  | case2 b rest isBlank ih => exact blank b rest isBlank ih
  | case3 c rest isSolid ih =>
    have first : Text.isBlank c = false := by simpa using isSolid
    have split : c :: rest =
        (c :: rest.takeWhile fun d => !Text.isBlank d) ++
          rest.dropWhile fun d => !Text.isBlank d := by
      rw [List.cons_append, List.takeWhile_append_dropWhile]
    have cut : Text.words (c :: rest) = (c :: rest.takeWhile fun d => !Text.isBlank d) ::
        Text.words (rest.dropWhile fun d => !Text.isBlank d) := by
      rw [Text.words, if_neg isSolid]
    rw [split] at cut ⊢
    refine word _ _ (List.cons_ne_nil _ _) (solid_cons.2 ⟨first, ?_⟩) ?_ cut ih
    · intro d member
      simpa using List.mem_takeWhile_imp member
    · intro d head
      have stops := List.head?_dropWhile_not (fun d => !Text.isBlank d) rest
      rw [head] at stops
      simpa using stops

theorem Runs.cons_blank {b : Char} (blank : Text.isBlank b = true) {text : List Char}
    {words : List (List Char)} (runs : Runs text words) : Runs (b :: text) words := by
  cases runs with
  | blank gap => exact .blank (List.forall_mem_cons.2 ⟨blank, gap⟩)
  | word gap nonempty solid stops runs =>
    exact .word (List.forall_mem_cons.2 ⟨blank, gap⟩) nonempty solid stops runs

theorem runs_words (text : List Char) : Runs text (Text.words text) := by
  induction text using wordInduction with
  | nil =>
    rw [Text.words]
    exact .blank (List.forall_mem_nil _)
  | blank b rest blank ih =>
    rw [words_cons_blank blank]
    exact ih.cons_blank blank
  | word word rest nonempty solid stops cut ih =>
    rw [cut]
    have none : ∀ c ∈ [], Text.isBlank c = true := List.forall_mem_nil _
    exact .word none nonempty solid stops ih

theorem mem_of_runs {text : List Char} {words : List (List Char)} (runs : Runs text words) :
    ∀ word ∈ words, word ≠ [] ∧ Solid word := by
  induction runs with
  | blank => exact List.forall_mem_nil _
  | word _ nonempty solid _ _ ih => exact List.forall_mem_cons.2 ⟨⟨nonempty, solid⟩, ih⟩

theorem head_words (text : List Char) :
    (Text.trimStart text).head? = (Text.words text).head?.bind List.head? := by
  induction text using wordInduction with
  | nil => rw [Text.words]; rfl
  | blank b rest blank ih =>
    rw [words_cons_blank blank, Text.trimStart_cons_blank blank, ih]
  | word word rest nonempty solid _ cut _ =>
    obtain ⟨c, word, rfl⟩ := List.exists_cons_of_ne_nil nonempty
    rw [cut, Text.trimStart, List.cons_append,
      List.dropWhile_cons_of_neg (by simp [solid c List.mem_cons_self])]
    rfl

theorem laidOut_cons_ne_nil (nonempty : word ≠ []) (rest : List (List Char)) :
    laidOut (word :: rest) ≠ [] := by
  cases rest with
  | nil => exact nonempty
  | cons next rest => exact List.append_ne_nil_of_left_ne_nil nonempty _

theorem head_laidOut (nonempty : word ≠ []) (rest : List (List Char)) :
    (laidOut (word :: rest)).head? = word.head? := by
  cases rest with
  | nil => rfl
  | cons next rest => exact List.head?_append_of_ne_nil _ nonempty

theorem startsSolid_laidOut {words : List (List Char)}
    (each : ∀ word ∈ words, word ≠ [] ∧ Solid word) : Text.StartsSolid (laidOut words) := by
  intro c head
  cases words with
  | nil => cases head
  | cons word rest =>
    obtain ⟨nonempty, solid⟩ := each word List.mem_cons_self
    rw [head_laidOut nonempty] at head
    exact solid c (List.mem_of_mem_head? head)

theorem between_eq (word next : List Char) :
    between word next = [] ∨ between word next = [' '] := by
  unfold between
  split
  · exact .inl rfl
  · exact .inr rfl

theorem blank_between (word next : List Char) :
    ∀ c ∈ between word next, Text.isBlank c = true := by
  intro c member
  rcases between_eq word next with joined | space
  · rw [joined] at member
    cases member
  · rw [space, List.mem_singleton] at member
    subst member
    decide

/-- The facing characters of two texts decide what stands between them. -/
theorem between_congr (word : List Char) {next next' : List Char}
    (same : next.head? = next'.head?) :
    between word next = between word next' := by
  rw [between, between, same]

/-- The induction is on the words: what is behind a word starts at the next one, and what the
rewrites leave between the two depends on the next one alone. -/
theorem trimEnd_squeeze (text : List Char) :
    Text.trimEnd (squeeze (Text.trimStart text)) = laidOut (Text.words text) := by
  induction text using wordInduction with
  | nil => rw [Text.trimStart, List.dropWhile_nil, squeeze_nil, Text.words]; rfl
  | blank b rest blank ih =>
    rw [words_cons_blank blank, Text.trimStart_cons_blank blank, ih]
  | word word rest nonempty solid stops cut ih =>
    have starts : Text.StartsSolid (word ++ rest) := by
      intro c head
      rw [List.head?_append_of_ne_nil _ nonempty] at head
      exact solid c (List.mem_of_mem_head? head)
    rw [cut, starts.trimStart_eq]
    cases rest with
    | nil => rw [List.append_nil, squeeze_solid solid, trimEnd_solid solid, Text.words]; rfl
    | cons b rest =>
      have blank : Text.isBlank b = true := stops b rfl
      have first := head_words rest
      rw [Text.trimStart_cons_blank blank, words_cons_blank blank] at ih
      rw [squeeze_break solid blank, words_cons_blank blank]
      cases words : Text.words rest with
      | nil =>
        rw [words] at first
        rw [List.head?_eq_none_iff.1 first, squeeze_nil, List.append_nil,
          Text.trimEnd_append_blank _ (blank_between _ _), trimEnd_solid solid]
        rfl
      | cons next others =>
        have filled := (mem_of_runs (words ▸ runs_words rest) next List.mem_cons_self).1
        rw [words] at first ih
        have more : Text.trimEnd (squeeze (Text.trimStart rest)) ≠ [] :=
          ih ▸ laidOut_cons_ne_nil filled others
        rw [← List.append_assoc, Text.trimEnd_append _ more, ih, between_congr word first,
          List.append_assoc]
        rfl

/-! ## Laid out words are final -/

theorem squeeze_laidOut {words : List (List Char)} (each : ∀ word ∈ words, word ≠ [] ∧ Solid word) :
    squeeze (laidOut words) = laidOut words := by
  fun_induction laidOut words with
  | case1 => exact squeeze_nil
  | case2 word => exact squeeze_solid (each word List.mem_cons_self).2
  | case3 word next rest ih =>
    obtain ⟨⟨-, solid⟩, others⟩ := List.forall_mem_cons.1 each
    have starts := startsSolid_laidOut others
    have first := head_laidOut (others next List.mem_cons_self).1 rest
    rw [← between_congr word first]
    -- A space that was left between two words is left again, and for the same reason.
    rcases between_eq word (laidOut (next :: rest)) with joined | space
    · rw [joined, List.nil_append, squeeze_solid_append solid starts, ih others]
    · have again := squeeze_break solid (b := ' ') (by decide) (laidOut (next :: rest))
      rw [starts.trimStart_eq, space, ih others] at again
      rw [space]
      exact again

/-! ## Only white space changes -/

theorem Respaced.solid_append (solid : Solid word) {rest out : List Char}
    (respaced : Respaced rest out) : Respaced (word ++ rest) (word ++ out) := by
  induction word with
  | nil => exact respaced
  | cons c word ih =>
    obtain ⟨here, there⟩ := solid_cons.1 solid
    exact .keep here (ih there)

/-- White space before a text that does not begin with any was dropped. -/
theorem Respaced.of_cons_blank {b : Char} (blank : Text.isBlank b = true) {rest out : List Char}
    (starts : Text.StartsSolid out) (respaced : Respaced (b :: rest) out) : Respaced rest out := by
  cases respaced with
  | keep solid _ =>
    rw [blank] at solid
    cases solid
  | drop _ respaced => exact respaced
  | space _ _ => exact absurd rfl starts.head_ne_space

theorem respaced_words (text : List Char) : Respaced text (laidOut (Text.words text)) := by
  induction text using wordInduction with
  | nil =>
    rw [Text.words]
    exact .nil
  | blank b rest blank ih =>
    rw [words_cons_blank blank]
    exact .drop blank ih
  | word word rest nonempty solid stops cut ih =>
    rw [cut]
    have each := mem_of_runs (runs_words rest)
    cases words : Text.words rest with
    | nil =>
      have alone := ih.solid_append solid
      rwa [words, laidOut, List.append_nil] at alone
    | cons next others =>
      rw [words] at ih each
      refine Respaced.solid_append solid ?_
      rcases between_eq word next with joined | space
      · rw [joined]
        exact ih
      · cases rest with
        | nil =>
          rw [Text.words] at words
          cases words
        | cons b rest =>
          have blank : Text.isBlank b = true := stops b rfl
          rw [space]
          exact .space blank (ih.of_cons_blank blank (startsSolid_laidOut each))

/-- The layout of a text is that of its words: one space between neighbours, and none behind an
opening parenthesis, before a closing one or before a comma. So a second pass changes nothing, and
one pass drops white space or makes it a space and keeps all else. -/
theorem format_eq_laidOut (sql : List Char) :
    Runs sql (Text.words sql) ∧ format sql = laidOut (Text.words sql) ∧
    format (format sql) = format sql ∧ Respaced sql (format sql) := by
  have laid : format sql = laidOut (Text.words sql) := by
    rw [format, ← squeeze, Text.trim, trimStart_squeeze, trimEnd_squeeze]
  have final : squeeze (format sql) = format sql := by
    rw [laid]
    exact squeeze_laidOut (mem_of_runs (runs_words sql))
  refine ⟨runs_words sql, laid, ?_, laid ▸ respaced_words sql⟩
  calc format (format sql) = Text.trim (squeeze (format sql)) := rfl
    _ = Text.trim (format sql) := by rw [final]
    _ = format sql := Text.trim_trim _

end SqlPreview.Layout
