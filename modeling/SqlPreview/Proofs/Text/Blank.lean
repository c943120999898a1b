import Mathlib
import SqlPreview.Text.Blank

/-!
# White space at the ends of texts

Trimming cuts white space at both ends. Here is what it leaves of a text in two parts, and which
texts it leaves alone.

Results:
1. `exists_trim`: a text is what trimming leaves of it with white space on either side.
2. `trim_trim`, `trim_of_plain`, `trim_of_solid_ends`: what trimming leaves alone.
-/

namespace SqlPreview.Text

/-- A text that does not begin with white space. -/
def StartsSolid (text : List Char) : Prop := ∀ c, text.head? = some c → isBlank c = false

theorem StartsSolid.trimStart_eq {text : List Char} (starts : StartsSolid text) :
    trimStart text = text := by
  cases text with
  | nil => rfl
  | cons c rest => exact List.dropWhile_cons_of_neg (by simp [starts c rfl])

theorem StartsSolid.head_ne_space {text : List Char} (starts : StartsSolid text) :
    text.head? ≠ some ' ' := by
  intro space
  exact absurd (starts _ space) (by decide)

/-- A part from the start of a text that begins without white space begins so too. -/
theorem StartsSolid.of_start {start text : List Char} (starts : StartsSolid text)
    (before : start <+: text) : StartsSolid start := by
  obtain ⟨rest, rfl⟩ := before
  intro c head
  exact starts c (by rw [List.head?_append, head]; rfl)

theorem startsSolid_trimStart (text : List Char) : StartsSolid (trimStart text) := by
  intro c head
  have stops := List.head?_dropWhile_not isBlank text
  rw [← trimStart, head] at stops
  simpa using stops

theorem trimStart_cons_blank {b : Char} (blank : isBlank b = true) (rest : List Char) :
    trimStart (b :: rest) = trimStart rest := List.dropWhile_cons_of_pos blank

theorem trimStart_append_blank {gap : List Char} (blank : ∀ c ∈ gap, isBlank c = true)
    (rest : List Char) : trimStart (gap ++ rest) = trimStart rest :=
  List.dropWhile_append_of_pos blank

theorem trimStart_append {text : List Char} (solid : trimStart text ≠ []) (rest : List Char) :
    trimStart (text ++ rest) = trimStart text ++ rest := by
  rw [trimStart, List.dropWhile_append]
  exact if_neg fun empty => solid (List.isEmpty_iff.1 empty)

/-- The first character that is not white space decides, not what is behind it. -/
theorem head?_trimStart_append {c : Char} (solid : isBlank c = false) (text rest : List Char) :
    (trimStart (text ++ c :: rest)).head? = (trimStart (text ++ [c])).head? := by
  induction text with
  | nil => simp [trimStart, solid]
  | cons d text ih =>
    cases blank : isBlank d with
    | true =>
      rw [List.cons_append, List.cons_append, trimStart_cons_blank blank,
        trimStart_cons_blank blank, ih]
    | false => simp [trimStart, blank]

theorem exists_trimStart (text : List Char) :
    ∃ gap, (∀ c ∈ gap, isBlank c = true) ∧ text = gap ++ trimStart text :=
  ⟨text.takeWhile isBlank, fun _ member => List.mem_takeWhile_imp member,
    List.takeWhile_append_dropWhile.symm⟩

/-! ## The end of a text -/

theorem reverse_trimEnd (text : List Char) : (trimEnd text).reverse = trimStart text.reverse :=
  List.reverse_reverse _

theorem trimEnd_isPrefix (text : List Char) : trimEnd text <+: text :=
  List.rdropWhile_prefix isBlank text

theorem exists_trimEnd (text : List Char) :
    ∃ gap, (∀ c ∈ gap, isBlank c = true) ∧ text = trimEnd text ++ gap := by
  obtain ⟨gap, blank, same⟩ := exists_trimStart text.reverse
  refine ⟨gap.reverse, fun c member => blank c (List.mem_reverse.1 member), ?_⟩
  rw [← reverse_trimEnd] at same
  rw [← List.reverse_inj, List.reverse_append, List.reverse_reverse]
  exact same

/-- The cut at the end does not reach past a character that it leaves. -/
theorem trimEnd_append {text : List Char} (before : List Char) (more : trimEnd text ≠ []) :
    trimEnd (before ++ text) = before ++ trimEnd text := by
  rw [trimEnd, List.reverse_ne_nil_iff] at more
  rw [trimEnd, trimEnd, List.reverse_append, List.dropWhile_append, if_neg (by simpa using more)]
  simp

/-- The cut stops before a character that is not white space, whatever is before it. -/
theorem exists_trimEnd_cons {c : Char} (solid : isBlank c = false) (rest : List Char) :
    ∃ kept, ∀ before, trimEnd (before ++ c :: rest) = before ++ c :: kept := by
  obtain ⟨gap, blank, same⟩ := exists_trimEnd (c :: rest)
  cases trimmed : trimEnd (c :: rest) with
  | nil =>
    rw [trimmed, List.nil_append] at same
    have isBlank := blank c (same ▸ List.mem_cons_self)
    rw [solid] at isBlank
    cases isBlank
  | cons d kept =>
    rw [trimmed] at same
    obtain rfl : c = d := List.head_eq_of_cons_eq same
    exact ⟨kept, fun before => by rw [trimEnd_append before (by simp [trimmed]), trimmed]⟩

theorem trimEnd_append_blank (text : List Char) {gap : List Char}
    (blank : ∀ c ∈ gap, isBlank c = true) : trimEnd (text ++ gap) = trimEnd text := by
  have none : gap.reverse.dropWhile isBlank = [] :=
    List.dropWhile_eq_nil_iff.2 fun c member => blank c (List.mem_reverse.1 member)
  rw [trimEnd, List.reverse_append, List.dropWhile_append, none]
  rfl

theorem trimEnd_eq_self {text : List Char} (ends : StartsSolid text.reverse) :
    trimEnd text = text := by
  rw [← List.reverse_inj, reverse_trimEnd, ends.trimStart_eq]

/-! ## Both ends -/

theorem startsSolid_trim (text : List Char) : StartsSolid (trim text) :=
  (startsSolid_trimStart text).of_start (trimEnd_isPrefix _)

theorem startsSolid_reverse_trim (text : List Char) : StartsSolid (trim text).reverse := by
  rw [trim, reverse_trimEnd]
  exact startsSolid_trimStart _

theorem exists_trim (text : List Char) :
    ∃ before after, (∀ c ∈ before, isBlank c = true) ∧ (∀ c ∈ after, isBlank c = true) ∧
      text = before ++ (trim text ++ after) := by
  obtain ⟨before, first, start⟩ := exists_trimStart text
  obtain ⟨after, last, stop⟩ := exists_trimEnd (trimStart text)
  exact ⟨before, after, first, last, start.trans (congrArg (before ++ ·) stop)⟩

/-- White space at the start is left when only the end is trimmed. -/
theorem exists_trimEnd_eq {text : List Char} (solid : trim text ≠ []) :
    ∃ gap, (∀ c ∈ gap, isBlank c = true) ∧ trimEnd text = gap ++ trim text := by
  obtain ⟨gap, blank, same⟩ := exists_trimStart text
  refine ⟨gap, blank, ?_⟩
  conv_lhs => rw [same]
  exact trimEnd_append gap solid

theorem trim_append_blank {gap : List Char} (blank : ∀ c ∈ gap, isBlank c = true)
    (rest : List Char) : trim (gap ++ rest) = trim rest :=
  congrArg trimEnd (trimStart_append_blank blank rest)

theorem trim_append_blank_end (text : List Char) {gap : List Char}
    (blank : ∀ c ∈ gap, isBlank c = true) : trim (text ++ gap) = trim text := by
  by_cases solid : trimStart text = []
  · have blanks : ∀ c ∈ text, isBlank c = true := List.dropWhile_eq_nil_iff.1 solid
    have none : trimStart gap = [] := List.dropWhile_eq_nil_iff.2 blank
    rw [trim_append_blank blanks, trim, none, trim, solid]
  · rw [trim, trimStart_append solid, trimEnd_append_blank _ blank, trim]

theorem mem_of_mem_trim {c : Char} {text : List Char} (member : c ∈ trim text) : c ∈ text := by
  obtain ⟨before, after, -, -, same⟩ := exists_trim text
  rw [same]
  exact List.mem_append_right _ (List.mem_append_left _ member)

theorem mem_trim {c : Char} (solid : isBlank c = false) {text : List Char} (member : c ∈ text) :
    c ∈ trim text := by
  obtain ⟨before, after, first, last, same⟩ := exists_trim text
  have notIn {gap : List Char} (blank : ∀ b ∈ gap, isBlank b = true) : c ∉ gap := fun inGap =>
    absurd ((blank c inGap).symm.trans solid) (by decide)
  rw [same, List.mem_append, List.mem_append] at member
  exact (member.resolve_left (notIn first)).resolve_right (notIn last)

theorem trim_ne_nil {c : Char} (solid : isBlank c = false) {text : List Char}
    (member : c ∈ text) : trim text ≠ [] :=
  List.ne_nil_of_mem (mem_trim solid member)

/-- Trimming leaves a text with no white space at either end. -/
theorem trim_of_solid_ends {text : List Char} (starts : StartsSolid text)
    (ends : StartsSolid text.reverse) : trim text = text := by
  rw [trim, starts.trimStart_eq, trimEnd_eq_self ends]

theorem trim_trim (text : List Char) : trim (trim text) = trim text :=
  trim_of_solid_ends (startsSolid_trim text) (startsSolid_reverse_trim text)

theorem trim_of_plain {text : List Char} (plain : ∀ c ∈ text, isBlank c = false) :
    trim text = text := by
  refine trim_of_solid_ends ?_ ?_
  · exact fun c head => plain c (List.mem_of_mem_head? head)
  · exact fun c head => plain c (List.mem_reverse.1 (List.mem_of_mem_head? head))

end SqlPreview.Text
