import SqlPreview.Text.Cut

/-!
# Placeholders

A text with placeholders is a row of pieces: characters that stay as they are, and placeholders. A
placeholder ends at the first closing brace; one that is never closed is ordinary text. What is put
in for a placeholder is not looked at again.
-/

namespace SqlPreview

/-- The two markers: `#` binds a value, `$` splices its text. -/
inductive Marker where
  | bind
  | raw
deriving DecidableEq, Repr

namespace Marker

def ofChar? : Char → Option Marker
  | '#' => some .bind
  | '$' => some .raw
  | _ => none

def char : Marker → Char
  | .bind => '#'
  | .raw => '$'

end Marker

/-- A marker and what stands between its braces. -/
structure Placeholder where
  marker : Marker
  body : List Char
deriving DecidableEq, Repr

namespace Placeholder

/-- The expression of a placeholder. A bound one may have options behind a comma. -/
def expression (p : Placeholder) : List Char :=
  match p.marker with
  | .raw => Text.trim p.body
  | .bind => Text.trim (p.body.takeWhile (· != ','))

/-- A placeholder as it is written. -/
def chars (p : Placeholder) : List Char := p.marker.char :: '{' :: p.body ++ ['}']

end Placeholder

/-- A piece of a text. -/
inductive Piece where
  | verbatim (c : Char)
  | placeholder (p : Placeholder)
deriving DecidableEq, Repr

namespace Piece

/-- The placeholder at the front of a text, given its first character, and what follows it. -/
def placeholder? (c : Char) (rest : List Char) : Option (Placeholder × List Char) :=
  match Marker.ofChar? c, rest with
  | some marker, '{' :: inside =>
    (Text.splitFirst? (· == '}') inside).map fun (body, after) => (⟨marker, body⟩, after)
  | _, _ => none

theorem length_placeholder?_lt {c : Char} {rest after : List Char} {p : Placeholder}
    (h : placeholder? c rest = some (p, after)) : after.length < rest.length := by
  unfold placeholder? at h
  split at h
  · obtain ⟨⟨body, rest'⟩, found, same⟩ := Option.map_eq_some_iff.1 h
    cases same
    have := Text.length_splitFirst?_lt found
    simp only [List.length_cons]
    omega
  · simp at h

/-- The pieces of a text. -/
def ofText (text : List Char) : List Piece :=
  match text with
  | [] => []
  | c :: rest =>
    match _h : placeholder? c rest with
    | some (p, after) => .placeholder p :: ofText after
    | none => .verbatim c :: ofText rest
termination_by text.length
decreasing_by
  · have := length_placeholder?_lt _h
    simp only [List.length_cons]
    omega
  · simp

end Piece

/-- Puts something in for each placeholder of some pieces, in order. -/
def resolvePieces {m : Type → Type} [Monad m] (resolve : Placeholder → m (List Char)) :
    List Piece → m (List Char)
  | [] => pure []
  | .verbatim c :: rest => do
    let tail ← resolvePieces resolve rest
    pure (c :: tail)
  | .placeholder p :: rest => do
    let head ← resolve p
    let tail ← resolvePieces resolve rest
    pure (head ++ tail)

/-- Puts something in for each placeholder of a text, in order. -/
def substitute {m : Type → Type} [Monad m] (resolve : Placeholder → m (List Char))
    (text : List Char) : m (List Char) :=
  resolvePieces resolve (Piece.ofText text)

end SqlPreview
