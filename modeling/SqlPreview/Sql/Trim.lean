import SqlPreview.Mapper.Basic
import SqlPreview.Text.Case
import SqlPreview.Text.Cut

/-!
# Trimming clauses

A trim rule strips tokens from both ends of a rendered body and puts a start and an end around what
is left. Tokens match in any case, and white space in a token matches any white space.
-/

namespace SqlPreview

structure TrimRule where
  start : String
  stop : String
  /-- Tokens that are stripped from the start. -/
  startTokens : List String
  /-- Tokens that are stripped from the end. -/
  stopTokens : List String
deriving DecidableEq, Repr

namespace TrimRule

/-- The rule of a condition clause. -/
def whereClause : TrimRule := ⟨"WHERE", "", ["AND ", "OR "], []⟩

/-- The rule of an assignment clause. -/
def setClause : TrimRule := ⟨"SET", "", [], [","]⟩

/-- Tokens separated by bars, empty ones left out. -/
def tokens (text : String) : List String :=
  ((Text.splitOn '|' text.toList).filter fun token => !token.isEmpty).map String.ofList

/-- The rule that the attributes of a tag describe. -/
def ofAttributes (attributes : Dict String) : TrimRule :=
  { start := (attributes.get? "prefix").getD ""
    stop := (attributes.get? "suffix").getD ""
    startTokens := tokens ((attributes.get? "prefixOverrides").getD "")
    stopTokens := tokens ((attributes.get? "suffixOverrides").getD "") }

/-- A character of a text matches a character of a token. -/
def charMatches (token text : Char) : Bool :=
  if Text.isBlank token then Text.isBlank text else Text.sameLetter text token

/-- What is left of a text after the characters of a token. -/
def afterToken? : List Char → List Char → Option (List Char)
  | [], text => some text
  | _ :: _, [] => none
  | t :: token, c :: text => if charMatches t c then afterToken? token text else none

/-- What is left of a text after a token that is not empty. -/
def afterMatch? (token text : List Char) : Option (List Char) :=
  if token.isEmpty then none else afterToken? token text

theorem length_afterToken?_le {token text rest : List Char}
    (h : afterToken? token text = some rest) : rest.length + token.length = text.length := by
  induction token generalizing text with
  | nil => simp [afterToken?] at h; simp [h]
  | cons t token ih =>
    cases text with
    | nil => simp [afterToken?] at h
    | cons c text =>
      rw [afterToken?] at h
      split at h
      · have := ih h
        simp only [List.length_cons]
        omega
      · simp at h

theorem length_afterMatch?_lt {token text rest : List Char}
    (h : afterMatch? token text = some rest) : rest.length < text.length := by
  unfold afterMatch? at h
  split at h
  · simp at h
  · next nonempty =>
    have := length_afterToken?_le h
    cases token with
    | nil => simp at nonempty
    | cons t token =>
      simp only [List.length_cons] at this
      omega

/-- What is left after the first token of a list that matches. -/
def afterAny? (tokens : List (List Char)) (text : List Char) : Option (List Char) :=
  tokens.findSome? fun token => afterMatch? token text

theorem length_afterAny?_lt {tokens : List (List Char)} {text rest : List Char}
    (h : afterAny? tokens text = some rest) : rest.length < text.length := by
  obtain ⟨token, _, found⟩ := List.exists_of_findSome?_eq_some h
  exact length_afterMatch?_lt found

/-- A text without the tokens, and the white space after them, at its start. -/
def strip (tokens : List (List Char)) (text : List Char) : List Char :=
  match _h : afterAny? tokens text with
  | some rest => strip tokens (Text.trimStart rest)
  | none => text
termination_by text.length
decreasing_by
  have := length_afterAny?_lt _h
  have : (Text.trimStart rest).length ≤ rest.length :=
    (List.dropWhile_sublist Text.isBlank).length_le
  omega

/-- A body without the tokens of the rule at its ends. The end is stripped as the start of the
reversed body. -/
def stripped (rule : TrimRule) (body : List Char) : List Char :=
  let fromStart := strip (rule.startTokens.map String.toList) (Text.trim body)
  (strip (rule.stopTokens.map fun token => token.toList.reverse) fromStart.reverse).reverse

/-- A rendered body under the rule; nothing if only white space and tokens were in it. -/
def apply (rule : TrimRule) (body : List Char) : List Char :=
  let inner := rule.stripped body
  if inner.isEmpty then []
  else
    let start := if rule.start.isEmpty then [] else rule.start.toList ++ [' ']
    ' ' :: start ++ inner ++ rule.stop.toList ++ [' ']

end TrimRule

end SqlPreview
