import SqlPreview.Source.Quoting

/-!
# Comments in source text

A comment to the end of a line goes away, a block comment becomes a space. Literals stay as they
are.
-/

namespace SqlPreview.Source

/-- Where a text is, for the sake of comments. -/
inductive CommentState where
  /-- Outside comments. -/
  | code (quoting : Quoting)
  | line
  /-- In a block comment, whose last character may have been a star. -/
  | block (star : Bool)
deriving DecidableEq, Repr

/-- A text without its comments, from a state on. -/
def uncomment : CommentState → List Char → List Char
  | .code .outside, '/' :: '/' :: rest => uncomment .line rest
  | .code .outside, '/' :: '*' :: rest => uncomment (.block false) rest
  | .code quoting, c :: rest => c :: uncomment (.code (quoting.next c)) rest
  | .code _, [] => []
  | .line, c :: rest => if c == '\n' then '\n' :: uncomment (.code .outside) rest else uncomment .line rest
  | .line, [] => []
  | .block star, c :: rest =>
    if star && c == '/' then ' ' :: uncomment (.code .outside) rest
    else uncomment (.block (c == '*')) rest
  | .block _, [] => [' ']

/-- A source text without its comments. -/
def stripComments (text : List Char) : List Char := uncomment (.code .outside) text

example : stripComments "a/*/ b */c//d\n\"//\"".toList = "a c\n\"//\"".toList := by decide +kernel

end SqlPreview.Source
