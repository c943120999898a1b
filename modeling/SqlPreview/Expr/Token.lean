import SqlPreview.Taken
import SqlPreview.Text.Blank
import SqlPreview.Text.Cut
import SqlPreview.Text.Letter

/-!
# Tokens of expressions

Words, numbers, strings and symbols, each with the byte at which it starts. White space separates
tokens and is dropped.
-/

namespace SqlPreview

inductive Symbol where
  | eq | ne | le | ge | and | or
  | leftParen | rightParen | leftBracket | rightBracket | leftBrace | rightBrace
  | comma | dot | question | colon | bang | lt | gt | plus | minus | star | slash | percent
deriving DecidableEq, Repr

namespace Symbol

def text : Symbol → String
  | .eq => "=="
  | .ne => "!="
  | .le => "<="
  | .ge => ">="
  | .and => "&&"
  | .or => "||"
  | .leftParen => "("
  | .rightParen => ")"
  | .leftBracket => "["
  | .rightBracket => "]"
  | .leftBrace => "\x7b"
  | .rightBrace => "\x7d"
  | .comma => ","
  | .dot => "."
  | .question => "?"
  | .colon => ":"
  | .bang => "!"
  | .lt => "<"
  | .gt => ">"
  | .plus => "+"
  | .minus => "-"
  | .star => "*"
  | .slash => "/"
  | .percent => "%"

/-- The symbol of two characters, if they are one. -/
def double? : Char → Char → Option Symbol
  | '=', '=' => some .eq
  | '!', '=' => some .ne
  | '<', '=' => some .le
  | '>', '=' => some .ge
  | '&', '&' => some .and
  | '|', '|' => some .or
  | _, _ => none

/-- The symbol of one character, if it is one. -/
def single? : Char → Option Symbol
  | '(' => some .leftParen
  | ')' => some .rightParen
  | '[' => some .leftBracket
  | ']' => some .rightBracket
  | '{' => some .leftBrace
  | '}' => some .rightBrace
  | ',' => some .comma
  | '.' => some .dot
  | '?' => some .question
  | ':' => some .colon
  | '!' => some .bang
  | '<' => some .lt
  | '>' => some .gt
  | '+' => some .plus
  | '-' => some .minus
  | '*' => some .star
  | '/' => some .slash
  | '%' => some .percent
  | _ => none

end Symbol

inductive Token where
  | word (name : String)
  /-- Digits without a fraction or an exponent, and the letter that gives their type. -/
  | integer (digits : List Char) (suffix : Option Char)
  | floating (digits : List Char) (suffix : Option Char)
  | string (text : String)
  | symbol (s : Symbol)
deriving DecidableEq, Repr

/-- A token and the byte of the expression at which it starts. -/
structure Lexeme where
  token : Token
  offset : Nat
deriving DecidableEq, Repr

/-- What can be wrong with the form of an expression. -/
inductive FormProblem where
  | nameAfterHash
  | unterminatedString
  | unexpectedCharacter (c : Char)
  | unexpectedEnd
  | unexpectedSymbol (s : Symbol)
  | expectedSymbol (s : Symbol)
  | expectedMember
  | trailingInput
  | integerOutOfRange
  | malformedNumber
  | tooDeep
deriving DecidableEq, Repr

def FormProblem.message : FormProblem → String
  | .nameAfterHash => "expected a name after '#'"
  | .unterminatedString => "unterminated string literal"
  | .unexpectedCharacter c => "unexpected character '" ++ c.toString ++ "'"
  | .unexpectedEnd => "unexpected end of expression"
  | .unexpectedSymbol s => "unexpected '" ++ s.text ++ "'"
  | .expectedSymbol s => "expected '" ++ s.text ++ "'"
  | .expectedMember => "expected a property or method name"
  | .trailingInput => "unexpected trailing input"
  | .integerOutOfRange => "integer literal out of range"
  | .malformedNumber => "malformed number"
  | .tooDeep => "expression nests too deeply"

/-- A problem at a byte of the expression, or at its end. -/
structure FormFault where
  problem : FormProblem
  offset : Option Nat
deriving DecidableEq, Repr

namespace Lexer

/-- What a word may start with; a hash in front of a name is dropped. -/
def startsWord (c : Char) : Bool := Text.isAlphabetic c || c == '_' || c == '$' || c == '#'

def continuesWord (c : Char) : Bool := Text.isAlphanumeric c || c == '_' || c == '$'

def startsWithDigit : List Char → Bool
  | c :: _ => Text.isAsciiDigit c
  | [] => false

/-- What a number may start with, given the characters after it. -/
def startsNumber (c : Char) (rest : List Char) : Bool :=
  Text.isAsciiDigit c || (c == '.' && startsWithDigit rest)

/-- Digits with one point before a digit and exponent marks with an optional sign: the longest run
that may be a number, whether it is floating, and what follows. -/
def splitNumber (floating : Bool) : List Char → List Char × Bool × List Char
  | [] => ([], floating, [])
  | c :: rest =>
    if Text.isAsciiDigit c then
      let (digits, isFloating, after) := splitNumber floating rest
      (c :: digits, isFloating, after)
    else if c == '.' && !floating && startsWithDigit rest then
      let (digits, isFloating, after) := splitNumber true rest
      (c :: digits, isFloating, after)
    else if c == 'e' || c == 'E' then
      match rest with
      | sign :: more =>
        if sign == '+' || sign == '-' then
          let (digits, isFloating, after) := splitNumber true more
          (c :: sign :: digits, isFloating, after)
        else
          let (digits, isFloating, after) := splitNumber true (sign :: more)
          (c :: digits, isFloating, after)
      | [] => ([c], true, [])
    else ([], floating, c :: rest)

theorem splitNumber_append (floating : Bool) (text : List Char) :
    (splitNumber floating text).1 ++ (splitNumber floating text).2.2 = text := by
  fun_induction splitNumber floating text <;> simp_all

/-- The letters that give a number its type. -/
def isSuffix (c : Char) : Bool := "lLdDfFbBhH".toList.contains c

/-- The letters that make any number floating. -/
def isFloatingSuffix (c : Char) : Bool := "dDfF".toList.contains c

/-- The character that a backslash and a letter stand for in a string. -/
def unescape : Char → Char
  | 'n' => '\n'
  | 't' => '\t'
  | 'r' => '\r'
  | c => c

/-- The content of a string, how many bytes it takes with its closing quote, and what follows. -/
def string? (quote : Char) : (text : List Char) → Option (Taken text (List Char × Nat))
  | [] => none
  | c :: rest =>
    if c == '\\' then
      match rest with
      | [] => none
      | escaped :: more => do
        let body ← string? quote more
        some ⟨(unescape escaped :: body.value.1, 1 + escaped.utf8Size + body.value.2), body.rest, by
          have := body.shorter; simp only [List.length_cons]; omega⟩
    else if c == quote then some ⟨([], c.utf8Size), rest, by simp⟩
    else do
      let body ← string? quote rest
      some ⟨(c :: body.value.1, c.utf8Size + body.value.2), body.rest, by
        have := body.shorter; simp only [List.length_cons]; omega⟩

/-- The token at the front of a text that does not start with white space, and its bytes. -/
def token (c : Char) (rest : List Char) : Except FormProblem (Taken (c :: rest) (Token × Nat)) :=
  if startsWord c then
    let name := rest.takeWhile continuesWord
    let spelled := if c == '#' then name else c :: name
    if spelled.isEmpty then .error .nameAfterHash
    else .ok ⟨(.word (String.ofList spelled), Text.utf8Size (c :: name)),
      rest.dropWhile continuesWord, Nat.lt_succ_of_le (length_dropWhile_le _ _)⟩
  else if startsNumber c rest then
    match h : splitNumber false (c :: rest) with
    | (digits, isFloating, after) =>
      have whole : digits ++ after = c :: rest := by
        have := splitNumber_append false (c :: rest)
        rw [h] at this
        exact this
      if empty : digits = [] then .error (.unexpectedCharacter c)
      else
        have shorter : after.length < (c :: rest).length := by
          have := List.length_pos_iff.2 empty
          rw [← whole, List.length_append]
          omega
        match after with
        | s :: more =>
          if isSuffix s then
            let made := if isFloating || isFloatingSuffix s then Token.floating digits (some s)
              else Token.integer digits (some s)
            .ok ⟨(made, digits.length + 1), more, by
              simp only [List.length_cons] at shorter ⊢; omega⟩
          else
            .ok ⟨(if isFloating then .floating digits none else .integer digits none,
              digits.length), s :: more, shorter⟩
        | [] =>
          .ok ⟨(if isFloating then .floating digits none else .integer digits none,
            digits.length), [], shorter⟩
  else if c == '\'' || c == '"' then
    match string? c rest with
    | none => .error .unterminatedString
    | some body =>
      .ok ⟨(.string (String.ofList body.value.1), 1 + body.value.2), body.rest,
        Nat.lt_succ_of_lt body.shorter⟩
  else
    match rest with
    | d :: more =>
      match Symbol.double? c d with
      | some s => .ok ⟨(.symbol s, 2), more, by simp only [List.length_cons]; omega⟩
      | none =>
        match Symbol.single? c with
        | some s => .ok ⟨(.symbol s, 1), d :: more, by simp⟩
        | none => .error (.unexpectedCharacter c)
    | [] =>
      match Symbol.single? c with
      | some s => .ok ⟨(.symbol s, 1), [], by simp⟩
      | none => .error (.unexpectedCharacter c)

/-- The tokens of a text that starts at a byte of the expression. -/
def lexemes (offset : Nat) (text : List Char) : Except FormFault (List Lexeme) :=
  match text with
  | [] => .ok []
  | c :: rest =>
    if Text.isBlank c then lexemes (offset + c.utf8Size) rest
    else
      match token c rest with
      | .error problem => .error ⟨problem, some offset⟩
      | .ok taken => do
        let others ← lexemes (offset + taken.value.2) taken.rest
        .ok (⟨taken.value.1, offset⟩ :: others)
termination_by text.length
decreasing_by
  · simp
  · exact taken.shorter

end Lexer

end SqlPreview
