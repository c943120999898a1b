import SqlPreview.Expr.Token

/-!
# Errors of expressions

Why an expression has no value.
-/

namespace SqlPreview

/-- What a method finds wrong with its arguments. -/
inductive ArgumentProblem where
  | count (expected given : Nat)
  | null (place : Nat)
  | notIndex (place : Nat)
deriving DecidableEq, Repr

def natText (n : Nat) : String := String.ofList (Text.decimalDigits n)

def intText (n : Int) : String := (if n < 0 then "-" else "") ++ natText n.natAbs

def ArgumentProblem.message : ArgumentProblem → String
  | .count expected given =>
    "expected " ++ natText expected ++ " argument(s), got " ++ natText given
  | .null place => "argument " ++ natText place ++ " must not be null"
  | .notIndex place => "argument " ++ natText place ++ " must be a non-negative integer"

inductive EvalError where
  /-- The expression is not well formed, as seen at a byte of it. -/
  | malformed (expression : String) (offset : Nat) (problem : FormProblem)
  /-- A property, element or method of nothing. -/
  | nullTarget (member : String)
  | unknownProperty (property typeName : String)
  | unknownMethod (method typeName : String)
  | badArguments (method : String) (problem : ArgumentProblem)
  | typeMismatch (operator left right : String)
  | indexOutOfBounds (index : Int) (length : Nat)
  | divisionByZero
deriving DecidableEq, Repr

def EvalError.message : EvalError → String
  | .malformed expression offset problem =>
    "syntax error at offset " ++ natText offset ++ " in '" ++ expression ++ "': " ++
      problem.message
  | .nullTarget member => "cannot access '" ++ member ++ "' on null"
  | .unknownProperty property typeName => "no property '" ++ property ++ "' on " ++ typeName
  | .unknownMethod method typeName => "no method '" ++ method ++ "' on " ++ typeName
  | .badArguments method problem =>
    "invalid arguments for '" ++ method ++ "': " ++ problem.message
  | .typeMismatch operator left right =>
    "operator '" ++ operator ++ "' cannot be applied to " ++ left ++ " and " ++ right
  | .indexOutOfBounds index length =>
    "index " ++ intText index ++ " out of bounds for length " ++ natText length
  | .divisionByZero => "division by zero"

end SqlPreview
