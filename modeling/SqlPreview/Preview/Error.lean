import SqlPreview.Expr.Error
import SqlPreview.Json.Reader
import SqlPreview.Mapper.Path

/-!
# Errors of previews

Why a statement has no preview, in a short message and in a report with a suggestion.
-/

namespace SqlPreview

/-- The limits that a rendering may run into. -/
inductive Limit where
  | depth
  | iterations
deriving DecidableEq, Repr

def Limit.name : Limit → String
  | .depth => "maximum tag depth"
  | .iterations => "maximum foreach iterations"

/-- A JSON fault with the place where it was seen. -/
def JsonError.message (error : JsonError) : String :=
  error.problem.message ++ " at line " ++ natText error.line ++ " column " ++ natText error.column

inductive PreviewError where
  | statementNotFound (path : StatementPath)
  | fragmentNotFound (path : StatementPath) (refid : String)
  | badJson (error : JsonError)
  /-- An expression in a tag of a statement has no value. -/
  | evaluation (path : StatementPath) (tag expression : String) (cause : EvalError)
  | limitExceeded (path : StatementPath) (limit : Limit) (max : Nat)
deriving DecidableEq, Repr

namespace PreviewError

/-- The fault of a payload, by line and column and in full. -/
def payloadMessage (error : JsonError) : String :=
  "Invalid parameter JSON at line " ++ natText error.line ++ ", column " ++
    natText error.column ++ ": " ++ error.message

def evaluationMessage (path : StatementPath) (tag expression : String) (cause : EvalError) :
    String :=
  "Failed to evaluate '" ++ expression ++ "' in <" ++ tag ++ "> of '" ++ path.text ++ "': " ++
    cause.message

def limitMessage (path : StatementPath) (limit : Limit) (max : Nat) : String :=
  "Statement '" ++ path.text ++ "' exceeded the " ++ limit.name ++ " of " ++ natText max

def message : PreviewError → String
  | .statementNotFound path => "Statement '" ++ path.text ++ "' not found"
  | .fragmentNotFound path refid =>
    "Fragment '" ++ refid ++ "' not found while rendering '" ++ path.text ++ "'"
  | .badJson error => payloadMessage error
  | .evaluation path tag expression cause => evaluationMessage path tag expression cause
  | .limitExceeded path limit max => limitMessage path limit max

/-- What to try when this error comes up. -/
def suggestion : PreviewError → String
  | .statementNotFound _ => "Check the namespace and id, and that the mapper file was loaded."
  | .fragmentNotFound _ _ =>
    "Define the <sql> fragment or qualify the refid with its namespace."
  | .badJson _ => "Start from the generated parameter template."
  | .evaluation .. => "Supply the parameters the expression refers to."
  | .limitExceeded .. =>
    "Use smaller collections in the parameters or raise the limit in the [engine] config."

/-- The first line of a report. -/
def headline : PreviewError → String
  | .fragmentNotFound path refid =>
    "Fragment '" ++ refid ++ "' referenced from '" ++ path.text ++ "' not found"
  | error => error.message

/-- The error and what to try. -/
def report (error : PreviewError) : String :=
  error.headline ++ "\nSuggestion: " ++ error.suggestion

end PreviewError

end SqlPreview
