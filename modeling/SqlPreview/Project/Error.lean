import SqlPreview.Mapper.Document
import SqlPreview.Preview.Error

/-!
# Errors of projects

Why a project cannot be loaded or checked.
-/

namespace SqlPreview

inductive ProjectError where
  | configNotFound (start : String)
  | invalidPath (path : String)
  /-- A limit of the engine is zero, so that nothing could be rendered. -/
  | zeroLimit
  | mapperFile (path : String) (cause : MapperError)
  | checkFailed (failed total : Nat)
  /-- The configuration is no TOML, or does not say what it has to. -/
  | malformedConfig
  /-- A file can be neither read nor written. -/
  | inaccessible (path : String)
deriving DecidableEq, Repr

/-- The file that makes a directory the root of a project. -/
def configFile : String := "batislens.toml"

namespace ProjectError

def message : ProjectError → String
  | .configNotFound start => "Config file not found in " ++ start
  | .invalidPath path => "Invalid path: " ++ path
  | .zeroLimit => "Invalid configuration: engine limits must be greater than zero"
  | .mapperFile path cause => "Mapper error in " ++ path ++ ": " ++ cause.message
  | .checkFailed failed total =>
    natText failed ++ " of " ++ natText total ++ " statements failed to render"
  | .malformedConfig => "TOML parse error"
  | .inaccessible path => "IO error: " ++ path

/-- What to try when this error comes up. -/
def suggestion? : ProjectError → Option String
  | .configNotFound _ => some "Run 'batislens init' to create one."
  | .invalidPath _ =>
    some ("Paths in " ++ configFile ++ " are relative to the directory holding it.")
  | .mapperFile _ _ => some "Check that the file is a well-formed MyBatis mapper."
  | .checkFailed _ _ => some "Run 'batislens run' and look at the error entries of the report."
  | .zeroLimit | .malformedConfig | .inaccessible _ => none

/-- The first line of a report. -/
def headline : ProjectError → String
  | .configNotFound start => "No " ++ configFile ++ " found in " ++ start ++ " or its parents"
  | .invalidPath path => "Path " ++ path ++ " does not exist"
  | error => error.message

/-- The error and, if there is anything, what to try. -/
def report (error : ProjectError) : String :=
  match error.suggestion? with
  | some suggestion => error.headline ++ "\nSuggestion: " ++ suggestion
  | none => error.headline

end ProjectError

end SqlPreview
