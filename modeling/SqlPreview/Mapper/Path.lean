import SqlPreview.Text.Cut

/-!
# Statement paths

A statement is named by its namespace and its id, written with a point between them.
-/

namespace SqlPreview

structure StatementPath where
  ns : String
  id : String
deriving DecidableEq, Repr

namespace StatementPath

/-- The path that a text writes: the id stands behind the last point, and without a point the
namespace is empty. -/
def read (text : String) : StatementPath :=
  let chars := Text.trim text.toList
  match Text.splitLast? (· == '.') chars with
  | some (ns, id) => ⟨String.ofList ns, String.ofList id⟩
  | none => ⟨"", String.ofList chars⟩

def text (path : StatementPath) : String :=
  if path.ns.isEmpty then path.id else path.ns ++ "." ++ path.id

end StatementPath

end SqlPreview
