import SqlPreview.Text.Blank

/-!
# Type aliases

The short names that a mapper file may give for common types. They match in any case, and array
dimensions behind them are kept.
-/

namespace SqlPreview

/-- What each alias stands for. -/
def typeAliases : List (String × String) :=
  [("string", "java.lang.String"),
   ("byte", "java.lang.Byte"),
   ("char", "java.lang.Character"),
   ("character", "java.lang.Character"),
   ("long", "java.lang.Long"),
   ("short", "java.lang.Short"),
   ("int", "java.lang.Integer"),
   ("integer", "java.lang.Integer"),
   ("double", "java.lang.Double"),
   ("float", "java.lang.Float"),
   ("boolean", "java.lang.Boolean"),
   ("_byte", "byte"),
   ("_char", "char"),
   ("_character", "char"),
   ("_long", "long"),
   ("_short", "short"),
   ("_int", "int"),
   ("_integer", "int"),
   ("_double", "double"),
   ("_float", "float"),
   ("_boolean", "boolean"),
   ("date", "java.util.Date"),
   ("decimal", "java.math.BigDecimal"),
   ("bigdecimal", "java.math.BigDecimal"),
   ("biginteger", "java.math.BigInteger"),
   ("object", "java.lang.Object"),
   ("map", "java.util.Map"),
   ("hashmap", "java.util.HashMap"),
   ("list", "java.util.List"),
   ("arraylist", "java.util.ArrayList"),
   ("collection", "java.util.Collection"),
   ("iterator", "java.util.Iterator")]

/-- Type text with an alias at its front replaced by the type that it stands for. -/
def expandAlias (text : String) : String :=
  let name := Text.trim text.toList
  let base := name.takeWhile (· != '[')
  let dims := name.dropWhile (· != '[')
  match typeAliases.lookup (String.ofList (base.map Char.toLower)) with
  | some type => type ++ String.ofList dims
  | none => String.ofList name

example : expandAlias "Int[]" = "java.lang.Integer[]" := by decide +kernel

end SqlPreview
