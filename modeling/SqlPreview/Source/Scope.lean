import SqlPreview.Source.Basic
import SqlPreview.Types.Reader

/-!
# Names in source files

What a name in a file means: a name that the file imports, a type of its package, a type that every
file knows, or a type of a package that it imports as a whole, in this order.
-/

namespace SqlPreview.Source

/-- A type name in a package. -/
def qualifiedName (package name : String) : String :=
  if package.isEmpty then name else package ++ "." ++ name

/-- Types that are no classes. -/
def primitiveNames : List String :=
  ["boolean", "byte", "short", "int", "long", "float", "double", "char", "void"]

/-- Types that every file knows by their simple names. -/
def everywhereNames : List String :=
  ["String", "Integer", "Long", "Short", "Byte", "Character", "Boolean", "Double", "Float",
   "Object", "Number", "CharSequence", "Iterable", "Enum"]

/-- The last part of a dotted name. -/
def lastPart (name : String) : String :=
  match Text.splitLast? (· == '.') name.toList with
  | some (_, last) => String.ofList last
  | none => name

/-- The packages that a file imports as a whole. -/
def wholePackages (file : SourceFile) : List String :=
  file.imports.filterMap fun name =>
    (Text.dropStart? ['*', '.'] name.toList.reverse).map fun package => String.ofList package.reverse

/-- The qualified name of the type that a simple name means in a file, where the types of `known`
are those of all files. -/
def qualifySimple? (known : List String) (file : SourceFile) (name : String) : Option String :=
  let here := qualifiedName file.package name
  file.imports.find? (fun imported => lastPart imported == name) <|>
    (if known.contains here then some here else none) <|>
    (if everywhereNames.contains name then some ("java.lang." ++ name) else none) <|>
    ((wholePackages file).map fun package => package ++ "." ++ name).find? known.contains

/-- A name as it is qualified in a file. Nested types go by their outermost name, and a name that
begins with a small letter is already qualified. -/
def qualify (known : List String) (file : SourceFile) (name : String) : String :=
  if primitiveNames.contains name || known.contains name then name
  else
    let (head, tail) :=
      match Text.splitFirst? (· == '.') name.toList with
      | some (head, tail) => (head, '.' :: tail)
      | none => (name.toList, [])
    if head.head?.any Text.isLowercase then name
    else
      match qualifySimple? known file (String.ofList head) with
      | some qualified => qualified ++ String.ofList tail
      | none => name

mutual

/-- A type with all its names qualified. -/
def qualifyType (known : List String) (file : SourceFile) : TypeRef → TypeRef
  | ⟨name, args, dims⟩ => ⟨qualify known file name, qualifyTypes known file args, dims⟩

def qualifyTypes (known : List String) (file : SourceFile) : List TypeRef → List TypeRef
  | [] => []
  | type :: rest => qualifyType known file type :: qualifyTypes known file rest

end

/-- The type that a text means in a file. -/
def type? (known : List String) (file : SourceFile) (text : String) : Option TypeRef :=
  (TypeRef.read? text).map (qualifyType known file)

end SqlPreview.Source
