import SqlPreview.Types.ClassTable

/-!
# Declarations of source files

What a source file declares, as far as parameters need it. Types stay the text that was written,
because their names mean something only together with all other files.
-/

namespace SqlPreview.Source

structure FieldDeclaration where
  name : String
  type : String
  isStatic : Bool
deriving DecidableEq, Repr

structure ParameterDeclaration where
  /-- The name that an annotation gives to the parameter, if any. -/
  binding : Option String
  type : String
deriving DecidableEq, Repr

structure MethodDeclaration where
  name : String
  parameters : List ParameterDeclaration
deriving DecidableEq, Repr

structure TypeDeclaration where
  name : String
  kind : ClassKind
  superclass : Option String
  fields : List FieldDeclaration
  methods : List MethodDeclaration
  constants : List String
deriving DecidableEq, Repr

/-- A source file: its package, which is empty if none is named, the names that it imports, and
its types, nested ones included. -/
structure SourceFile where
  package : String
  imports : List String
  types : List TypeDeclaration
deriving DecidableEq, Repr

end SqlPreview.Source
