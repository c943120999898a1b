import SqlPreview.Params.Declaration
import SqlPreview.Source.Reader
import SqlPreview.Source.Scope

/-!
# Index of source files

The classes that source files declare, and the parameters of the methods of their interfaces. Of
classes with one name the last counts, of overloaded methods the first.
-/

namespace SqlPreview.Source

structure Index where
  classes : ClassTable
  signatures : Signatures

namespace Index

def empty : Index := ⟨.empty, .empty⟩

/-- The qualified names of all types that files declare. -/
def knownNames (files : List SourceFile) : List String :=
  files.flatMap fun file => file.types.map fun type => qualifiedName file.package type.name

/-- The parameters of a method that have a type. -/
def declarations (known : List String) (file : SourceFile) (method : MethodDeclaration) :
    List Declaration :=
  method.parameters.zipIdx.filterMap fun (parameter, position) =>
    (type? known file parameter.type).map fun type => ⟨parameter.binding, type, position⟩

/-- The class that a declaration describes. Fields without a type are left out. -/
def classInfo (known : List String) (file : SourceFile) (type : TypeDeclaration) : ClassInfo :=
  { name := qualifiedName file.package type.name
    kind := type.kind
    superclass := type.superclass.bind (type? known file)
    fields := type.fields.filterMap fun field =>
      (type? known file field.type).map fun fieldType => ⟨field.name, fieldType, field.isStatic, false⟩
    constants := type.constants }

/-- Signatures with the method of an interface, unless they have one of its name. -/
def addMethod (known : List String) (file : SourceFile) (name : String) (signatures : Signatures)
    (method : MethodDeclaration) : Signatures :=
  match signatures.find? name method.name with
  | some _ => signatures
  | none => signatures.insert name method.name (declarations known file method)

/-- An index with one more type. -/
def addType (known : List String) (file : SourceFile) (index : Index) (type : TypeDeclaration) :
    Index :=
  let info := classInfo known file type
  { classes := index.classes.insert info
    signatures := type.methods.foldl (addMethod known file info.name) index.signatures }

/-- The index of some files. -/
def ofFiles (files : List SourceFile) : Index :=
  let known := knownNames files
  files.foldl (fun index file => file.types.foldl (addType known file) index) empty

/-- The index of some source texts. -/
def ofTexts (texts : List String) : Index := ofFiles (texts.map read)

end Index

end SqlPreview.Source
