import SqlPreview.Proofs.Types.Rearranged
import SqlPreview.Source.Index

/-!
# Source files in another order

Where no two types have one qualified name, the index of source files can be described without any
order: what it says about a name is read off the one declaration that has it. The rules by which
earlier or later declarations win all stay inside one type, and what a name in a file means depends
only on which types there are.

This file defines the declared types by qualified name (`Index.declared`).

Results:
1. `Index.classes_ofFiles`, `Index.signatures_ofFiles`: what the index of files with distinct types
   says.
2. `Index.classes_rearranged`, `Index.signatures_eq`: the same files in another order give the same
   index.
-/

namespace SqlPreview

/-! ## Signatures -/

namespace Signatures

theorem find?_insert_of_none {signatures : Signatures} {ns id : String}
    (absent : signatures.find? ns id = none) (declarations : List Declaration) (ns' id' : String) :
    (signatures.insert ns id declarations).find? ns' id' =
      (signatures.find? ns' id').or (if ns' = ns ∧ id' = id then some declarations else none) := by
  have fresh : ¬ (signatures.find? ns id).isSome = true := by simp [absent]
  rw [insert, if_neg fresh, find?, List.lookup_append, find?]
  congr 1
  rw [List.lookup_cons, List.lookup_nil]
  by_cases same : ns' = ns ∧ id' = id
  · simp [same]
  · rw [if_neg same]
    split
    · next equal =>
      have pair : (ns', id') = (ns, id) := by simpa using equal
      exact absurd (Prod.mk.inj pair) same
    · rfl

end Signatures

namespace Source

variable {known known' : List String}

/-! ## Names -/

theorem qualify_eq (same : ∀ name, name ∈ known ↔ name ∈ known') (file : SourceFile)
    (name : String) : qualify known file name = qualify known' file name := by
  have contains (name : String) : known.contains name = known'.contains name := by
    rw [Bool.eq_iff_iff, List.contains_iff_mem, List.contains_iff_mem]
    exact same name
  have every : known.contains = known'.contains := funext contains
  have simple (name : String) :
      qualifySimple? known file name = qualifySimple? known' file name := by
    unfold qualifySimple?
    rw [every]
  unfold qualify
  simp only [contains, simple]

mutual

theorem qualifyType_eq (same : ∀ name, name ∈ known ↔ name ∈ known') (file : SourceFile)
    (type : TypeRef) : qualifyType known file type = qualifyType known' file type := by
  obtain ⟨name, args, dims⟩ := type
  rw [qualifyType, qualifyType, qualify_eq same, qualifyTypes_eq same file args]

theorem qualifyTypes_eq (same : ∀ name, name ∈ known ↔ name ∈ known') (file : SourceFile)
    (types : List TypeRef) : qualifyTypes known file types = qualifyTypes known' file types := by
  cases types with
  | nil => rfl
  | cons type rest =>
    rw [qualifyTypes, qualifyTypes, qualifyType_eq same file type, qualifyTypes_eq same file rest]

end

namespace Index

section

variable (same : ∀ name, name ∈ known ↔ name ∈ known')

include same

theorem type?_eq (file : SourceFile) : type? known file = type? known' file := by
  funext text
  unfold type?
  rw [funext (qualifyType_eq same file)]

theorem classInfo_eq (file : SourceFile) (type : TypeDeclaration) :
    classInfo known file type = classInfo known' file type := by
  unfold classInfo
  rw [type?_eq same]

theorem declarations_eq (file : SourceFile) (method : MethodDeclaration) :
    declarations known file method = declarations known' file method := by
  unfold declarations
  rw [type?_eq same]

end

/-! ## What an index says -/

/-- The types that files declare, each with its file, under their qualified names. -/
def declared (files : List SourceFile) : Dict (SourceFile × TypeDeclaration) :=
  files.flatMap fun file =>
    file.types.map fun type => (qualifiedName file.package type.name, file, type)

theorem names_declared (files : List SourceFile) : (declared files).names = knownNames files := by
  rw [declared, knownNames, Dict.names, List.map_flatMap]
  simp only [List.map_map]
  rfl

theorem ofFiles_eq_foldl (files : List SourceFile) : ofFiles files =
    (declared files).foldl
      (fun index entry => addType (knownNames files) entry.2.1 index entry.2.2) empty := by
  rw [declared, List.foldl_flatMap]
  simp only [List.foldl_map]
  rfl

theorem addMethod_find? (file : SourceFile) (name : String) (signatures : Signatures)
    (method : MethodDeclaration) (ns id : String) :
    (addMethod known file name signatures method).find? ns id =
      (signatures.find? ns id).or
        (if ns = name ∧ id = method.name then some (declarations known file method) else none) := by
  unfold addMethod
  split
  · next old found =>
    by_cases same : ns = name ∧ id = method.name
    · rw [same.1, same.2, found, Option.some_or]
    · rw [if_neg same, Option.or_none]
  · next absent => exact Signatures.find?_insert_of_none absent _ ns id

/-- The parameters of the first method of a name. -/
def firstDeclarations? (known : List String) (file : SourceFile) (type : TypeDeclaration)
    (id : String) : Option (List Declaration) :=
  (type.methods.find? fun method => method.name == id).map (declarations known file)

theorem foldl_addMethod_find? (file : SourceFile) (name : String) (signatures : Signatures)
    (methods : List MethodDeclaration) (ns id : String) :
    (methods.foldl (addMethod known file name) signatures).find? ns id =
      (signatures.find? ns id).or
        (if ns = name then
          (methods.find? fun method => method.name == id).map (declarations known file)
        else none) := by
  induction methods generalizing signatures with
  | nil => simp
  | cons method rest ih =>
    rw [List.foldl_cons, ih, addMethod_find?, Option.or_assoc, List.find?_cons]
    congr 1
    by_cases here : ns = name
    · by_cases first : id = method.name
      · simp [here, first]
      · have other : (method.name == id) = false := by simpa using Ne.symm first
        simp [here, first, other]
    · simp [here]

theorem foldl_addType_classes (index : Index)
    (types : Dict (SourceFile × TypeDeclaration))
    (named : ∀ entry ∈ types, qualifiedName entry.2.1.package entry.2.2.name = entry.1) :
    (types.foldl (fun index entry => addType known entry.2.1 index entry.2.2)
        index).classes.classes =
      index.classes.classes.putAll
        (types.map fun entry => (entry.1, classInfo known entry.2.1 entry.2.2)) := by
  induction types generalizing index with
  | nil => rfl
  | cons entry rest ih =>
    obtain ⟨here, there⟩ := List.forall_mem_cons.1 named
    rw [List.foldl_cons, ih _ there, List.map_cons, Dict.putAll_cons, ← here]
    rfl

theorem foldl_addType_signatures (index : Index)
    {types : Dict (SourceFile × TypeDeclaration)} (once : types.names.Nodup)
    (named : ∀ entry ∈ types, qualifiedName entry.2.1.package entry.2.2.name = entry.1)
    (ns id : String) :
    (types.foldl (fun index entry => addType known entry.2.1 index entry.2.2)
        index).signatures.find? ns id =
      (index.signatures.find? ns id).or
        ((types.get? ns).bind fun found => firstDeclarations? known found.1 found.2 id) := by
  induction types generalizing index with
  | nil => simp
  | cons entry rest ih =>
    obtain ⟨name, file, type⟩ := entry
    obtain ⟨here, there⟩ := List.forall_mem_cons.1 named
    obtain ⟨fresh, later⟩ := List.nodup_cons.1 once
    have named : qualifiedName file.package type.name = name := here
    rw [List.foldl_cons, ih _ later there, Dict.get?_cons]
    have added : (addType known file index type).signatures.find? ns id =
        (index.signatures.find? ns id).or
          (if ns = name then firstDeclarations? known file type id else none) := by
      rw [← named]
      exact foldl_addMethod_find? file _ _ _ ns id
    rw [added, Option.or_assoc]
    congr 1
    -- No later type has the name of this one, so nothing that follows can add to its methods.
    by_cases same : ns = name
    · subst same
      have absent : Dict.get? rest ns = none := Dict.get?_eq_none_iff.2 fresh
      simp [absent]
    · simp [same]

theorem named_declared (files : List SourceFile) : ∀ entry ∈ declared files,
    qualifiedName entry.2.1.package entry.2.2.name = entry.1 := by
  intro entry member
  obtain ⟨file, -, inside⟩ := List.mem_flatMap.1 member
  obtain ⟨type, -, rfl⟩ := List.mem_map.1 inside
  rfl

section

variable {files : List SourceFile} (once : (knownNames files).Nodup)

include once

/-- The classes of an index are the declared types, in the order of the files. -/
theorem classes_ofFiles : (ofFiles files).classes.classes = (declared files).map fun entry =>
    (entry.1, classInfo (knownNames files) entry.2.1 entry.2.2) := by
  rw [← names_declared] at once
  rw [ofFiles_eq_foldl, foldl_addType_classes _ _ (named_declared files)]
  exact Dict.ofPairs_map (fun entry => classInfo (knownNames files) entry.2.1 entry.2.2) once

theorem signatures_ofFiles (ns id : String) : (ofFiles files).signatures.find? ns id =
    ((declared files).get? ns).bind fun found =>
      firstDeclarations? (knownNames files) found.1 found.2 id := by
  rw [ofFiles_eq_foldl,
    foldl_addType_signatures _ (names_declared files ▸ once) (named_declared files)]
  rfl

end

/-! ## Another order -/

section

variable {files files' : List SourceFile} (moved : files.Perm files')

include moved

theorem declared_perm : (declared files).Perm (declared files') := moved.flatMap_right _

theorem mem_knownNames (name : String) : name ∈ knownNames files ↔ name ∈ knownNames files' :=
  (moved.flatMap_right _).mem_iff

variable (once : (knownNames files).Nodup)

include once

theorem nodup_knownNames : (knownNames files').Nodup :=
  (moved.flatMap_right _).nodup_iff.1 once

/-- The same classes, in another order. -/
theorem classes_rearranged : (ofFiles files).classes.Rearranged (ofFiles files').classes := by
  have same : (fun entry : String × SourceFile × TypeDeclaration =>
      (entry.1, classInfo (knownNames files) entry.2.1 entry.2.2)) = fun entry =>
        (entry.1, classInfo (knownNames files') entry.2.1 entry.2.2) := by
    funext entry
    rw [classInfo_eq (mem_knownNames moved)]
  constructor
  · rw [classes_ofFiles once, classes_ofFiles (nodup_knownNames moved once), same]
    exact (declared_perm moved).map _
  · rw [ClassTable.names, classes_ofFiles once, Dict.names_map, ← Dict.names, names_declared]
    exact once

/-- The same parameters of every method. -/
theorem signatures_eq (ns id : String) :
    (ofFiles files).signatures.find? ns id = (ofFiles files').signatures.find? ns id := by
  have first (file : SourceFile) (type : TypeDeclaration) :
      firstDeclarations? (knownNames files) file type id =
        firstDeclarations? (knownNames files') file type id := by
    unfold firstDeclarations?
    rw [funext (declarations_eq (mem_knownNames moved) file)]
  rw [signatures_ofFiles once, signatures_ofFiles (nodup_knownNames moved once),
    Dict.get?_of_perm (declared_perm moved) (names_declared files ▸ once)]
  simp only [first]

end

end Index

end Source

end SqlPreview
