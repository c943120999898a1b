import Mathlib
import SqlPreview.Proofs.Source.Formals
import SqlPreview.Proofs.Source.Rearranged

/-!
# Abstract methods

The declarations of an abstract method in the index are those of its formal parameters, in order and
at their places. They are the right ones exactly if no formal parameter has dimensions behind its
name or other white space than a space behind `final`.

This file defines abstract methods as they are written (`AbstractMethod`).

Results:
1. `AbstractMethod.method?_written`: what is read of an abstract method.
2. `formals_indexed`: its declarations in the index, and when they are the right ones.
3. `dims_behind_name_lost`: formal parameters that are not indexed as they are written.
-/

namespace SqlPreview.Source

/-! ## Abstract methods -/

/-- An abstract method as it is written: annotations, modifiers and a type before its name, its
formal parameters, and what may stand behind them. -/
structure AbstractMethod where
  lead : List Char
  first : Char
  more : List Char
  others : List String
  name : String
  formals : List Formal
  tail : List Char
  annotated : Annotations first lead
  solid : Text.isBlank first = false
  bare : first ≠ '@'
  inOne : Unbroken (lead ++ first :: more)
  plain : '(' ∉ first :: more
  words : (Text.words (first :: more)).map String.ofList = others ++ [name]
  typed : others ≠ []
  unimplemented : ∀ word ∈ others, word ∉ ownBodyModifiers
  ending : Unbroken tail

namespace AbstractMethod

variable (method : AbstractMethod)

def text : List Char :=
  method.lead ++ (method.first :: method.more ++
    '(' :: (formalList method.formals ++ ')' :: method.tail))

theorem unbroken : Unbroken method.text := by
  have list : Unbroken ('(' :: (formalList method.formals ++ ')' :: method.tail)) :=
    .char (by decide) (by decide) (by decide) (by decide) <|
      (unbroken_formalList method.formals).append
        (.char (by decide) (by decide) (by decide) (by decide) method.ending)
  have whole := method.inOne.append list
  rwa [List.append_assoc] at whole

theorem methodWith?_words (parameters : List ParameterDeclaration) :
    methodWith? (method.first :: method.more) parameters = some ⟨method.name, parameters⟩ := by
  have isAbstract : method.others.any ownBodyModifiers.contains = false := by
    rw [List.any_eq_false]
    intro word member
    simpa using method.unimplemented word member
  rw [methodWith?, method.words]
  simp [method.typed, isAbstract]

/-- What is read of an abstract method. -/
theorem method?_written : method? (Text.trim method.text) =
    some ⟨method.name, parameters (formalList method.formals)⟩ := by
  have solid : Text.trim method.text ≠ [] := Text.trim_ne_nil method.solid (by simp [text])
  obtain ⟨gap, blank, trimEnd⟩ := Text.exists_trimEnd_eq solid
  obtain ⟨kept, ends⟩ := Text.exists_trimEnd_cons (c := ')') (by decide) method.tail
  have shape (tail : List Char) : method.lead ++ (method.first :: method.more ++
      '(' :: (formalList method.formals ++ ')' :: tail)) =
        (method.lead ++ (method.first :: method.more ++ '(' :: formalList method.formals)) ++
          ')' :: tail := by simp
  have start (rest : List Char) :
      afterLeadingAnnotations (method.first :: method.more ++ rest) =
        method.first :: method.more ++ rest := by
    have trimStart : Text.trimStart (method.first :: method.more ++ rest) =
        method.first :: method.more ++ rest := List.dropWhile_cons_of_neg (by simp [method.solid])
    rw [afterLeadingAnnotations_of_ne, trimStart]
    rw [trimStart]
    exact fun head => method.bare (Option.some.inj head)
  have cut (rest : List Char) : Text.splitFirst? (· == '(') (method.first :: method.more ++ '(' :: rest) =
      some (method.first :: method.more, rest) :=
    Text.splitFirst?_eq_some.2 ⟨'(', rfl, fun c member => by
      rw [beq_eq_false_iff_ne]
      exact ne_of_mem_of_not_mem member method.plain, rfl⟩
  have round : Bracket.round ∈ groups := by decide
  rw [← method?_blank blank, ← trimEnd, text, shape, ends, ← shape, List.cons_append,
    method.annotated.method?_eq method.solid, ← List.cons_append, method?_eq, start, cut,
    Option.bind_some, methodBehind?, splitParens?_balanced round (balanced_formalList method.formals),
    Option.bind_some, method.methodWith?_words]

end AbstractMethod

/-! ## Declarations -/

section

variable (known : List String) (file : SourceFile)

theorem dims_qualifyType (type : TypeRef) : (qualifyType known file type).dims = type.dims := by
  obtain ⟨name, args, dims⟩ := type
  rw [qualifyType]

/-- What is indexed for a formal parameter at its place: nothing if `final` is taken for a part of
the type, and without the dimensions behind the name. -/
def indexedAt? (entry : Formal × Nat) : Option Declaration :=
  if entry.1.spaced then
    some ⟨entry.1.binding, qualifyType known file entry.1.meaning, entry.2⟩
  else none

/-- What a formal parameter declares at its place. -/
def declarationAt (entry : Formal × Nat) : Declaration :=
  ⟨entry.1.binding, qualifyType known file entry.1.declaredType, entry.2⟩

theorem indexedAt?_eq_some_iff (entry : Formal × Nat) :
    indexedAt? known file entry = some (declarationAt known file entry) ↔
      entry.1.spaced = true ∧ entry.1.dims = 0 := by
  obtain ⟨formal, position⟩ := entry
  have dims : (qualifyType known file formal.declaredType).dims =
      (qualifyType known file formal.meaning).dims + formal.dims := by
    rw [dims_qualifyType, dims_qualifyType, Formal.declaredType]
  unfold indexedAt? declarationAt
  cases formal.spaced with
  | false => simp
  | true =>
    simp only [if_true, true_and, Option.some.injEq, Declaration.mk.injEq, and_true]
    constructor
    · intro same
      rw [← same] at dims
      omega
    · intro none
      rw [Formal.declaredType, none]
      cases formal.meaning
      rfl

theorem declarations_formalList (name : String) (formals : List Formal) :
    Index.declarations known file ⟨name, parameters (formalList formals)⟩ =
      formals.zipIdx.filterMap (indexedAt? known file) := by
  have read (formal : Formal) : type? known file (String.ofList (Text.trim formal.typeRead)) =
      if formal.spaced then some (qualifyType known file formal.meaning) else none := by
    rw [type?, TypeRef.read?, String.toList_ofList, TypeRef.readChars?_trim,
      formal.readChars?_typeRead]
    split <;> rfl
  rw [Index.declarations, parameters_formalList, List.zipIdx_map, List.filterMap_map]
  refine List.filterMap_congr fun entry _ => ?_
  simp only [Function.comp_apply, Prod.map_fst, Prod.map_snd, id_eq, read, indexedAt?]
  split <;> rfl

/-- The declarations are the right ones exactly if every formal parameter is kept, and with all its
dimensions. -/
theorem indexed_eq_declared_iff (formals : List Formal) :
    formals.zipIdx.filterMap (indexedAt? known file) =
        formals.zipIdx.map (declarationAt known file) ↔
      ∀ formal ∈ formals, formal.spaced = true ∧ formal.dims = 0 := by
  rw [List.filterMap_eq_map_iff_forall_eq_some]
  simp only [indexedAt?_eq_some_iff]
  conv_rhs => rw [← List.zipIdx_map_fst 0 formals]
  rw [List.forall_mem_map]

end

/-- The statements of a body behind whole members. -/
theorem exists_statements_behind {before : List Char} (whole : WholeMembers before)
    (method : AbstractMethod) (rest : List Char) :
    ∃ others, statements (before ++ (method.text ++ ';' :: rest)) =
      statements before ++ Text.trim method.text :: others := by
  obtain ⟨pieces, gap, blank, same⟩ := exists_statementPieces_members whole
  have solid : Text.trim method.text ≠ [] :=
    Text.trim_ne_nil method.solid (by simp [AbstractMethod.text])
  have last : statements before = nonblank pieces := by
    have none : Text.trim gap = [] := by
      have trimmed := Text.trim_append_blank blank []
      rwa [List.append_nil] at trimmed
    have ends := same []
    have nil : statementPieces .outside 0 [] = [[]] := rfl
    rw [List.append_nil, nil, ontoFirst_cons, List.append_nil] at ends
    simp [statements, nonblank, ends, none]
  have cut : statementPieces .outside 0 (method.text ++ ';' :: rest) =
      method.text :: statementPieces .outside 0 rest := by
    have semicolon : statementPieces .outside 0 (';' :: rest) =
        [] :: statementPieces .outside 0 rest := rfl
    rw [statementPieces_unbroken method.unbroken, semicolon, ontoFirst_cons, List.append_nil]
  exact ⟨_, last ▸ statements_eq blank (same _) cut solid⟩

/-- The first abstract method of a name in an interface has the declarations of its formal
parameters in the index of all files. They are the right ones exactly if every formal parameter has
a space behind `final` and no dimensions behind its name. -/
theorem formals_indexed (method : AbstractMethod) {before : List Char} (whole : WholeMembers before)
    (first : ∀ earlier ∈ (statements before).filterMap method?, earlier.name ≠ method.name)
    (name header rest : List Char) {files : List SourceFile} (once : (Index.knownNames files).Nodup)
    {file : SourceFile} (member : file ∈ files)
    (declares : typeOfBody .interface name header (before ++ (method.text ++ ';' :: rest)) ∈
      file.types) :
    let known := Index.knownNames files
    let found := (Index.ofFiles files).signatures.find?
      (qualifiedName file.package (String.ofList name)) method.name
    found = some (method.formals.zipIdx.filterMap (indexedAt? known file)) ∧
      (found = some (method.formals.zipIdx.map (declarationAt known file)) ↔
        ∀ formal ∈ method.formals, formal.spaced = true ∧ formal.dims = 0) := by
  intro known found
  have indexed : found = some (method.formals.zipIdx.filterMap (indexedAt? known file)) := by
    have names : (Index.declared files).names.Nodup := Index.names_declared files ▸ once
    have here : (Index.declared files).get? (qualifiedName file.package (String.ofList name)) =
        some (file, typeOfBody .interface name header (before ++ (method.text ++ ';' :: rest))) :=
      (Dict.get?_eq_some_iff names).2
        (List.mem_flatMap.2 ⟨file, member, List.mem_map.2 ⟨_, declares, rfl⟩⟩)
    obtain ⟨others, cut⟩ := exists_statements_behind whole method rest
    have earlier : ((statements before).filterMap method?).find? (fun method' =>
        method'.name == method.name) = none :=
      List.find?_eq_none.2 fun other inside => by simpa using first other inside
    have chosen : (((statements (before ++ (method.text ++ ';' :: rest))).filterMap method?).find?
        fun method' => method'.name == method.name) =
          some ⟨method.name, parameters (formalList method.formals)⟩ := by
      rw [cut, List.filterMap_append, List.find?_append, earlier, List.filterMap_cons,
        method.method?_written, Option.none_or]
      exact List.find?_cons_of_pos (by simp)
    change (Index.ofFiles files).signatures.find? _ _ = _
    rw [Index.signatures_ofFiles once, here, Option.bind_some, Index.firstDeclarations?]
    change (List.find? _ ((statements _).filterMap method?)).map _ = _
    rw [chosen, Option.map_some, declarations_formalList]
  refine ⟨indexed, ?_⟩
  rw [indexed, Option.some.injEq]
  exact indexed_eq_declared_iff known file method.formals

/-! ## An interface -/

def namingA : Naming := ⟨['a'], [' '], .of_plain (by simp), by decide, isBlank_space⟩

/-- A formal parameter with a name of its own and a space behind `final`. -/
def formalX : Formal where
  lead := []
  naming := some namingA
  finalGap := some [' ']
  type := "int".toList
  meaning := .named "int"
  gap := [' ']
  name := ['x']
  dims := 0
  trail := []
  blankLead := isBlank_nil
  blankFinal := by rintro _ ⟨⟩; exact ⟨List.cons_ne_nil _ _, isBlank_space⟩
  read := by cbv
  typed := by decide
  apart := List.cons_ne_nil _ _
  blankGap := isBlank_space
  present := List.cons_ne_nil _ _
  named := List.all_eq_true.1 (by decide)
  blankTrail := isBlank_nil

/-- A formal parameter with dimensions in its type and behind its name. -/
def formalY : Formal where
  lead := [' ']
  naming := none
  finalGap := none
  type := "Map<String, int[]>".toList
  meaning := ⟨"Map", [.named "String", ⟨"int", [], 1⟩], 0⟩
  gap := [' ']
  name := ['y']
  dims := 1
  trail := []
  blankLead := isBlank_space
  blankFinal := nofun
  read := by cbv
  typed := by decide
  apart := List.cons_ne_nil _ _
  blankGap := isBlank_space
  present := List.cons_ne_nil _ _
  named := List.all_eq_true.1 (by decide)
  blankTrail := isBlank_nil

/-- A formal parameter with a tab behind `final`. -/
def formalZ : Formal where
  lead := [' ']
  naming := none
  finalGap := some ['\t']
  type := "long".toList
  meaning := .named "long"
  gap := [' ']
  name := ['z']
  dims := 0
  trail := []
  blankLead := isBlank_space
  blankFinal := by rintro _ ⟨⟩; exact ⟨List.cons_ne_nil _ _, List.all_eq_true.1 (by decide)⟩
  read := by cbv
  typed := by decide
  apart := List.cons_ne_nil _ _
  blankGap := isBlank_space
  present := List.cons_ne_nil _ _
  named := List.all_eq_true.1 (by decide)
  blankTrail := isBlank_nil

def annotationUpdate : AnnotationUse :=
  ⟨"Update".toList, none, List.all_eq_true.1 (by decide +kernel)⟩

theorem words_update :
    (Text.words ('L' :: "ist<A> f".toList)).map String.ofList = ["List<A>"] ++ ["f"] := by
  decide +kernel

/-- A method with these formal parameters, behind an annotation. -/
def methodUpdate : AbstractMethod where
  lead := ['\n', ' '] ++ (annotationUpdate.text ++ [' '])
  first := 'L'
  more := "ist<A> f".toList
  others := ["List<A>"]
  name := "f"
  formals := [formalX, formalY, formalZ]
  tail := []
  annotated := .annotated_space annotationUpdate isBlank_line rfl (by decide)
  solid := rfl
  bare := by decide
  inOne := .of_plain (by simp [annotationUpdate, AnnotationUse.text, AnnotationUse.given, isQuote])
  plain := by decide
  words := words_update
  typed := List.cons_ne_nil _ _
  unimplemented := by decide
  ending := .nil

theorem wholeMembers_before : WholeMembers (" int g()".toList ++ [';']) :=
  .statement (.of_plain (by simp [isQuote])) .nil

theorem methods_before :
    (statements (" int g()".toList ++ [';'])).filterMap method? = [⟨"g", []⟩] := by
  decide +kernel

theorem indexed_update (known : List String) (file : SourceFile) :
    methodUpdate.formals.zipIdx.filterMap (indexedAt? known file) =
      [⟨some "a", qualifyType known file (.named "int"), 0⟩,
        ⟨none, qualifyType known file ⟨"Map", [.named "String", ⟨"int", [], 1⟩], 0⟩, 1⟩] := rfl

/-- Of three formal parameters, one is indexed as it is written, one without its dimension, and one is
left out because of a tab. -/
theorem formals_of_interface_indexed :
    let binding := '"' :: 'a' :: '"' :: [')']
    let formals := "@Param(".toList ++ (binding ++
      " final int x, Map<String, int[]> y[], final\tlong z".toList)
    let body := " int g();\n @Update List<A> f(".toList ++ (formals ++ "); ".toList)
    let file := read (String.ofList ("package p; interface M ".toList ++ '{' :: (body ++ ['}'])))
    (Index.ofFiles [file]).signatures.find? "p.M" "f" = some
      [⟨some "a", .named "int", 0⟩,
        ⟨none, ⟨"Map", [.named "java.lang.String", ⟨"int", [], 1⟩], 0⟩, 1⟩] := by
  intro binding formals body file
  have same : (" int g()".toList ++ [';']) ++ (methodUpdate.text ++ ';' :: [' ']) = body := by rfl
  have declares : typeOfBody .interface ['M'] [' '] body ∈ file.types := by decide +kernel
  have once : (Index.knownNames [file]).Nodup := by decide +kernel
  have first : ∀ earlier ∈ (statements (" int g()".toList ++ [';'])).filterMap method?,
      earlier.name ≠ methodUpdate.name := by
    rw [methods_before, List.forall_mem_singleton]
    exact (by decide : "g" ≠ "f")
  have indexed := (formals_indexed methodUpdate wholeMembers_before first ['M'] [' '] [' '] once
    List.mem_cons_self (same ▸ declares)).1
  have name : methodUpdate.name = "f" := rfl
  have ns : qualifiedName file.package (String.ofList ['M']) = "p.M" := by decide +kernel
  have int : qualify (Index.knownNames [file]) file "int" = "int" := by decide +kernel
  have map : qualify (Index.knownNames [file]) file "Map" = "Map" := by decide +kernel
  have string : qualify (Index.knownNames [file]) file "String" = "java.lang.String" := by
    decide +kernel
  rw [indexed_update, ns, name] at indexed
  simpa only [TypeRef.named, qualifyType, qualifyTypes, int, map, string] using indexed

/-- Dimensions behind the name of a formal parameter are lost, and with a tab behind `final` the
parameter is. -/
theorem dims_behind_name_lost :
    let found (formals : List Char) :=
      let body := " void f(".toList ++ (formals ++ "); ".toList)
      let text := String.ofList ("interface M ".toList ++ '{' :: (body ++ ['}']))
      (Index.ofTexts [text]).signatures.find? "M" "f"
    found "int[] a".toList = some [⟨none, ⟨"int", [], 1⟩, 0⟩] ∧
      found "int a[]".toList = some [⟨none, ⟨"int", [], 0⟩, 0⟩] ∧
      found "final int a".toList = some [⟨none, ⟨"int", [], 0⟩, 0⟩] ∧
      found "final\tint a".toList = some [] := by
  have index (type : String) {text : String} (written : read text =
      ⟨"", [], [⟨"M", .interface, none, [], [⟨"f", [⟨none, type⟩]⟩], []⟩]⟩) :
      (Index.ofTexts [text]).signatures.find? "M" "f" =
        some ((type? ["M"] (read text) type).map fun type => ⟨none, type, 0⟩).toList := by
    have declared : (Index.ofTexts [text]).signatures.find? "M" "f" =
        some (Index.declarations ["M"] (read text) ⟨"f", [⟨none, type⟩]⟩) := by
      rw [Index.ofTexts, List.map_singleton, written]
      rfl
    rw [declared, Index.declarations]
    cases found : type? ["M"] (read text) type <;> simp [found]
  have number (file : SourceFile) : type? ["M"] file "int" = some ⟨"int", [], 0⟩ := by
    have read : TypeRef.read? "int" = some ⟨"int", [], 0⟩ := by cbv
    rw [type?, read]
    rfl
  have array (file : SourceFile) : type? ["M"] file "int[]" = some ⟨"int", [], 1⟩ := by
    have read : TypeRef.read? "int[]" = some ⟨"int", [], 1⟩ := by cbv
    rw [type?, read]
    rfl
  have modified (file : SourceFile) : type? ["M"] file "final\tint" = none := by
    have read : TypeRef.read? "final\tint" = none := by cbv
    rw [type?, read]
    rfl
  intro found
  have before : found "int[] a".toList = _ := index "int[]" (by decide +kernel)
  have behind : found "int a[]".toList = _ := index "int" (by decide +kernel)
  have space : found "final int a".toList = _ := index "int" (by decide +kernel)
  have tab : found "final\tint a".toList = _ := index "final\tint" (by decide +kernel)
  rw [before, behind, space, tab, array, number, number, modified]
  exact ⟨rfl, rfl, rfl, rfl⟩

end SqlPreview.Source
