import SqlPreview.Proofs.Dictionary
import SqlPreview.Proofs.Sql.Siblings

/-!
# Inclusions with a fixed name

An inclusion whose name holds no placeholder means one fragment, which the registry and the
namespace decide alone.

This file defines:
1. the fragment that a name with a namespace in front means (`qualified?`);
2. texts without placeholders (`IsStatic`);
3. the inclusions that mean a fixed fragment (`Includes`).

Results:
1. `Includes.of_qualified`: a qualified name means the same fragment from every namespace.
2. `Includes.inclusion_eq`: such an inclusion renders the fragment in its own scope, moved to the
   namespace of the fragment.
-/

namespace SqlPreview

theorem Text.splitLast?_append {cut : Char → Bool} {c : Char} (cuts : cut c = true)
    (before : List Char) {after : List Char} (plain : ∀ d ∈ after, cut d = false) :
    Text.splitLast? cut (before ++ c :: after) = some (before, after) := by
  have none : Text.splitLast? cut after = none := by
    induction after with
    | nil => rfl
    | cons d rest ih =>
      obtain ⟨here, there⟩ := List.forall_mem_cons.1 plain
      rw [splitLast?, ih there]
      simp [here]
  induction before with
  | nil => simp [splitLast?, none, cuts]
  | cons d before ih => rw [List.cons_append, splitLast?, ih]

/-! ## Texts without placeholders -/

def Piece.isVerbatim : Piece → Bool
  | .verbatim _ => true
  | .placeholder _ => false

/-- A text without placeholders. -/
def IsStatic (text : String) : Prop :=
  ∀ piece ∈ Piece.ofText text.toList, piece.isVerbatim = true

theorem resolvePieces_static {m : Type → Type} [Monad m] [LawfulMonad m]
    (resolve : Placeholder → m (List Char)) {pieces : List Piece}
    (static : ∀ piece ∈ pieces, piece.isVerbatim = true) :
    ∃ text, pieces = text.map Piece.verbatim ∧ resolvePieces resolve pieces = pure text := by
  induction pieces with
  | nil => exact ⟨[], rfl, rfl⟩
  | cons piece rest ih =>
    obtain ⟨here, there⟩ := List.forall_mem_cons.1 static
    obtain ⟨text, same, run⟩ := ih there
    cases piece with
    | verbatim c => exact ⟨c :: text, by rw [same, List.map_cons], by simp [resolvePieces, run]⟩
    | placeholder p => cases here

/-- The pieces of a text, as they are written, are the text. -/
theorem ofText_eq_verbatim {text chars : List Char}
    (pieces : Piece.ofText text = chars.map Piece.verbatim) : text = chars := by
  induction text generalizing chars with
  | nil =>
    rw [Piece.ofText] at pieces
    cases chars with
    | nil => rfl
    | cons c chars => cases pieces
  | cons c rest ih =>
    rw [Piece.ofText] at pieces
    cases chars with
    | nil =>
      split at pieces <;> cases pieces
    | cons d chars =>
      split at pieces
      · cases pieces
      · obtain ⟨same, others⟩ := List.cons.inj pieces
        cases same
        rw [ih others]

theorem substitute_static {m : Type → Type} [Monad m] [LawfulMonad m]
    (resolve : Placeholder → m (List Char)) {text : String} (static : IsStatic text) :
    substitute resolve text.toList = pure text.toList := by
  obtain ⟨chars, pieces, run⟩ := resolvePieces_static resolve static
  rw [substitute, run, ofText_eq_verbatim pieces]

namespace Render

/-! ## Fragments by name -/

/-- The fragment that a name means with its namespace in front. -/
def qualified? (registry : Registry) (refid : String) : Option (String × Fragment) :=
  match Text.splitLast? (· == '.') refid.toList with
  | some (before, id) => fragmentIn? registry (String.ofList before) (String.ofList id)
  | none => none

theorem fragment?_eq (registry : Registry) (refid ns : String) :
    fragment? registry refid ns =
      (qualified? registry refid).or (fragmentIn? registry ns refid) := by
  unfold fragment? qualified?
  exact Option.orElse_eq_or ..

theorem qualified?_append {registry : Registry} {ns id : String} (plain : '.' ∉ id.toList) :
    qualified? registry (ns ++ "." ++ id) = fragmentIn? registry ns id := by
  have split : Text.splitLast? (· == '.') (ns ++ "." ++ id).toList =
      some (ns.toList, id.toList) := by
    have written : (ns ++ "." ++ id).toList = ns.toList ++ '.' :: id.toList := by simp
    rw [written]
    refine Text.splitLast?_append rfl _ fun c member => ?_
    have other : c ≠ '.' := fun same => plain (same ▸ member)
    simpa using other
  rw [qualified?, split]
  simp

/-- A fragment that a name means is one of the registry. -/
theorem registered_of_fragmentIn? {registry : Registry} {ns id : String} {found : String × Fragment}
    (located : fragmentIn? registry ns id = some found) :
    ∃ mapper ∈ registry.mappers, ∃ fragment ∈ mapper.2.fragments, fragment.2 = found.2 := by
  simp only [fragmentIn?, Option.bind_eq_bind, Option.bind_eq_some_iff] at located
  obtain ⟨mapper, loaded, fragment, defined, same⟩ := located
  cases same
  exact ⟨_, Dict.mem_of_get? loaded, _, Dict.mem_of_get? defined, rfl⟩

theorem registered_of_fragment? {registry : Registry} {refid ns : String}
    {found : String × Fragment} (located : fragment? registry refid ns = some found) :
    ∃ mapper ∈ registry.mappers, ∃ fragment ∈ mapper.2.fragments, fragment.2 = found.2 := by
  rw [fragment?_eq] at located
  rcases Option.or_eq_some_iff.1 located with qualified | ⟨-, bare⟩
  · unfold qualified? at qualified
    split at qualified
    · exact registered_of_fragmentIn? qualified
    · cases qualified
  · exact registered_of_fragmentIn? bare

/-! ## Inclusions -/

/-- An inclusion without properties of its own that, seen from a namespace, means a fixed fragment
of some namespace. -/
structure Includes (registry : Registry) (ns : String) (inclusion : Element) (target : String)
    (fragment : Fragment) : Prop where
  kind : inclusion.kind = .include
  bare : ∀ child ∈ inclusion.childElements, child.kind ≠ .property
  named : ∃ refid, inclusion.attribute? "refid" = some refid ∧ IsStatic refid ∧
    fragment? registry refid ns = some (target, fragment)

variable {setting : Setting} {scope : Scope}

theorem includeProperties_skip {tag : String} {element : Element} (other : element.kind ≠ .property)
    (properties : Dict String) (rest : List Element) :
    includeProperties setting scope tag properties (element :: rest) =
      includeProperties setting scope tag properties rest := by
  rw [includeProperties]
  split
  · next kind _ _ => exact absurd kind other
  · rfl

theorem includeProperties_bare {tag : String} {children : List Element}
    (bare : ∀ child ∈ children, child.kind ≠ .property) (properties : Dict String) :
    includeProperties setting scope tag properties children = .ok properties := by
  induction children with
  | nil => rfl
  | cons child rest ih =>
    obtain ⟨here, there⟩ := List.forall_mem_cons.1 bare
    rw [includeProperties_skip here, ih there]

theorem attributeText_static {tag text : String} (static : IsStatic text) :
    attributeText setting scope tag text = .ok text := by
  rw [attributeText, substitute_static _ static, pure_bind, String.ofList_toList]
  rfl

namespace Includes

variable {registry : Registry} {ns target : String} {element : Element} {fragment : Fragment}

/-- A qualified name means the same fragment from every namespace. -/
theorem of_qualified {place id : String} (kind : element.kind = .include)
    (bare : ∀ child ∈ element.childElements, child.kind ≠ .property)
    (named : element.attribute? "refid" = some (place ++ "." ++ id))
    (static : IsStatic (place ++ "." ++ id)) (plain : '.' ∉ id.toList)
    (located : fragmentIn? registry place id = some (target, fragment)) :
    Includes registry ns element target fragment := by
  refine ⟨kind, bare, _, named, static, ?_⟩
  rw [fragment?_eq, qualified?_append plain, located]
  rfl

/-- The body of the fragment stands for the inclusion, in the namespace of the fragment. -/
theorem inclusion_eq (includes : Includes setting.registry scope.ns element target fragment)
    (body : Body) :
    inclusion setting body scope element =
      body { scope with ns := target } "sql" fragment.body := by
  obtain ⟨refid, named, static, located⟩ := includes.named
  unfold inclusion
  simp only [named, includeProperties_bare includes.bare, attributeText_static static, ok_bind,
    located]

/-- What the tag of such an inclusion renders. -/
theorem element_eq (includes : Includes setting.registry scope.ns element target fragment)
    (body : Body) :
    Render.element setting body scope element =
      body { scope with ns := target } "sql" fragment.body := by
  unfold Render.element
  rw [includes.kind]
  exact includes.inclusion_eq body

end Includes

end Render

end SqlPreview
