import SqlPreview.Proofs.Sql.Leniency

/-!
# Registries that find the same mappers

Rendering looks into the registry only to find a fragment by its namespace and id, so two registries
that find the same mappers give every statement the same result.

Results:
1. `nodes_same_where_found`: the same for nodes at any depth.
2. `statement_same_where_found`: for statements.
-/

namespace SqlPreview.Render

variable {registry registry' : Registry} {options : RenderOptions} {path : StatementPath}

theorem siblings_registry (registry registry' : Registry) (tag : Scope → Element → Rendered)
    (parent : String) (scope : Scope) (children : List Node) :
    siblings ⟨registry, options, path⟩ tag parent scope children =
      siblings ⟨registry', options, path⟩ tag parent scope children := by
  induction children generalizing scope with
  | nil => rfl
  | cons node rest ih =>
    cases node with
    | text text =>
      show (substitute (inText ⟨registry', options, path⟩ scope parent) text.toList >>= fun head =>
          siblings ⟨registry, options, path⟩ tag parent scope rest >>= fun tail =>
            pure (head ++ tail)) = _
      rw [ih]
      rfl
    | tag element =>
      unfold siblings
      cases element.kind with
      | bind =>
        show (afterBind ⟨registry', options, path⟩ scope element >>= fun scope =>
            siblings ⟨registry, options, path⟩ tag parent scope rest) = _
        simp only [ih]
      | _ => simp only [ih]

section

variable (found : ∀ ns, registry.find? ns = registry'.find? ns)

include found

theorem fragment?_same_where_found (refid ns : String) :
    fragment? registry refid ns = fragment? registry' refid ns := by
  have each (ns id : String) : fragmentIn? registry ns id = fragmentIn? registry' ns id := by
    unfold fragmentIn?
    rw [found]
  unfold fragment?
  simp only [each]

theorem inclusion_same_where_found (body : Body) (scope : Scope) (element : Element) :
    inclusion ⟨registry, options, path⟩ body scope element =
      inclusion ⟨registry', options, path⟩ body scope element := by
  unfold inclusion
  rw [includeProperties_same_path registry registry' options options]
  simp only [fragment?_same_where_found found]
  rfl

/-- Only an inclusion looks into the registry. -/
theorem element_same_where_found (body : Body) (scope : Scope) (tag : Element) :
    element ⟨registry, options, path⟩ body scope tag =
      element ⟨registry', options, path⟩ body scope tag := by
  unfold element
  rw [inclusion_same_where_found found]
  rfl

theorem nodes_same_where_found (room : Nat) :
    nodes ⟨registry, options, path⟩ room = nodes ⟨registry', options, path⟩ room := by
  induction room with
  | zero =>
    funext scope parent children
    exact siblings_registry registry registry' _ parent scope children
  | succ room ih =>
    funext scope parent children
    have tags : element ⟨registry, options, path⟩ (nodes ⟨registry, options, path⟩ room) =
        element ⟨registry', options, path⟩ (nodes ⟨registry', options, path⟩ room) := by
      funext scope tag
      rw [ih]
      exact element_same_where_found found _ scope tag
    rw [nodes, nodes, tags]
    exact siblings_registry registry registry' _ parent scope children

theorem statement_same_where_found (statement : Statement) (context : Context) :
    Render.statement ⟨registry, options, path⟩ statement context =
      Render.statement ⟨registry', options, path⟩ statement context := by
  unfold Render.statement
  rw [nodes_same_where_found found]

end

end SqlPreview.Render
