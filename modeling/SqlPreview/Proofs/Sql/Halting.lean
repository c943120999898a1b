import SqlPreview.Proofs.Sql.Fragments
import SqlPreview.Proofs.Sql.Machine

/-!
# Every rendering ends

Fragments may include one another in any way, and the names of inclusions may be computed. Still
every rendering ends after finitely many steps; one that would go in a circle runs into the depth
limit.

Results:
1. `nodes_circle`: an inclusion that leads into a circle of fragments fails at the depth limit.
2. `statement_halts`: every statement ends in finitely many steps, and fails at the depth limit if
   it is an inclusion that leads into a circle.
-/

namespace SqlPreview.Render

/-- Fragments in a circle, each with its namespace: the body of each is just an inclusion of the
next one, and that of the last one an inclusion of the first. -/
def Circle (registry : Registry) {k : Nat} (place : Fin (k + 1) → String × Fragment) : Prop :=
  ∀ i, ∃ inclusion, (place i).2.body = [.tag inclusion] ∧
    Includes registry (place i).1 inclusion (place (i + 1)).1 (place (i + 1)).2

variable {setting : Setting} {k : Nat} {place : Fin (k + 1) → String × Fragment}

/-- Each inclusion leads one place further and takes one level, so that the levels run out. -/
theorem nodes_circle (circle : Circle setting.registry place) (room : Nat) (scope : Scope)
    {i : Fin (k + 1)} {inclusion : Element}
    (includes : Includes setting.registry scope.ns inclusion (place i).1 (place i).2)
    (parent : String) :
    nodes setting room scope parent [.tag inclusion] =
      .error (.limitExceeded setting.path .depth setting.options.maxDepth) := by
  have other : inclusion.kind ≠ .bind := by
    rw [includes.kind]
    decide
  induction room generalizing scope i inclusion parent with
  | zero => rw [nodes_eq_siblings, siblings_tag other, tagWithin, error_bind]
  | succ room ih =>
    obtain ⟨next, body, further⟩ := circle i
    have nextOther : next.kind ≠ .bind := by
      rw [further.kind]
      decide
    rw [nodes_eq_siblings, siblings_tag other, tagWithin, includes.element_eq, body,
      ih { scope with ns := (place i).1 } further "sql" nextOther, error_bind]

/-- The rendering of a statement ends after finitely many steps, with SQL or an error. If the
statement is just an inclusion of a fragment in a circle, it ends at the depth limit. -/
theorem statement_halts (setting : Setting) (statement : Statement) (context : Context) :
    (∃ n result, (step setting)^[n] (start setting statement context) = .halted result ∧
      Render.statement setting statement context =
        result.map fun sql => String.ofList (Layout.format sql)) ∧
    ∀ (k : Nat) (place : Fin (k + 1) → String × Fragment) (inclusion : Element),
      Circle setting.registry place → statement.body = [.tag inclusion] →
      Includes setting.registry setting.path.ns inclusion (place 0).1 (place 0).2 →
      Render.statement setting statement context =
        .error (.limitExceeded setting.path .depth setting.options.maxDepth) := by
  constructor
  · obtain ⟨n, run⟩ := statement_reaches setting statement context
    exact ⟨n, _, run, bind_pure_comp ..⟩
  · intro k place inclusion circle body includes
    have failed := nodes_circle circle setting.options.maxDepth
      ⟨context, [], setting.path.ns⟩ includes statement.kind.name
    rw [← body] at failed
    unfold Render.statement
    simp only [failed, error_bind]

/-- An inclusion by a qualified name. -/
def includeOf (ns id : String) : Element := ⟨"include", [("refid", ns ++ "." ++ id)], []⟩

/-- From every namespace it means the fragment that its name says. -/
theorem includeOf_includes {registry : Registry} {ns id target : String} {fragment : Fragment}
    (static : IsStatic (ns ++ "." ++ id)) (plain : '.' ∉ id.toList)
    (located : fragmentIn? registry ns id = some (target, fragment)) (current : String) :
    Includes registry current (includeOf ns id) target fragment :=
  .of_qualified rfl (fun _ member => by cases member) rfl static plain located

/-- Two fragments of two namespaces that include each other. -/
def there : Fragment := ⟨"there", [.tag (includeOf "b" "back")]⟩

def back : Fragment := ⟨"back", [.tag (includeOf "a" "there")]⟩

theorem there_and_back_halts :
    let setting : Setting :=
      ⟨⟨[("a", ⟨"a", [], [("there", there)]⟩), ("b", ⟨"b", [], [("back", back)]⟩)]⟩, {}, ⟨"m", "s"⟩⟩
    let place : Fin 2 → String × Fragment := fun i => if i = 0 then ("a", there) else ("b", back)
    Circle setting.registry place ∧
    Render.statement setting ⟨"s", .select, none, back.body⟩ .empty =
      .error (.limitExceeded ⟨"m", "s"⟩ .depth 64) := by
  intro setting place
  have static : IsStatic ("a" ++ "." ++ "there") ∧ IsStatic ("b" ++ "." ++ "back") := by
    unfold IsStatic
    decide +kernel
  have toThere : ∀ ns, Includes setting.registry ns (includeOf "a" "there") "a" there :=
    includeOf_includes static.1 (by decide) rfl
  have toBack : ∀ ns, Includes setting.registry ns (includeOf "b" "back") "b" back :=
    includeOf_includes static.2 (by decide) rfl
  have circle : Circle setting.registry place :=
    Fin.forall_fin_two.2 ⟨⟨_, rfl, toBack "a"⟩, ⟨_, rfl, toThere "b"⟩⟩
  exact ⟨circle, (statement_halts setting _ .empty).2 1 place _ circle rfl (toThere "m")⟩

end SqlPreview.Render
