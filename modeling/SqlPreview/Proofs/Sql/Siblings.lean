import Mathlib
import SqlPreview.Sql.Render

/-!
# Scopes of siblings

Nodes that stand side by side are rendered in order, and a binding tag changes the scope of the
nodes after it. Nothing else does: whatever is bound below a node is gone when the node is done.

This file defines:
1. the bindings that stand directly among some nodes (`directBindings`), and the scope behind some
   bindings (`afterBindings`);
2. the text that one node gives itself (`own`).

Results:
1. `siblings_cons`: a node gives its own text and, if it binds, the scope of the rest.
2. `nodes_append_scoped`: nodes in two parts are the first part, and the second part in the scope
   behind the direct bindings of the first.
-/

namespace SqlPreview

/-- The name and the expression of a binding tag that has both. -/
def Tag.binding? (element : Element) : Option (String × String) :=
  match element.kind, element.attribute? "name", element.attribute? "value" with
  | .bind, some name, some expression => some (name, expression)
  | _, _, _ => none

def Node.binding? : Node → Option (String × String)
  | .text _ => none
  | .tag element => element.binding?

/-- The bindings that stand directly among some nodes, in order. -/
def directBindings (nodes : List Node) : List (String × String) := nodes.filterMap Node.binding?

theorem directBindings_cons (node : Node) (rest : List Node) :
    directBindings (node :: rest) = node.binding?.toList ++ directBindings rest := by
  unfold directBindings
  cases found : node.binding? with
  | none => rw [List.filterMap_cons_none found]; rfl
  | some binding => rw [List.filterMap_cons_some found]; rfl

theorem TagKind.ofName_eq_bind {name : String} (h : TagKind.ofName name = .bind) :
    name = "bind" := by
  unfold TagKind.ofName at h
  split at h
  case h_8 => rfl
  all_goals cases h

namespace Render

/-- The scope behind bindings. Each value is computed in the scope that the bindings before it
leave. -/
def afterBindings (setting : Setting) (scope : Scope) :
    List (String × String) → Except PreviewError Scope
  | [] => .ok scope
  | (name, expression) :: rest => do
    let value ← value setting scope "bind" expression
    afterBindings setting { scope with context := scope.context.bind name value } rest

/-- The text of one node itself. A binding tag has none. -/
def own (setting : Setting) (tag : Scope → Element → Rendered) (parent : String) (scope : Scope) :
    Node → Rendered
  | .text text => substitute (inText setting scope parent) text.toList
  | .tag element => if element.kind = .bind then .ok [] else tag scope element

/-- Renders a tag that may have `room` levels of tags, its own counted. -/
def tagWithin (setting : Setting) : Nat → Scope → Element → Rendered
  | 0 => fun _ _ => .error (.limitExceeded setting.path .depth setting.options.maxDepth)
  | room + 1 => element setting (nodes setting room)

@[simp] theorem ok_bind {α β : Type} (a : α) (f : α → Except PreviewError β) :
    (Except.ok a >>= f) = f a := rfl

@[simp] theorem error_bind {α β : Type} (e : PreviewError) (f : α → Except PreviewError β) :
    (Except.error e >>= f) = .error e := rfl

variable {setting : Setting} {tag : Scope → Element → Rendered} {parent : String}

theorem nodes_eq_siblings (setting : Setting) (room : Nat) (scope : Scope) (parent : String)
    (children : List Node) :
    nodes setting room scope parent children =
      siblings setting (tagWithin setting room) parent scope children := by
  cases room with
  | zero => rfl
  | succ room => rfl

/-! ## One node -/

theorem siblings_bind {element : Element} (binds : element.kind = .bind) (scope : Scope)
    (rest : List Node) :
    siblings setting tag parent scope (.tag element :: rest) =
      afterBind setting scope element >>= fun after => siblings setting tag parent after rest := by
  rw [siblings, binds]

theorem siblings_tag {element : Element} (other : element.kind ≠ .bind) (scope : Scope)
    (rest : List Node) :
    siblings setting tag parent scope (.tag element :: rest) = (do
      let head ← tag scope element
      let tail ← siblings setting tag parent scope rest
      pure (head ++ tail)) := by
  rw [siblings]
  split
  · next binds => exact absurd binds other
  · rfl

theorem nodes_tag {element : Element} (other : element.kind ≠ .bind) (room : Nat) (scope : Scope)
    (parent : String) (rest : List Node) :
    nodes setting (room + 1) scope parent (.tag element :: rest) = (do
      let head ← Render.element setting (nodes setting room) scope element
      let tail ← nodes setting (room + 1) scope parent rest
      pure (head ++ tail)) :=
  siblings_tag other scope rest

/-- A binding tag leaves the scope behind its binding, if it is complete. -/
theorem afterBind_eq {element : Element} (binds : element.kind = .bind) (scope : Scope) :
    afterBind setting scope element = afterBindings setting scope element.binding?.toList := by
  have named : element.name = "bind" := TagKind.ofName_eq_bind binds
  unfold afterBind Tag.binding?
  rw [binds, named]
  cases element.attribute? "name" with
  | none => rfl
  | some name =>
    cases element.attribute? "value" with
    | none => rfl
    | some expression => rfl

theorem binding?_of_kind_ne {element : Element} (other : element.kind ≠ .bind) :
    element.binding? = none := by
  unfold Tag.binding?
  split
  · next binds _ _ => exact absurd binds other
  · rfl

theorem siblings_cons (setting : Setting) (tag : Scope → Element → Rendered) (parent : String)
    (scope : Scope) (node : Node) (rest : List Node) :
    siblings setting tag parent scope (node :: rest) = (do
      let head ← own setting tag parent scope node
      let after ← afterBindings setting scope node.binding?.toList
      let tail ← siblings setting tag parent after rest
      pure (head ++ tail)) := by
  cases node with
  | text text => rfl
  | tag element =>
    by_cases binds : element.kind = .bind
    · rw [siblings_bind binds, afterBind_eq binds, own, if_pos binds]
      simp [Node.binding?]
    · rw [siblings_tag binds, Node.binding?, binding?_of_kind_ne binds, own, if_neg binds]
      rfl

/-! ## Bindings in order -/

theorem afterBindings_append (setting : Setting) (scope : Scope)
    (bindings more : List (String × String)) :
    afterBindings setting scope (bindings ++ more) =
      afterBindings setting scope bindings >>= fun after => afterBindings setting after more := by
  induction bindings generalizing scope with
  | nil => rfl
  | cons binding rest ih =>
    obtain ⟨name, expression⟩ := binding
    simp only [List.cons_append, afterBindings, ih, bind_assoc]

/-- Bindings leave the properties, the namespace, and the values of all other names. -/
theorem afterBindings_frame {scope after : Scope} {bindings : List (String × String)}
    (bound : afterBindings setting scope bindings = .ok after) :
    after.properties = scope.properties ∧ after.ns = scope.ns ∧
      ∀ name ∉ bindings.map Prod.fst, after.context.get? name = scope.context.get? name := by
  induction bindings generalizing scope with
  | nil =>
    cases bound
    exact ⟨rfl, rfl, fun _ _ => rfl⟩
  | cons binding rest ih =>
    obtain ⟨name, expression⟩ := binding
    rw [afterBindings] at bound
    cases found : value setting scope "bind" expression with
    | error e =>
      rw [found] at bound
      cases bound
    | ok v =>
      rw [found] at bound
      obtain ⟨properties, ns, others⟩ := ih bound
      refine ⟨properties, ns, fun other absent => ?_⟩
      rw [List.map_cons, List.mem_cons, not_or] at absent
      rw [others other absent.2, Context.get?_bind, if_neg absent.1]

/-! ## Nodes in two parts -/

theorem siblings_append (setting : Setting) (tag : Scope → Element → Rendered) (parent : String)
    (scope : Scope) (xs ys : List Node) :
    siblings setting tag parent scope (xs ++ ys) = (do
      let head ← siblings setting tag parent scope xs
      let after ← afterBindings setting scope (directBindings xs)
      let tail ← siblings setting tag parent after ys
      pure (head ++ tail)) := by
  induction xs generalizing scope with
  | nil => simp [siblings, directBindings, afterBindings]
  | cons node rest ih =>
    rw [List.cons_append, siblings_cons, siblings_cons, directBindings_cons, afterBindings_append]
    cases own setting tag parent scope node with
    | error e => rfl
    | ok head =>
      cases afterBindings setting scope node.binding?.toList with
      | error e => rfl
      | ok after =>
        simp only [ok_bind, ih, bind_assoc, pure_bind, List.append_assoc]

/-- Nodes that render had a value for each of their direct bindings. -/
theorem afterBindings_of_siblings {scope : Scope} {xs : List Node} {head : List Char}
    (run : siblings setting tag parent scope xs = .ok head) :
    ∃ after, afterBindings setting scope (directBindings xs) = .ok after := by
  have alone := siblings_append setting tag parent scope xs []
  rw [List.append_nil, run, ok_bind] at alone
  cases bound : afterBindings setting scope (directBindings xs) with
  | error e =>
    rw [bound] at alone
    cases alone
  | ok after => exact ⟨after, rfl⟩

theorem siblings_append_of_ok {scope : Scope} {xs : List Node} {head : List Char}
    (run : siblings setting tag parent scope xs = .ok head) (ys : List Node) :
    ∃ after, afterBindings setting scope (directBindings xs) = .ok after ∧
      siblings setting tag parent scope (xs ++ ys) =
        (siblings setting tag parent after ys).map (head ++ ·) := by
  obtain ⟨after, bound⟩ := afterBindings_of_siblings run
  refine ⟨after, bound, ?_⟩
  rw [siblings_append, run, bound, ok_bind, ok_bind]
  cases siblings setting tag parent after ys with
  | error e => rfl
  | ok tail => rfl

/-- Nodes in two parts fail as the first part does. Otherwise the second part follows in the scope
that the direct bindings of the first part extend, and that differs from the scope before it in
nothing but their names. Without such bindings both parts render in one scope. -/
theorem nodes_append_scoped (setting : Setting) (room : Nat) (scope : Scope) (parent : String)
    (xs ys : List Node) :
    (∀ e, nodes setting room scope parent xs = .error e →
      nodes setting room scope parent (xs ++ ys) = .error e) ∧
    (∀ head, nodes setting room scope parent xs = .ok head →
      ∃ after, afterBindings setting scope (directBindings xs) = .ok after ∧
        nodes setting room scope parent (xs ++ ys) =
          (nodes setting room after parent ys).map (head ++ ·) ∧
        after.properties = scope.properties ∧ after.ns = scope.ns ∧
        ∀ name ∉ (directBindings xs).map Prod.fst,
          after.context.get? name = scope.context.get? name) ∧
    (directBindings xs = [] → ∀ head, nodes setting room scope parent xs = .ok head →
      nodes setting room scope parent (xs ++ ys) =
        (nodes setting room scope parent ys).map (head ++ ·)) := by
  simp only [nodes_eq_siblings]
  refine ⟨fun e failed => ?_, fun head run => ?_, fun none head run => ?_⟩
  · rw [siblings_append, failed, error_bind]
  · obtain ⟨after, bound, whole⟩ := siblings_append_of_ok run ys
    exact ⟨after, bound, whole, afterBindings_frame bound⟩
  · obtain ⟨after, bound, whole⟩ := siblings_append_of_ok run ys
    rw [none, afterBindings] at bound
    cases bound
    exact whole

/-- A name bound directly, and one bound below a test. -/
def boundNames : List Node :=
  [.tag ⟨"bind", [("name", "x"), ("value", "'a'")], []⟩,
    .tag ⟨"if", [("test", "true")],
      [.tag ⟨"bind", [("name", "y"), ("value", "x + 'b'")], []⟩, .text "#\x7by\x7d"]⟩]

set_option maxRecDepth 100000 in
/-- Behind `boundNames` the one name has a value and the other has none. A failing first part ends
the rendering, and text alone changes no scope. -/
theorem boundNames_append_scoped :
    let setting : Setting := ⟨.empty, {}, ⟨"m", "s"⟩⟩
    let scope : Scope := ⟨.empty, [], "m"⟩
    let both : List Node := [.text "#\x7bx\x7d, #\x7by\x7d"]
    let failing : List Node := [.text "$\x7bx.y\x7d"]
    (∃ after, afterBindings setting scope [("x", "'a'")] = .ok after ∧
      nodes setting 1 scope "select" (boundNames ++ both) =
        (nodes setting 1 after "select" both).map ("'ab'".toList ++ ·) ∧
      after.context.get? "y" = none) ∧
    nodes setting 1 scope "select" (failing ++ both) =
      nodes setting 1 scope "select" failing ∧
    nodes setting 1 scope "select" ([.text "1 "] ++ both) =
      (nodes setting 1 scope "select" both).map ("1 ".toList ++ ·) := by
  intro setting scope both failing
  have first : nodes setting 1 scope "select" boundNames = .ok "'ab'".toList := by
    cbv
  have fails : nodes setting 1 scope "select" failing =
      .error (.evaluation ⟨"m", "s"⟩ "select" "x.y" (.nullTarget "y")) := by
    cbv
  have plain : nodes setting 1 scope "select" [.text "1 "] = .ok "1 ".toList := by
    cbv
  refine ⟨?_, ?_, ?_⟩
  · obtain ⟨after, bound, whole, -, -, others⟩ :=
      (nodes_append_scoped setting 1 scope "select" boundNames both).2.1 _ first
    exact ⟨after, bound, whole, others "y" (by decide)⟩
  · rw [fails]
    exact (nodes_append_scoped setting 1 scope "select" failing both).1 _ fails
  · exact (nodes_append_scoped setting 1 scope "select" _ both).2.2 rfl _ plain

end Render

end SqlPreview
