import JsonSchema.Proofs.Node.Handle
import JsonSchema.Proofs.Recursion.Displacement

/-!
# Checks and reductions of data at a place

While nothing is being checked, the place of the data tells only where their violations are reported:
the guard against repeated checks compares places below it, the scopes stay the same, and nothing
else asks for it.
-/

namespace JsonSchema

namespace Context

variable {context : Context} {fragment : Fragment} {scope : Scope}

/-- A judge of any depth finds the same in data at a place as in the data alone. -/
theorem validate_moved (idle : scope.Idle) (p : Pointer) (depth : Nat) (data : Json) :
    (context.judge depth).validate fragment data p scope =
      ((context.judge depth).validate fragment data .root scope).map (List.map (Violation.moved p)) := by
  have moved := (context.judge_moves p depth).validate (idle.moves p) fragment data .root
  rwa [Pointer.append_root] at moved

theorem reduceSettled_moved_of_idle (idle : scope.Idle) (p : Pointer) (depth : Nat) (task : Reduction) :
    (context.reduceSettled (context.judge depth) (task.moved p) fragment scope).run =
      (context.reduceSettled (context.judge depth) task fragment scope).run.map (Except.mapError (Violation.moved p)) := by
  rw [context.reduceSettled_moved (context.judge_moves p depth) (idle.moves p), ExceptT.run_adapt, ExceptT.run_map]
  cases answer : (context.reduceSettled (context.judge depth) task fragment scope).run with
  | none => rfl
  | some result =>
    cases result with
    | error violation => rfl
    | ok reduced =>
      obtain ⟨own, -⟩ := reduceSettled_eq_ok answer
      obtain ⟨folded, _, choice⟩ := reduced
      obtain rfl := own
      rfl

/-- A judge of any depth reduces a fragment for data at a place as for the data alone. -/
theorem reduce_moved (idle : scope.Idle) (p : Pointer) (depth : Nat) (data : Option Json) :
    (context.judge depth).reduce ⟨data, p, []⟩ fragment scope =
      ((context.judge depth).reduce ⟨data, .root, []⟩ fragment scope).map (Except.mapError (Violation.moved p)) := by
  have task : (⟨data, p, []⟩ : Reduction) = Reduction.moved p ⟨data, .root, []⟩ := by
    rw [Reduction.moved, Pointer.append_root]
  cases depth with
  | zero => rfl
  | succ depth =>
    change context.reduceStep (context.judge depth) _ _ _ = (context.reduceStep (context.judge depth) _ _ _).map _
    cases inside : context.inside? fragment (scope.enter fragment) with
    | none =>
      obtain ⟨reference, unresolved⟩ := exists_unresolved inside
      rw [task, reduceStep_of_unresolved unresolved, reduceStep_of_unresolved unresolved]
      rfl
    | some found =>
      obtain ⟨target, inner⟩ := found
      rw [task, reduceStep_of_inside? inside, reduceStep_of_inside? inside]
      exact reduceSettled_moved_of_idle ((chain_of_inside? inside).idle (idle.enter fragment)) p depth _

end Context

namespace Node

/-- Handles check and reduce data at a place as the data alone: every violation, with all that are nested in
it, is moved to the place, and all else stays. So the verdict does not depend on where the data stand. -/
theorem place_moves_violations {compiler : Compiler} {schema : Json} {node : Node}
    (handle : node.IsHandle compiler schema) (data : Json) (p : Pointer) :
    node.validateAt data p = (node.validate data).map (List.map (Violation.moved p)) ∧
      node.reduceAt data p = (node.reduce data).map (Except.mapError (Violation.moved p)) ∧
      (node.validateAt data p).map List.isEmpty = node.accepts data := by
  have idle := handle.sound.idle
  have validates : node.validateAt data p = (node.validate data).map (List.map (Violation.moved p)) :=
    Context.validate_moved idle p _ data
  refine ⟨validates, ?_, ?_⟩
  · rw [reduce, reduceAt, reduceAt, settle_eq_map, settle_eq_map, Context.reduce, Context.reduce,
      Context.reduce_moved idle, Option.map_map, Option.map_map, mapError_comp_map]
  · rw [validates, accepts, Option.map_map]
    congr 1
    funext found
    exact List.isEmpty_map

/-- Items are texts or small numbers. -/
def textOrSmall : Json := .obj [("items", .obj [("oneOf", .arr [.obj [("type", .str "string")],
  .obj [("maximum", .ofNat 3)]])])]

/-- The node of the first item, what it finds in data, and why it cannot be reduced for them. -/
def firstItem? (schema data : Json) : Option (Node × Node × List Violation × Violation) := do
  let root ← (Compiler.standard.compile schema).toOption
  let node ← (← (← root.get "0" none).toOption)
  let found ← node.validate data
  match ← node.reduce data with
  | .ok _ => none
  | .error violation => return (root, node, found, violation)

theorem place_moves_nested_violations : ∃ root node found violation,
    Compiler.standard.compile textOrSmall = .ok root ∧ root.get "0" none = some (.ok (some node)) ∧
      node.validate (.ofNat 5) = some found ∧ node.reduce (.ofNat 5) = some (.error violation) ∧
      ((Violation.flattenAll found).map fun e => (e.code, e.pointer.text)) =
        [(.oneOf, "#"), (.type, "#"), (.maximum, "#")] ∧
      node.validateAt (.ofNat 5) ⟨["a/b", "1"]⟩ = some (found.map (Violation.moved ⟨["a/b", "1"]⟩)) ∧
      node.reduceAt (.ofNat 5) ⟨["a/b", "1"]⟩ = some (.error (violation.moved ⟨["a/b", "1"]⟩)) := by
  have computed : (firstItem? textOrSmall (.ofNat 5)).map (fun (_, _, found, _) =>
      (Violation.flattenAll found).map fun e => (e.code, e.pointer.text)) =
      some [(.oneOf, "#"), (.type, "#"), (.maximum, "#")] := by decide +kernel
  obtain ⟨⟨root, node, found, violation⟩, known, listed⟩ := Option.map_eq_some_iff.mp computed
  simp only [firstItem?, Option.bind_eq_bind, Option.bind_eq_some_iff] at known
  obtain ⟨_, compiled, answer, first, _, ok, _, rfl, _, validates, outcome, reduces, same⟩ := known
  obtain rfl := ok_of_toOption ok
  have compiled := ok_of_toOption compiled
  cases outcome with
  | ok reduced => cases same
  | error _ =>
    cases same
    obtain ⟨places, places', -⟩ :=
      place_moves_violations ⟨root, compiled, .single (.entered first)⟩ (.ofNat 5) ⟨["a/b", "1"]⟩
    rw [validates] at places
    rw [reduces] at places'
    exact ⟨root, node, found, violation, compiled, first, validates, reduces, listed, places, places'⟩

end Node
end JsonSchema
