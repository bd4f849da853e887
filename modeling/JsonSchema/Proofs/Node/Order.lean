import JsonSchema.Proofs.Node.Handle
import JsonSchema.Proofs.Recursion.Reordered
import JsonSchema.Proofs.Reduction.FixedPoint

/-!
# The order of members

What a node makes of data does not depend on the order of their members: neither the verdict, nor
what it is reduced to, nor the kind of violation that a reduction fails with.
-/

namespace JsonSchema.Node

/-- Data that differ in the order of members only are both accepted or both rejected, and they reduce
the node to the same one, with the same member of `oneOf`, or fail to with the same code. -/
theorem member_order_is_irrelevant {node : Node} (formats : node.context.formats.OrderBlind) {v w : Json}
    (formed : v.WellFormed) (reordered : v.Reordered w) :
    node.accepts v = node.accepts w ∧
      (node.reduce v).map (Except.mapError Violation.code) = (node.reduce w).map (Except.mapError Violation.code) := by
  have data : v.Shuffled w := ⟨formed, reordered⟩
  have depth : node.context.depthFor v = node.context.depthFor w := by
    rw [Context.depthFor, Context.depthFor, data.depth_eq]
  have blind := Context.judge_orderBlind formats (node.context.depthFor w)
  constructor
  · rw [accepts, accepts, validate, validate, validateAt, validateAt, Context.validate, Context.validate, depth]
    exact blind.validate node.fragment data .root node.scope
  · have reductions := blind.reduce data .root [] node.fragment node.scope
    rw [reduce, reduce, reduceAt, reduceAt, settle_eq_map, settle_eq_map, Option.map_map, Option.map_map,
      mapError_comp_map, ← Option.map_map, ← Option.map_map]
    simp only [Context.reduce, Json.ofOption, Option.getD_some, depth, reductions]

/-- An object with one of two members, of which one is a certain object. -/
def listedPair : Json := .obj [
  ("properties", .obj [("a", .obj [("enum", .arr [.obj [("x", .ofNat 1), ("y", .ofNat 2)]])]), ("b", .bool true)]),
  ("oneOf", .arr [.obj [("required", .arr [.str "a"])], .obj [("required", .arr [.str "c"])]]),
  ("unevaluatedProperties", .bool false)]

/-- One object in two orders, as its member `a` is. -/
def oneOrder : Json := .obj [("a", .obj [("y", .ofNat 2), ("x", .ofNat 1)]), ("b", .arr [])]
def otherOrder : Json := .obj [("b", .arr []), ("a", .obj [("x", .ofNat 1), ("y", .ofNat 2)])]

theorem oneOrder_reordered : oneOrder.Reordered otherOrder := by
  have pair (x y : Json) : (Json.obj [("y", y), ("x", x)]).Reordered (.obj [("x", x), ("y", y)]) :=
    Json.reordered_of_perm (by simp) (.swap ..)
  refine .obj (.swap ..) fun name a b found found' => ?_
  have left := mem_of_lookup found
  have right := mem_of_lookup found'
  simp only [List.mem_cons, Prod.mk.injEq, List.not_mem_nil, or_false] at left right
  obtain ⟨rfl, rfl⟩ | ⟨rfl, rfl⟩ := left <;> obtain ⟨own, rfl⟩ | ⟨own, rfl⟩ := right
  · exact absurd own (by decide)
  · exact pair _ _
  · exact .refl _
  · exact absurd own (by decide)

theorem other_order_is_reduced_alike : ∃ root reduced,
    Compiler.standard.compile listedPair = .ok root ∧ root.accepts oneOrder = some true ∧
      root.reduce oneOrder = some (.ok reduced) ∧ reduced.choice = some 0 ∧
      root.accepts otherOrder = some true ∧ root.reduce otherOrder = some (.ok reduced) := by
  have formed : oneOrder.WellFormed := by simp [Json.WellFormed, oneOrder, Json.Storable, Json.ofNat]
  have computed : (rootAndReduced? listedPair oneOrder).map (fun made => (made.1.accepts oneOrder, made.2.choice)) =
      some (some true, some 0) := by decide +kernel
  obtain ⟨⟨root, reduced⟩, known, facts⟩ := Option.map_eq_some_iff.mp computed
  obtain ⟨accepted, chosen⟩ := Prod.mk.inj facts
  simp only [rootAndReduced?, Option.bind_eq_bind, Option.bind_eq_some_iff] at known
  obtain ⟨_, compiled, answer, reduces, _, answered, same⟩ := known
  cases same
  obtain rfl := ok_of_toOption answered
  have compiled := ok_of_toOption compiled
  have formats : root.context.formats.OrderBlind :=
    (Compiler.root_of_compile compiled).2.1 ▸ Formats.standard_orderBlind
  obtain ⟨verdicts, reductions⟩ := member_order_is_irrelevant formats formed oneOrder_reordered
  exact ⟨root, reduced, compiled, accepted, reduces, chosen, verdicts ▸ accepted, ok_of_mapError reductions reduces⟩

end JsonSchema.Node
