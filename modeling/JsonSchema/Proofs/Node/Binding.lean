import JsonSchema.Proofs.Node.Handle
import JsonSchema.Proofs.Reference.Anchors

/-!
# Scopes that grow inwards

Whatever way leads from one node to another, the scope of the first is the outer part of that of the
second: every operation enters fragments and leaves none. So an anchor that is declared in the scope
of a node is found from all nodes it leads to.
-/

namespace JsonSchema

/-- The scope of what a fragment is reduced to lies inside the fragment. -/
theorem Context.scope_of_reduce {context : Context} {depth : Nat} {task : Reduction} {fragment : Fragment} {scope : Scope}
    {reduced : Reduced} (answer : (context.judge depth).reduce task fragment scope = some (.ok reduced)) :
    scope.enter fragment <:+ reduced.scope := by
  cases depth with
  | zero => cases answer
  | succ depth =>
    obtain ⟨target, inner, inside, settled⟩ := reduceStep_eq_ok answer
    rw [(reduceSettled_eq_ok settled).1]
    exact (chain_of_inside? inside).scope

namespace Node

variable {node next : Node}

theorem scope_of_settle {data : Option Json} {pointer : Pointer} (reduced : node.settle data pointer = some (.ok next)) :
    node.scope <:+ next.scope := by
  obtain ⟨result, reduces, rfl⟩ := settle_eq_ok reduced
  exact (List.suffix_cons _ _).trans (Context.scope_of_reduce reduces)

theorem scope_of_getAt {key : String} {data : Option Json} {pointer : Pointer}
    (found : node.getAt key data pointer = some (.ok (some next))) : node.scope <:+ next.scope := by
  obtain ⟨result, schema, reduces, -, rfl⟩ := getAt_eq_ok found
  exact (List.suffix_cons _ _).trans (Context.scope_of_reduce reduces)

theorem scope_of_walkFrom {segments : List String} {node next : Node} {data : Option Json} {pointer : Pointer}
    (found : node.walkFrom data pointer segments = some (.ok (some next))) : node.scope <:+ next.scope := by
  induction segments generalizing node data pointer with
  | nil =>
    obtain ⟨answer, reduces, same⟩ := Option.bind_eq_some_iff.mp found
    cases answer with
    | error violation => cases same
    | ok reduced =>
      cases same
      exact scope_of_settle reduces
  | cons segment rest ih =>
    obtain ⟨answer, entered, later⟩ := Option.bind_eq_some_iff.mp found
    match answer, entered, later with
    | .ok (some middle), entered, later => exact (scope_of_getAt entered).trans (ih later)

/-- What a fragment stands for lies inside it. -/
theorem scope_of_inside? {target : Fragment} {inner : Scope}
    (inside : node.context.inside? node.fragment (node.scope.enter node.fragment) = some (target, inner)) :
    node.scope <:+ inner := (List.suffix_cons _ _).trans (Context.chain_of_inside? inside).scope

/-- No step leaves a fragment of the scope. -/
theorem Yields.scope (yields : node.Yields next) : node.scope <:+ next.scope := by
  cases yields with
  | settled reduced => exact scope_of_settle reduced
  | entered found => exact scope_of_getAt found
  | walked found => exact scope_of_walkFrom found
  | followed resolved =>
    obtain ⟨target, inner, inside, rfl⟩ := resolve_eq_resolved resolved
    exact scope_of_inside? inside
  | parent found =>
    obtain ⟨tree, fragment, -, -, rfl⟩ := parent?_eq_some found
    exact List.suffix_rfl
  | closest found =>
    obtain ⟨target, inner, member, inside, -, rfl⟩ := closest_eq_some found
    exact (scope_of_inside? inside).trans (List.suffix_cons _ _)

theorem scope_of_leads (way : Relation.ReflTransGen Yields node next) : node.scope <:+ next.scope := by
  induction way with
  | refl => exact List.suffix_rfl
  | tail _ yields ih => exact ih.trans yields.scope

theorem IsHandle.anchored {compiler : Compiler} {schema : Json} (handle : node.IsHandle compiler schema) :
    node.context.index.Anchored node.context.draft := by
  obtain ⟨root, compiled, way⟩ := handle
  rw [((sound_of_compile compiled).leads way).2]
  exact Compiler.anchored_of_compile compiled

/-- From a handle and from every node that it leads to, whose scope continues that of the handle, a
reference whose static target opts in leads to one anchor if a resource in the scope of the handle
declares it; and a fragment all of whose references are bound in that scope stands for one fragment. -/
theorem dynamic_binding_is_stable {compiler : Compiler} {schema : Json} (handle : node.IsHandle compiler schema)
    (way : Relation.ReflTransGen Yields node next) :
    node.scope.outermostFirst <+: next.scope.outermostFirst ∧
    (∀ source keyword reference identifier, source.reference? node.context.draft = some (keyword, reference) →
      node.context.OptsIn source keyword reference identifier → node.context.Binds node.scope keyword identifier →
      ∃ anchor, node.context.outermostAnchor? keyword identifier node.scope = some anchor ∧
        node.context.target? source keyword reference (node.scope.enter source) = some anchor ∧
        next.context.target? source keyword reference (next.scope.enter source) = some anchor) ∧
    ∀ source, node.context.Bound node.scope source →
      (node.context.resolve source (node.scope.enter source)).Alike (node.scope.Beside next.scope)
        (next.context.resolve source (next.scope.enter source)) := by
  have grows := scope_of_leads way
  rw [(handle.sound.leads way).2]
  refine ⟨Context.outermostFirst_prefix grows, fun source keyword reference identifier refers opts binds => ?_,
    fun source bound => ?_⟩
  · have defined := Fragment.hasReference_of_reference? refers
    obtain ⟨anchor, found⟩ := Option.isSome_iff_exists.mp
      (Context.isSome_outermostAnchor? handle.anchored defined binds)
    have leads {scope : Scope} (inside : node.scope <:+ scope) :
        node.context.target? source keyword reference scope = some anchor :=
      found ▸ Context.target?_of_binds handle.anchored refers opts binds inside
    exact ⟨anchor, found, leads (List.suffix_cons _ _), leads (grows.trans (List.suffix_cons _ _))⟩
  · exact bound.resolve handle.anchored grows ⟨[⟨source, none⟩], rfl, rfl⟩

/-- A resource in another one, both with an anchor `a` that is referred to in the inner one. -/
def nestedAnchors : Json := .obj [("$id", .str "urn:outer"), ("$dynamicAnchor", .str "a"),
  ("properties", .obj [("p", .obj [("$id", .str "urn:inner"), ("$dynamicAnchor", .str "a"),
    ("properties", .obj [("q", .obj [("$dynamicRef", .str "#a")])])])])]

/-- The nodes that two keys lead to from the root of a schema, one after the other. -/
def twoKeys? (schema : Json) (first second : String) : Option (Node × Node × Node) := do
  let root ← (Compiler.standard.compile schema).toOption
  let upper ← (← (← root.get first none).toOption)
  let lower ← (← (← upper.get second none).toOption)
  return (root, upper, lower)

/-- The reference in the inner resource leads to the outer one, from the property `p` and from below it. -/
theorem nested_anchor_binding_is_stable : ∃ root upper lower,
    Compiler.standard.compile nestedAnchors = .ok root ∧ root.get "p" none = some (.ok (some upper)) ∧
      upper.get "q" none = some (.ok (some lower)) ∧ upper.scope.outermostFirst <+: lower.scope.outermostFirst ∧
      ∃ anchor, anchor.location = "urn:outer#" ∧
        upper.context.target? lower.fragment .dynamic "#a" (upper.scope.enter lower.fragment) = some anchor ∧
        lower.context.target? lower.fragment .dynamic "#a" (lower.scope.enter lower.fragment) = some anchor := by
  have computed : (twoKeys? nestedAnchors "p" "q").map (fun (_, upper, lower) =>
      (lower.fragment.reference? upper.context.draft, decide (upper.context.OptsIn lower.fragment .dynamic "#a" "a"),
        decide (upper.context.Binds upper.scope .dynamic "a"),
        (upper.context.outermostAnchor? .dynamic "a" upper.scope).map Fragment.location)) =
      some (some (.dynamic, "#a"), true, true, some "urn:outer#") := by decide +kernel
  obtain ⟨⟨root, upper, lower⟩, known, facts⟩ := Option.map_eq_some_iff.mp computed
  simp only [Prod.mk.injEq, decide_eq_true_eq] at facts
  obtain ⟨refers, opts, binds, located⟩ := facts
  simp only [twoKeys?, Option.bind_eq_bind, Option.bind_eq_some_iff] at known
  obtain ⟨_, compiled, answer, first, _, ok, _, rfl, answer', second, _, ok', _, rfl, same⟩ := known
  cases same
  obtain rfl := ok_of_toOption ok
  obtain rfl := ok_of_toOption ok'
  have compiled := ok_of_toOption compiled
  obtain ⟨grows, leads, -⟩ := dynamic_binding_is_stable ⟨root, compiled, .single (.entered first)⟩ (.single (.entered second))
  obtain ⟨anchor, found, upward, downward⟩ := leads _ _ _ _ refers opts binds
  rw [found] at located
  exact ⟨root, upper, lower, compiled, first, second, grows, anchor, Option.some.inj located, upward, downward⟩

end Node
end JsonSchema
