import JsonSchema.Proofs.Reduction.Steps
import JsonSchema.Proofs.Reference.Indexed

/-!
# Handles

From the root of a compiled schema one comes to other nodes: by reduction, by a key or along a
pointer, by a reference, to the parent, or to the closest member of `oneOf`. Whatever way is taken,
the fragment of the node and those in its scope are compiled from their schemas.
-/

namespace JsonSchema

/-- A fragment comes from compiling its schema for some site. -/
def Fragment.IsCompiled (draft : Draft) (f : Fragment) : Prop := ∃ source outer, Compiled draft source outer f.schema f

/-- All fragments in a scope are compiled. -/
def Scope.IsCompiled (draft : Draft) (scope : Scope) : Prop := ∀ frame ∈ scope, frame.fragment.IsCompiled draft

namespace Fragment

variable {draft : Draft} {f g : Fragment}

theorem IsCompiled.reaches (compiled : f.IsCompiled draft) (reaches : f.Reaches g) : g.IsCompiled draft := by
  obtain ⟨source, outer, compiled⟩ := compiled
  obtain ⟨outer', below⟩ := compiled.reaches reaches
  exact ⟨source, outer', below⟩

theorem IsCompiled.child (compiled : f.IsCompiled draft) (has : f.HasChild g) : g.IsCompiled draft :=
  compiled.reaches (.single has)

/-- The schema of a child is less deep. -/
theorem IsCompiled.depth_lt (compiled : f.IsCompiled draft) (has : f.HasChild g) : g.schema.depth < f.schema.depth := by
  obtain ⟨source, outer, compiled⟩ := compiled
  obtain ⟨slot, inside⟩ := has
  rcases compiled.bool_or_obj with ⟨b, same⟩ | ⟨members, same⟩
  · rw [same] at compiled
    rw [compiled_bool.mp compiled] at inside
    cases inside
  · rw [same] at compiled ⊢
    obtain ⟨step, known, sub, rfl, below⟩ := exists_left (compiled_obj.mp compiled).children inside
    rw [below.schema_eq]
    exact depth_lt_of_steps known

theorem schema_of_derive {site : Site} {schema : Json} (derived : derive draft site schema = .ok f) : f.schema = schema :=
  (compile_eq_ok.mp derived).schema_eq

theorem isCompiled_of_compile {source : Origin} {site : Site} {schema : Json}
    (compiled : compile draft source site schema = .ok f) : f.IsCompiled draft := by
  have compiled := compile_eq_ok.mp compiled
  exact ⟨source, site, compiled.schema_eq ▸ compiled⟩

theorem isCompiled_of_derive {site : Site} {schema : Json} (derived : derive draft site schema = .ok f) :
    f.IsCompiled draft := isCompiled_of_compile derived

theorem reaches_of_parentOf? {tree parent : Fragment} {site : Site} (found : tree.parentOf? site = some parent) :
    tree.Reaches parent := by
  obtain ⟨entry, first, rfl⟩ := Option.map_eq_some_iff.mp found
  exact reaches_of_mem_outermostFirst tree _ entry (List.mem_of_find?_eq_some first)

end Fragment

/-! ## References and reductions -/

/-- All fragments in a scope belong to a family. -/
def Scope.Within (family : Fragment → Prop) (scope : Scope) : Prop := ∀ frame ∈ scope, family frame.fragment

/-- References lead from the fragments of a family to fragments of the family. -/
structure Context.LeadsWithin (context : Context) (family : Fragment → Prop) : Prop where
  target : ∀ {source target : Fragment} {scope : Scope} {keyword : ReferenceKeyword} {reference : String},
    family source → context.target? source keyword reference scope = some target → family target
  follow : ∀ {source target next : Fragment}, family source → family target →
    context.follow? source target = some next → family next

/-- No way from one fragment to another leaves a family. -/
structure Context.Retains (context : Context) (family : Fragment → Prop) : Prop extends context.LeadsWithin family where
  indexed : ∀ fragment ∈ context.index.fragments, family fragment
  child : ∀ {fragment child : Fragment}, family fragment → fragment.HasChild child → family child
  reduced : ∀ {depth : Nat} {task : Reduction} {fragment : Fragment} {scope : Scope} {reduced : Reduced},
    family fragment → (context.judge depth).reduce task fragment scope = some (.ok reduced) → family reduced.fragment

namespace Context

variable {context : Context} {family : Fragment → Prop} {fragment target next : Fragment} {scope inner : Scope}

/-- What a fragment of a family stands for belongs to it, and so do the fragments on the way. -/
theorem LeadsWithin.chain (leads : context.LeadsWithin family) {seen : List String}
    (chain : Chain context seen fragment scope target inner) (own : family fragment) :
    family target ∧ (scope.Within family → inner.Within family) := by
  induction chain with
  | ended => exact ⟨own, id⟩
  | hop _ found _ followed _ ih =>
    have next := leads.target own found
    obtain ⟨final, enters⟩ := ih (leads.follow own next followed)
    exact ⟨final, fun entered => enters (List.forall_mem_cons.mpr ⟨next, entered⟩)⟩

theorem LeadsWithin.inside (leads : context.LeadsWithin family) (own : family fragment)
    (inside : context.inside? fragment (scope.enter fragment) = some (target, inner)) :
    family target ∧ (scope.Within family → inner.Within family) := by
  obtain ⟨found, enters⟩ := leads.chain (chain_of_inside? inside) own
  exact ⟨found, fun entered => enters (List.forall_mem_cons.mpr ⟨own, entered⟩)⟩

/-- The fragments in the scope of what a fragment of a family is reduced to belong to it. -/
theorem LeadsWithin.scope_of_reduce (leads : context.LeadsWithin family) {depth : Nat} {task : Reduction}
    {reduced : Reduced} (own : family fragment) (entered : scope.Within family)
    (answer : (context.judge depth).reduce task fragment scope = some (.ok reduced)) : reduced.scope.Within family := by
  cases depth with
  | zero => cases answer
  | succ depth =>
    obtain ⟨target, inner, inside, settled⟩ := reduceStep_eq_ok answer
    obtain ⟨same, -⟩ := reduceSettled_eq_ok settled
    exact same ▸ (leads.inside own inside).2 entered

theorem isCompiled_of_follow? (known : target.IsCompiled context.draft)
    (followed : context.follow? fragment target = some next) : next.IsCompiled context.draft := by
  by_cases merges : (context.draft.mergesSiblings && hasSiblings fragment.schema) = true
  · exact Fragment.isCompiled_of_derive (derive_of_follow? merges followed)
  · rw [follow?, if_neg merges] at followed
    cases followed
    exact known

theorem leadsWithin_isCompiled (known : context.index.WellCompiled context.draft) :
    context.LeadsWithin (·.IsCompiled context.draft) where
  target _ found := compiled_of_target? known found
  follow _ indexed followed := isCompiled_of_follow? indexed followed

theorem Chain.isCompiled (known : context.index.WellCompiled context.draft) {seen : List String}
    (chain : Chain context seen fragment scope target inner) (compiled : fragment.IsCompiled context.draft)
    (entered : scope.IsCompiled context.draft) :
    target.IsCompiled context.draft ∧ inner.IsCompiled context.draft := by
  obtain ⟨found, enters⟩ := (leadsWithin_isCompiled known).chain chain compiled
  exact ⟨found, enters entered⟩

/-- From compiled fragments one comes to compiled fragments. -/
theorem retains_isCompiled (known : context.index.WellCompiled context.draft) :
    context.Retains (·.IsCompiled context.draft) where
  toLeadsWithin := leadsWithin_isCompiled known
  indexed := known
  child compiled has := compiled.child has
  reduced {depth _ _ _ _} compiled answer := by
    cases depth with
    | zero => cases answer
    | succ depth =>
      obtain ⟨target, inner, inside, settled⟩ := reduceStep_eq_ok answer
      obtain ⟨-, ⟨-, idle⟩ | ⟨-, -, derived⟩ | ⟨-, -, schema, -, derived⟩⟩ := reduceSettled_eq_ok settled
      · rw [idle]
        exact ((leadsWithin_isCompiled known).inside compiled inside).1
      all_goals exact Fragment.isCompiled_of_derive derived

/-- What a fragment is reduced to is compiled. -/
theorem isCompiled_of_reduce (known : context.index.WellCompiled context.draft) {depth : Nat} {task : Reduction}
    {reduced : Reduced} (compiled : fragment.IsCompiled context.draft) (entered : scope.IsCompiled context.draft)
    (answer : (context.judge depth).reduce task fragment scope = some (.ok reduced)) :
    reduced.fragment.IsCompiled context.draft ∧ reduced.scope.IsCompiled context.draft :=
  have closed := retains_isCompiled known
  ⟨closed.reduced compiled answer, closed.scope_of_reduce compiled entered answer⟩

/-- Nothing is being checked in the scope of what a fragment is reduced to. -/
theorem idle_of_reduce {depth : Nat} {task : Reduction} {reduced : Reduced} (idle : scope.Idle)
    (answer : (context.judge depth).reduce task fragment scope = some (.ok reduced)) : reduced.scope.Idle := by
  cases depth with
  | zero => cases answer
  | succ depth =>
    obtain ⟨target, inner, inside, settled⟩ := reduceStep_eq_ok answer
    obtain ⟨same, -⟩ := reduceSettled_eq_ok settled
    exact same ▸ (chain_of_inside? inside).idle (idle.enter fragment)

end Context

/-! ## Nodes -/

namespace Node

/-- A node that one comes to from another one. -/
inductive Yields (node : Node) : Node → Prop where
  | settled {data : Option Json} {pointer : Pointer} {next : Node}
      (reduced : node.settle data pointer = some (.ok next)) : Yields node next
  | entered {key : String} {data : Option Json} {pointer : Pointer} {next : Node}
      (found : node.getAt key data pointer = some (.ok (some next))) : Yields node next
  | walked {pointer : Pointer} {data : Option Json} {next : Node}
      (found : node.walk pointer data = some (.ok (some next))) : Yields node next
  | followed {next : Node} (resolved : node.resolve = .resolved next) : Yields node next
  | parent {next : Node} (found : node.parent? = some next) : Yields node next
  | closest {data : Json} {index : Nat} {next : Node}
      (found : node.closest data = some (some (index, next))) : Yields node next

/-- A node that one comes to from the root of a compiled schema. -/
def IsHandle (compiler : Compiler) (schema : Json) (node : Node) : Prop :=
  ∃ root, compiler.compile schema = .ok root ∧ Relation.ReflTransGen Yields root node

/-- The fragment of a node and those in its scope belong to a family, and nothing is being checked. -/
structure Within (family : Fragment → Prop) (node : Node) : Prop where
  fragment : family node.fragment
  scope : node.scope.Within family
  idle : node.scope.Idle

/-- All fragments that a node leads to are compiled, and nothing is being checked. -/
structure Sound (node : Node) : Prop where
  index : node.context.index.WellCompiled node.context.draft
  fragment : node.fragment.IsCompiled node.context.draft
  scope : node.scope.IsCompiled node.context.draft
  idle : node.scope.Idle

variable {family : Fragment → Prop} {node next : Node}

theorem settle_eq_map (data : Option Json) (pointer : Pointer) : node.settle data pointer =
    (node.context.reduce node.fragment data pointer node.scope).map (Except.map (ofReduced node.context)) := by
  unfold settle
  cases node.context.reduce node.fragment data pointer node.scope with
  | none => rfl
  | some answer => cases answer <;> rfl

theorem settle_eq_ok {data : Option Json} {pointer : Pointer} (reduced : node.settle data pointer = some (.ok next)) :
    ∃ result, node.context.reduce node.fragment data pointer node.scope = some (.ok result) ∧
      next = ofReduced node.context result := by
  rw [settle_eq_map] at reduced
  obtain ⟨answer, reduces, same⟩ := Option.map_eq_some_iff.mp reduced
  cases answer with
  | error violation => cases same
  | ok result =>
    cases same
    exact ⟨result, reduces, rfl⟩

/-- A key leads into the schema that the reduced fragment has for it. -/
theorem getAt_eq_ok {key : String} {data : Option Json} {pointer : Pointer}
    (found : node.getAt key data pointer = some (.ok (some next))) :
    ∃ result schema, node.context.reduce node.fragment data pointer node.scope = some (.ok result) ∧
      schemaFor result.fragment key data pointer = .ok (some schema) ∧ next = reach node.context schema result.scope := by
  obtain ⟨answer, reduces, same⟩ := Option.bind_eq_some_iff.mp found
  cases answer with
  | error violation => cases same
  | ok result =>
    cases schema : schemaFor result.fragment key data pointer with
    | error violation =>
      simp only [schema] at same
      cases same
    | ok own =>
      cases own with
      | none =>
        simp only [schema] at same
        cases same
      | some own =>
        simp only [schema] at same
        cases same
        exact ⟨result, own, reduces, schema, rfl⟩

/-- A reference that is resolved is that of what the fragment stands for. -/
theorem resolve_eq_resolved (resolved : node.resolve = .resolved next) :
    ∃ target inner, node.context.inside? node.fragment (node.scope.enter node.fragment) = some (target, inner) ∧
      next = reach node.context target inner := by
  unfold Node.resolve at resolved
  split at resolved
  · cases resolved
  · rename_i target inner same
    cases resolved
    exact ⟨target, inner, by rw [Context.inside?, same], rfl⟩
  · cases resolved

/-- The parent is the one in some tree that can be reached. -/
theorem parent?_eq_some (found : node.parent? = some next) :
    ∃ tree fragment, tree ∈ node.trees ∧ tree.parentOf? node.fragment.site = some fragment ∧
      next = reach node.context fragment node.scope := by
  obtain ⟨fragment, first, rfl⟩ := Option.map_eq_some_iff.mp found
  obtain ⟨tree, candidate, parent⟩ := List.exists_of_findSome?_eq_some first
  exact ⟨tree, fragment, List.mem_of_mem_filter candidate, parent, rfl⟩

/-- The closest member is one of what the fragment stands for. -/
theorem closest_eq_some {data : Json} {index : Nat} (found : node.closest data = some (some (index, next))) :
    ∃ target inner member, node.context.inside? node.fragment (node.scope.enter node.fragment) = some (target, inner) ∧
      member ∈ target.members .oneOf ∧ next = reach node.context member (inner.enter target) := by
  unfold Node.closest at found
  dsimp only at found
  split at found
  · cases found
  · rename_i target inner same
    have inside : node.context.inside? node.fragment (node.scope.enter node.fragment) = some (target, inner) := by
      unfold Context.inside?
      cases resolved : node.context.resolve node.fragment (node.scope.enter node.fragment) with
      | plain | resolved =>
        rw [resolved] at same
        exact same
      | unresolved reference =>
        rw [resolved] at same
        cases same
    obtain ⟨scores, -, chosen⟩ := Option.bind_eq_some_iff.mp found
    obtain ⟨index', -, chosen⟩ := Option.bind_eq_some_iff.mp (Option.some.inj chosen)
    obtain ⟨member, listed, chosen⟩ := Option.bind_eq_some_iff.mp chosen
    cases chosen
    exact ⟨target, inner, member, inside, List.mem_of_getElem? listed, rfl⟩

theorem hasChild_of_propertySchema? {f schema : Fragment} {key : String} (found : propertySchema? f key = some schema) :
    f.HasChild schema := by
  unfold propertySchema? at found
  cases own : f.property? key with
  | some property =>
    rw [own] at found
    cases found
    exact Fragment.hasChild_of_property? own
  | none =>
    cases pattern : f.patternProperties.find? fun entry => entry.1.matchesIn key with
    | some entry =>
      rw [own, pattern] at found
      cases found
      exact ⟨_, Fragment.mem_patternProperties.mp (List.mem_of_find?_eq_some pattern)⟩
    | none =>
      rw [own, pattern] at found
      exact Fragment.hasChild_of_child? (Option.filter_eq_some_iff.mp found).1

theorem hasChild_of_itemSchema? {f schema : Fragment} {index : Nat} (found : itemSchema? f index = .ok (some schema)) :
    f.HasChild schema := by
  unfold itemSchema? at found
  split at found
  · rename_i tuple
    cases found
    exact Fragment.hasChild_of_select_map (List.mem_of_getElem? tuple)
  · rename_i rest
    split at found
    · cases found
    · cases found
      exact Fragment.hasChild_of_child? rest
  · cases found

/-- The schema for a key is a child. -/
theorem hasChild_of_schemaFor {f schema : Fragment} {key : String} {data : Option Json} {pointer : Pointer}
    (found : schemaFor f key data pointer = .ok (some schema)) : f.HasChild schema := by
  unfold schemaFor at found
  cases property : propertySchema? f key with
  | some own =>
    rw [property] at found
    cases found
    exact hasChild_of_propertySchema? property
  | none =>
    rw [property] at found
    cases position : Pointer.readIndex? key with
    | none =>
      rw [position] at found
      dsimp only at found
      split at found <;> cases found
    | some index =>
      rw [position] at found
      dsimp only at found
      cases item : itemSchema? f index with
      | error rest =>
        rw [item] at found
        cases found
      | ok own =>
        rw [item] at found
        cases own with
        | some own =>
          cases found
          exact hasChild_of_itemSchema? item
        | none =>
          simp only [Except.mapError] at found
          split at found <;> cases found

/-! ## Ways from node to node -/

section
variable (closed : node.context.Retains family) (within : node.Within family)
include closed within

theorem Within.settle {data : Option Json} {pointer : Pointer} (reduced : node.settle data pointer = some (.ok next)) :
    next.Within family ∧ next.context = node.context := by
  obtain ⟨result, reduces, rfl⟩ := settle_eq_ok reduced
  exact ⟨⟨closed.reduced within.fragment reduces, closed.scope_of_reduce within.fragment within.scope reduces,
    Context.idle_of_reduce within.idle reduces⟩, rfl⟩

theorem Within.getAt {key : String} {data : Option Json} {pointer : Pointer}
    (found : node.getAt key data pointer = some (.ok (some next))) : next.Within family ∧ next.context = node.context := by
  obtain ⟨result, schema, reduces, own, rfl⟩ := getAt_eq_ok found
  exact ⟨⟨closed.child (closed.reduced within.fragment reduces) (hasChild_of_schemaFor own),
    closed.scope_of_reduce within.fragment within.scope reduces, Context.idle_of_reduce within.idle reduces⟩, rfl⟩

theorem Within.resolve (resolved : node.resolve = .resolved next) : next.Within family ∧ next.context = node.context := by
  obtain ⟨target, inner, inside, rfl⟩ := resolve_eq_resolved resolved
  obtain ⟨found, enters⟩ := closed.inside within.fragment inside
  exact ⟨⟨found, enters within.scope, (Context.chain_of_inside? inside).idle (within.idle.enter _)⟩, rfl⟩

theorem Within.tree {tree : Fragment} (inside : tree ∈ node.trees) : family tree := by
  simp only [trees, List.mem_append] at inside
  have indexed := closed.indexed tree
  simp only [Index.fragments, List.mem_append] at indexed
  rcases inside with ((framed | located) | dynamic) | recursive
  · obtain ⟨frame, entered, rfl⟩ := List.mem_map.mp framed
    exact within.scope frame entered
  · exact indexed (.inl (.inl located))
  · exact indexed (.inl (.inr dynamic))
  · exact indexed (.inr recursive)

theorem Within.parent? (found : node.parent? = some next) : next.Within family ∧ next.context = node.context := by
  obtain ⟨tree, fragment, inside, parent, rfl⟩ := parent?_eq_some found
  have below {f g : Fragment} (reaches : f.Reaches g) (own : family f) : family g := by
    induction reaches with
    | refl => exact own
    | tail _ has ih => exact closed.child ih has
  exact ⟨⟨below (Fragment.reaches_of_parentOf? parent) (within.tree closed inside), within.scope, within.idle⟩, rfl⟩

theorem Within.closest {data : Json} {index : Nat} (found : node.closest data = some (some (index, next))) :
    next.Within family ∧ next.context = node.context := by
  obtain ⟨target, inner, member, inside, listed, rfl⟩ := closest_eq_some found
  obtain ⟨found, enters⟩ := closed.inside within.fragment inside
  have idle := (Context.chain_of_inside? inside).idle (within.idle.enter _)
  exact ⟨⟨closed.child found (Fragment.hasChild_of_members listed), List.forall_mem_cons.mpr ⟨found, enters within.scope⟩,
    idle.enter _⟩, rfl⟩

end

theorem Within.walkFrom {segments : List String} {node next : Node} (closed : node.context.Retains family)
    (within : node.Within family) {data : Option Json} {pointer : Pointer}
    (found : node.walkFrom data pointer segments = some (.ok (some next))) :
    next.Within family ∧ next.context = node.context := by
  induction segments generalizing node data pointer with
  | nil =>
    obtain ⟨answer, reduces, same⟩ := Option.bind_eq_some_iff.mp found
    cases answer with
    | error violation => cases same
    | ok reduced =>
      cases same
      exact within.settle closed reduces
  | cons segment rest ih =>
    obtain ⟨answer, entered, later⟩ := Option.bind_eq_some_iff.mp found
    match answer, entered, later with
    | .ok (some middle), entered, later =>
      obtain ⟨within', same⟩ := within.getAt closed entered
      obtain ⟨within'', same'⟩ := ih (same ▸ closed) within' later
      exact ⟨within'', same'.trans same⟩

/-- Whatever a node of a closed family leads to stays in the family. -/
theorem Within.yields (closed : node.context.Retains family) (within : node.Within family) (yields : node.Yields next) :
    next.Within family ∧ next.context = node.context := by
  cases yields with
  | settled reduced => exact within.settle closed reduced
  | entered found => exact within.getAt closed found
  | walked found => exact within.walkFrom closed found
  | followed resolved => exact within.resolve closed resolved
  | parent found => exact within.parent? closed found
  | closest found => exact within.closest closed found

/-- A way from node to node stays in one compiled schema, and in a closed family. -/
theorem Within.leads (closed : node.context.Retains family) (within : node.Within family)
    (way : Relation.ReflTransGen Yields node next) : next.Within family ∧ next.context = node.context := by
  induction way with
  | refl => exact ⟨within, rfl⟩
  | tail _ yields ih =>
    obtain ⟨within', same⟩ := ih.1.yields (ih.2 ▸ closed) yields
    exact ⟨within', same.trans ih.2⟩

/-! ## Handles are compiled -/

theorem sound_of_compile {compiler : Compiler} {schema : Json} (compiled : compiler.compile schema = .ok node) :
    node.Sound := by
  obtain ⟨-, -, outermost, position, root⟩ := Compiler.root_of_compile compiled
  refine ⟨Compiler.wellCompiled_of_compile compiled, Fragment.isCompiled_of_compile root, fun frame entered => ?_,
    fun frame entered => ?_⟩
  all_goals
    rw [outermost] at entered
    cases entered

/-- A way from node to node stays in one compiled schema. -/
theorem Sound.leads (sound : node.Sound) (way : Relation.ReflTransGen Yields node next) :
    next.Sound ∧ next.context = node.context := by
  have within : node.Within (·.IsCompiled node.context.draft) := ⟨sound.fragment, sound.scope, sound.idle⟩
  obtain ⟨⟨fragment, scope, idle⟩, same⟩ := within.leads (Context.retains_isCompiled sound.index) way
  exact ⟨⟨same ▸ sound.index, same ▸ fragment, same ▸ scope, idle⟩, same⟩

/-- Every handle of a compiled schema holds compiled fragments only. -/
theorem IsHandle.sound {compiler : Compiler} {schema : Json} (handle : node.IsHandle compiler schema) : node.Sound := by
  obtain ⟨root, compiled, way⟩ := handle
  exact ((sound_of_compile compiled).leads way).1

end Node
end JsonSchema
