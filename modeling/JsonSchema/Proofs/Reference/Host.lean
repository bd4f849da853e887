import JsonSchema.Compiler
import JsonSchema.Proofs.Compilation.Resource
import JsonSchema.Proofs.Reduction.Steps

/-!
# References of the fragment that others are merged into

A merged schema is compiled at the site of the fragment that the target of its reference, or the
members of its composition, were merged into. What that fragment says itself is not rebased. So
its references denote the same as before below those schemas of the merged fragment whose
identifiers lead back to the resource of the fragment.
-/

namespace JsonSchema

namespace Context

/-- A fragment takes the place of another one, the host, into which others were merged. -/
inductive Merges (context : Context) (host : Fragment) : Fragment → Prop where
  | reference {target merged : Fragment} (mergesSiblings : context.draft.mergesSiblings = true)
      (beside : hasSiblings host.schema = true) (followed : context.follow? host target = some merged) :
      Merges context host merged
  | reduction {judge : Judge} {task : Reduction} {scope : Scope} {reduced : Reduced}
      (work : task.hasWork context.draft host = true)
      (settled : (context.reduceSettled judge task host scope).run = some (.ok reduced)) :
      Merges context host reduced.fragment

variable {context : Context} {host merged : Fragment}

/-- What takes the place of a host is compiled at the site of the host. -/
theorem Merges.derived (merges : context.Merges host merged) :
    ∃ schema, Fragment.derive context.draft host.site schema = .ok merged := by
  cases merges with
  | @reference target _ mergesSiblings beside followed =>
    exact ⟨_, derive_of_follow? (by rw [mergesSiblings, beside, Bool.and_self]) followed⟩
  | @reduction judge task scope reduced work settled =>
    obtain ⟨-, ⟨idle, -⟩ | ⟨-, -, derived⟩ | ⟨-, -, schema, -, derived⟩⟩ := reduceSettled_eq_ok settled
    · rw [work] at idle
      cases idle
    · exact ⟨_, derived⟩
    · exact ⟨schema, derived⟩

/-- The resource of a fragment below a merged one is the one that the merged schemas lead to from
the resource of the host. -/
theorem Merges.base_of_way (merges : context.Merges host merged) {entries : List (Slot × Fragment)} {d : Fragment}
    (way : Fragment.Way merged entries d) :
    d.site.base = resourceAlong context.draft host.site.base (merged.schema :: Fragment.schemasOn entries) := by
  obtain ⟨schema, derived⟩ := merges.derived
  have compiled := Fragment.compile_eq_ok.mp derived
  rw [compiled.base_of_way way, compiled.base_eq]
  rfl

end Context

/-- Schemas without identifiers do not leave a resource. -/
theorem resourceAlong_of_unidentified {draft : Draft} {schemas : List Json} (base : Uri)
    (unidentified : ∀ schema ∈ schemas, schema.member? draft.idKeyword = none) :
    resourceAlong draft base schemas = base := by
  induction schemas with
  | nil => rfl
  | cons schema rest ih =>
    have stays : schema.members?.elim base (resourceOf draft base) = base := by
      cases schema with
      | obj members =>
        have absent : members.lookup draft.idKeyword = none := unidentified _ List.mem_cons_self
        simp [Json.members?, resourceOf, absent]
      | _ => rfl
    rw [resourceAlong, List.foldl_cons, stays]
    exact ih fun schema member => unidentified schema (List.mem_cons_of_mem _ member)

/-- Every reference denotes at a place of the merged fragment what it denotes in the host, exactly
if the identifiers of the merged schemas on the way to that place lead back to the resource of
the host. -/
theorem host_references_kept_iff {context : Context} {host merged d : Fragment} (merges : context.Merges host merged)
    {entries : List (Slot × Fragment)} (way : Fragment.Way merged entries d) :
    (∀ reference, d.site.base.join reference = host.site.base.join reference) ↔
      Uri.SameResource
        (resourceAlong context.draft host.site.base (merged.schema :: Fragment.schemasOn entries)) host.site.base := by
  rw [Uri.join_eq_iff, merges.base_of_way way]

/-! ## Targets with and without identifier -/

/-- A host with a reference of its own in a property. -/
def referringHost : Json := .obj [
  ("$ref", .str "urn:t"), ("properties", .obj [("a", .obj [("$ref", .str "#/$defs/s")])]),
  ("$defs", .obj [("s", .bool true)])]

/-- The compiler that knows the target of the host. -/
def referringCompiler (target : Json) : Compiler := { Compiler.standard with remotes := [("urn:t", target)] }

/-- Whether the host has keywords to merge, whether no schema on the way to its property has an identifier once its target
is merged into it, and whether the reference in the property keeps what it denotes. -/
def keepsHostReference (target : Json) : Option (Bool × Bool × Bool) := do
  let node ← ((referringCompiler target).compile referringHost).toOption
  let target ← node.context.target? node.fragment .static "urn:t" []
  let merged ← node.context.follow? node.fragment target
  let child ← merged.property? "a"
  let before ← (node.fragment.site.base.join "#/$defs/s").toOption
  let after ← (child.site.base.join "#/$defs/s").toOption
  return (node.context.draft.mergesSiblings && hasSiblings node.fragment.schema,
    [merged.schema, child.schema].all fun schema => (schema.member? node.context.draft.idKeyword).isNone, before = after)

private theorem merges_of_keepsHostReference {target : Json} {unidentified keeps : Bool}
    (computed : keepsHostReference target = some (true, unidentified, keeps)) : ∃ node merged child,
      (referringCompiler target).compile referringHost = .ok node ∧ node.context.Merges node.fragment merged ∧
      Fragment.Way merged [(.property "a", child)] child ∧
      (unidentified = true → ∀ schema ∈ merged.schema :: Fragment.schemasOn [(.property "a", child)],
        schema.member? node.context.draft.idKeyword = none) ∧
      (keeps = false → child.site.base.join "#/$defs/s" ≠ node.fragment.site.base.join "#/$defs/s") := by
  rw [keepsHostReference] at computed
  simp only [Option.bind_eq_bind, Option.bind_eq_some_iff] at computed
  obtain ⟨node, compiled, target, -, merged, followed, child, inside, before, denoted, after, denotes, same⟩ :=
    computed
  obtain ⟨merges, free, kept⟩ := by
    simpa only [Option.pure_def, Option.some.injEq, Prod.mk.injEq] using same
  obtain ⟨draft, beside⟩ := Bool.and_eq_true_iff.mp merges
  refine ⟨node, merged, child, ok_of_toOption compiled, .reference draft beside followed,
    .down (Fragment.mem_children_of_property? inside) .here, fun all schema member => ?_, fun lost same => ?_⟩
  · rw [all, List.all_eq_true] at free
    exact Option.isNone_iff_eq_none.mp (free schema member)
  · rw [ok_of_toOption denoted, ok_of_toOption denotes] at same
    rw [Except.ok.inj same, lost] at kept
    simp at kept

/-- The identifier of a target comes with it into the merged fragment, and the reference of the host
leads into the resource of the target. -/
theorem host_reference_displaced : ∃ node merged child,
    (referringCompiler (.obj [("$id", .str "urn:t")])).compile referringHost = .ok node ∧
    node.context.Merges node.fragment merged ∧ Fragment.Way merged [(.property "a", child)] child ∧
    child.site.base.join "#/$defs/s" ≠ node.fragment.site.base.join "#/$defs/s" := by
  have computed : keepsHostReference (.obj [("$id", .str "urn:t")]) = some (true, false, false) := by decide +kernel
  obtain ⟨node, merged, child, compiled, merges, way, -, lost⟩ := merges_of_keepsHostReference computed
  exact ⟨node, merged, child, compiled, merges, way, lost rfl⟩

/-- A target without identifier leads no reference of the host elsewhere. -/
theorem host_references_kept_iff_of_unidentified_target : ∃ (node : Node) (merged child : Fragment),
    (referringCompiler (.obj [("type", .str "object")])).compile referringHost = .ok node ∧
    ((∀ reference, child.site.base.join reference = node.fragment.site.base.join reference) ↔
      Uri.SameResource (resourceAlong node.context.draft node.fragment.site.base
        (merged.schema :: Fragment.schemasOn [(.property "a", child)])) node.fragment.site.base) ∧
    ∀ reference, child.site.base.join reference = node.fragment.site.base.join reference := by
  have computed : keepsHostReference (.obj [("type", .str "object")]) = some (true, true, true) := by decide +kernel
  obtain ⟨node, merged, child, compiled, merges, way, unidentified, -⟩ := merges_of_keepsHostReference computed
  have same := resourceAlong_of_unidentified node.fragment.site.base (unidentified rfl)
  have kept := host_references_kept_iff merges way
  exact ⟨node, merged, child, compiled, kept, kept.mpr (by rw [same]; rfl)⟩

end JsonSchema
