import JsonSchema.Proofs.Compilation.Renumbered
import JsonSchema.Proofs.Reference.Displacement
import JsonSchema.Proofs.Reference.Visited

/-!
# References where documents have other numbers

Two contexts that find the same documents, and the same fragments up to the numbers of documents, resolve
references alike. The limits on the length of chains may differ, as no chain comes to them. Scopes count
for the resources in them only, so it does not matter where the data stand either.
-/

namespace JsonSchema

/-- The other context finds the same documents, and the same fragments where documents have other numbers. -/
structure Context.Renumbers (σ : Nat → Nat) (context other : Context) : Prop where
  draft : other.draft = context.draft
  formats : other.formats = context.formats
  documents : ∀ address, other.index.documents.lookup address = context.index.documents.lookup address
  located : ∀ key, other.located? key = (context.located? key).map (Fragment.renumber σ)
  dynamicAnchor : ∀ base name, other.dynamicAnchor? base name = (context.dynamicAnchor? base name).map (Fragment.renumber σ)
  recursiveAnchor : ∀ base, other.recursiveAnchor? base = (context.recursiveAnchor? base).map (Fragment.renumber σ)

/-- The outcome of a reference, and the one where documents have other numbers and data stand below a place. -/
inductive Resolution.Follows (p : Pointer) (σ : Nat → Nat) : Resolution → Resolution → Prop where
  | plain : Follows p σ .plain .plain
  | resolved {target : Fragment} {scope moved : Scope} (inside : scope.Moves p moved) :
      Follows p σ (.resolved target scope) (.resolved (target.renumber σ) moved)
  | unresolved {reference : String} : Follows p σ (.unresolved reference) (.unresolved reference)

namespace Context

open Fragment

variable {σ : Nat → Nat} {context other : Context}

/-- Every context finds what it finds. -/
theorem renumbers_id (context : Context) : context.Renumbers id context := by
  have same (found : Option Fragment) : found = found.map (renumber id) := by
    cases found with
    | none => rfl
    | some f => rw [Option.map_some, renumber_id]
  exact ⟨rfl, rfl, fun _ => rfl, fun _ => same _, fun _ _ => same _, fun _ => same _⟩

/-- A dynamic reference asks the resources of the scope, the outermost first. -/
theorem outermost_follows {p : Pointer} {scope moved : Scope} (inside : scope.Moves p moved)
    {find find' : Uri → Option Fragment} (same : ∀ base, find' base = (find base).map (renumber σ)) :
    (moved.outermostFirst.findSome? fun frame => find' frame.site.base) =
      (scope.outermostFirst.findSome? fun frame => find frame.site.base).map (renumber σ) := by
  have resources := inside.resources find'
  simp only [Scope.bases, List.findSome?_map, Function.comp_def] at resources
  rw [resources, List.map_findSome?]
  simp only [Function.comp_def, same]

namespace Renumbers

variable (renumbers : context.Renumbers σ other) {p : Pointer} {scope moved : Scope} (inside : scope.Moves p moved)
include renumbers

theorem derive (site : Site) (schema : Json) : (Fragment.derive other.draft site schema).toOption =
    (Fragment.derive context.draft site schema).toOption.map (renumber σ) := by
  have derived := derive_renumber σ context.draft site schema
  rw [renumbers.draft]
  cases answer : Fragment.derive context.draft site schema with
  | error fault => rfl
  | ok f =>
    rw [answer] at derived
    exact congrArg Except.toOption derived.symm

theorem lookup? (resource : Uri) (identifier : String) :
    other.lookup? resource identifier = (context.lookup? resource identifier).map (renumber σ) := by
  unfold Context.lookup?
  simp only [renumbers.located, renumbers.documents]
  split
  · rfl
  · split
    · rfl
    · cases Pointer.ofFragment identifier with
      | error fault => rfl
      | ok pointer =>
        dsimp only
        cases context.located? (resource.text ++ "#" ++ pointer.path) with
        | some f => rfl
        | none =>
          simp only [Option.map_none, Option.bind_eq_bind, Option.map_bind, renumbers.derive, Function.comp_def]

include inside in
theorem target? (source : Fragment) (keyword : ReferenceKeyword) (reference : String) :
    other.target? (source.renumber σ) keyword reference moved =
      (context.target? source keyword reference scope).map (renumber σ) := by
  unfold Context.target?
  rw [site_renumber]
  cases splitReference source.site.base reference with
  | none => rfl
  | some split =>
    obtain ⟨resource, identifier⟩ := split
    simp only [Option.bind_eq_bind, Option.bind_some, renumbers.lookup?]
    cases context.lookup? resource identifier with
    | none => rfl
    | some target =>
      have recursive := outermost_follows inside renumbers.recursiveAnchor
      have dynamic := outermost_follows inside fun base => renumbers.dynamicAnchor base identifier
      simp only [Option.map_some, Option.bind_some, keyword?_renumber, schema_renumber, recursive, dynamic,
        Option.getD_map]
      cases keyword with
      | static => rfl
      | recursive => dsimp only; split <;> rfl
      | dynamic => dsimp only; split <;> rfl

theorem follow? (source target : Fragment) :
    other.follow? (source.renumber σ) (target.renumber σ) = (context.follow? source target).map (renumber σ) := by
  have merged : mergeTarget (target.renumber σ) = mergeTarget target := by
    rw [mergeTarget, mergeTarget, isBool_renumber, site_renumber, schema_renumber]
  unfold Context.follow?
  rw [schema_renumber, site_renumber, merged, renumbers.draft]
  split
  · rw [← renumbers.derive, renumbers.draft]
  · rfl

/-! ## Chains -/

include inside in
/-- A chain comes to the same targets, and its scope stays alike. -/
theorem visits {current last : Fragment} {targets : List Fragment} (visits : context.Visits current scope targets last) :
    other.Visits (current.renumber σ) moved (targets.map (renumber σ)) (last.renumber σ) ∧
      (targets.foldl Scope.enter scope).Moves p ((targets.map (renumber σ)).foldl Scope.enter moved) := by
  induction visits generalizing moved with
  | here => exact ⟨.here, inside⟩
  | @hop current target next last scope targets keyword reference refers found followed rest ih =>
    obtain ⟨rest', inside'⟩ := ih (inside.enter (site_renumber σ target))
    have refers' : (current.renumber σ).reference? other.draft = some (keyword, reference) := by
      rwa [renumbers.draft, reference?_renumber]
    have found' : other.target? (current.renumber σ) keyword reference moved = some (target.renumber σ) := by
      rw [renumbers.target? inside, found, Option.map_some]
    have followed' : other.follow? (current.renumber σ) (target.renumber σ) = some (next.renumber σ) := by
      rw [renumbers.follow?, followed, Option.map_some]
    exact ⟨.hop refers' found' followed' rest', inside'⟩

include inside in
theorem blocked {visited : List String} {current : Fragment} {keyword : ReferenceKeyword} {reference : String}
    (blocked : context.Blocked visited current keyword reference scope) :
    other.Blocked visited (current.renumber σ) keyword reference moved := by
  have finds {target : Fragment} (found : context.target? current keyword reference scope = some target) :
      other.target? (current.renumber σ) keyword reference moved = some (target.renumber σ) := by
    rw [renumbers.target? inside, found, Option.map_some]
  cases blocked with
  | lost missing => exact .lost (by rw [renumbers.target? inside, missing, Option.map_none])
  | returned found back => exact .returned (finds found) (by rwa [location_renumber])
  | refused found merges broken =>
    have nothing := follow?_eq_none.mpr ⟨merges, _, broken⟩
    obtain ⟨merges', fault, broken'⟩ := follow?_eq_none.mp
      (show other.follow? (current.renumber σ) _ = none by rw [renumbers.follow?, nothing, Option.map_none])
    exact .refused (finds found) merges' broken'

include inside in
/-- References are resolved alike. -/
theorem resolve (fragment : Fragment) :
    (context.resolve fragment scope).Follows p σ (other.resolve (fragment.renumber σ) moved) := by
  have refers' : (fragment.renumber σ).reference? other.draft = fragment.reference? context.draft := by
    rw [renumbers.draft, reference?_renumber]
  by_cases refers : fragment.reference? context.draft = none
  · rw [resolve_eq_plain.mpr refers, resolve_eq_plain.mpr (refers'.trans refers)]
    exact .plain
  · obtain ⟨targets, last, visits, distinct, ends⟩ := exists_visits_to_end context fragment scope
    obtain ⟨visits', inside'⟩ := renumbers.visits inside visits
    have distinct' : ((targets.map (renumber σ)).map Fragment.location).Nodup := by
      rw [List.map_map]
      simpa only [Function.comp_def, location_renumber] using distinct
    rcases ends with settled | ⟨keyword, reference, blocks, blocked⟩
    · rw [visits.resolve_eq_resolved distinct refers settled,
        visits'.resolve_eq_resolved distinct' (by rwa [refers']) (by rwa [renumbers.draft, reference?_renumber])]
      exact .resolved inside'
    · have blocked' := renumbers.blocked inside' blocked
      rw [visits.resolve_eq_unresolved distinct blocks blocked,
        visits'.resolve_eq_unresolved distinct' (by rwa [renumbers.draft, reference?_renumber]) (blocked'.congr ?_)]
      · exact .unresolved
      · intro location
        simp only [List.map_map, Function.comp_def, location_renumber]

include inside in
theorem settle (fragment : Fragment) :
    other.settle (fragment.renumber σ) moved = (context.settle fragment scope).renumber σ := by
  have resolutions := renumbers.resolve inside fragment
  unfold Context.settle
  generalize context.resolve fragment scope = first, other.resolve (fragment.renumber σ) moved = second at resolutions
  cases resolutions <;> rfl

end Renumbers
end Context
end JsonSchema
