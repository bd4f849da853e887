import JsonSchema.Proofs.Compilation.Parts
import JsonSchema.Proofs.Compilation.Tree
import JsonSchema.Proofs.Pointer.Reading

/-!
# Where compiled schemas stand

A child is compiled from what stands in its fragment's schema where the slot says. So the place that
a fragment keeps leads from the root of its resource to its schema. Only where `prefixItems` is no
array the two differ, unless `items` has the same schema.
-/

namespace JsonSchema

/-! ## The subschema of a slot -/

/-- Where `prefixItems` is known it is an array. -/
def Members.HasTuple (draft : Draft) (members : Members) : Prop :=
  draft.hasPrefixItems = true → ∀ schema, members.lookup "prefixItems" = some schema → ∃ items, schema = .arr items

/-- Where `prefixItems` is known it is an array, or the same as `items`. -/
def Members.ItemsInPlace (draft : Draft) (members : Members) : Prop :=
  draft.hasPrefixItems = true → ∀ schema, members.lookup "prefixItems" = some schema →
    (∃ items, schema = .arr items) ∨ members.lookup "items" = some schema

section
variable {draft : Draft} {pointer : Pointer} {members : Members} {slot : Slot} {sub : Json}

theorem Members.HasTuple.itemsInPlace (tuple : members.HasTuple draft) : members.ItemsInPlace draft :=
  fun newer schema found => .inl (tuple newer schema found)

/-- The schema for the rest of the items comes from the keywords of items. -/
theorem stepArray_of_steps {keyword : String} (step : .child (.restItems keyword) sub ∈ steps draft pointer members) :
    .child (.restItems keyword) sub ∈ stepArray draft members := by
  rw [steps_eq_parts] at step
  obtain ⟨part, listed, step⟩ := List.mem_flatMap.mp step
  have names := (local_of_parts listed).slots _ _ _ _ step
  have sole : (parts draft).filter (fun part => part.names = arrayNames) = [.array draft] := by cases draft <;> rfl
  have own : part ∈ (parts draft).filter fun part => part.names = arrayNames :=
    List.mem_filter.mpr ⟨listed, decide_eq_true names.symm⟩
  rw [sole, List.mem_singleton] at own
  subst own
  exact step

/-- The schema for the rest of the items stands under `items`, or under `additionalItems`, unless it comes from
`prefixItems`. -/
theorem lookup_restItems {keyword : String} (tuple : members.ItemsInPlace draft)
    (step : .child (.restItems keyword) sub ∈ steps draft pointer members) : members.lookup keyword = some sub := by
  cases arrayStep_of_stepArray (stepArray_of_steps step) with
  | rest _ other => exact other
  | all found noArray =>
    unfold tupleName at found
    split at found
    · rename_i newer
      rcases tuple (Bool.and_eq_true_iff.mp newer).1 _ found with ⟨items, rfl⟩ | same
      · exact (noArray items rfl).elim
      · exact same
    · exact found

/-- Every step fills the place that its slot names. -/
theorem fills_segments (tuple : members.ItemsInPlace draft) (step : .child slot sub ∈ steps draft pointer members) :
    Fills members (steps draft pointer members) slot slot.segments sub := by
  obtain ⟨segments, fills⟩ := fills_of_steps step
  cases fills with
  | whole applies found place alone =>
    rcases place with named | ⟨rfl, rfl⟩
    · rw [named]
      exact .whole applies found (.inl named) alone
    · exact .whole (by decide) (lookup_restItems tuple step) (.inl rfl) rfl
  | entry applies found inside place named stepped =>
    rw [place]
    exact .entry applies found inside place named stepped
  | item applies found inside place alone =>
    rw [place]
    exact .item applies found inside place alone

/-- What fills a place is what a pointer to the place leads to. -/
theorem Fills.resolve? {all : List Step} {segments : List String} {root : Json} {p : Pointer}
    (fills : Fills members all slot segments sub) (formed : (Json.obj members).WellFormed)
    (found : p.resolve? root = some (.obj members)) : (p.joinAll segments).resolve? root = some sub := by
  have two (first second : String) : p.joinAll [first, second] = (p.join first).join second :=
    congrArg Pointer.mk (List.append_assoc p.segments [first] [second]).symm
  cases fills with
  | whole _ named => exact Pointer.resolve?_member found formed (mem_of_lookup named)
  | entry _ named inside =>
    have member := mem_of_lookup named
    rw [two]
    exact Pointer.resolve?_member (Pointer.resolve?_member found formed member) (formed.of_mem_members member) inside
  | item _ named inside =>
    have member := mem_of_lookup named
    rw [two]
    exact Pointer.resolve?_item (Pointer.resolve?_member found formed member) (formed.of_mem_members member) inside

end

/-! ## Sites -/

namespace Site

/-- A schema stays at the site it is compiled for, or is the root of a resource of its own. -/
theorem identify_eq {draft : Draft} {outer site : Site} {members : Members} {names : List String}
    (identified : outer.identify draft members = .ok (site, names)) :
    site = outer ∨ site.within = .root ∧ site.base ≠ outer.base ∧
      ∃ id address, outer.base.join id = .ok address ∧ site.base = address.withoutFragment := by
  unfold identify at identified
  split at identified
  · rename_i id _
    split at identified
    · cases identified
      exact .inl rfl
    · split at identified
      · cases identified
      · rename_i address joined
        dsimp only at identified
        split at identified
        · cases identified
          exact .inl rfl
        · rename_i opens
          cases identified
          refine .inr ⟨rfl, fun same => opens ?_, id, address, joined, rfl⟩
          rw [decide_eq_true (p := address.withoutFragment = outer.base) same, Bool.or_true]
  · cases identified
    exact .inl rfl

end Site

namespace Fragment

variable {draft : Draft} {source : Origin} {outer : Site} {schema : Json} {f g : Fragment}

theorem Compiled.site_eq (compiled : Compiled draft source outer schema f) :
    f.site = outer ∨ f.site.within = .root ∧ f.site.base ≠ outer.base ∧
      ∃ id address, outer.base.join id = .ok address ∧ f.site.base = address.withoutFragment := by
  rcases compiled.bool_or_obj with ⟨b, rfl⟩ | ⟨members, rfl⟩
  · rw [compiled_bool.mp compiled]
    exact .inl rfl
  · obtain ⟨names, identified, -⟩ := (compiled_obj.mp compiled).identified
    exact Site.identify_eq identified

/-- A schema without identifier stays at the site it is compiled for. -/
theorem Compiled.site_eq_of_unidentified (compiled : Compiled draft source outer schema f)
    (unidentified : schema.member? draft.idKeyword = none) : f.site = outer := by
  rcases compiled.bool_or_obj with ⟨b, rfl⟩ | ⟨members, rfl⟩
  · rw [compiled_bool.mp compiled]
  · obtain ⟨names, identified, -⟩ := (compiled_obj.mp compiled).identified
    have absent : members.lookup draft.idKeyword = none := unidentified
    simp only [Site.identify, absent, Except.ok.injEq, Prod.mk.injEq] at identified
    exact identified.1.symm

/-- The site below a slot is not the root of a resource. -/
theorem below_within_ne_root (site : Site) (slot : Slot) : (site.below slot.segments).within ≠ .root := by
  intro same
  have segments : site.within.segments ++ slot.segments = [] := congrArg Pointer.segments same
  have none := (List.append_eq_nil_iff.mp segments).2
  cases slot <;> cases none

theorem mem_childrenOutermostFirst {site : Site} {slot : Slot} {children : List (Slot × Fragment)}
    {entry : Site × Fragment} (inside : (slot, g) ∈ children)
    (below : entry ∈ g.outermostFirst (site.below slot.segments)) :
    entry ∈ childrenOutermostFirst site children := by
  induction children with
  | nil => cases inside
  | cons first rest ih =>
    rw [childrenOutermostFirst]
    rcases List.mem_cons.mp inside with rfl | later
    · exact List.mem_append_left _ below
    · exact List.mem_append_right _ (ih later)

/-- What is below a fragment is listed with the site it was compiled for. That site is the root of a resource
for the fragment itself at most. -/
theorem Compiled.listed (compiled : Compiled draft source outer schema f) (reaches : f.Reaches g) : ∃ site,
    (site, g) ∈ f.outermostFirst outer ∧ Compiled draft source site g.schema g ∧
      (site = outer ∧ g = f ∨ site.within ≠ .root) := by
  induction reaches using Relation.ReflTransGen.head_induction_on generalizing outer schema with
  | refl =>
    refine ⟨outer, ?_, compiled.schema_eq ▸ compiled, .inl ⟨rfl, rfl⟩⟩
    obtain ⟨site, origin, schema', anchors, pattern, children⟩ := g
    rw [outermostFirst]
    exact List.mem_cons_self
  | @head f c has _ ih =>
    obtain ⟨slot, inside⟩ := has
    obtain ⟨members, sub, -, -, child⟩ := compiled.child inside
    obtain ⟨site, listed, made, place⟩ := ih child
    refine ⟨site, ?_, made, .inr ?_⟩
    · obtain ⟨own, origin, schema', anchors, pattern, children⟩ := f
      rw [outermostFirst]
      exact List.mem_cons_of_mem _ (mem_childrenOutermostFirst inside listed)
    · rcases place with ⟨rfl, -⟩ | proper
      · exact below_within_ne_root _ slot
      · exact proper

/-- Whatever is below a compiled fragment was compiled from a part of its schema. -/
theorem Compiled.mem_parts (compiled : Compiled draft source outer schema f) (reaches : f.Reaches g) :
    g.schema ∈ schema.parts := by
  induction reaches using Relation.ReflTransGen.head_induction_on generalizing outer schema with
  | refl => exact compiled.schema_eq ▸ Json.self_mem_parts _
  | head has _ ih =>
    obtain ⟨slot, inside⟩ := has
    obtain ⟨members, sub, rfl, step, child⟩ := compiled.child inside
    obtain ⟨segments, fills⟩ := fills_of_steps step
    exact Json.parts_trans ⟨segments, fills.place⟩ (ih child)

end Fragment
end JsonSchema
