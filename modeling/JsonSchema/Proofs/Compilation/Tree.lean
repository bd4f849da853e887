import JsonSchema.Proofs.Json.Place
import JsonSchema.Schema.Fragment
import Mathlib.Logic.Relation

/-!
# The tree of a fragment

The children that a fragment has by some slot, and all fragments below it. They are finitely many, and
each stands at a longer location than the fragment above it.
-/

namespace JsonSchema

/-- Whether a fragment is compiled from a subschema of another one. -/
def Fragment.HasChild (f child : Fragment) : Prop := ∃ slot, (slot, child) ∈ f.children

namespace Fragment

theorem hasChild_of_select {α : Type} {f child : Fragment} {pick : Slot → Option α} {a : α}
    (member : (a, child) ∈ f.select pick) : f.HasChild child := by
  obtain ⟨⟨slot, other⟩, inside, picked⟩ := List.mem_filterMap.mp member
  obtain ⟨b, -, same⟩ := Option.map_eq_some_iff.mp picked
  cases same
  exact ⟨slot, inside⟩

theorem hasChild_of_select_map {α : Type} {f child : Fragment} {pick : Slot → Option α}
    (member : child ∈ (f.select pick).map Prod.snd) : f.HasChild child := by
  obtain ⟨⟨a, other⟩, inside, rfl⟩ := List.mem_map.mp member
  exact hasChild_of_select inside

theorem hasChild_of_child? {f child : Fragment} {p : Slot → Bool} (found : f.child? p = some child) :
    f.HasChild child := by
  obtain ⟨⟨slot, other⟩, first, rfl⟩ := Option.map_eq_some_iff.mp found
  exact ⟨slot, List.mem_of_find?_eq_some first⟩

/-- The branch that a condition takes is a child. -/
theorem hasChild_of_taken {f branch : Fragment} {holds : Bool}
    (taken : (if holds then f.consequence? else f.alternative?) = some branch) : f.HasChild branch := by
  cases holds with
  | true =>
    have found : f.consequence? = some branch := taken
    exact hasChild_of_child? found
  | false =>
    have found : f.alternative? = some branch := taken
    exact hasChild_of_child? found

/-- Where a slot satisfies a condition, a child in such a slot is found. -/
theorem exists_child? {f child : Fragment} {p : Slot → Bool} {slot : Slot} (inside : (slot, child) ∈ f.children)
    (picked : p slot = true) : ∃ slot' c, f.child? p = some c ∧ (slot', c) ∈ f.children ∧ p slot' = true := by
  obtain ⟨⟨slot', c⟩, first⟩ := Option.isSome_iff_exists.mp
    ((List.find?_isSome (p := fun entry : Slot × Fragment => p entry.1)).mpr ⟨_, inside, picked⟩)
  have holds := List.find?_some (p := fun entry : Slot × Fragment => p entry.1) first
  exact ⟨slot', c, by rw [child?, first]; rfl, List.mem_of_find?_eq_some first, holds⟩

/-- Whether a slot is that of a property's dependency. -/
def isDependency (keyword : Keyword) (property : String) : Slot → Bool
  | .dependency own name => own = keyword && name = property
  | _ => false

theorem isDependency_iff {keyword : Keyword} {property : String} {slot : Slot} :
    isDependency keyword property slot = true ↔ slot = .dependency keyword property := by
  cases slot <;> simp [isDependency]

theorem hasChild_of_members {f child : Fragment} {keyword : Keyword}
    (member : child ∈ f.members keyword) : f.HasChild child := hasChild_of_select_map member

theorem mem_properties {f child : Fragment} {name : String} :
    (name, child) ∈ f.properties ↔ (.property name, child) ∈ f.children := by
  refine ⟨fun inside => ?_, fun inside => List.mem_filterMap.mpr ⟨_, inside, rfl⟩⟩
  obtain ⟨⟨slot, other⟩, member, picked⟩ := List.mem_filterMap.mp inside
  cases slot with
  | property own =>
    cases picked
    exact member
  | _ => cases picked

theorem mem_patternProperties {f child : Fragment} {regex : Regex} :
    (regex, child) ∈ f.patternProperties ↔ (.patternProperty regex, child) ∈ f.children := by
  refine ⟨fun inside => ?_, fun inside => List.mem_filterMap.mpr ⟨_, inside, rfl⟩⟩
  obtain ⟨⟨slot, other⟩, member, picked⟩ := List.mem_filterMap.mp inside
  cases slot with
  | patternProperty own =>
    cases picked
    exact member
  | _ => cases picked

theorem mem_members {f child : Fragment} {keyword : Keyword} :
    child ∈ f.members keyword ↔ ∃ index, (.member keyword index, child) ∈ f.children := by
  constructor
  · intro inside
    obtain ⟨⟨index, other⟩, taken, rfl⟩ := List.mem_map.mp inside
    obtain ⟨⟨slot, other⟩, member, picked⟩ := List.mem_filterMap.mp taken
    cases slot with
    | member own place =>
      by_cases same : own = keyword
      · subst same
        simp only [↓reduceIte, Option.map_some, Option.some.injEq, Prod.mk.injEq] at picked
        exact ⟨place, picked.2 ▸ member⟩
      · simp [same] at picked
    | _ => cases picked
  · rintro ⟨index, inside⟩
    exact List.mem_map.mpr ⟨(index, child), List.mem_filterMap.mpr ⟨_, inside, by simp⟩, rfl⟩

theorem mem_children_of_property? {f child : Fragment} {name : String} (found : f.property? name = some child) :
    (.property name, child) ∈ f.children := mem_properties.mp (mem_of_lookup found)

theorem hasChild_of_property? {f child : Fragment} {name : String} (found : f.property? name = some child) :
    f.HasChild child := ⟨.property name, mem_children_of_property? found⟩

theorem hasChild_of_dependenciesOf {f child : Fragment} {keyword : Keyword} {dependency : Dependency}
    (member : dependency ∈ f.dependenciesOf keyword) (demand : dependency.demand = .schema child) :
    f.HasChild child := by
  obtain ⟨⟨property, value⟩, -, made⟩ := List.mem_filterMap.mp member
  cases value with
  | arr names =>
    simp only [Option.some.injEq] at made
    subst made
    cases demand
  | _ =>
    obtain ⟨other, found, rfl⟩ := Option.map_eq_some_iff.mp made
    cases demand
    exact hasChild_of_child? found

/-! ## Descendants -/

/-- A fragment is below another one, or that fragment itself. -/
def Reaches : Fragment → Fragment → Prop := Relation.ReflTransGen HasChild

/-- A fragment is below another one. -/
def IsAbove : Fragment → Fragment → Prop := Relation.TransGen HasChild

theorem sizeOf_lt_of_hasChild {f child : Fragment} (has : f.HasChild child) : sizeOf child < sizeOf f := by
  obtain ⟨site, origin, schema, anchors, pattern, children⟩ := f
  obtain ⟨slot, inside⟩ := has
  have entry := List.sizeOf_lt_of_mem inside
  simp only [Prod.mk.sizeOf_spec] at entry
  simp only [mk.sizeOf_spec]
  omega

theorem finite_reaches (f : Fragment) : {g | f.Reaches g}.Finite := by
  induction size : sizeOf f using Nat.strong_induction_on generalizing f with
  | _ _ ih =>
    have below : (⋃ entry ∈ {entry | entry ∈ f.children}, {g | Reaches (Prod.snd entry) g}).Finite :=
      (List.finite_toSet f.children).biUnion fun entry inside =>
        ih _ (size ▸ sizeOf_lt_of_hasChild ⟨entry.1, inside⟩) entry.2 rfl
    refine (below.insert f).subset fun g reaches => ?_
    rcases Relation.ReflTransGen.cases_head reaches with rfl | ⟨child, ⟨slot, inside⟩, rest⟩
    · exact Set.mem_insert _ _
    · exact Set.mem_insert_of_mem _ (Set.mem_biUnion (x := (slot, child)) inside rest)

end Fragment

/-! ## Locations -/

theorem Site.location_below (site : Site) (segments : List String) :
    (site.below segments).location = site.location ++ (⟨segments⟩ : Pointer).path := by
  simp [Site.location, Site.below, Pointer.joinAll, Pointer.path, Pointer.pathChars, String.append_assoc]

/-- The location of a child is longer than that of its fragment. -/
theorem Site.location_lt (site : Site) (slot : Slot) :
    site.location.length < (site.below slot.segments).location.length := by
  obtain ⟨first, rest, segments⟩ : ∃ first rest, slot.segments = first :: rest := by
    cases slot <;> exact ⟨_, _, rfl⟩
  have path : 0 < (⟨first :: rest⟩ : Pointer).path.length := by
    rw [Pointer.path, String.length_ofList]
    exact Nat.succ_pos _
  rw [Site.location_below, String.length_append, segments]
  exact Nat.lt_add_of_pos_right path

end JsonSchema
