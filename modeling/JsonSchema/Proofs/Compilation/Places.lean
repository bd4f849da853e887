import JsonSchema.Compiler
import JsonSchema.Proofs.Compilation.Resource
import JsonSchema.Proofs.Compilation.Standing

/-!
# Compiled fragments at their places

A fragment keeps two places: one in its document and one in its resource. The value at either of them is
the schema of the fragment, for every fragment of a document, as long as no schema is compiled from a
`prefixItems` that is no array: its fragment is put where `items` would stand.
-/

namespace JsonSchema

/-- The place in the document does not depend on identifiers. -/
theorem Site.pointer_of_identify {draft : Draft} {outer site : Site} {members : Members} {names : List String}
    (identified : outer.identify draft members = .ok (site, names)) : site.pointer = outer.pointer := by
  unfold identify at identified
  split at identified
  · split at identified
    · cases identified
      rfl
    · split at identified
      · cases identified
      · dsimp only at identified
        split at identified <;> (cases identified; rfl)
  · cases identified
    rfl

/-- Where `prefixItems` takes the place of `items` and is no array, it is the schema of all items. -/
theorem step_of_prefixItems {draft : Draft} {pointer : Pointer} {members : Members} {schema : Json}
    (newer : draft.hasPrefixItems = true) (found : members.lookup "prefixItems" = some schema)
    (noArray : ∀ items, schema ≠ .arr items) :
    .child (.restItems "items") schema ∈ steps draft pointer members := by
  have step : .child (.restItems "items") schema ∈ stepArray draft members := by
    have present : members.has "prefixItems" = true := by simp [Members.has, found]
    simp only [stepArray, newer, present, Bool.and_self, ↓reduceIte, found]
    cases schema with
    | arr items => exact absurd rfl (noArray items)
    | _ => exact List.mem_singleton_self _
  rw [steps_eq_parts]
  exact List.mem_flatMap.mpr ⟨.array draft, by simp [parts], step⟩

namespace Fragment

section

/-! ## Openers -/

/-- The fragment that opens the resource at the end of a way: the last one on it with another resource than
the fragment before it, or else `opener`. -/
def openerAlong (opener before : Fragment) : List (Slot × Fragment) → Fragment
  | [] => opener
  | (_, next) :: rest => openerAlong (if Index.opensResource before.site next then next else opener) next rest

/-- The schema of a fragment stands in its document where its pointer says, and in the schema of the fragment
that opens its resource where its place in the resource says. -/
structure Placed (document : Json) (opener f : Fragment) : Prop where
  pointer : f.site.pointer.resolve? document = some f.schema
  within : f.site.within.resolve? opener.schema = some f.schema
  base : opener.site.base = f.site.base

variable {draft : Draft} {source : Origin} {outer : Site} {document schema : Json} {opener f g n : Fragment}

theorem Compiled.pointer_eq (compiled : Compiled draft source outer schema f) : f.site.pointer = outer.pointer := by
  rcases compiled.bool_or_obj with ⟨b, rfl⟩ | ⟨members, rfl⟩
  · rw [compiled_bool.mp compiled]
  · obtain ⟨names, identified, -⟩ := (compiled_obj.mp compiled).identified
    exact Site.pointer_of_identify identified

/-- The root of a document is placed and opens the resource of the document. -/
theorem Compiled.placed_root {base : Uri} (compiled : Compiled draft source (.ofDocument base) document f) :
    Placed document f f := by
  have same := compiled.schema_eq
  refine ⟨?_, ?_, rfl⟩
  · rw [compiled.pointer_eq, same]
    rfl
  · rcases compiled.site_eq with stays | ⟨root, -⟩
    · rw [stays]
      rfl
    · rw [root]
      rfl

/-- The child of a placed fragment is placed if what fills its slot stands where the slot says. -/
theorem Placed.child (placed : Placed document opener f) (compiled : Compiled draft source outer schema f)
    {slot : Slot} (inside : (slot, g) ∈ f.children)
    (leads : ∀ {p : Pointer} {root : Json}, p.resolve? root = some f.schema →
      (p.joinAll slot.segments).resolve? root = some g.schema) :
    Placed document (if Index.opensResource f.site g then g else opener) g := by
  obtain ⟨members, sub, -, -, child⟩ := compiled.child inside
  have below : (f.site.below slot.segments).base = f.site.base := rfl
  have pointer : g.site.pointer.resolve? document = some g.schema := by
    rw [child.pointer_eq]
    exact leads placed.pointer
  rcases child.site_eq with stays | ⟨root, other, -⟩
  · have closed : Index.opensResource f.site g = false := by simp [Index.opensResource, stays, below]
    rw [closed]
    refine ⟨pointer, ?_, ?_⟩
    · rw [stays]
      exact leads placed.within
    · rw [stays, below]
      exact placed.base
  · have opens : Index.opensResource f.site g = true := by simpa [Index.opensResource] using (below ▸ other).symm
    rw [opens]
    refine ⟨pointer, ?_, rfl⟩
    rw [root]
    rfl

/-- Whatever is below a placed fragment is placed, if the schemas for items stand in their place. -/
theorem Placed.along (placed : Placed document opener f) (compiled : Compiled draft source outer schema f)
    (formed : schema.WellFormed) {entries : List (Slot × Fragment)} (way : Way f entries n)
    (inPlace : ∀ g (members : Members), f.Reaches g → g.schema = .obj members → members.ItemsInPlace draft) :
    Placed document (openerAlong opener f entries) n := by
  induction way generalizing opener outer schema with
  | here => exact placed
  | @down f g n slot entries inside rest ih =>
    obtain ⟨members, sub, rfl, step, child⟩ := compiled.child inside
    have fills := fills_segments (inPlace f members .refl compiled.schema_eq) step
    have leads {p : Pointer} {root : Json} (found : p.resolve? root = some f.schema) :
        (p.joinAll slot.segments).resolve? root = some g.schema := by
      rw [child.schema_eq]
      exact fills.resolve? formed (compiled.schema_eq ▸ found)
    refine ih (placed.child compiled inside leads) child (formed.of_mem_parts ⟨_, fills.place⟩) ?_
    intro h others reaches
    exact inPlace h others (.head ⟨slot, inside⟩ reaches)

theorem Way.snoc {entries : List (Slot × Fragment)} {slot : Slot} (way : Way f entries g)
    (inside : (slot, n) ∈ g.children) : Way f (entries ++ [(slot, n)]) n := by
  induction way with
  | here => exact .down inside .here
  | down first _ ih => exact .down first (ih inside)

theorem exists_way_of_reaches (reaches : f.Reaches g) : ∃ entries, Way f entries g := by
  induction reaches with
  | refl => exact ⟨[], .here⟩
  | tail _ has ih =>
    obtain ⟨entries, way⟩ := ih
    obtain ⟨slot, inside⟩ := has
    exact ⟨_, way.snoc inside⟩

/-- Every fragment of a document stands where its two places say, in the document and in the fragment that
opens its resource, exactly if no `prefixItems` is compiled in the place of other `items`. -/
theorem places_lead_iff {base : Uri} (formed : document.WellFormed)
    (compiled : compile draft source (.ofDocument base) document = .ok f) :
    (∀ entries n, Way f entries n → Placed document (openerAlong f f entries) n) ↔
      ∀ g (members : Members), f.Reaches g → g.schema = .obj members → members.ItemsInPlace draft := by
  have compiled := compile_eq_ok.mp compiled
  constructor
  · intro placed g members reaches same newer schema found
    by_cases array : ∃ items, schema = .arr items
    · exact .inl array
    right
    obtain ⟨entries, way⟩ := exists_way_of_reaches reaches
    obtain ⟨site, -, made, -⟩ := compiled.listed reaches
    have made := compiled_obj.mp (same ▸ made)
    have noArray : ∀ items, schema ≠ .arr items := fun items other => array ⟨items, other⟩
    obtain ⟨slot, sub, child, step, inside, below⟩ := made.step (step_of_prefixItems newer found noArray)
    cases step
    -- the fragment of `prefixItems` is looked for under `items`
    have own := (placed _ _ way).pointer
    have there := (placed _ _ (way.snoc inside)).pointer
    have place : (g.site.below (Slot.restItems "items").segments).pointer = g.site.pointer.join "items" := rfl
    rw [below.pointer_eq, below.schema_eq, place, Pointer.resolve?_join, own, same] at there
    exact there
  · intro inPlace entries n way
    exact compiled.placed_root.along compiled formed way inPlace

end

/-- A schema with one schema for all items under `prefixItems`. -/
def looseItems : Json := .obj [("prefixItems", .obj [("type", .str "string")])]

/-- The fragment of `prefixItems`, which is put under `items`. -/
def looseItem : Fragment :=
  ⟨(Site.ofDocument .default).below ["items"], .document 0, .obj [("type", .str "string")], [], none, []⟩

def looseRoot : Fragment :=
  ⟨.ofDocument .default, .document 0, looseItems, [], none, [(.restItems "items", looseItem)]⟩

/-- Nothing stands at the place that the fragment of `prefixItems` keeps. -/
theorem loose_schema_misplaced : ∃ node, Compiler.standard.compile looseItems = .ok node ∧
    Way node.fragment [(.restItems "items", looseItem)] looseItem ∧
    looseItem.site.pointer.resolve? looseItems = none := by
  have compiled : Compiler.standard.compile looseItems =
      .ok (.reach ⟨.draft2020, .standard, Index.empty.add .draft2020 .default looseRoot⟩ looseRoot []) := rfl
  exact ⟨_, compiled, .down (List.mem_singleton_self _) .here, rfl⟩

namespace ListedResource

/-- A document with a resource in it that has items of two kinds. -/
def document : Json := .obj [("$defs", .obj [("a/b", .obj [
  ("$id", .str "urn:t"), ("prefixItems", .arr [.bool true]), ("items", .obj [("type", .str "null")])])])]

def site : Site := ⟨⟨"urn", none, "t", none, none⟩, .root, ⟨["$defs", "a/b"]⟩⟩

def first : Fragment := ⟨site.below ["prefixItems", "0"], .document 0, .bool true, [], none, []⟩

def rest : Fragment := ⟨site.below ["items"], .document 0, .obj [("type", .str "null")], [], none, []⟩

def resource : Fragment :=
  ⟨site, .document 0, .obj [("$id", .str "urn:t"), ("prefixItems", .arr [.bool true]),
    ("items", .obj [("type", .str "null")])], [], none, [(.tupleItem "prefixItems" 0, first), (.restItems "items", rest)]⟩

def root : Fragment :=
  ⟨.ofDocument .default, .document 0, document, [], none, [(.definition "$defs" "a/b", resource)]⟩

/-- The schema of further items stands in the document and in the resource inside it. -/
theorem places_lead :
    compile .draft2020 (.document 0) (.ofDocument .default) document = .ok root ∧
    Way root [(.definition "$defs" "a/b", resource), (.restItems "items", rest)] rest ∧
    resource.site.base ≠ root.site.base ∧ Placed document resource rest := by
  have compiled : compile .draft2020 (.document 0) (.ofDocument .default) document = .ok root := by rfl
  have way : Way root [(.definition "$defs" "a/b", resource), (.restItems "items", rest)] rest :=
    .down (List.mem_singleton_self _) (.down (List.mem_cons_of_mem _ (List.mem_singleton_self _)) .here)
  have formed : document.WellFormed := by simp [Json.WellFormed, document, Json.Storable]
  have inPlace : document.Throughout fun schema =>
      ∀ members : Members, schema = .obj members → members.ItemsInPlace .draft2020 := by
    simp [document, Members.ItemsInPlace, List.lookup_cons]
  have placed := (places_lead_iff formed compiled).mpr (fun g members reaches same => ?_) _ _ way
  · exact ⟨compiled, way, by decide, placed⟩
  · exact (inPlace.of_mem_parts ((compile_eq_ok.mp compiled).mem_parts reaches)).self members same

end ListedResource
end Fragment
end JsonSchema
