import JsonSchema.Proofs.Compilation.Resource
import JsonSchema.Proofs.Reference.Chain
import JsonSchema.Proofs.Uri.Text

/-!
# Targets of references

A reference leads to a fragment of the index, or to a part of an indexed document that is compiled
on the way. All targets that can be come to from some fragments by replacing them with their
targets and by going down are finitely many.
-/

namespace JsonSchema

/-- The fragments of an index. -/
def Index.fragments (index : Index) : List Fragment :=
  index.locations.map Prod.snd ++ index.dynamicAnchors.map Prod.snd ++ index.recursiveAnchors.map Prod.snd

namespace Context

variable {context : Context}

/-- A fragment identifier names a fragment of the index or a part of a document. -/
theorem lookup?_eq_some {resource : Uri} {identifier : String} {target : Fragment}
    (found : context.lookup? resource identifier = some target) :
    target ∈ context.index.fragments ∨ ∃ pointer document schema,
      context.index.documents.lookup resource.text = some document ∧ pointer.resolve? document = some schema ∧
        Fragment.derive context.draft ⟨resource, pointer, pointer⟩ schema = .ok target := by
  have indexed {key : String} (located : context.located? key = some target) :
      target ∈ context.index.fragments := by
    have inside := List.mem_map_of_mem (f := Prod.snd) (mem_of_lookup located)
    simp [Index.fragments, inside]
  unfold lookup? at found
  simp only at found
  split at found
  · exact .inl (indexed found)
  · split at found
    · exact .inl (indexed found)
    · split at found
      · cases found
      · rename_i pointer _
        split at found
        · rename_i located
          cases found
          exact .inl (indexed located)
        · obtain ⟨document, known, found⟩ := Option.bind_eq_some_iff.mp found
          obtain ⟨schema, resolved, found⟩ := Option.bind_eq_some_iff.mp found
          refine .inr ⟨pointer, document, schema, known, resolved, ?_⟩
          cases derived : Fragment.derive context.draft ⟨resource, pointer, pointer⟩ schema with
          | error fault =>
            rw [derived] at found
            cases found
          | ok fragment =>
            rw [derived] at found
            cases found
            rfl

/-- The target of a reference is what its address names, or a fragment of the index. -/
theorem target?_eq_some {source target : Fragment} {keyword : ReferenceKeyword} {reference : String}
    {scope : Scope} (found : context.target? source keyword reference scope = some target) :
    ∃ resource identifier, splitReference source.site.base reference = some (resource, identifier) ∧
      (context.lookup? resource identifier = some target ∨ target ∈ context.index.fragments) := by
  unfold target? at found
  obtain ⟨⟨resource, identifier⟩, split, found⟩ := Option.bind_eq_some_iff.mp found
  obtain ⟨first, named, found⟩ := Option.bind_eq_some_iff.mp found
  refine ⟨resource, identifier, split, ?_⟩
  have outermost {find : Fragment → Option Fragment}
      (indexed : ∀ frame other, find frame = some other → other ∈ context.index.fragments)
      (same : (scope.outermostFirst.findSome? find).getD first = target) :
      context.lookup? resource identifier = some target ∨ target ∈ context.index.fragments := by
    cases outer : scope.outermostFirst.findSome? find with
    | none =>
      rw [outer] at same
      exact .inl (same ▸ named)
    | some other =>
      rw [outer] at same
      obtain ⟨frame, -, found⟩ := List.exists_of_findSome?_eq_some outer
      exact .inr (same ▸ indexed frame other found)
  cases keyword with
  | static =>
    cases found
    exact .inl named
  | recursive =>
    dsimp only at found
    split at found
    · refine outermost (fun frame other anchored => ?_) (Option.some.inj found)
      have inside := List.mem_map_of_mem (f := Prod.snd) (mem_of_lookup anchored)
      simp [Index.fragments, inside]
    · cases found
      exact .inl named
  | dynamic =>
    dsimp only at found
    split at found
    · refine outermost (fun frame other anchored => ?_) (Option.some.inj found)
      have inside := List.mem_map_of_mem (f := Prod.snd) (mem_of_lookup anchored)
      simp [Index.fragments, inside]
    · cases found
      exact .inl named

/-! ## Closed sets of fragments -/

/-- A set of fragments has the children of its fragments and the targets of their references. -/
structure Closed (context : Context) (family : Set Fragment) : Prop where
  child : ∀ f ∈ family, ∀ g, f.HasChild g → g ∈ family
  target : ∀ f ∈ family, ∀ keyword reference scope g, f.reference? context.draft = some (keyword, reference) →
    context.target? f keyword reference scope = some g → g ∈ family

/-- The fragments below those of a list. -/
def below (fragments : List Fragment) : Set Fragment := ⋃ f ∈ {f | f ∈ fragments}, {g | f.Reaches g}

theorem finite_below (fragments : List Fragment) : (below fragments).Finite :=
  (List.finite_toSet fragments).biUnion fun f _ => f.finite_reaches

/-- The resources and schemas that targets compiled on the way can have. -/
def derivedSituations (context : Context) : Set (Uri × Json) :=
  ⋃ entry ∈ {entry | entry ∈ context.index.documents}, ⋃ resource ∈ {uri : Uri | uri.text = entry.1},
    ⋃ schema ∈ entry.2.parts, Fragment.situations context.draft resource schema

theorem finite_derivedSituations : context.derivedSituations.Finite :=
  (List.finite_toSet _).biUnion fun entry _ => (Uri.finite_text entry.1).biUnion fun resource _ =>
    entry.2.finite_parts.biUnion fun schema _ => Fragment.finite_situations context.draft resource schema

/-- The addresses that a fragment of some schema refers to in some resource. -/
def addresses (context : Context) (situation : Uri × Json) : Set (Uri × String) :=
  {address | ∃ (f : Fragment) (keyword : ReferenceKeyword) (reference : String), f.schema = situation.2 ∧
    f.reference? context.draft = some (keyword, reference) ∧ splitReference situation.1 reference = some address}

theorem finite_addresses (situation : Uri × Json) : (context.addresses situation).Finite := by
  refine Set.Subsingleton.finite ?_
  rintro address ⟨f, keyword, reference, schema, refers, split⟩ address' ⟨f', keyword', reference', schema', refers', split'⟩
  have same : f.reference? context.draft = f'.reference? context.draft := by
    unfold Fragment.reference?
    rw [schema, schema']
  rw [refers, refers', Option.some.injEq, Prod.mk.injEq] at same
  obtain ⟨rfl, rfl⟩ := same
  exact Option.some.inj (split.symm.trans split')

/-- Some fragments, all that is below them or in the index, and all targets of their references. -/
def family (context : Context) (roots : List Fragment) : Set Fragment :=
  let indexed := below (roots ++ context.index.fragments)
  let situations := (fun f : Fragment => (f.site.base, f.schema)) '' indexed ∪ context.derivedSituations
  indexed ∪ ⋃ situation ∈ situations, ⋃ address ∈ context.addresses situation,
    ⋃ f ∈ {f | context.lookup? address.1 address.2 = some f}, {g | f.Reaches g}

theorem finite_family (roots : List Fragment) : (context.family roots).Finite := by
  have indexed := finite_below (roots ++ context.index.fragments)
  refine indexed.union (((indexed.image _).union finite_derivedSituations).biUnion fun situation _ => ?_)
  refine (finite_addresses situation).biUnion fun address _ => Set.Finite.biUnion ?_ fun f _ => f.finite_reaches
  refine Set.Subsingleton.finite fun f found f' found' => ?_
  exact Option.some.inj (found.symm.trans found')

theorem mem_below {fragments : List Fragment} {f g : Fragment} (inside : f ∈ fragments) (reaches : f.Reaches g) :
    g ∈ below fragments := Set.mem_biUnion (x := f) inside reaches

theorem root_mem_family {roots : List Fragment} {f : Fragment} (inside : f ∈ roots) : f ∈ context.family roots :=
  .inl (mem_below (List.mem_append_left _ inside) .refl)

/-- The family is closed. -/
theorem closed_family (roots : List Fragment) : context.Closed (context.family roots) := by
  have indexed_mem {f : Fragment} (inside : f ∈ context.index.fragments) : f ∈ context.family roots :=
    .inl (mem_below (List.mem_append_right _ inside) .refl)
  -- what a fragment of the family refers to depends on its situation, which is one of finitely many
  have situated {f : Fragment} (inside : f ∈ context.family roots) :
      (f.site.base, f.schema) ∈ (fun f : Fragment => (f.site.base, f.schema)) ''
        below (roots ++ context.index.fragments) ∪ context.derivedSituations := by
    rcases inside with inside | inside
    · exact .inl ⟨f, inside, rfl⟩
    · obtain ⟨situation, -, inside⟩ := Set.mem_iUnion₂.mp inside
      obtain ⟨address, -, inside⟩ := Set.mem_iUnion₂.mp inside
      obtain ⟨target, found, reaches⟩ := Set.mem_iUnion₂.mp inside
      rcases lookup?_eq_some found with indexed | ⟨pointer, document, schema, known, resolved, derived⟩
      · exact .inl ⟨f, mem_below (List.mem_append_right _ indexed) reaches, rfl⟩
      · refine .inr (Set.mem_biUnion (x := (address.1.text, document)) (mem_of_lookup known) ?_)
        refine Set.mem_biUnion (x := address.1) rfl (Set.mem_biUnion (Json.mem_parts_of_resolve? resolved) ?_)
        exact ⟨_, _, target, f, rfl, Fragment.compile_eq_ok.mp derived, reaches, rfl⟩
  constructor
  · rintro f inside g child
    rcases inside with inside | inside
    · obtain ⟨root, listed, reaches⟩ := Set.mem_iUnion₂.mp inside
      exact .inl (mem_below listed (reaches.tail child))
    · obtain ⟨situation, known, inside⟩ := Set.mem_iUnion₂.mp inside
      obtain ⟨address, refers, inside⟩ := Set.mem_iUnion₂.mp inside
      obtain ⟨target, found, reaches⟩ := Set.mem_iUnion₂.mp inside
      refine .inr (Set.mem_biUnion known (Set.mem_biUnion refers (Set.mem_biUnion found ?_)))
      exact reaches.tail child
  · rintro f inside keyword reference scope g refers found
    obtain ⟨resource, identifier, split, named | indexed⟩ := target?_eq_some found
    · refine .inr (Set.mem_biUnion (situated inside) (Set.mem_biUnion (x := (resource, identifier)) ?_ ?_))
      · exact ⟨f, keyword, reference, rfl, refers, split⟩
      · exact Set.mem_biUnion (x := g) named .refl
    · exact indexed_mem indexed

/-! ## References that replace -/

variable {family : Set Fragment}

/-- Where no keyword beside a reference counts, a chain stays among targets. -/
theorem Closed.chain (closed : context.Closed family) (replaces : context.draft.mergesSiblings = false)
    {seen : List String} {current final : Fragment} {scope inner : Scope}
    (chain : Chain context seen current scope final inner) (inside : current ∈ family) : final ∈ family := by
  induction chain with
  | ended => exact inside
  | hop refers found _ followed _ ih =>
    unfold follow? at followed
    rw [replaces, Bool.false_and, if_neg Bool.false_ne_true] at followed
    cases followed
    exact ih (closed.target _ inside _ _ _ _ refers found)

theorem Closed.settle (closed : context.Closed family) (replaces : context.draft.mergesSiblings = false)
    {fragment : Fragment} (inside : fragment ∈ family) (scope : Scope) : context.settle fragment scope ∈ family := by
  rcases settle_eq_or_chain fragment scope with same | ⟨inner, chain⟩
  · rw [same]
    exact inside
  · exact closed.chain replaces chain inside

end Context
end JsonSchema
