import JsonSchema.Proofs.Compilation.Places
import JsonSchema.Proofs.Compilation.Separation
import JsonSchema.Proofs.Reference.Grounded

/-!
# The entries of an index

An index keeps one entry for each fragment of its documents, each fragment after those below it. If no two
resources share an address, the address of a resource and a place in it tell the fragment that stands there.
-/

namespace JsonSchema

namespace Fragment

variable {draft : Draft} {source : Origin} {outer : Site} {schema : Json} {f g : Fragment}

/-! ## Listed fragments -/

mutual

/-- What is listed was compiled where the list starts, or below a fragment of it. -/
theorem parent_of_mem_innermostFirst : ∀ (f : Fragment) (outer : Site) (entry : Site × Fragment),
    entry ∈ f.innermostFirst outer → entry = (outer, f) ∨
      ∃ g slot, f.Reaches g ∧ (slot, entry.2) ∈ g.children ∧ entry.1 = g.site.below slot.segments
  | ⟨site, origin, schema, anchors, pattern, children⟩, outer, entry, inside => by
    rw [innermostFirst] at inside
    rcases List.mem_append.mp inside with below | own
    · obtain ⟨child, listed, ⟨same, place⟩ | ⟨g, slot, reaches, stands⟩⟩ :=
        parent_of_mem_childrenInnermostFirst children site entry below
      · exact .inr ⟨_, child.1, .refl, same ▸ listed, place⟩
      · exact .inr ⟨g, slot, .head ⟨child.1, listed⟩ reaches, stands⟩
    · exact .inl (List.mem_singleton.mp own)

theorem parent_of_mem_childrenInnermostFirst : ∀ (children : List (Slot × Fragment)) (site : Site)
    (entry : Site × Fragment), entry ∈ childrenInnermostFirst site children → ∃ child ∈ children,
      entry.2 = child.2 ∧ entry.1 = site.below child.1.segments ∨
        ∃ g slot, child.2.Reaches g ∧ (slot, entry.2) ∈ g.children ∧ entry.1 = g.site.below slot.segments
  | [], _, _, inside => nomatch inside
  | (slot, child) :: rest, site, entry, inside => by
    rw [childrenInnermostFirst] at inside
    rcases List.mem_append.mp inside with first | later
    · refine ⟨_, List.mem_cons_self, ?_⟩
      rcases parent_of_mem_innermostFirst child _ entry first with rfl | below
      · exact .inl ⟨rfl, rfl⟩
      · exact .inr below
    · obtain ⟨other, listed, stands⟩ := parent_of_mem_childrenInnermostFirst rest site entry later
      exact ⟨other, List.mem_cons_of_mem _ listed, stands⟩

end

theorem mem_childrenInnermostFirst {site : Site} {slot : Slot} {children : List (Slot × Fragment)}
    {entry : Site × Fragment} (inside : (slot, g) ∈ children)
    (below : entry ∈ g.innermostFirst (site.below slot.segments)) : entry ∈ childrenInnermostFirst site children := by
  induction children with
  | nil => cases inside
  | cons first rest ih =>
    rw [childrenInnermostFirst]
    rcases List.mem_cons.mp inside with rfl | later
    · exact List.mem_append_left _ below
    · exact List.mem_append_right _ (ih later)

/-- Everything below a fragment is listed. -/
theorem exists_mem_innermostFirst (reaches : f.Reaches g) (outer : Site) : ∃ site, (site, g) ∈ f.innermostFirst outer := by
  induction reaches using Relation.ReflTransGen.head_induction_on generalizing outer with
  | refl =>
    obtain ⟨site, origin, schema, anchors, pattern, children⟩ := g
    rw [innermostFirst]
    exact ⟨outer, List.mem_append_right _ (List.mem_singleton_self _)⟩
  | @head f c has _ ih =>
    obtain ⟨slot, inside⟩ := has
    obtain ⟨own, origin, schema, anchors, pattern, children⟩ := f
    obtain ⟨site, listed⟩ := ih (own.below slot.segments)
    rw [innermostFirst]
    exact ⟨site, List.mem_append_left _ (mem_childrenInnermostFirst inside listed)⟩

/-- Every entry of a list whose resource it does not open has the fragment that does later in the list, or among
others. -/
def Followed (others : List (Site × Fragment)) : List (Site × Fragment) → Prop
  | [] => True
  | entry :: rest =>
    (entry.2.site.within ≠ .root →
      ∃ later ∈ rest ++ others, later.2.site.within = .root ∧ later.2.site.base = entry.2.site.base) ∧
      Followed others rest

theorem followed_append {others first second : List (Site × Fragment)} :
    Followed others (first ++ second) ↔ Followed (second ++ others) first ∧ Followed others second := by
  induction first with
  | nil => simp [Followed]
  | cons entry first ih => simp only [List.cons_append, Followed, ih, List.append_assoc, and_assoc]

theorem Followed.mono {entries : List (Site × Fragment)} (followed : Followed [] entries)
    (more : List (Site × Fragment)) : Followed more entries := by
  induction entries with
  | nil => trivial
  | cons entry rest ih =>
    obtain ⟨first, later⟩ := followed
    refine ⟨fun below => ?_, ih later⟩
    obtain ⟨opener, inside, opens⟩ := first below
    exact ⟨opener, List.mem_append_left _ (by simpa using inside), opens⟩

mutual

/-- In a list the fragment of a resource's root comes after all others of the resource. -/
theorem followed_innermostFirst : ∀ (f : Fragment) {draft : Draft} {source : Origin} {outer : Site} {schema : Json}
    (others : List (Site × Fragment)), Compiled draft source outer schema f →
    (f.site.within ≠ .root → ∃ later ∈ others, later.2.site.within = .root ∧ later.2.site.base = f.site.base) →
    Followed others (f.innermostFirst outer)
  | ⟨site, origin, schema, anchors, pattern, children⟩, draft, source, outer, schema', others, compiled, opened => by
    have below : ∀ entry ∈ children, ∃ sub, Compiled draft source (site.below entry.1.segments) sub entry.2 := by
      intro entry inside
      obtain ⟨members, sub, -, -, child⟩ := compiled.child inside
      exact ⟨sub, child⟩
    rw [innermostFirst, followed_append]
    refine ⟨followed_childrenInnermostFirst children _ below ?_, opened, trivial⟩
    · by_cases root : site.within = .root
      · exact ⟨_, List.mem_cons_self, root, rfl⟩
      · obtain ⟨later, inside, here⟩ := opened root
        exact ⟨later, List.mem_cons_of_mem _ inside, here⟩

theorem followed_childrenInnermostFirst : ∀ (children : List (Slot × Fragment)) {draft : Draft} {source : Origin}
    {site : Site} (others : List (Site × Fragment)),
    (∀ entry ∈ children, ∃ sub, Compiled draft source (site.below entry.1.segments) sub entry.2) →
    (∃ later ∈ others, later.2.site.within = .root ∧ later.2.site.base = site.base) →
    Followed others (childrenInnermostFirst site children)
  | [], _, _, _, _, _, _ => trivial
  | (slot, child) :: rest, draft, source, site, others, compiled, opened => by
    obtain ⟨first, more⟩ := List.forall_mem_cons.mp compiled
    obtain ⟨sub, made⟩ := first
    obtain ⟨later, inside, root, base⟩ := opened
    rw [childrenInnermostFirst, followed_append]
    refine ⟨followed_innermostFirst child _ made fun below => ?_, followed_childrenInnermostFirst rest _ more
      ⟨later, inside, root, base⟩⟩
    rcases made.site_eq with stays | ⟨opens, -⟩
    · exact ⟨later, List.mem_append_right _ inside, root, by rw [stays]; exact base⟩
    · exact absurd opens below

end

/-! ## Addresses -/

theorem Compiled.stays_or_opens (compiled : Compiled draft source outer schema f) :
    f.site = outer ∨ f.site.within = .root ∧ f.site.base ≠ outer.base :=
  compiled.site_eq.imp_right fun opens => ⟨opens.1, opens.2.1⟩

/-- A document stands at the root of its resource. -/
theorem Compiled.within_root {base : Uri} (compiled : Compiled draft source (.ofDocument base) schema f) :
    f.site.within = .root := by
  rcases compiled.site_eq with stays | ⟨opens, -⟩
  · rw [stays]
    rfl
  · exact opens

theorem Compiled.addressed_of_reaches (compiled : Compiled draft source outer schema f) (known : outer.Addressed)
    (reaches : f.Reaches g) : g.site.Addressed := by
  induction reaches using Relation.ReflTransGen.head_induction_on generalizing outer schema with
  | refl => exact compiled.addressed known
  | head has _ ih =>
    obtain ⟨slot, inside⟩ := has
    obtain ⟨members, sub, -, -, child⟩ := compiled.child inside
    have own := compiled.addressed known
    exact ih child ⟨own.escaped, own.whole⟩

end Fragment

namespace Index

variable {draft : Draft} {index : Index} {base : Uri} {source : Origin} {document : Json} {root f g n : Fragment}
  {openers others : List (String × Fragment)} {entries : List (Site × Fragment)} {address : String} {place : Pointer}

/-- A fragment stands at a place below the root of the resource at an address. -/
def StandsAt (openers : List (String × Fragment)) (address : String) (place : Pointer) (f : Fragment) : Prop :=
  ∃ opener entries, (address, opener) ∈ openers ∧ Fragment.Way opener entries f ∧
    Fragment.segmentsAlong entries = place.segments

theorem StandsAt.mono (stands : StandsAt openers address place f) (subset : openers ⊆ others) :
    StandsAt others address place f := by
  obtain ⟨opener, entries, listed, way, same⟩ := stands
  exact ⟨opener, entries, subset listed, way, same⟩

theorem standsAt_root (listed : (address, f) ∈ openers) : StandsAt openers address .root f :=
  ⟨f, [], listed, .here, rfl⟩

/-- A child stands below its parent. -/
theorem StandsAt.child {site : Site} {slot : Slot} (stands : StandsAt openers address site.within f)
    (inside : (slot, g) ∈ f.children) : StandsAt openers address (site.below slot.segments).within g := by
  obtain ⟨opener, entries, listed, way, same⟩ := stands
  refine ⟨opener, entries ++ [(slot, g)], listed, way.snoc inside, ?_⟩
  simp only [Fragment.segmentsAlong] at same
  simp [Fragment.segmentsAlong, same, Site.below, Pointer.joinAll]

/-- One fragment at most stands at a place. -/
theorem StandsAt.unique (distinct : (openers.map Prod.fst).Nodup)
    (formed : ∀ opener ∈ openers, opener.2.schema.WellFormed ∧
      ∃ source outer, Fragment.Compiled draft source outer opener.2.schema opener.2)
    (stands : StandsAt openers address place f) (stands' : StandsAt openers address place g) : f = g := by
  obtain ⟨opener, entries, listed, way, same⟩ := stands
  obtain ⟨opener', entries', listed', way', same'⟩ := stands'
  obtain rfl : opener = opener' := congrArg Prod.snd (List.inj_on_of_nodup_map distinct listed listed' rfl)
  obtain ⟨formed, source, outer, compiled⟩ := formed _ listed
  exact way.unique compiled formed way' (same.trans same'.symm)

/-! ## Documents -/

section
variable (compiled : Fragment.Compiled draft source (.ofDocument base) document root)
include compiled

theorem standsAt_of_reaches (reaches : root.Reaches g) :
    StandsAt (openersOf base root) g.site.base.text g.site.within g := by
  induction reaches with
  | refl =>
    rw [compiled.within_root]
    exact standsAt_root (mem_openersOf compiled .refl compiled.within_root)
  | @tail f c reaches has ih =>
    obtain ⟨slot, inside⟩ := has
    obtain ⟨site, -, made, -⟩ := compiled.listed reaches
    obtain ⟨members, sub, -, -, child⟩ := made.child inside
    rcases child.site_eq with stays | ⟨opens, -⟩
    · rw [stays]
      exact ih.child inside
    · rw [opens]
      exact standsAt_root (mem_openersOf compiled (.tail reaches ⟨slot, inside⟩) opens)

/-- What a document's list has was compiled for the site that it is listed with, and stands there. -/
theorem stands_of_mem_innermostFirst (addressed : (Site.ofDocument base).Addressed) {entry : Site × Fragment}
    (inside : entry ∈ root.innermostFirst (.ofDocument base)) :
    Fragment.Compiled draft source entry.1 entry.2.schema entry.2 ∧ entry.1.Addressed ∧
      StandsAt (openersOf base root) entry.1.base.text entry.1.within entry.2 := by
  rcases Fragment.parent_of_mem_innermostFirst root _ entry inside with rfl | ⟨g, slot, reaches, child, place⟩
  · exact ⟨compiled.schema_eq.symm ▸ compiled, addressed, standsAt_root List.mem_cons_self⟩
  · obtain ⟨site, -, made, -⟩ := compiled.listed reaches
    obtain ⟨members, sub, -, -, below⟩ := made.child child
    have own := compiled.addressed_of_reaches addressed reaches
    rw [place]
    exact ⟨below.schema_eq.symm ▸ below, ⟨own.escaped, own.whole⟩, (standsAt_of_reaches compiled reaches).child child⟩

/-- The roots of a document's resources are compiled from parts of the document. -/
theorem formed_of_mem_openersOf (formed : document.WellFormed) {opener : String × Fragment}
    (inside : opener ∈ openersOf base root) : opener.2.schema.WellFormed ∧
      ∃ source outer, Fragment.Compiled draft source outer opener.2.schema opener.2 := by
  have reaches : root.Reaches opener.2 := by
    rcases List.mem_cons.mp inside with rfl | opened
    · exact .refl
    · obtain ⟨entry, listed, rfl⟩ := List.mem_map.mp opened
      exact Fragment.reaches_of_mem_outermostFirst _ _ _ (List.mem_filter.mp listed).1
  obtain ⟨site, -, made, -⟩ := compiled.listed reaches
  exact ⟨formed.of_mem_parts (compiled.mem_parts reaches), source, site, made⟩

end

/-! ## Indexes -/

/-- The keys of entries, in the order in which they are added. -/
def keyed (entries : List (Site × Fragment)) : List (String × Fragment) :=
  entries.flatMap fun entry => (keysOf entry.1 entry.2).map (·, entry.2)

/-- Every fragment of a document that is added is in the index. -/
theorem mem_fragments_add_of_reaches (reaches : root.Reaches f) : f ∈ (index.add draft base root).fragments := by
  obtain ⟨site, listed⟩ := Fragment.exists_mem_innermostFirst reaches (.ofDocument base)
  have located : (site.location, f) ∈ (index.add draft base root).locations := by
    refine List.mem_append_left _ (List.mem_reverse.mpr (List.mem_flatMap.mpr ⟨_, listed, ?_⟩))
    exact List.mem_map_of_mem (List.mem_append_left _ List.mem_cons_self)
  exact List.mem_append_left _ (List.mem_append_left _ (List.mem_map_of_mem (f := Prod.snd) located))

/-- An index has the given entries and the given roots of resources. -/
structure Laid (draft : Draft) (index : Index) (entries : List (Site × Fragment))
    (openers : List (String × Fragment)) : Prop where
  locations : index.locations = (keyed entries).reverse
  addresses : index.documents.map Prod.fst = openers.map Prod.fst
  listed : ∀ f ∈ index.fragments, ∃ entry ∈ entries, entry.2 = f
  formed : ∀ opener ∈ openers, opener.2.schema.WellFormed ∧
    ∃ source outer, Fragment.Compiled draft source outer opener.2.schema opener.2
  stands : ∀ entry ∈ entries, StandsAt openers entry.1.base.text entry.1.within entry.2
  opened : ∀ entry ∈ entries, entry.2.site = entry.1 ∨ entry.2.site.within = .root ∧ entry.2.site.base ≠ entry.1.base
  roots : ∀ entry ∈ entries, entry.2.site.within = .root → (entry.2.site.base.text, entry.2) ∈ openers
  addressed : ∀ entry ∈ entries, entry.1.Addressed ∧ entry.2.site.Addressed
  followed : Fragment.Followed [] entries

theorem laid_empty : Laid draft .empty [] [] := by
  constructor <;> simp [empty, keyed, fragments, Fragment.Followed]

/-- A document is laid after those before it. -/
theorem Laid.add (laid : Laid draft index entries openers) (formed : document.WellFormed)
    (addressed : (Site.ofDocument base).Addressed)
    (compiled : Fragment.Compiled draft source (.ofDocument base) document root) :
    Laid draft (index.add draft base root) (entries ++ root.innermostFirst (.ofDocument base))
      ((openersOf base root).reverse ++ openers) := by
  have old : openers ⊆ (openersOf base root).reverse ++ openers := List.subset_append_right _ _
  have new : openersOf base root ⊆ (openersOf base root).reverse ++ openers :=
    fun _ inside => List.mem_append_left _ (List.mem_reverse.mpr inside)
  constructor
  case locations => simp [Index.add, laid.locations, keyed]
  case addresses => simp [Index.add, laid.addresses, openersOf, Function.comp_def]
  case listed =>
    intro f inside
    rcases exists_entry_of_mem_fragments_add inside with known | ⟨entry, listed, same⟩
    · obtain ⟨entry, listed, same⟩ := laid.listed f known
      exact ⟨entry, List.mem_append_left _ listed, same⟩
    · exact ⟨entry, List.mem_append_right _ listed, same⟩
  case formed =>
    intro opener inside
    rcases List.mem_append.mp inside with added | known
    · exact formed_of_mem_openersOf compiled formed (List.mem_reverse.mp added)
    · exact laid.formed opener known
  case stands =>
    intro entry inside
    rcases List.mem_append.mp inside with known | added
    · exact (laid.stands entry known).mono old
    · exact (stands_of_mem_innermostFirst compiled addressed added).2.2.mono new
  case opened =>
    intro entry inside
    rcases List.mem_append.mp inside with known | added
    · exact laid.opened entry known
    · exact (stands_of_mem_innermostFirst compiled addressed added).1.stays_or_opens
  case roots =>
    intro entry inside place
    rcases List.mem_append.mp inside with known | added
    · exact old (laid.roots entry known place)
    · exact new (mem_openersOf compiled (Fragment.reaches_of_mem_innermostFirst _ _ _ added) place)
  case addressed =>
    intro entry inside
    rcases List.mem_append.mp inside with known | added
    · exact laid.addressed entry known
    · obtain ⟨made, outer, -⟩ := stands_of_mem_innermostFirst compiled addressed added
      exact ⟨outer, made.addressed outer⟩
  case followed =>
    rw [Fragment.followed_append]
    exact ⟨laid.followed.mono _, Fragment.followed_innermostFirst root [] compiled (absurd compiled.within_root)⟩

end Index

/-- The index of a compiled schema has the fragments of its documents. -/
theorem Compiler.exists_laid {compiler : Compiler} {schema : Json} {node : Node}
    (compiled : compiler.compile schema = .ok node)
    (formed : ∀ document ∈ compiler.documents schema, document.WellFormed) :
    ∃ entries openers, node.context.index.Laid node.context.draft entries openers := by
  let holds (index : Index) : Prop := ∃ entries openers, index.Laid node.context.draft entries openers
  refine show holds node.context.index from index_of_documents compiled ⟨[], [], Index.laid_empty⟩ ?_
  rintro index position base document root listed addressed made ⟨entries, openers, laid⟩
  exact ⟨_, _, laid.add (formed document listed) addressed (Fragment.compile_eq_ok.mp made)⟩

end JsonSchema
