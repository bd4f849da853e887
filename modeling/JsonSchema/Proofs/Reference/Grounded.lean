import JsonSchema.Proofs.Compilation.Standing
import JsonSchema.Proofs.Reference.Indexed
import JsonSchema.Proofs.Uri.Escaped

/-!
# Fragments in their resources

Where nothing is merged, every fragment that references and subschemas lead to stands in a resource, at
the place that its location names. If no two resources share an address, fragments of one location are
compiled from one schema.
-/

namespace JsonSchema

/-! ## Locations -/

/-- A text is cut at its first number sign in one way. -/
theorem Unmarked.append_inj {cs ds rest rest' : List Char} (clean : Unmarked cs) (clean' : Unmarked ds)
    (same : cs ++ '#' :: rest = ds ++ '#' :: rest') : cs = ds ∧ rest = rest' := by
  have before {cs rest : List Char} (clean : Unmarked cs) : (cs ++ '#' :: rest).takeWhile (· != '#') = cs := by
    rw [List.takeWhile_append_of_pos fun c inside => ?_]
    · simp
    · simpa using fun marked : c = '#' => clean (marked ▸ inside)
  have first := congrArg (List.takeWhile (· != '#')) same
  rw [before clean, before clean'] at first
  subst first
  exact ⟨rfl, (List.cons.inj (List.append_cancel_left same)).2⟩

theorem Pointer.path_injective : Function.Injective path := by
  intro p q same
  have text : p.text = q.text := by
    have chars : p.pathChars = q.pathChars := String.ofList_inj.mp same
    rw [Pointer.text, Pointer.text, chars]
  exact Except.ok.inj ((parse_text p).symm.trans (text ▸ parse_text q))

/-- The location tells the address of the resource and the place in it. -/
theorem Site.location_inj {a b : Site} (known : a.Addressed) (known' : b.Addressed) (same : a.location = b.location) :
    a.base.text = b.base.text ∧ a.within = b.within := by
  have chars := congrArg String.toList same
  simp only [location, String.toList_append, List.append_assoc] at chars
  obtain ⟨address, place⟩ := (known.escaped.unmarked_text known.whole).append_inj (known'.escaped.unmarked_text known'.whole)
    (show _ ++ '#' :: _ = _ ++ '#' :: _ from chars)
  exact ⟨String.toList_inj.mp address, Pointer.path_injective (String.toList_inj.mp place)⟩

/-- A fragment belongs to the resource that its schema is compiled in, or to one at an address joined to it. -/
theorem Fragment.Compiled.addressed {draft : Draft} {source : Origin} {outer : Site} {schema : Json} {f : Fragment}
    (compiled : Compiled draft source outer schema f) (known : outer.Addressed) : f.site.Addressed := by
  rcases compiled.site_eq with stays | ⟨-, -, id, address, joined, base⟩
  · exact stays ▸ known
  · exact ⟨base ▸ (Uri.escaped_of_join known.escaped joined).withoutFragment, by rw [base]; rfl⟩

/-! ## Documents without merges -/

/-- A schema in whose place none is put together from others: no reference stands beside keywords that count,
nothing is asked of unevaluated items, and the schemas of items stand where their keywords say. -/
structure Json.Unmerged (draft : Draft) (schema : Json) : Prop where
  alone : ∀ keyword reference, draft.hasReference keyword = true →
    schema.stringMember? keyword.name = some reference → hasSiblings schema = false
  evaluated : schema.member? "unevaluatedItems" = none
  tuple : ∀ value, schema.member? "prefixItems" = some value → ∃ items, value = .arr items

/-- A document as it is kept. Where the draft merges the keywords beside references, none in it is merged. -/
structure Json.Unmixed (draft : Draft) (document : Json) : Prop where
  formed : document.WellFormed
  unmerged : draft.mergesSiblings = true → document.Throughout (Unmerged draft)

theorem Json.Unmixed.of_mem_parts {draft : Draft} {document part : Json} (unmixed : document.Unmixed draft)
    (inside : part ∈ document.parts) : part.Unmixed draft :=
  ⟨unmixed.formed.of_mem_parts inside, fun merges => (unmixed.unmerged merges).of_mem_parts inside⟩

theorem merges_of_hasPrefixItems {draft : Draft} (newer : draft.hasPrefixItems = true) : draft.mergesSiblings = true := by
  revert newer
  cases draft <;> decide

theorem Json.Unmixed.hasTuple {draft : Draft} {members : Members} (unmixed : (Json.obj members).Unmixed draft) :
    members.HasTuple draft := fun newer =>
  (unmixed.unmerged (merges_of_hasPrefixItems newer)).self.tuple

/-! ## Resources -/

namespace Context

/-- A document stands at an address: it was compiled there, or it is the root of a resource below a fragment
that references can name. -/
inductive Resource (context : Context) : String → Json → Prop where
  | indexed {address : String} {document : Json} (listed : (address, document) ∈ context.index.documents) :
      Resource context address document
  | opened {resource : Uri} {identifier : String} {f g : Fragment} (named : context.lookup? resource identifier = some f)
      (reaches : f.Reaches g) (root : g.site.within = .root) : Resource context g.site.base.text g.schema

/-- No two documents stand at one address. -/
def Distinct (context : Context) : Prop :=
  ∀ address document other, context.Resource address document → context.Resource address other → document = other

/-- A schema stands in a resource at the place that a site names. -/
def Stands (context : Context) (site : Site) (schema : Json) : Prop :=
  ∃ document, context.Resource site.base.text document ∧ site.within.resolve? document = some schema

/-- A fragment is compiled from what stands at its location, and all resources that it opens are known. -/
structure Grounded (context : Context) (f : Fragment) : Prop where
  compiled : ∃ source outer, Fragment.Compiled context.draft source outer f.schema f
  unmixed : f.schema.Unmixed context.draft
  addressed : f.site.Addressed
  stands : context.Stands f.site f.schema
  opens : ∀ g, f.Reaches g → g.site.within = .root → context.Resource g.site.base.text g.schema

variable {context : Context} {f g : Fragment}

/-- Fragments of one location are compiled from one schema. -/
theorem Grounded.schema_eq (distinct : context.Distinct) (known : context.Grounded f) (known' : context.Grounded g)
    (same : f.location = g.location) : f.schema = g.schema := by
  obtain ⟨address, place⟩ := Site.location_inj known.addressed known'.addressed same
  obtain ⟨document, resource, found⟩ := known.stands
  obtain ⟨document', resource', found'⟩ := known'.stands
  rw [distinct _ _ _ resource (address ▸ resource'), place] at found
  exact Option.some.inj (found.symm.trans found')

/-- A schema that stands at a site is grounded when it is compiled there. -/
theorem grounded_of_compiled {source : Origin} {outer : Site} {schema : Json}
    (compiled : Fragment.Compiled context.draft source outer schema f) (unmixed : schema.Unmixed context.draft)
    (addressed : outer.Addressed) (stands : context.Stands outer schema)
    (opens : ∀ g, f.Reaches g → g.site.within = .root → context.Resource g.site.base.text g.schema) :
    context.Grounded f := by
  have same := compiled.schema_eq
  refine ⟨⟨source, outer, same ▸ compiled⟩, same ▸ unmixed, compiled.addressed addressed, ?_, opens⟩
  rcases compiled.site_eq with stays | ⟨root, -⟩
  · rw [stays, same]
    exact stands
  · exact ⟨f.schema, opens f .refl root, by rw [root]; rfl⟩

/-- The children of a grounded fragment are grounded. -/
theorem Grounded.child (known : context.Grounded f) (has : f.HasChild g) : context.Grounded g := by
  obtain ⟨source, outer, compiled⟩ := known.compiled
  obtain ⟨slot, inside⟩ := has
  obtain ⟨members, sub, object, step, child⟩ := compiled.child inside
  have unmixed := object ▸ known.unmixed
  have fills := fills_segments unmixed.hasTuple.itemsInPlace step
  refine grounded_of_compiled child (unmixed.of_mem_parts ⟨_, fills.place⟩)
    ⟨known.addressed.escaped, known.addressed.whole⟩ ?_
    fun g reaches => known.opens g (.head ⟨slot, inside⟩ reaches)
  obtain ⟨document, resource, found⟩ := known.stands
  exact ⟨document, resource, fills.resolve? unmixed.formed (object ▸ found)⟩

theorem Grounded.reaches (known : context.Grounded f) (reaches : f.Reaches g) : context.Grounded g := by
  induction reaches with
  | refl => exact known
  | tail _ has ih => exact ih.child has

end Context

/-! ## Indexed documents -/

namespace Index

/-- A compiled document is in an index, with all resources that it opens. -/
structure Holds (draft : Draft) (index : Index) (root : Fragment) : Prop where
  compiled : ∃ source base, Fragment.Compiled draft source (.ofDocument base) root.schema root ∧
    (Site.ofDocument base).Addressed ∧ (base.text, root.schema) ∈ index.documents
  opened : ∀ g, root.Reaches g → g.site.within = .root → (g.site.base.text, g.schema) ∈ index.documents

/-- An index is made of some documents. -/
structure MadeOf (draft : Draft) (sources : List Json) (index : Index) : Prop where
  fragments : ∀ f ∈ index.fragments, ∃ root, Holds draft index root ∧ root.schema ∈ sources ∧ root.Reaches f
  documents : ∀ entry ∈ index.documents, ∃ document ∈ sources, entry.2 ∈ document.parts

variable {draft : Draft} {sources : List Json} {index more : Index} {base : Uri} {root : Fragment} {source : Origin}
  {schema : Json}

theorem madeOf_empty : MadeOf draft sources .empty := ⟨fun _ inside => (nomatch inside), fun _ inside => (nomatch inside)⟩

theorem Holds.mono (holds : Holds draft index root) (subset : index.documents ⊆ more.documents) :
    Holds draft more root := by
  obtain ⟨source, base, compiled, addressed, listed⟩ := holds.compiled
  exact ⟨⟨source, base, compiled, addressed, subset listed⟩, fun g reaches place => subset (holds.opened g reaches place)⟩

theorem documents_subset_add : index.documents ⊆ (index.add draft base root).documents :=
  List.subset_append_right _ _

/-- The addresses of a document and of the resources opened in it, each with the fragment at its root. -/
def openersOf (base : Uri) (root : Fragment) : List (String × Fragment) :=
  (base.text, root) :: ((root.outermostFirst (.ofDocument base)).filter fun entry => opensResource entry.1 entry.2).map
    fun entry => (entry.2.site.base.text, entry.2)

/-- The root of every resource in a document is known. -/
theorem mem_openersOf (compiled : Fragment.Compiled draft source (.ofDocument base) schema root)
    {g : Fragment} (reaches : root.Reaches g) (place : g.site.within = .root) :
    (g.site.base.text, g) ∈ openersOf base root := by
  obtain ⟨site, listed, made, situated⟩ := compiled.listed reaches
  rcases made.site_eq with stays | ⟨-, other, -⟩
  · rcases situated with ⟨rfl, rfl⟩ | proper
    · rw [stays]
      exact List.mem_cons_self
    · exact absurd (stays ▸ place) proper
  · have opens : (site, g) ∈ (root.outermostFirst (.ofDocument base)).filter fun entry => opensResource entry.1 entry.2 :=
      List.mem_filter.mpr ⟨listed, by simpa [opensResource] using other.symm⟩
    exact List.mem_cons_of_mem _ (List.mem_map_of_mem opens)

/-- Adding a document adds the JSON of all its resources. -/
theorem documents_add : (index.add draft base root).documents =
    ((openersOf base root).map fun opener => (opener.1, opener.2.schema)).reverse ++ index.documents := by
  simp [add, openersOf, Function.comp_def]

/-- A document that is added is held. -/
theorem holds_add (compiled : Fragment.Compiled draft source (.ofDocument base) schema root)
    (addressed : (Site.ofDocument base).Addressed) : Holds draft (index.add draft base root) root := by
  have known {opener : String × Fragment} (inside : opener ∈ openersOf base root) :
      (opener.1, opener.2.schema) ∈ (index.add draft base root).documents := by
    rw [documents_add]
    exact List.mem_append_left _ (List.mem_reverse.mpr (List.mem_map_of_mem inside))
  refine ⟨⟨source, base, compiled.schema_eq ▸ compiled, addressed, known List.mem_cons_self⟩, fun g reaches place => ?_⟩
  exact known (mem_openersOf compiled reaches place)

/-- An index stays made of documents when one of them is added. -/
theorem MadeOf.add (known : MadeOf draft sources index) (listed : schema ∈ sources)
    (compiled : Fragment.Compiled draft source (.ofDocument base) schema root)
    (addressed : (Site.ofDocument base).Addressed) :
    MadeOf draft sources (index.add draft base root) := by
  constructor
  · intro f inside
    rcases mem_fragments_add inside with old | reaches
    · obtain ⟨root', holds, listed, reaches⟩ := known.fragments f old
      exact ⟨root', holds.mono documents_subset_add, listed, reaches⟩
    · exact ⟨root, holds_add compiled addressed, compiled.schema_eq.symm ▸ listed, reaches⟩
  · intro entry inside
    simp only [Index.add, List.mem_append, List.mem_reverse, List.mem_cons, List.mem_map, List.mem_filter] at inside
    rcases inside with (rfl | ⟨⟨site, g⟩, ⟨opened, -⟩, rfl⟩) | old
    · exact ⟨schema, listed, compiled.schema_eq.symm ▸ Json.self_mem_parts schema⟩
    · exact ⟨schema, listed, compiled.mem_parts (Fragment.reaches_of_mem_outermostFirst _ _ _ opened)⟩
    · exact known.documents entry old

end Index

namespace Compiler

variable {draft : Draft} {sources : List Json} {index next : Index} {position : Nat} {base : Uri} {schema : Json}
  {root : Fragment}

/-- The index of a compiled schema is made of its documents, and holds its root. -/
theorem madeOf_of_compile {compiler : Compiler} {node : Node} (compiled : compiler.compile schema = .ok node) :
    node.context.index.MadeOf node.context.draft (compiler.documents schema) ∧
      node.context.index.Holds node.context.draft node.fragment := by
  constructor
  · refine index_of_documents compiled Index.madeOf_empty fun index position base document root listed addressed made known => ?_
    exact known.add listed (Fragment.compile_eq_ok.mp made) addressed
  · unfold compile at compiled
    obtain ⟨⟨index, position⟩, -, compiled⟩ := Fragment.bind_eq_ok.mp compiled
    obtain ⟨⟨index', root⟩, document, same⟩ := Fragment.bind_eq_ok.mp compiled
    cases same
    obtain ⟨_, made, same⟩ := Fragment.bind_eq_ok.mp document
    cases same
    exact Index.holds_add (Fragment.compile_eq_ok.mp made) addressed_default

end Compiler

/-! ## What references lead to -/

namespace Context

variable {context : Context} {f g final : Fragment} {scope inner : Scope} {sources : List Json}

/-- A document that is held is grounded. -/
theorem grounded_of_holds (holds : context.index.Holds context.draft f) (unmixed : f.schema.Unmixed context.draft) :
    context.Grounded f := by
  obtain ⟨source, base, compiled, addressed, listed⟩ := holds.compiled
  exact grounded_of_compiled compiled unmixed addressed ⟨_, .indexed listed, rfl⟩
    fun g reaches root => .indexed (holds.opened g reaches root)

/-- Targets of the references of grounded fragments are grounded. -/
theorem Grounded.target (made : context.index.MadeOf context.draft sources)
    (unmixed : ∀ document ∈ sources, document.Unmixed context.draft) (known : context.Grounded f)
    {keyword : ReferenceKeyword} {reference : String} (found : context.target? f keyword reference scope = some g) :
    context.Grounded g := by
  have indexed (inside : g ∈ context.index.fragments) : context.Grounded g := by
    obtain ⟨root, holds, listed, reaches⟩ := made.fragments g inside
    exact (grounded_of_holds holds (unmixed _ listed)).reaches reaches
  obtain ⟨resource, identifier, split, named | inside⟩ := target?_eq_some found
  · rcases lookup?_eq_some named with inside | ⟨pointer, document, schema, listed, resolved, derived⟩
    · exact indexed inside
    · have listed := mem_of_lookup listed
      obtain ⟨whole, source, part⟩ := made.documents _ listed
      have addressed : resource.Escaped ∧ resource.fragment = none := by
        unfold splitReference at split
        split at split
        · rename_i address joined
          cases split
          exact ⟨(Uri.escaped_of_join known.addressed.escaped joined).withoutFragment, rfl⟩
        · cases split
      refine grounded_of_compiled (Fragment.compile_eq_ok.mp derived) ?_ ⟨addressed.1, addressed.2⟩
        ⟨document, .indexed listed, resolved⟩ fun g reaches root => .opened named reaches root
      exact (unmixed whole source).of_mem_parts (Json.parts_trans part (Json.mem_parts_of_resolve? resolved))
  · exact indexed inside

/-- What takes the place of a grounded fragment is the target of its reference. -/
theorem Grounded.follow? (known : context.Grounded f) {keyword : ReferenceKeyword} {reference : String}
    (refers : f.reference? context.draft = some (keyword, reference)) {next : Fragment}
    (followed : context.follow? f g = some next) : next = g := by
  obtain ⟨other, -, made⟩ := List.exists_of_findSome?_eq_some refers
  have alone : (context.draft.mergesSiblings && hasSiblings f.schema) = false := by
    cases merges : context.draft.mergesSiblings with
    | false => rfl
    | true =>
      split at made
      · rename_i known'
        obtain ⟨text, stands, -⟩ := Option.map_eq_some_iff.mp made
        exact ((known.unmixed.unmerged merges).self).alone other text known' stands
      · cases made
  rw [Context.follow?, alone] at followed
  exact (Option.some.inj followed).symm

theorem Grounded.chain (made : context.index.MadeOf context.draft sources)
    (unmixed : ∀ document ∈ sources, document.Unmixed context.draft) {seen : List String}
    (chain : Chain context seen f scope final inner) (known : context.Grounded f) : context.Grounded final := by
  induction chain with
  | ended => exact known
  | hop refers found _ followed _ ih =>
    rw [known.follow? refers followed] at ih
    exact ih (known.target made unmixed found)

/-- What a grounded fragment stands for is grounded. -/
theorem Grounded.settle (made : context.index.MadeOf context.draft sources)
    (unmixed : ∀ document ∈ sources, document.Unmixed context.draft) (known : context.Grounded f) (scope : Scope) :
    context.Grounded (context.settle f scope) := by
  rcases settle_eq_or_chain f scope with same | ⟨inner, chain⟩
  · rw [same]
    exact known
  · exact known.chain made unmixed chain

/-! ## Schemas without identifiers -/

/-- Where no schema has an identifier, no resources are opened but the documents themselves. -/
theorem Resource.listed {address : String} {document : Json} (made : context.index.MadeOf context.draft sources)
    (unidentified : ∀ source ∈ sources, source.Throughout fun part => part.member? context.draft.idKeyword = none)
    (resource : context.Resource address document) : (address, document) ∈ context.index.documents := by
  cases resource with
  | indexed listed => exact listed
  | @opened resource identifier f g named reaches root =>
    rcases lookup?_eq_some named with inside | ⟨pointer, document, schema, known, resolved, derived⟩
    · obtain ⟨whole, holds, -, below⟩ := made.fragments f inside
      exact holds.opened g (below.trans reaches) root
    · have listed := mem_of_lookup known
      obtain ⟨source, from', part⟩ := made.documents _ listed
      have compiled := Fragment.compile_eq_ok.mp derived
      obtain ⟨site, -, situated, place⟩ := compiled.listed reaches
      have plain : g.schema.member? context.draft.idKeyword = none :=
        unidentified source from' _
          (Json.parts_trans part (Json.parts_trans (Json.mem_parts_of_resolve? resolved) (compiled.mem_parts reaches)))
      rw [situated.site_eq_of_unidentified plain] at root ⊢
      rcases place with ⟨rfl, rfl⟩ | proper
      · have top : pointer = .root := root
        rw [top] at resolved
        rw [compiled.schema_eq, ← Option.some.inj resolved]
        exact listed
      · exact absurd root proper

/-- Documents without identifiers stand at addresses of their own if no two of them are compiled for one. -/
theorem distinct_of_unidentified (made : context.index.MadeOf context.draft sources)
    (unidentified : ∀ source ∈ sources, source.Throughout fun part => part.member? context.draft.idKeyword = none)
    (apart : (context.index.documents.map Prod.fst).Nodup) : context.Distinct := by
  intro address document other resource resource'
  have found := lookup_of_nodup apart (resource.listed made unidentified)
  rw [lookup_of_nodup apart (resource'.listed made unidentified)] at found
  exact (Option.some.inj found).symm

end Context
end JsonSchema
