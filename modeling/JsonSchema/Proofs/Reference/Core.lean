import JsonSchema.Proofs.Attempt
import JsonSchema.Proofs.Compilation.Core
import JsonSchema.Proofs.Reference.Grounded

/-!
# References in the common core

A document of the core opens no resources and declares no names, so all its references lead to places in it.
No keyword stands beside a reference, so nothing is merged. Contexts for one such document differ in their
drafts only, and a fragment stands for the same one in all of them.
-/

namespace JsonSchema

namespace Json

open Fragment

variable {document : Json} {f root : Fragment} {draft : Draft}

/-! ## References -/

/-- Only `$ref` refers. -/
theorem Core.reference?_eq (core : document.Core) (inside : f ∈ document.coreFragments) (draft : Draft) :
    f.reference? draft = (f.schema.stringMember? "$ref").map (.static, ·) := by
  have absent (name : String) (other : name ∉ "$ref" :: coreKeywords) : f.schema.stringMember? name = none := by
    rw [stringMember?, core.member?_eq_none inside other]
    rfl
  have recursive := absent "$recursiveRef" (by decide)
  have dynamic := absent "$dynamicRef" (by decide)
  cases text : f.schema.stringMember? "$ref" with
  | none => simp [Fragment.reference?, ReferenceKeyword.name, text, recursive, dynamic]
  | some reference => simp [Fragment.reference?, Draft.hasReference, ReferenceKeyword.name, text]

/-- A fragment that refers consists of its reference. -/
theorem Core.refersWithin (core : document.Core) (inside : f ∈ document.coreFragments) {keyword : ReferenceKeyword}
    {reference : String} (refers : f.reference? draft = some (keyword, reference)) :
    keyword = .static ∧ ∃ members, f.schema = .obj members ∧ document.RefersWithin members reference := by
  rw [core.reference?_eq inside, Option.map_eq_some_iff] at refers
  obtain ⟨text, found, same⟩ := refers
  cases same
  refine ⟨rfl, ?_⟩
  obtain ⟨way, known, -⟩ := core.exists_site inside
  cases schema : f.schema with
  | obj members =>
    rw [schema] at known found
    obtain ⟨value, named, text⟩ := Option.bind_eq_some_iff.mp found
    refine ⟨members, rfl, ?_⟩
    rcases core.objects way members known with own | ⟨reference', refers⟩
    · have listed : "$ref" ∈ coreKeywords := own "$ref" (List.mem_map_of_mem (mem_of_lookup named))
      exact absurd listed (by decide)
    · obtain rfl : value = .str reference' := by
        rw [refers.alone, member?, List.lookup_cons_self] at named
        exact (Option.some.inj named).symm
      cases text
      exact refers
  | _ => simp [schema, stringMember?, member?] at found

end Json

/-! ## The index -/

namespace Fragment

mutual

/-- Where all fragments of a tree belong to one resource, they are listed in that resource. -/
theorem base_of_mem_outermostFirst : ∀ (f : Fragment) (outer : Site), (∀ g, f.Reaches g → g.site.base = outer.base) →
    ∀ entry ∈ f.outermostFirst outer, entry.1.base = outer.base
  | ⟨site, origin, schema, anchors, pattern, children⟩, outer, same, entry, inside => by
    rw [outermostFirst] at inside
    rcases List.mem_cons.mp inside with rfl | below
    · rfl
    · have own : site.base = outer.base := same _ .refl
      refine (base_of_mem_childrenOutermostFirst children site (fun child listed g reaches => ?_) entry below).trans own
      exact (same g (.head ⟨child.1, listed⟩ reaches)).trans own.symm

theorem base_of_mem_childrenOutermostFirst : ∀ (children : List (Slot × Fragment)) (site : Site),
    (∀ child ∈ children, ∀ g, child.2.Reaches g → g.site.base = site.base) →
    ∀ entry ∈ childrenOutermostFirst site children, entry.1.base = site.base
  | [], _, _, _, inside => nomatch inside
  | (slot, child) :: rest, site, same, entry, inside => by
    obtain ⟨own, others⟩ := List.forall_mem_cons.mp same
    rw [childrenOutermostFirst] at inside
    rcases List.mem_append.mp inside with first | later
    · exact base_of_mem_outermostFirst child (site.below slot.segments) own entry first
    · exact base_of_mem_childrenOutermostFirst rest site others entry later

end

end Fragment

/-- An index has fragments of one document of the core, and no other document at its address. -/
structure Index.CoreOf (index : Index) (document : Json) : Prop where
  locations : ∀ entry ∈ index.locations, entry.2 ∈ document.coreFragments
  documents : ∀ found, index.documents.lookup Uri.default.text = some found → found = document

namespace Json

open Fragment

variable {document : Json} {f root : Fragment} {draft : Draft} {source : Origin}

theorem Core.root_mem (compiled : Compiled draft source (.ofDocument .default) document root) :
    root ∈ document.coreFragments := ⟨draft, source, [], document, .root, compiled⟩

theorem Core.coreOf_add (core : document.Core) (compiled : Compiled draft source (.ofDocument .default) document root) :
    (Index.empty.add draft .default root).CoreOf document := by
  have known : root ∈ document.coreFragments := Core.root_mem compiled
  have base (g : Fragment) (inside : g ∈ document.coreFragments) : g.site.base = .default := by
    obtain ⟨way, -, site⟩ := core.exists_site inside
    rw [site]
  constructor
  · intro entry listed
    have indexed : entry.2 ∈ (Index.empty.add draft .default root).fragments :=
      List.mem_append_left _ (List.mem_append_left _ (List.mem_map_of_mem listed))
    rcases Index.mem_fragments_add indexed with old | reaches
    · cases old
    · exact core.reaches_mem known reaches
  · intro found listed
    have sole : Index.openersOf .default root = [(Uri.default.text, root)] := by
      rw [Index.openersOf, List.filter_eq_nil_iff.mpr, List.map_nil]
      rintro ⟨site, f⟩ inside
      have reaches := reaches_of_mem_outermostFirst _ _ _ inside
      have outer : site.base = .default := base_of_mem_outermostFirst root _
        (fun g reaches => base g (core.reaches_mem known reaches)) _ inside
      simp [Index.opensResource, outer, base f (core.reaches_mem known reaches)]
    simp only [Index.documents_add, sole, List.map_cons, List.map_nil, List.reverse_singleton, List.cons_append,
      List.lookup_cons_self, Option.some.injEq] at listed
    rw [← listed, compiled.schema_eq]

/-- No draft finds more in a document of the core than the others do. -/
theorem Core.add_eq (core : document.Core) (known : root ∈ document.coreFragments) (one other : Draft) :
    Index.empty.add one .default root = Index.empty.add other .default root := by
  have dynamic (draft : Draft) : (root.innermostFirst (.ofDocument .default)).filterMap
      (fun entry => (Index.dynamicKey? draft entry.2).map (·, entry.2)) = [] := by
    rw [List.filterMap_eq_nil_iff]
    rintro ⟨site, f⟩ inside
    have own := core.reaches_mem known (reaches_of_mem_innermostFirst _ _ _ inside)
    have absent : f.schema.member? "$dynamicAnchor" = none := core.member?_eq_none own (by decide)
    simp [Index.dynamicKey?, stringMember?, absent]
  have recursive (draft : Draft) : (root.innermostFirst (.ofDocument .default)).filterMap
      (fun entry => (Index.recursiveKey? draft entry.2).map (·, entry.2)) = [] := by
    rw [List.filterMap_eq_nil_iff]
    rintro ⟨site, f⟩ inside
    have own := core.reaches_mem known (reaches_of_mem_innermostFirst _ _ _ inside)
    have absent : f.schema.member? "$recursiveAnchor" = none := core.member?_eq_none own (by decide)
    simp [Index.recursiveKey?, keyword?, absent]
  simp only [Index.add, dynamic one, dynamic other, recursive one, recursive other]

end Json

/-! ## Resolution -/

namespace Context

open Json

/-- Two contexts for one document of the core. -/
structure Alike (document : Json) (one other : Context) : Prop where
  formats : one.formats = other.formats
  index : one.index = other.index
  own : one.index.CoreOf document

namespace Alike

variable {document sub : Json} {one other : Context} {way : List String} {identifier reference : String}
  {source f target : Fragment} {keyword : ReferenceKeyword} {seen : List String} {scope inner : Scope}

/-- The place of a subschema leads to one fragment, which is compiled from it. -/
theorem lookup?_eq (core : document.Core) (alike : Alike document one other)
    (pointer : Pointer.ofFragment identifier = .ok ⟨way⟩) (inside : document.Subschema way sub) :
    one.lookup? .default identifier = other.lookup? .default identifier := by
  have derived (schema : Json) (known : one.index.documents.lookup Uri.default.text = some schema) :
      ((⟨way⟩ : Pointer).resolve? schema).bind (fun sub =>
          (Fragment.derive one.draft ⟨.default, ⟨way⟩, ⟨way⟩⟩ sub).toOption) =
        ((⟨way⟩ : Pointer).resolve? schema).bind fun sub =>
          (Fragment.derive other.draft ⟨.default, ⟨way⟩, ⟨way⟩⟩ sub).toOption := by
    rw [alike.own.documents schema known, core.resolve? inside, Option.bind_some, Option.bind_some, Fragment.derive,
      Fragment.derive, core.compile_eq inside one.draft other.draft]
  unfold lookup? located?
  simp only [pointer, ← alike.index]
  cases known : one.index.documents.lookup Uri.default.text with
  | none => rfl
  | some schema =>
    have same := derived schema known
    simp only [Option.bind_eq_bind, Option.bind_some] at same ⊢
    rw [same]

theorem lookup?_mem (core : document.Core) (alike : Alike document one other)
    (pointer : Pointer.ofFragment identifier = .ok ⟨way⟩) (inside : document.Subschema way sub)
    (found : one.lookup? .default identifier = some target) : target ∈ document.coreFragments := by
  have indexed {key : String} (located : one.located? key = some target) : target ∈ document.coreFragments :=
    alike.own.locations _ (mem_of_lookup located)
  unfold lookup? at found
  simp only [pointer] at found
  split at found
  · exact indexed found
  · split at found
    · exact indexed found
    · split at found
      · rename_i located
        cases found
        exact indexed located
      · obtain ⟨schema, known, found⟩ := Option.bind_eq_some_iff.mp found
        obtain ⟨sub', resolved, found⟩ := Option.bind_eq_some_iff.mp found
        rw [alike.own.documents schema known, core.resolve? inside, Option.some.injEq] at resolved
        subst resolved
        exact ⟨_, _, way, sub, inside, Fragment.compile_eq_ok.mp (ok_of_toOption found)⟩

/-- A reference leads to one target, a fragment of the document. -/
theorem target?_eq (core : document.Core) (alike : Alike document one other) (inside : source ∈ document.coreFragments)
    (refers : source.reference? one.draft = some (keyword, reference)) (scope : Scope) :
    one.target? source keyword reference scope = other.target? source keyword reference scope ∧
      ∀ target, one.target? source keyword reference scope = some target → target ∈ document.coreFragments := by
  obtain ⟨rfl, members, -, refers⟩ := core.refersWithin inside refers
  obtain ⟨identifier, way, sub, split, pointer, known⟩ := refers.leads
  obtain ⟨place, -, site⟩ := core.exists_site inside
  have named (context : Context) : context.target? source .static reference scope =
      context.lookup? .default identifier := by
    simp only [target?, site, split, Option.bind_eq_bind, Option.bind_some]
    cases context.lookup? .default identifier <;> rfl
  rw [named, named]
  exact ⟨alike.lookup?_eq core pointer known, fun target found => alike.lookup?_mem core pointer known found⟩

/-- Nothing is merged into a target. -/
theorem follow?_eq (core : document.Core) (context : Context) (inside : source ∈ document.coreFragments)
    {draft : Draft} (refers : source.reference? draft = some (keyword, reference)) (target : Fragment) :
    context.follow? source target = some target := by
  obtain ⟨-, members, schema, refers⟩ := core.refersWithin inside refers
  have alone : hasSiblings source.schema = false := by
    rw [schema, refers.alone]
    rfl
  rw [follow?, alone, Bool.and_false, if_neg Bool.false_ne_true]

theorem reference?_eq (core : document.Core) (inside : f ∈ document.coreFragments) (one other : Draft) :
    f.reference? one = f.reference? other := by
  rw [core.reference?_eq inside, core.reference?_eq inside]

theorem followChain_eq (core : document.Core) (alike : Alike document one other) (fuel : Nat) (seen : List String)
    (inside : f ∈ document.coreFragments) (scope : Scope) :
    one.followChain fuel seen f scope = other.followChain fuel seen f scope := by
  induction fuel generalizing seen f scope with
  | zero =>
    unfold followChain
    rw [← reference?_eq core inside one.draft other.draft]
    cases refers : f.reference? one.draft with
    | none => rfl
    | some reference =>
      obtain ⟨keyword, reference⟩ := reference
      simp only [(alike.target?_eq core inside refers scope).1]
  | succ fuel ih =>
    unfold followChain
    rw [← reference?_eq core inside one.draft other.draft]
    cases refers : f.reference? one.draft with
    | none => rfl
    | some reference =>
      obtain ⟨keyword, reference⟩ := reference
      obtain ⟨same, stays⟩ := alike.target?_eq core inside refers scope
      simp only [← same]
      cases found : one.target? f keyword reference scope with
      | none => rfl
      | some target =>
        simp only [follow?_eq core one inside refers, follow?_eq core other inside refers,
          ih (target.location :: seen) (stays target found)]

/-- A fragment stands for the same one for all drafts. -/
theorem resolve_eq (core : document.Core) (alike : Alike document one other) (inside : f ∈ document.coreFragments)
    (scope : Scope) : one.resolve f scope = other.resolve f scope := by
  unfold resolve
  rw [← reference?_eq core inside one.draft other.draft, ← alike.index, alike.followChain_eq core _ _ inside]

theorem chain_mem (core : document.Core) (alike : Alike document one other)
    (chain : Chain one seen f scope target inner) (inside : f ∈ document.coreFragments) :
    target ∈ document.coreFragments := by
  induction chain with
  | ended => exact inside
  | @hop _ current next _ _ _ _ _ _ refers found _ followed _ ih =>
    rw [follow?_eq core one inside refers] at followed
    cases followed
    exact ih ((alike.target?_eq core inside refers _).2 _ found)

/-- What a fragment stands for is a fragment of the document. -/
theorem settle_mem (core : document.Core) (alike : Alike document one other) (inside : f ∈ document.coreFragments)
    (scope : Scope) : one.settle f scope ∈ document.coreFragments := by
  rcases settle_eq_or_chain f scope with same | ⟨inner, chain⟩
  · rw [same]
    exact inside
  · exact alike.chain_mem core chain inside

end Alike
end Context
end JsonSchema
