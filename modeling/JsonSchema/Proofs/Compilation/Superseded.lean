import JsonSchema.Proofs.Compilation.Documents
import JsonSchema.Proofs.Compilation.Unidentified
import JsonSchema.Proofs.Recursion.Displacement
import JsonSchema.Proofs.Recursion.Termination

/-!
# Remote documents registered again

A document that is registered again takes the place of the earlier one in the table of documents, and the
fragments of the earlier one give way where the later one has a fragment. At all other places they are still
found. If the later document has a schema wherever the earlier one has, and neither of them declares names,
nothing of the earlier one is left: a schema checks as if it had never been registered.
-/

namespace JsonSchema

/-! ## Documents without names -/

/-- An object declares neither an identifier nor an anchor. -/
structure Members.Nameless (draft : Draft) (members : Members) : Prop where
  identifier : (Json.obj members).stringMember? draft.idKeyword = none
  anchors : declaredAnchors draft members = []
  recursive : draft.hasRecursiveRef = true → ((Json.obj members).member? "$recursiveAnchor").any (·.isBool true) = false

/-- No schema in a schema declares an identifier or an anchor, down to the last subschema. -/
inductive Json.Nameless (draft : Draft) : Json → Prop where
  | bool (b : Bool) : Nameless draft (.bool b)
  | obj {members : Members} (own : members.Nameless draft)
      (below : ∀ entry ∈ subschemas draft members, Nameless draft entry.2) : Nameless draft (.obj members)

/-- A way leads from a schema to a subschema, or stays. -/
inductive Json.HasSubschema (draft : Draft) : Json → List String → Prop where
  | here (schema : Json) : HasSubschema draft schema []
  | inner {members : Members} {slot : Slot} {sub : Json} {way : List String}
      (inside : (slot, sub) ∈ subschemas draft members) (deeper : HasSubschema draft sub way) :
      HasSubschema draft (.obj members) (slot.segments ++ way)

instance (draft : Draft) (members : Members) : Decidable (members.Nameless draft) :=
  decidable_of_iff ((Json.obj members).stringMember? draft.idKeyword = none ∧ declaredAnchors draft members = [] ∧
      (draft.hasRecursiveRef = true → ((Json.obj members).member? "$recursiveAnchor").any (·.isBool true) = false))
    ⟨fun ⟨identifier, anchors, recursive⟩ => ⟨identifier, anchors, recursive⟩,
      fun own => ⟨own.identifier, own.anchors, own.recursive⟩⟩

/-- Whether no schema in a schema declares a name, if its subschemas are nested no deeper than a number. -/
def Json.isNameless (draft : Draft) : Nat → Json → Bool
  | _, .bool _ => true
  | depth + 1, .obj members =>
    decide (Members.Nameless draft members) && (subschemas draft members).all fun entry => entry.2.isNameless draft depth
  | _, _ => false

theorem Json.nameless_of_isNameless {draft : Draft} {depth : Nat} {schema : Json}
    (is : schema.isNameless draft depth = true) : schema.Nameless draft := by
  induction depth generalizing schema with
  | zero =>
    cases schema with
    | bool b => exact .bool b
    | _ => cases is
  | succ depth ih =>
    cases schema with
    | bool b => exact .bool b
    | obj members =>
      simp only [isNameless, Bool.and_eq_true, List.all_eq_true, decide_eq_true_eq] at is
      exact .obj is.1 fun entry inside => ih (is.2 entry inside)
    | _ => cases is

/-- The ways to the subschemas of a schema that are nested no deeper than a number. -/
def Json.subschemaWays (draft : Draft) : Nat → Json → List (List String)
  | depth + 1, .obj members =>
    [] :: (subschemas draft members).flatMap fun entry =>
      (entry.2.subschemaWays draft depth).map (entry.1.segments ++ ·)
  | _, _ => [[]]

theorem Json.hasSubschema_of_mem_subschemaWays {draft : Draft} {depth : Nat} {schema : Json} {way : List String}
    (inside : way ∈ schema.subschemaWays draft depth) : schema.HasSubschema draft way := by
  induction depth generalizing schema way with
  | zero =>
    rw [List.mem_singleton.mp inside]
    exact .here schema
  | succ depth ih =>
    cases schema with
    | obj members =>
      rcases List.mem_cons.mp inside with rfl | deeper
      · exact .here _
      · obtain ⟨⟨slot, sub⟩, listed, found⟩ := List.mem_flatMap.mp deeper
        obtain ⟨rest, below, rfl⟩ := List.mem_map.mp found
        exact .inner listed (ih below)
    | _ =>
      rw [List.mem_singleton.mp inside]
      exact .here _

theorem Json.HasSubschema.mem_subschemaWays {draft : Draft} {depth : Nat} {schema : Json} {way : List String}
    (has : schema.HasSubschema draft way) (fits : schema.depth ≤ depth) : way ∈ schema.subschemaWays draft depth := by
  induction has generalizing depth with
  | here schema =>
    cases depth with
    | zero => exact List.mem_singleton_self _
    | succ depth => cases schema <;> exact List.mem_cons_self
  | @inner members slot sub way inside deeper ih =>
    cases depth with
    | zero => simp [Json.depth] at fits
    | succ depth =>
      have shallower := Fragment.depth_lt_of_steps (mem_subschemas.mp inside)
      have below := ih (Nat.le_of_lt_succ (Nat.lt_of_lt_of_le shallower fits))
      exact List.mem_cons_of_mem _ (List.mem_flatMap.mpr ⟨_, inside, List.mem_map_of_mem below⟩)

theorem Site.below_append (site : Site) (way more : List String) :
    site.below (way ++ more) = (site.below way).below more := by
  simp [below, Pointer.joinAll]

theorem Site.below_nil (site : Site) : site.below [] = site := by simp [below, Pointer.joinAll]

theorem Index.dynamicKey?_of_anchors {draft : Draft} {f : Fragment} {members : Members}
    (schema : f.schema = .obj members) (anchors : declaredAnchors draft members = []) : dynamicKey? draft f = none := by
  unfold dynamicKey?
  split
  · rename_i dynamic
    have none : (members.lookup "$dynamicAnchor").bind Json.string? = none := by
      simpa [declaredAnchors, dynamic] using (List.append_eq_nil_iff.mp anchors).2
    rw [schema, Json.stringMember?, Json.member?]
    exact congrArg _ none
  · rfl

namespace Fragment

variable {draft : Draft} {source : Origin} {outer : Site} {schema : Json} {f : Fragment} {base : Uri}

theorem exists_of_mem_childrenInnermostFirst {site : Site} {children : List (Slot × Fragment)} {entry : Site × Fragment}
    (inside : entry ∈ childrenInnermostFirst site children) :
    ∃ child ∈ children, entry ∈ child.2.innermostFirst (site.below child.1.segments) := by
  induction children with
  | nil => cases inside
  | cons first rest ih =>
    rw [childrenInnermostFirst] at inside
    rcases List.mem_append.mp inside with own | later
    · exact ⟨first, List.mem_cons_self, own⟩
    · obtain ⟨child, listed, below⟩ := ih later
      exact ⟨child, List.mem_cons_of_mem _ listed, below⟩

theorem mem_innermostFirst {entry : Site × Fragment} : entry ∈ f.innermostFirst outer ↔
    entry = (outer, f) ∨ ∃ child ∈ f.children, entry ∈ child.2.innermostFirst (f.site.below child.1.segments) := by
  obtain ⟨site, origin, schema, anchors, pattern, children⟩ := f
  rw [innermostFirst, List.mem_append, List.mem_singleton, or_comm]
  refine or_congr_right ⟨exists_of_mem_childrenInnermostFirst, ?_⟩
  rintro ⟨⟨slot, child⟩, listed, below⟩
  exact mem_childrenInnermostFirst listed below

/-- A fragment has no key but the one of its place. -/
structure Unnamed (draft : Draft) (outer : Site) (f : Fragment) : Prop where
  site : f.site = outer
  keys : Index.keysOf outer f = [outer.location]
  dynamic : Index.dynamicKey? draft f = none
  recursive : Index.recursiveKey? draft f = none

theorem Compiled.unnamed (compiled : Compiled draft source outer schema f) (nameless : schema.Nameless draft) :
    f.Unnamed draft outer := by
  cases nameless with
  | bool b =>
    rw [compiled_bool.mp compiled]
    constructor
    case recursive => simp [Index.recursiveKey?, keyword?, Json.member?]
    all_goals simp [Index.keysOf, Index.opensResource, Index.dynamicKey?, Json.stringMember?, Json.member?]
  | obj own below =>
    have made := compiled_obj.mp compiled
    obtain ⟨names, identified, anchors⟩ := made.identified
    rw [identify_unidentified own.identifier] at identified
    obtain ⟨site, rfl⟩ := Prod.mk.inj (Except.ok.inj identified)
    rw [own.anchors] at anchors
    refine ⟨site.symm, ?_, Index.dynamicKey?_of_anchors made.schema own.anchors, ?_⟩
    · simp [Index.keysOf, Index.opensResource, ← site, anchors]
    · rw [Index.recursiveKey?, keyword?, made.schema, if_neg]
      intro anchored
      simp only [Bool.and_eq_true] at anchored
      rw [own.recursive anchored.1.1] at anchored
      exact Bool.false_ne_true anchored.1.2

/-- The fragments of a schema without names stand where it has subschemas. -/
theorem Compiled.unnamed_of_mem (compiled : Compiled draft source outer schema f) (nameless : schema.Nameless draft)
    {entry : Site × Fragment} (inside : entry ∈ f.innermostFirst outer) :
    entry.2.Unnamed draft entry.1 ∧ ∃ way, schema.HasSubschema draft way ∧ entry.1 = outer.below way := by
  induction nameless generalizing outer f with
  | bool b =>
    have same := compiled_bool.mp compiled
    rcases mem_innermostFirst.mp inside with rfl | ⟨child, listed, -⟩
    · exact ⟨compiled.unnamed (.bool b), [], .here _, (Site.below_nil outer).symm⟩
    · rw [same] at listed
      cases listed
  | @obj members own below ih =>
    have unnamed := compiled.unnamed (.obj own below)
    rcases mem_innermostFirst.mp inside with rfl | ⟨⟨slot, child⟩, listed, deeper⟩
    · exact ⟨unnamed, [], .here _, (Site.below_nil outer).symm⟩
    · obtain ⟨⟨own, sub⟩, known, same, made⟩ := exists_left (compiled_obj.mp compiled).subschemas listed
      obtain rfl : own = slot := same
      obtain ⟨own', way, has, place⟩ := ih _ known made deeper
      refine ⟨own', own.segments ++ way, .inner known has, ?_⟩
      rw [place, unnamed.site, Site.below_append]

/-- A schema without names has a fragment wherever it has a subschema. -/
theorem Compiled.exists_mem_of_hasSubschema {way : List String} (has : schema.HasSubschema draft way)
    (compiled : Compiled draft source outer schema f) (nameless : schema.Nameless draft) :
    ∃ g, (outer.below way, g) ∈ f.innermostFirst outer := by
  induction has generalizing outer f with
  | here schema =>
    rw [Site.below_nil]
    exact ⟨f, mem_innermostFirst.mpr (.inl rfl)⟩
  | @inner members slot sub way inside deeper ih =>
    have unnamed := compiled.unnamed nameless
    cases nameless with
    | obj own others =>
      obtain ⟨⟨own, child⟩, listed, same, made⟩ := exists_right (compiled_obj.mp compiled).subschemas inside
      obtain rfl : slot = own := same
      rw [unnamed.site] at made
      obtain ⟨g, found⟩ := ih made (others _ inside)
      refine ⟨g, mem_innermostFirst.mpr (.inr ⟨_, listed, ?_⟩)⟩
      rwa [Site.below_append, unnamed.site]

theorem keysOf_renumber (σ : Nat → Nat) (outer : Site) (f : Fragment) :
    Index.keysOf outer (f.renumber σ) = Index.keysOf outer f := by simp [Index.keysOf, Index.opensResource]

end Fragment

/-! ## Stale entries -/

namespace Index

open Fragment

variable {σ : Nat → Nat} {draft : Draft} {index other : Index} {base : Uri} {root f : Fragment} {source : Origin}
  {schema : Json} {stale : Set String} {replaced : Set String} {key : String}

/-- The places of the subschemas of a document. -/
def places (draft : Draft) (base : Uri) (schema : Json) : Set String :=
  {key | ∃ way, schema.HasSubschema draft way ∧ key = ((Site.ofDocument base).below way).location}

/-- The other index has all entries of an index, where documents have other numbers. It may have more of them, or
others, for stale keys, and other documents at replaced addresses. -/
structure Covers (σ : Nat → Nat) (stale replaced : Set String) (other index : Index) : Prop where
  documents : ∀ address ∉ replaced, other.documents.lookup address = index.documents.lookup address
  locations : ∀ key ∉ stale, other.locations.lookup key = (index.locations.lookup key).map (renumber σ)
  dynamicAnchors : ∀ key, other.dynamicAnchors.lookup key = (index.dynamicAnchors.lookup key).map (renumber σ)
  recursiveAnchors : ∀ key, other.recursiveAnchors.lookup key = (index.recursiveAnchors.lookup key).map (renumber σ)
  capacity : index.capacity ≤ other.capacity

theorem covers_empty (σ : Nat → Nat) : Covers σ ∅ ∅ .empty .empty :=
  ⟨fun _ _ => rfl, fun _ _ => rfl, fun _ => rfl, fun _ => rfl, Nat.le_refl _⟩

theorem Covers.mono {stale' replaced' : Set String} (covers : Covers σ stale replaced other index)
    (more : stale ⊆ stale') (more' : replaced ⊆ replaced') : Covers σ stale' replaced' other index where
  documents address absent := covers.documents address fun inside => absent (more' inside)
  locations key absent := covers.locations key fun inside => absent (more inside)
  dynamicAnchors := covers.dynamicAnchors
  recursiveAnchors := covers.recursiveAnchors
  capacity := covers.capacity

private theorem lookup_renumbered_append (new : List (String × Fragment)) {old old' : List (String × Fragment)}
    (known : new.lookup key = none → old'.lookup key = (old.lookup key).map (renumber σ)) :
    ((new.map fun entry => (entry.1, entry.2.renumber σ)) ++ old').lookup key =
      ((new ++ old).lookup key).map (renumber σ) := by
  rw [List.lookup_append, List.lookup_append, lookup_renumber]
  cases found : new.lookup key with
  | none => simpa using known found
  | some f => rfl

theorem keyed_renumber (σ : Nat → Nat) (entries : List (Site × Fragment)) :
    keyed (entries.map fun entry => (entry.1, entry.2.renumber σ)) =
      (keyed entries).map fun entry => (entry.1, entry.2.renumber σ) := by
  simp only [keyed, List.flatMap_map, List.map_flatMap, keysOf_renumber, List.map_map, Function.comp_def]

/-- The entries of the fragments that have a key of a kind. -/
def keyedBy (key? : Fragment → Option String) (entries : List (Site × Fragment)) : List (String × Fragment) :=
  entries.filterMap fun entry => (key? entry.2).map (·, entry.2)

theorem dynamicAnchors_add : (index.add draft base root).dynamicAnchors =
    (keyedBy (dynamicKey? draft) (root.innermostFirst (.ofDocument base))).reverse ++ index.dynamicAnchors := rfl

theorem recursiveAnchors_add : (index.add draft base root).recursiveAnchors =
    (keyedBy (recursiveKey? draft) (root.innermostFirst (.ofDocument base))).reverse ++ index.recursiveAnchors := rfl

theorem keyedBy_renumber {key? : Fragment → Option String} (same : ∀ f, key? (f.renumber σ) = key? f)
    (entries : List (Site × Fragment)) : keyedBy key? (entries.map fun entry => (entry.1, entry.2.renumber σ)) =
      (keyedBy key? entries).map fun entry => (entry.1, entry.2.renumber σ) := by
  rw [keyedBy, keyedBy, List.filterMap_map, List.map_filterMap]
  congr 1
  funext entry
  simp only [Function.comp_apply, same, Option.map_map]
  rfl

theorem keyedBy_eq_nil {key? : Fragment → Option String} {entries : List (Site × Fragment)}
    (none : ∀ entry ∈ entries, key? entry.2 = none) : keyedBy key? entries = [] :=
  List.filterMap_eq_nil_iff.mpr fun entry inside => by rw [none entry inside, Option.map_none]

theorem dynamicKey?_renumber (σ : Nat → Nat) (draft : Draft) (f : Fragment) :
    dynamicKey? draft (f.renumber σ) = dynamicKey? draft f := by simp [dynamicKey?]

theorem recursiveKey?_renumber (σ : Nat → Nat) (draft : Draft) (f : Fragment) :
    recursiveKey? draft (f.renumber σ) = recursiveKey? draft f := by simp [recursiveKey?]

theorem capacity_add (draft : Draft) (index : Index) (base : Uri) (root : Fragment) :
    (index.add draft base root).capacity =
      (((openersOf base root).map fun opener => (opener.1, opener.2.schema)).map fun entry => entry.2.size).sum +
        (keyed (root.innermostFirst (.ofDocument base))).length + index.capacity := by
  have sum (documents : List (String × Json)) (start : Nat) :
      documents.foldr (fun entry rest => entry.2.size + rest) start =
        (documents.map fun entry => entry.2.size).sum + start := by
    induction documents with
    | nil => simp
    | cons entry rest ih => simp [ih, Nat.add_assoc]
  rw [capacity, capacity, documents_add, locations_add, sum, sum]
  simp only [List.map_append, List.map_reverse, List.sum_append, List.sum_reverse, List.length_append,
    List.length_reverse]
  omega

/-- Where a document is added to both indexes, its keys are no longer stale, nor is its address replaced. -/
theorem Covers.add (covers : Covers σ stale replaced other index) (draft : Draft) (base : Uri) (root : Fragment) :
    Covers σ (stale \ claims base root) (replaced \ {base.text}) (other.add draft base (root.renumber σ))
      (index.add draft base root) where
  documents address absent := by
    rw [documents_add, documents_add, openersOf_renumber, List.lookup_append, List.lookup_append]
    cases found : ((openersOf base root).map fun opener => (opener.1, opener.2.schema)).reverse.lookup address with
    | some document => rfl
    | none =>
      have differs : address ≠ base.text := by
        rw [List.lookup_eq_none_iff] at found
        exact bne_iff_ne.mp (found (base.text, root.schema) (by simp [openersOf]))
      exact congrArg _ (covers.documents address fun inside => absent ⟨inside, differs⟩)
  locations key absent := by
    have fresh : (keyed (root.innermostFirst (.ofDocument base))).reverse.lookup key = none → key ∉ stale := by
      intro none inside
      exact absent ⟨inside, fun own => lookup_keyed_ne_none own none⟩
    have added := lookup_renumbered_append (σ := σ) _ fun none => covers.locations key (fresh none)
    rw [List.map_reverse, ← keyed_renumber, ← innermostFirst_renumber] at added
    exact added
  dynamicAnchors key := by
    have added := lookup_renumbered_append
      (keyedBy (dynamicKey? draft) (root.innermostFirst (.ofDocument base))).reverse fun _ => covers.dynamicAnchors key
    rw [List.map_reverse, ← keyedBy_renumber (dynamicKey?_renumber σ draft), ← innermostFirst_renumber] at added
    exact added
  recursiveAnchors key := by
    have added := lookup_renumbered_append
      (keyedBy (recursiveKey? draft) (root.innermostFirst (.ofDocument base))).reverse fun _ => covers.recursiveAnchors key
    rw [List.map_reverse, ← keyedBy_renumber (recursiveKey?_renumber σ draft), ← innermostFirst_renumber] at added
    exact added
  capacity := by
    rw [capacity_add, capacity_add, innermostFirst_renumber, keyed_renumber, openersOf_renumber, List.length_map]
    exact Nat.add_le_add_left covers.capacity _

/-- A document without names that is added to the other index only makes its places stale, and replaces the document
at its address. -/
theorem Covers.addStale (covers : Covers σ ∅ ∅ other index) (nameless : schema.Nameless draft)
    (compiled : Compiled draft source (.ofDocument base) schema root) :
    Covers σ (places draft base schema) {base.text} (other.add draft base root) index where
  documents address absent := by
    rw [← covers.documents address (Set.notMem_empty _), documents_add, List.lookup_append, List.lookup_eq_none_iff.mpr]
    · exact Option.none_or
    · intro resource listed
      obtain ⟨opener, opens, rfl⟩ := List.mem_map.mp (List.mem_reverse.mp listed)
      have own : opener.1 = base.text := by
        rcases List.mem_cons.mp opens with rfl | opened
        · rfl
        · obtain ⟨entry, known, rfl⟩ := List.mem_map.mp opened
          have reaches := reaches_of_mem_outermostFirst root _ entry (List.mem_filter.mp known).1
          obtain ⟨site, inside⟩ := exists_mem_innermostFirst reaches (.ofDocument base)
          obtain ⟨unnamed, way, -, rfl⟩ := compiled.unnamed_of_mem nameless inside
          rw [unnamed.site]
          rfl
      rw [own]
      exact bne_iff_ne.mpr absent
  locations key absent := by
    rw [← covers.locations key (Set.notMem_empty _)]
    have fresh : (keyed (root.innermostFirst (.ofDocument base))).reverse.lookup key = none := by
      refine lookup_keyed_eq_none fun entry inside own => absent ?_
      obtain ⟨unnamed, way, has, place⟩ := compiled.unnamed_of_mem nameless inside
      rw [unnamed.keys, List.mem_singleton, place] at own
      exact ⟨way, has, own⟩
    rw [locations_add, List.lookup_append, fresh, Option.none_or]
  dynamicAnchors key := by
    have none : keyedBy (dynamicKey? draft) (root.innermostFirst (.ofDocument base)) = [] :=
      keyedBy_eq_nil fun entry inside => (compiled.unnamed_of_mem nameless inside).1.dynamic
    rw [← covers.dynamicAnchors key, dynamicAnchors_add, none]
    rfl
  recursiveAnchors key := by
    have none : keyedBy (recursiveKey? draft) (root.innermostFirst (.ofDocument base)) = [] :=
      keyedBy_eq_nil fun entry inside => (compiled.unnamed_of_mem nameless inside).1.recursive
    rw [← covers.recursiveAnchors key, recursiveAnchors_add, none]
    rfl
  capacity := by
    rw [capacity_add]
    exact Nat.le_add_left_of_le covers.capacity

/-- A document without names has keys for its places. -/
theorem places_subset_claims (nameless : schema.Nameless draft)
    (compiled : Compiled draft source (.ofDocument base) schema root) :
    places draft base schema ⊆ claims base root := by
  rintro key ⟨way, has, rfl⟩
  obtain ⟨g, inside⟩ := compiled.exists_mem_of_hasSubschema has nameless
  exact ⟨_, inside, mem_keysOf.mpr (.inl rfl)⟩

/-- Contexts whose indexes agree without exception find the same. -/
theorem Covers.renumbers (covers : Covers σ ∅ ∅ other index) (draft : Draft) (formats : Formats) :
    (⟨draft, formats, index⟩ : Context).Renumbers σ ⟨draft, formats, other⟩ where
  draft := rfl
  formats := rfl
  documents address := covers.documents address (Set.notMem_empty _)
  located key := covers.locations key (Set.notMem_empty _)
  dynamicAnchor _ _ := covers.dynamicAnchors _
  recursiveAnchor _ := covers.recursiveAnchors _

end Index

/-! ## Compilation -/

namespace Compiler

open Fragment Index

variable {σ : Nat → Nat} {draft : Draft} {index other next : Index} {base : Uri} {root : Fragment} {schema : Json}
  {stale replaced : Set String} {position last : Nat} {remotes more : List (String × Json)}

/-- Remote documents that compile after one index compile after the other, and the indexes agree as before. -/
theorem exists_of_addRemotes (position : Nat) {position' : Nat} (covers : Covers σ stale replaced other index)
    (numbers : ∀ i < remotes.length, σ (position + i) = position' + i)
    (added : addRemotes draft other position' remotes = .ok (next, last)) :
    ∃ next', addRemotes draft index position remotes = .ok (next', position + remotes.length) ∧
      last = position' + remotes.length ∧ Covers σ stale replaced next next' := by
  induction remotes generalizing index other position position' with
  | nil =>
    cases added
    exact ⟨index, rfl, rfl, covers⟩
  | cons remote rest ih =>
    obtain ⟨base, root, found, compiled, later⟩ := addRemotes_cons.mp added
    obtain rfl : σ position = position' := numbers 0 (by simp)
    obtain ⟨root', compiled', rfl⟩ := exists_of_compiled compiled
    have others : ∀ i < rest.length, σ (position + 1 + i) = σ position + 1 + i := fun i less => by
      have number := numbers (i + 1) (by simpa using less)
      rwa [Nat.add_comm i 1, ← Nat.add_assoc, ← Nat.add_assoc] at number
    have covers' := (covers.add draft base root').mono Set.sdiff_subset Set.sdiff_subset
    obtain ⟨next', later', rfl, covers''⟩ := ih (position + 1) covers' others later
    have count (start : Nat) : start + 1 + rest.length = start + (rest.length + 1) := by omega
    rw [List.length_cons, ← count, ← count]
    exact ⟨next', addRemotes_cons.mpr ⟨base, root', found, compiled', later'⟩, rfl, covers''⟩

/-- The number that a document has where one more was put in at a position. -/
def skip (inserted position : Nat) : Nat := if position < inserted then position else position + 1

theorem skip_of_lt {inserted position : Nat} (before : position < inserted) : skip inserted position = position :=
  if_pos before

theorem skip_of_le {inserted position : Nat} (after : inserted ≤ position) : skip inserted position = position + 1 :=
  if_neg (Nat.not_lt.mpr after)

/-- Without an earlier document at the address of a later one, the remote documents compile to an index that is
covered up to the places of the earlier document where the later one has no schema, if neither declares names. -/
theorem exists_without_superseded {before mid after : List (String × Json)} {address address' : String} {old new : Json}
    (same : remoteBase address = remoteBase address') (nameless : old.Nameless draft) (nameless' : new.Nameless draft)
    (added : addRemotes draft .empty 0 (before ++ (address, old) :: (mid ++ (address', new) :: after)) =
      .ok (next, last)) :
    ∃ base next' position, remoteBase address = .ok base ∧
      addRemotes draft .empty 0 (before ++ (mid ++ (address', new) :: after)) = .ok (next', position) ∧
      last = skip before.length position ∧
      Covers (skip before.length) (places draft base old \ places draft base new) ∅ next next' := by
  obtain ⟨index₁, added₁, added⟩ := addRemotes_append.mp added
  obtain ⟨index₁', added₁', -, covers₁⟩ := exists_of_addRemotes (σ := skip before.length) 0 (covers_empty _)
    (fun i less => by rw [Nat.zero_add, skip_of_lt less]) added₁
  rw [Nat.zero_add] at added added₁'
  obtain ⟨base, root, found, compiled, added⟩ := addRemotes_cons.mp added
  obtain ⟨index₂, added₂, added⟩ := addRemotes_append.mp added
  obtain ⟨index₂', added₂', -, covers₂⟩ := exists_of_addRemotes before.length
    (covers₁.addStale nameless compiled) (fun i _ => by rw [skip_of_le (by omega), Nat.add_right_comm]) added₂
  obtain ⟨base', root', found', compiled', added₃⟩ := addRemotes_cons.mp added
  obtain rfl : base = base' := Except.ok.inj (found.symm.trans (same.trans found'))
  rw [Nat.add_right_comm, ← skip_of_le (Nat.le_add_right before.length mid.length)] at compiled'
  obtain ⟨root', made, rfl⟩ := exists_of_compiled compiled'
  have covers₃ := (covers₂.add draft base root').mono
    (Set.sdiff_subset_sdiff_right (places_subset_claims nameless' made)) (Set.sdiff_self (s := {base.text})).subset
  obtain ⟨index₃', added₃', rfl, covers⟩ := exists_of_addRemotes (before.length + mid.length + 1) covers₃
    (fun i _ => by rw [skip_of_le (by omega)]; omega) added₃
  refine ⟨base, index₃', before.length + mid.length + 1 + after.length, found, ?_, ?number, covers⟩
  case number =>
    rw [skip_of_le (by omega)]
    omega
  rw [addRemotes_append, Nat.zero_add]
  refine ⟨index₁', added₁', addRemotes_append.mpr ⟨index₂', added₂', ?_⟩⟩
  exact addRemotes_cons.mpr ⟨base, root', found', made, added₃'⟩

/-- A remote document that is registered again takes the place of the earlier one with its address, if neither declares
names and it has a schema wherever the earlier one has. What compiles with both of them compiles without the earlier
one. References find schemas at the same sites then, and all values are judged alike, with the same errors. -/
theorem registered_again_replaces {compiler : Compiler} {before mid after : List (String × Json)}
    {address address' : String} {old new schema : Json} {node : Node}
    (registered : compiler.remotes = before ++ (address, old) :: (mid ++ (address', new) :: after))
    (same : remoteBase address = remoteBase address')
    (nameless : old.Nameless (compiler.draftFor schema)) (nameless' : new.Nameless (compiler.draftFor schema))
    (held : ∀ way, old.HasSubschema (compiler.draftFor schema) way → new.HasSubschema (compiler.draftFor schema) way)
    (compiled : compiler.compile schema = .ok node) :
    ∃ node', { compiler with remotes := before ++ (mid ++ (address', new) :: after) }.compile schema = .ok node' ∧
      (∀ resource identifier, (node.context.lookup? resource identifier).map (fun f => (f.site, f.schema)) =
        (node'.context.lookup? resource identifier).map fun f => (f.site, f.schema)) ∧
      (∀ depth data, (node.context.judge depth).validate node.fragment data .root node.scope =
        (node'.context.judge depth).validate node'.fragment data .root node'.scope) ∧
      ∀ data found, node'.validate data = some found → node.validate data = some found := by
  obtain ⟨index, last, root, added, made, rfl⟩ := compile_ok_iff.mp compiled
  rw [registered] at added
  obtain ⟨base, index', position, -, added', rfl, covers⟩ := exists_without_superseded same nameless nameless' added
  have none : places (compiler.draftFor schema) base old \ places (compiler.draftFor schema) base new = ∅ := by
    refine Set.sdiff_eq_empty.mpr ?_
    rintro key ⟨way, has, rfl⟩
    exact ⟨way, held way has, rfl⟩
  rw [none] at covers
  obtain ⟨root', made', rfl⟩ := exists_of_compiled made
  have covers' : Covers (skip before.length) ∅ ∅ _ _ :=
    (covers.add (compiler.draftFor schema) .default root').mono Set.sdiff_subset Set.sdiff_subset
  have renumbers := covers'.renumbers (compiler.draftFor schema) compiler.formats
  have idle : Scope.Idle [] := fun _ inside => nomatch inside
  have judged (depth : Nat) (data : Json) :=
    (renumbers.judge_follows .root depth).validate (idle.moves .root) root' data .root
  have unmoved : List.map (Violation.moved .root) = id := by
    funext found
    rw [← Violation.movedAll_eq, Violation.movedAll_root, id]
  simp only [unmoved, Option.map_id, id] at judged
  refine ⟨_, compile_ok_iff.mpr ⟨index', position, root', added', made', rfl⟩, ?_, judged, ?_⟩
  · intro resource identifier
    refine (congrArg _ (renumbers.lookup? resource identifier)).trans ?_
    rw [Option.map_map]
    refine congrArg (Option.map · _) (funext fun f => ?_)
    rw [Function.comp_apply, site_renumber, schema_renumber]
  · intro data found answer
    have deeper := Nat.add_le_add_right covers'.capacity 16
    have enough := Nat.mul_le_mul_right (data.depth + 2) (Nat.mul_le_mul deeper deeper)
    refine Judge.answer_check.mp (Context.judge_extends _ enough _ _ (Judge.answer_check.mpr ?_))
    exact (judged _ data).trans answer

/-! ## A definition of the earlier document -/

namespace RegisteredAgain

/-- A document with a definition. -/
def defining (definition : Json) : Json := .obj [("$defs", .obj [("a", definition)])]

/-- A reference to the definition. -/
def referring : Json := .obj [("$ref", .str "urn:t#/$defs/a")]

/-- The compiler that some documents are registered with, all at one address. -/
def registering (documents : List Json) : Compiler := { Compiler.standard with remotes := documents.map ("urn:t", ·) }

/-- A definition that is registered again counts as it was registered last. -/
theorem definition_replaced : ∃ node,
    (registering [defining (.bool false), defining (.bool true)]).compile referring = .ok node ∧
    node.validate (.ofNat 1) = some [] := by
  have both :
      ((registering [defining (.bool false), defining (.bool true)]).compile referring).toOption.isSome = true := by
    decide +kernel
  have last :
      ((registering [defining (.bool true)]).compile referring).toOption.bind (·.accepts (.ofNat 1)) = some true := by
    decide +kernel
  have ways : ∀ way ∈ (defining (.bool false)).subschemaWays .draft2020 2,
      way ∈ (defining (.bool true)).subschemaWays .draft2020 2 := by decide +kernel
  have held (way : List String) (has : (defining (.bool false)).HasSubschema .draft2020 way) :
      (defining (.bool true)).HasSubschema .draft2020 way :=
    Json.hasSubschema_of_mem_subschemaWays (ways way (has.mem_subschemaWays (by decide +kernel)))
  have registered : (registering [defining (.bool false), defining (.bool true)]).remotes =
    [] ++ ("urn:t", defining (.bool false)) :: ([] ++ ("urn:t", defining (.bool true)) :: []) := rfl
  obtain ⟨node, compiled⟩ := Option.isSome_iff_exists.mp both
  obtain ⟨other, compiled', accepts⟩ := Option.bind_eq_some_iff.mp last
  obtain ⟨node', compiled'', -, -, same⟩ := @registered_again_replaces _ [] [] [] _ _ _ _ referring _ registered rfl
    (Json.nameless_of_isNameless (by decide +kernel : (defining (.bool false)).isNameless _ 2 = true))
    (Json.nameless_of_isNameless (by decide +kernel : (defining (.bool true)).isNameless _ 2 = true))
    held (ok_of_toOption compiled)
  obtain rfl : other = node' := Except.ok.inj ((ok_of_toOption compiled').symm.trans compiled'')
  exact ⟨node, ok_of_toOption compiled, same _ _ (verdict_eq_true.mp accepts)⟩

/-- The definition that only the earlier document has is still found. Without that document the reference leads
nowhere. -/
theorem stale_definition_found : ∃ node node',
    (registering [defining (.bool false), .obj []]).compile referring = .ok node ∧
    (registering [.obj []]).compile referring = .ok node' ∧
    (defining (.bool false)).Nameless .draft2020 ∧ (Json.obj []).Nameless .draft2020 ∧
    (node.validate (.ofNat 1)).map (List.map Violation.code) = some [.invalidData] ∧
    (node'.validate (.ofNat 1)).map (List.map Violation.code) = some [.unresolvedRef] := by
  have first : ((registering [defining (.bool false), .obj []]).compile referring).toOption.bind (fun node =>
      (node.validate (.ofNat 1)).map (List.map Violation.code)) = some [.invalidData] := by decide +kernel
  have second : ((registering [.obj []]).compile referring).toOption.bind (fun node =>
      (node.validate (.ofNat 1)).map (List.map Violation.code)) = some [.unresolvedRef] := by decide +kernel
  obtain ⟨node, compiled, found⟩ := Option.bind_eq_some_iff.mp first
  obtain ⟨node', compiled', found'⟩ := Option.bind_eq_some_iff.mp second
  exact ⟨node, node', ok_of_toOption compiled, ok_of_toOption compiled',
    Json.nameless_of_isNameless (by decide +kernel : (defining (.bool false)).isNameless _ 2 = true),
    Json.nameless_of_isNameless (by decide +kernel : (Json.obj []).isNameless _ 1 = true), found, found'⟩

end RegisteredAgain
end Compiler
end JsonSchema
