import JsonSchema.Proofs.Compilation.Renumbered
import JsonSchema.Proofs.Reference.Lookup

/-!
# Documents of one index

The documents that a schema is compiled with are added to one index after the other. The root of a document is found
at the address that the document was compiled for, unless a later document has a resource with that address.
-/

namespace JsonSchema

theorem Site.location_of_root {site : Site} (root : site.within = .root) : site.location = site.base.text ++ "#" := by
  rw [location, root]
  exact String.append_empty

namespace Fragment

variable {draft : Draft} {source : Origin} {outer : Site} {schema : Json} {f g : Fragment}

theorem innermostFirst_eq (f : Fragment) (outer : Site) :
    f.innermostFirst outer = childrenInnermostFirst f.site f.children ++ [(outer, f)] := by
  obtain ⟨site, origin, schema, anchors, pattern, children⟩ := f
  rw [innermostFirst]

/-- All fragments of a document are of one origin. -/
theorem Compiled.origin_of_reaches (compiled : Compiled draft source outer schema f) (reaches : f.Reaches g) :
    g.origin = source := by
  obtain ⟨site, -, made, -⟩ := compiled.listed reaches
  rcases made.bool_or_obj with ⟨b, same⟩ | ⟨members, same⟩
  · rw [same] at made
    rw [compiled_bool.mp made]
  · rw [same] at made
    exact (compiled_obj.mp made).origin

end Fragment

namespace Index

open Fragment

variable {draft : Draft} {index : Index} {base address : Uri} {root f : Fragment} {source : Origin} {schema : Json}
  {key : String}

/-! ## Keys of a document -/

/-- The keys of a document. -/
def claims (base : Uri) (root : Fragment) : Set String :=
  {key | ∃ entry ∈ root.innermostFirst (.ofDocument base), key ∈ keysOf entry.1 entry.2}

/-- The resources of a document have no numbers. -/
theorem openersOf_renumber (σ : Nat → Nat) (base : Uri) (root : Fragment) :
    (openersOf base (root.renumber σ)).map (fun opener => (opener.1, opener.2.schema)) =
      (openersOf base root).map fun opener => (opener.1, opener.2.schema) := by
  simp only [openersOf, outermostFirst_renumber, List.filter_map, List.map_cons, List.map_map, Function.comp_def,
    opensResource, site_renumber, schema_renumber]

section
variable (compiled : Compiled draft source (.ofDocument base) schema root)
include compiled

/-- The address of every fragment is that of a resource in its document. -/
theorem base_mem_openersOf (reaches : root.Reaches f) : f.site.base.text ∈ (openersOf base root).map Prod.fst := by
  obtain ⟨opener, -, listed, -, -⟩ := standsAt_of_reaches compiled reaches
  exact List.mem_map_of_mem listed

/-- A document has the key of the root of a resource exactly if it has a resource with this address. -/
theorem rootKey_mem_claims (addressed : (Site.ofDocument base).Addressed)
    (known : (Site.ofDocument address).Addressed) :
    address.text ++ "#" ∈ claims base root ↔ address.text ∈ (openersOf base root).map Prod.fst := by
  have rootKey : address.text ++ "#" = address.text ++ "#" ++ "" := String.append_empty.symm
  constructor
  · rintro ⟨entry, inside, keyed⟩
    obtain ⟨made, outer, opener, -, listed, -⟩ := stands_of_mem_innermostFirst compiled addressed inside
    have own := base_mem_openersOf compiled (reaches_of_mem_innermostFirst root _ entry inside)
    rw [rootKey] at keyed
    rcases mem_keysOf.mp keyed with here | ⟨-, here⟩ | ⟨name, -, here⟩
    · exact (key_inj known outer here).1 ▸ List.mem_map_of_mem listed
    · exact (key_inj known (made.addressed outer) here).1 ▸ own
    · exact (key_inj (made.addressed outer) known here).1 ▸ own
  · intro inside
    obtain ⟨opener, listed, same⟩ := List.mem_map.mp inside
    rcases List.mem_cons.mp listed with rfl | opened
    · refine ⟨(.ofDocument base, root), ?_, mem_keysOf.mpr (.inl ?_)⟩
      · rw [innermostFirst_eq]
        exact List.mem_append_right _ (List.mem_singleton_self _)
      · exact same ▸ (@Site.location_of_root (.ofDocument base) rfl).symm
    · obtain ⟨entry, opens, rfl⟩ := List.mem_map.mp opened
      obtain ⟨inside, opens⟩ := List.mem_filter.mp opens
      have found := (outermostFirst_perm root _).mem_iff.mp inside
      obtain ⟨made, -⟩ := stands_of_mem_innermostFirst compiled addressed found
      have place : entry.2.site.within = .root := by
        rcases made.site_eq with stays | ⟨place, -⟩
        · simp [opensResource, stays] at opens
        · exact place
      have own := location_mem_keysOf made.stays_or_opens
      rw [Fragment.location, Site.location_of_root place] at own
      exact ⟨entry, found, same ▸ own⟩

end

/-! ## Lookups -/

/-- A key of a document is found once the document is added. -/
theorem lookup_keyed_ne_none {entries : List (Site × Fragment)}
    (inside : ∃ entry ∈ entries, key ∈ keysOf entry.1 entry.2) : (keyed entries).reverse.lookup key ≠ none := by
  obtain ⟨entry, listed, own⟩ := inside
  rw [Ne, List.lookup_eq_none_iff, not_forall]
  refine ⟨(key, entry.2), fun differs => ?_⟩
  have member : (key, entry.2) ∈ keyed entries := List.mem_flatMap.mpr ⟨entry, listed, List.mem_map_of_mem own⟩
  simpa using differs (List.mem_reverse.mpr member)

theorem locations_add : (index.add draft base root).locations =
    (keyed (root.innermostFirst (.ofDocument base))).reverse ++ index.locations := rfl

/-- What has a key still has one after a document is added. -/
theorem lookup_add_ne_none (found : index.locations.lookup key ≠ none) :
    (index.add draft base root).locations.lookup key ≠ none := by
  rw [locations_add, List.lookup_append, Ne, Option.or_eq_none_iff]
  exact fun none => found none.2

/-- The fragment of another document keeps a key that is not one of the document that is added. -/
theorem lookup_add_eq_some (compiled : Compiled draft source (.ofDocument base) schema root)
    (other : f.origin ≠ source) :
    (index.add draft base root).locations.lookup key = some f ↔
      index.locations.lookup key = some f ∧ key ∉ claims base root := by
  rw [locations_add, List.lookup_append]
  cases added : (keyed (root.innermostFirst (.ofDocument base))).reverse.lookup key with
  | none =>
    have absent : key ∉ claims base root := fun own => lookup_keyed_ne_none own added
    rw [Option.none_or, and_iff_left absent]
  | some g =>
    obtain ⟨entry, inside, keyed⟩ := List.mem_flatMap.mp (List.mem_reverse.mp (mem_of_lookup added))
    obtain ⟨_, own, same⟩ := List.mem_map.mp keyed
    cases same
    have origin := compiled.origin_of_reaches (reaches_of_mem_innermostFirst root _ entry inside)
    constructor
    · rintro same
      cases same
      exact absurd origin other
    · exact fun ⟨_, absent⟩ => absurd ⟨entry, inside, own⟩ absent

/-- The root of a document that is added has its keys. -/
theorem lookup_add_root (own : key ∈ keysOf (.ofDocument base) root) :
    (index.add draft base root).locations.lookup key = some root := by
  rw [locations_add, innermostFirst_eq, keyed, List.flatMap_append, List.reverse_append, List.append_assoc,
    List.lookup_append]
  simp only [List.flatMap_cons, List.flatMap_nil, List.append_nil]
  rw [lookup_keys, if_pos own]
  rfl

end Index

namespace Compiler

open Fragment Index

variable {draft : Draft} {index next : Index} {base : Uri} {root : Fragment} {schema : Json} {position last : Nat}
  {remotes more : List (String × Json)}

theorem addDocument_eq_ok : addDocument draft index position base schema = .ok (next, root) ↔
    Compiled draft (.document position) (.ofDocument base) schema root ∧ next = index.add draft base root := by
  rw [addDocument, bind_eq_ok, ← compile_eq_ok]
  constructor
  · rintro ⟨f, compiled, same⟩
    cases same
    exact ⟨compiled, rfl⟩
  · rintro ⟨compiled, rfl⟩
    exact ⟨root, compiled, rfl⟩

theorem addRemotes_cons {address : String} :
    addRemotes draft index position ((address, schema) :: remotes) = .ok (next, last) ↔ ∃ base root,
      remoteBase address = .ok base ∧ Compiled draft (.document position) (.ofDocument base) schema root ∧
        addRemotes draft (index.add draft base root) (position + 1) remotes = .ok (next, last) := by
  rw [addRemotes, bind_eq_ok]
  refine exists_congr fun base => ?_
  constructor
  · rintro ⟨found, added⟩
    obtain ⟨⟨index', root⟩, first, later⟩ := bind_eq_ok.mp added
    obtain ⟨compiled, rfl⟩ := addDocument_eq_ok.mp first
    exact ⟨root, found, compiled, later⟩
  · rintro ⟨root, found, compiled, later⟩
    exact ⟨found, bind_eq_ok.mpr ⟨_, addDocument_eq_ok.mpr ⟨compiled, rfl⟩, later⟩⟩

theorem addRemotes_append : addRemotes draft index position (remotes ++ more) = .ok (next, last) ↔ ∃ index',
    addRemotes draft index position remotes = .ok (index', position + remotes.length) ∧
      addRemotes draft index' (position + remotes.length) more = .ok (next, last) := by
  induction remotes generalizing index position with
  | nil =>
    constructor
    · exact fun added => ⟨index, rfl, added⟩
    · rintro ⟨_, same, added⟩
      cases same
      exact added
  | cons remote rest ih =>
    obtain ⟨address, schema⟩ := remote
    rw [List.cons_append, addRemotes_cons]
    simp only [ih, addRemotes_cons, List.length_cons, Nat.add_right_comm position 1, ← Nat.add_assoc]
    constructor
    · rintro ⟨base, root, found, compiled, index', first, later⟩
      exact ⟨index', ⟨base, root, found, compiled, first⟩, later⟩
    · rintro ⟨index', ⟨base, root, found, compiled, first⟩, later⟩
      exact ⟨base, root, found, compiled, index', first, later⟩

/-- Remote documents are numbered in their order. -/
theorem position_of_addRemotes (added : addRemotes draft index position remotes = .ok (next, last)) :
    last = position + remotes.length := by
  rw [← List.append_nil remotes] at added
  obtain ⟨index', -, same⟩ := addRemotes_append.mp added
  cases same
  rfl

theorem compile_ok_iff {compiler : Compiler} {node : Node} : compiler.compile schema = .ok node ↔
    ∃ index position root, addRemotes (compiler.draftFor schema) .empty 0 compiler.remotes = .ok (index, position) ∧
      Compiled (compiler.draftFor schema) (.document position) (.ofDocument .default) schema root ∧
        node = .reach ⟨compiler.draftFor schema, compiler.formats, index.add (compiler.draftFor schema) .default root⟩
          root [] := by
  rw [Compiler.compile, bind_eq_ok]
  constructor
  · rintro ⟨⟨index, position⟩, added, compiled⟩
    obtain ⟨⟨_, root⟩, document, same⟩ := bind_eq_ok.mp compiled
    obtain ⟨made, rfl⟩ := addDocument_eq_ok.mp document
    exact ⟨index, position, root, added, made, (Except.ok.inj same).symm⟩
  · rintro ⟨index, position, root, added, made, rfl⟩
    exact ⟨_, added, bind_eq_ok.mpr ⟨_, addDocument_eq_ok.mpr ⟨made, rfl⟩, rfl⟩⟩

/-! ## Addresses -/

/-- The addresses of a document that is compiled for one and of the resources in it. -/
def addressesOf (draft : Draft) (base : Uri) (schema : Json) : List String :=
  match Fragment.compile draft (.document 0) (.ofDocument base) schema with
  | .ok root => (openersOf base root).map Prod.fst
  | .error _ => []

/-- The addresses that a remote document takes. -/
def addressesTaken (draft : Draft) (remote : String × Json) : List String :=
  match remoteBase remote.1 with
  | .ok base => addressesOf draft base remote.2
  | .error _ => []

theorem addressesOf_eq (compiled : Compiled draft (.document position) (.ofDocument base) schema root) :
    addressesOf draft base schema = (openersOf base root).map Prod.fst := by
  -- compiled as the first document it would have the same addresses
  obtain ⟨first, made, rfl⟩ : ∃ first, Compiled draft (.document 0) (.ofDocument base) schema first ∧
      root = first.renumber fun _ => position := exists_of_compiled compiled
  have addresses := congrArg (List.map Prod.fst) (openersOf_renumber (fun _ => position) base first)
  simp only [List.map_map] at addresses
  rw [addressesOf, compile_eq_ok.mpr made]
  exact addresses.symm

theorem addressesTaken_eq {remote : String × Json} (found : remoteBase remote.1 = .ok base)
    (compiled : Compiled draft (.document position) (.ofDocument base) remote.2 root) :
    addressesTaken draft remote = (openersOf base root).map Prod.fst := by
  rw [addressesTaken, found]
  exact addressesOf_eq compiled

section
variable {address : Uri} (known : (Site.ofDocument address).Addressed)
include known

/-- The fragment at an address stays there while later documents are added that do not take the address. -/
theorem lookup_addRemotes_eq_some {number : Nat} {f : Fragment} (origin : f.origin = .document number)
    (earlier : number < position) (added : addRemotes draft index position remotes = .ok (next, last)) :
    next.locations.lookup (address.text ++ "#") = some f ↔
      index.locations.lookup (address.text ++ "#") = some f ∧
        ∀ remote ∈ remotes, address.text ∉ addressesTaken draft remote := by
  induction remotes generalizing index position with
  | nil =>
    cases added
    simp
  | cons remote rest ih =>
    obtain ⟨base, root, found, compiled, later⟩ := addRemotes_cons.mp added
    have other : f.origin ≠ .document position := by
      rw [origin]
      rintro same
      cases same
      exact Nat.lt_irrefl _ earlier
    rw [ih (Nat.lt_succ_of_lt earlier) later, lookup_add_eq_some compiled other,
      rootKey_mem_claims compiled (addressed_remoteBase found) known, List.forall_mem_cons,
      addressesTaken_eq found compiled, and_assoc]

end

theorem lookup_addRemotes_ne_none {key : String} (found : index.locations.lookup key ≠ none)
    (added : addRemotes draft index position remotes = .ok (next, last)) : next.locations.lookup key ≠ none := by
  induction remotes generalizing index position with
  | nil =>
    cases added
    exact found
  | cons remote rest ih =>
    obtain ⟨base, root, -, -, later⟩ := addRemotes_cons.mp added
    exact ih (lookup_add_ne_none found) later

/-- At the address of a remote document something is found. It is the root of this document exactly if neither a later
one nor the schema that is compiled takes the address. If that schema declares the address for its own, it is found. -/
theorem located_remote {compiler : Compiler} {node : Node} {before after : List (String × Json)} {name : String}
    {document : Json} (compiled : compiler.compile schema = .ok node)
    (registered : compiler.remotes = before ++ (name, document) :: after) :
    ∃ address root found, remoteBase name = .ok address ∧
      Compiled node.context.draft (.document before.length) (.ofDocument address) document root ∧
      node.context.located? (address.text ++ "#") = some found ∧
      (found = root ↔ (∀ remote ∈ after, address.text ∉ addressesTaken node.context.draft remote) ∧
        address.text ∉ addressesOf node.context.draft .default schema) ∧
      (node.fragment.site.base.text = address.text → found = node.fragment) := by
  obtain ⟨index, last, top, added, made, rfl⟩ := compile_ok_iff.mp compiled
  rw [registered] at added
  obtain ⟨index₁, -, added⟩ := addRemotes_append.mp added
  obtain ⟨address, root, found, remote, later⟩ := addRemotes_cons.mp added
  rw [Nat.zero_add] at remote later
  have known := addressed_remoteBase found
  have first :
      (index₁.add (compiler.draftFor schema) address root).locations.lookup (address.text ++ "#") = some root :=
    lookup_add_root (mem_keysOf.mpr (.inl (@Site.location_of_root (.ofDocument address) rfl).symm))
  have present : (index.add (compiler.draftFor schema) .default top).locations.lookup (address.text ++ "#") ≠ none :=
    lookup_add_ne_none (lookup_addRemotes_ne_none (by simp [first]) later)
  obtain ⟨target, located⟩ := Option.ne_none_iff_exists'.mp present
  have origin := remote.origin_of_reaches .refl
  have other : root.origin ≠ .document last := by
    rw [origin, position_of_addRemotes later]
    intro same
    have numbers := Origin.document.inj same
    omega
  refine ⟨address, root, target, found, remote, located, ?_, ?_⟩
  · have stays : some target = some root ↔ _ := located ▸ lookup_add_eq_some made other
    rw [lookup_addRemotes_eq_some known origin (Nat.lt_succ_self _) later,
      rootKey_mem_claims made addressed_default known, ← addressesOf_eq made, and_iff_right first] at stays
    exact (Option.some_inj.symm).trans stays
  · intro (own : top.site.base.text = address.text)
    have key := location_mem_keysOf made.stays_or_opens
    rw [Fragment.location, Site.location_of_root made.within_root, own] at key
    exact Option.some.inj (located.symm.trans (lookup_add_root key))

end Compiler
end JsonSchema
