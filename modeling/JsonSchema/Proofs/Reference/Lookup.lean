import JsonSchema.Proofs.Pointer.Encoded
import JsonSchema.Proofs.Reference.Entries

/-!
# References by pointers

A reference that gives the address of a resource and the place of a fragment in it finds this fragment,
however the place is encoded. There is one exception: a slash in front that is encoded with a small `f`
makes the place a plain name.
-/

namespace JsonSchema

namespace Index

variable {draft : Draft} {index : Index} {entries : List (Site × Fragment)} {openers : List (String × Fragment)}
  {key : String} {n : Fragment}

/-! ## The last entry -/

theorem lookup_keys (keys : List String) (f : Fragment) (key : String) :
    (keys.map (·, f)).reverse.lookup key = if key ∈ keys then some f else none := by
  have plain (keys : List String) : (keys.map (·, f)).lookup key = if key ∈ keys then some f else none := by
    induction keys with
    | nil => rfl
    | cons first rest ih =>
      by_cases same : key = first
      · simp [same]
      · rw [List.map_cons, List.lookup_cons, beq_false_of_ne same]
        simp [ih, same]
  rw [← List.map_reverse, plain]
  simp

theorem keyed_cons (entry : Site × Fragment) (rest : List (Site × Fragment)) :
    (keyed (entry :: rest)).reverse = (keyed rest).reverse ++ ((keysOf entry.1 entry.2).map (·, entry.2)).reverse := by
  simp [keyed]

theorem lookup_keyed_eq_none (absent : ∀ entry ∈ entries, key ∉ keysOf entry.1 entry.2) :
    (keyed entries).reverse.lookup key = none := by
  induction entries with
  | nil => rfl
  | cons entry rest ih =>
    obtain ⟨first, later⟩ := List.forall_mem_cons.mp absent
    rw [keyed_cons, List.lookup_append, ih later, lookup_keys, if_neg first]
    rfl

/-- If all entries of a key are one fragment, or are followed by one with the key, the key leads to the fragment. -/
theorem lookup_keyed (followed : Fragment.Followed [] entries)
    (sole : ∀ entry ∈ entries, key ∈ keysOf entry.1 entry.2 → entry.2 = n ∨ entry.2.site.within ≠ .root ∧
      ∀ later ∈ entries, later.2.site.within = .root → later.2.site.base = entry.2.site.base →
        key ∈ keysOf later.1 later.2)
    (present : ∃ entry ∈ entries, key ∈ keysOf entry.1 entry.2) :
    (keyed entries).reverse.lookup key = some n := by
  induction entries with
  | nil =>
    obtain ⟨entry, inside, -⟩ := present
    cases inside
  | cons entry rest ih =>
    obtain ⟨first, later⟩ := followed
    rw [keyed_cons, List.lookup_append]
    by_cases again : ∃ other ∈ rest, key ∈ keysOf other.1 other.2
    · rw [ih later ?_ again]
      · rfl
      · intro other inside keyed
        refine (sole other (List.mem_cons_of_mem _ inside) keyed).imp_right fun below => ⟨below.1, ?_⟩
        exact fun opener listed => below.2 opener (List.mem_cons_of_mem _ listed)
    · have absent : ∀ other ∈ rest, key ∉ keysOf other.1 other.2 := fun other inside keyed => again ⟨other, inside, keyed⟩
      have own : key ∈ keysOf entry.1 entry.2 := by
        obtain ⟨other, inside, keyed⟩ := present
        rcases List.mem_cons.mp inside with rfl | inside
        · exact keyed
        · exact absurd keyed (absent other inside)
      rw [lookup_keyed_eq_none absent, lookup_keys, if_pos own]
      rcases sole entry List.mem_cons_self own with rfl | ⟨below, keyed⟩
      · rfl
      · -- the root of the resource comes later and has the key
        obtain ⟨opener, inside, root, base⟩ := first below
        have listed : opener ∈ rest := by simpa using inside
        exact absurd (keyed opener (List.mem_cons_of_mem _ listed) root base) (absent opener listed)

/-! ## Locations -/

theorem mem_keysOf {outer : Site} {f : Fragment} : key ∈ keysOf outer f ↔
    key = outer.location ∨ opensResource outer f = true ∧ key = f.location ∨
      ∃ name ∈ f.anchors, anchorKey f.site.base name = key := by
  by_cases opens : opensResource outer f = true <;> simp [keysOf, opens]

/-- The place of a fragment in its resource is one of its keys. -/
theorem location_mem_keysOf {outer : Site} {f : Fragment}
    (opened : f.site = outer ∨ f.site.within = .root ∧ f.site.base ≠ outer.base) : f.location ∈ keysOf outer f := by
  rw [mem_keysOf]
  rcases opened with stays | ⟨-, other⟩
  · exact .inl (congrArg Site.location stays)
  · exact .inr (.inl ⟨by simpa [opensResource] using other.symm, rfl⟩)

theorem Laid.location_mem_keysOf (laid : Laid draft index entries openers) {entry : Site × Fragment}
    (inside : entry ∈ entries) : entry.2.location ∈ keysOf entry.1 entry.2 :=
  Index.location_mem_keysOf (laid.opened entry inside)

theorem Laid.mem_fragments (laid : Laid draft index entries openers) {entry : Site × Fragment}
    (inside : entry ∈ entries) : entry.2 ∈ index.fragments := by
  have located : (entry.2.location, entry.2) ∈ index.locations := by
    rw [laid.locations, List.mem_reverse]
    exact List.mem_flatMap.mpr ⟨entry, inside, List.mem_map_of_mem (laid.location_mem_keysOf inside)⟩
  exact List.mem_append_left _ (List.mem_append_left _ (List.mem_map_of_mem (f := Prod.snd) located))

theorem Laid.standsAt (laid : Laid draft index entries openers) {entry : Site × Fragment} (inside : entry ∈ entries) :
    StandsAt openers entry.2.site.base.text entry.2.site.within entry.2 := by
  rcases laid.opened entry inside with stays | ⟨root, -⟩
  · rw [stays]
    exact laid.stands entry inside
  · rw [root]
    exact standsAt_root (laid.roots entry inside root)

/-- A key with the address of a resource is cut at the number sign in one way. -/
theorem key_inj {a b : Site} {name other : String} (known : a.Addressed) (known' : b.Addressed)
    (same : a.base.text ++ "#" ++ name = b.base.text ++ "#" ++ other) : a.base.text = b.base.text ∧ name = other := by
  have chars := congrArg String.toList same
  simp only [String.toList_append, List.append_assoc] at chars
  obtain ⟨address, rest⟩ := (known.escaped.unmarked_text known.whole).append_inj (known'.escaped.unmarked_text known'.whole)
    (show _ ++ '#' :: _ = _ ++ '#' :: _ from chars)
  exact ⟨String.toList_inj.mp address, String.toList_inj.mp rest⟩

/-- The text of a place is that of the root or starts with a slash. -/
theorem eq_root_of_path {place : Pointer} (noSlash : place.path.toList.head? ≠ some '/') : place = .root := by
  obtain ⟨segments⟩ := place
  cases segments with
  | nil => rfl
  | cons segment rest => simp [Pointer.path, Pointer.pathChars] at noSlash

/-- The location of a fragment leads to the fragment. -/
theorem Laid.located (laid : Laid draft index entries openers) (distinct : (index.documents.map Prod.fst).Nodup)
    (plain : ∀ f ∈ index.fragments, ∀ name ∈ f.anchors, name.toList.head? ≠ some '/')
    (inside : n ∈ index.fragments) : index.locations.lookup n.location = some n := by
  rw [laid.addresses] at distinct
  obtain ⟨own, listed, rfl⟩ := laid.listed n inside
  have unique {f : Fragment} (stands : StandsAt openers own.2.site.base.text own.2.site.within f) : f = own.2 :=
    stands.unique distinct laid.formed (laid.standsAt listed)
  have addressed := (laid.addressed own listed).2
  rw [laid.locations]
  refine lookup_keyed laid.followed ?_ ⟨own, listed, laid.location_mem_keysOf listed⟩
  intro entry member keyed
  obtain ⟨outer, site⟩ := laid.addressed entry member
  rcases mem_keysOf.mp keyed with here | ⟨-, here⟩ | ⟨name, declared, here⟩
  · obtain ⟨address, place⟩ := Site.location_inj addressed outer here
    exact .inl (unique (address ▸ place ▸ laid.stands entry member))
  · obtain ⟨address, place⟩ := Site.location_inj addressed site here
    exact .inl (unique (address ▸ place ▸ laid.standsAt member))
  · obtain ⟨address, text⟩ := key_inj site addressed here
    have indexed := laid.mem_fragments member
    have top : own.2.site.within = .root := eq_root_of_path (text ▸ plain _ indexed name declared)
    by_cases root : entry.2.site.within = .root
    · exact .inl (unique (address ▸ top ▸ root ▸ laid.standsAt member))
    · refine .inr ⟨root, fun later known place base => ?_⟩
      have same : later.2.location = own.2.location := by
        simp only [Fragment.location, Site.location, place, top, base, address]
      exact same ▸ laid.location_mem_keysOf known

end Index

/-! ## Identifiers -/

/-- Whether a text starts with an encoded slash whose digit is a small letter. -/
def startsWithSmallSlash (identifier : String) : Bool := ['%', '2', 'f'].isPrefixOf identifier.toList

namespace Context

variable {context : Context} {resource : Uri} {identifier : String} {place : Pointer} {n : Fragment}

/-- An encoded place leads to what is located there. -/
theorem lookup?_of_located (decoded : Percent.decode identifier = place.path)
    (large : startsWithSmallSlash identifier = false)
    (located : context.located? (resource.text ++ "#" ++ place.path) = some n) :
    context.lookup? resource identifier = some n := by
  have pointer : Pointer.ofFragment identifier = .ok place := by rw [Pointer.ofFragment, decoded, Pointer.parse_path]
  by_cases top : place = .root
  · subst top
    obtain rfl : identifier = "" := Percent.eq_empty_of_decode decoded
    have key : resource.text ++ "#" ++ Pointer.root.path = resource.text ++ "#" := String.append_empty
    rw [key] at located
    exact located
  · obtain ⟨rest, slash⟩ : ∃ rest, place.path.toList = '/' :: rest := by
      by_contra none
      refine top (Index.eq_root_of_path fun head => none ?_)
      exact List.head?_eq_some_iff.mp head
    have starts : ['/'].isPrefixOf identifier.toList ∨ ['%', '2', 'F'].isPrefixOf identifier.toList := by
      rcases Percent.starts_of_decode (decoded ▸ slash) with ⟨more, plain⟩ | ⟨c, more, triple, rfl | rfl⟩
      · exact .inl (by simp [plain])
      · exact .inr (by simp [triple])
      · simp [startsWithSmallSlash, triple] at large
    have some : identifier.isEmpty = false := by
      rw [← Bool.not_eq_true, String.isEmpty_iff]
      rintro rfl
      simp at starts
    unfold lookup?
    rw [if_neg (by simp [some]), if_neg (not_not.mpr starts)]
    simp only [pointer, located]

/-- After a slash with a small digit there is no pointer: what is found declares the text for its name. -/
theorem declares_of_lookup? {draft : Draft} {entries : List (Site × Fragment)} {openers : List (String × Fragment)}
    (laid : context.index.Laid draft entries openers) (small : startsWithSmallSlash identifier = true)
    {site : Site} (addressed : site.Addressed) (found : context.lookup? site.base identifier = some n) :
    identifier ∈ n.anchors := by
  obtain ⟨rest, chars⟩ : ∃ rest, identifier.toList = '%' :: '2' :: 'f' :: rest := by
    obtain ⟨rest, same⟩ := List.isPrefixOf_iff_prefix.mp small
    exact ⟨rest, by rw [← same]; rfl⟩
  have some : identifier.isEmpty = false := by
    rw [← Bool.not_eq_true, String.isEmpty_iff]
    rintro rfl
    simp at chars
  have located : context.index.locations.lookup (site.base.text ++ "#" ++ identifier) = Option.some n := by
    simpa [lookup?, some, chars, located?] using found
  have member := mem_of_lookup located
  rw [laid.locations, List.mem_reverse] at member
  obtain ⟨entry, inside, made⟩ := List.mem_flatMap.mp member
  obtain ⟨key, keyed, same⟩ := List.mem_map.mp made
  cases same
  obtain ⟨outer, own⟩ := laid.addressed entry inside
  have noPlace (place : Pointer) : identifier ≠ place.path := by
    rintro rfl
    obtain rfl : place = .root := Index.eq_root_of_path (by simp [chars])
    simp [Pointer.path, Pointer.pathChars, Pointer.root] at chars
  rcases Index.mem_keysOf.mp keyed with here | ⟨-, here⟩ | ⟨name, declared, here⟩
  · exact absurd (Index.key_inj addressed outer here).2 (noPlace _)
  · exact absurd (Index.key_inj addressed own here).2 (noPlace _)
  · exact (Index.key_inj own addressed here).2 ▸ declared

end Context

/-- Every fragment of the schema is in its index. -/
theorem Compiler.mem_fragments_of_reaches {compiler : Compiler} {schema : Json} {node : Node} {f : Fragment}
    (compiled : compiler.compile schema = .ok node) (reaches : node.fragment.Reaches f) :
    f ∈ node.context.index.fragments := by
  unfold compile at compiled
  obtain ⟨⟨index, position⟩, -, compiled⟩ := Fragment.bind_eq_ok.mp compiled
  obtain ⟨⟨index', root⟩, document, same⟩ := Fragment.bind_eq_ok.mp compiled
  cases same
  obtain ⟨_, -, same⟩ := Fragment.bind_eq_ok.mp document
  cases same
  exact Index.mem_fragments_add_of_reaches reaches

/-- Where no two resources share an address and no plain name starts with a slash, every fragment of the documents
is found by the address of its resource and its place there, in any encoding. Only where the first slash is encoded
with a small digit the text is a plain name. -/
theorem Compiler.lookup_finds_fragments {compiler : Compiler} {schema : Json} {node : Node}
    (compiled : compiler.compile schema = .ok node)
    (formed : ∀ document ∈ compiler.documents schema, document.WellFormed)
    (distinct : (node.context.index.documents.map Prod.fst).Nodup)
    (plain : ∀ f ∈ node.context.index.fragments, ∀ name ∈ f.anchors, name.toList.head? ≠ some '/')
    {n : Fragment} (inside : n ∈ node.context.index.fragments) {identifier : String}
    (decoded : Percent.decode identifier = n.site.within.path) :
    (startsWithSmallSlash identifier = false → node.context.lookup? n.site.base identifier = some n) ∧
      (startsWithSmallSlash identifier = true → ∀ found,
        node.context.lookup? n.site.base identifier = some found → identifier ∈ found.anchors) := by
  obtain ⟨entries, openers, laid⟩ := compiler.exists_laid compiled formed
  constructor
  · intro large
    exact Context.lookup?_of_located decoded large (laid.located distinct plain inside)
  · intro small found named
    obtain ⟨entry, listed, rfl⟩ := laid.listed n inside
    exact Context.declares_of_lookup? laid small (laid.addressed entry listed).2 named

/-! ## A definition -/

namespace NamedDefinition

/-- A schema that refers to its definition with encoded slashes. -/
def document : Json := .obj [
  ("$ref", .str "#%2fdefinitions%2fa"), ("definitions", .obj [("a", .obj [("type", .str "string")])])]

def definition : Fragment :=
  ⟨(Site.ofDocument .default).below ["definitions", "a"], .document 0, .obj [("type", .str "string")], [], none, []⟩

def root : Fragment :=
  ⟨.ofDocument .default, .document 0, document, [], none, [(.definition "definitions" "a", definition)]⟩

def context : Context := ⟨.draft2020, .standard, Index.empty.add .draft2020 .default root⟩

theorem compiled : Compiler.standard.compile document = .ok (.reach context root []) := rfl

theorem reaches : root.Reaches definition := .single ⟨_, List.mem_singleton_self _⟩

/-- The definition is not found where the slashes are encoded with small digits. -/
theorem small_slash_not_found : ∃ node n, Compiler.standard.compile document = .ok node ∧
    (node.context.index.documents.map Prod.fst).Nodup ∧
    (∀ f ∈ node.context.index.fragments, ∀ name ∈ f.anchors, name.toList.head? ≠ some '/') ∧
    node.fragment.Reaches n ∧ Percent.decode "%2fdefinitions%2fa" = n.site.within.path ∧
    node.context.lookup? n.site.base "%2fdefinitions%2fa" = none := by
  have none : (context.lookup? definition.site.base "%2fdefinitions%2fa").isNone = true := by decide +kernel
  refine ⟨_, definition, compiled, ?_, ?_, reaches, ?_, Option.isNone_iff_eq_none.mp none⟩
  · decide +kernel
  · decide +kernel
  · decide +kernel

/-- The definition is found where only the digit in front is large. -/
theorem large_slash_found : ∃ node, Compiler.standard.compile document = .ok node ∧
    node.context.lookup? definition.site.base "%2Fdefinitions%2f%61" = some definition := by
  have formed : ∀ json ∈ Compiler.standard.documents document, json.WellFormed := by
    simp [Compiler.documents, Compiler.standard, Json.WellFormed, document, Json.Storable]
  refine ⟨_, compiled, ?_⟩
  have inside : definition ∈ context.index.fragments := Compiler.mem_fragments_of_reaches compiled reaches
  have decoded : Percent.decode "%2Fdefinitions%2f%61" = definition.site.within.path := by decide +kernel
  have found := Compiler.lookup_finds_fragments compiled formed (by decide +kernel) (by decide +kernel) inside decoded
  exact found.1 (by decide +kernel)

end NamedDefinition
end JsonSchema
