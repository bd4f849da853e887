import JsonSchema.Compiler
import JsonSchema.Proofs.Reference.Target
import JsonSchema.Proofs.Uri.Escaped

/-!
# Targets are compiled

Every fragment in the index of a compiled schema was compiled from its schema, for some site. So was
every target of a reference, as a target comes from the index or is compiled on the way.
-/

namespace JsonSchema

namespace Fragment

variable {draft : Draft} {source : Origin} {outer : Site} {schema : Json} {f g : Fragment}

/-- What is below a compiled fragment is compiled. -/
theorem Compiled.reaches (compiled : Compiled draft source outer schema f) (reaches : f.Reaches g) :
    ∃ outer', Compiled draft source outer' g.schema g := by
  induction reaches using Relation.ReflTransGen.head_induction_on generalizing outer schema with
  | refl => exact ⟨outer, compiled.schema_eq ▸ compiled⟩
  | head has _ ih =>
    obtain ⟨slot, inside⟩ := has
    obtain ⟨members, sub, -, -, child⟩ := compiled.child inside
    exact ih child

mutual

/-- Both orders list the same entries. -/
theorem outermostFirst_perm : ∀ (f : Fragment) (outer : Site), (f.outermostFirst outer).Perm (f.innermostFirst outer)
  | ⟨site, origin, schema, anchors, pattern, children⟩, outer => by
    rw [outermostFirst, innermostFirst]
    exact ((childrenOutermostFirst_perm children site).cons _).trans (List.perm_append_singleton _ _).symm

theorem childrenOutermostFirst_perm : ∀ (children : List (Slot × Fragment)) (site : Site),
    (childrenOutermostFirst site children).Perm (childrenInnermostFirst site children)
  | [], _ => .nil
  | (slot, child) :: rest, site => by
    rw [childrenOutermostFirst, childrenInnermostFirst]
    exact (outermostFirst_perm child _).append (childrenOutermostFirst_perm rest site)

end

mutual

theorem reaches_of_mem_innermostFirst : ∀ (f : Fragment) (outer : Site) (entry : Site × Fragment),
    entry ∈ f.innermostFirst outer → f.Reaches entry.2
  | ⟨site, origin, schema, anchors, pattern, children⟩, outer, entry, inside => by
    rw [innermostFirst] at inside
    rcases List.mem_append.mp inside with below | own
    · obtain ⟨child, listed, reaches⟩ := reaches_of_mem_childrenInnermostFirst children site entry below
      exact .head ⟨child.1, listed⟩ reaches
    · rw [List.mem_singleton.mp own]
      exact .refl

theorem reaches_of_mem_childrenInnermostFirst : ∀ (children : List (Slot × Fragment)) (site : Site)
    (entry : Site × Fragment), entry ∈ childrenInnermostFirst site children → ∃ child ∈ children, child.2.Reaches entry.2
  | [], _, _, inside => nomatch inside
  | (slot, child) :: rest, site, entry, inside => by
    rw [childrenInnermostFirst] at inside
    rcases List.mem_append.mp inside with first | later
    · exact ⟨_, List.mem_cons_self, reaches_of_mem_innermostFirst child _ entry first⟩
    · obtain ⟨other, listed, reaches⟩ := reaches_of_mem_childrenInnermostFirst rest site entry later
      exact ⟨other, List.mem_cons_of_mem _ listed, reaches⟩

end

theorem reaches_of_mem_outermostFirst (f : Fragment) (outer : Site) (entry : Site × Fragment)
    (inside : entry ∈ f.outermostFirst outer) : f.Reaches entry.2 :=
  reaches_of_mem_innermostFirst f outer entry ((outermostFirst_perm f outer).mem_iff.mp inside)

end Fragment

namespace Index

variable {draft : Draft} {index : Index} {base : Uri} {root f : Fragment}

/-- Every fragment of an index is compiled from its schema. -/
def WellCompiled (draft : Draft) (index : Index) : Prop :=
  ∀ f ∈ index.fragments, ∃ source outer, Fragment.Compiled draft source outer f.schema f

/-- Adding a document adds what is listed in its tree only. -/
theorem exists_entry_of_mem_fragments_add (inside : f ∈ (index.add draft base root).fragments) :
    f ∈ index.fragments ∨ ∃ entry ∈ root.innermostFirst (.ofDocument base), entry.2 = f := by
  let fragments := root.innermostFirst (.ofDocument base)
  have located {f : Fragment}
      (listed : f ∈ (fragments.flatMap fun entry => (keysOf entry.1 entry.2).map (·, entry.2)).map Prod.snd) :
      ∃ entry ∈ fragments, entry.2 = f := by
    obtain ⟨⟨key, g⟩, keyed, rfl⟩ := List.mem_map.mp listed
    obtain ⟨entry, known, made⟩ := List.mem_flatMap.mp keyed
    obtain ⟨_, -, same⟩ := List.mem_map.mp made
    cases same
    exact ⟨entry, known, rfl⟩
  have anchored {key? : Fragment → Option String} {f : Fragment}
      (listed : f ∈ (fragments.filterMap fun entry => (key? entry.2).map (·, entry.2)).map Prod.snd) :
      ∃ entry ∈ fragments, entry.2 = f := by
    obtain ⟨⟨key, g⟩, keyed, rfl⟩ := List.mem_map.mp listed
    obtain ⟨entry, known, made⟩ := List.mem_filterMap.mp keyed
    obtain ⟨_, -, same⟩ := Option.map_eq_some_iff.mp made
    cases same
    exact ⟨entry, known, rfl⟩
  simp only [Index.fragments, add, List.map_append, List.map_reverse, List.mem_append, List.mem_reverse] at inside ⊢
  rcases inside with ((new | old) | (new | old)) | (new | old)
  · exact .inr (located new)
  · exact .inl (.inl (.inl old))
  · exact .inr (anchored new)
  · exact .inl (.inl (.inr old))
  · exact .inr (anchored new)
  · exact .inl (.inr old)

/-- Adding a document adds fragments of its tree only. -/
theorem mem_fragments_add (inside : f ∈ (index.add draft base root).fragments) :
    f ∈ index.fragments ∨ root.Reaches f := by
  refine (exists_entry_of_mem_fragments_add inside).imp_right ?_
  rintro ⟨entry, listed, rfl⟩
  exact Fragment.reaches_of_mem_innermostFirst root _ entry listed

theorem wellCompiled_empty : WellCompiled draft .empty := fun _ inside => nomatch inside

end Index

/-- The base of a site is the address of a resource as it is written. -/
structure Site.Addressed (site : Site) : Prop where
  escaped : site.base.Escaped
  whole : site.base.fragment = none

namespace Compiler

variable {draft : Draft} {sources : List Json} {index next : Index} {position : Nat} {base : Uri} {schema : Json}
  {root : Fragment}

/-- The documents that a schema is compiled from. -/
def documents (compiler : Compiler) (schema : Json) : List Json := schema :: compiler.remotes.map Prod.snd

theorem addressed_default : (Site.ofDocument .default).Addressed := ⟨Uri.escaped_default, rfl⟩

theorem remoteBase_eq_ok {address : String} :
    remoteBase address = .ok base ↔ ∃ uri, Uri.default.join address = .ok uri ∧ uri.withoutFragment = base := by
  unfold remoteBase
  cases Uri.default.join address <;> simp

theorem addressed_remoteBase {address : String} (found : remoteBase address = .ok base) :
    (Site.ofDocument base).Addressed := by
  obtain ⟨uri, joined, rfl⟩ := remoteBase_eq_ok.mp found
  exact ⟨(Uri.escaped_of_join Uri.escaped_default joined).withoutFragment, rfl⟩

/-- A property of indexes that remote documents keep. -/
theorem keeps_of_remotes {holds : Index → Prop} {remotes : List (String × Json)} {position' : Nat}
    (add : ∀ index position base document root, document ∈ sources → (Site.ofDocument base).Addressed →
      Fragment.compile draft (.document position) (.ofDocument base) document = .ok root → holds index →
        holds (index.add draft base root))
    (added : addRemotes draft index position remotes = .ok (next, position')) (known : holds index)
    (listed : ∀ remote ∈ remotes, remote.2 ∈ sources) : holds next := by
  induction remotes generalizing index position with
  | nil =>
    cases added
    exact known
  | cons remote rest ih =>
    rw [addRemotes] at added
    obtain ⟨base, found, added⟩ := Fragment.bind_eq_ok.mp added
    obtain ⟨⟨index', root'⟩, first, later⟩ := Fragment.bind_eq_ok.mp added
    obtain ⟨_, compiled, same⟩ := Fragment.bind_eq_ok.mp first
    cases same
    obtain ⟨own, others⟩ := List.forall_mem_cons.mp listed
    exact ih later (add _ _ _ _ _ own (addressed_remoteBase found) compiled known) others

/-- What holds of the empty index, and is kept when one of the documents is added, holds of the index of a
compiled schema. -/
theorem index_of_documents {compiler : Compiler} {node : Node} (compiled : compiler.compile schema = .ok node)
    {holds : Index → Prop} (empty : holds .empty)
    (add : ∀ index position base document root, document ∈ compiler.documents schema → (Site.ofDocument base).Addressed →
      Fragment.compile node.context.draft (.document position) (.ofDocument base) document = .ok root → holds index →
        holds (index.add node.context.draft base root)) :
    holds node.context.index := by
  unfold compile at compiled
  obtain ⟨⟨index, position⟩, remotes, compiled⟩ := Fragment.bind_eq_ok.mp compiled
  obtain ⟨⟨index', root⟩, document, same⟩ := Fragment.bind_eq_ok.mp compiled
  cases same
  obtain ⟨_, made, same⟩ := Fragment.bind_eq_ok.mp document
  cases same
  refine add _ _ _ _ _ List.mem_cons_self addressed_default made (keeps_of_remotes add remotes empty ?_)
  exact fun remote inside => List.mem_cons_of_mem _ (List.mem_map_of_mem inside)

/-- What holds of the empty index, and is kept when a compiled document is added, holds of the index of a
compiled schema. -/
theorem index_of_compile {compiler : Compiler} {node : Node} (compiled : compiler.compile schema = .ok node)
    {holds : Index → Prop} (empty : holds .empty)
    (add : ∀ index position base schema root, Fragment.compile node.context.draft (.document position)
      (.ofDocument base) schema = .ok root → holds index → holds (index.add node.context.draft base root)) :
    holds node.context.index :=
  index_of_documents compiled empty fun index position base document root _ _ made known =>
    add index position base document root made known

/-- Every fragment in the index of a compiled schema is compiled. -/
theorem wellCompiled_of_compile {compiler : Compiler} {node : Node} (compiled : compiler.compile schema = .ok node) :
    node.context.index.WellCompiled node.context.draft := by
  refine index_of_compile compiled Index.wellCompiled_empty fun index position base schema root made known f inside => ?_
  rcases Index.mem_fragments_add inside with old | reaches
  · exact known f old
  · exact ⟨_, (Fragment.compile_eq_ok.mp made).reaches reaches⟩

/-- The root of a compiled schema is compiled for the draft that the compiler finds. -/
theorem root_of_compile {compiler : Compiler} {node : Node}
    (compiled : compiler.compile schema = .ok node) :
    node.context.draft = compiler.draftFor schema ∧ node.context.formats = compiler.formats ∧ node.scope = [] ∧
      ∃ position, Fragment.compile node.context.draft (.document position) (.ofDocument .default) schema =
        .ok node.fragment := by
  unfold Compiler.compile at compiled
  obtain ⟨⟨remotes, position⟩, -, compiled⟩ := Fragment.bind_eq_ok.mp compiled
  obtain ⟨⟨documents, root⟩, document, same⟩ := Fragment.bind_eq_ok.mp compiled
  cases same
  obtain ⟨root', made, same⟩ := Fragment.bind_eq_ok.mp document
  cases same
  exact ⟨rfl, rfl, rfl, position, made⟩

end Compiler

/-- A target of a reference is compiled. -/
theorem Context.compiled_of_target? {context : Context} (known : context.index.WellCompiled context.draft)
    {source target : Fragment} {keyword : ReferenceKeyword} {reference : String} {scope : Scope}
    (found : context.target? source keyword reference scope = some target) :
    ∃ source outer, Fragment.Compiled context.draft source outer target.schema target := by
  obtain ⟨resource, identifier, -, named | indexed⟩ := target?_eq_some found
  · rcases lookup?_eq_some named with indexed | ⟨pointer, document, schema, -, -, derived⟩
    · exact known target indexed
    · have compiled := Fragment.compile_eq_ok.mp derived
      exact ⟨_, _, compiled.schema_eq ▸ compiled⟩
  · exact known target indexed

end JsonSchema
