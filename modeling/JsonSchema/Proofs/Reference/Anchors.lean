import JsonSchema.Proofs.Reference.Guidance
import JsonSchema.Proofs.Reference.Indexed

/-!
# Anchors that references look for in their scope

A reference whose static target opts in goes on to the outermost resource of its scope that declares
the anchor. Where a resource in a scope declares it, the frames entered later do not matter; so a
fragment whose references are all bound in a scope stands for one fragment everywhere inside it.
-/

namespace JsonSchema

namespace Fragment

/-- Whether a static target passes a reference on to the outermost anchor. -/
def optsIn (target : Fragment) (identifier : String) : ReferenceKeyword → Bool
  | .static => false
  | .recursive => (target.keyword? "$recursiveAnchor").any (·.isBool true)
  | .dynamic => !identifier.isEmpty && target.schema.stringMember? "$dynamicAnchor" == some identifier

/-- Whether a fragment declares, for its resource, the anchor that a reference looks for. -/
def declaresAnchor (f : Fragment) (identifier : String) : ReferenceKeyword → Bool
  | .static => false
  | .recursive => (f.keyword? "$recursiveAnchor").any (·.isBool true) && f.site.within.isRoot
  | .dynamic => f.schema.stringMember? "$dynamicAnchor" == some identifier

theorem hasReference_of_reference? {draft : Draft} {f : Fragment} {keyword : ReferenceKeyword} {reference : String}
    (refers : f.reference? draft = some (keyword, reference)) : draft.hasReference keyword = true := by
  obtain ⟨keyword', -, found⟩ := List.exists_of_findSome?_eq_some refers
  split at found
  · rename_i defined
    obtain ⟨_, -, same⟩ := Option.map_eq_some_iff.mp found
    cases same
    exact defined
  · cases found

end Fragment

/-! ## Anchors in the index -/

namespace Index

variable {draft : Draft} {index : Index} {base : Uri} {root f : Fragment}

/-- The anchors that the fragments of an index declare are found. -/
structure Anchored (draft : Draft) (index : Index) : Prop where
  dynamic : ∀ f ∈ index.fragments, ∀ key, dynamicKey? draft f = some key → (index.dynamicAnchors.lookup key).isSome
  recursive : ∀ f ∈ index.fragments, ∀ key, recursiveKey? draft f = some key → (index.recursiveAnchors.lookup key).isSome

theorem anchored_empty : Anchored draft .empty := ⟨fun _ inside => (nomatch inside), fun _ inside => (nomatch inside)⟩

/-- The key of a fragment that is added, or was known before, is found. -/
theorem isSome_lookup_of_added {fragments : List (Site × Fragment)} {known : List (String × Fragment)}
    {key? : Fragment → Option String} {key : String} (keyed : key? f = some key)
    (listed : (known.lookup key).isSome ∨ ∃ entry ∈ fragments, entry.2 = f) :
    (((fragments.filterMap fun entry => (key? entry.2).map (·, entry.2)).reverse ++ known).lookup key).isSome := by
  rw [List.lookup_append, Option.isSome_or, Bool.or_eq_true]
  rcases listed with old | ⟨entry, inside, rfl⟩
  · exact .inr old
  · refine .inl (List.lookup_isSome_iff.mpr ⟨(key, entry.2), ?_, beq_self_eq_true key⟩)
    exact List.mem_reverse.mpr (List.mem_filterMap.mpr ⟨entry, inside, by rw [keyed]; rfl⟩)

theorem Anchored.add (anchored : index.Anchored draft) : (index.add draft base root).Anchored draft where
  dynamic _ inside key keyed := isSome_lookup_of_added keyed
    ((exists_entry_of_mem_fragments_add inside).imp_left fun old => anchored.dynamic _ old key keyed)
  recursive _ inside key keyed := isSome_lookup_of_added keyed
    ((exists_entry_of_mem_fragments_add inside).imp_left fun old => anchored.recursive _ old key keyed)

end Index

theorem Compiler.anchored_of_compile {compiler : Compiler} {schema : Json} {node : Node}
    (compiled : compiler.compile schema = .ok node) : node.context.index.Anchored node.context.draft :=
  index_of_compile compiled Index.anchored_empty fun _ _ _ _ _ _ anchored => anchored.add

namespace Context

variable {context : Context} {source target : Fragment} {keyword : ReferenceKeyword} {reference identifier : String}
  {outer scope : Scope} {base : Uri}

/-- A resource declares an anchor if a fragment of it does, in one of the documents. -/
def Declares (context : Context) (keyword : ReferenceKeyword) (identifier : String) (base : Uri) : Prop :=
  ∃ f ∈ context.index.fragments, f.site.base = base ∧ f.declaresAnchor identifier keyword = true

instance : Decidable (context.Declares keyword identifier base) :=
  inferInstanceAs (Decidable (∃ f ∈ context.index.fragments, _))

/-- The anchor of a resource that a reference looks for. -/
def anchor? (context : Context) (keyword : ReferenceKeyword) (identifier : String) (base : Uri) : Option Fragment :=
  match keyword with
  | .static => none
  | .recursive => context.recursiveAnchor? base
  | .dynamic => context.dynamicAnchor? base identifier

/-- The anchor in the outermost resource of a scope that has one. -/
def outermostAnchor? (context : Context) (keyword : ReferenceKeyword) (identifier : String) (scope : Scope) :
    Option Fragment :=
  scope.outermostFirst.findSome? fun frame => context.anchor? keyword identifier frame.site.base

/-- What a resource declares is found. -/
theorem isSome_anchor?_of_declares (anchored : context.index.Anchored context.draft)
    (defined : context.draft.hasReference keyword = true) (declares : context.Declares keyword identifier base) :
    (context.anchor? keyword identifier base).isSome := by
  obtain ⟨f, inside, rfl, declares⟩ := declares
  cases keyword with
  | static => cases declares
  | recursive =>
    simp only [Fragment.declaresAnchor, Bool.and_eq_true] at declares
    refine anchored.recursive f inside _ ?_
    rw [Index.recursiveKey?, show context.draft.hasRecursiveRef = true from defined, declares.1, declares.2]
    rfl
  | dynamic =>
    refine anchored.dynamic f inside _ ?_
    rw [Index.dynamicKey?, if_pos (show context.draft.hasDynamicRef = true from defined), beq_iff_eq.mp declares]
    rfl

/-! ## Targets -/

/-- A reference leads to its static target, or on to the outermost anchor. -/
theorem target?_eq : context.target? source keyword reference scope =
    (splitReference source.site.base reference).bind fun address =>
      (context.lookup? address.1 address.2).map fun target =>
        if target.optsIn address.2 keyword then (context.outermostAnchor? keyword address.2 scope).getD target
        else target := by
  unfold target?
  cases splitReference source.site.base reference with
  | none => rfl
  | some address =>
    obtain ⟨resource, identifier⟩ := address
    dsimp only [Option.bind_eq_bind, Option.bind_some]
    cases context.lookup? resource identifier with
    | none => rfl
    | some target =>
      cases keyword with
      | static => rfl
      | recursive | dynamic => exact (apply_ite some _ _ _).symm

/-- A reference whose static target opts in. -/
def OptsIn (context : Context) (source : Fragment) (keyword : ReferenceKeyword) (reference identifier : String) : Prop :=
  ∃ resource target, splitReference source.site.base reference = some (resource, identifier) ∧
    context.lookup? resource identifier = some target ∧ target.optsIn identifier keyword = true

instance : Decidable (context.OptsIn source keyword reference identifier) :=
  decidable_of_iff ((splitReference source.site.base reference).any fun address =>
      address.2 == identifier && (context.lookup? address.1 identifier).any (·.optsIn identifier keyword)) <| by
    simp [OptsIn, Option.any_eq_true]

/-- A resource of a scope declares the anchor that a reference looks for. -/
def Binds (context : Context) (outer : Scope) (keyword : ReferenceKeyword) (identifier : String) : Prop :=
  ∃ frame ∈ outer, context.Declares keyword identifier frame.fragment.site.base

instance : Decidable (context.Binds outer keyword identifier) := inferInstanceAs (Decidable (∃ frame ∈ outer, _))

theorem isSome_outermostAnchor? (anchored : context.index.Anchored context.draft)
    (defined : context.draft.hasReference keyword = true) (binds : context.Binds outer keyword identifier) :
    (context.outermostAnchor? keyword identifier outer).isSome := by
  obtain ⟨frame, inside, declares⟩ := binds
  refine List.findSome?_isSome_iff.mpr ⟨frame.fragment, ?_, isSome_anchor?_of_declares anchored defined declares⟩
  exact List.mem_reverse.mpr (List.mem_map_of_mem inside)

theorem outermostFirst_prefix (inside : outer <:+ scope) : outer.outermostFirst <+: scope.outermostFirst :=
  List.reverse_prefix.mpr (inside.map _)

/-- Frames entered later do not hide an anchor. -/
theorem outermostAnchor?_of_suffix {anchor : Fragment} (inside : outer <:+ scope)
    (found : context.outermostAnchor? keyword identifier outer = some anchor) :
    context.outermostAnchor? keyword identifier scope = some anchor := by
  obtain ⟨rest, longer⟩ := outermostFirst_prefix inside
  rw [outermostAnchor?, ← longer, List.findSome?_append, show List.findSome? _ _ = some anchor from found]
  rfl

/-- A bound reference leads to the outermost anchor of the scope it is bound in, from everywhere inside. -/
theorem target?_of_binds (anchored : context.index.Anchored context.draft)
    (refers : source.reference? context.draft = some (keyword, reference))
    (opts : context.OptsIn source keyword reference identifier) (binds : context.Binds outer keyword identifier)
    (inside : outer <:+ scope) :
    context.target? source keyword reference scope = context.outermostAnchor? keyword identifier outer := by
  obtain ⟨resource, target, split, named, opts⟩ := opts
  obtain ⟨anchor, found⟩ := Option.isSome_iff_exists.mp
    (isSome_outermostAnchor? anchored (Fragment.hasReference_of_reference? refers) binds)
  rw [target?_eq, split, Option.bind_some, named, Option.map_some, if_pos opts, outermostAnchor?_of_suffix inside found,
    found, Option.getD_some]

/-! ## Chains of bound references -/

/-- The references on the way from a fragment are bound in a scope, as far as their targets opt in. -/
inductive Bound (context : Context) (outer : Scope) : Fragment → Prop where
  | settled {current : Fragment} (settled : current.reference? context.draft = none) : Bound context outer current
  | hop {current : Fragment} {keyword : ReferenceKeyword} {reference : String}
      (refers : current.reference? context.draft = some (keyword, reference))
      (binds : ∀ identifier, context.OptsIn current keyword reference identifier →
        context.Binds outer keyword identifier)
      (rest : ∀ target next, context.target? current keyword reference outer = some target →
        context.follow? current target = some next → Bound context outer next) : Bound context outer current

/-- Such a reference leads to one target from everywhere inside the scope. -/
theorem target?_eq_of_suffix (anchored : context.index.Anchored context.draft)
    (refers : source.reference? context.draft = some (keyword, reference))
    (binds : ∀ identifier, context.OptsIn source keyword reference identifier → context.Binds outer keyword identifier)
    (inside : outer <:+ scope) :
    context.target? source keyword reference scope = context.target? source keyword reference outer := by
  by_cases opts : ∃ identifier, context.OptsIn source keyword reference identifier
  · obtain ⟨identifier, opts⟩ := opts
    rw [target?_of_binds anchored refers opts (binds identifier opts) inside,
      target?_of_binds anchored refers opts (binds identifier opts) List.suffix_rfl]
  · rw [target?_eq, target?_eq]
    cases split : splitReference source.site.base reference with
    | none => rfl
    | some address =>
      dsimp only [Option.bind_some]
      cases named : context.lookup? address.1 address.2 with
      | none => rfl
      | some target =>
        have static : target.optsIn address.2 keyword = false :=
          Bool.eq_false_iff.mpr fun asks => opts ⟨address.2, address.1, target, split, named, asks⟩
        rw [Option.map_some, Option.map_some, static]
        rfl

end Context

/-- The same frames entered inside two scopes. -/
def Scope.Beside (outer outer' left right : Scope) : Prop := ∃ entered, left = entered ++ outer ∧ right = entered ++ outer'

namespace Context.Bound

variable {context : Context} {outer outer' left right : Scope} {current : Fragment}

theorem followChain (anchored : context.index.Anchored context.draft) (wider : outer <:+ outer')
    (bound : context.Bound outer current) (fuel : Nat) (seen : List String) (beside : outer.Beside outer' left right) :
    (context.followChain fuel seen current left).Alike (Scope.Beside outer outer')
      (context.followChain fuel seen current right) := by
  induction bound generalizing fuel seen left right with
  | settled settled =>
    unfold Context.followChain
    rw [settled]
    exact .resolved beside
  | @hop current keyword reference refers binds rest ih =>
    obtain ⟨entered, rfl, rfl⟩ := beside
    have near := target?_eq_of_suffix anchored refers binds (List.suffix_append entered outer)
    have far := target?_eq_of_suffix anchored refers binds (wider.trans (List.suffix_append entered outer'))
    unfold Context.followChain
    simp only [refers, near, far]
    cases found : context.target? current keyword reference outer with
    | none => exact .unresolved
    | some target =>
      dsimp only
      split
      · exact .unresolved
      · cases fuel with
        | zero => exact .unresolved
        | succ fuel =>
          cases followed : context.follow? current target with
          | none => exact .unresolved
          | some next => exact ih target next found followed fuel _ ⟨⟨target, none⟩ :: entered, rfl, rfl⟩

/-- A fragment whose references are bound in a scope stands for one fragment everywhere inside. -/
theorem resolve (anchored : context.index.Anchored context.draft) (wider : outer <:+ outer')
    (bound : context.Bound outer current) (beside : outer.Beside outer' left right) :
    (context.resolve current left).Alike (Scope.Beside outer outer') (context.resolve current right) := by
  unfold Context.resolve
  split
  · exact .plain
  · exact bound.followChain anchored wider _ _ beside

end Context.Bound
end JsonSchema
