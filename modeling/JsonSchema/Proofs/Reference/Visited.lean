import JsonSchema.Proofs.Merge.Members
import JsonSchema.Proofs.Node.Handle
import JsonSchema.Proofs.Reference.Rebase
import JsonSchema.Proofs.Uri.Identifier

/-!
# Chains are followed to their end

The next step of a chain depends on the scope that the steps before have made, and on fragments that were merged on
the way. But what a reference says is what the first one says or what a possible target says, as it is written or made
absolute. So all targets of a chain stand at finitely many locations, no more of them than there are steps, and only
an end of the chain itself ends the search.
-/

namespace JsonSchema

namespace Context

variable {context : Context}

/-! ## Possible targets -/

/-- The addresses by which documents are found. -/
noncomputable def resources (context : Context) : List Uri :=
  context.index.documents.flatMap fun entry => Uri.addressesIn entry.1

/-- The values in documents. -/
def values (context : Context) : List Json := context.index.documents.flatMap fun entry => entry.2.values

/-- The resources and schemas of possible targets. -/
noncomputable def origins (context : Context) : List (Uri × Json) :=
  context.index.fragments.map (fun f => (f.site.base, f.schema)) ++
    (context.resources ×ˢ context.values).map fun entry => (resourceAlong context.draft entry.1 [entry.2], entry.2)

theorem length_resources_le (context : Context) : context.resources.length ≤ context.index.addressLimit := by
  unfold resources Index.addressLimit
  induction context.index.documents with
  | nil => exact Nat.le_refl _
  | cons entry rest ih =>
    rw [List.flatMap_cons, List.length_append, List.foldr_cons]
    exact Nat.add_le_add (Uri.length_addressesIn_le entry.1) ih

theorem length_values_le (context : Context) : context.values.length ≤ context.index.capacity := by
  unfold values Index.capacity
  induction context.index.documents with
  | nil => exact Nat.zero_le _
  | cons entry rest ih =>
    rw [List.flatMap_cons, List.length_append, List.foldr_cons, Json.length_values]
    exact Nat.add_le_add_left ih _

theorem length_fragments (index : Index) : index.fragments.length = index.entryCount := by
  simp [Index.fragments, Index.entryCount, Nat.add_assoc]

theorem length_origins_le (context : Context) :
    context.origins.length ≤ context.index.entryCount + context.index.addressLimit * context.index.capacity := by
  rw [origins, List.length_append, List.length_map, List.length_map, List.length_product, length_fragments]
  exact Nat.add_le_add_left (Nat.mul_le_mul context.length_resources_le context.length_values_le) _

/-! ## Possible references -/

/-- What the references of a schema say, as they are written and absolute. -/
def referenceTexts (base : Uri) (schema : Json) : List String :=
  [ReferenceKeyword.static, .recursive, .dynamic].flatMap fun keyword =>
    (schema.stringMember? keyword.name).elim []
      fun reference => [reference, absolute (rebasedAlong base [schema]) reference]

theorem length_referenceTexts_le (base : Uri) (schema : Json) : (referenceTexts base schema).length ≤ 6 := by
  have pair (name : String) : ((schema.stringMember? name).elim []
      fun reference => [reference, absolute (rebasedAlong base [schema]) reference]).length ≤ 2 := by
    cases schema.stringMember? name <;> simp
  have first := pair ReferenceKeyword.static.name
  have second := pair ReferenceKeyword.recursive.name
  have third := pair ReferenceKeyword.dynamic.name
  simp only [referenceTexts, List.flatMap_cons, List.flatMap_nil, List.length_append, List.length_nil]
  omega

theorem mem_referenceTexts {base : Uri} {schema : Json} (keyword : ReferenceKeyword) {reference : String}
    (refers : schema.stringMember? keyword.name = some reference) :
    reference ∈ referenceTexts base schema ∧
      absolute (rebasedAlong base [schema]) reference ∈ referenceTexts base schema := by
  have listed : keyword ∈ [ReferenceKeyword.static, .recursive, .dynamic] := by
    cases keyword <;> decide
  constructor
  · exact List.mem_flatMap.mpr ⟨keyword, listed, by simp [refers]⟩
  · exact List.mem_flatMap.mpr ⟨keyword, listed, by simp [refers]⟩

/-- What the references of a chain can say that starts with some reference. -/
noncomputable def texts (context : Context) (first : String) : List String :=
  first :: context.origins.flatMap fun origin => referenceTexts origin.1 origin.2

theorem length_texts_le (context : Context) (first : String) :
    (context.texts first).length ≤
      6 * (context.index.entryCount + context.index.addressLimit * context.index.capacity) + 1 := by
  have several : (context.origins.flatMap fun origin => referenceTexts origin.1 origin.2).length ≤
      6 * context.origins.length := by
    induction context.origins with
    | nil => exact Nat.le_refl _
    | cons origin rest ih =>
      have own := length_referenceTexts_le origin.1 origin.2
      rw [List.flatMap_cons, List.length_append, List.length_cons]
      omega
  have few := context.length_origins_le
  rw [texts, List.length_cons]
  omega

/-- The fragment identifier of a reference. -/
def identifierOf (reference : String) : String := (Uri.fragmentOf (Uri.tidy reference)).getD ""

theorem identifier_of_split {base resource : Uri} {reference identifier : String}
    (split : splitReference base reference = some (resource, identifier)) : identifier = identifierOf reference := by
  unfold splitReference at split
  cases joined : base.join reference with
  | error fault =>
    rw [joined] at split
    cases split
  | ok address =>
    rw [joined] at split
    cases split
    rw [identifierOf, Uri.fragment_of_join joined]

/-! ## Possible locations -/

/-- The locations that a chain can come to that starts with some reference. -/
noncomputable def places (context : Context) (first : String) : List String :=
  context.index.fragments.map Fragment.location ++
    (context.resources ×ˢ (context.texts first).map identifierOf).filterMap fun address =>
      (context.lookup? address.1 address.2).map Fragment.location

theorem length_places_le (context : Context) (first : String) :
    (context.places first).length ≤ context.index.chainLimit := by
  rw [places, Index.chainLimit, List.length_append, List.length_map, length_fragments]
  refine Nat.add_le_add_left ((List.length_filterMap_le _ _).trans ?_) _
  rw [List.length_product, List.length_map]
  exact Nat.mul_le_mul context.length_resources_le (context.length_texts_le first)

variable {first : String} {current target next : Fragment} {keyword : ReferenceKeyword} {reference : String} {scope : Scope}

/-- A fragment that refers, if at all, by one of the possible texts. -/
def Familiar (context : Context) (first : String) (f : Fragment) : Prop :=
  ∀ keyword reference, f.reference? context.draft = some (keyword, reference) → reference ∈ context.texts first

theorem stringMember?_of_reference? {f : Fragment} {draft : Draft}
    (refers : f.reference? draft = some (keyword, reference)) : f.schema.stringMember? keyword.name = some reference := by
  obtain ⟨other, -, found⟩ := List.exists_of_findSome?_eq_some refers
  split at found
  · obtain ⟨text, written, same⟩ := Option.map_eq_some_iff.mp found
    cases same
    exact written
  · cases found

/-- A target is a possible one, at a possible location. -/
theorem target_possible (known : reference ∈ context.texts first)
    (found : context.target? current keyword reference scope = some target) :
    target.location ∈ context.places first ∧ (target.site.base, target.schema) ∈ context.origins := by
  obtain ⟨resource, identifier, split, named⟩ := target?_eq_some found
  have indexed (listed : target ∈ context.index.fragments) :
      target.location ∈ context.places first ∧ (target.site.base, target.schema) ∈ context.origins :=
    ⟨List.mem_append_left _ (List.mem_map_of_mem listed), List.mem_append_left _ (List.mem_map_of_mem listed)⟩
  rcases named with named | listed
  · rcases lookup?_eq_some named with listed | ⟨pointer, document, schema, stored, inside, derived⟩
    · exact indexed listed
    · have entry := mem_of_lookup stored
      have addressed : resource ∈ context.resources := List.mem_flatMap.mpr ⟨_, entry, resource.mem_addressesIn⟩
      have valued : schema ∈ context.values :=
        List.mem_flatMap.mpr ⟨_, entry, Json.mem_values (Json.mem_parts_of_resolve? inside)⟩
      have compiled := Fragment.compile_eq_ok.mp derived
      constructor
      · refine List.mem_append_right _ (List.mem_filterMap.mpr ⟨(resource, identifier), ?_, by rw [named]; rfl⟩)
        refine List.mem_product.mpr ⟨addressed, ?_⟩
        rw [identifier_of_split split]
        exact List.mem_map_of_mem known
      · refine List.mem_append_right _ (List.mem_map.mpr ⟨(resource, schema), List.mem_product.mpr ⟨addressed, valued⟩, ?_⟩)
        rw [compiled.base_eq, compiled.schema_eq]
  · exact indexed listed

/-! ## Possible steps -/

/-- The keywords beside a reference bring no reference into a merge. -/
theorem stringMember?_merge_siblings {a schema : Json}
    (refers : (merge a (siblings schema)).stringMember? keyword.name = some reference) :
    a.stringMember? keyword.name = some reference := by
  have stripped : strippedSiblings.contains keyword.name = true := by cases keyword <;> decide
  obtain ⟨beside, same, absent⟩ : ∃ beside, siblings schema = .obj beside ∧ beside.lookup keyword.name = none := by
    cases schema with
    | obj members => exact ⟨_, rfl, by rw [lookup_without, if_pos stripped]⟩
    | _ => exact ⟨[], rfl, rfl⟩
  rw [same] at refers
  rcases mergeUnder_cases none a (.obj beside) with ⟨_, _, rfl, both⟩ | ⟨_, _, _, other⟩ | left | right
  · cases both
    rw [merge_obj, Json.stringMember?, Json.member?, lookup_mergedMembers_left absent] at refers
    exact refers
  · cases other
  · rwa [merge, left] at refers
  · rw [merge, right, Json.stringMember?, Json.member?, absent] at refers
    cases refers

theorem texts_of_rebase {base : Uri} {schema : Json}
    (refers : (rebase base schema).stringMember? keyword.name = some reference) :
    reference ∈ referenceTexts base schema := by
  cases written : schema.stringMember? keyword.name with
  | some text =>
    have rebased := Fragment.stringMember?_rebase base keyword written
    rw [refers, Option.some.injEq] at rebased
    rw [rebased]
    exact (mem_referenceTexts keyword written).2
  | none =>
    cases schema with
    | obj members =>
      have noData : keyword.name ∉ dataKeywords := by cases keyword <;> decide
      rw [rebase, Json.stringMember?, Json.member?, lookup_rebaseMembers] at refers
      rw [Json.stringMember?, Json.member?] at written
      cases found : members.lookup keyword.name with
      | none =>
        rw [found] at refers
        cases refers
      | some value =>
        rw [found] at refers written
        have noText : ∀ text, value ≠ .str text := by
          rintro text rfl
          cases written
        rw [Option.map_some, rebasedMember_of_not_str noText, if_neg noData] at refers
        cases (written.symm.trans (string?_rebase value).symm).trans refers
    | _ => cases refers

/-- What stands for a fragment with a possible target refers by one of the possible texts. -/
theorem familiar_of_follow? (possible : (target.site.base, target.schema) ∈ context.origins)
    (followed : context.follow? current target = some next) : context.Familiar first next := by
  intro keyword reference refers
  have text := stringMember?_of_reference? refers
  refine List.mem_cons_of_mem _ (List.mem_flatMap.mpr ⟨_, possible, ?_⟩)
  cases merges : context.draft.mergesSiblings && hasSiblings current.schema with
  | true =>
    rw [Fragment.schema_of_derive (derive_of_follow? merges followed)] at text
    have text := stringMember?_merge_siblings text
    unfold mergeTarget at text
    split at text
    · cases text
    · exact texts_of_rebase text
  | false =>
    rw [follow?_of_replaces merges, Option.some.injEq] at followed
    subst followed
    exact (mem_referenceTexts keyword text).1

/-! ## Targets on the way -/

/-- The references from a fragment on lead from target to target and then to the last fragment. -/
inductive Visits (context : Context) : Fragment → Scope → List Fragment → Fragment → Prop where
  | here {current : Fragment} {scope : Scope} : Visits context current scope [] current
  | hop {current target next last : Fragment} {scope : Scope} {targets : List Fragment} {keyword : ReferenceKeyword}
      {reference : String} (refers : current.reference? context.draft = some (keyword, reference))
      (found : context.target? current keyword reference scope = some target)
      (followed : context.follow? current target = some next)
      (rest : Visits context next (scope.enter target) targets last) :
      Visits context current scope (target :: targets) last

/-- Why a chain that has come to some locations does not go on from a reference. -/
inductive Blocked (context : Context) (visited : List String) (current : Fragment) (keyword : ReferenceKeyword)
    (reference : String) (scope : Scope) : Prop where
  /-- The target cannot be found. -/
  | lost (missing : context.target? current keyword reference scope = none)
  /-- The target was visited. -/
  | returned {target : Fragment} (found : context.target? current keyword reference scope = some target)
      (back : target.location ∈ visited)
  /-- The keywords beside the reference are merged into the target, and the result does not compile. -/
  | refused {target : Fragment} {fault : SchemaFault}
      (found : context.target? current keyword reference scope = some target)
      (merges : (context.draft.mergesSiblings && hasSiblings current.schema) = true)
      (broken : Fragment.derive context.draft current.site
        (merge (mergeTarget target) (siblings current.schema)) = .error fault)

variable {last : Fragment} {targets : List Fragment} {seen : List String} {fuel : Nat}

theorem Visits.possible (visits : context.Visits current scope targets last) (familiar : context.Familiar first current) :
    ∀ target ∈ targets, target.location ∈ context.places first := by
  induction visits with
  | here => exact fun _ inside => absurd inside List.not_mem_nil
  | hop refers found followed _ ih =>
    obtain ⟨location, possible⟩ := target_possible (familiar _ _ refers) found
    exact List.forall_mem_cons.mpr ⟨location, ih (familiar_of_follow? possible followed)⟩

/-- No chain comes to more targets at different locations than the index allows for. -/
theorem Visits.length_le (visits : context.Visits current scope targets last)
    (distinct : (targets.map Fragment.location).Nodup) : targets.length ≤ context.index.chainLimit := by
  have all : ∃ first, context.Familiar first current := by
    cases refers : current.reference? context.draft with
    | none =>
      refine ⟨"", fun keyword reference other => ?_⟩
      rw [refers] at other
      cases other
    | some own =>
      refine ⟨own.2, fun keyword reference other => ?_⟩
      cases refers.symm.trans other
      exact List.mem_cons_self
  obtain ⟨first, familiar⟩ := all
  have inside : targets.map Fragment.location ⊆ context.places first :=
    fun _ listed => by
      obtain ⟨target, member, rfl⟩ := List.mem_map.mp listed
      exact visits.possible familiar target member
  have few := (List.subperm_of_subset distinct inside).length_le
  rw [List.length_map] at few
  exact few.trans (context.length_places_le first)

/-- Where no keywords are merged, the last fragment is the last target. -/
theorem Visits.getLast? (visits : context.Visits current scope targets last)
    (replaces : context.draft.mergesSiblings = false) (some : targets ≠ []) : targets.getLast? = .some last := by
  induction visits with
  | here => exact absurd rfl some
  | hop _ _ followed rest ih =>
    rw [follow?_of_replaces (by rw [replaces, Bool.false_and])] at followed
    cases followed
    cases rest with
    | here => rfl
    | hop refers found followed rest => exact ih (List.cons_ne_nil _ _)

/-! ## The search -/

theorem followChain_of_settled (settled : current.reference? context.draft = none) :
    context.followChain fuel seen current scope = .resolved current scope := by
  unfold followChain
  simp [settled]

theorem followChain_of_blocked (refers : current.reference? context.draft = some (keyword, reference))
    (blocked : context.Blocked seen current keyword reference scope) :
    context.followChain fuel seen current scope = .unresolved reference := by
  unfold followChain
  cases blocked with
  | lost missing => simp [refers, missing]
  | returned found back => simp [refers, found, back]
  | refused found merges broken =>
    have nothing := follow?_eq_none.mpr ⟨merges, _, broken⟩
    simp only [refers, found, nothing]
    split <;> rfl

/-- The search goes along a chain of targets it has not come to. -/
theorem followChain_of_visits (visits : context.Visits current scope targets last)
    (distinct : (targets.map Fragment.location).Nodup) (unseen : ∀ target ∈ targets, target.location ∉ seen) :
    context.followChain (targets.length + fuel) seen current scope =
      context.followChain fuel ((targets.map Fragment.location).reverse ++ seen) last
        (targets.foldl Scope.enter scope) := by
  induction visits generalizing seen with
  | here => simp
  | @hop current target next last scope targets keyword reference refers found followed _ ih =>
    rw [List.map_cons, List.nodup_cons] at distinct
    obtain ⟨fresh, later⟩ := List.forall_mem_cons.mp unseen
    have step : context.followChain ((target :: targets).length + fuel) seen current scope =
        context.followChain (targets.length + fuel) (target.location :: seen) next (scope.enter target) := by
      rw [List.length_cons, Nat.succ_add, followChain.eq_def]
      simp [refers, found, followed, fresh]
    rw [step, ih distinct.2 fun other inside => ?_, List.map_cons, List.reverse_cons, List.append_assoc]
    · rfl
    · intro back
      rcases List.mem_cons.mp back with same | back
      · exact distinct.1 (same ▸ List.mem_map_of_mem inside)
      · exact later other inside back

/-- From every fragment on, targets at different locations lead to an end, to a reference that blocks,
or as far as one likes. -/
theorem exists_visits (context : Context) (length : Nat) (seen : List String) (current : Fragment) (scope : Scope) :
    ∃ targets last, context.Visits current scope targets last ∧ (targets.map Fragment.location).Nodup ∧
      (∀ target ∈ targets, target.location ∉ seen) ∧
      (last.reference? context.draft = none ∨
        (∃ keyword reference, last.reference? context.draft = some (keyword, reference) ∧
          context.Blocked ((targets.map Fragment.location).reverse ++ seen) last keyword reference
            (targets.foldl Scope.enter scope)) ∨
        length ≤ targets.length) := by
  induction length generalizing seen current scope with
  | zero => exact ⟨[], current, .here, List.nodup_nil, by simp, .inr (.inr (Nat.zero_le _))⟩
  | succ length ih =>
    cases refers : current.reference? context.draft with
    | none => exact ⟨[], current, .here, List.nodup_nil, by simp, .inl refers⟩
    | some own =>
      obtain ⟨keyword, reference⟩ := own
      -- a reference that does not block leads to a target at another location
      by_cases blocked : context.Blocked seen current keyword reference scope
      · exact ⟨[], current, .here, List.nodup_nil, by simp, .inr (.inl ⟨keyword, reference, refers, blocked⟩)⟩
      · cases found : context.target? current keyword reference scope with
        | none => exact absurd (.lost found) blocked
        | some target =>
          have unseen : target.location ∉ seen := fun back => blocked (.returned found back)
          cases followed : context.follow? current target with
          | none =>
            obtain ⟨merges, fault, broken⟩ := follow?_eq_none.mp followed
            exact absurd (.refused found merges broken) blocked
          | some next =>
            obtain ⟨targets, last, visits, distinct, fresh, ends⟩ := ih (target.location :: seen) next (scope.enter target)
            refine ⟨target :: targets, last, .hop refers found followed visits, ?_, ?_, ?_⟩
            · refine List.nodup_cons.mpr ⟨fun twice => ?_, distinct⟩
              obtain ⟨other, inside, same⟩ := List.mem_map.mp twice
              exact fresh other inside (same ▸ List.mem_cons_self)
            · exact List.forall_mem_cons.mpr ⟨unseen, fun other inside back =>
                fresh other inside (List.mem_cons_of_mem _ back)⟩
            · rcases ends with settled | blocked | long
              · exact .inl settled
              · rw [List.map_cons, List.reverse_cons, List.append_assoc]
                exact .inr (.inl blocked)
              · exact .inr (.inr (Nat.succ_le_succ long))

theorem Blocked.congr {visited : List String} (same : ∀ location, location ∈ seen ↔ location ∈ visited)
    (blocked : context.Blocked seen current keyword reference scope) :
    context.Blocked visited current keyword reference scope := by
  cases blocked with
  | lost missing => exact .lost missing
  | returned found back => exact .returned found ((same _).mp back)
  | refused found merges broken => exact .refused found merges broken

/-- A chain that ends is resolved. -/
theorem Visits.resolve_eq_resolved (visits : context.Visits current scope targets last)
    (distinct : (targets.map Fragment.location).Nodup) (refers : current.reference? context.draft ≠ none)
    (settled : last.reference? context.draft = none) :
    context.resolve current scope = .resolved last (targets.foldl Scope.enter scope) := by
  obtain ⟨left, enough⟩ := Nat.exists_eq_add_of_le (visits.length_le distinct)
  rw [resolve, if_neg (by simpa using refers), enough, Nat.add_assoc,
    followChain_of_visits visits distinct (by simp), followChain_of_settled settled]

/-- A chain that is blocked is unresolved. -/
theorem Visits.resolve_eq_unresolved (visits : context.Visits current scope targets last)
    (distinct : (targets.map Fragment.location).Nodup) (refers : last.reference? context.draft = some (keyword, reference))
    (blocked : context.Blocked (targets.map Fragment.location) last keyword reference (targets.foldl Scope.enter scope)) :
    context.resolve current scope = .unresolved reference := by
  obtain ⟨left, enough⟩ := Nat.exists_eq_add_of_le (visits.length_le distinct)
  have starts : current.reference? context.draft ≠ none := by
    cases visits with
    | here => simp [refers]
    | hop first => simp [first]
  rw [resolve, if_neg (by simpa using starts), enough, Nat.add_assoc, followChain_of_visits visits distinct (by simp)]
  exact followChain_of_blocked refers (blocked.congr (by simp))

/-- From a reference on, the chain ends or is blocked. -/
theorem exists_visits_to_end (context : Context) (fragment : Fragment) (scope : Scope) :
    ∃ targets last, context.Visits fragment scope targets last ∧ (targets.map Fragment.location).Nodup ∧
      (last.reference? context.draft = none ∨
        ∃ keyword reference, last.reference? context.draft = some (keyword, reference) ∧
          context.Blocked (targets.map Fragment.location) last keyword reference (targets.foldl Scope.enter scope)) := by
  obtain ⟨targets, last, visits, distinct, -, ends⟩ :=
    exists_visits context (context.index.chainLimit + 1) [] fragment scope
  refine ⟨targets, last, visits, distinct, ?_⟩
  rcases ends with settled | ⟨keyword, reference, refers, blocked⟩ | long
  · exact .inl settled
  · exact .inr ⟨keyword, reference, refers, blocked.congr (by simp)⟩
  · exact absurd (visits.length_le distinct) (Nat.not_le.mpr long)

/-- A chain of references is followed to the fragment without reference where it ends, with the targets entered
into the scope one after the other, or to the reference that blocks it, however long it is. Where no
keywords are merged, it ends at its last target, and a chain that comes back to a target is blocked. -/
theorem chains_are_followed_to_end (context : Context) (fragment : Fragment) (scope : Scope) :
    (context.resolve fragment scope = .plain ↔ fragment.reference? context.draft = none) ∧
    (∀ final inner, context.resolve fragment scope = .resolved final inner ↔
      fragment.reference? context.draft ≠ none ∧ final.reference? context.draft = none ∧
        ∃ targets, context.Visits fragment scope targets final ∧ (targets.map Fragment.location).Nodup ∧
          inner = targets.foldl Scope.enter scope) ∧
    (∀ reference, context.resolve fragment scope = .unresolved reference ↔
      ∃ targets last keyword, context.Visits fragment scope targets last ∧ (targets.map Fragment.location).Nodup ∧
        last.reference? context.draft = some (keyword, reference) ∧
        context.Blocked (targets.map Fragment.location) last keyword reference (targets.foldl Scope.enter scope)) ∧
    (∀ targets last, context.Visits fragment scope targets last → (targets.map Fragment.location).Nodup →
      targets.length ≤ context.index.chainLimit) ∧
    (context.draft = .draft4 ∨ context.draft = .draft6 ∨ context.draft = .draft7 → ∀ targets last,
      context.Visits fragment scope targets last → (targets.map Fragment.location).Nodup → targets ≠ [] →
      targets.getLast? = some last ∧
      (last.reference? context.draft = none →
        context.resolve fragment scope = .resolved last (targets.foldl Scope.enter scope)) ∧
      ∀ keyword reference target, last.reference? context.draft = some (keyword, reference) →
        context.target? last keyword reference (targets.foldl Scope.enter scope) = some target →
        target.location ∈ targets.map Fragment.location → context.resolve fragment scope = .unresolved reference) := by
  have starts {targets : List Fragment} {last : Fragment} (visits : context.Visits fragment scope targets last)
      (some : targets ≠ []) : fragment.reference? context.draft ≠ none := by
    cases visits with
    | here => exact absurd rfl some
    | hop refers => simp [refers]
  obtain ⟨targets, last, visits, distinct, ends⟩ := exists_visits_to_end context fragment scope
  refine ⟨resolve_eq_plain, fun final inner => ⟨fun resolved => ?_, ?_⟩, fun reference => ⟨fun unresolved => ?_, ?_⟩,
    fun _ _ => Visits.length_le, fun older targets last visits distinct some => ⟨?_, fun settled => ?_, ?_⟩⟩
  · have refers : fragment.reference? context.draft ≠ none := fun none => by
      rw [resolve_eq_plain.mpr none] at resolved
      cases resolved
    rcases ends with settled | ⟨keyword, reference, blocks, blocked⟩
    · rw [visits.resolve_eq_resolved distinct refers settled] at resolved
      cases resolved
      exact ⟨refers, settled, targets, visits, distinct, rfl⟩
    · rw [visits.resolve_eq_unresolved distinct blocks blocked] at resolved
      cases resolved
  · rintro ⟨refers, settled, targets, visits, distinct, rfl⟩
    exact visits.resolve_eq_resolved distinct refers settled
  · rcases ends with settled | ⟨keyword, other, blocks, blocked⟩
    · by_cases refers : fragment.reference? context.draft = none
      · rw [resolve_eq_plain.mpr refers] at unresolved
        cases unresolved
      · rw [visits.resolve_eq_resolved distinct refers settled] at unresolved
        cases unresolved
    · rw [visits.resolve_eq_unresolved distinct blocks blocked] at unresolved
      cases unresolved
      exact ⟨targets, last, keyword, visits, distinct, blocks, blocked⟩
  · rintro ⟨targets, last, keyword, visits, distinct, refers, blocked⟩
    exact visits.resolve_eq_unresolved distinct refers blocked
  · have replaces : context.draft.mergesSiblings = false := by
      rcases older with draft | draft | draft <;> rw [draft] <;> rfl
    exact visits.getLast? replaces some
  · exact visits.resolve_eq_resolved distinct (starts visits some) settled
  · exact fun keyword reference target refers found back =>
      visits.resolve_eq_unresolved distinct refers (.returned found back)

end Context

/-! ## A chain through definitions -/

namespace ChainOfDefinitions

/-- A schema that is a reference to a definition. -/
def link (name : String) : Json := .obj [("$ref", .str ("#/definitions/" ++ name))]

/-- A schema that refers to the first of three definitions, each of which but the last refers to the next. -/
def document : Json := .obj [
  ("$ref", .str "#/definitions/a"),
  ("definitions", .obj [("a", link "b"), ("b", link "c"), ("c", .obj [("type", .str "null")])])]

def definition (name : String) (schema : Json) : Fragment :=
  ⟨(Site.ofDocument .default).below ["definitions", name], .document 0, schema, [], none, []⟩

def targets : List Fragment :=
  [definition "a" (link "b"), definition "b" (link "c"), definition "c" (.obj [("type", .str "null")])]

def root : Fragment :=
  ⟨.ofDocument .default, .document 0, document, [], none,
    targets.zipWith (fun target name => (.definition "definitions" name, target)) ["a", "b", "c"]⟩

def context : Context := ⟨.draft7, .standard, Index.empty.add .draft7 .default root⟩

/-- The compiler for the draft. -/
def compiler : Compiler := { Compiler.standard with draft := some .draft7 }

theorem compiled : compiler.compile document = .ok (.reach context root []) := rfl

theorem chain_of_three_is_resolved :
    compiler.compile document = .ok (.reach context root []) ∧
    context.resolve root [] = .resolved (definition "c" (.obj [("type", .str "null")])) (targets.foldl Scope.enter []) := by
  have visits : context.Visits root [] targets (definition "c" (.obj [("type", .str "null")])) :=
    .hop rfl rfl rfl (.hop rfl rfl rfl (.hop rfl rfl rfl .here))
  have distinct : (targets.map Fragment.location).Nodup := by decide +kernel
  have ends := (Context.chains_are_followed_to_end context root []).2.2.2.2 (.inr (.inr rfl)) targets _ visits distinct
    (List.cons_ne_nil _ _)
  exact ⟨compiled, ends.2.1 rfl⟩

end ChainOfDefinitions
end JsonSchema
