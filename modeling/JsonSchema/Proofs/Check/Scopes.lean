import JsonSchema.Proofs.Check.Verdict
import JsonSchema.Proofs.Compilation.Tree

/-!
# Checks in other scopes

A check asks its scope only through the fragments that it passes on to its judge. Where the judge
answers for these in two scopes alike, the check finds the same in both.
-/

namespace JsonSchema

theorem gather_congr {α : Type} {xs : List α} {f g : α → Option (List Violation)} (each : ∀ x ∈ xs, f x = g x) :
    gather xs f = gather xs g := by
  rw [gather, gather, mapM_congr (List.forall₂_same.mpr each)]

/-- The children of a fragment that are checked against the value itself. -/
inductive Fragment.ChecksHere (draft : Draft) (f : Fragment) : Fragment → Prop where
  | negated {c : Fragment} (own : f.not? = some c) : ChecksHere draft f c
  | allOf {c : Fragment} (own : c ∈ f.members .allOf) : ChecksHere draft f c
  | anyOf {c : Fragment} (own : c ∈ f.members .anyOf) : ChecksHere draft f c
  | oneOf {c : Fragment} (own : c ∈ f.members .oneOf) : ChecksHere draft f c
  | dependency {dependency : Dependency} {c : Fragment} (own : dependency ∈ f.dependencies draft)
      (demand : dependency.demand = .schema c) : ChecksHere draft f c
  | conditional {c : Fragment} (own : f.condition? = some c ∨ f.consequence? = some c ∨ f.alternative? = some c) :
      ChecksHere draft f c

theorem Fragment.ChecksHere.hasChild {draft : Draft} {f c : Fragment} (here : f.ChecksHere draft c) : f.HasChild c := by
  cases here with
  | negated own => exact hasChild_of_child? own
  | allOf own | anyOf own | oneOf own => exact hasChild_of_members own
  | dependency own demand =>
    obtain ⟨keyword, -, among⟩ := List.mem_flatMap.mp own
    exact hasChild_of_dependenciesOf among demand
  | conditional own =>
    rcases own with own | own | own <;> exact hasChild_of_child? own

theorem Fragment.knows_of_mem_keywords {draft : Draft} {f : Fragment} {keyword : Keyword}
    (listed : keyword ∈ f.keywords draft) : draft.knows keyword = true := by
  unfold keywords at listed
  split at listed
  · exact (List.mem_filter.mp (List.mem_of_mem_filter listed)).2
  · cases listed

/-- A fragment asks for what its other keywords leave unevaluated. -/
def Fragment.LooksAround (draft : Draft) (f : Fragment) : Prop :=
  .unevaluatedItems ∈ f.keywords draft ∨ .unevaluatedProperties ∈ f.keywords draft

instance (draft : Draft) (f : Fragment) : Decidable (f.LooksAround draft) := inferInstanceAs (Decidable (_ ∨ _))

namespace Visit

/-- The visit of the same fragment in another scope. -/
def inScope (visit : Visit) (scope : Scope) : Visit := { visit with scope }

section
variable (visit : Visit) (scope : Scope)

@[simp] theorem inScope_context : (visit.inScope scope).context = visit.context := rfl

@[simp] theorem inScope_fragment : (visit.inScope scope).fragment = visit.fragment := rfl

@[simp] theorem inScope_data : (visit.inScope scope).data = visit.data := rfl

@[simp] theorem inScope_pointer : (visit.inScope scope).pointer = visit.pointer := rfl

@[simp] theorem inScope_scope : (visit.inScope scope).scope = scope := rfl

@[simp] theorem inScope_violationAt (code : ViolationCode) (pointer : Pointer) (value : Json) (details : Members) :
    (visit.inScope scope).violationAt code pointer value details = visit.violationAt code pointer value details := rfl

@[simp] theorem inScope_violation (code : ViolationCode) (details : Members) :
    (visit.inScope scope).violation code details = visit.violation code details := rfl

@[simp] theorem inScope_violationOf (code : ViolationCode) (nested : List Violation) :
    (visit.inScope scope).violationOf code nested = visit.violationOf code nested := rfl

end

variable {visit : Visit} {scope : Scope}

/-! ## Selection -/

/-- In another scope the members of `oneOf` get the same answers, and so do the schemas that they have
for a discriminating property. -/
structure SelectsAlike (visit : Visit) (scope : Scope) : Prop where
  settled : ∀ member ∈ visit.fragment.members .oneOf,
    visit.context.settle member scope = visit.context.settle member visit.scope
  member : ∀ member ∈ visit.fragment.members .oneOf, (visit.inScope scope).validateHere member = visit.validateHere member
  property : ∀ member ∈ visit.fragment.members .oneOf, ∀ c value segment,
    (visit.context.settle member visit.scope).HasChild c →
      (visit.inScope scope).validate c value (visit.pointer.join segment) =
        visit.validate c value (visit.pointer.join segment)

namespace SelectsAlike

variable (alike : visit.SelectsAlike scope)
include alike

theorem discriminates (name : String) (value : Json) {member : Fragment}
    (listed : member ∈ visit.fragment.members .oneOf) :
    (visit.inScope scope).discriminates name value member = visit.discriminates name value member := by
  unfold Visit.discriminates
  simp only [inScope_context, inScope_scope, inScope_pointer, alike.settled member listed]
  cases found : (visit.context.settle member visit.scope).property? name with
  | none => rfl
  | some schema =>
    dsimp only
    rw [alike.property member listed schema value name (Fragment.hasChild_of_property? found)]

theorem selectByProperty (name : String) : (visit.inScope scope).selectByProperty name = visit.selectByProperty name := by
  unfold Visit.selectByProperty
  simp only [inScope_data, inScope_fragment, inScope_violation]
  cases visit.data.member? name with
  | none => rfl
  | some value =>
    have positions : positionsWhere (visit.fragment.members .oneOf) ((visit.inScope scope).discriminates name value) =
        positionsWhere (visit.fragment.members .oneOf) (visit.discriminates name value) := by
      unfold positionsWhere
      rw [mapM_congr (List.forall₂_same.mpr fun member listed => alike.discriminates name value listed)]
    dsimp only
    rw [positions]
    refine congrArg (_ >>= ·) (funext fun positions => ?_)
    split
    · rfl
    · rename_i index
      cases found : (visit.fragment.members .oneOf)[index]? with
      | none => rfl
      | some member =>
        dsimp only
        rw [alike.member member (List.mem_of_getElem? found)]
    · rfl

theorem selectOneOf : (visit.inScope scope).selectOneOf = visit.selectOneOf := by
  unfold Visit.selectOneOf
  simp only [inScope_fragment]
  cases visit.fragment.discriminator? with
  | some name => exact alike.selectByProperty name
  | none =>
    dsimp only
    unfold Visit.selectByValue
    rw [inScope_fragment, mapM_congr (List.forall₂_same.mpr fun c listed => alike.member c listed)]
    rfl

theorem checkOneOf : (visit.inScope scope).checkOneOf = visit.checkOneOf := by
  unfold Visit.checkOneOf
  rw [alike.selectOneOf]

end SelectsAlike

/-! ## Agreement -/

/-- In another scope the visit gets the same answers. -/
structure Agrees (visit : Visit) (scope : Scope) : Prop where
  selects : visit.SelectsAlike scope
  here : ∀ c, visit.fragment.ChecksHere visit.context.draft c →
    (visit.inScope scope).validateHere c = visit.validateHere c
  child : ∀ c, visit.fragment.HasChild c → ∀ value segment,
    (visit.inScope scope).validate c value (visit.pointer.join segment) =
      visit.validate c value (visit.pointer.join segment)
  shape : visit.fragment.LooksAround visit.context.draft → (visit.inScope scope).evaluatedShape = visit.evaluatedShape
  shaped : visit.fragment.LooksAround visit.context.draft → ∀ shape, visit.evaluatedShape = some shape →
    ∀ c, shape.HasChild c → ∀ value segment, (visit.inScope scope).validate c value (visit.pointer.join segment) =
      visit.validate c value (visit.pointer.join segment)

namespace Agrees

variable (agrees : visit.Agrees scope)
include agrees

theorem accepts {c : Fragment} (own : visit.fragment.ChecksHere visit.context.draft c) :
    (visit.inScope scope).accepts c = visit.accepts c := by
  rw [Visit.accepts, Visit.accepts, agrees.here c own]

/-! ## Items -/

theorem checkItem (item : Json) (index : Nat) : (visit.inScope scope).checkItem item index = visit.checkItem item index := by
  unfold Visit.checkItem
  simp only [inScope_fragment, inScope_pointer, inScope_violationAt]
  cases tuple : visit.fragment.tupleItems[index]? with
  | some schema => exact agrees.child _ (Fragment.hasChild_of_select_map (List.mem_of_getElem? tuple)) item _
  | none =>
    cases rest : visit.fragment.restItems? with
    | none => rfl
    | some schema =>
      dsimp only
      split
      · rfl
      · exact agrees.child _ (Fragment.hasChild_of_child? rest) item _

theorem checkItems : (visit.inScope scope).checkItems = visit.checkItems := by
  unfold Visit.checkItems
  simp only [inScope_data, agrees.checkItem]

theorem countMatches {schema : Fragment} (own : visit.fragment.HasChild schema) (items : List Json) :
    (visit.inScope scope).countMatches schema items = visit.countMatches schema items := by
  unfold Visit.countMatches
  refine congrArg (· >>= _) (congrArg (items.zipIdx.mapM ·) (funext fun ⟨item, index⟩ => ?_))
  exact agrees.child _ own item _

theorem checkContains : (visit.inScope scope).checkContains = visit.checkContains := by
  unfold Visit.checkContains
  simp only [inScope_data, inScope_fragment]
  cases visit.data with
  | arr items =>
    cases found : visit.fragment.contains? with
    | none => rfl
    | some schema =>
      dsimp only
      rw [agrees.countMatches (Fragment.hasChild_of_child? found)]
      rfl
  | _ => rfl

/-! ## Properties -/

theorem checkProperties : (visit.inScope scope).checkProperties = visit.checkProperties := by
  unfold Visit.checkProperties
  simp only [inScope_data, inScope_fragment, inScope_pointer]
  cases visit.data with
  | obj members =>
    refine gather_congr fun ⟨name, schema⟩ listed => ?_
    dsimp only
    split
    · exact agrees.child _ (Fragment.hasChild_of_select listed) _ _
    · rfl
  | _ => rfl

theorem checkPatternProperties : (visit.inScope scope).checkPatternProperties = visit.checkPatternProperties := by
  unfold Visit.checkPatternProperties
  simp only [inScope_data, inScope_fragment, inScope_pointer]
  cases visit.data with
  | obj members =>
    refine gather_congr fun ⟨name, value⟩ _ => gather_congr fun ⟨regex, schema⟩ listed => ?_
    dsimp only
    split
    · exact agrees.child _ (Fragment.hasChild_of_select listed) _ _
    · rfl
  | _ => rfl

theorem checkUncovered {schema : Fragment} (own : visit.fragment.HasChild schema) (covered : String → Bool)
    (code : ViolationCode) (members : Members) :
    (visit.inScope scope).checkUncovered schema covered code members = visit.checkUncovered schema covered code members := by
  refine gather_congr fun ⟨name, value⟩ _ => ?_
  dsimp only [inScope_pointer, inScope_violationAt]
  split
  · rfl
  · split
    · rfl
    · exact agrees.child _ own _ _

theorem checkAdditionalProperties :
    (visit.inScope scope).checkAdditionalProperties = visit.checkAdditionalProperties := by
  unfold Visit.checkAdditionalProperties
  simp only [inScope_data, inScope_fragment]
  cases visit.data with
  | obj members =>
    cases found : visit.fragment.additionalProperties? with
    | none => rfl
    | some schema => exact agrees.checkUncovered (Fragment.hasChild_of_child? found) _ _ _
  | _ => rfl

theorem checkPropertyNames : (visit.inScope scope).checkPropertyNames = visit.checkPropertyNames := by
  unfold Visit.checkPropertyNames
  simp only [inScope_data, inScope_fragment, inScope_pointer, inScope_violationAt]
  cases visit.data with
  | obj members =>
    cases found : visit.fragment.propertyNames? with
    | none => rfl
    | some schema =>
      refine gather_congr fun ⟨name, value⟩ _ => ?_
      dsimp only
      rw [agrees.child _ (Fragment.hasChild_of_child? found)]
  | _ => rfl

theorem checkDependencies {keyword : Keyword} (listed : keyword ∈ Fragment.dependencyKeywords)
    (known : visit.context.draft.knows keyword = true) :
    (visit.inScope scope).checkDependencies keyword = visit.checkDependencies keyword := by
  unfold Visit.checkDependencies
  simp only [inScope_data, inScope_fragment]
  cases visit.data with
  | obj members =>
    refine gather_congr fun dependency among => ?_
    have own : dependency ∈ visit.fragment.dependencies visit.context.draft :=
      List.mem_flatMap.mpr ⟨keyword, List.mem_filter.mpr ⟨listed, known⟩, among⟩
    unfold checkDependency
    split
    · rfl
    · cases demand : dependency.demand with
      | names names => rfl
      | schema schema => exact agrees.here schema (.dependency own demand)
  | _ => rfl

/-! ## Composition -/

theorem checkNot : (visit.inScope scope).checkNot = visit.checkNot := by
  unfold Visit.checkNot
  simp only [inScope_fragment]
  cases found : visit.fragment.not? with
  | none => rfl
  | some schema =>
    dsimp only
    rw [agrees.accepts (.negated found)]
    rfl

theorem checkAllOf : (visit.inScope scope).checkAllOf = visit.checkAllOf := by
  unfold Visit.checkAllOf
  simp only [inScope_fragment]
  rw [gather_congr fun c listed => agrees.here c (.allOf listed)]
  rfl

theorem failuresBefore {members : List Fragment}
    (own : ∀ c ∈ members, visit.fragment.ChecksHere visit.context.draft c) :
    (visit.inScope scope).failuresBefore members = visit.failuresBefore members := by
  induction members with
  | nil => rfl
  | cons member rest ih =>
    unfold Visit.failuresBefore
    rw [agrees.here member (own member List.mem_cons_self), ih fun c listed => own c (List.mem_cons_of_mem _ listed)]

theorem checkAnyOf : (visit.inScope scope).checkAnyOf = visit.checkAnyOf := by
  unfold Visit.checkAnyOf
  simp only [inScope_fragment]
  rw [agrees.failuresBefore fun c => .anyOf]
  rfl

theorem checkConditional : (visit.inScope scope).checkConditional = visit.checkConditional := by
  unfold Visit.checkConditional
  simp only [inScope_fragment]
  cases found : visit.fragment.condition? with
  | none => rfl
  | some condition =>
    dsimp only
    rw [agrees.accepts (.conditional (.inl found))]
    refine congrArg (_ >>= ·) (funext fun holds => ?_)
    cases holds with
    | true =>
      cases taken : visit.fragment.consequence? with
      | none => rfl
      | some branch => exact agrees.here branch (.conditional (.inr (.inl taken)))
    | false =>
      cases taken : visit.fragment.alternative? with
      | none => rfl
      | some branch => exact agrees.here branch (.conditional (.inr (.inr taken)))

/-! ## What no other keyword evaluates -/

theorem checkUnevaluatedItem {schema : Fragment} (own : visit.fragment.HasChild schema) {containing : Option Fragment} {item : Json}
    {index : Nat} (shaped : ∀ c, containing = some c → (visit.inScope scope).validate c item (visit.pointer.item index) =
      visit.validate c item (visit.pointer.item index)) :
    (visit.inScope scope).checkUnevaluatedItem schema containing item index =
      visit.checkUnevaluatedItem schema containing item index := by
  have same : (visit.inScope scope).validate schema item (visit.pointer.item index) =
      visit.validate schema item (visit.pointer.item index) := agrees.child _ own item _
  unfold Visit.checkUnevaluatedItem
  simp only [inScope_pointer, inScope_violationAt, same]
  cases containing with
  | none => rfl
  | some containing =>
    simp only [shaped containing rfl]

theorem checkUnevaluatedItems (asks : visit.fragment.LooksAround visit.context.draft) :
    (visit.inScope scope).checkUnevaluatedItems = visit.checkUnevaluatedItems := by
  unfold Visit.checkUnevaluatedItems
  simp only [inScope_data, inScope_fragment, agrees.shape asks, inScope_context]
  cases visit.data with
  | arr items =>
    cases found : visit.fragment.unevaluatedItems? with
    | none => rfl
    | some schema =>
      dsimp only
      cases reduced : visit.evaluatedShape with
      | none => rfl
      | some shape =>
        simp only [Option.bind_eq_bind, Option.bind_some]
        split
        · rfl
        · refine gather_congr fun ⟨item, index⟩ _ => agrees.checkUnevaluatedItem (Fragment.hasChild_of_child? found)
            fun c same => agrees.shaped asks shape reduced c ?_ item _
          have found : shape.contains? = some c := by
            cases evaluates : visit.context.draft.containsEvaluates with
            | true => simpa [evaluates] using same
            | false => simp [evaluates] at same
          exact Fragment.hasChild_of_child? found
  | _ => rfl

theorem checkUnevaluatedProperties (asks : visit.fragment.LooksAround visit.context.draft) :
    (visit.inScope scope).checkUnevaluatedProperties = visit.checkUnevaluatedProperties := by
  unfold Visit.checkUnevaluatedProperties
  simp only [inScope_data, inScope_fragment, agrees.shape asks]
  cases visit.data with
  | obj members =>
    cases found : visit.fragment.unevaluatedProperties? with
    | none => rfl
    | some schema =>
      refine congrArg (_ >>= ·) (funext fun shape => ?_)
      split
      · rfl
      · exact agrees.checkUncovered (Fragment.hasChild_of_child? found) _ _ _
  | _ => rfl

/-! ## All keywords -/

theorem check {keyword : Keyword} (listed : keyword ∈ visit.fragment.keywords visit.context.draft) :
    (visit.inScope scope).check keyword = visit.check keyword := by
  cases keyword with
  | items => exact agrees.checkItems
  | contains => exact agrees.checkContains
  | properties => exact agrees.checkProperties
  | patternProperties => exact agrees.checkPatternProperties
  | additionalProperties => exact agrees.checkAdditionalProperties
  | propertyNames => exact agrees.checkPropertyNames
  | dependencies | dependentRequired | dependentSchemas => exact agrees.checkDependencies (by decide) (Fragment.knows_of_mem_keywords listed)
  | «not» => exact agrees.checkNot
  | allOf => exact agrees.checkAllOf
  | anyOf => exact agrees.checkAnyOf
  | oneOf => exact agrees.selects.checkOneOf
  | conditional => exact agrees.checkConditional
  | unevaluatedItems => exact agrees.checkUnevaluatedItems (.inl listed)
  | unevaluatedProperties => exact agrees.checkUnevaluatedProperties (.inr listed)
  | _ => rfl

end Agrees
end Visit

/-- A fragment without reference is checked alike in a scope in which it gets the same answers. -/
theorem Context.validateSettled_inScope {context : Context} {judge : Judge} {fragment : Fragment} {data : Json}
    {pointer : Pointer} {scope other : Scope}
    (agrees : (Visit.mk context judge fragment data pointer scope).Agrees other) :
    context.validateSettled judge fragment data pointer other =
      context.validateSettled judge fragment data pointer scope := by
  unfold validateSettled
  split
  · rfl
  · rfl
  · exact gather_congr fun keyword listed => agrees.check (List.mem_of_mem_filter listed)

end JsonSchema
