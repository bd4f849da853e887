import JsonSchema.Proofs.Check.Verdict
import JsonSchema.Proofs.Direct.Assertions

/-!
# Applicators decide clauses

Where the visit decides for every child of its fragment whether a value satisfies the child's
schema, the check of an applicator finds nothing just if the clause of the keyword holds.
-/

namespace JsonSchema

theorem mapM_eq_some_map {α β γ : Type} {xs : List α} {ys : List γ} {f : α → Option β} {g : γ → β}
    (each : List.Forall₂ (fun x y => f x = some (g y)) xs ys) : xs.mapM f = some (ys.map g) := by
  induction each with
  | nil => rfl
  | cons first _ ih =>
    rw [List.mapM_cons, first, ih]
    rfl

/-- Where each place is decided, the verdict is that of all. -/
theorem verdict_gather_of {α β : Type} {xs : List α} {ys : List β} {f : α → Option (List Violation)} {g : β → Bool}
    (each : List.Forall₂ (fun x y => verdict (f x) = some (g y)) xs ys) :
    verdict (gather xs f) = some (ys.all g) := by
  rw [verdict_gather_eq, mapM_eq_some_map each, Option.map_some, List.all_map]
  rfl

theorem verdict_gather_of_mem {α : Type} {xs : List α} {f : α → Option (List Violation)} {g : α → Bool}
    (each : ∀ x ∈ xs, verdict (f x) = some (g x)) : verdict (gather xs f) = some (xs.all g) :=
  verdict_gather_of (List.forall₂_same.mpr each)

/-- The last two drafts bound what `contains` counts. -/
theorem Draft.ite_boundsContains {α : Type} (draft : Draft) (bound free : α) :
    (if draft.boundsContains then bound else free) = if draft ∈ [Draft.draft2019, .draft2020] then bound else free := by
  cases draft <;> rfl

namespace Visit

open Dialect Fragment

/-- The visit comes to a given verdict on the children of its fragment. -/
def Decides (visit : Visit) (satisfies : Json → Json → Bool) : Prop :=
  ∀ child, visit.fragment.HasChild child → ∀ value pointer,
    verdict (visit.validate child value pointer) = some (satisfies child.schema value)

variable {visit : Visit} {satisfies : Json → Json → Bool} {members : Members} {source : Origin} {outer : Site}
  (made : FromObject visit.context.draft source outer members (Compiled visit.context.draft source) visit.fragment)
  (decides : visit.Decides satisfies) (refuses : ∀ value, satisfies (.bool false) value = false)

/-! ## Items -/

section
include decides

theorem verdict_here {child : Fragment} (below : visit.fragment.HasChild child) :
    verdict (visit.validateHere child) = some (satisfies child.schema visit.data) := decides child below _ _

theorem accepts_eq {child : Fragment} (below : visit.fragment.HasChild child) :
    visit.accepts child = some (satisfies child.schema visit.data) := verdict_here decides below

/-- A child that refuses everything is reported in its own way, to the same verdict. -/
theorem verdict_unless_refused (refuses : ∀ value, satisfies (.bool false) value = false) {child : Fragment}
    (below : visit.fragment.HasChild child) (value : Json) (pointer : Pointer) (violation : Violation) :
    verdict (if child.isBool false then some [violation] else visit.validate child value pointer) =
      some (satisfies child.schema value) := by
  split
  · rename_i refused
    rw [schema_of_isBool refused, refuses]
    rfl
  · exact decides child below value pointer

end

include made decides

include refuses in
theorem verdict_checkItems (shaped : members.HasItemShapes visit.context.draft) :
    verdict visit.checkItems = some (itemsHold satisfies members visit.data visit.context.draft) := by
  unfold checkItems itemsHold
  cases visit.data with
  | arr items =>
    refine verdict_gather_of_mem fun ⟨item, index⟩ _ => ?_
    simp only [checkItem, ← itemParts_eq shaped, ← made.tupleItems_schemas, ← made.restItems?_schema, List.getElem?_map]
    cases tuple : visit.fragment.tupleItems[index]? with
    | some child => exact decides child (hasChild_of_select_map (List.mem_of_getElem? tuple)) _ _
    | none =>
      cases rest : visit.fragment.restItems? with
      | some child => exact verdict_unless_refused decides refuses (hasChild_of_child? rest) _ _ _
      | none => rfl
  | _ => rfl

omit made in
theorem countMatches_eq_some {child : Fragment} (below : visit.fragment.HasChild child) (items : List Json) :
    visit.countMatches child items = some (items.countP (satisfies child.schema)) := by
  rw [countMatches_eq, mapM_eq_some_map (List.forall₂_same.mpr fun entry _ => decides child below entry.1 _), Option.map_some]
  conv_rhs => rw [← List.zipIdx_map_fst 0 items]
  rw [List.countP_map, List.countP_map]
  rfl

omit made decides in
theorem isEmpty_containsViolations (least most : Option Nat) (count : Nat) :
    (visit.containsViolations least most count).isEmpty = (least.getD 1 ≤ count && most.all (count ≤ ·)) := by
  have reported (broken : Prop) [Decidable broken] (violation : Violation) :
      (if broken then [violation] else []).isEmpty = !decide broken := by
    by_cases broken <;> simp_all
  have both (a b : List Violation) : (a ++ b).isEmpty = (a.isEmpty && b.isEmpty) := by cases a <;> rfl
  rw [containsViolations.eq_def, both]
  congr 1
  · cases least with
    | none => simp [reported, Nat.one_le_iff_ne_zero]
    | some least => simp [reported, ← decide_not]
  · cases most with
    | none => rfl
    | some most => simp [reported, ← decide_not]

theorem verdict_checkContains (known : visit.context.draft.knows .contains = true) :
    verdict visit.checkContains = some (containsHolds satisfies members visit.data visit.context.draft) := by
  have own := made.contains?_schema
  rw [if_pos known] at own
  unfold checkContains containsHolds Json.ofItems
  rw [← own]
  cases visit.data with
  | arr items =>
    cases child : visit.fragment.contains? with
    | none => rfl
    | some child =>
      simp only [countMatches_eq_some decides (hasChild_of_child? (by assumption)), keyword?_eq made.schema,
        limit?_eq_limitUnder, Draft.ite_boundsContains]
      exact congrArg some (isEmpty_containsViolations _ _ _)
  | _ => rfl

/-! ## Properties -/

theorem verdict_checkProperties :
    verdict visit.checkProperties = some (propertiesHold satisfies members visit.data) := by
  unfold checkProperties propertiesHold Json.ofMembers
  rw [← made.properties_schemas]
  cases visit.data with
  | obj own =>
    simp only [Json.members?, Option.all_some, List.all_map]
    refine verdict_gather_of_mem fun entry inside => ?_
    simp only [Function.comp_apply]
    cases own.lookup entry.1 with
    | none => rfl
    | some value => exact decides entry.2 (hasChild_of_select inside) _ _
  | _ => rfl

omit decides in
/-- The patterns that have schemas match as their texts say. -/
theorem patternProperties_matching (name : String) (test : Json → Bool) :
    (members.entries "patternProperties").all (fun entry => !isMatch entry.1 name || test entry.2) =
      visit.fragment.patternProperties.all fun entry => !entry.1.matchesIn name || test entry.2.schema := by
  have paired := congrArg (List.all · fun entry => !entry.1.matchesIn name || test entry.2) made.patternProperties_schemas
  simp only [List.all_map, List.all_filterMap] at paired
  refine Eq.trans ?_ paired.symm
  congr 1
  funext entry
  unfold isMatch
  cases (Regex.compile entry.1).toOption <;> rfl

theorem verdict_checkPatternProperties :
    verdict visit.checkPatternProperties = some (patternPropertiesHold satisfies members visit.data) := by
  unfold checkPatternProperties patternPropertiesHold Json.ofMembers
  cases visit.data with
  | obj own =>
    refine verdict_gather_of_mem fun ⟨name, value⟩ _ => ?_
    simp only [patternProperties_matching made name (satisfies · value)]
    refine verdict_gather_of_mem fun ⟨regex, child⟩ inside => ?_
    cases matched : regex.matchesIn name with
    | false => simp
    | true => simpa using decides child (hasChild_of_select inside) _ _
  | _ => rfl

omit decides in
theorem declares_eq (name : String) : visit.fragment.declares name = isDeclared members name := by
  have own : (visit.fragment.property? name).isSome = (members.entries "properties").has name := by
    rw [← made.properties_schemas, Members.has, property?]
    induction visit.fragment.properties with
    | nil => rfl
    | cons first rest ih =>
      rw [List.map_cons, List.lookup_cons, List.lookup_cons]
      cases name == first.1 with
      | true => rfl
      | false => exact ih
  have matching := patternProperties_matching made name fun _ => false
  simp only [Bool.or_false, List.all_eq_not_any_not, Bool.not_not, Bool.not_eq_eq_eq_not] at matching
  rw [declares, own, isDeclared, matching]

include refuses in
theorem verdict_checkAdditionalProperties :
    verdict visit.checkAdditionalProperties = some (additionalPropertiesHold satisfies members visit.data) := by
  unfold checkAdditionalProperties additionalPropertiesHold Json.ofMembers
  rw [← made.additionalProperties?_schema]
  cases visit.data with
  | obj own =>
    cases found : visit.fragment.additionalProperties? with
    | none => rfl
    | some child =>
      refine verdict_gather_of_mem fun ⟨name, value⟩ _ => ?_
      simp only [← declares_eq made]
      cases visit.fragment.declares name with
      | true => rfl
      | false => exact verdict_unless_refused decides refuses (hasChild_of_child? found) _ _ _
  | _ => rfl

theorem verdict_checkPropertyNames (known : visit.context.draft.knows .propertyNames = true) :
    verdict visit.checkPropertyNames = some (propertyNamesHold satisfies members visit.data) := by
  have schema := made.propertyNames?_schema
  rw [if_pos known] at schema
  unfold checkPropertyNames propertyNamesHold Json.ofMembers
  rw [← schema]
  cases visit.data with
  | obj own =>
    cases found : visit.fragment.propertyNames? with
    | none => rfl
    | some child =>
      refine verdict_gather_of_mem fun ⟨name, _⟩ _ => ?_
      have named := decides child (hasChild_of_child? found) (.str name) (visit.pointer.join name)
      obtain ⟨failures, reported, empty⟩ := Option.map_eq_some_iff.mp named
      simp only [reported, ← empty]
      cases failures <;> rfl
  | _ => rfl

/-! ## Dependencies -/

theorem verdict_checkDependencies {keyword : Keyword}
    (known : keyword ∈ dependencyKeywords.filter visit.context.draft.knows)
    (nodup : ((members.entries keyword.name).map Prod.fst).Nodup) :
    verdict (visit.checkDependencies keyword) = some (dependenciesHold satisfies members visit.data keyword.name) := by
  unfold checkDependencies dependenciesHold Json.ofMembers
  cases data : visit.data with
  | obj own =>
    refine verdict_gather_of ((made.dependencies_read known nodup).flip.imp fun dependency ⟨property, value⟩ read => ?_)
    obtain ⟨rfl, demanded⟩ := read
    simp only [checkDependency]
    cases Members.has own dependency.property with
    | false => rfl
    | true =>
      cases value with
      | arr names =>
        rw [show dependency.demand = .names (Members.texts names) from demanded]
        simp [isEmpty_missing]
      | _ =>
        obtain ⟨child, demand, below, schema⟩ := demanded
        have here := verdict_here decides below
        rw [schema, data] at here
        rw [demand]
        exact here
  | _ => rfl

/-! ## Composition -/

theorem verdict_checkNot (known : visit.context.draft.knows .not = true) :
    verdict visit.checkNot = some ((members.lookup "not").all fun schema => !satisfies schema visit.data) := by
  have schema := made.not?_schema
  rw [if_pos known] at schema
  unfold checkNot
  rw [← schema]
  cases found : visit.fragment.not? with
  | none => rfl
  | some child =>
    simp only [accepts_eq decides (hasChild_of_child? found), Option.map_some, Option.all_some]
    cases satisfies child.schema visit.data <;> rfl

theorem verdict_checkConditional (known : visit.context.draft.knows .conditional = true) :
    verdict visit.checkConditional = some (conditionalHolds satisfies members visit.data) := by
  have condition := made.condition?_schema
  have consequence := made.consequence?_schema
  have alternative := made.alternative?_schema
  rw [if_pos known] at condition consequence alternative
  unfold checkConditional conditionalHolds
  rw [← condition, ← consequence, ← alternative]
  cases found : visit.fragment.condition? with
  | none => rfl
  | some child =>
    simp only [accepts_eq decides (hasChild_of_child? found), Option.map_some, Option.all_some]
    cases satisfies child.schema visit.data with
    | true =>
      cases taken : visit.fragment.consequence? with
      | none => simp
      | some branch => simpa using verdict_here decides (hasChild_of_child? taken)
    | false =>
      cases taken : visit.fragment.alternative? with
      | none => simp
      | some branch => simpa using verdict_here decides (hasChild_of_child? taken)

theorem verdict_checkAllOf : verdict visit.checkAllOf =
    some ((members.elements "allOf").all (satisfies · visit.data)) := by
  have all : verdict (gather (visit.fragment.members .allOf) visit.validateHere) =
      some ((visit.fragment.members .allOf).all fun child => satisfies child.schema visit.data) :=
    verdict_gather_of_mem fun child inside => verdict_here decides (hasChild_of_members inside)
  have schemas := made.members_schemas (show .allOf ∈ _ by decide)
  rw [← show _ = members.elements "allOf" from schemas, List.all_map]
  exact (verdict_allOf visit).trans all

omit made in
/-- No failures are collected just if a member accepts. -/
theorem failuresBefore_eq (children : List Fragment) (below : ∀ child ∈ children, visit.fragment.HasChild child) :
    (visit.failuresBefore children).map Option.isNone =
      some (children.any fun child => satisfies child.schema visit.data) := by
  induction children with
  | nil => rfl
  | cons child rest ih =>
    have ih := ih fun child inside => below child (List.mem_cons_of_mem _ inside)
    obtain ⟨failures, reported, empty⟩ := Option.map_eq_some_iff.mp
      (verdict_here decides (below child List.mem_cons_self))
    simp only [failuresBefore, reported, Option.bind_eq_bind, Option.bind_some, List.any_cons, ← empty]
    cases failures with
    | nil => rfl
    | cons first later =>
      rw [List.isEmpty_cons, Bool.false_or, ← ih]
      cases visit.failuresBefore rest with
      | none => rfl
      | some found => cases found <;> rfl

theorem verdict_checkAnyOf : verdict visit.checkAnyOf =
    some ((members.elements "anyOf").any (satisfies · visit.data)) := by
  have any := failuresBefore_eq decides (visit.fragment.members .anyOf) fun child => hasChild_of_members
  have schemas := made.members_schemas (show .anyOf ∈ _ by decide)
  rw [← show _ = members.elements "anyOf" from schemas, List.any_map]
  exact (verdict_anyOf visit).trans any

theorem verdict_checkOneOf (undiscriminated : visit.fragment.discriminator? = none) : verdict visit.checkOneOf =
    some (decide ((members.elements "oneOf").countP (satisfies · visit.data) = 1)) := by
  have schemas := made.members_schemas (show .oneOf ∈ _ by decide)
  rw [← show _ = members.elements "oneOf" from schemas, List.countP_map]
  have judged : (visit.fragment.members .oneOf).mapM (fun child => verdict (visit.validateHere child)) =
      some ((visit.fragment.members .oneOf).map fun child => satisfies child.schema visit.data) :=
    mapM_eq_some_map (List.forall₂_same.mpr fun child inside => verdict_here decides (hasChild_of_members inside))
  unfold verdict at judged
  rw [← map_mapM] at judged
  obtain ⟨failures, reported, empty⟩ := Option.map_eq_some_iff.mp judged
  have chosen : ((failures.zipIdx.filter fun entry => entry.1.isEmpty).map Prod.snd).length =
      (visit.fragment.members .oneOf).countP ((satisfies · visit.data) ∘ Fragment.schema) := by
    rw [List.length_map, ← List.countP_eq_length_filter]
    have firsts := congrArg (List.countP List.isEmpty) (List.zipIdx_map_fst 0 failures)
    have verdicts := congrArg (List.countP id) empty
    rw [List.countP_map] at firsts verdicts
    rw [List.countP_map] at verdicts
    exact firsts.trans verdicts
  rw [← chosen]
  simp only [checkOneOf, selectOneOf, undiscriminated, selectByValue, reported, Option.bind_eq_bind, Option.bind_some]
  cases (failures.zipIdx.filter fun entry => entry.1.isEmpty).map Prod.snd with
  | nil => rfl
  | cons first rest => cases rest <;> simp [pure]

end Visit
end JsonSchema
