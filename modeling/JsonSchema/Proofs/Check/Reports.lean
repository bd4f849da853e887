import JsonSchema.Proofs.Check.Location
import JsonSchema.Proofs.Check.Scopes
import JsonSchema.Proofs.Reduction.Composed

/-!
# What a keyword reports

A keyword reports violations of its own kinds by the value, of one kind by a part of the value, and
those that other fragments find in a part. Only the compositions that a value settles pass on what
a member finds in the value itself.
-/

namespace JsonSchema

/-- The kinds of violation by the value itself that a keyword reports. -/
def Keyword.codes : Keyword → List ViolationCode
  | .type => [.type]
  | .enum => [.enum]
  | .const => [.const]
  | .format => [.format]
  | .maximum | .exclusiveMaximum => [.maximum]
  | .minimum | .exclusiveMinimum => [.minimum]
  | .multipleOf => [.multipleOf]
  | .maxLength => [.maxLength]
  | .minLength => [.minLength]
  | .pattern => [.pattern]
  | .contains => [.contains, .containsMin, .containsMax]
  | .minItems => [.minItems]
  | .maxItems => [.maxItems]
  | .required => [.requiredProperty]
  | .minProperties => [.minProperties]
  | .maxProperties => [.maxProperties]
  | .dependencies | .dependentRequired | .dependentSchemas => [.missingDependency]
  | .not => [.not]
  | .allOf => [.allOf]
  | .anyOf => [.anyOf]
  | .oneOf => [.oneOf, .multipleOneOf, .missingOneOfDiscriminator, .oneOfDiscriminator]
  | .items | .uniqueItems | .properties | .patternProperties | .additionalProperties | .propertyNames
  | .conditional | .unevaluatedItems | .unevaluatedProperties => []

/-- The kind of violation by a part of the value that a keyword reports. -/
def Keyword.partCode? : Keyword → Option ViolationCode
  | .items => some .additionalItems
  | .uniqueItems => some .uniqueItems
  | .additionalProperties => some .noAdditionalProperties
  | .propertyNames => some .invalidPropertyName
  | .unevaluatedItems => some .unevaluatedItems
  | .unevaluatedProperties => some .unevaluatedProperty
  | _ => none

/-- The composition whose member a keyword passes the value to and reports on. -/
def Keyword.passesTo? : Keyword → Option Reducer
  | .oneOf => some .oneOf
  | .dependencies | .dependentRequired | .dependentSchemas => some .dependencies
  | .conditional => some .conditional
  | _ => none

namespace Visit

variable {visit : Visit} {keyword : Keyword}

/-- Where a violation that a keyword reports comes from. -/
inductive Reports (visit : Visit) (keyword : Keyword) : Violation → Prop where
  /-- It is by the value itself. -/
  | value {code : ViolationCode} {details : Members} {nested : List Violation} (own : code ∈ keyword.codes) :
      Reports visit keyword { visit.violation code details with nested }
  /-- It is by a part of the value. -/
  | part {code : ViolationCode} {segment : String} {value : Json} {details : Members} {nested : List Violation}
      (own : keyword.partCode? = some code) :
      Reports visit keyword { visit.violationAt code (visit.pointer.join segment) value details with nested }
  /-- Another fragment finds it in a part of the value. -/
  | below {schema : Fragment} {value : Json} {segment : String} {found : List Violation} {v : Violation}
      (checked : visit.validate schema value (visit.pointer.join segment) = some found) (inside : v ∈ found) :
      Reports visit keyword v
  /-- A member of a composition finds it in the value. -/
  | here {reducer : Reducer} {schema : Fragment} {found : List Violation} {v : Violation}
      (passes : keyword.passesTo? = some reducer) (composed : visit.fragment.has visit.context.draft reducer = true)
      (checked : visit.validateHere schema = some found) (inside : v ∈ found) : Reports visit keyword v

/-! ## Violations by the value -/

namespace Reports

theorem of_violation {code : ViolationCode} (details : Members) (own : code ∈ keyword.codes) :
    visit.Reports keyword (visit.violation code details) := .value own

theorem of_if {code : ViolationCode} (details : Members) (own : code ∈ keyword.codes) (broken : Prop) [Decidable broken] :
    ∀ v ∈ if broken then [visit.violation code details] else [], visit.Reports keyword v := by
  by_cases holds : broken
  · rw [if_pos holds]
    exact List.forall_mem_singleton.mpr (of_violation details own)
  · simp [holds]

theorem of_unless {code : ViolationCode} (details : Members) (own : code ∈ keyword.codes) (kept : Prop) [Decidable kept] :
    ∀ v ∈ if kept then [] else [visit.violation code details], visit.Reports keyword v := by
  by_cases holds : kept
  · simp [holds]
  · rw [if_neg holds]
    exact List.forall_mem_singleton.mpr (of_violation details own)

theorem of_checkType : ∀ v ∈ visit.checkType, visit.Reports .type v := by
  unfold checkType
  split
  · simp
  · exact of_unless _ (by decide) _

theorem of_checkEnum : ∀ v ∈ visit.checkEnum, visit.Reports .enum v := by
  unfold checkEnum
  split
  · exact of_unless _ (by decide) _
  · simp

theorem of_checkConst : ∀ v ∈ visit.checkConst, visit.Reports .const v := by
  unfold checkConst
  split
  · exact of_unless _ (by decide) _
  · simp

theorem of_checkFormat : ∀ v ∈ visit.checkFormat, visit.Reports .format v := by
  unfold checkFormat
  split
  · split
    · exact of_unless _ (by decide) _
    · simp
  · simp

theorem of_checkBound {name label : String} {beyond : Ordering} {exclusive : Bool} {code : ViolationCode}
    (own : code ∈ keyword.codes) : ∀ v ∈ visit.checkBound name label beyond exclusive code, visit.Reports keyword v := by
  unfold checkBound
  split
  · exact of_if _ own _
  · simp

theorem of_checkMultipleOf : ∀ v ∈ visit.checkMultipleOf, visit.Reports .multipleOf v := by
  unfold checkMultipleOf
  split
  · exact of_unless _ (by decide) _
  · simp

theorem of_checkCount {name : String} {count : Option Nat} {within : Nat → Nat → Bool} {code : ViolationCode}
    (own : code ∈ keyword.codes) : ∀ v ∈ visit.checkCount name count within code, visit.Reports keyword v := by
  unfold checkCount
  split
  · exact of_unless _ own _
  · simp

theorem of_checkPattern : ∀ v ∈ visit.checkPattern, visit.Reports .pattern v := by
  unfold checkPattern
  split
  · exact of_unless _ (by decide) _
  · simp

theorem of_checkRequired : ∀ v ∈ visit.checkRequired, visit.Reports .required v := by
  unfold checkRequired
  split
  · intro v inside
    obtain ⟨name, -, rfl⟩ := List.mem_map.mp inside
    exact of_violation _ (by decide)
  · simp

theorem of_containsViolations (least most : Option Nat) (count : Nat) :
    ∀ v ∈ visit.containsViolations least most count, visit.Reports .contains v := by
  unfold containsViolations
  intro v inside
  rcases List.mem_append.mp inside with few | many
  · cases least with
    | none => exact of_if _ (by decide) _ v few
    | some least => exact of_if _ (by decide) _ v few
  · cases most with
    | none => cases many
    | some most => exact of_if _ (by decide) _ v many

theorem of_checkUniqueItems : ∀ v ∈ visit.checkUniqueItems, visit.Reports .uniqueItems v := by
  intro v inside
  unfold checkUniqueItems at inside
  split at inside
  · obtain ⟨⟨item, index, first⟩, -, made⟩ := List.mem_filterMap.mp inside
    simp only at made
    split at made
    · cases made
    · cases made
      exact .part rfl
  · cases inside

/-! ## Parts -/

theorem finds_below (schema : Fragment) (value : Json) (segment : String) :
    Finds (visit.Reports keyword) (visit.validate schema value (visit.pointer.join segment)) :=
  fun _ checked _ inside => .below checked inside

theorem finds_checkItems : Finds (visit.Reports .items) visit.checkItems := by
  unfold checkItems
  split
  · refine .gather fun ⟨item, index⟩ _ => ?_
    unfold checkItem
    simp only
    split
    · exact finds_below _ _ _
    · split
      · exact .single (.part rfl)
      · exact finds_below _ _ _
    · exact .nil
  · exact .nil

theorem finds_checkContains : Finds (visit.Reports .contains) visit.checkContains := by
  unfold checkContains
  split
  · exact .bind fun count _ => .of_forall (of_containsViolations _ _ count)
  · exact .nil

theorem finds_checkProperties : Finds (visit.Reports .properties) visit.checkProperties := by
  unfold checkProperties
  split
  · refine .gather fun ⟨name, schema⟩ _ => ?_
    simp only
    split
    · exact finds_below _ _ _
    · exact .nil
  · exact .nil

theorem finds_checkPatternProperties : Finds (visit.Reports .patternProperties) visit.checkPatternProperties := by
  unfold checkPatternProperties
  split
  · refine .gather fun ⟨name, member⟩ _ => .gather fun ⟨regex, schema⟩ _ => ?_
    simp only
    split
    · exact finds_below _ _ _
    · exact .nil
  · exact .nil

theorem finds_checkUncovered (schema : Fragment) (covered : String → Bool) {code : ViolationCode}
    (own : keyword.partCode? = some code) (members : Members) :
    Finds (visit.Reports keyword) (visit.checkUncovered schema covered code members) := by
  refine .gather fun ⟨name, member⟩ _ => ?_
  simp only
  split
  · exact .nil
  · split
    · exact .single (.part own)
    · exact finds_below _ _ _

theorem finds_checkAdditionalProperties :
    Finds (visit.Reports .additionalProperties) visit.checkAdditionalProperties := by
  unfold checkAdditionalProperties
  split
  · exact finds_checkUncovered _ _ rfl _
  · exact .nil

theorem finds_checkPropertyNames : Finds (visit.Reports .propertyNames) visit.checkPropertyNames := by
  unfold checkPropertyNames
  split
  · refine .gather fun ⟨name, member⟩ _ => .bind fun failures _ => .of_forall fun v inside => ?_
    split at inside
    · cases inside
    · rw [List.mem_singleton.mp inside]
      exact .part rfl
  · exact .nil

theorem finds_checkUnevaluatedItems : Finds (visit.Reports .unevaluatedItems) visit.checkUnevaluatedItems := by
  unfold checkUnevaluatedItems
  split
  · refine .bind fun shape _ => ?_
    by_cases all : shape.restItems?.isSome = true
    · simpa only [all, if_true] using .nil
    · simp only [all, Bool.false_eq_true, if_false]
      exact .gather fun ⟨item, index⟩ _ => finds_checkUnevaluatedItem_of _ (.part rfl) (finds_below _ _ _)
  · exact .nil

theorem finds_checkUnevaluatedProperties :
    Finds (visit.Reports .unevaluatedProperties) visit.checkUnevaluatedProperties := by
  unfold checkUnevaluatedProperties
  split
  · refine .bind fun shape _ => ?_
    by_cases all : shape.additionalProperties?.isSome = true
    · simpa only [all, if_true] using .nil
    · simpa only [all, Bool.false_eq_true, if_false] using finds_checkUncovered _ _ rfl _
  · exact .nil

/-! ## Composition -/

theorem finds_here {reducer : Reducer} (passes : keyword.passesTo? = some reducer)
    (composed : visit.fragment.has visit.context.draft reducer = true) (schema : Fragment) :
    Finds (visit.Reports keyword) (visit.validateHere schema) :=
  fun _ checked _ inside => .here passes composed checked inside

theorem finds_checkDependencies (known : visit.context.draft.knows keyword = true)
    (own : keyword ∈ Fragment.dependencyKeywords) :
    Finds (visit.Reports keyword) (visit.checkDependencies keyword) := by
  have demands : keyword.codes = [.missingDependency] ∧ keyword.passesTo? = some .dependencies := by
    simp only [Fragment.dependencyKeywords, List.mem_cons, List.not_mem_nil, or_false] at own
    rcases own with rfl | rfl | rfl <;> exact ⟨rfl, rfl⟩
  unfold checkDependencies
  split
  · refine .gather fun dependency listed => ?_
    unfold checkDependency
    split
    · exact .nil
    · split
      · refine .of_forall fun v inside => ?_
        obtain ⟨name, -, rfl⟩ := List.mem_map.mp inside
        exact of_violation _ (by simp [demands.1])
      · have among : dependency ∈ visit.fragment.dependencies visit.context.draft :=
          List.mem_flatMap.mpr ⟨keyword, List.mem_filter.mpr ⟨own, known⟩, listed⟩
        refine finds_here demands.2 ?_ _
        simpa [Fragment.has] using List.ne_nil_of_mem among
  · exact .nil

theorem finds_checkNot : Finds (visit.Reports .not) visit.checkNot := by
  unfold checkNot
  split
  · exact .bind fun holds _ => .of_forall (of_if _ (by decide) _)
  · exact .nil

theorem finds_checkAllOf : Finds (visit.Reports .allOf) visit.checkAllOf := by
  refine .bind fun failures _ => .of_forall fun v inside => ?_
  split at inside
  · cases inside
  · rw [List.mem_singleton.mp inside]
    exact .value (by decide)

theorem finds_checkAnyOf : Finds (visit.Reports .anyOf) visit.checkAnyOf := by
  refine .bind fun failures _ => ?_
  split
  · exact .single (.value (by decide))
  · exact .nil

theorem of_selectByProperty {name : String} {selected : Except Violation Choice}
    (answer : visit.selectByProperty name = some selected) :
    ∀ v ∈ Choice.reported selected, visit.Reports .oneOf v := by
  unfold selectByProperty at answer
  split at answer
  · cases answer
    exact List.forall_mem_singleton.mpr (of_violation _ (by decide))
  · obtain ⟨positions, -, answer⟩ := Option.bind_eq_some_iff.mp answer
    split at answer
    · cases answer
      exact List.forall_mem_singleton.mpr (of_violation _ (by decide))
    · split at answer
      · rename_i member listed
        obtain ⟨failures, checked, answer⟩ := Option.bind_eq_some_iff.mp answer
        cases answer
        refine finds_here rfl ?_ member failures checked
        simpa [Fragment.has] using List.ne_nil_of_mem (List.mem_of_getElem? listed)
      · cases answer
        exact fun v inside => absurd inside List.not_mem_nil
    · cases answer
      exact List.forall_mem_singleton.mpr (of_violation _ (by decide))

theorem of_selectByValue {selected : Except Violation Choice} (answer : visit.selectByValue = some selected) :
    ∀ v ∈ Choice.reported selected, visit.Reports .oneOf v := by
  obtain ⟨failures, -, answer⟩ := Option.bind_eq_some_iff.mp answer
  split at answer
  · cases answer
    exact List.forall_mem_singleton.mpr (.value (by decide))
  · cases answer
    exact fun v inside => absurd inside List.not_mem_nil
  · cases answer
    exact List.forall_mem_singleton.mpr (of_violation _ (by decide))

theorem finds_checkOneOf : Finds (visit.Reports .oneOf) visit.checkOneOf := by
  refine .bind fun selected answer => ?_
  have all : ∀ v ∈ Choice.reported selected, visit.Reports .oneOf v := by
    unfold selectOneOf at answer
    split at answer
    · exact of_selectByProperty answer
    · exact of_selectByValue answer
  cases selected with
  | ok choice => exact .of_forall all
  | error violation => exact .of_forall all

theorem finds_checkConditional : Finds (visit.Reports .conditional) visit.checkConditional := by
  unfold checkConditional
  split
  · exact .nil
  · rename_i condition present
    refine .bind fun holds _ => ?_
    simp only
    split
    · refine finds_here rfl ?_ _
      simp [Fragment.has, present]
    · exact .nil

end Reports

/-- Every violation that a keyword reports comes from one of the sources. -/
theorem finds_reports (keyword : Keyword) (known : visit.context.draft.knows keyword = true) :
    Finds (visit.Reports keyword) (visit.check keyword) := by
  cases keyword with
  | type => exact .of_forall Reports.of_checkType
  | enum => exact .of_forall Reports.of_checkEnum
  | const => exact .of_forall Reports.of_checkConst
  | format => exact .of_forall Reports.of_checkFormat
  | maximum | minimum | exclusiveMaximum | exclusiveMinimum => exact .of_forall (Reports.of_checkBound (by decide))
  | multipleOf => exact .of_forall Reports.of_checkMultipleOf
  | maxLength | minLength | minItems | maxItems | minProperties | maxProperties =>
    exact .of_forall (Reports.of_checkCount (by decide))
  | pattern => exact .of_forall Reports.of_checkPattern
  | items => exact Reports.finds_checkItems
  | contains => exact Reports.finds_checkContains
  | uniqueItems => exact .of_forall Reports.of_checkUniqueItems
  | properties => exact Reports.finds_checkProperties
  | patternProperties => exact Reports.finds_checkPatternProperties
  | additionalProperties => exact Reports.finds_checkAdditionalProperties
  | propertyNames => exact Reports.finds_checkPropertyNames
  | required => exact .of_forall Reports.of_checkRequired
  | dependencies | dependentRequired | dependentSchemas => exact Reports.finds_checkDependencies known (by decide)
  | «not» => exact Reports.finds_checkNot
  | allOf => exact Reports.finds_checkAllOf
  | anyOf => exact Reports.finds_checkAnyOf
  | oneOf => exact Reports.finds_checkOneOf
  | conditional => exact Reports.finds_checkConditional
  | unevaluatedItems => exact Reports.finds_checkUnevaluatedItems
  | unevaluatedProperties => exact Reports.finds_checkUnevaluatedProperties

end Visit

/-! ## Violations of all keywords -/

/-- What is found at several places is found at one of them. -/
theorem mem_gather {α : Type} {places : List α} {check : α → Option (List Violation)} {found : List Violation}
    (answer : gather places check = some found) {v : Violation} :
    v ∈ found ↔ ∃ place ∈ places, ∃ own, check place = some own ∧ v ∈ own := by
  induction places generalizing found with
  | nil =>
    cases answer
    simp
  | cons place rest ih =>
    obtain ⟨parts, computed, rfl⟩ := Option.map_eq_some_iff.mp answer
    rw [List.mapM_cons] at computed
    obtain ⟨own, known, computed⟩ := Option.bind_eq_some_iff.mp computed
    obtain ⟨others, known', computed⟩ := Option.bind_eq_some_iff.mp computed
    cases computed
    have later := ih (show gather rest check = some others.flatten by simp [gather, known'])
    rw [List.flatten_cons, List.mem_append, later]
    simp [known]

/-- What is found at one of the places is found at all of them together. -/
theorem exists_of_gather {α : Type} {places : List α} {check : α → Option (List Violation)} {found : List Violation}
    (answer : gather places check = some found) {place : α} (inside : place ∈ places) :
    ∃ own, check place = some own ∧ ∀ v ∈ own, v ∈ found := by
  obtain ⟨own, known⟩ : ∃ own, check place = some own := by
    induction places generalizing found with
    | nil => cases inside
    | cons first rest ih =>
      obtain ⟨parts, computed, -⟩ := Option.map_eq_some_iff.mp answer
      rw [List.mapM_cons] at computed
      obtain ⟨own, known, computed⟩ := Option.bind_eq_some_iff.mp computed
      obtain ⟨others, known', -⟩ := Option.bind_eq_some_iff.mp computed
      rcases List.mem_cons.mp inside with rfl | later
      · exact ⟨own, known⟩
      · exact ih (show gather rest check = some others.flatten by simp [gather, known']) later
  exact ⟨own, known, fun v listed => (mem_gather answer).mpr ⟨place, inside, own, known, listed⟩⟩

/-- Whether violations of this code are by a part of the value. -/
def ViolationCode.isOfPart (code : ViolationCode) : Bool :=
  [ViolationCode.additionalItems, .uniqueItems, .noAdditionalProperties, .invalidPropertyName, .unevaluatedItems,
    .unevaluatedProperty].contains code

/-- No keyword reports a kind of violation by a part of the value by the value itself. -/
theorem Keyword.not_isOfPart {keyword : Keyword} {code : ViolationCode} (own : code ∈ keyword.codes) :
    code.isOfPart = false := by
  have all : ∀ code ∈ keyword.codes, code.isOfPart = false := by cases keyword <;> decide
  exact all code own

/-- A violation by a part is found strictly below the place of the value. -/
def Violation.BelowIfOfPart (place : Pointer) (v : Violation) : Prop :=
  v.code.isOfPart = true → ∃ segment, v.pointer.IsUnder (place.join segment)

namespace Context

variable (context : Context)

/-- Where the violations of a fragment without reference come from. -/
theorem reports_validateSettled {judge : Judge} {fragment : Fragment} {data : Json} {pointer : Pointer} {scope : Scope}
    {found : List Violation} (answer : context.validateSettled judge fragment data pointer scope = some found)
    {v : Violation} (inside : v ∈ found) :
    v.code = .invalidData ∧ v.pointer = pointer ∨
      ∃ keyword ∈ fragment.keywords context.draft, ∃ own,
        (Visit.mk context judge fragment data pointer scope).check keyword = some own ∧ v ∈ own ∧
          (Visit.mk context judge fragment data pointer scope).Reports keyword v := by
  unfold validateSettled at answer
  split at answer
  · cases answer
    cases inside
  · cases answer
    rw [List.mem_singleton.mp inside]
    exact .inl ⟨rfl, rfl⟩
  · obtain ⟨keyword, listed, own, checked, inside⟩ := (mem_gather answer).mp inside
    have listed := List.mem_of_mem_filter listed
    refine .inr ⟨keyword, listed, own, checked, inside, ?_⟩
    have reports := @Visit.finds_reports ⟨context, judge, fragment, data, pointer, scope⟩ keyword
      (Fragment.knows_of_mem_keywords listed)
    exact reports own checked v inside

/-- What a fragment without reference reports at the place of the value is its own, or a member of a
composition found it. -/
theorem reported_here {depth : Nat} {fragment : Fragment} {data : Json} {pointer : Pointer} {scope : Scope}
    {found : List Violation}
    (answer : context.validateSettled (context.judge depth) fragment data pointer scope = some found)
    {v : Violation} (inside : v ∈ found) (here : v.pointer = pointer) :
    v.code = .invalidData ∨ ∃ keyword own,
      (Visit.mk context (context.judge depth) fragment data pointer scope).check keyword = some own ∧ v ∈ own ∧
        (v.schema = fragment.schema ∧ v.code ∈ keyword.codes ∨
          ∃ reducer, keyword.passesTo? = some reducer ∧ fragment.has context.draft reducer = true) := by
  have longer (segment : String) {place : Pointer} (under : place.IsUnder (pointer.join segment)) : place ≠ pointer := by
    rintro rfl
    have := under.length_le
    simp [Pointer.join] at this
  rcases context.reports_validateSettled answer inside with ⟨invalid, -⟩ | ⟨keyword, -, own, checked, inside, reports⟩
  · exact .inl invalid
  · refine .inr ⟨keyword, own, checked, inside, ?_⟩
    cases reports with
    | value kind => exact .inl ⟨rfl, kind⟩
    | @part _ segment => exact absurd here (longer segment (List.prefix_refl _))
    | @below schema value segment found v checked listed =>
      have under := context.finds_allUnder depth schema value _ scope found checked v listed v (by simp [Violation.flatten_eq])
      exact absurd here (longer segment under)
    | here passes composed => exact .inr ⟨_, passes, composed⟩

/-- What a keyword that stands in the schema finds is found. -/
theorem exists_check {judge : Judge} {fragment : Fragment} {data : Json} {pointer : Pointer} {scope : Scope}
    {members : Members} {found : List Violation} (schema : fragment.schema = .obj members)
    (answer : context.validateSettled judge fragment data pointer scope = some found) (keyword : Keyword)
    (known : context.draft.knows keyword = true) (present : keyword.isPresent context.draft members = true) :
    ∃ own, (Visit.mk context judge fragment data pointer scope).check keyword = some own ∧ ∀ v ∈ own, v ∈ found := by
  rw [← context.validateByAll_eq] at answer
  unfold validateByAll at answer
  simp only [schema] at answer
  exact exists_of_gather answer (Fragment.mem_keywords schema known present)

/-- A check that goes one step deeper finds violations by parts strictly below the value. -/
theorem belowIfOfPart_validateSettled {depth : Nat}
    (ih : ∀ fragment data pointer scope,
      Finds (Violation.BelowIfOfPart pointer) ((context.judge depth).validate fragment data pointer scope))
    (fragment : Fragment) (data : Json) (pointer : Pointer) (scope : Scope) :
    Finds (Violation.BelowIfOfPart pointer)
      (context.validateSettled (context.judge depth) fragment data pointer scope) := by
  intro found answer v inside ofPart
  rcases context.reports_validateSettled answer inside with ⟨invalid, -⟩ | ⟨keyword, -, own, -, -, reports⟩
  · rw [invalid] at ofPart
    cases ofPart
  · cases reports with
    | value kind =>
      have other := Keyword.not_isOfPart kind
      exact absurd (ofPart.symm.trans other) (by decide)
    | @part _ segment => exact ⟨segment, List.prefix_refl _⟩
    | @below schema value segment found v checked listed =>
      have under := context.finds_allUnder depth schema value _ scope found checked v listed v (by simp [Violation.flatten_eq])
      exact ⟨segment, under⟩
    | here _ _ checked listed => exact ih _ _ _ _ _ checked v listed ofPart

/-- To whatever depth checks nest, violations by a part are found strictly below the value. -/
theorem belowIfOfPart_judge (depth : Nat) (fragment : Fragment) (data : Json) (pointer : Pointer) (scope : Scope) :
    Finds (Violation.BelowIfOfPart pointer) ((context.judge depth).validate fragment data pointer scope) := by
  induction depth generalizing fragment data pointer scope with
  | zero => nofun
  | succ depth ih =>
    change Finds _ (context.validateStep (context.judge depth) fragment data pointer scope)
    unfold validateStep
    split
    · exact .nil
    · simp only
      split
      · exact context.belowIfOfPart_validateSettled ih _ _ _ _
      · exact context.belowIfOfPart_validateSettled ih _ _ _ _
      · exact .single (by simp [Violation.BelowIfOfPart, ViolationCode.isOfPart])

end Context
end JsonSchema
