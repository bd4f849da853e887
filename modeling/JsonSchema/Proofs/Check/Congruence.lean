import JsonSchema.Proofs.Check.Reading

/-!
# Parallel visits

Two visits of the same data that agree on what a keyword reads come to the same verdict on it.
-/

namespace JsonSchema.Visit

/-- Two visits of the same data whose judges agree on related fragments. -/
structure Parallel (related : Fragment → Fragment → Prop) (v w : Visit) : Prop where
  context : v.context = w.context
  data : v.data = w.data
  format : ∀ name rule, v.context.formats.rule? name = some rule →
    rule v.fragment.schema v.data = rule w.fragment.schema w.data
  refused : ∀ c c', related c c' → c.isBool false = c'.isBool false
  judged : ∀ c c', related c c' → ∀ value p q, verdict (v.validate c value p) = verdict (w.validate c' value q)
  settled : ∀ c c', related c c' → ∀ name, Option.Rel related ((v.context.settle c v.scope).property? name)
    ((w.context.settle c' w.scope).property? name)

section
variable {related : Fragment → Fragment → Prop} {v w : Visit}

/-! ## Assertions -/

/-- Which violation stands on one side does not matter. -/
theorem isEmpty_ite {condition : Prop} [Decidable condition] (a b : Violation) :
    (if condition then [] else [a]).isEmpty = (if condition then [] else [b]).isEmpty := by
  split <;> rfl

theorem checkType_congr (parallel : Parallel related v w) (same : v.keyword? "type" = w.keyword? "type") :
    v.checkType.isEmpty = w.checkType.isEmpty := by
  have types : v.fragment.types? = w.fragment.types? := congrArg (Option.map _) same
  unfold checkType
  rw [types, parallel.data]
  cases w.fragment.types? with
  | none => rfl
  | some types => exact isEmpty_ite _ _

theorem checkEnum_congr (parallel : Parallel related v w) (same : v.keyword? "enum" = w.keyword? "enum") :
    v.checkEnum.isEmpty = w.checkEnum.isEmpty := by
  unfold checkEnum
  rw [same, parallel.data]
  split
  · exact isEmpty_ite _ _
  · rfl

theorem checkConst_congr (parallel : Parallel related v w) (same : v.keyword? "const" = w.keyword? "const") :
    v.checkConst.isEmpty = w.checkConst.isEmpty := by
  unfold checkConst
  rw [same, parallel.data]
  split
  · exact isEmpty_ite _ _
  · rfl

theorem checkFormat_congr (parallel : Parallel related v w) (same : v.keyword? "format" = w.keyword? "format") :
    v.checkFormat.isEmpty = w.checkFormat.isEmpty := by
  unfold checkFormat
  rw [same, ← parallel.context]
  split
  · rename_i name _
    cases known : v.context.formats.rule? name with
    | none => rfl
    | some rule =>
      simp only [parallel.format name rule known]
      exact isEmpty_ite _ _
  · rfl

theorem checkBound_congr (parallel : Parallel related v w) {keyword : String}
    (same : v.keyword? keyword = w.keyword? keyword) (label : String) (beyond : Ordering) (exclusive : Bool)
    (code : ViolationCode) : (v.checkBound keyword label beyond exclusive code).isEmpty =
      (w.checkBound keyword label beyond exclusive code).isEmpty := by
  unfold checkBound
  rw [same, parallel.data]
  split
  · dsimp only
    split <;> rfl
  · rfl

theorem hasExclusiveFlag_congr (parallel : Parallel related v w) {name : String}
    (same : v.context.draft.hasBooleanBounds = true → v.keyword? name = w.keyword? name) :
    v.hasExclusiveFlag name = w.hasExclusiveFlag name := by
  unfold hasExclusiveFlag
  rw [← parallel.context]
  cases flags : v.context.draft.hasBooleanBounds with
  | false => rfl
  | true => rw [same flags]

theorem checkMultipleOf_congr (parallel : Parallel related v w)
    (same : v.keyword? "multipleOf" = w.keyword? "multipleOf") :
    v.checkMultipleOf.isEmpty = w.checkMultipleOf.isEmpty := by
  unfold checkMultipleOf
  rw [same, parallel.data]
  split
  · exact isEmpty_ite _ _
  · rfl

theorem checkCount_congr {keyword : String} (same : v.keyword? keyword = w.keyword? keyword) (count : Option Nat)
    (within : Nat → Nat → Bool) (code : ViolationCode) :
    (v.checkCount keyword count within code).isEmpty = (w.checkCount keyword count within code).isEmpty := by
  unfold checkCount
  rw [same]
  split
  · exact isEmpty_ite _ _
  · rfl

theorem checkPattern_congr (parallel : Parallel related v w) (same : v.fragment.pattern = w.fragment.pattern) :
    v.checkPattern.isEmpty = w.checkPattern.isEmpty := by
  unfold checkPattern
  rw [same, parallel.data]
  split
  · exact isEmpty_ite _ _
  · rfl

theorem checkUniqueItems_congr (parallel : Parallel related v w)
    (same : v.keyword? "uniqueItems" = w.keyword? "uniqueItems") :
    v.checkUniqueItems.isEmpty = w.checkUniqueItems.isEmpty := by
  unfold checkUniqueItems
  rw [same, parallel.data]
  split
  · rw [Bool.eq_iff_iff, List.isEmpty_iff, List.isEmpty_iff, List.filterMap_eq_nil_iff, List.filterMap_eq_nil_iff]
    refine forall₂_congr fun ⟨item, index, first⟩ _ => ?_
    dsimp only
    split <;> simp
  · rfl

theorem checkRequired_congr (parallel : Parallel related v w) (same : v.keyword? "required" = w.keyword? "required") :
    v.checkRequired.isEmpty = w.checkRequired.isEmpty := by
  unfold checkRequired
  rw [same, parallel.data]
  split
  · rw [List.isEmpty_map, List.isEmpty_map]
  · rfl

/-! ## Applicators -/

theorem checkItem_congr (parallel : Parallel related v w)
    (agree : Fragment.Agree arrayNames related v.fragment w.fragment) (item : Json) (index : Nat) :
    verdict (v.checkItem item index) = verdict (w.checkItem item index) := by
  have tuple : Option.Rel related v.fragment.tupleItems[index]? w.fragment.tupleItems[index]? :=
    rel_getElem? agree.tupleItems index
  have rest := agree.restItems?
  unfold checkItem
  generalize v.fragment.tupleItems[index]? = a, w.fragment.tupleItems[index]? = b at tuple
  generalize v.fragment.restItems? = c, w.fragment.restItems? = d at rest
  cases tuple with
  | some same => exact parallel.judged _ _ same _ _ _
  | none =>
    cases rest with
    | none => rfl
    | some same =>
      dsimp only
      rw [parallel.refused _ _ same]
      split
      · rfl
      · exact parallel.judged _ _ same _ _ _

theorem checkItems_congr (parallel : Parallel related v w)
    (agree : Fragment.Agree arrayNames related v.fragment w.fragment) :
    verdict v.checkItems = verdict w.checkItems := by
  unfold checkItems
  rw [parallel.data]
  split
  · exact verdict_gather_congr fun ⟨item, index⟩ _ => checkItem_congr parallel agree item index
  · rfl

theorem countMatches_congr (parallel : Parallel related v w) {c c' : Fragment} (same : related c c') (items : List Json) :
    v.countMatches c items = w.countMatches c' items := by
  rw [countMatches_eq, countMatches_eq]
  congr 1
  exact mapM_congr (List.forall₂_same.mpr fun ⟨item, index⟩ _ => parallel.judged _ _ same _ _ _)

theorem containsViolations_congr (least most : Option Nat) (count : Nat) :
    (v.containsViolations least most count).isEmpty = (w.containsViolations least most count).isEmpty := by
  unfold containsViolations
  cases least with
  | none =>
    cases most with
    | none => dsimp only; split <;> rfl
    | some most => dsimp only; split <;> split <;> rfl
  | some least =>
    cases most with
    | none => dsimp only; split <;> rfl
    | some most => dsimp only; split <;> split <;> rfl

theorem checkContains_congr (parallel : Parallel related v w)
    (agree : Fragment.Agree Keyword.contains.reads related v.fragment w.fragment) :
    verdict v.checkContains = verdict w.checkContains := by
  have least : v.keyword? "minContains" = w.keyword? "minContains" := agree.keyword? _ (by decide)
  have most : v.keyword? "maxContains" = w.keyword? "maxContains" := agree.keyword? _ (by decide)
  have schema : Option.Rel related v.fragment.contains? w.fragment.contains? := agree.child? fun slot taken => by
    cases slot with
    | contains => rfl
    | _ => cases taken
  unfold checkContains
  dsimp only
  rw [least, most, parallel.context, parallel.data]
  generalize v.fragment.contains? = a, w.fragment.contains? = b at schema
  cases w.data with
  | arr items =>
    cases schema with
    | none => rfl
    | some same =>
      simp only [countMatches_congr parallel same items, Option.bind_eq_bind]
      cases w.countMatches _ items with
      | none => rfl
      | some count => exact congrArg some (containsViolations_congr _ _ count)
  | _ => rfl

theorem checkProperties_congr (parallel : Parallel related v w)
    (agree : Fragment.Agree ["properties"] related v.fragment w.fragment) :
    verdict v.checkProperties = verdict w.checkProperties := by
  unfold checkProperties
  rw [parallel.data]
  split
  · refine verdict_gather ((agree.properties (by decide)).imp ?_)
    rintro ⟨name, c⟩ ⟨other, c'⟩ ⟨rfl, same⟩
    dsimp only
    split
    · exact parallel.judged _ _ same _ _ _
    · rfl
  · rfl

theorem checkPatternProperties_congr (parallel : Parallel related v w)
    (agree : Fragment.Agree ["patternProperties"] related v.fragment w.fragment) :
    verdict v.checkPatternProperties = verdict w.checkPatternProperties := by
  unfold checkPatternProperties
  rw [parallel.data]
  split
  · refine verdict_gather_congr fun ⟨name, value⟩ _ => ?_
    refine verdict_gather ((agree.patternProperties (by decide)).imp ?_)
    rintro ⟨regex, c⟩ ⟨other, c'⟩ ⟨rfl, same⟩
    dsimp only
    split
    · exact parallel.judged _ _ same _ _ _
    · rfl
  · rfl

theorem checkUncovered_congr (parallel : Parallel related v w) {c c' : Fragment} (same : related c c')
    {covered covered' : String → Bool} (covers : ∀ name, covered name = covered' name) (code : ViolationCode)
    (members : Members) :
    verdict (v.checkUncovered c covered code members) = verdict (w.checkUncovered c' covered' code members) := by
  refine verdict_gather_congr fun ⟨name, value⟩ _ => ?_
  dsimp only
  rw [covers, parallel.refused _ _ same]
  split
  · rfl
  · split
    · rfl
    · exact parallel.judged _ _ same _ _ _

theorem checkAdditionalProperties_congr (parallel : Parallel related v w)
    (agree : Fragment.Agree Keyword.additionalProperties.reads related v.fragment w.fragment) :
    verdict v.checkAdditionalProperties = verdict w.checkAdditionalProperties := by
  have schema : Option.Rel related v.fragment.additionalProperties? w.fragment.additionalProperties? :=
    agree.child? fun slot taken => by
      cases slot with
      | additionalProperties => rfl
      | _ => cases taken
  unfold checkAdditionalProperties
  rw [parallel.data]
  generalize v.fragment.additionalProperties? = a, w.fragment.additionalProperties? = b at schema
  cases w.data with
  | obj members =>
    cases schema with
    | none => rfl
    | some same =>
      exact checkUncovered_congr parallel same (agree.declares (by decide) (by decide)) _ members
  | _ => rfl

theorem checkPropertyNames_congr (parallel : Parallel related v w)
    (agree : Fragment.Agree ["propertyNames"] related v.fragment w.fragment) :
    verdict v.checkPropertyNames = verdict w.checkPropertyNames := by
  have schema : Option.Rel related v.fragment.propertyNames? w.fragment.propertyNames? := agree.child? fun slot taken => by
    cases slot with
    | propertyNames => rfl
    | _ => cases taken
  unfold checkPropertyNames
  rw [parallel.data]
  generalize v.fragment.propertyNames? = a, w.fragment.propertyNames? = b at schema
  cases w.data with
  | obj members =>
    cases schema with
    | none => rfl
    | @some c c' same =>
      refine verdict_gather_congr fun ⟨name, value⟩ _ => ?_
      refine map_bind_congr (parallel.judged _ _ same (.str name) _ _) fun found found' empty => ?_
      rw [empty]
      cases found'.isEmpty <;> rfl
  | _ => rfl

theorem verdict_validateHere (parallel : Parallel related v w) {c c' : Fragment} (same : related c c') :
    verdict (v.validateHere c) = verdict (w.validateHere c') := by
  rw [validateHere, validateHere, parallel.data]
  exact parallel.judged _ _ same _ _ _

/-- Dependencies of one property that ask for the same. -/
inductive SameDemand (related : Fragment → Fragment → Prop) : Dependency → Dependency → Prop where
  | names (property : String) (keyword : Keyword) (names : List String) :
      SameDemand related ⟨property, keyword, .names names⟩ ⟨property, keyword, .names names⟩
  | schema (property : String) (keyword : Keyword) {c c' : Fragment} (same : related c c') :
      SameDemand related ⟨property, keyword, .schema c⟩ ⟨property, keyword, .schema c'⟩

theorem dependenciesOf_congr {f g : Fragment} {keyword : Keyword}
    (agree : Fragment.Agree [keyword.name] related f g) :
    List.Forall₂ (SameDemand related) (f.dependenciesOf keyword) (g.dependenciesOf keyword) := by
  unfold Fragment.dependenciesOf
  rw [agree.keyword? keyword.name (by simp)]
  refine List.rel_filterMap (R := Eq) ?_ (List.forall₂_refl _)
  rintro ⟨property, value⟩ _ rfl
  cases value with
  | arr names => exact .some (.names property keyword _)
  | _ =>
    refine rel_option_map (fun _ _ same => .schema property keyword same) (agree.child? fun slot taken => ?_)
    cases slot with
    | dependency own other =>
      simp only [Bool.and_eq_true, decide_eq_true_eq] at taken
      simp [Slot.within, Slot.names, taken.1]
    | _ => cases taken

theorem checkDependencies_congr (parallel : Parallel related v w) {keyword : Keyword}
    (agree : Fragment.Agree [keyword.name] related v.fragment w.fragment) :
    verdict (v.checkDependencies keyword) = verdict (w.checkDependencies keyword) := by
  unfold checkDependencies
  rw [parallel.data]
  split
  · refine verdict_gather ((dependenciesOf_congr agree).imp fun a b same => ?_)
    unfold checkDependency
    cases same with
    | names property keyword names =>
      dsimp only
      split
      · rfl
      · rw [verdict_some, verdict_some, List.isEmpty_map, List.isEmpty_map]
    | schema property keyword same =>
      dsimp only
      split
      · rfl
      · exact verdict_validateHere parallel same
  · rfl

/-! ## Composition -/

theorem accepts_congr (parallel : Parallel related v w) {c c' : Fragment} (same : related c c') :
    v.accepts c = w.accepts c' := by
  rw [accepts, accepts, validateHere, validateHere, ← parallel.data]
  exact parallel.judged _ _ same v.data v.pointer w.pointer

theorem checkNot_congr (parallel : Parallel related v w)
    (agree : Fragment.Agree ["not"] related v.fragment w.fragment) : verdict v.checkNot = verdict w.checkNot := by
  have schema : Option.Rel related v.fragment.not? w.fragment.not? := agree.child? fun slot taken => by
    cases slot with
    | not => rfl
    | _ => cases taken
  unfold checkNot
  generalize v.fragment.not? = a, w.fragment.not? = b at schema
  cases schema with
  | none => rfl
  | some same =>
    simp only [accepts_congr parallel same, Option.bind_eq_bind]
    cases w.accepts _ with
    | none => rfl
    | some accepted => cases accepted <;> rfl

theorem checkAllOf_congr (parallel : Parallel related v w)
    (agree : Fragment.Agree ["allOf"] related v.fragment w.fragment) : verdict v.checkAllOf = verdict w.checkAllOf := by
  rw [verdict_allOf, verdict_allOf]
  exact verdict_gather ((agree.members .allOf (by decide)).imp fun _ _ same => verdict_validateHere parallel same)

/-- Whether there is a first member that accepts depends on the verdicts of the members. -/
theorem failuresBefore_congr {xs ys : List Fragment}
    (all : List.Forall₂ (fun c c' => verdict (v.validateHere c) = verdict (w.validateHere c')) xs ys) :
    (v.failuresBefore xs).map Option.isNone = (w.failuresBefore ys).map Option.isNone := by
  induction all with
  | nil => rfl
  | @cons x y xs ys judged _ ih =>
    refine map_bind_congr judged fun found found' empty => ?_
    rw [empty]
    cases found'.isEmpty with
    | true => rfl
    | false => exact map_bind_congr ih fun rest rest' first => congrArg some (by simpa using first)

theorem checkAnyOf_congr (parallel : Parallel related v w)
    (agree : Fragment.Agree ["anyOf"] related v.fragment w.fragment) : verdict v.checkAnyOf = verdict w.checkAnyOf := by
  rw [verdict_anyOf, verdict_anyOf]
  exact failuresBefore_congr ((agree.members .anyOf (by decide)).imp fun _ _ same => verdict_validateHere parallel same)

theorem checkConditional_congr (parallel : Parallel related v w)
    (agree : Fragment.Agree Keyword.conditional.reads related v.fragment w.fragment) :
    verdict v.checkConditional = verdict w.checkConditional := by
  have condition : Option.Rel related v.fragment.condition? w.fragment.condition? := agree.child? fun slot taken => by
    cases slot with
    | condition => rfl
    | _ => cases taken
  have consequence : Option.Rel related v.fragment.consequence? w.fragment.consequence? := agree.child? fun slot taken => by
    cases slot with
    | consequence => rfl
    | _ => cases taken
  have alternative : Option.Rel related v.fragment.alternative? w.fragment.alternative? := agree.child? fun slot taken => by
    cases slot with
    | alternative => rfl
    | _ => cases taken
  unfold checkConditional
  generalize v.fragment.condition? = a, w.fragment.condition? = b at condition
  cases condition with
  | none => rfl
  | some same =>
    simp only [accepts_congr parallel same, Option.bind_eq_bind]
    cases w.accepts _ with
    | none => rfl
    | some accepted =>
      cases accepted with
      | true =>
        generalize v.fragment.consequence? = a, w.fragment.consequence? = b at consequence
        cases consequence with
        | none => rfl
        | some same => exact verdict_validateHere parallel same
      | false =>
        generalize v.fragment.alternative? = a, w.fragment.alternative? = b at alternative
        cases alternative with
        | none => rfl
        | some same => exact verdict_validateHere parallel same

/-! ## Selection -/

/-- Whether a selection settles on a member that reports nothing. -/
def takes : Except Violation Choice → Bool
  | .ok choice => choice.violations.isEmpty
  | .error _ => false

theorem discriminates_congr (parallel : Parallel related v w) {c c' : Fragment} (same : related c c') (name : String)
    (value : Json) : v.discriminates name value c = w.discriminates name value c' := by
  have property := parallel.settled _ _ same name
  unfold discriminates
  generalize (v.context.settle c v.scope).property? name = a, (w.context.settle c' w.scope).property? name = b
    at property
  cases property with
  | none => rfl
  | some same => exact parallel.judged _ _ same _ _ _

theorem selectByProperty_congr (parallel : Parallel related v w)
    (members : List.Forall₂ related (v.fragment.members .oneOf) (w.fragment.members .oneOf)) (name : String) :
    (v.selectByProperty name).map takes = (w.selectByProperty name).map takes := by
  unfold selectByProperty
  rw [parallel.data]
  cases w.data.member? name with
  | none => rfl
  | some value =>
    have positions : positionsWhere (v.fragment.members .oneOf) (v.discriminates name value) =
        positionsWhere (w.fragment.members .oneOf) (w.discriminates name value) := by
      unfold positionsWhere
      rw [mapM_congr (members.imp fun _ _ same => discriminates_congr parallel same name value)]
    simp only [positions, Option.bind_eq_bind]
    cases positionsWhere (w.fragment.members .oneOf) (w.discriminates name value) with
    | none => rfl
    | some found =>
      match found with
      | [] => rfl
      | [index] =>
        have selected := rel_getElem? members index
        simp only [Option.bind_some]
        generalize (v.fragment.members .oneOf)[index]? = a, (w.fragment.members .oneOf)[index]? = b at selected
        cases selected with
        | none => rfl
        | @some c c' same =>
          exact map_bind_congr (verdict_validateHere parallel same) fun found found' empty => congrArg some empty
      | _ :: _ :: _ => rfl

/-- The outcome of a selection, less the data and the place that it reports. -/
def outcome : Except Violation Choice → Except ViolationCode (Nat × Bool)
  | .ok choice => .ok (choice.index, choice.violations.isEmpty)
  | .error violation => .error violation.code

/-- Whether a selection holds can be told from its outcome. -/
theorem map_takes_eq (selected : Option (Except Violation Choice)) :
    selected.map takes = (selected.map outcome).map fun result => result.toOption.any Prod.snd := by
  rw [Option.map_map]
  congr 1
  funext result
  cases result <;> rfl

/-- The outcome of a selection by value can be told from the verdicts of the members. -/
theorem outcome_selectByValue (visit : Visit) : visit.selectByValue.map outcome =
    ((visit.fragment.members .oneOf).mapM fun member => verdict (visit.validateHere member)).map fun empty =>
      match (empty.zipIdx.filter Prod.fst).map Prod.snd with
      | [] => .error .oneOf
      | [index] => .ok (index, true)
      | _ => .error .multipleOneOf := by
  have positions (found : List (List Violation)) (start : Nat) :
      ((found.zipIdx start).filter fun entry => entry.1.isEmpty).map Prod.snd =
        (((found.map List.isEmpty).zipIdx start).filter Prod.fst).map Prod.snd := by
    rw [List.zipIdx_map, List.filter_map, List.map_map]
    rfl
  unfold selectByValue verdict
  rw [← map_mapM, Option.map_map]
  simp only [Option.bind_eq_bind, positions]
  cases (visit.fragment.members .oneOf).mapM visit.validateHere with
  | none => rfl
  | some found =>
    simp only [Option.bind_some, Option.map_some, Function.comp_apply]
    generalize (((found.map List.isEmpty).zipIdx).filter Prod.fst).map Prod.snd = places
    rcases places with _ | ⟨index, _ | _⟩ <;> rfl

/-- So can whether a selection by value holds. -/
theorem selectByValue_eq (visit : Visit) : visit.selectByValue.map takes =
    ((visit.fragment.members .oneOf).mapM fun member => verdict (visit.validateHere member)).map fun empty =>
      match (empty.zipIdx.filter Prod.fst).map Prod.snd with
      | [_] => true
      | _ => false := by
  rw [map_takes_eq, outcome_selectByValue, Option.map_map]
  congr 1
  funext empty
  dsimp only [Function.comp_apply]
  generalize (empty.zipIdx.filter Prod.fst).map Prod.snd = positions
  rcases positions with _ | ⟨index, _ | _⟩ <;> rfl

/-- A selection holds if it settles on a member that reports nothing. -/
theorem verdict_oneOf (visit : Visit) : verdict visit.checkOneOf = visit.selectOneOf.map takes := by
  unfold checkOneOf
  cases visit.selectOneOf with
  | none => rfl
  | some selected => cases selected <;> rfl

theorem checkOneOf_congr (parallel : Parallel related v w)
    (agree : Fragment.Agree Keyword.oneOf.reads related v.fragment w.fragment) :
    verdict v.checkOneOf = verdict w.checkOneOf := by
  have members := agree.members .oneOf (by decide)
  have discriminator : v.fragment.discriminator? = w.fragment.discriminator? := by
    unfold Fragment.discriminator?
    rw [agree.keyword? "discriminator" (by decide), agree.keyword? "oneOfProperty" (by decide)]
  rw [verdict_oneOf, verdict_oneOf]
  unfold selectOneOf
  rw [discriminator]
  split
  · exact selectByProperty_congr parallel members _
  · rw [selectByValue_eq, selectByValue_eq]
    rw [mapM_congr (members.imp fun _ _ same => verdict_validateHere parallel same)]

/-! ## All keywords -/

/-- The verdict on a keyword depends on what its check reads. -/
theorem verdict_check_congr (parallel : Parallel related v w) {keyword : Keyword}
    (evaluated : keyword ≠ .unevaluatedItems ∧ keyword ≠ .unevaluatedProperties)
    (agrees : Fragment.Agree (keyword.readsIn v.context.draft) related v.fragment w.fragment) :
    verdict (v.check keyword) = verdict (w.check keyword) := by
  have agree := agrees.mono (keyword.reads_subset v.context.draft)
  have same (own : keyword.reads = [keyword.name]) : v.keyword? keyword.name = w.keyword? keyword.name :=
    agree.keyword? _ (own ▸ List.mem_singleton_self _)
  have data := parallel.data
  have flag {name : String} (listed : name ∈ keyword.flags) : v.hasExclusiveFlag name = w.hasExclusiveFlag name :=
    hasExclusiveFlag_congr parallel fun flags => agrees.keyword? name (by
      rw [Keyword.readsIn, if_pos flags]
      exact List.mem_append_right _ listed)
  cases keyword with
  | type => exact congrArg some (checkType_congr parallel (same rfl))
  | enum => exact congrArg some (checkEnum_congr parallel (same rfl))
  | const => exact congrArg some (checkConst_congr parallel (same rfl))
  | format => exact congrArg some (checkFormat_congr parallel (same rfl))
  | maximum =>
    refine congrArg some ?_
    rw [checkMaximum, checkMaximum, flag (List.mem_singleton_self _)]
    exact checkBound_congr parallel (same rfl) _ _ _ _
  | minimum =>
    refine congrArg some ?_
    rw [checkMinimum, checkMinimum, flag (List.mem_singleton_self _)]
    exact checkBound_congr parallel (same rfl) _ _ _ _
  | exclusiveMaximum => exact congrArg some (checkBound_congr parallel (same rfl) _ _ _ _)
  | exclusiveMinimum => exact congrArg some (checkBound_congr parallel (same rfl) _ _ _ _)
  | multipleOf => exact congrArg some (checkMultipleOf_congr parallel (same rfl))
  | pattern => exact congrArg some (checkPattern_congr parallel (agree.pattern (by decide)))
  | uniqueItems => exact congrArg some (checkUniqueItems_congr parallel (same rfl))
  | required => exact congrArg some (checkRequired_congr parallel (same rfl))
  | maxLength | minLength | maxItems | minItems | maxProperties | minProperties =>
    refine congrArg some ?_
    simp only [checkMaxLength, checkMinLength, checkMaxItems, checkMinItems, checkMaxProperties, checkMinProperties,
      data]
    exact checkCount_congr (same rfl) _ _ _
  | items => exact checkItems_congr parallel agree
  | contains => exact checkContains_congr parallel agree
  | properties => exact checkProperties_congr parallel agree
  | patternProperties => exact checkPatternProperties_congr parallel agree
  | additionalProperties => exact checkAdditionalProperties_congr parallel agree
  | propertyNames => exact checkPropertyNames_congr parallel agree
  | dependencies => exact checkDependencies_congr parallel agree
  | dependentRequired => exact checkDependencies_congr parallel agree
  | dependentSchemas => exact checkDependencies_congr parallel agree
  | not => exact checkNot_congr parallel agree
  | allOf => exact checkAllOf_congr parallel agree
  | anyOf => exact checkAnyOf_congr parallel agree
  | oneOf => exact checkOneOf_congr parallel agree
  | conditional => exact checkConditional_congr parallel agree
  | unevaluatedItems => exact absurd rfl evaluated.1
  | unevaluatedProperties => exact absurd rfl evaluated.2

end
end JsonSchema.Visit
