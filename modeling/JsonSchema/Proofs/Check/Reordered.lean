import JsonSchema.Proofs.Check.Congruence
import JsonSchema.Proofs.Check.Uniqueness
import JsonSchema.Proofs.Json.Reordered

/-!
# Visits of data whose members stand in another order

No keyword asks for the order of members: it looks members up by their names, or it visits all of
them and comes to the verdict that holds in every order, or it compares values by what does not
depend on the order. So two visits of data that differ in the order of members come to one verdict
on every keyword, if their judges and the formats do.
-/

namespace JsonSchema

/-- Format rules do not look at the order of members. -/
def Formats.OrderBlind (formats : Formats) : Prop :=
  ∀ name rule, formats.rule? name = some rule → ∀ (schema : Json) {a b : Json}, a.Shuffled b → rule schema a = rule schema b

/-- The standard rules look at texts only. -/
theorem Formats.standard_orderBlind : Formats.standard.OrderBlind := by
  intro name rule known schema a b shuffled
  have listed := mem_of_lookup known
  have texts (check : String → Bool) : onStrings check schema a = onStrings check schema b := by
    cases shuffled.reordered <;> rfl
  simp only [standard, List.mem_cons, List.not_mem_nil, or_false, Prod.mk.injEq] at listed
  rcases listed with ⟨-, rfl⟩ | ⟨-, rfl⟩ | ⟨-, rfl⟩ | ⟨-, rfl⟩ | ⟨-, rfl⟩ | ⟨-, rfl⟩ | ⟨-, rfl⟩ | ⟨-, rfl⟩ | ⟨-, rfl⟩ <;>
    exact texts _

/-! ## Verdicts in any order -/

section
variable {α : Type} {xs ys : List α} {f : α → Option (List Violation)}

theorem verdict_gather_cons (x : α) (xs : List α) : verdict (gather (x :: xs) f) =
    (verdict (f x)).bind fun empty => (verdict (gather xs f)).map (empty && ·) := by
  rw [verdict_gather_eq, verdict_gather_eq, List.mapM_cons]
  cases verdict (f x) with
  | none => rfl
  | some empty => cases xs.mapM fun x => verdict (f x) <;> rfl

/-- The verdict on several places does not depend on their order. -/
theorem verdict_gather_perm (perm : xs.Perm ys) : verdict (gather xs f) = verdict (gather ys f) := by
  induction perm with
  | nil => rfl
  | cons x _ ih => rw [verdict_gather_cons, verdict_gather_cons, ih]
  | swap x y rest =>
    simp only [verdict_gather_cons]
    cases verdict (f x) <;> cases verdict (f y) <;> cases verdict (gather rest f) <;>
      simp [Bool.and_left_comm]
  | trans _ _ ih ih' => exact ih.trans ih'

end

theorem verdict_gather_corresponds {α : Type} {related : α → α → Prop} {as bs : List (String × α)}
    {f g : String × α → Option (List Violation)} (corresponds : Corresponds related as bs)
    (each : ∀ name a b, related a b → verdict (f (name, a)) = verdict (g (name, b))) :
    verdict (gather as f) = verdict (gather bs g) := by
  obtain ⟨cs, perm, parts⟩ := corresponds
  rw [verdict_gather_perm perm]
  refine verdict_gather (parts.imp ?_)
  rintro ⟨name, a⟩ ⟨other, b⟩ ⟨rfl, part⟩
  exact each name a b part

theorem forall₂_zipIdx {α : Type} {related : α → α → Prop} {as bs : List α} (all : List.Forall₂ related as bs)
    (start : Nat) : List.Forall₂ (fun x y => related x.1 y.1 ∧ x.2 = y.2) (as.zipIdx start) (bs.zipIdx start) := by
  induction all generalizing start with
  | nil => exact .nil
  | cons first _ ih => exact .cons ⟨first, rfl⟩ (ih (start + 1))

namespace Visit

/-- Two visits of data that differ in the order of members, by one fragment at one place, whose judges
do not look at the order of members. -/
structure Shuffled (v w : Visit) : Prop where
  context : v.context = w.context
  fragment : v.fragment = w.fragment
  pointer : v.pointer = w.pointer
  scope : v.scope = w.scope
  data : v.data.Shuffled w.data
  formats : v.context.formats.OrderBlind
  judged : ∀ c {a b : Json}, a.Shuffled b → ∀ q, verdict (v.validate c a q) = verdict (w.validate c b q)
  shape : v.evaluatedShape = w.evaluatedShape

namespace Shuffled

variable {v w : Visit} (shuffled : v.Shuffled w)
include shuffled

theorem keyword? (name : String) : v.keyword? name = w.keyword? name := by
  rw [Visit.keyword?, Visit.keyword?, shuffled.fragment]

theorem verdict_validateHere (c : Fragment) : verdict (v.validateHere c) = verdict (w.validateHere c) := by
  rw [validateHere, validateHere, shuffled.pointer]
  exact shuffled.judged c shuffled.data _

theorem accepts (c : Fragment) : v.accepts c = w.accepts c := shuffled.verdict_validateHere c

/-! ## Assertions -/

theorem checkType : v.checkType.isEmpty = w.checkType.isEmpty := by
  unfold Visit.checkType
  rw [shuffled.fragment]
  split
  · rfl
  · simp only [shuffled.data.admits]
    exact isEmpty_ite _ _

theorem checkEnum : v.checkEnum.isEmpty = w.checkEnum.isEmpty := by
  unfold Visit.checkEnum
  rw [shuffled.keyword?]
  split
  · simp only [shuffled.data.equal_eq]
    exact isEmpty_ite _ _
  · rfl

theorem checkConst : v.checkConst.isEmpty = w.checkConst.isEmpty := by
  unfold Visit.checkConst
  rw [shuffled.keyword?]
  split
  · rw [shuffled.data.equal_eq]
    exact isEmpty_ite _ _
  · rfl

theorem checkFormat : v.checkFormat.isEmpty = w.checkFormat.isEmpty := by
  unfold Visit.checkFormat
  rw [shuffled.keyword?, ← shuffled.context, shuffled.fragment]
  split
  · rename_i name _
    cases known : v.context.formats.rule? name with
    | none => rfl
    | some rule =>
      simp only [shuffled.formats name rule known _ shuffled.data]
      exact isEmpty_ite _ _
  · rfl

theorem hasExclusiveFlag (name : String) : v.hasExclusiveFlag name = w.hasExclusiveFlag name := by
  rw [Visit.hasExclusiveFlag, Visit.hasExclusiveFlag, shuffled.keyword?, shuffled.context]

theorem checkBound (keyword label : String) (beyond : Ordering) (exclusive : Bool) (code : ViolationCode) :
    (v.checkBound keyword label beyond exclusive code).isEmpty =
      (w.checkBound keyword label beyond exclusive code).isEmpty := by
  have data := shuffled.data.reordered
  unfold Visit.checkBound
  rw [shuffled.keyword?]
  generalize v.data = a, w.data = b at data
  cases data with
  | num n =>
    split
    · dsimp only
      split <;> rfl
    · rfl
  | _ => rfl

theorem checkMultipleOf : v.checkMultipleOf.isEmpty = w.checkMultipleOf.isEmpty := by
  have data := shuffled.data.reordered
  unfold Visit.checkMultipleOf
  rw [shuffled.keyword?]
  generalize v.data = a, w.data = b at data
  cases data with
  | num n =>
    split
    · exact isEmpty_ite _ _
    · rfl
  | _ => rfl

theorem checkCount {count count' : Option Nat} (same : count = count') (keyword : String) (within : Nat → Nat → Bool)
    (code : ViolationCode) :
    (v.checkCount keyword count within code).isEmpty = (w.checkCount keyword count' within code).isEmpty :=
  same ▸ checkCount_congr (shuffled.keyword? keyword) count within code

theorem textLength : v.data.string?.map String.length = w.data.string?.map String.length := by
  have data := shuffled.data.reordered
  generalize v.data = a, w.data = b at data
  cases data <;> rfl

theorem itemCount : v.data.items?.map List.length = w.data.items?.map List.length := by
  have data := shuffled.data.reordered
  generalize v.data = a, w.data = b at data
  cases data with
  | arr length => exact congrArg some length
  | _ => rfl

theorem memberCount : v.data.members?.map List.length = w.data.members?.map List.length := by
  have data := shuffled.data.reordered
  generalize v.data = a, w.data = b at data
  cases data with
  | obj names => exact congrArg some (by simpa using names.length_eq)
  | _ => rfl

theorem checkPattern : v.checkPattern.isEmpty = w.checkPattern.isEmpty := by
  have data := shuffled.data.reordered
  unfold Visit.checkPattern
  rw [shuffled.fragment]
  generalize v.data = a, w.data = b at data
  cases data with
  | str s =>
    split
    · exact isEmpty_ite _ _
    · rfl
  | _ => rfl

theorem checkUniqueItems : v.checkUniqueItems.isEmpty = w.checkUniqueItems.isEmpty := by
  have data := shuffled.data
  have keyword := shuffled.keyword? "uniqueItems"
  generalize left : v.data = a, right : w.data = b at data
  by_cases asked : w.keyword? "uniqueItems" = some (.bool true)
  · cases data.reordered with
    | @arr as bs =>
      have texts : as.map Json.canonical = bs.map Json.canonical := by
        rw [← List.forall₂_eq_eq_eq, List.forall₂_map_left_iff, List.forall₂_map_right_iff]
        exact data.items.imp fun _ _ part => part.canonical_eq
      rw [Bool.eq_iff_iff, List.isEmpty_iff, List.isEmpty_iff, checkUniqueItems_eq_nil_iff left (keyword.trans asked),
        checkUniqueItems_eq_nil_iff right asked, texts]
    | _ => simp only [Visit.checkUniqueItems, left, right]
  · have none (visit : Visit) (other : visit.keyword? "uniqueItems" ≠ some (.bool true)) : visit.checkUniqueItems = [] := by
      unfold Visit.checkUniqueItems
      split
      · rename_i asked
        exact absurd asked other
      · rfl
    rw [none v (keyword ▸ asked), none w asked]

theorem checkRequired : v.checkRequired.isEmpty = w.checkRequired.isEmpty := by
  have data := shuffled.data
  unfold Visit.checkRequired
  rw [shuffled.keyword?]
  generalize v.data = a, w.data = b at data
  cases data.reordered with
  | obj =>
    cases w.keyword? "required" with
    | none => rfl
    | some value =>
      cases value with
      | arr names =>
        dsimp only
        rw [List.isEmpty_map, List.isEmpty_map]
        simp only [data.has_eq]
      | _ => rfl
  | _ => rfl

/-! ## Items -/

theorem checkItem {a b : Json} (part : a.Shuffled b) (index : Nat) :
    verdict (v.checkItem a index) = verdict (w.checkItem b index) := by
  unfold Visit.checkItem
  rw [shuffled.fragment, shuffled.pointer]
  split
  · exact shuffled.judged _ part _
  · split
    · rfl
    · exact shuffled.judged _ part _
  · rfl

theorem checkItems : verdict v.checkItems = verdict w.checkItems := by
  have data := shuffled.data
  unfold Visit.checkItems
  generalize v.data = a, w.data = b at data
  cases data.reordered with
  | arr =>
    refine verdict_gather ((forall₂_zipIdx data.items 0).imp ?_)
    rintro ⟨a, index⟩ ⟨b, _⟩ ⟨part, rfl⟩
    exact shuffled.checkItem part index
  | _ => rfl

theorem countMatches (c : Fragment) {as bs : List Json} (parts : List.Forall₂ Json.Shuffled as bs) :
    v.countMatches c as = w.countMatches c bs := by
  rw [countMatches_eq, countMatches_eq, shuffled.pointer]
  congr 1
  refine mapM_congr ((forall₂_zipIdx parts 0).imp ?_)
  rintro ⟨a, index⟩ ⟨b, _⟩ ⟨part, rfl⟩
  exact shuffled.judged c part _

theorem checkContains : verdict v.checkContains = verdict w.checkContains := by
  have data := shuffled.data
  unfold Visit.checkContains
  simp only [shuffled.keyword?, shuffled.context, shuffled.fragment]
  generalize v.data = a, w.data = b at data
  cases data.reordered with
  | @arr as bs =>
    cases w.fragment.contains? with
    | none => rfl
    | some c =>
      simp only [shuffled.countMatches c data.items, Option.bind_eq_bind]
      cases w.countMatches c bs with
      | none => rfl
      | some count => exact congrArg some (containsViolations_congr _ _ count)
  | _ => rfl

/-! ## Properties -/

theorem checkProperties : verdict v.checkProperties = verdict w.checkProperties := by
  have data := shuffled.data
  unfold Visit.checkProperties
  rw [shuffled.fragment, shuffled.pointer]
  generalize v.data = a, w.data = b at data
  cases data.reordered with
  | @obj as bs =>
    refine verdict_gather_congr fun ⟨name, c⟩ _ => ?_
    have found := data.lookup name
    dsimp only
    generalize as.lookup name = a, bs.lookup name = b at found
    cases found with
    | none => rfl
    | some part => exact shuffled.judged c part _
  | _ => rfl

theorem checkPatternProperties : verdict v.checkPatternProperties = verdict w.checkPatternProperties := by
  have data := shuffled.data
  unfold Visit.checkPatternProperties
  rw [shuffled.fragment, shuffled.pointer]
  generalize v.data = a, w.data = b at data
  cases data.reordered with
  | obj =>
    refine verdict_gather_corresponds data.members fun name a b part => verdict_gather_congr fun ⟨regex, c⟩ _ => ?_
    dsimp only
    split
    · exact shuffled.judged c part _
    · rfl
  | _ => rfl

theorem checkUncovered (c : Fragment) (covered : String → Bool) (code : ViolationCode) {as bs : Members}
    (members : Corresponds Json.Shuffled as bs) :
    verdict (v.checkUncovered c covered code as) = verdict (w.checkUncovered c covered code bs) := by
  refine verdict_gather_corresponds members fun name a b part => ?_
  dsimp only
  rw [shuffled.pointer]
  split
  · rfl
  · split
    · rfl
    · exact shuffled.judged c part _

theorem checkAdditionalProperties : verdict v.checkAdditionalProperties = verdict w.checkAdditionalProperties := by
  have data := shuffled.data
  unfold Visit.checkAdditionalProperties
  rw [shuffled.fragment]
  generalize v.data = a, w.data = b at data
  cases data.reordered with
  | obj =>
    cases w.fragment.additionalProperties? with
    | none => rfl
    | some c => exact shuffled.checkUncovered c _ _ data.members
  | _ => rfl

theorem checkPropertyNames : verdict v.checkPropertyNames = verdict w.checkPropertyNames := by
  have data := shuffled.data
  unfold Visit.checkPropertyNames
  rw [shuffled.fragment, shuffled.pointer]
  generalize v.data = a, w.data = b at data
  cases data.reordered with
  | obj =>
    cases w.fragment.propertyNames? with
    | none => rfl
    | some c =>
      refine verdict_gather_corresponds data.members fun name _ _ _ => ?_
      have text : (Json.str name).Shuffled (.str name) := .refl (by simp [Json.WellFormed, Json.Storable])
      refine map_bind_congr (shuffled.judged c text (w.pointer.join name)) fun found found' empty => ?_
      rw [empty]
      cases found'.isEmpty <;> rfl
  | _ => rfl

theorem checkDependencies (keyword : Keyword) : verdict (v.checkDependencies keyword) = verdict (w.checkDependencies keyword) := by
  have data := shuffled.data
  unfold Visit.checkDependencies
  rw [shuffled.fragment]
  generalize v.data = a, w.data = b at data
  cases data.reordered with
  | obj =>
    refine verdict_gather_congr fun dependency _ => ?_
    unfold checkDependency
    simp only [data.has_eq]
    split
    · rfl
    · split
      · rw [verdict_some, verdict_some, List.isEmpty_map, List.isEmpty_map]
      · exact shuffled.verdict_validateHere _
  | _ => rfl

/-! ## Composition -/

theorem checkNot : verdict v.checkNot = verdict w.checkNot := by
  unfold Visit.checkNot
  rw [shuffled.fragment]
  split
  · rw [shuffled.accepts]
    cases w.accepts _ with
    | none => rfl
    | some accepted => cases accepted <;> rfl
  · rfl

theorem checkAllOf : verdict v.checkAllOf = verdict w.checkAllOf := by
  rw [verdict_allOf, verdict_allOf, shuffled.fragment]
  exact verdict_gather_congr fun c _ => shuffled.verdict_validateHere c

theorem checkAnyOf : verdict v.checkAnyOf = verdict w.checkAnyOf := by
  rw [verdict_anyOf, verdict_anyOf, shuffled.fragment]
  exact failuresBefore_congr (List.forall₂_same.mpr fun c _ => shuffled.verdict_validateHere c)

theorem checkConditional : verdict v.checkConditional = verdict w.checkConditional := by
  unfold Visit.checkConditional
  rw [shuffled.fragment]
  split
  · rfl
  · rw [shuffled.accepts]
    cases w.accepts _ with
    | none => rfl
    | some accepted =>
      simp only [Option.bind_eq_bind, Option.bind_some]
      split
      · exact shuffled.verdict_validateHere _
      · rfl

theorem discriminates (name : String) {a b : Json} (part : a.Shuffled b) :
    v.discriminates name a = w.discriminates name b := by
  funext c
  unfold Visit.discriminates
  rw [shuffled.context, shuffled.scope, shuffled.pointer]
  split
  · exact shuffled.judged _ part _
  · rfl

theorem selectByProperty (name : String) : (v.selectByProperty name).map outcome = (w.selectByProperty name).map outcome := by
  have found := shuffled.data.member? name
  unfold Visit.selectByProperty
  rw [shuffled.fragment]
  generalize v.data.member? name = a, w.data.member? name = b at found
  cases found with
  | none => rfl
  | @some a b part =>
    simp only [shuffled.discriminates name part, Option.bind_eq_bind]
    cases positionsWhere (w.fragment.members .oneOf) (w.discriminates name b) with
    | none => rfl
    | some positions =>
      match positions with
      | [] => rfl
      | [index] =>
        simp only [Option.bind_some]
        cases (w.fragment.members .oneOf)[index]? with
        | none => rfl
        | some c =>
          exact map_bind_congr (shuffled.verdict_validateHere c) fun found found' empty =>
            congrArg (fun empty => (some (.ok (index, empty)) : Option (Except ViolationCode (Nat × Bool)))) empty
      | _ :: _ :: _ => rfl

/-- The same member is selected, or both selections fail for one reason. -/
theorem selectOneOf : v.selectOneOf.map outcome = w.selectOneOf.map outcome := by
  unfold Visit.selectOneOf
  rw [shuffled.fragment]
  split
  · exact shuffled.selectByProperty _
  · rw [outcome_selectByValue, outcome_selectByValue, shuffled.fragment]
    simp only [shuffled.verdict_validateHere]

theorem checkOneOf : verdict v.checkOneOf = verdict w.checkOneOf := by
  rw [verdict_oneOf, verdict_oneOf, map_takes_eq, map_takes_eq, shuffled.selectOneOf]

/-! ## What no other keyword evaluates -/

theorem checkUnevaluatedItem (c : Fragment) (containing : Option Fragment) {a b : Json} (part : a.Shuffled b)
    (index : Nat) :
    verdict (v.checkUnevaluatedItem c containing a index) = verdict (w.checkUnevaluatedItem c containing b index) := by
  have rest : verdict (if c.isBool false then
        (return [v.violationAt .unevaluatedItems (w.pointer.item index) a [("index", .ofNat index)]])
      else v.validate c a (w.pointer.item index)) =
      verdict (if c.isBool false then
        (return [w.violationAt .unevaluatedItems (w.pointer.item index) b [("index", .ofNat index)]])
      else w.validate c b (w.pointer.item index)) := by
    split
    · rfl
    · exact shuffled.judged c part _
  unfold Visit.checkUnevaluatedItem
  rw [shuffled.pointer]
  cases containing with
  | none => exact rest
  | some containing =>
    have taken := shuffled.judged containing part (w.pointer.item index)
    unfold verdict at taken
    simp only [taken, Option.bind_eq_bind]
    cases (w.validate containing b (w.pointer.item index)).map List.isEmpty with
    | none => rfl
    | some taken =>
      cases taken with
      | true => rfl
      | false => exact rest

theorem checkUnevaluatedItems : verdict v.checkUnevaluatedItems = verdict w.checkUnevaluatedItems := by
  have data := shuffled.data
  unfold Visit.checkUnevaluatedItems
  rw [shuffled.fragment, shuffled.shape, shuffled.context]
  generalize v.data = a, w.data = b at data
  cases data.reordered with
  | arr =>
    cases w.fragment.unevaluatedItems? with
    | none => rfl
    | some c =>
      cases w.evaluatedShape with
      | none => rfl
      | some shape =>
        simp only [Option.bind_eq_bind, Option.bind_some]
        split
        · rfl
        · refine verdict_gather ((List.forall₂_drop _ (forall₂_zipIdx data.items 0)).imp ?_)
          rintro ⟨a, index⟩ ⟨b, _⟩ ⟨part, rfl⟩
          exact shuffled.checkUnevaluatedItem c _ part index
  | _ => rfl

theorem checkUnevaluatedProperties : verdict v.checkUnevaluatedProperties = verdict w.checkUnevaluatedProperties := by
  have data := shuffled.data
  unfold Visit.checkUnevaluatedProperties
  rw [shuffled.fragment, shuffled.shape]
  generalize v.data = a, w.data = b at data
  cases data.reordered with
  | obj =>
    cases w.fragment.unevaluatedProperties? with
    | none => rfl
    | some c =>
      cases w.evaluatedShape with
      | none => rfl
      | some shape =>
        simp only [Option.bind_eq_bind, Option.bind_some]
        split
        · rfl
        · exact shuffled.checkUncovered c _ _ data.members
  | _ => rfl

/-! ## All keywords -/

/-- The verdict on every keyword is the same. -/
theorem check (keyword : Keyword) : verdict (v.check keyword) = verdict (w.check keyword) := by
  cases keyword with
  | type => exact congrArg some shuffled.checkType
  | enum => exact congrArg some shuffled.checkEnum
  | const => exact congrArg some shuffled.checkConst
  | format => exact congrArg some shuffled.checkFormat
  | maximum | minimum =>
    refine congrArg some ?_
    simp only [checkMaximum, checkMinimum, shuffled.hasExclusiveFlag]
    exact shuffled.checkBound _ _ _ _ _
  | exclusiveMaximum => exact congrArg some (shuffled.checkBound _ _ _ _ _)
  | exclusiveMinimum => exact congrArg some (shuffled.checkBound _ _ _ _ _)
  | multipleOf => exact congrArg some shuffled.checkMultipleOf
  | maxLength => exact congrArg some (shuffled.checkCount shuffled.textLength _ _ _)
  | minLength => exact congrArg some (shuffled.checkCount shuffled.textLength _ _ _)
  | maxItems => exact congrArg some (shuffled.checkCount shuffled.itemCount _ _ _)
  | minItems => exact congrArg some (shuffled.checkCount shuffled.itemCount _ _ _)
  | maxProperties => exact congrArg some (shuffled.checkCount shuffled.memberCount _ _ _)
  | minProperties => exact congrArg some (shuffled.checkCount shuffled.memberCount _ _ _)
  | pattern => exact congrArg some shuffled.checkPattern
  | items => exact shuffled.checkItems
  | contains => exact shuffled.checkContains
  | uniqueItems => exact congrArg some shuffled.checkUniqueItems
  | properties => exact shuffled.checkProperties
  | patternProperties => exact shuffled.checkPatternProperties
  | additionalProperties => exact shuffled.checkAdditionalProperties
  | propertyNames => exact shuffled.checkPropertyNames
  | required => exact congrArg some shuffled.checkRequired
  | dependencies => exact shuffled.checkDependencies _
  | dependentRequired => exact shuffled.checkDependencies _
  | dependentSchemas => exact shuffled.checkDependencies _
  | not => exact shuffled.checkNot
  | allOf => exact shuffled.checkAllOf
  | anyOf => exact shuffled.checkAnyOf
  | oneOf => exact shuffled.checkOneOf
  | conditional => exact shuffled.checkConditional
  | unevaluatedItems => exact shuffled.checkUnevaluatedItems
  | unevaluatedProperties => exact shuffled.checkUnevaluatedProperties

end Shuffled
end Visit
end JsonSchema
