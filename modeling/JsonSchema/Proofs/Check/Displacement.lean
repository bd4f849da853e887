import JsonSchema.Proofs.Check.Verdict
import JsonSchema.Proofs.Compilation.Renumbered

/-!
# Data that stand at another place

A check of data below a place finds the same as one of the data by themselves: every violation, with
all that are nested in it, is moved below that place. The numbers of documents make no difference.
-/

namespace JsonSchema

namespace Violation

mutual

/-- A violation of a part of the data, as one of the whole data. -/
def moved (p : Pointer) : Violation → Violation
  | ⟨code, pointer, schema, value, data, nested⟩ => ⟨code, p ++ pointer, schema, value, data, movedAll p nested⟩

def movedAll (p : Pointer) : List Violation → List Violation
  | [] => []
  | violation :: rest => violation.moved p :: movedAll p rest

end

theorem movedAll_eq (p : Pointer) (found : List Violation) : movedAll p found = found.map (moved p) := by
  induction found with
  | nil => rfl
  | cons violation rest ih => rw [movedAll, List.map_cons, ih]

mutual

theorem moved_root : ∀ violation : Violation, violation.moved .root = violation
  | ⟨code, pointer, schema, value, data, nested⟩ => by
    rw [moved, movedAll_root nested]
    rfl

theorem movedAll_root : ∀ found : List Violation, movedAll .root found = found
  | [] => rfl
  | violation :: rest => by rw [movedAll, moved_root violation, movedAll_root rest]

end

end Violation

/-- What a part of the data selects, for the whole data. -/
def Choice.moved (p : Pointer) : Except Violation Choice → Except Violation Choice
  | .ok choice => .ok { choice with violations := choice.violations.map (Violation.moved p) }
  | .error violation => .error (violation.moved p)

/-- What checks at several places find is moved with what each of them finds. -/
theorem gather_map {α : Type} {places : List α} {check : α → Option (List Violation)} (move : Violation → Violation) :
    gather places (fun place => (check place).map (List.map move)) = (gather places check).map (List.map move) := by
  unfold gather
  rw [← map_mapM, Option.map_map, Option.map_map]
  congr 1
  funext found
  exact List.map_flatten.symm

theorem gather_of_map {α β : Type} (places : List α) (f : α → β) (check : β → Option (List Violation)) :
    gather (places.map f) check = gather places fun place => check (f place) := by
  rw [gather, gather, List.mapM_map]
  rfl

namespace Visit

/-- Two visits of the same data, of which the second one finds them below a place, by the same fragment where
documents have other numbers. -/
structure Follows (p : Pointer) (σ : Nat → Nat) (v w : Visit) : Prop where
  draft : w.context.draft = v.context.draft
  formats : w.context.formats = v.context.formats
  fragment : w.fragment = v.fragment.renumber σ
  data : w.data = v.data
  pointer : w.pointer = p ++ v.pointer
  settled : ∀ c, w.context.settle (c.renumber σ) w.scope = (v.context.settle c v.scope).renumber σ
  judged : ∀ c value q,
    w.validate (c.renumber σ) value (p ++ q) = (v.validate c value q).map (List.map (Violation.moved p))
  shape : w.evaluatedShape = v.evaluatedShape.map (Fragment.renumber σ)

namespace Follows

open Fragment

variable {p : Pointer} {σ : Nat → Nat} {v w : Visit} (moves : v.Follows p σ w)
include moves

theorem keyword? (name : String) : w.keyword? name = v.keyword? name := by
  rw [Visit.keyword?, Visit.keyword?, moves.fragment, Fragment.keyword?_renumber]

theorem violationAt (code : ViolationCode) (q : Pointer) (value : Json) (details : Members) :
    w.violationAt code (p ++ q) value details = (v.violationAt code q value details).moved p := by
  rw [Visit.violationAt, Visit.violationAt, moves.fragment, schema_renumber]
  rfl

theorem violation (code : ViolationCode) (details : Members) :
    w.violation code details = (v.violation code details).moved p := by
  rw [Visit.violation, moves.pointer, moves.data, moves.violationAt, ← Visit.violation]

theorem violationOf (code : ViolationCode) (nested : List Violation) :
    w.violationOf code (nested.map (Violation.moved p)) = (v.violationOf code nested).moved p := by
  rw [Visit.violationOf, moves.violation, ← Violation.movedAll_eq]
  rfl

theorem validateHere (c : Fragment) :
    w.validateHere (c.renumber σ) = (v.validateHere c).map (List.map (Violation.moved p)) := by
  rw [Visit.validateHere, moves.data, moves.pointer, moves.judged]
  rfl

theorem accepts (c : Fragment) : w.accepts (c.renumber σ) = v.accepts c := by
  rw [Visit.accepts, Visit.accepts, moves.validateHere, Option.map_map]
  congr 1
  funext found
  exact List.isEmpty_map

/-! ## Assertions -/

theorem checkType : w.checkType = v.checkType.map (Violation.moved p) := by
  unfold Visit.checkType
  rw [moves.fragment, types?_renumber, moves.data]
  split
  · rfl
  · split <;> simp [moves.violation]

theorem checkEnum : w.checkEnum = v.checkEnum.map (Violation.moved p) := by
  unfold Visit.checkEnum
  rw [moves.keyword?, moves.data]
  split
  · split <;> simp [moves.violation]
  · rfl

theorem checkConst : w.checkConst = v.checkConst.map (Violation.moved p) := by
  unfold Visit.checkConst
  rw [moves.keyword?, moves.data]
  split
  · split <;> simp [moves.violation]
  · rfl

theorem checkFormat : w.checkFormat = v.checkFormat.map (Violation.moved p) := by
  unfold Visit.checkFormat
  rw [moves.keyword?, moves.data, moves.formats, moves.fragment, schema_renumber]
  split
  · split
    · split <;> simp [moves.violation]
    · rfl
  · rfl

theorem hasExclusiveFlag (name : String) : w.hasExclusiveFlag name = v.hasExclusiveFlag name := by
  rw [Visit.hasExclusiveFlag, Visit.hasExclusiveFlag, moves.keyword?, moves.draft]

theorem checkBound (keyword label : String) (beyond : Ordering) (exclusive : Bool) (code : ViolationCode) :
    w.checkBound keyword label beyond exclusive code =
      (v.checkBound keyword label beyond exclusive code).map (Violation.moved p) := by
  unfold Visit.checkBound
  rw [moves.keyword?, moves.data]
  split
  · dsimp only
    split <;> simp [moves.violation]
  · rfl

theorem checkMultipleOf : w.checkMultipleOf = v.checkMultipleOf.map (Violation.moved p) := by
  unfold Visit.checkMultipleOf
  rw [moves.keyword?, moves.data]
  split
  · split <;> simp [moves.violation]
  · rfl

theorem checkCount (keyword : String) (count : Option Nat) (within : Nat → Nat → Bool) (code : ViolationCode) :
    w.checkCount keyword count within code = (v.checkCount keyword count within code).map (Violation.moved p) := by
  unfold Visit.checkCount
  rw [moves.keyword?]
  split
  · split <;> simp [moves.violation]
  · rfl

theorem checkPattern : w.checkPattern = v.checkPattern.map (Violation.moved p) := by
  unfold Visit.checkPattern
  rw [moves.fragment, pattern_renumber, moves.data]
  split
  · split <;> simp [moves.violation]
  · rfl

theorem checkUniqueItems : w.checkUniqueItems = v.checkUniqueItems.map (Violation.moved p) := by
  unfold Visit.checkUniqueItems
  rw [moves.keyword?, moves.data]
  split
  · rw [List.map_filterMap]
    congr 1
    funext ⟨item, index, first⟩
    dsimp only
    split
    · rfl
    · rw [moves.pointer, Pointer.append_item, moves.violationAt]
      rfl
  · rfl

theorem checkRequired : w.checkRequired = v.checkRequired.map (Violation.moved p) := by
  unfold Visit.checkRequired
  rw [moves.keyword?, moves.data]
  split
  · simp [moves.violation, Function.comp_def]
  · rfl

/-! ## Items -/

theorem checkItem (item : Json) (index : Nat) :
    w.checkItem item index = (v.checkItem item index).map (List.map (Violation.moved p)) := by
  unfold Visit.checkItem
  simp only [moves.fragment, tupleItems_renumber, restItems?_renumber, List.getElem?_map, moves.pointer,
    Pointer.append_item]
  cases v.fragment.tupleItems[index]? with
  | some c => exact moves.judged c item _
  | none =>
    cases v.fragment.restItems? with
    | none => rfl
    | some rest =>
      simp only [Option.map_none, Option.map_some, isBool_renumber, moves.judged, moves.violationAt]
      split <;> rfl

theorem checkItems : w.checkItems = v.checkItems.map (List.map (Violation.moved p)) := by
  unfold Visit.checkItems
  rw [moves.data]
  split
  · simp only [moves.checkItem, ← gather_map]
  · rfl

theorem verdict_validate (c : Fragment) (value : Json) (q : Pointer) :
    verdict (w.validate (c.renumber σ) value (p ++ q)) = verdict (v.validate c value q) := by
  simp [verdict, moves.judged, Function.comp_def]

theorem countMatches (c : Fragment) (items : List Json) :
    w.countMatches (c.renumber σ) items = v.countMatches c items := by
  simp only [countMatches_eq, moves.pointer, Pointer.append_item, moves.verdict_validate]

theorem containsViolations (least most : Option Nat) (count : Nat) :
    w.containsViolations least most count = (v.containsViolations least most count).map (Violation.moved p) := by
  unfold Visit.containsViolations
  dsimp only
  rw [List.map_append]
  congr 1
  · cases least <;> dsimp only <;> split <;> simp [moves.violation]
  · cases most with
    | none => rfl
    | some most => dsimp only; split <;> simp [moves.violation]

theorem checkContains : w.checkContains = v.checkContains.map (List.map (Violation.moved p)) := by
  unfold Visit.checkContains
  simp only [moves.keyword?, moves.data, moves.draft, moves.fragment, contains?_renumber]
  cases v.data with
  | arr items =>
    cases v.fragment.contains? with
    | none => rfl
    | some c =>
      simp only [Option.map_some, moves.countMatches, Option.bind_eq_bind, Option.map_bind, moves.containsViolations]
      rfl
  | _ => rfl

/-! ## Properties -/

theorem checkProperties : w.checkProperties = v.checkProperties.map (List.map (Violation.moved p)) := by
  unfold Visit.checkProperties
  rw [moves.data, moves.fragment, properties_renumber]
  split
  · rw [gather_of_map, ← gather_map]
    congr 1
    funext ⟨name, c⟩
    dsimp only
    split
    · rw [moves.pointer, Pointer.append_join, moves.judged]
    · rfl
  · rfl

theorem checkPatternProperties : w.checkPatternProperties = v.checkPatternProperties.map (List.map (Violation.moved p)) := by
  unfold Visit.checkPatternProperties
  rw [moves.data, moves.fragment, patternProperties_renumber]
  split
  · rw [← gather_map]
    congr 1
    funext ⟨name, value⟩
    dsimp only
    rw [gather_of_map, ← gather_map]
    congr 1
    funext ⟨regex, c⟩
    dsimp only
    split
    · rw [moves.pointer, Pointer.append_join, moves.judged]
    · rfl
  · rfl

theorem checkUncovered (c : Fragment) (covered : String → Bool) (code : ViolationCode) (members : Members) :
    w.checkUncovered (c.renumber σ) covered code members =
      (v.checkUncovered c covered code members).map (List.map (Violation.moved p)) := by
  unfold Visit.checkUncovered
  rw [← gather_map]
  congr 1
  funext ⟨name, value⟩
  simp only [isBool_renumber, moves.pointer, Pointer.append_join, moves.judged, moves.violationAt]
  split
  · rfl
  · split <;> rfl

theorem checkAdditionalProperties :
    w.checkAdditionalProperties = v.checkAdditionalProperties.map (List.map (Violation.moved p)) := by
  have declared : (v.fragment.renumber σ).declares = v.fragment.declares := funext (declares_renumber σ v.fragment)
  unfold Visit.checkAdditionalProperties
  rw [moves.data, moves.fragment, additionalProperties?_renumber, declared]
  cases v.data with
  | obj members =>
    cases v.fragment.additionalProperties? with
    | none => rfl
    | some c => exact moves.checkUncovered c _ _ _
  | _ => rfl

theorem checkPropertyNames : w.checkPropertyNames = v.checkPropertyNames.map (List.map (Violation.moved p)) := by
  unfold Visit.checkPropertyNames
  rw [moves.data, moves.fragment, propertyNames?_renumber]
  cases v.data with
  | obj members =>
    cases v.fragment.propertyNames? with
    | none => rfl
    | some c =>
      dsimp only [Option.map_some]
      rw [← gather_map]
      congr 1
      funext ⟨name, value⟩
      simp only [moves.pointer, Pointer.append_join, moves.judged, moves.violationAt, Option.bind_eq_bind]
      cases v.validate c (.str name) (v.pointer.join name) with
      | none => rfl
      | some found =>
        simp only [Option.map_some, Option.bind_some, List.isEmpty_map]
        split
        · rfl
        · rw [← Violation.movedAll_eq]
          rfl
  | _ => rfl

theorem checkDependency (members : Members) (dependency : Dependency) :
    w.checkDependency members (dependency.renumber σ) =
      (v.checkDependency members dependency).map (List.map (Violation.moved p)) := by
  obtain ⟨property, keyword, demand⟩ := dependency
  unfold Visit.checkDependency Dependency.renumber
  dsimp only
  split
  · rfl
  · cases demand with
    | names names => simp [Demand.renumber, moves.violation, Function.comp_def]
    | schema c => exact moves.validateHere c

theorem checkDependencies (keyword : Keyword) :
    w.checkDependencies keyword = (v.checkDependencies keyword).map (List.map (Violation.moved p)) := by
  unfold Visit.checkDependencies
  rw [moves.data, moves.fragment, dependenciesOf_renumber]
  split
  · rw [gather_of_map, ← gather_map]
    congr 1
    funext dependency
    exact moves.checkDependency _ dependency
  · rfl

/-! ## Composition -/

theorem checkNot : w.checkNot = v.checkNot.map (List.map (Violation.moved p)) := by
  unfold Visit.checkNot
  rw [moves.fragment, not?_renumber]
  cases v.fragment.not? with
  | none => rfl
  | some c =>
    dsimp only [Option.map_some]
    rw [moves.accepts]
    cases v.accepts c with
    | none => rfl
    | some holds => cases holds <;> simp [moves.violation]

theorem checkAllOf : w.checkAllOf = v.checkAllOf.map (List.map (Violation.moved p)) := by
  have failures : gather (w.fragment.members .allOf) w.validateHere =
      (gather (v.fragment.members .allOf) v.validateHere).map (List.map (Violation.moved p)) := by
    rw [moves.fragment, members_renumber, gather_of_map, ← gather_map]
    congr 1
    funext c
    exact moves.validateHere c
  unfold Visit.checkAllOf
  rw [failures]
  cases gather (v.fragment.members .allOf) v.validateHere with
  | none => rfl
  | some found =>
    simp only [Option.map_some, Option.bind_eq_bind, Option.bind_some, List.isEmpty_map, moves.violationOf]
    split <;> rfl

theorem failuresBefore (members : List Fragment) : w.failuresBefore (members.map (renumber σ)) =
    (v.failuresBefore members).map (Option.map (List.map (Violation.moved p))) := by
  induction members with
  | nil => rfl
  | cons c rest ih =>
    rw [List.map_cons, Visit.failuresBefore, Visit.failuresBefore, moves.validateHere, ih]
    cases v.validateHere c with
    | none => rfl
    | some found =>
      simp only [Option.map_some, Option.bind_eq_bind, Option.bind_some, List.isEmpty_map]
      split
      · rfl
      · cases v.failuresBefore rest with
        | none => rfl
        | some later => cases later <;> simp

theorem checkAnyOf : w.checkAnyOf = v.checkAnyOf.map (List.map (Violation.moved p)) := by
  unfold Visit.checkAnyOf
  rw [moves.fragment, members_renumber, moves.failuresBefore]
  cases v.failuresBefore _ with
  | none => rfl
  | some found =>
    cases found with
    | none => rfl
    | some failures => simp [moves.violationOf]

theorem checkConditional : w.checkConditional = v.checkConditional.map (List.map (Violation.moved p)) := by
  unfold Visit.checkConditional
  rw [moves.fragment, condition?_renumber, consequence?_renumber, alternative?_renumber]
  cases v.fragment.condition? with
  | none => rfl
  | some condition =>
    dsimp only [Option.map_some]
    rw [moves.accepts]
    cases v.accepts condition with
    | none => rfl
    | some holds =>
      simp only [Option.bind_eq_bind, Option.bind_some, ← apply_ite (Option.map (renumber σ))]
      cases (if holds then v.fragment.consequence? else v.fragment.alternative?) with
      | none => rfl
      | some branch => exact moves.validateHere branch

theorem discriminates (name : String) (value : Json) (c : Fragment) :
    w.discriminates name value (c.renumber σ) = v.discriminates name value c := by
  unfold Visit.discriminates
  rw [moves.settled, property?_renumber]
  cases (v.context.settle c v.scope).property? name with
  | none => rfl
  | some schema =>
    dsimp only [Option.map_some]
    rw [moves.pointer, Pointer.append_join, moves.judged, Option.map_map]
    congr 1
    funext found
    exact List.isEmpty_map

theorem severalMatches (positions : List Nat) : w.severalMatches positions = (v.severalMatches positions).moved p :=
  moves.violation _ _

theorem selectByProperty (name : String) : w.selectByProperty name =
    (v.selectByProperty name).map (Choice.moved p) := by
  have positions (value : Json) : positionsWhere (w.fragment.members .oneOf) (w.discriminates name value) =
      positionsWhere (v.fragment.members .oneOf) (v.discriminates name value) := by
    unfold positionsWhere
    rw [moves.fragment, members_renumber, List.mapM_map]
    simp only [Function.comp_def, moves.discriminates]
  unfold Visit.selectByProperty
  rw [moves.data]
  split
  · rw [moves.violation]
    rfl
  · rename_i value _
    simp only [positions]
    cases positionsWhere (v.fragment.members .oneOf) (v.discriminates name value) with
    | none => rfl
    | some positions =>
      simp only [Option.bind_eq_bind, Option.bind_some]
      match positions with
      | [] =>
        dsimp only
        rw [moves.violation]
        rfl
      | [index] =>
        dsimp only
        rw [moves.fragment, members_renumber, List.getElem?_map]
        cases (v.fragment.members .oneOf)[index]? with
        | none => rfl
        | some c =>
          dsimp only [Option.map_some]
          rw [moves.validateHere]
          cases v.validateHere c <;> rfl
      | _ :: _ :: _ =>
        dsimp only
        rw [moves.severalMatches]
        rfl

theorem selectByValue : w.selectByValue =
    v.selectByValue.map (Choice.moved p) := by
  have failures : (w.fragment.members .oneOf).mapM w.validateHere =
      ((v.fragment.members .oneOf).mapM v.validateHere).map (List.map (List.map (Violation.moved p))) := by
    rw [moves.fragment, members_renumber, List.mapM_map, map_mapM]
    simp only [Function.comp_def, moves.validateHere]
  unfold Visit.selectByValue
  rw [failures]
  cases (v.fragment.members .oneOf).mapM v.validateHere with
  | none => rfl
  | some found =>
    have positions : ((found.map (List.map (Violation.moved p))).zipIdx.filter fun entry => entry.1.isEmpty).map Prod.snd =
        (found.zipIdx.filter fun entry => entry.1.isEmpty).map Prod.snd := by
      rw [List.zipIdx_map, List.filter_map, List.map_map]
      simp [Function.comp_def]
    simp only [Option.map_some, Option.bind_eq_bind, Option.bind_some, positions]
    split
    · rw [← List.map_flatten, moves.violationOf]
      rfl
    · rfl
    · rw [moves.severalMatches]
      rfl

theorem selectOneOf : w.selectOneOf = v.selectOneOf.map (Choice.moved p) := by
  unfold Visit.selectOneOf
  rw [moves.fragment, discriminator?_renumber]
  split
  · exact moves.selectByProperty _
  · exact moves.selectByValue

theorem checkOneOf : w.checkOneOf = v.checkOneOf.map (List.map (Violation.moved p)) := by
  unfold Visit.checkOneOf
  rw [moves.selectOneOf]
  cases v.selectOneOf with
  | none => rfl
  | some result => cases result <;> rfl

/-! ## What no other keyword evaluates -/

theorem checkUnevaluatedItem (c : Fragment) (containing : Option Fragment) (item : Json) (index : Nat) :
    w.checkUnevaluatedItem (c.renumber σ) (containing.map (renumber σ)) item index =
      (v.checkUnevaluatedItem c containing item index).map (List.map (Violation.moved p)) := by
  have rest : (if (c.renumber σ).isBool false then
        (return [w.violationAt .unevaluatedItems (w.pointer.item index) item [("index", .ofNat index)]])
      else w.validate (c.renumber σ) item (w.pointer.item index) : Option (List Violation)) =
      (if c.isBool false then
        (return [v.violationAt .unevaluatedItems (v.pointer.item index) item [("index", .ofNat index)]])
      else v.validate c item (v.pointer.item index)).map (List.map (Violation.moved p)) := by
    rw [isBool_renumber, moves.pointer, Pointer.append_item, moves.judged, moves.violationAt]
    split <;> rfl
  unfold Visit.checkUnevaluatedItem
  cases containing with
  | none => exact rest
  | some containing =>
    dsimp only [Option.map_some]
    rw [rest, moves.pointer, Pointer.append_item, moves.judged]
    cases v.validate containing item (v.pointer.item index) with
    | none => rfl
    | some found =>
      simp only [Option.map_some, Option.bind_eq_bind, Option.bind_some, List.isEmpty_map]
      split <;> rfl

theorem checkUnevaluatedItems : w.checkUnevaluatedItems = v.checkUnevaluatedItems.map (List.map (Violation.moved p)) := by
  unfold Visit.checkUnevaluatedItems
  rw [moves.data, moves.fragment, unevaluatedItems?_renumber, moves.shape, moves.draft]
  cases v.data with
  | arr items =>
    cases v.fragment.unevaluatedItems? with
    | none => rfl
    | some c =>
      cases v.evaluatedShape with
      | none => rfl
      | some shape =>
        simp only [Option.map_some, Option.bind_eq_bind, Option.bind_some, restItems?_renumber, Option.isSome_map,
          contains?_renumber, tupleItems_renumber, List.length_map]
        split
        · rfl
        · rw [← gather_map]
          congr 1
          funext ⟨item, index⟩
          dsimp only
          rw [← moves.checkUnevaluatedItem]
          congr 1
          split <;> rfl
  | _ => rfl

theorem checkUnevaluatedProperties :
    w.checkUnevaluatedProperties = v.checkUnevaluatedProperties.map (List.map (Violation.moved p)) := by
  unfold Visit.checkUnevaluatedProperties
  rw [moves.data, moves.fragment, unevaluatedProperties?_renumber, moves.shape]
  cases v.data with
  | obj members =>
    cases v.fragment.unevaluatedProperties? with
    | none => rfl
    | some c =>
      cases v.evaluatedShape with
      | none => rfl
      | some shape =>
        have declared : (shape.renumber σ).declares = shape.declares := funext (declares_renumber σ shape)
        simp only [Option.map_some, Option.bind_eq_bind, Option.bind_some, additionalProperties?_renumber,
          Option.isSome_map, declared, moves.checkUncovered]
        split <;> rfl
  | _ => rfl

/-! ## All keywords -/

/-- Every keyword finds the same, below the place. -/
theorem check (keyword : Keyword) : w.check keyword = (v.check keyword).map (List.map (Violation.moved p)) := by
  cases keyword with
  | type => exact congrArg some moves.checkType
  | enum => exact congrArg some moves.checkEnum
  | const => exact congrArg some moves.checkConst
  | format => exact congrArg some moves.checkFormat
  | maximum | minimum =>
    simp only [Visit.check, checkMaximum, checkMinimum, moves.hasExclusiveFlag, moves.checkBound, Option.map_some]
  | exclusiveMaximum => exact congrArg some (moves.checkBound ..)
  | exclusiveMinimum => exact congrArg some (moves.checkBound ..)
  | multipleOf => exact congrArg some moves.checkMultipleOf
  | maxLength | minLength | maxItems | minItems | maxProperties | minProperties =>
    simp only [Visit.check, checkMaxLength, checkMinLength, checkMaxItems, checkMinItems, checkMaxProperties,
      checkMinProperties, moves.data, moves.checkCount, Option.map_some]
  | pattern => exact congrArg some moves.checkPattern
  | items => exact moves.checkItems
  | contains => exact moves.checkContains
  | uniqueItems => exact congrArg some moves.checkUniqueItems
  | properties => exact moves.checkProperties
  | patternProperties => exact moves.checkPatternProperties
  | additionalProperties => exact moves.checkAdditionalProperties
  | propertyNames => exact moves.checkPropertyNames
  | required => exact congrArg some moves.checkRequired
  | dependencies => exact moves.checkDependencies _
  | dependentRequired => exact moves.checkDependencies _
  | dependentSchemas => exact moves.checkDependencies _
  | not => exact moves.checkNot
  | allOf => exact moves.checkAllOf
  | anyOf => exact moves.checkAnyOf
  | oneOf => exact moves.checkOneOf
  | conditional => exact moves.checkConditional
  | unevaluatedItems => exact moves.checkUnevaluatedItems
  | unevaluatedProperties => exact moves.checkUnevaluatedProperties

end Follows
end Visit
end JsonSchema
