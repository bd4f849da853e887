import JsonSchema.Check.Assertion
import JsonSchema.Check.Selection

/-!
# Applicators

These keywords apply other fragments to the value or to its parts.
-/

namespace JsonSchema.Visit

/-! ## Items -/

/-- One item against the schema of its position or else the one for the rest. -/
def checkItem (visit : Visit) (item : Json) (index : Nat) : Option (List Violation) :=
  let pointer := visit.pointer.item index
  match visit.fragment.tupleItems[index]?, visit.fragment.restItems? with
  | some schema, _ => visit.validate schema item pointer
  | none, some rest =>
    if rest.isBool false then
      some [visit.violationAt .additionalItems pointer item [("index", .ofNat index)]]
    else visit.validate rest item pointer
  | none, none => some []

def checkItems (visit : Visit) : Option (List Violation) :=
  match visit.data with
  | .arr items => gather items.zipIdx fun (item, index) => visit.checkItem item index
  | _ => some []

/-- How many items satisfy a fragment. -/
def countMatches (visit : Visit) (schema : Fragment) (items : List Json) : Option Nat := do
  let verdicts ← items.zipIdx.mapM fun (item, index) => visit.validate schema item (visit.pointer.item index)
  return verdicts.countP List.isEmpty

/-- The verdict on a number of matches: at least one without a lower bound, else no fewer and no
more than the bounds. -/
def containsViolations (visit : Visit) (least most : Option Nat) (count : Nat) : List Violation :=
  let tooFew := match least with
    | none => if count = 0 then [visit.violation .contains []] else []
    | some least =>
      if count < least then
        [visit.violation .containsMin [("minContains", .ofNat least), ("count", .ofNat count)]]
      else []
  let tooMany := match most with
    | some most =>
      if most < count then
        [visit.violation .containsMax [("maxContains", .ofNat most), ("count", .ofNat count)]]
      else []
    | none => []
  tooFew ++ tooMany

def checkContains (visit : Visit) : Option (List Violation) :=
  match visit.data, visit.fragment.contains? with
  | .arr items, some schema => do
    let bound (name : String) :=
      if visit.context.draft.boundsContains then limit? (visit.keyword? name) else none
    let count ← visit.countMatches schema items
    return visit.containsViolations (bound "minContains") (bound "maxContains") count
  | _, _ => some []

/-! ## Properties -/

def checkProperties (visit : Visit) : Option (List Violation) :=
  match visit.data with
  | .obj members =>
    gather visit.fragment.properties fun (name, schema) =>
      match members.lookup name with
      | some value => visit.validate schema value (visit.pointer.join name)
      | none => some []
  | _ => some []

def checkPatternProperties (visit : Visit) : Option (List Violation) :=
  match visit.data with
  | .obj members =>
    gather members fun (name, value) =>
      gather visit.fragment.patternProperties fun (regex, schema) =>
        if regex.matchesIn name then visit.validate schema value (visit.pointer.join name) else some []
  | _ => some []

/-- The members that nothing covers, against a schema for them. The schema `false` is reported as a
violation of its own kind. -/
def checkUncovered (visit : Visit) (schema : Fragment) (covered : String → Bool) (code : ViolationCode)
    (members : Members) : Option (List Violation) :=
  gather members fun (name, value) =>
    let pointer := visit.pointer.join name
    if covered name then some []
    else if schema.isBool false then some [visit.violationAt code pointer value [("property", .str name)]]
    else visit.validate schema value pointer

def checkAdditionalProperties (visit : Visit) : Option (List Violation) :=
  match visit.data, visit.fragment.additionalProperties? with
  | .obj members, some schema =>
    visit.checkUncovered schema visit.fragment.declares .noAdditionalProperties members
  | _, _ => some []

/-- Every name is checked as a string that stands at its member. -/
def checkPropertyNames (visit : Visit) : Option (List Violation) :=
  match visit.data, visit.fragment.propertyNames? with
  | .obj members, some schema =>
    gather members fun (name, _) => do
      let pointer := visit.pointer.join name
      let failures ← visit.validate schema (.str name) pointer
      let violation := visit.violationAt .invalidPropertyName pointer (.str name) [("property", .str name)]
      return if failures.isEmpty then [] else [{ violation with nested := failures }]
  | _, _ => some []

/-- What a present property asks for. -/
def checkDependency (visit : Visit) (members : Members) (dependency : Dependency) : Option (List Violation) :=
  if !members.has dependency.property then some []
  else match dependency.demand with
    | .names names =>
      some ((names.filter fun name => !members.has name).map fun name =>
        visit.violation .missingDependency
          [("missingProperty", .str name), ("property", .str dependency.property)])
    | .schema schema => visit.validateHere schema

def checkDependencies (visit : Visit) (keyword : Keyword) : Option (List Violation) :=
  match visit.data with
  | .obj members => gather (visit.fragment.dependenciesOf keyword) (visit.checkDependency members)
  | _ => some []

/-! ## Composition -/

def checkNot (visit : Visit) : Option (List Violation) :=
  match visit.fragment.not? with
  | some schema => do return if ← visit.accepts schema then [visit.violation .not []] else []
  | none => some []

def checkAllOf (visit : Visit) : Option (List Violation) := do
  let failures ← gather (visit.fragment.members .allOf) visit.validateHere
  return if failures.isEmpty then [] else [visit.violationOf .allOf failures]

/-- The failures of all members up to the first one that accepts; `none` inside if one does. -/
def failuresBefore (visit : Visit) : List Fragment → Option (Option (List Violation))
  | [] => some (some [])
  | member :: rest => do
    let failures ← visit.validateHere member
    if failures.isEmpty then return none
    else return (← visit.failuresBefore rest).map (failures ++ ·)

def checkAnyOf (visit : Visit) : Option (List Violation) := do
  match ← visit.failuresBefore (visit.fragment.members .anyOf) with
  | some failures => return [visit.violationOf .anyOf failures]
  | none => return []

def checkOneOf (visit : Visit) : Option (List Violation) := do
  match ← visit.selectOneOf with
  | .ok choice => return choice.violations
  | .error violation => return [violation]

def checkConditional (visit : Visit) : Option (List Violation) :=
  match visit.fragment.condition? with
  | none => some []
  | some condition => do
    let branch := if ← visit.accepts condition then visit.fragment.consequence? else visit.fragment.alternative?
    match branch with
    | some branch => visit.validateHere branch
    | none => return []

/-! ## What no other keyword evaluates -/

/-- The fragment whose static shape tells which parts of the value count as evaluated: the reduced
one, or the fragment itself where reduction fails. -/
def evaluatedShape (visit : Visit) : Option Fragment := do
  match ← visit.judge.reduce ⟨some visit.data, visit.pointer, []⟩ visit.fragment visit.scope with
  | .ok reduced => return reduced.fragment
  | .error _ => return visit.fragment

/-- An item past the tuple, unless `contains` takes it. -/
def checkUnevaluatedItem (visit : Visit) (schema : Fragment) (containing : Option Fragment) (item : Json)
    (index : Nat) : Option (List Violation) := do
  let pointer := visit.pointer.item index
  let taken ← match containing with
    | some containing => (visit.validate containing item pointer).map List.isEmpty
    | none => some false
  if taken then return []
  else if schema.isBool false then
    return [visit.violationAt .unevaluatedItems pointer item [("index", .ofNat index)]]
  else visit.validate schema item pointer

def checkUnevaluatedItems (visit : Visit) : Option (List Violation) :=
  match visit.data, visit.fragment.unevaluatedItems? with
  | .arr items, some schema => do
    let shape ← visit.evaluatedShape
    if shape.restItems?.isSome then return []
    let containing := if visit.context.draft.containsEvaluates then shape.contains? else none
    gather (items.zipIdx.drop shape.tupleItems.length) fun (item, index) =>
      visit.checkUnevaluatedItem schema containing item index
  | _, _ => some []

def checkUnevaluatedProperties (visit : Visit) : Option (List Violation) :=
  match visit.data, visit.fragment.unevaluatedProperties? with
  | .obj members, some schema => do
    let shape ← visit.evaluatedShape
    if shape.additionalProperties?.isSome then return []
    visit.checkUncovered schema shape.declares .unevaluatedProperty members
  | _, _ => some []

/-! ## All keywords -/

/-- What a keyword of the fragment reports. -/
def check (visit : Visit) : Keyword → Option (List Violation)
  | .type => some visit.checkType
  | .enum => some visit.checkEnum
  | .const => some visit.checkConst
  | .format => some visit.checkFormat
  | .maximum => some visit.checkMaximum
  | .minimum => some visit.checkMinimum
  | .exclusiveMaximum => some visit.checkExclusiveMaximum
  | .exclusiveMinimum => some visit.checkExclusiveMinimum
  | .multipleOf => some visit.checkMultipleOf
  | .maxLength => some visit.checkMaxLength
  | .minLength => some visit.checkMinLength
  | .pattern => some visit.checkPattern
  | .items => visit.checkItems
  | .contains => visit.checkContains
  | .minItems => some visit.checkMinItems
  | .maxItems => some visit.checkMaxItems
  | .uniqueItems => some visit.checkUniqueItems
  | .properties => visit.checkProperties
  | .patternProperties => visit.checkPatternProperties
  | .additionalProperties => visit.checkAdditionalProperties
  | .propertyNames => visit.checkPropertyNames
  | .required => some visit.checkRequired
  | .minProperties => some visit.checkMinProperties
  | .maxProperties => some visit.checkMaxProperties
  | .dependencies => visit.checkDependencies .dependencies
  | .dependentRequired => visit.checkDependencies .dependentRequired
  | .dependentSchemas => visit.checkDependencies .dependentSchemas
  | .not => visit.checkNot
  | .allOf => visit.checkAllOf
  | .anyOf => visit.checkAnyOf
  | .oneOf => visit.checkOneOf
  | .conditional => visit.checkConditional
  | .unevaluatedItems => visit.checkUnevaluatedItems
  | .unevaluatedProperties => visit.checkUnevaluatedProperties

end JsonSchema.Visit
