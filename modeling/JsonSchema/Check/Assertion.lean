import JsonSchema.Check.Visit
import JsonSchema.Json.Canonical

/-!
# Assertions

These keywords look at the value alone. A keyword whose value has another shape than its draft
asks for, or that meets a value of another type than it constrains, holds.
-/

namespace JsonSchema

/-- The value of a keyword as a limit on lengths and counts. -/
def limit? (value : Option Json) : Option Nat := (value.bind Json.number?).bind Number.limit?

namespace Visit

/-! ## Values of any type -/

def checkType (visit : Visit) : List Violation :=
  match visit.fragment.types? with
  | none => []
  | some types =>
    if types.any (·.admits visit.data) then []
    else [visit.violation .type
      [("expected", .ofStrings (types.map TypeName.name)),
        ("received", .str (TypeName.refined visit.data).name)]]

def checkEnum (visit : Visit) : List Violation :=
  match visit.keyword? "enum" with
  | some (.arr values) =>
    if values.any (·.equal visit.data) then [] else [visit.violation .enum [("values", .arr values)]]
  | _ => []

def checkConst (visit : Visit) : List Violation :=
  match visit.keyword? "const" with
  | some expected =>
    if expected.equal visit.data then [] else [visit.violation .const [("expected", expected)]]
  | none => []

/-- A format without rule constrains nothing. -/
def checkFormat (visit : Visit) : List Violation :=
  match visit.keyword? "format" with
  | some (.str name) =>
    match visit.context.formats.rule? name with
    | some rule =>
      if rule visit.fragment.schema visit.data then [] else [visit.violation .format [("format", .str name)]]
    | none => []
  | _ => []

/-! ## Numbers -/

/-- A bound on numbers, broken by values on the side `beyond` and, if it is exclusive, by the bound
itself. Violations name the bound as `label`. -/
def checkBound (visit : Visit) (keyword label : String) (beyond : Ordering) (exclusive : Bool)
    (code : ViolationCode) : List Violation :=
  match visit.data, visit.keyword? keyword with
  | .num value, some (.num bound) =>
    let order := value.compare bound
    if order = beyond || (exclusive && order = .eq) then
      [visit.violation code [(label, .num bound), ("exclusive", .bool exclusive)]]
    else []
  | _, _ => []

/-- Whether the draft reads a boolean that makes a bound exclusive, and it is set. -/
def hasExclusiveFlag (visit : Visit) (name : String) : Bool :=
  visit.context.draft.hasBooleanBounds && (visit.keyword? name).any (·.isBool true)

def checkMaximum (visit : Visit) : List Violation :=
  visit.checkBound "maximum" "maximum" .gt (visit.hasExclusiveFlag "exclusiveMaximum") .maximum

def checkMinimum (visit : Visit) : List Violation :=
  visit.checkBound "minimum" "minimum" .lt (visit.hasExclusiveFlag "exclusiveMinimum") .minimum

def checkExclusiveMaximum (visit : Visit) : List Violation :=
  visit.checkBound "exclusiveMaximum" "maximum" .gt true .maximum

def checkExclusiveMinimum (visit : Visit) : List Violation :=
  visit.checkBound "exclusiveMinimum" "minimum" .lt true .minimum

def checkMultipleOf (visit : Visit) : List Violation :=
  match visit.data, visit.keyword? "multipleOf" with
  | .num value, some (.num divisor) =>
    if value.isMultipleOf divisor then [] else [visit.violation .multipleOf [("multipleOf", .num divisor)]]
  | _, _ => []

/-! ## Lengths and counts -/

/-- A limit on a count that the value has; `within count limit` tells whether it is kept. -/
def checkCount (visit : Visit) (keyword : String) (count : Option Nat) (within : Nat → Nat → Bool)
    (code : ViolationCode) : List Violation :=
  match count, limit? (visit.keyword? keyword) with
  | some count, some limit =>
    if within count limit then []
    else [visit.violation code [(keyword, .ofNat limit), ("length", .ofNat count)]]
  | _, _ => []

def checkMaxLength (visit : Visit) : List Violation :=
  visit.checkCount "maxLength" (visit.data.string?.map String.length) (· ≤ ·) .maxLength

def checkMinLength (visit : Visit) : List Violation :=
  visit.checkCount "minLength" (visit.data.string?.map String.length) (· ≥ ·) .minLength

def checkMaxItems (visit : Visit) : List Violation :=
  visit.checkCount "maxItems" (visit.data.items?.map List.length) (· ≤ ·) .maxItems

def checkMinItems (visit : Visit) : List Violation :=
  visit.checkCount "minItems" (visit.data.items?.map List.length) (· ≥ ·) .minItems

def checkMaxProperties (visit : Visit) : List Violation :=
  visit.checkCount "maxProperties" (visit.data.members?.map List.length) (· ≤ ·) .maxProperties

def checkMinProperties (visit : Visit) : List Violation :=
  visit.checkCount "minProperties" (visit.data.members?.map List.length) (· ≥ ·) .minProperties

/-! ## Strings, arrays and objects -/

def checkPattern (visit : Visit) : List Violation :=
  match visit.data, visit.fragment.pattern with
  | .str text, some regex =>
    if regex.matchesIn text then [] else [visit.violation .pattern [("pattern", .str regex.source)]]
  | _, _ => []

/-- The position of each text from `index` on, with that of its first equal. `seen` has the first
position of every text before `index`. -/
def firstEqualsFrom (index : Nat) (seen : List (String × Nat)) : List String → List (Nat × Nat)
  | [] => []
  | text :: texts =>
    match seen.lookup text with
    | some first => (index, first) :: firstEqualsFrom (index + 1) seen texts
    | none => (index, index) :: firstEqualsFrom (index + 1) ((text, index) :: seen) texts

/-- The position of each text with that of its first equal. -/
def firstEquals (texts : List String) : List (Nat × Nat) := firstEqualsFrom 0 [] texts

/-- Every item that has an equal one before it is a violation. -/
def checkUniqueItems (visit : Visit) : List Violation :=
  match visit.data, visit.keyword? "uniqueItems" with
  | .arr items, some (.bool true) =>
    (items.zip (firstEquals (items.map Json.canonical))).filterMap fun (item, index, first) =>
      if first = index then none
      else some (visit.violationAt .uniqueItems (visit.pointer.item index) item
        [("duplicate", .ofNat index), ("first", .ofNat first)])
  | _, _ => []

def checkRequired (visit : Visit) : List Violation :=
  match visit.data, visit.keyword? "required" with
  | .obj members, some (.arr names) =>
    ((names.filterMap Json.string?).filter fun name => !Members.has members name).map fun name =>
      visit.violation .requiredProperty [("key", .str name)]
  | _, _ => []

end Visit
end JsonSchema
