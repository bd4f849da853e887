import JsonSchema.Check.Visit
import JsonSchema.Proofs.Check.Uniqueness
import JsonSchema.Proofs.Direct.Subschemas

/-!
# Assertions decide clauses

The check of an assertion finds nothing just if the clause of the keyword holds. The names of types
and the numbers that set limits mean to the checks what they mean to the clauses.
-/

namespace JsonSchema

/-- The keywords and the formats that a context reads schemas with. -/
def Context.dialect (context : Context) : Dialect := ⟨context.draft, context.formats⟩

namespace Dialect

/-- The values of a type are those that the name of the type stands for. -/
theorem isOfType_name (type : TypeName) (data : Json) : isOfType type.name data = type.admits data := by
  cases type with
  | integer =>
    cases data with
    | num n =>
      change (n.toRat.den == 1) = n.isInteger
      rw [Bool.eq_iff_iff, beq_iff_eq, n.isInteger_iff_den]
    | _ => rfl
  | _ => cases data <;> rfl

theorem any_admits_eq_isOfType (name : String) (data : Json) :
    (TypeName.ofName? name).any (·.admits data) = isOfType name data := by
  cases known : TypeName.ofName? name with
  | some type =>
    obtain rfl : type.name = name := by simpa using List.find?_some known
    exact (isOfType_name type data).symm
  | none =>
    have apart (type : TypeName) : (name == type.name) = false := beq_false_of_ne fun same =>
      List.find?_eq_none.mp known type (by cases type <;> decide) (beq_iff_eq.mpr same.symm)
    cases data with
    | null => exact (apart .null).symm
    | bool => exact (apart .boolean).symm
    | num n =>
      have number : (name == "number") = false := apart .number
      have integer : (name == "integer") = false := apart .integer
      simp [isOfType, number, integer]
    | str => exact (apart .string).symm
    | arr => exact (apart .array).symm
    | obj => exact (apart .object).symm

theorem limit?_eq_limitUnder (members : Members) (name : String) : limit? (members.lookup name) = limitUnder members name := by
  unfold limit? limitUnder
  congr
  funext n
  exact n.limit?_eq

end Dialect

namespace Visit

open Dialect

variable {visit : Visit} {members : Members} (schema : visit.fragment.schema = .obj members)
include schema

theorem keyword?_eq (name : String) : visit.keyword? name = members.lookup name := by
  rw [keyword?, Fragment.keyword?, schema]
  rfl

theorem isEmpty_checkType : visit.checkType.isEmpty = typeHolds members visit.data := by
  unfold checkType typeHolds Fragment.types?
  rw [show visit.fragment.keyword? "type" = members.lookup "type" from keyword?_eq schema _]
  cases members.lookup "type" with
  | none => rfl
  | some value =>
    have named : ((Members.texts (value.items?.getD [value])).filterMap TypeName.ofName?).any (·.admits visit.data) =
        (Members.texts (value.items?.getD [value])).any (isOfType · visit.data) := by
      rw [List.any_filterMap]
      exact congrArg _ (funext fun name => any_admits_eq_isOfType name visit.data)
    rw [Option.map_some, Option.all_some, ← named, Members.texts]
    dsimp only
    cases List.any _ _ <;> rfl

theorem isEmpty_checkEnum : visit.checkEnum.isEmpty = enumHolds members visit.data := by
  unfold checkEnum enumHolds
  rw [keyword?_eq schema]
  cases members.lookup "enum" with
  | none => rfl
  | some value =>
    cases value with
    | arr values =>
      simp only [Option.bind_some, Json.items?, Option.all_some]
      cases values.any (·.equal visit.data) <;> rfl
    | _ => rfl

theorem isEmpty_checkConst : visit.checkConst.isEmpty = constHolds members visit.data := by
  unfold checkConst constHolds
  rw [keyword?_eq schema]
  cases members.lookup "const" with
  | none => rfl
  | some expected =>
    simp only [Option.all_some]
    cases expected.equal visit.data <;> rfl

theorem isEmpty_checkFormat :
    visit.checkFormat.isEmpty = formatHolds members visit.data visit.context.formats := by
  unfold checkFormat formatHolds
  rw [keyword?_eq schema, schema]
  cases members.lookup "format" with
  | none => rfl
  | some value =>
    cases value with
    | str name =>
      simp only [Option.bind_some, Json.string?]
      cases visit.context.formats.rule? name with
      | none => rfl
      | some rule =>
        simp only [Option.all_some]
        cases rule (.obj members) visit.data <;> rfl
    | _ => rfl

/-! ## Numbers -/

theorem isEmpty_checkBound (name label : String) (beyond : Ordering) (exclusive : Bool) (code : ViolationCode) :
    (visit.checkBound name label beyond exclusive code).isEmpty = numberHolds members visit.data name fun value bound =>
      !(value.compare bound = beyond || (exclusive && value.compare bound = .eq)) := by
  unfold checkBound numberHolds
  rw [keyword?_eq schema]
  cases visit.data with
  | num value =>
    cases members.lookup name with
    | none => rfl
    | some bound =>
      cases bound with
      | num bound =>
        simp only [Json.number?, Option.bind_some, Option.all_some]
        cases value.compare bound = beyond || (exclusive && value.compare bound = .eq) <;> rfl
      | _ => rfl
  | _ => cases members.lookup name <;> rfl

theorem isEmpty_checkMultipleOf :
    visit.checkMultipleOf.isEmpty = numberHolds members visit.data "multipleOf" Number.isMultipleOf := by
  unfold checkMultipleOf numberHolds
  rw [keyword?_eq schema]
  cases visit.data with
  | num value =>
    cases members.lookup "multipleOf" with
    | none => rfl
    | some divisor =>
      cases divisor with
      | num divisor =>
        simp only [Json.number?, Option.bind_some, Option.all_some]
        cases value.isMultipleOf divisor <;> rfl
      | _ => rfl
  | _ => cases members.lookup "multipleOf" <;> rfl

theorem isEmpty_checkMaximum : visit.checkMaximum.isEmpty =
    boundHolds members visit.data visit.context.draft "maximum" "exclusiveMaximum" .lt := by
  rw [checkMaximum, isEmpty_checkBound schema, boundHolds, hasExclusiveFlag, keyword?_eq schema]
  congr
  funext value bound
  cases value.compare bound <;> simp [Draft.hasBooleanBounds]

theorem isEmpty_checkMinimum : visit.checkMinimum.isEmpty =
    boundHolds members visit.data visit.context.draft "minimum" "exclusiveMinimum" .gt := by
  rw [checkMinimum, isEmpty_checkBound schema, boundHolds, hasExclusiveFlag, keyword?_eq schema]
  congr
  funext value bound
  cases value.compare bound <;> simp [Draft.hasBooleanBounds]

theorem isEmpty_checkExclusiveMaximum : visit.checkExclusiveMaximum.isEmpty =
    numberHolds members visit.data "exclusiveMaximum" fun value bound => value.compare bound = .lt := by
  rw [checkExclusiveMaximum, isEmpty_checkBound schema]
  congr
  funext value bound
  cases value.compare bound <;> rfl

theorem isEmpty_checkExclusiveMinimum : visit.checkExclusiveMinimum.isEmpty =
    numberHolds members visit.data "exclusiveMinimum" fun value bound => value.compare bound = .gt := by
  rw [checkExclusiveMinimum, isEmpty_checkBound schema]
  congr
  funext value bound
  cases value.compare bound <;> rfl

/-! ## Lengths, texts, items and names -/

theorem isEmpty_checkCount (name : String) (count : Option Nat) (keeps : Nat → Nat → Bool) (code : ViolationCode) :
    (visit.checkCount name count keeps code).isEmpty = countHolds members name count keeps := by
  unfold checkCount countHolds
  rw [keyword?_eq schema, limit?_eq_limitUnder]
  cases count with
  | none => rfl
  | some count =>
    cases limitUnder members name with
    | none => rfl
    | some limit =>
      simp only [Option.all_some]
      cases keeps count limit <;> rfl

theorem isEmpty_checkUniqueItems : visit.checkUniqueItems.isEmpty = uniqueHolds members visit.data := by
  unfold uniqueHolds Json.ofItems
  cases data : visit.data with
  | arr items =>
    simp only [Json.items?, Option.all_some]
    cases asked : (members.lookup "uniqueItems").any (·.isBool true) with
    | false =>
      rw [checkUniqueItems, keyword?_eq schema]
      split
      · rename_i keyword
        simp [keyword, Json.isBool] at asked
      · rfl
    | true =>
      have found : members.lookup "uniqueItems" = some (.bool true) := by
        cases found : members.lookup "uniqueItems" with
        | none => simp [found] at asked
        | some keyword => cases keyword <;> simp_all [Json.isBool]
      rw [Bool.eq_iff_iff, List.isEmpty_iff, checkUniqueItems_eq_nil_iff data (keyword?_eq schema _ ▸ found)]
      simp
  | _ => simp [checkUniqueItems, data, Json.items?]

omit schema in
/-- No name is missing just if all are there. -/
theorem isEmpty_missing (own : Members) (names : List String) :
    (names.filter fun name => !own.has name).isEmpty = names.all own.has := by
  induction names with
  | nil => rfl
  | cons name rest ih =>
    rw [List.filter_cons, List.all_cons, ← ih]
    cases Members.has own name <;> rfl

theorem isEmpty_checkRequired : visit.checkRequired.isEmpty = requiredHolds members visit.data := by
  unfold checkRequired requiredHolds Members.elements Json.ofMembers
  rw [keyword?_eq schema]
  cases visit.data with
  | obj own =>
    cases members.lookup "required" with
    | none => rfl
    | some value =>
      cases value with
      | arr names =>
        simp only [Json.members?, Json.items?, Option.bind_some, Option.getD_some, Option.all_some, List.isEmpty_map,
          Members.texts, isEmpty_missing]
      | _ => rfl
  | _ => rfl

omit schema in
/-- The expression of a compiled schema is that of its `pattern`. -/
theorem isEmpty_checkPattern {pointer : Pointer} (read : Fragment.patternOf pointer members = .ok visit.fragment.pattern) :
    visit.checkPattern.isEmpty = patternHolds members visit.data := by
  unfold checkPattern patternHolds
  unfold Fragment.patternOf readPattern at read
  generalize visit.fragment.pattern = pattern at read
  cases visit.data with
  | str text =>
    simp only [Json.string?, Option.all_some]
    split at read
    · rename_i source found
      rw [found]
      cases compiled : Regex.compile source with
      | error fault =>
        rw [compiled] at read
        cases read
      | ok regex =>
        rw [compiled] at read
        cases read
        simp only [Option.bind_some, Json.string?, Option.all_some, isMatch, compiled, Except.toOption, Option.any_some]
        cases regex.matchesIn text <;> rfl
    · rename_i other
      cases read
      cases found : members.lookup "pattern" with
      | none => rfl
      | some value =>
        cases value with
        | str source => exact absurd found (other source)
        | _ => rfl
  | _ => rfl

end Visit
end JsonSchema
