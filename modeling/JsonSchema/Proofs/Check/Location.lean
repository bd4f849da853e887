import JsonSchema.Compiler
import JsonSchema.Proofs.Attempt
import JsonSchema.Proofs.Check.Territory
import JsonSchema.Proofs.Check.Uniqueness
import JsonSchema.Proofs.Check.Verdict
import JsonSchema.Proofs.Pointer.Reading

/-!
# Where violations are found

A check takes the value and its place apart side by side, so the value of every violation, nested
ones included, stands at its pointer. The pointer to a member or an item leads there whatever the
name or the position is, as escaping and the printing of positions can be undone.
-/

namespace JsonSchema

/-- The violations that come with a selection: those of the member, or the one for lack of it. -/
def Choice.reported : Except Violation Choice → List Violation
  | .ok choice => choice.violations
  | .error violation => [violation]

/-- The judge finds violations within every territory that it is asked about. -/
def Judge.Locates (judge : Judge) : Prop :=
  ∀ P N, Territory P N → ∀ fragment data pointer scope, P data pointer →
    Finds (Violation.Within P N) (judge.validate fragment data pointer scope)

namespace Visit

/-- A visit of a value at its place, under a judge that finds violations within the territory. -/
structure Stands (P N : Json → Pointer → Prop) (visit : Visit) : Prop where
  territory : Territory P N
  locates : visit.judge.Locates
  here : P visit.data visit.pointer

/-- A violation by the visited value, of a kind other than that of names. -/
inductive Own (visit : Visit) : Violation → Prop where
  | intro (code : ViolationCode) (details : Members) (other : code ≠ .invalidPropertyName) :
      Own visit (visit.violation code details)

variable {P N : Json → Pointer → Prop} {visit : Visit}

/-! ## Assertions -/

private theorem own_single {code : ViolationCode} (details : Members) (other : code ≠ .invalidPropertyName) :
    ∀ v ∈ [visit.violation code details], visit.Own v := by
  rintro v inside
  rw [List.mem_singleton.mp inside]
  exact .intro code details other

private theorem own_if {code : ViolationCode} (details : Members) (other : code ≠ .invalidPropertyName)
    (broken : Prop) [Decidable broken] : ∀ v ∈ if broken then [visit.violation code details] else [], visit.Own v := by
  by_cases holds : broken
  · rw [if_pos holds]
    exact own_single details other
  · simp [holds]

private theorem own_unless {code : ViolationCode} (details : Members) (other : code ≠ .invalidPropertyName)
    (kept : Prop) [Decidable kept] : ∀ v ∈ if kept then [] else [visit.violation code details], visit.Own v := by
  by_cases holds : kept
  · simp [holds]
  · rw [if_neg holds]
    exact own_single details other

theorem own_checkType : ∀ v ∈ visit.checkType, visit.Own v := by
  unfold checkType
  split
  · simp
  · exact own_unless _ (by decide) _

theorem own_checkEnum : ∀ v ∈ visit.checkEnum, visit.Own v := by
  unfold checkEnum
  split
  · exact own_unless _ (by decide) _
  · simp

theorem own_checkConst : ∀ v ∈ visit.checkConst, visit.Own v := by
  unfold checkConst
  split
  · exact own_unless _ (by decide) _
  · simp

theorem own_checkFormat : ∀ v ∈ visit.checkFormat, visit.Own v := by
  unfold checkFormat
  split
  · split
    · exact own_unless _ (by decide) _
    · simp
  · simp

theorem own_checkBound {keyword label : String} {beyond : Ordering} {exclusive : Bool} {code : ViolationCode}
    (other : code ≠ .invalidPropertyName) :
    ∀ v ∈ visit.checkBound keyword label beyond exclusive code, visit.Own v := by
  unfold checkBound
  split
  · exact own_if _ other _
  · simp

theorem own_checkMultipleOf : ∀ v ∈ visit.checkMultipleOf, visit.Own v := by
  unfold checkMultipleOf
  split
  · exact own_unless _ (by decide) _
  · simp

theorem own_checkCount {keyword : String} {count : Option Nat} {within : Nat → Nat → Bool} {code : ViolationCode}
    (other : code ≠ .invalidPropertyName) : ∀ v ∈ visit.checkCount keyword count within code, visit.Own v := by
  unfold checkCount
  split
  · exact own_unless _ other _
  · simp

theorem own_checkPattern : ∀ v ∈ visit.checkPattern, visit.Own v := by
  unfold checkPattern
  split
  · exact own_unless _ (by decide) _
  · simp

theorem own_checkRequired : ∀ v ∈ visit.checkRequired, visit.Own v := by
  unfold checkRequired
  split
  · intro v inside
    obtain ⟨name, -, rfl⟩ := List.mem_map.mp inside
    exact .intro _ _ (by decide)
  · simp

theorem own_containsViolations (least most : Option Nat) (count : Nat) :
    ∀ v ∈ visit.containsViolations least most count, visit.Own v := by
  unfold containsViolations
  intro v inside
  rcases List.mem_append.mp inside with few | many
  · cases least with
    | none => exact own_if _ (by decide) _ v few
    | some least => exact own_if _ (by decide) _ v few
  · cases most with
    | none => cases many
    | some most => exact own_if _ (by decide) _ v many

/-! ## Violations by parts -/

theorem within_violationAt {code : ViolationCode} {p : Pointer} {value : Json} (details : Members)
    (other : code ≠ .invalidPropertyName) (own : P value p) : (visit.violationAt code p value details).Within P N :=
  .value other own fun _ inside => nomatch inside

/-- An item that is not evaluated is reported itself, or what its schema finds in it. -/
theorem finds_checkUnevaluatedItem_of {Q : Violation → Prop} {schema : Fragment} (containing : Option Fragment) {item : Json}
    {index : Nat} (own : Q (visit.violationAt .unevaluatedItems (visit.pointer.item index) item [("index", .ofNat index)]))
    (below : Finds Q (visit.validate schema item (visit.pointer.item index))) :
    Finds Q (visit.checkUnevaluatedItem schema containing item index) := by
  have report (taken : Bool) : Finds Q
      (if taken = true then some []
      else if schema.isBool false = true then
        some [visit.violationAt .unevaluatedItems (visit.pointer.item index) item [("index", .ofNat index)]]
      else visit.validate schema item (visit.pointer.item index)) := by
    split
    · exact .nil
    · split
      · exact .single own
      · exact below
  unfold checkUnevaluatedItem
  cases containing with
  | none => exact report false
  | some containing => exact .bind fun taken _ => report taken

namespace Stands

variable (stands : visit.Stands P N)
include stands

theorem own {v : Violation} (own : visit.Own v) : v.Within P N := by
  obtain ⟨code, details, other⟩ := own
  exact within_violationAt details other stands.here

theorem finds_own {found : List Violation} (own : ∀ v ∈ found, visit.Own v) :
    Finds (Violation.Within P N) (some found) :=
  .of_forall fun v inside => stands.own (own v inside)

theorem violationOf {code : ViolationCode} {nested : List Violation} (other : code ≠ .invalidPropertyName)
    (all : ∀ n ∈ nested, n.Within P N) : (visit.violationOf code nested).Within P N := .value other stands.here all

theorem finds_validate (fragment : Fragment) {value : Json} {p : Pointer} (own : P value p) :
    Finds (Violation.Within P N) (visit.validate fragment value p) :=
  stands.locates P N stands.territory fragment value p visit.scope own

theorem finds_validateHere (fragment : Fragment) : Finds (Violation.Within P N) (visit.validateHere fragment) :=
  stands.finds_validate fragment stands.here

theorem item {items : List Json} (data : visit.data = .arr items) {index : Nat} {item : Json}
    (inside : items[index]? = some item) : P item (visit.pointer.item index) :=
  stands.territory.item (data ▸ stands.here) inside

theorem member {members : Members} (data : visit.data = .obj members) {name : String} {value : Json}
    (inside : (name, value) ∈ members) : P value (visit.pointer.join name) :=
  stands.territory.member (data ▸ stands.here) inside

theorem finds_checkUniqueItems : Finds (Violation.Within P N) (some visit.checkUniqueItems) := by
  refine .of_forall fun v inside => ?_
  unfold checkUniqueItems at inside
  split at inside
  · rename_i items data _
    obtain ⟨⟨item, index, first⟩, listed, made⟩ := List.mem_filterMap.mp inside
    simp only at made
    split at made
    · cases made
    · cases made
      refine within_violationAt _ (by decide) (stands.item data ?_)
      -- the position of a text is that of its item
      obtain ⟨place, found⟩ := List.mem_iff_getElem?.mp listed
      rw [List.getElem?_zip_eq_some] at found
      obtain ⟨found, other⟩ := found
      simp [firstEquals_eq, List.getElem?_zipIdx] at other
      obtain ⟨w, -, rfl, -⟩ := other
      exact found
  · cases inside

/-! ## Items -/

theorem finds_checkItem {items : List Json} (data : visit.data = .arr items) {index : Nat} {item : Json}
    (inside : items[index]? = some item) : Finds (Violation.Within P N) (visit.checkItem item index) := by
  have place := stands.item data inside
  unfold checkItem
  split
  · exact stands.finds_validate _ place
  · split
    · exact .single (within_violationAt _ (by decide) place)
    · exact stands.finds_validate _ place
  · exact .nil

theorem finds_checkItems : Finds (Violation.Within P N) visit.checkItems := by
  unfold checkItems
  split
  · rename_i items data
    refine .gather fun ⟨item, index⟩ inside => ?_
    exact stands.finds_checkItem data (List.mk_mem_zipIdx_iff_getElem?.mp inside)
  · exact .nil

theorem finds_checkContains : Finds (Violation.Within P N) visit.checkContains := by
  unfold checkContains
  split
  · refine .bind fun count _ => ?_
    exact stands.finds_own (own_containsViolations _ _ count)
  · exact .nil

/-! ## Properties -/

theorem finds_checkProperties : Finds (Violation.Within P N) visit.checkProperties := by
  unfold checkProperties
  split
  · rename_i members data
    refine .gather fun ⟨name, schema⟩ _ => ?_
    cases found : members.lookup name with
    | none => simpa only [found] using .nil
    | some value => simpa only [found] using stands.finds_validate schema (stands.member data (mem_of_lookup found))
  · exact .nil

theorem finds_checkPatternProperties : Finds (Violation.Within P N) visit.checkPatternProperties := by
  unfold checkPatternProperties
  split
  · rename_i members data
    refine .gather fun ⟨name, value⟩ inside => .gather fun ⟨regex, schema⟩ _ => ?_
    by_cases matched : regex.matchesIn name = true
    · simpa only [matched, if_true] using stands.finds_validate schema (stands.member data inside)
    · simpa only [matched, Bool.false_eq_true, if_false] using .nil
  · exact .nil

theorem finds_checkUncovered (schema : Fragment) (covered : String → Bool) {code : ViolationCode}
    (other : code ≠ .invalidPropertyName) {members : Members} (data : visit.data = .obj members) :
    Finds (Violation.Within P N) (visit.checkUncovered schema covered code members) := by
  refine .gather fun ⟨name, value⟩ inside => ?_
  have place := stands.member data inside
  simp only
  split
  · exact .nil
  · split
    · exact .single (within_violationAt _ other place)
    · exact stands.finds_validate schema place

theorem finds_checkAdditionalProperties : Finds (Violation.Within P N) visit.checkAdditionalProperties := by
  unfold checkAdditionalProperties
  split
  · rename_i members schema data _
    exact stands.finds_checkUncovered schema _ (by decide) data
  · exact .nil

/-- What is found in a name is found by the name. -/
theorem finds_checkPropertyNames : Finds (Violation.Within P N) visit.checkPropertyNames := by
  unfold checkPropertyNames
  split
  · rename_i members schema data _
    refine .gather fun ⟨name, value⟩ inside => .bind fun failures answer => ?_
    have named : N (.str name) (visit.pointer.join name) := stands.territory.name (data ▸ stands.here) inside
    have below := stands.locates N N stands.territory.names schema (.str name) _ visit.scope named failures answer
    refine .of_forall fun v inside => ?_
    split at inside
    · cases inside
    · rw [List.mem_singleton.mp inside]
      refine .name rfl fun d within => ?_
      rw [Violation.flatten_eq] at within
      rcases List.mem_cons.mp within with rfl | deeper
      · exact named
      · obtain ⟨n, nested, deeper⟩ := Violation.mem_flattenAll.mp deeper
        exact (below n nested).all_names d deeper
  · exact .nil

theorem finds_checkDependencies (keyword : Keyword) :
    Finds (Violation.Within P N) (visit.checkDependencies keyword) := by
  unfold checkDependencies
  split
  · rename_i members data
    refine .gather fun dependency _ => ?_
    unfold checkDependency
    split
    · exact .nil
    · split
      · rename_i names _
        refine stands.finds_own fun v inside => ?_
        obtain ⟨name, -, rfl⟩ := List.mem_map.mp inside
        exact .intro _ _ (by decide)
      · exact stands.finds_validateHere _
  · exact .nil

/-! ## Composition -/

theorem finds_checkNot : Finds (Violation.Within P N) visit.checkNot := by
  unfold checkNot
  split
  · refine .bind fun holds _ => ?_
    exact stands.finds_own (own_if _ (by decide) _)
  · exact .nil

theorem finds_checkAllOf : Finds (Violation.Within P N) visit.checkAllOf := by
  refine .bind fun failures answer => ?_
  have all : Finds (Violation.Within P N) (JsonSchema.gather (visit.fragment.members .allOf) visit.validateHere) :=
    .gather fun member _ => stands.finds_validateHere member
  refine .of_forall fun v inside => ?_
  split at inside
  · cases inside
  · rw [List.mem_singleton.mp inside]
    exact stands.violationOf (by decide) (all failures answer)

theorem within_failuresBefore {members : List Fragment} {failures : List Violation}
    (answer : visit.failuresBefore members = some (some failures)) : ∀ n ∈ failures, n.Within P N := by
  induction members generalizing failures with
  | nil =>
    cases answer
    simp
  | cons member rest ih =>
    obtain ⟨own, checked, answer⟩ := Option.bind_eq_some_iff.mp answer
    split at answer
    · cases answer
    · obtain ⟨others, later, answer⟩ := Option.bind_eq_some_iff.mp answer
      obtain ⟨others, rfl, rfl⟩ := Option.map_eq_some_iff.mp (Option.some.inj answer)
      intro n inside
      rcases List.mem_append.mp inside with here | below
      · exact stands.finds_validateHere member own checked n here
      · exact ih later n below

theorem finds_checkAnyOf : Finds (Violation.Within P N) visit.checkAnyOf := by
  refine .bind fun result answer => ?_
  cases result with
  | none => exact .nil
  | some failures => exact .single (stands.violationOf (by decide) (stands.within_failuresBefore answer))

theorem finds_checkConditional : Finds (Violation.Within P N) visit.checkConditional := by
  unfold checkConditional
  split
  · exact .nil
  · refine .bind fun holds _ => ?_
    simp only
    split
    · exact stands.finds_validateHere _
    · exact .nil

theorem within_severalMatches (positions : List Nat) : (visit.severalMatches positions).Within P N :=
  stands.own (.intro _ _ (by decide))

theorem selectByProperty_within {name : String} {selected : Except Violation Choice}
    (answer : visit.selectByProperty name = some selected) : ∀ v ∈ Choice.reported selected, v.Within P N := by
  unfold selectByProperty at answer
  split at answer
  · cases answer
    exact List.forall_mem_singleton.mpr (stands.own (.intro _ _ (by decide)))
  · obtain ⟨positions, -, answer⟩ := Option.bind_eq_some_iff.mp answer
    split at answer
    · cases answer
      exact List.forall_mem_singleton.mpr (stands.own (.intro _ _ (by decide)))
    · split at answer
      · obtain ⟨failures, checked, answer⟩ := Option.bind_eq_some_iff.mp answer
        cases answer
        exact stands.finds_validateHere _ failures checked
      · cases answer
        nofun
    · cases answer
      exact List.forall_mem_singleton.mpr (stands.within_severalMatches _)

theorem selectByValue_within {selected : Except Violation Choice} (answer : visit.selectByValue = some selected) :
    ∀ v ∈ Choice.reported selected, v.Within P N := by
  obtain ⟨failures, checked, answer⟩ := Option.bind_eq_some_iff.mp answer
  have each : Finds (Violation.Within P N) (gather (visit.fragment.members .oneOf) visit.validateHere) :=
    .gather fun member _ => stands.finds_validateHere member
  have all : ∀ n ∈ failures.flatten, n.Within P N := each _ (by simp only [gather, checked, Option.map_some])
  split at answer
  · cases answer
    exact List.forall_mem_singleton.mpr (stands.violationOf (by decide) all)
  · cases answer
    exact fun v reported => absurd reported List.not_mem_nil
  · cases answer
    exact List.forall_mem_singleton.mpr (stands.within_severalMatches _)

theorem finds_checkOneOf : Finds (Violation.Within P N) visit.checkOneOf := by
  refine .bind fun selected answer => ?_
  have all : ∀ v ∈ Choice.reported selected, v.Within P N := by
    unfold selectOneOf at answer
    split at answer
    · exact stands.selectByProperty_within answer
    · exact stands.selectByValue_within answer
  cases selected with
  | ok choice => exact .of_forall all
  | error violation => exact .of_forall all

/-! ## What no other keyword evaluates -/

theorem finds_checkUnevaluatedItem (schema : Fragment) (containing : Option Fragment) {items : List Json}
    (data : visit.data = .arr items) {index : Nat} {item : Json} (inside : items[index]? = some item) :
    Finds (Violation.Within P N) (visit.checkUnevaluatedItem schema containing item index) :=
  have place := stands.item data inside
  finds_checkUnevaluatedItem_of containing (within_violationAt _ (by decide) place) (stands.finds_validate schema place)

theorem finds_checkUnevaluatedItems : Finds (Violation.Within P N) visit.checkUnevaluatedItems := by
  unfold checkUnevaluatedItems
  split
  · rename_i items schema data _
    refine .bind fun shape _ => ?_
    by_cases all : shape.restItems?.isSome = true
    · simpa only [all, if_true] using .nil
    · simp only [all, Bool.false_eq_true, if_false]
      refine .gather fun ⟨item, index⟩ inside => ?_
      have listed := List.mem_of_mem_drop inside
      exact stands.finds_checkUnevaluatedItem schema _ data (List.mk_mem_zipIdx_iff_getElem?.mp listed)
  · exact .nil

theorem finds_checkUnevaluatedProperties : Finds (Violation.Within P N) visit.checkUnevaluatedProperties := by
  unfold checkUnevaluatedProperties
  split
  · rename_i members schema data _
    refine .bind fun shape _ => ?_
    by_cases all : shape.additionalProperties?.isSome = true
    · simpa only [all, if_true] using .nil
    · simpa only [all, Bool.false_eq_true, if_false] using stands.finds_checkUncovered schema _ (by decide) data
  · exact .nil

/-! ## All keywords -/

theorem finds_check (keyword : Keyword) : Finds (Violation.Within P N) (visit.check keyword) := by
  cases keyword with
  | type => exact stands.finds_own own_checkType
  | enum => exact stands.finds_own own_checkEnum
  | const => exact stands.finds_own own_checkConst
  | format => exact stands.finds_own own_checkFormat
  | maximum | minimum | exclusiveMaximum | exclusiveMinimum =>
    exact stands.finds_own (own_checkBound (by decide))
  | multipleOf => exact stands.finds_own own_checkMultipleOf
  | maxLength | minLength | minItems | maxItems | minProperties | maxProperties =>
    exact stands.finds_own (own_checkCount (by decide))
  | pattern => exact stands.finds_own own_checkPattern
  | items => exact stands.finds_checkItems
  | contains => exact stands.finds_checkContains
  | uniqueItems => exact stands.finds_checkUniqueItems
  | properties => exact stands.finds_checkProperties
  | patternProperties => exact stands.finds_checkPatternProperties
  | additionalProperties => exact stands.finds_checkAdditionalProperties
  | propertyNames => exact stands.finds_checkPropertyNames
  | required => exact stands.finds_own own_checkRequired
  | dependencies | dependentRequired | dependentSchemas => exact stands.finds_checkDependencies _
  | «not» => exact stands.finds_checkNot
  | allOf => exact stands.finds_checkAllOf
  | anyOf => exact stands.finds_checkAnyOf
  | oneOf => exact stands.finds_checkOneOf
  | conditional => exact stands.finds_checkConditional
  | unevaluatedItems => exact stands.finds_checkUnevaluatedItems
  | unevaluatedProperties => exact stands.finds_checkUnevaluatedProperties

end Stands
end Visit

/-! ## The judge -/

namespace Context

variable {P N : Json → Pointer → Prop} (context : Context) {judge : Judge}

theorem finds_validateSettled (territory : Territory P N) (locates : judge.Locates) (fragment : Fragment) {data : Json}
    {pointer : Pointer} (here : P data pointer) (scope : Scope) :
    Finds (Violation.Within P N) (context.validateSettled judge fragment data pointer scope) := by
  have stands : (⟨context, judge, fragment, data, pointer, scope⟩ : Visit).Stands P N := ⟨territory, locates, here⟩
  unfold validateSettled
  split
  · exact .nil
  · exact .single (stands.own (.intro _ _ (by decide)))
  · exact .gather fun keyword _ => stands.finds_check keyword

theorem locates_validateStep (locates : judge.Locates) (territory : Territory P N) (fragment : Fragment) {data : Json}
    {pointer : Pointer} (here : P data pointer) (scope : Scope) :
    Finds (Violation.Within P N) (context.validateStep judge fragment data pointer scope) := by
  unfold validateStep
  split
  · exact .nil
  · simp only
    split
    · exact context.finds_validateSettled territory locates _ here _
    · exact context.finds_validateSettled territory locates _ here _
    · exact .single (.value nofun here nofun)

/-- To whatever depth checks nest, they find violations within the territory they are asked about. -/
theorem locates_judge (depth : Nat) : (context.judge depth).Locates := by
  induction depth with
  | zero => exact fun _ _ _ _ _ _ _ _ _ => nofun
  | succ depth ih =>
    exact fun P N territory fragment data pointer scope here =>
      context.locates_validateStep ih territory fragment here scope

end Context

/-! ## Places in a value -/

/-- A string is the name of a member, and a pointer leads to that member. -/
def NamesMember (root value : Json) (pointer : Pointer) : Prop :=
  ∃ (object : Pointer) (members : Members) (name : String), pointer = object.join name ∧
    object.resolve? root = some (.obj members) ∧ members.has name = true ∧ value = .str name

/-- The parts of a well-formed value, where its pointers lead. -/
theorem territory_of_wellFormed (root : Json) :
    Territory (fun value p => p.resolve? root = some value ∧ value.WellFormed) (NamesMember root) where
  member here inside := ⟨Pointer.resolve?_member here.1 here.2 inside, here.2.of_mem_members inside⟩
  item here inside := ⟨Pointer.resolve?_item here.1 here.2 inside, here.2.of_mem_items (List.mem_of_getElem? inside)⟩
  name := by
    intro members p name value here inside
    have present : members.lookup name = some value := lookup_of_nodup here.2.nodup inside
    exact ⟨p, members, name, rfl, here.1, by simp [Members.has, present], rfl⟩
  text := by
    rintro value p ⟨object, members, name, -, -, -, rfl⟩
    exact ⟨name, rfl⟩

/-! ## At or below a place -/

/-- A place is another one or below it. -/
def Pointer.IsUnder (p top : Pointer) : Prop := top.segments <+: p.segments

theorem Pointer.IsUnder.join {p top : Pointer} (under : p.IsUnder top) (name : String) : (p.join name).IsUnder top :=
  under.trans (List.prefix_append _ _)

/-- Nothing is under two members of one value. -/
theorem Pointer.IsUnder.name_eq {p top : Pointer} {a b : String} (left : p.IsUnder (top.join a))
    (right : p.IsUnder (top.join b)) : a = b := by
  obtain ⟨rest, first⟩ := left
  obtain ⟨rest', second⟩ := right
  simp only [Pointer.join, List.append_assoc] at first second
  exact (List.cons.inj (List.append_cancel_left (first.trans second.symm))).1

/-- Nothing is under two items of one value, as a position is read back from its digits. -/
theorem Pointer.IsUnder.index_eq {p top : Pointer} {a b : Nat} (left : p.IsUnder (top.item a))
    (right : p.IsUnder (top.item b)) : a = b := by
  have digits : (toString a).toList = (toString b).toList := congrArg String.toList (left.name_eq right)
  rw [Nat.toString_eq_repr, Nat.toList_repr, Nat.toString_eq_repr, Nat.toList_repr] at digits
  rw [← Digits.value_toDigits a, digits, Digits.value_toDigits]

/-- The values under a place, and the names of their members. -/
theorem territory_of_isUnder (top : Pointer) :
    Territory (fun _ p => p.IsUnder top) fun value p => (∃ s, value = .str s) ∧ p.IsUnder top where
  member under _ := under.join _
  item under _ := under.join _
  name under _ := ⟨⟨_, rfl⟩, under.join _⟩
  text here := here.1

/-- A violation and those nested in it are under a place. -/
def Violation.AllUnder (top : Pointer) (v : Violation) : Prop := ∀ d ∈ v.flatten, d.pointer.IsUnder top

/-- Neither a violation nor one that is nested in it is under a place. -/
def Violation.Spares (place : Pointer) (v : Violation) : Prop := ∀ d ∈ v.flatten, ¬ d.pointer.IsUnder place

theorem Violation.AllUnder.spares_member {top : Pointer} {v : Violation} {a b : String} (under : v.AllUnder (top.join a))
    (apart : a ≠ b) : v.Spares (top.join b) :=
  fun d inside other => apart ((under d inside).name_eq other)

theorem Violation.AllUnder.spares_item {top : Pointer} {v : Violation} {a b : Nat} (under : v.AllUnder (top.item a))
    (apart : a ≠ b) : v.Spares (top.item b) :=
  fun d inside other => apart ((under d inside).index_eq other)

/-- A violation in which none is nested. -/
theorem Violation.allUnder_of_single {v : Violation} (alone : v.nested = []) : v.AllUnder v.pointer := by
  intro d inside
  rw [flatten_eq, alone] at inside
  rw [List.mem_singleton.mp inside]
  exact List.prefix_refl _

/-- What is found in a value is under its place. -/
theorem Context.finds_allUnder (context : Context) (depth : Nat) (fragment : Fragment) (data : Json) (pointer : Pointer)
    (scope : Scope) : Finds (Violation.AllUnder pointer) ((context.judge depth).validate fragment data pointer scope) := by
  intro found answer v inside d below
  have within := context.locates_judge depth _ _ (territory_of_isUnder pointer) fragment data pointer scope
    (List.prefix_refl _) found answer v inside
  rcases within.own_or_named below with under | ⟨a, around, named, deeper⟩
  · exact under
  · exact (within.of_named around named d deeper).2

/-- Every violation that a node finds in data, nested ones included, has a pointer that is read back
from its text and leads to the violation's value. Only in a violation of a name, and in those
nested in it, the value is that name, and the pointer leads to its member. -/
theorem violations_are_located (node : Node) {data : Json} (formed : data.WellFormed) {depth : Nat}
    {found : List Violation}
    (answer : (node.context.judge depth).validate node.fragment data .root node.scope = some found) :
    (∀ e ∈ Violation.flattenAll found, Pointer.parse e.pointer.text = .ok e.pointer ∧
      (e.pointer.resolve? data = some e.value ∨
        ∃ a ∈ Violation.flattenAll found, a.code = .invalidPropertyName ∧ e ∈ a.flatten)) ∧
    ∀ a ∈ Violation.flattenAll found, a.code = .invalidPropertyName →
      ∀ e ∈ a.flatten, NamesMember data e.value e.pointer := by
  have within := node.context.locates_judge depth _ _ (territory_of_wellFormed data) node.fragment data .root node.scope
    ⟨rfl, formed⟩ found answer
  refine ⟨fun e inside => ⟨Pointer.parse_text _, ?_⟩, fun a inside named e deeper => ?_⟩
  · obtain ⟨v, member, below⟩ := Violation.mem_flattenAll.mp inside
    rcases (within v member).own_or_named below with place | ⟨a, around, named, deeper⟩
    · exact .inl place.1
    · exact .inr ⟨a, Violation.mem_flattenAll.mpr ⟨v, member, around⟩, named, deeper⟩
  · obtain ⟨v, member, below⟩ := Violation.mem_flattenAll.mp inside
    exact (within v member).of_named below named e deeper

/-- The second item has to be an object with names of at most two characters and a member `id`. -/
def shortNames : Json := .obj [("prefixItems", .arr [.bool true,
  .obj [("propertyNames", .obj [("maxLength", .ofNat 2)]), ("required", .arr [.str "id"])]])]

/-- The second item is an object whose one name is made of the characters that pointers escape. -/
def escapedName : Json := .arr [.null, .obj [("a/~", .ofNat 1)]]

/-- The node of a schema, and what it finds in data. -/
def nodeAndFound (schema data : Json) : Option (Node × List Violation) := do
  let node ← (Compiler.standard.compile schema).toOption
  return (node, ← node.validate data)

theorem violations_of_escaped_name_are_located : ∃ node found,
    Compiler.standard.compile shortNames = .ok node ∧ node.validate escapedName = some found ∧
    ((Violation.flattenAll found).map fun e => (e.code, e.pointer.text)) =
      [(.invalidPropertyName, "#/1/a~1~0"), (.maxLength, "#/1/a~1~0"), (.requiredProperty, "#/1")] ∧
    (∀ e ∈ Violation.flattenAll found, Pointer.parse e.pointer.text = .ok e.pointer ∧
      (e.pointer.resolve? escapedName = some e.value ∨
        ∃ a ∈ Violation.flattenAll found, a.code = .invalidPropertyName ∧ e ∈ a.flatten)) ∧
    ∀ a ∈ Violation.flattenAll found, a.code = .invalidPropertyName →
      ∀ e ∈ a.flatten, NamesMember escapedName e.value e.pointer := by
  have computed : (nodeAndFound shortNames escapedName).map (fun result =>
      (Violation.flattenAll result.2).map fun e => (e.code, e.pointer.text)) =
      some [(.invalidPropertyName, "#/1/a~1~0"), (.maxLength, "#/1/a~1~0"), (.requiredProperty, "#/1")] := by
    decide +kernel
  obtain ⟨⟨node, found⟩, known, listed⟩ := Option.map_eq_some_iff.mp computed
  simp only [nodeAndFound, Option.bind_eq_bind, Option.bind_eq_some_iff] at known
  obtain ⟨_, compiled, _, answer, same⟩ := known
  cases same
  have formed : escapedName.WellFormed := by
    simp [Json.WellFormed, escapedName, Json.Storable, Json.ofNat]
  exact ⟨node, found, ok_of_toOption compiled, answer, listed, violations_are_located node formed answer⟩

end JsonSchema
