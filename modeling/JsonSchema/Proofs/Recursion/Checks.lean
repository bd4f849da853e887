import JsonSchema.Proofs.Compilation.Tree
import JsonSchema.Proofs.Json.Place
import JsonSchema.Proofs.Recursion.Inquiry

/-!
# What checks ask

The checks of a visit ask about fragments near the one that is visited, for the value itself or
for one of its proper parts, in the scope of the visit. Reductions are asked only for what no
other keyword evaluates.
-/

namespace JsonSchema

/-! ## Fragments near a fragment -/

namespace Visit

/-- A value is the one that is visited, or a proper part of it. -/
def Covers (visit : Visit) (data : Json) (pointer : Pointer) : Prop :=
  (data = visit.data ∧ pointer = visit.pointer) ∨ data.depth < visit.data.depth

/-- A fragment is a child of the visited one, or a child of what a child's reference stands for. -/
def Near (visit : Visit) (fragment : Fragment) : Prop :=
  visit.fragment.HasChild fragment ∨
    ∃ member, visit.fragment.HasChild member ∧ (visit.context.settle member visit.scope).HasChild fragment

/-- The visit with another judge. -/
def under (visit : Visit) (judge : Judge) : Visit := { visit with judge }

section
variable {P : Inquiry → Prop} {visit : Visit}

@[simp] theorem under_data (judge : Judge) : (visit.under judge).data = visit.data := rfl

@[simp] theorem under_fragment (judge : Judge) : (visit.under judge).fragment = visit.fragment := rfl

/-- All checks of near fragments satisfy `P`. -/
def Admits (P : Inquiry → Prop) (visit : Visit) : Prop :=
  ∀ fragment data pointer, visit.Near fragment → visit.Covers data pointer →
    P (.check fragment data pointer visit.scope)

theorem inquires_validate (admits : visit.Admits P) {fragment : Fragment} (near : visit.Near fragment)
    {data : Json} {pointer : Pointer} (covers : visit.Covers data pointer) :
    Inquires P fun judge => (visit.under judge).validate fragment data pointer :=
  Inquires.validate fragment data pointer visit.scope (admits fragment data pointer near covers)

theorem inquires_validateHere (admits : visit.Admits P) {fragment : Fragment}
    (child : visit.fragment.HasChild fragment) :
    Inquires P fun judge => (visit.under judge).validateHere fragment :=
  inquires_validate admits (.inl child) (.inl ⟨rfl, rfl⟩)

theorem inquires_accepts (admits : visit.Admits P) {fragment : Fragment}
    (child : visit.fragment.HasChild fragment) :
    Inquires P fun judge => (visit.under judge).accepts fragment :=
  (inquires_validateHere admits child).map List.isEmpty

/-! ## Items -/

theorem inquires_checkItem (admits : visit.Admits P) {item : Json} (inside : item.depth < visit.data.depth)
    (index : Nat) : Inquires P fun judge => (visit.under judge).checkItem item index := by
  simp only [checkItem, under]
  cases tuple : visit.fragment.tupleItems[index]? with
  | some schema =>
    have child := Fragment.hasChild_of_select_map (List.mem_of_getElem? tuple)
    exact inquires_validate admits (.inl child) (.inr inside)
  | none =>
    cases rest : visit.fragment.restItems? with
    | none => exact .always _
    | some schema =>
      by_cases refused : schema.isBool false
      · simp only [refused, ↓reduceIte]
        exact .unasked (fun _ _ => rfl) (by simp)
      · simp only [refused, Bool.false_eq_true, ↓reduceIte]
        exact inquires_validate admits (.inl (Fragment.hasChild_of_child? rest)) (.inr inside)

theorem inquires_checkItems (admits : visit.Admits P) :
    Inquires P fun judge => (visit.under judge).checkItems := by
  simp only [checkItems, under]
  cases data : visit.data with
  | arr items =>
    refine .gather fun ⟨item, index⟩ member => ?_
    have inside := Json.depth_lt_of_mem_items (List.fst_mem_of_mem_zipIdx member)
    exact inquires_checkItem admits (data ▸ inside) index
  | _ => exact .always _

theorem inquires_checkContains (admits : visit.Admits P) :
    Inquires P fun judge => (visit.under judge).checkContains := by
  simp only [checkContains, under]
  cases data : visit.data with
  | arr items =>
    cases schema : visit.fragment.contains? with
    | none => exact .always _
    | some schema' =>
      refine Inquires.bind ?_ fun count => .unasked (fun _ _ => rfl) (by simp)
      refine Inquires.bind (Inquires.mapM fun ⟨item, index⟩ member => ?_) fun verdicts => .always _
      have inside := Json.depth_lt_of_mem_items (List.fst_mem_of_mem_zipIdx member)
      have covers : visit.Covers item (visit.pointer.item index) := .inr (data ▸ inside)
      exact inquires_validate admits (.inl (Fragment.hasChild_of_child? schema)) covers
  | _ => exact .always _

/-! ## Properties -/

theorem inquires_checkProperties (admits : visit.Admits P) :
    Inquires P fun judge => (visit.under judge).checkProperties := by
  simp only [checkProperties, under]
  cases data : visit.data with
  | obj members =>
    refine .gather fun ⟨name, schema⟩ member => ?_
    cases found : members.lookup name with
    | none => exact .always _
    | some value =>
      have inside := Json.depth_lt_of_mem_members (mem_of_lookup found)
      exact inquires_validate admits (.inl (Fragment.hasChild_of_select member)) (.inr (data ▸ inside))
  | _ => exact .always _

theorem inquires_checkPatternProperties (admits : visit.Admits P) :
    Inquires P fun judge => (visit.under judge).checkPatternProperties := by
  simp only [checkPatternProperties, under]
  cases data : visit.data with
  | obj members =>
    refine .gather fun ⟨name, value⟩ member => .gather fun ⟨regex, schema⟩ child => ?_
    have inside := Json.depth_lt_of_mem_members member
    by_cases matched : regex.matchesIn name
    · simp only [matched, ↓reduceIte]
      exact inquires_validate admits (.inl (Fragment.hasChild_of_select child)) (.inr (data ▸ inside))
    · simp only [matched, Bool.false_eq_true, ↓reduceIte]
      exact .always _
  | _ => exact .always _

theorem inquires_checkUncovered (admits : visit.Admits P) {schema : Fragment}
    (child : visit.fragment.HasChild schema) (covered : String → Bool) (code : ViolationCode)
    {members : Members} (data : visit.data = .obj members) :
    Inquires P fun judge => (visit.under judge).checkUncovered schema covered code members := by
  refine .gather fun ⟨name, value⟩ member => ?_
  have inside := Json.depth_lt_of_mem_members member
  by_cases skipped : covered name
  · simp only [skipped, ↓reduceIte]
    exact .always _
  · by_cases refused : schema.isBool false
    · simp only [skipped, refused, Bool.false_eq_true, ↓reduceIte]
      exact .unasked (fun _ _ => rfl) (by simp)
    · simp only [skipped, refused, Bool.false_eq_true, ↓reduceIte]
      have covers : visit.Covers value (visit.pointer.join name) := .inr (data ▸ inside)
      exact inquires_validate admits (.inl child) covers

theorem inquires_checkAdditionalProperties (admits : visit.Admits P) :
    Inquires P fun judge => (visit.under judge).checkAdditionalProperties := by
  simp only [checkAdditionalProperties, under]
  cases data : visit.data with
  | obj members =>
    cases schema : visit.fragment.additionalProperties? with
    | none => exact .always _
    | some child =>
      exact inquires_checkUncovered admits (Fragment.hasChild_of_child? schema) _ _ data
  | _ => exact .always _

theorem inquires_checkPropertyNames (admits : visit.Admits P) :
    Inquires P fun judge => (visit.under judge).checkPropertyNames := by
  simp only [checkPropertyNames, under]
  cases data : visit.data with
  | obj members =>
    cases schema : visit.fragment.propertyNames? with
    | none => exact .always _
    | some child =>
      refine .gather fun ⟨name, value⟩ member =>
        Inquires.bind ?_ fun failures => .unasked (fun _ _ => rfl) (by simp)
      -- a name is a string, which has no parts at all
      have inside : (Json.str name).depth < visit.data.depth := by
        have below := Json.depth_lt_of_mem_members member
        rw [data]
        exact Nat.zero_lt_of_lt below
      exact inquires_validate admits (.inl (Fragment.hasChild_of_child? schema)) (.inr inside)
  | _ => exact .always _

theorem inquires_checkDependency (admits : visit.Admits P) (members : Members) {keyword : Keyword}
    {dependency : Dependency} (member : dependency ∈ visit.fragment.dependenciesOf keyword) :
    Inquires P fun judge => (visit.under judge).checkDependency members dependency := by
  simp only [checkDependency]
  by_cases absent : !Members.has members dependency.property
  · simp only [absent, ↓reduceIte]
    exact .always _
  · simp only [absent, Bool.false_eq_true, ↓reduceIte]
    cases demand : dependency.demand with
    | names names => exact .unasked (fun _ _ => rfl) (by simp)
    | schema schema =>
      exact inquires_validateHere admits (Fragment.hasChild_of_dependenciesOf member demand)

theorem inquires_checkDependencies (admits : visit.Admits P) (keyword : Keyword) :
    Inquires P fun judge => (visit.under judge).checkDependencies keyword := by
  simp only [checkDependencies, under_data]
  cases visit.data with
  | obj members => exact .gather fun dependency member => inquires_checkDependency admits members member
  | _ => exact .always _

/-! ## Composition -/

theorem inquires_checkNot (admits : visit.Admits P) :
    Inquires P fun judge => (visit.under judge).checkNot := by
  simp only [checkNot, under]
  cases schema : visit.fragment.not? with
  | none => exact .always _
  | some child =>
    refine Inquires.bind (inquires_accepts admits (Fragment.hasChild_of_child? schema)) fun holds => ?_
    exact .unasked (fun _ _ => rfl) (by simp)

theorem inquires_checkAllOf (admits : visit.Admits P) :
    Inquires P fun judge => (visit.under judge).checkAllOf := by
  have failures : Inquires P fun judge =>
      gather (visit.fragment.members .allOf) (visit.under judge).validateHere :=
    .gather fun member inside => inquires_validateHere admits (Fragment.hasChild_of_members inside)
  exact Inquires.bind failures fun _ => .unasked (fun _ _ => rfl) (by simp)

theorem inquires_failuresBefore (admits : visit.Admits P) {members : List Fragment}
    (children : ∀ member ∈ members, visit.fragment.HasChild member) :
    Inquires P fun judge => (visit.under judge).failuresBefore members := by
  induction members with
  | nil => exact .always _
  | cons member rest ih =>
    simp only [failuresBefore]
    refine Inquires.bind (inquires_validateHere admits (children member (by simp))) fun failures => ?_
    by_cases accepted : failures.isEmpty
    · simp only [accepted, ↓reduceIte]
      exact .always _
    · simp only [accepted, Bool.false_eq_true, ↓reduceIte]
      exact Inquires.bind (ih fun other inside => children other (by simp [inside])) fun _ => .always _

theorem inquires_checkAnyOf (admits : visit.Admits P) :
    Inquires P fun judge => (visit.under judge).checkAnyOf := by
  refine Inquires.bind (inquires_failuresBefore admits fun _ => Fragment.hasChild_of_members) fun found => ?_
  cases found <;> exact .unasked (fun _ _ => rfl) (by simp)

theorem inquires_checkConditional (admits : visit.Admits P) :
    Inquires P fun judge => (visit.under judge).checkConditional := by
  simp only [checkConditional, under]
  cases schema : visit.fragment.condition? with
  | none => exact .always _
  | some condition =>
    refine Inquires.bind (inquires_accepts admits (Fragment.hasChild_of_child? schema)) fun holds => ?_
    cases holds with
    | true =>
      simp only [↓reduceIte]
      cases branch : visit.fragment.consequence? with
      | none => exact .always _
      | some child => exact inquires_validateHere admits (Fragment.hasChild_of_child? branch)
    | false =>
      simp only [Bool.false_eq_true, ↓reduceIte]
      cases branch : visit.fragment.alternative? with
      | none => exact .always _
      | some child => exact inquires_validateHere admits (Fragment.hasChild_of_child? branch)

/-! ## Selection -/

theorem inquires_discriminates (admits : visit.Admits P) {name : String} {value : Json}
    (found : visit.data.member? name = some value) {member : Fragment}
    (child : visit.fragment.HasChild member) :
    Inquires P fun judge => (visit.under judge).discriminates name value member := by
  simp only [discriminates, under]
  cases schema : (visit.context.settle member visit.scope).property? name with
  | none => exact .always _
  | some property =>
    have near : visit.Near property := .inr ⟨member, child, Fragment.hasChild_of_property? schema⟩
    have covers : visit.Covers value (visit.pointer.join name) := .inr (Json.depth_lt_of_member? found)
    exact (inquires_validate admits near covers).map List.isEmpty

theorem inquires_selectByProperty (admits : visit.Admits P) (name : String) :
    Inquires P fun judge => (visit.under judge).selectByProperty name := by
  simp only [selectByProperty, under]
  cases found : visit.data.member? name with
  | none => exact .unasked (fun _ _ => rfl) (by simp)
  | some value =>
    refine Inquires.bind ?_ fun positions => ?_
    · refine Inquires.bind (Inquires.mapM fun member inside => ?_) fun verdicts => .always _
      exact inquires_discriminates admits found (Fragment.hasChild_of_members inside)
    · split
      · exact .unasked (fun _ _ => rfl) (by simp)
      · rename_i index
        cases selected : (visit.fragment.members .oneOf)[index]? with
        | none => exact .unasked (fun _ _ => rfl) (by simp)
        | some member =>
          have child := Fragment.hasChild_of_members (List.mem_of_getElem? selected)
          exact Inquires.bind (inquires_validateHere admits child) fun failures => .always _
      · exact .unasked (fun _ _ => rfl) (by simp)

theorem inquires_selectByValue (admits : visit.Admits P) :
    Inquires P fun judge => (visit.under judge).selectByValue := by
  have failures : Inquires P fun judge =>
      (visit.fragment.members .oneOf).mapM (visit.under judge).validateHere :=
    .mapM fun member inside => inquires_validateHere admits (Fragment.hasChild_of_members inside)
  refine Inquires.bind failures fun found => ?_
  split <;> exact .unasked (fun _ _ => rfl) (by simp)

theorem inquires_selectOneOf (admits : visit.Admits P) :
    Inquires P fun judge => (visit.under judge).selectOneOf := by
  simp only [selectOneOf, under_fragment]
  cases visit.fragment.discriminator? with
  | some name => exact inquires_selectByProperty admits name
  | none => exact inquires_selectByValue admits

theorem inquires_checkOneOf (admits : visit.Admits P) :
    Inquires P fun judge => (visit.under judge).checkOneOf := by
  refine Inquires.bind (inquires_selectOneOf admits) fun selected => ?_
  cases selected <;> exact .unasked (fun _ _ => rfl) (by simp)

/-! ## What no other keyword evaluates -/

theorem inquires_evaluatedShape
    (reduces : P (.reduction ⟨some visit.data, visit.pointer, []⟩ visit.fragment visit.scope)) :
    Inquires P fun judge => (visit.under judge).evaluatedShape := by
  have reduced : Inquires P fun judge =>
      judge.reduce ⟨some visit.data, visit.pointer, []⟩ visit.fragment visit.scope := .reduce _ _ _ reduces
  refine Inquires.bind reduced fun result => ?_
  cases result <;> exact .unasked (fun _ _ => rfl) (by simp)

/-- The schema of `contains` may come from the reduced fragment, so it can be any. -/
theorem inquires_checkUnevaluatedItem
    (all : ∀ fragment data pointer, visit.Covers data pointer → P (.check fragment data pointer visit.scope))
    (schema : Fragment) (containing : Option Fragment) {item : Json}
    (inside : item.depth < visit.data.depth) (index : Nat) :
    Inquires P fun judge => (visit.under judge).checkUnevaluatedItem schema containing item index := by
  have asks (fragment : Fragment) : Inquires P fun judge =>
      (visit.under judge).validate fragment item (visit.pointer.item index) :=
    Inquires.validate _ _ _ _ (all fragment item (visit.pointer.item index) (.inr inside))
  have verdict (taken : Bool) : Inquires P fun judge =>
      if taken then some []
      else if schema.isBool false then
        some [(visit.under judge).violationAt .unevaluatedItems (visit.pointer.item index) item
          [("index", .ofNat index)]]
      else (visit.under judge).validate schema item (visit.pointer.item index) := by
    cases taken with
    | true => exact .always _
    | false =>
      by_cases refused : schema.isBool false
      · simp only [refused, Bool.false_eq_true, ↓reduceIte]
        exact .unasked (fun _ _ => rfl) (by simp)
      · simp only [refused, Bool.false_eq_true, ↓reduceIte]
        exact asks schema
  cases containing with
  | none => exact verdict false
  | some containing => exact Inquires.bind ((asks containing).map List.isEmpty) verdict

theorem inquires_checkUnevaluatedItems
    (reduces : P (.reduction ⟨some visit.data, visit.pointer, []⟩ visit.fragment visit.scope))
    (all : ∀ fragment data pointer, visit.Covers data pointer → P (.check fragment data pointer visit.scope)) :
    Inquires P fun judge => (visit.under judge).checkUnevaluatedItems := by
  simp only [checkUnevaluatedItems, under_data, under_fragment]
  have shape := inquires_evaluatedShape reduces
  cases data : visit.data with
  | arr items =>
    cases visit.fragment.unevaluatedItems? with
    | none => exact .always _
    | some schema =>
      refine Inquires.bind shape fun shape => ?_
      by_cases rest : shape.restItems?.isSome
      · simp only [rest, ↓reduceIte]
        exact .always _
      · simp only [rest, Bool.false_eq_true, ↓reduceIte]
        refine .gather fun ⟨item, index⟩ member => ?_
        have item_mem := List.fst_mem_of_mem_zipIdx (List.mem_of_mem_drop member)
        have inside : item.depth < visit.data.depth := data ▸ Json.depth_lt_of_mem_items item_mem
        exact inquires_checkUnevaluatedItem all schema
          (if visit.context.draft.containsEvaluates then shape.contains? else none) inside index
  | _ => exact .always _

theorem inquires_checkUnevaluatedProperties (admits : visit.Admits P)
    (reduces : P (.reduction ⟨some visit.data, visit.pointer, []⟩ visit.fragment visit.scope)) :
    Inquires P fun judge => (visit.under judge).checkUnevaluatedProperties := by
  simp only [checkUnevaluatedProperties, under_data, under_fragment]
  have shape := inquires_evaluatedShape reduces
  cases data : visit.data with
  | obj members =>
    cases schema : visit.fragment.unevaluatedProperties? with
    | none => exact .always _
    | some child =>
      refine Inquires.bind shape fun shape => ?_
      by_cases additional : shape.additionalProperties?.isSome
      · simp only [additional, ↓reduceIte]
        exact .always _
      · simp only [additional, Bool.false_eq_true, ↓reduceIte]
        exact inquires_checkUncovered admits (Fragment.hasChild_of_child? schema) _ _ data
  | _ => exact .always _

/-! ## All keywords -/

theorem inquires_check (admits : visit.Admits P)
    (reduces : P (.reduction ⟨some visit.data, visit.pointer, []⟩ visit.fragment visit.scope))
    (keyword : Keyword)
    (all : keyword = .unevaluatedItems →
      ∀ fragment data pointer, visit.Covers data pointer → P (.check fragment data pointer visit.scope)) :
    Inquires P fun judge => (visit.under judge).check keyword := by
  cases keyword with
  | items => exact inquires_checkItems admits
  | contains => exact inquires_checkContains admits
  | properties => exact inquires_checkProperties admits
  | patternProperties => exact inquires_checkPatternProperties admits
  | additionalProperties => exact inquires_checkAdditionalProperties admits
  | propertyNames => exact inquires_checkPropertyNames admits
  | dependencies => exact inquires_checkDependencies admits _
  | dependentRequired => exact inquires_checkDependencies admits _
  | dependentSchemas => exact inquires_checkDependencies admits _
  | not => exact inquires_checkNot admits
  | allOf => exact inquires_checkAllOf admits
  | anyOf => exact inquires_checkAnyOf admits
  | oneOf => exact inquires_checkOneOf admits
  | conditional => exact inquires_checkConditional admits
  | unevaluatedItems => exact inquires_checkUnevaluatedItems reduces (all rfl)
  | unevaluatedProperties => exact inquires_checkUnevaluatedProperties admits reduces
  | _ => exact .unasked (fun _ _ => rfl) fun _ => Option.some_ne_none _

end
end Visit
end JsonSchema
