import JsonSchema.Check.Judgement
import JsonSchema.Proofs.Check.Verdict
import JsonSchema.Proofs.Compilation.Tree

/-!
# What acceptance says of composition

Where the check of a composing keyword finds nothing, the members that apply have accepted the data.
-/

namespace JsonSchema

/-- A list of answers has the answer to each of its questions at the same position. -/
theorem getElem?_of_mapM {α β : Type} {f : α → Option β} {xs : List α} {ys : List β} (answered : xs.mapM f = some ys)
    {index : Nat} {x : α} (there : xs[index]? = some x) : f x = ys[index]? := by
  induction xs generalizing ys index with
  | nil => cases there
  | cons first rest ih =>
    rw [List.mapM_cons] at answered
    obtain ⟨y, own, answered⟩ := Option.bind_eq_some_iff.mp answered
    obtain ⟨ys', later, same⟩ := Option.bind_eq_some_iff.mp answered
    cases same
    cases index with
    | zero =>
      cases there
      exact own
    | succ index => exact ih later there

namespace Visit

variable {visit : Visit}

theorem accepts_eq_true {member : Fragment} : visit.accepts member = some true ↔ visit.validateHere member = some [] :=
  verdict_eq_true

theorem checkAllOf_eq_nil_iff :
    visit.checkAllOf = some [] ↔ ∀ member ∈ visit.fragment.members .allOf, visit.validateHere member = some [] := by
  rw [← gather_eq_nil]
  unfold checkAllOf
  cases gather (visit.fragment.members .allOf) visit.validateHere with
  | none => simp
  | some found => cases found <;> simp [pure]

/-! ## Selection -/

/-- The only member that accepts the value is selected. -/
theorem validateHere_of_selectByValue {selected : Choice} {member : Fragment}
    (chosen : visit.selectByValue = some (.ok selected))
    (listed : (visit.fragment.members .oneOf)[selected.index]? = some member) :
    visit.validateHere member = some selected.violations := by
  obtain ⟨failures, checked, chosen⟩ := Option.bind_eq_some_iff.mp chosen
  split at chosen
  · cases chosen
  · rename_i index only
    cases chosen
    have inside : index ∈ (failures.zipIdx.filter fun entry => entry.1.isEmpty).map Prod.snd := by simp [only]
    obtain ⟨⟨found, _⟩, kept, rfl⟩ := List.mem_map.mp inside
    obtain ⟨place, empty⟩ := List.mem_filter.mp kept
    obtain rfl : found = [] := List.isEmpty_iff.mp empty
    exact (getElem?_of_mapM checked listed).trans (List.mk_mem_zipIdx_iff_getElem?.mp place)
  · cases chosen

/-- A member that is selected by a property reports what it finds. -/
theorem validateHere_of_selectByProperty {name : String} {selected : Choice} {member : Fragment}
    (chosen : visit.selectByProperty name = some (.ok selected))
    (listed : (visit.fragment.members .oneOf)[selected.index]? = some member) :
    visit.validateHere member = some selected.violations := by
  unfold selectByProperty at chosen
  cases value : visit.data.member? name with
  | none =>
    rw [value] at chosen
    cases chosen
  | some value' =>
    rw [value] at chosen
    obtain ⟨positions, -, chosen⟩ := Option.bind_eq_some_iff.mp chosen
    split at chosen
    · cases chosen
    · rename_i index
      cases own : (visit.fragment.members .oneOf)[index]? with
      | none =>
        rw [own] at chosen
        cases chosen
        rw [own] at listed
        cases listed
      | some member' =>
        rw [own] at chosen
        obtain ⟨found, checked, same⟩ := Option.bind_eq_some_iff.mp chosen
        cases same
        rw [own] at listed
        cases listed
        exact checked
    · cases chosen

theorem validateHere_of_selectOneOf {selected : Choice} {member : Fragment}
    (chosen : visit.selectOneOf = some (.ok selected))
    (listed : (visit.fragment.members .oneOf)[selected.index]? = some member) :
    visit.validateHere member = some selected.violations := by
  unfold selectOneOf at chosen
  split at chosen
  · exact validateHere_of_selectByProperty chosen listed
  · exact validateHere_of_selectByValue chosen listed

/-- Where `oneOf` finds nothing, a member is selected that accepts the value. -/
theorem exists_selected (checked : visit.checkOneOf = some []) : ∃ selected,
    visit.selectOneOf = some (.ok selected) ∧ ∀ member, (visit.fragment.members .oneOf)[selected.index]? = some member →
      visit.validateHere member = some [] := by
  obtain ⟨result, chosen, same⟩ := Option.bind_eq_some_iff.mp checked
  cases result with
  | error violation => cases same
  | ok selected =>
    have none : selected.violations = [] := Option.some.inj same
    exact ⟨selected, chosen, fun member listed => none ▸ validateHere_of_selectOneOf chosen listed⟩

/-! ## Conditions and dependencies -/

/-- Where a conditional finds nothing, its branch accepts the value. -/
theorem exists_decided (checked : visit.checkConditional = some []) {condition : Fragment}
    (conditional : visit.fragment.condition? = some condition) : ∃ holds, visit.accepts condition = some holds ∧
      ∀ branch, (if holds then visit.fragment.consequence? else visit.fragment.alternative?) = some branch →
        visit.validateHere branch = some [] := by
  unfold checkConditional at checked
  rw [conditional] at checked
  obtain ⟨holds, decided, checked⟩ := Option.bind_eq_some_iff.mp checked
  refine ⟨holds, decided, fun branch taken => ?_⟩
  rw [taken] at checked
  exact checked

/-- What the value is asked for by a dependency whose property is present. -/
def Supplies (visit : Visit) : Demand → Prop
  | .names names => ∀ name ∈ names, (visit.data.member? name).isSome = true
  | .schema member => visit.validateHere member = some []

/-- Where dependencies find nothing, the value has what its properties ask for. -/
theorem supplies_of_checkDependencies {keyword : Keyword} (checked : visit.checkDependencies keyword = some [])
    {dependency : Dependency} (listed : dependency ∈ visit.fragment.dependenciesOf keyword)
    (present : (visit.data.member? dependency.property).isSome = true) : visit.Supplies dependency.demand := by
  unfold checkDependencies at checked
  cases data : visit.data with
  | obj members =>
    rw [data] at checked present
    have own := gather_eq_nil.mp checked dependency listed
    have there : Members.has members dependency.property = true := present
    simp only [checkDependency, there, Bool.not_true, Bool.false_eq_true, ↓reduceIte] at own
    cases demand : dependency.demand with
    | names names =>
      rw [demand] at own
      have none := List.map_eq_nil_iff.mp (Option.some.inj own)
      intro name inside
      rw [data]
      have there : Members.has members name = true := by simpa using List.filter_eq_nil_iff.mp none name inside
      exact there
    | schema member =>
      rw [demand] at own
      exact own
  | _ =>
    rw [data] at present
    cases present

/-- Where `required` finds nothing, the required names are present. -/
theorem present_of_checkRequired {members : Members} (data : visit.data = .obj members) (checked : visit.checkRequired = [])
    {names : List Json} (required : visit.keyword? "required" = some (.arr names)) {name : String}
    (inside : .str name ∈ names) : Members.has members name = true := by
  unfold checkRequired at checked
  rw [data, required] at checked
  have none := List.map_eq_nil_iff.mp checked
  have own : name ∈ names.filterMap Json.string? := mem_filterMap_string?.mpr inside
  simpa using List.filter_eq_nil_iff.mp none name own

end Visit
end JsonSchema
