import JsonSchema.Proofs.Compilation.Sound
import JsonSchema.Proofs.Reduction.Folding
import JsonSchema.Proofs.Reduction.Required

/-!
# The additions of a folding

Of `allOf`, `anyOf`, `oneOf` and the conditional the data select what is added. Dependencies are added as
their properties are present or required by what was added before, pass after pass until none that is left
applies; so what is added is told by a closure, in whatever order the dependencies stand.
-/

namespace JsonSchema

namespace Json.Requires

variable {a b : Json} {name : String}

/-- What an object requires, its merges require. -/
theorem merge_left (object : ∃ members, a = .obj members) (schema : b.IsSchema) (requires : a.Requires name) :
    (merge a b).Requires name := by
  obtain ⟨members, rfl⟩ := object
  rcases schema with ⟨_, rfl⟩ | ⟨other, rfl⟩
  · exact requires
  · obtain ⟨names, found, inside⟩ := requires
    rw [merge_obj]
    cases found' : other.lookup "required" with
    | none => exact ⟨names, (lookup_mergedMembers_left found').trans found, inside⟩
    | some value =>
      by_cases list : ∃ others, value = .arr others
      · obtain ⟨others, rfl⟩ := list
        exact ⟨_, lookup_mergedMembers_required found found', str_mem_distinct.mpr (List.mem_append_left _ inside)⟩
      · refine ⟨names, ?_, inside⟩
        simp only [member?] at found ⊢
        rw [lookup_mergedMembers, found, found']
        exact congrArg some (mergeUnder_arr_left fun others same => list ⟨others, same⟩)

/-- What is merged into an object stays required. -/
theorem merge_right (object : ∃ members, a = .obj members) (requires : b.Requires name) : (merge a b).Requires name := by
  obtain ⟨members, rfl⟩ := object
  obtain ⟨names, found, inside⟩ := requires
  cases b with
  | obj other =>
    rw [merge_obj]
    cases found' : members.lookup "required" with
    | none => exact ⟨names, (lookup_mergedMembers_right found').trans found, inside⟩
    | some value =>
      by_cases list : ∃ others, value = .arr others
      · obtain ⟨others, rfl⟩ := list
        exact ⟨_, lookup_mergedMembers_required found' found, str_mem_distinct.mpr (List.mem_append_right _ inside)⟩
      · refine ⟨names, ?_, inside⟩
        simp only [member?] at found ⊢
        rw [lookup_mergedMembers, found, found']
        exact congrArg some (mergeUnder_arr_right fun others same => list ⟨others, same⟩)
  | _ => cases found

end Json.Requires

namespace Folding

variable {folding : Folding} {accumulated final : Json} {demands : List Demand}

/-! ## Single additions -/

/-- What a demand adds. -/
def addition (folding : Folding) : Demand → Attempt Json
  | .names names => return .obj [("required", .ofStrings names)]
  | .schema member => folding.contribution member

theorem absorbDemand_eq (folding : Folding) (accumulated : Json) (demand : Demand) :
    folding.absorbDemand accumulated demand = do return merge accumulated (← folding.addition demand) := by
  cases demand <;> rfl

theorem absorbDemand_eq_ok {demand : Demand} (answer : (folding.absorbDemand accumulated demand).run = some (.ok final)) :
    ∃ added, (folding.addition demand).run = some (.ok added) ∧ merge accumulated added = final := by
  rw [absorbDemand_eq] at answer
  obtain ⟨added, adds, same⟩ := Attempt.bind_eq_ok.mp answer
  cases same
  exact ⟨added, adds, rfl⟩

/-- A demand adds a name to those required. -/
def Brings (folding : Folding) (demand : Demand) (name : String) : Prop :=
  ∃ added, (folding.addition demand).run = some (.ok added) ∧ added.Requires name

/-! ## What is added -/

/-- What the data select of a composition. -/
inductive Selects (folding : Folding) : Reducer → Demand → Prop where
  | allOf {member : Fragment} (listed : member ∈ folding.visit.fragment.members .allOf) :
      Selects folding .allOf (.schema member)
  | anyOf {member : Fragment} (listed : member ∈ folding.visit.fragment.members .anyOf)
      (holds : folding.visit.accepts member = some true) : Selects folding .anyOf (.schema member)
  | oneOf {selected : Choice} {member : Fragment} (chosen : folding.visit.selectOneOf = some (.ok selected))
      (listed : (folding.visit.fragment.members .oneOf)[selected.index]? = some member) :
      Selects folding .oneOf (.schema member)
  | branch {condition branch : Fragment} {holds : Bool}
      (conditional : folding.visit.fragment.condition? = some condition)
      (decided : folding.visit.accepts condition = some holds)
      (taken : (if holds then folding.visit.fragment.consequence? else folding.visit.fragment.alternative?) = some branch) :
      Selects folding .conditional (.schema branch)

/-- A composition is folded with data; `allOf` always is. -/
def Settles (folding : Folding) (reducer : Reducer) : Prop := folding.task.data.isSome = true ∨ reducer = .allOf

/-- The properties whose dependencies apply: those that are present, those required by what is not folded or
was added before, and those that a dependency that applies adds. -/
inductive Triggers (folding : Folding) : String → Prop where
  | present {name : String} (present : (folding.visit.data.member? name).isSome = true) : Triggers folding name
  | required {name : String} (requires : (folding.task.staticPart folding.visit.fragment.schema).Requires name) :
      Triggers folding name
  | selected {reducer : Reducer} {demand : Demand} {name : String} (settles : folding.Settles reducer)
      (before : reducer ≠ .conditional) (selects : folding.Selects reducer demand) (brings : folding.Brings demand name) :
      Triggers folding name
  | dependency {dependency : Dependency} {name : String}
      (listed : dependency ∈ folding.visit.fragment.dependencies folding.visit.context.draft)
      (triggered : Triggers folding dependency.property) (brings : folding.Brings dependency.demand name) :
      Triggers folding name

/-- What is added: what the data select, and what dependencies ask for that apply. -/
inductive Folds (folding : Folding) : Demand → Prop where
  | selected {reducer : Reducer} {demand : Demand} (settles : folding.Settles reducer)
      (selects : folding.Selects reducer demand) : Folds folding demand
  | dependency {dependency : Dependency} (given : folding.task.data.isSome = true)
      (listed : dependency ∈ folding.visit.fragment.dependencies folding.visit.context.draft)
      (triggered : folding.Triggers dependency.property) : Folds folding dependency.demand

/-- Schemas that are added are those of children. -/
theorem Folds.hasChild {member : Fragment} (folds : folding.Folds (.schema member)) :
    folding.visit.fragment.HasChild member := by
  generalize same : Demand.schema member = demand at folds
  cases folds with
  | selected _ selects =>
    cases selects with
    | allOf listed | anyOf listed =>
      cases same
      exact Fragment.hasChild_of_members listed
    | oneOf _ listed =>
      cases same
      exact Fragment.hasChild_of_members (List.mem_of_getElem? listed)
    | branch _ _ taken =>
      cases same
      exact Fragment.hasChild_of_taken taken
  | dependency _ listed => exact folding.ownDependencies _ _ listed _ same.symm

/-- Without data only members of `allOf` are added. -/
theorem Folds.allOf (unknown : folding.task.data = none) {demand : Demand} (folds : folding.Folds demand) :
    ∃ member ∈ folding.visit.fragment.members .allOf, demand = .schema member := by
  cases folds with
  | selected settles selects =>
    rcases settles with given | rfl
    · rw [unknown] at given
      cases given
    · cases selects with
      | allOf listed => exact ⟨_, listed, rfl⟩
  | dependency given =>
    rw [unknown] at given
    cases given

/-- Names are added with data only. -/
theorem Folds.given {names : List String} (folds : folding.Folds (.names names)) : folding.task.data.isSome = true := by
  generalize same : Demand.names names = demand at folds
  cases folds with
  | selected _ selects => cases selects <;> cases same
  | dependency given => exact given

/-! ## Additions one after the other -/

/-- Demands are added one after the other. -/
inductive Absorbs (folding : Folding) : Json → List Demand → Json → Prop where
  | nil (accumulated : Json) : Absorbs folding accumulated [] accumulated
  | cons {accumulated added final : Json} {demand : Demand} {rest : List Demand}
      (adds : (folding.addition demand).run = some (.ok added)) (later : Absorbs folding (merge accumulated added) rest final) :
      Absorbs folding accumulated (demand :: rest) final

namespace Absorbs

variable {next : Json} {others : List Demand} {demand : Demand}

theorem append (first : folding.Absorbs accumulated demands next) (second : folding.Absorbs next others final) :
    folding.Absorbs accumulated (demands ++ others) final := by
  induction first with
  | nil => exact second
  | cons adds _ ih => exact .cons adds (ih second)

/-- One member is added. -/
theorem member {member : Fragment} (answer : (folding.absorb accumulated member).run = some (.ok final)) :
    folding.Absorbs accumulated [.schema member] final := by
  obtain ⟨added, adds, rfl⟩ := @absorbDemand_eq_ok folding accumulated final (.schema member) answer
  exact .cons adds (.nil _)

/-- What is kept by every addition holds in the end. -/
theorem keeps {P : Json → Prop} (absorbs : folding.Absorbs accumulated demands final)
    (kept : ∀ demand ∈ demands, ∀ added, (folding.addition demand).run = some (.ok added) → ∀ accumulated, P accumulated →
      P (merge accumulated added)) (start : P accumulated) : P final := by
  induction absorbs with
  | nil => exact start
  | cons adds _ ih =>
    exact ih (fun other listed => kept other (List.mem_cons_of_mem _ listed)) (kept _ List.mem_cons_self _ adds _ start)

/-- What an addition brings about and all later ones keep holds in the end. -/
theorem reaches {P Q : Json → Prop} (absorbs : folding.Absorbs accumulated demands final)
    (shaped : ∀ demand ∈ demands, ∀ added, (folding.addition demand).run = some (.ok added) → ∀ accumulated, Q accumulated →
      Q (merge accumulated added))
    (kept : ∀ demand ∈ demands, ∀ added, (folding.addition demand).run = some (.ok added) → ∀ accumulated, Q accumulated →
      P accumulated → P (merge accumulated added))
    (listed : demand ∈ demands)
    (brought : ∀ added, (folding.addition demand).run = some (.ok added) → ∀ accumulated, Q accumulated →
      P (merge accumulated added)) (start : Q accumulated) : P final := by
  induction absorbs with
  | nil => cases listed
  | @cons accumulated added final own rest adds later ih =>
    have next := shaped own List.mem_cons_self added adds accumulated start
    rcases List.mem_cons.mp listed with rfl | below
    · have both := later.keeps (P := fun schema => Q schema ∧ P schema) (fun other member added adds accumulated held =>
        ⟨shaped other (List.mem_cons_of_mem _ member) added adds accumulated held.1,
          kept other (List.mem_cons_of_mem _ member) added adds accumulated held.1 held.2⟩)
      exact (both ⟨next, brought added adds accumulated start⟩).2
    · exact ih (fun other member => shaped other (List.mem_cons_of_mem _ member))
        (fun other member => kept other (List.mem_cons_of_mem _ member)) below next

/-- The names required in the end are those required before and those that were added. -/
theorem requires_cases {name : String} (absorbs : folding.Absorbs accumulated demands final) (requires : final.Requires name) :
    accumulated.Requires name ∨ ∃ demand ∈ demands, folding.Brings demand name := by
  induction absorbs with
  | nil => exact .inl requires
  | cons adds _ ih =>
    rcases ih requires with merged | ⟨demand, listed, brings⟩
    · rcases merged.of_merge with before | added
      · exact .inl before
      · exact .inr ⟨_, List.mem_cons_self, _, adds, added⟩
    · exact .inr ⟨demand, List.mem_cons_of_mem _ listed, brings⟩

end Absorbs

/-- What a demand adds is a boolean or an object. -/
def AddsSchema (folding : Folding) (demand : Demand) : Prop :=
  ∀ added, (folding.addition demand).run = some (.ok added) → added.IsSchema

/-- All that is added is a boolean or an object. -/
def AddsSchemas (folding : Folding) : Prop :=
  ∀ demand, folding.Folds demand → ∀ added, (folding.addition demand).run = some (.ok added) → added.IsSchema

/-- An object stays one when a schema is merged into it. -/
theorem isObject_merge {a b : Json} (object : ∃ members, a = .obj members) (schema : b.IsSchema) :
    ∃ members, merge a b = .obj members := by
  obtain ⟨members, rfl⟩ := object
  rcases schema with ⟨_, rfl⟩ | ⟨other, rfl⟩
  · exact ⟨members, rfl⟩
  · exact ⟨_, merge_obj members other⟩

section
variable (schemas : ∀ demand ∈ demands, folding.AddsSchema demand)
  (absorbs : folding.Absorbs accumulated demands final) (object : ∃ members, accumulated = .obj members)
include schemas absorbs object

theorem Absorbs.isObject : ∃ members, final = .obj members :=
  absorbs.keeps (P := fun schema => ∃ members, schema = .obj members)
    (fun demand listed added adds _ held => isObject_merge held (schemas demand listed added adds)) object

/-- Names that are required stay so. -/
theorem Absorbs.requires {name : String} (requires : accumulated.Requires name) : final.Requires name :=
  (absorbs.keeps (P := fun schema => (∃ members, schema = .obj members) ∧ schema.Requires name)
    (fun demand listed added adds _ held =>
      have schema := schemas demand listed added adds
      ⟨isObject_merge held.1 schema, held.2.merge_left held.1 schema⟩) ⟨object, requires⟩).2

/-- Names that are added are required in the end. -/
theorem Absorbs.requires_of_brings {demand : Demand} {name : String} (listed : demand ∈ demands)
    (brings : folding.Brings demand name) : final.Requires name := by
  obtain ⟨added, adds, requires⟩ := brings
  refine absorbs.reaches (P := fun schema => schema.Requires name) (Q := fun schema => ∃ members, schema = .obj members)
    (fun other member added adds _ held => isObject_merge held (schemas other member added adds))
    (fun other member added adds _ held required => required.merge_left held (schemas other member added adds))
    listed (fun added' adds' _ held => ?_) object
  rw [adds] at adds'
  cases adds'
  exact requires.merge_right held

end

/-! ## Compositions that the data select -/

/-- The members that hold are added. -/
private theorem absorbs_anyOf {members : List Fragment}
    (answer : (members.foldlM (fun accumulated member => do
      let holds : Bool ← ExceptT.lift (folding.visit.accepts member)
      if holds then folding.absorb accumulated member else return accumulated) accumulated : Attempt Json).run =
        some (.ok final)) : ∃ demands, folding.Absorbs accumulated demands final ∧ ∀ demand, demand ∈ demands ↔
      ∃ member ∈ members, folding.visit.accepts member = some true ∧ demand = .schema member := by
  induction members generalizing accumulated with
  | nil =>
    cases answer
    exact ⟨[], .nil _, by simp⟩
  | cons member rest ih =>
    rw [List.foldlM_cons] at answer
    obtain ⟨next, first, later⟩ := Attempt.bind_eq_ok.mp answer
    obtain ⟨holds, decided, first⟩ := Attempt.bind_eq_ok.mp first
    have decided : folding.visit.accepts member = some holds := Attempt.lift_eq_ok.mp decided
    obtain ⟨demands, absorbs, exact'⟩ := ih later
    cases holds with
    | true =>
      refine ⟨_, .append (.member first) absorbs, fun demand => ?_⟩
      simp [exact', decided]
    | false =>
      cases first
      refine ⟨demands, absorbs, fun demand => ?_⟩
      simp [exact', decided]

/-- Members that all apply are added in their order. -/
theorem absorbs_allOf {members : List Fragment}
    (answer : (members.foldlM folding.absorb accumulated).run = some (.ok final)) :
    folding.Absorbs accumulated (members.map .schema) final := by
  induction members generalizing accumulated with
  | nil =>
    cases answer
    exact .nil _
  | cons member rest ih =>
    rw [List.foldlM_cons] at answer
    obtain ⟨next, first, later⟩ := Attempt.bind_eq_ok.mp answer
    exact .append (.member first) (ih later)

/-- At most one member is added. -/
theorem absorbs_option (member? : Option Fragment)
    (added : ∀ member, member? = some member → (folding.absorb accumulated member).run = some (.ok final))
    (nothing : member? = none → accumulated = final) : folding.Absorbs accumulated (member?.toList.map .schema) final := by
  cases member? with
  | none => exact nothing rfl ▸ .nil _
  | some member => exact .member (added member rfl)

/-- What is selected of `oneOf` is the member at the place that was chosen. -/
theorem selects_oneOf_iff {selected : Choice} (chosen : folding.visit.selectOneOf = some (.ok selected)) {demand : Demand} :
    folding.Selects .oneOf demand ↔
      ∃ member, (folding.visit.fragment.members .oneOf)[selected.index]? = some member ∧ .schema member = demand := by
  constructor
  · intro selects
    cases selects with
    | oneOf chosen' listed =>
      rw [chosen] at chosen'
      cases chosen'
      exact ⟨_, listed, rfl⟩
  · rintro ⟨member, listed, rfl⟩
    exact .oneOf chosen listed

/-- What is selected of a conditional is the branch that is taken. -/
theorem selects_conditional_iff {taken? : Option Fragment} (branches : folding.branch?.run = some (.ok taken?))
    {demand : Demand} : folding.Selects .conditional demand ↔ ∃ branch, taken? = some branch ∧ .schema branch = demand := by
  unfold Folding.branch? at branches
  cases conditional : folding.visit.fragment.condition? with
  | none =>
    rw [conditional] at branches
    cases branches
    refine ⟨fun selects => ?_, fun ⟨_, same, _⟩ => by cases same⟩
    cases selects with
    | branch conditional' =>
      rw [conditional] at conditional'
      cases conditional'
  | some condition =>
    rw [conditional] at branches
    obtain ⟨holds, decided, same⟩ := Attempt.bind_eq_ok.mp branches
    have decided : folding.visit.accepts condition = some holds := Attempt.lift_eq_ok.mp decided
    cases same
    refine ⟨fun selects => ?_, fun ⟨branch, taken, same⟩ => same ▸ .branch conditional decided taken⟩
    cases selects with
    | branch conditional' decided' taken =>
      rw [conditional] at conditional'
      cases conditional'
      rw [decided] at decided'
      cases decided'
      exact ⟨_, taken, rfl⟩

/-- Folding a composition other than dependencies adds what the data select of it. -/
theorem absorbs_of_fold {reducer : Reducer} (other : reducer ≠ .dependencies) {choice choice' : Option Nat}
    (answer : (folding.fold accumulated choice reducer).run = some (.ok (final, choice'))) :
    ∃ demands, folding.Absorbs accumulated demands final ∧ ∀ demand, demand ∈ demands ↔ folding.Selects reducer demand := by
  cases reducer with
  | allOf =>
    obtain ⟨_, folded, same⟩ := Attempt.bind_eq_ok.mp answer
    cases same
    refine ⟨_, absorbs_allOf folded, fun demand => ⟨fun inside => ?_, fun selects => ?_⟩⟩
    · obtain ⟨member, listed, rfl⟩ := List.mem_map.mp inside
      exact .allOf listed
    · cases selects with
      | allOf listed => exact List.mem_map_of_mem listed
  | anyOf =>
    obtain ⟨_, folded, same⟩ := Attempt.bind_eq_ok.mp answer
    cases same
    obtain ⟨demands, absorbs, exact'⟩ := absorbs_anyOf folded
    refine ⟨demands, absorbs, fun demand => (exact' demand).trans ⟨?_, fun selects => ?_⟩⟩
    · rintro ⟨member, listed, holds, rfl⟩
      exact .anyOf listed holds
    · cases selects with
      | anyOf listed holds => exact ⟨_, listed, holds, rfl⟩
  | oneOf =>
    obtain ⟨selected, chosen, answer⟩ := Attempt.bind_eq_ok.mp answer
    refine ⟨_, absorbs_option (folding.visit.fragment.members .oneOf)[selected.index]? (fun member listed => ?_)
      fun absent => ?_, fun demand => ?_⟩
    · simp only [listed] at answer
      obtain ⟨_, first, same⟩ := Attempt.bind_eq_ok.mp answer
      cases same
      exact first
    · simp only [absent] at answer
      cases answer
      rfl
    · rw [selects_oneOf_iff chosen]
      simp
  | dependencies => exact absurd rfl other
  | conditional =>
    obtain ⟨taken?, branches, answer⟩ := Attempt.bind_eq_ok.mp answer
    refine ⟨_, absorbs_option taken? (fun branch taken => ?_) fun absent => ?_, fun demand => ?_⟩
    · simp only [taken] at answer
      obtain ⟨_, first, same⟩ := Attempt.bind_eq_ok.mp answer
      cases same
      exact first
    · simp only [absent] at answer
      cases answer
      rfl
    · rw [selects_conditional_iff branches]
      simp

/-- Compositions are folded in turn. -/
theorem absorbs_of_foldlM {reducers : List Reducer} (others : ∀ reducer ∈ reducers, reducer ≠ .dependencies)
    {choice choice' : Option Nat}
    (answer : (reducers.foldlM (fun (state : Json × Option Nat) reducer => folding.fold state.1 state.2 reducer)
      (accumulated, choice)).run = some (.ok (final, choice'))) :
    ∃ demands, folding.Absorbs accumulated demands final ∧
      ∀ demand, demand ∈ demands ↔ ∃ reducer ∈ reducers, folding.Selects reducer demand := by
  induction reducers generalizing accumulated choice with
  | nil =>
    cases answer
    exact ⟨[], .nil _, by simp⟩
  | cons reducer rest ih =>
    rw [List.foldlM_cons] at answer
    obtain ⟨⟨next, chosen⟩, first, later⟩ := Attempt.bind_eq_ok.mp answer
    obtain ⟨demands, absorbs, own⟩ := absorbs_of_fold (others reducer List.mem_cons_self) first
    obtain ⟨demands', absorbs', below⟩ := ih (fun reducer listed => others reducer (List.mem_cons_of_mem _ listed)) later
    exact ⟨_, absorbs.append absorbs', fun demand => by simp [own, below]⟩

/-! ## Dependencies -/

/-- A pass over dependencies leaves some of them and adds the others. -/
inductive Passes (folding : Folding) : Json → List Dependency → List Dependency → List Dependency → Json → Prop where
  | nil (accumulated : Json) : Passes folding accumulated [] [] [] accumulated
  | leave {accumulated final : Json} {dependency : Dependency} {waiting left taken : List Dependency}
      (untriggered : Reduction.isTriggered folding.visit.data accumulated dependency.property = false)
      (later : Passes folding accumulated waiting left taken final) :
      Passes folding accumulated (dependency :: waiting) (dependency :: left) taken final
  | take {accumulated added final : Json} {dependency : Dependency} {waiting left taken : List Dependency}
      (triggered : Reduction.isTriggered folding.visit.data accumulated dependency.property = true)
      (adds : (folding.addition dependency.demand).run = some (.ok added))
      (later : Passes folding (merge accumulated added) waiting left taken final) :
      Passes folding accumulated (dependency :: waiting) left (dependency :: taken) final

theorem passes_of_dependencyPass {waiting left : List Dependency}
    (answer : (folding.dependencyPass waiting accumulated).run = some (.ok (left, final))) :
    ∃ taken, folding.Passes accumulated waiting left taken final := by
  suffices general : ∀ before, (waiting.foldlM (fun (state : List Dependency × Json) dependency => do
      if Reduction.isTriggered folding.visit.data state.2 dependency.property then
        return (state.1, ← folding.absorbDemand state.2 dependency.demand)
      else return (state.1 ++ [dependency], state.2)) (before, accumulated) : Attempt _).run = some (.ok (left, final)) →
      ∃ stayed taken, left = before ++ stayed ∧ folding.Passes accumulated waiting stayed taken final by
    obtain ⟨stayed, taken, rfl, passes⟩ := general [] answer
    exact ⟨taken, passes⟩
  clear answer
  induction waiting generalizing accumulated with
  | nil =>
    rintro before ⟨⟩
    exact ⟨[], [], by simp, .nil _⟩
  | cons dependency rest ih =>
    intro before answer
    rw [List.foldlM_cons] at answer
    obtain ⟨⟨left', next⟩, first, later⟩ := Attempt.bind_eq_ok.mp answer
    by_cases triggered : Reduction.isTriggered folding.visit.data accumulated dependency.property = true
    · rw [if_pos triggered] at first
      obtain ⟨_, absorbed, same⟩ := Attempt.bind_eq_ok.mp first
      cases same
      obtain ⟨added, adds, rfl⟩ := absorbDemand_eq_ok absorbed
      obtain ⟨stayed, taken, rfl, passes⟩ := ih _ later
      exact ⟨stayed, _, rfl, .take triggered adds passes⟩
    · rw [if_neg triggered] at first
      cases first
      obtain ⟨stayed, taken, rfl, passes⟩ := ih _ later
      exact ⟨dependency :: stayed, taken, by simp, .leave (by simpa using triggered) passes⟩

namespace Passes

variable {waiting left taken : List Dependency}

theorem absorbs (passes : folding.Passes accumulated waiting left taken final) :
    folding.Absorbs accumulated (taken.map Dependency.demand) final := by
  induction passes with
  | nil => exact .nil _
  | leave _ _ ih => exact ih
  | take _ adds _ ih => exact .cons adds ih

theorem perm (passes : folding.Passes accumulated waiting left taken final) : waiting.Perm (left ++ taken) := by
  induction passes with
  | nil => exact .nil
  | leave _ _ ih => exact ih.cons _
  | take _ _ _ ih => exact (ih.cons _).trans List.perm_middle.symm

/-- Where nothing is added none of the dependencies applies. -/
theorem untriggered (passes : folding.Passes accumulated waiting left [] final) :
    ∀ dependency ∈ left, Reduction.isTriggered folding.visit.data accumulated dependency.property = false := by
  generalize none : ([] : List Dependency) = taken at passes
  induction passes with
  | nil => simp
  | leave untriggered _ ih => exact List.forall_mem_cons.mpr ⟨untriggered, ih none⟩
  | take => cases none

end Passes

/-- The properties that set off dependencies at some point are among those that do so in the end. -/
def Sound (folding : Folding) (accumulated : Json) : Prop :=
  ∀ name, Reduction.isTriggered folding.visit.data accumulated name = true → folding.Triggers name

/-- All that a pass adds applies, and so does all that it sets off. -/
theorem Passes.sound {waiting left taken : List Dependency} (passes : folding.Passes accumulated waiting left taken final)
    (own : waiting ⊆ folding.visit.fragment.dependencies folding.visit.context.draft) (sound : folding.Sound accumulated) :
    (∀ dependency ∈ taken, folding.Triggers dependency.property) ∧ folding.Sound final := by
  induction passes with
  | nil => exact ⟨by simp, sound⟩
  | leave _ _ ih => exact ih (fun _ member => own (List.mem_cons_of_mem _ member)) sound
  | take triggered adds _ ih =>
    have applies := sound _ triggered
    obtain ⟨below, last⟩ := ih (fun _ member => own (List.mem_cons_of_mem _ member)) fun name triggered => by
      rcases Reduction.isTriggered_iff.mp triggered with present | requires
      · exact .present present
      · rcases requires.of_merge with before | added
        · exact sound name (Reduction.isTriggered_iff.mpr (.inr before))
        · exact .dependency (own List.mem_cons_self) applies ⟨_, adds, added⟩
    exact ⟨List.forall_mem_cons.mpr ⟨applies, below⟩, last⟩

/-- Where there are more passes than dependencies, they end when none that is left applies. -/
theorem absorbs_of_foldDependencies {passes : Nat} {waiting : List Dependency} (enough : waiting.length < passes)
    (own : waiting ⊆ folding.visit.fragment.dependencies folding.visit.context.draft) (sound : folding.Sound accumulated)
    (answer : (folding.foldDependencies passes waiting accumulated).run = some (.ok final)) :
    ∃ left taken, waiting.Perm (left ++ taken) ∧ folding.Absorbs accumulated (taken.map Dependency.demand) final ∧
      (∀ dependency ∈ left, Reduction.isTriggered folding.visit.data final dependency.property = false) ∧
      (∀ dependency ∈ taken, folding.Triggers dependency.property) ∧ folding.Sound final := by
  induction passes generalizing waiting accumulated with
  | zero => cases enough
  | succ passes ih =>
    rw [foldDependencies] at answer
    obtain ⟨⟨left, next⟩, passed, answer⟩ := Attempt.bind_eq_ok.mp answer
    obtain ⟨taken, pass⟩ := passes_of_dependencyPass passed
    obtain ⟨applies, sound'⟩ := pass.sound own sound
    have counted := pass.perm.length_eq
    rw [List.length_append] at counted
    dsimp only at answer
    split at answer
    · rename_i all
      cases answer
      obtain rfl : taken = [] := List.length_eq_zero_iff.mp (by omega)
      have unchanged := pass.absorbs
      cases unchanged
      exact ⟨left, [], pass.perm, .nil _, pass.untriggered, by simp, sound'⟩
    · rename_i some
      have own' : left ⊆ waiting := fun _ member => pass.perm.mem_iff.mpr (List.mem_append_left _ member)
      obtain ⟨left', taken', perm, absorbs, untriggered, applies', sound''⟩ :=
        ih (by omega) (fun _ member => own (own' member)) sound' answer
      refine ⟨left', taken ++ taken', ?_, ?_, untriggered, List.forall_mem_append.mpr ⟨applies, applies'⟩, sound''⟩
      · have order : (left' ++ taken' ++ taken).Perm (left' ++ (taken ++ taken')) := by
          rw [List.append_assoc]
          exact List.perm_append_comm.append_left left'
        exact pass.perm.trans ((perm.append_right taken).trans order)
      · rw [List.map_append]
        exact pass.absorbs.append absorbs

/-! ## The whole folding -/

/-- A composition of which something is selected occurs in the fragment. -/
theorem Selects.has {reducer : Reducer} {demand : Demand} (selects : folding.Selects reducer demand) (draft : Draft) :
    folding.visit.fragment.has draft reducer = true := by
  have listed {keyword : Keyword} {member : Fragment} (inside : member ∈ folding.visit.fragment.members keyword) :
      (!(folding.visit.fragment.members keyword).isEmpty) = true := by
    rw [Bool.not_eq_true', List.isEmpty_eq_false_iff]
    exact List.ne_nil_of_mem inside
  cases selects with
  | allOf inside | anyOf inside => exact listed inside
  | oneOf _ inside => exact listed (List.mem_of_getElem? inside)
  | branch conditional => simp [Fragment.has, conditional]

/-- Those of some compositions that are folded. -/
def settled (folding : Folding) (reducers : List Reducer) : List Reducer :=
  (reducers.filter (folding.visit.fragment.has folding.visit.context.draft)).filter fun reducer =>
    folding.task.data.isSome || reducer = .allOf

theorem mem_settled {reducers : List Reducer} {reducer : Reducer} : reducer ∈ folding.settled reducers ↔
    reducer ∈ reducers ∧ folding.visit.fragment.has folding.visit.context.draft reducer = true ∧ folding.Settles reducer := by
  simp only [settled, List.mem_filter, Settles, Bool.or_eq_true, decide_eq_true_eq, and_assoc]

/-- Dependencies are folded after what the data select, and the conditional after the dependencies. -/
theorem foldAll_eq (folding : Folding) : folding.foldAll =
    (folding.settled [.allOf, .anyOf, .oneOf] ++ (folding.settled [.dependencies] ++ folding.settled [.conditional])).foldlM
      (fun (state : Json × Option Nat) reducer => folding.fold state.1 state.2 reducer)
      (folding.task.staticPart folding.visit.fragment.schema, none) := by
  simp only [settled, ← List.filter_append]
  rfl

/-- Without data the members of `allOf` are added in their order, and nothing else. -/
theorem absorbs_of_unknown (unknown : folding.task.data = none) {schema : Json} {choice : Option Nat}
    (answer : folding.foldAll.run = some (.ok (schema, choice))) :
    folding.Absorbs (folding.task.staticPart folding.visit.fragment.schema)
      ((folding.visit.fragment.members .allOf).map .schema) schema := by
  have none (reducers : List Reducer) (others : .allOf ∉ reducers) : folding.settled reducers = [] := by
    rw [List.eq_nil_iff_forall_not_mem]
    intro reducer inside
    obtain ⟨listed, -, settles⟩ := mem_settled.mp inside
    have own : reducer = .allOf := settles.resolve_left (by simp [unknown])
    exact others (own ▸ listed)
  have other : folding.settled [.allOf, .anyOf, .oneOf] = folding.settled [.allOf] := by
    change folding.settled ([.allOf] ++ [.anyOf, .oneOf]) = _
    have apart := none [.anyOf, .oneOf] (by decide)
    simp only [settled, List.filter_append] at apart ⊢
    rw [apart, List.append_nil]
  rw [foldAll_eq, other, none [.dependencies] (by decide), none [.conditional] (by decide),
    List.append_nil, List.append_nil] at answer
  by_cases occurs : folding.visit.fragment.has folding.visit.context.draft .allOf = true
  · have alone : folding.settled [.allOf] = [.allOf] := by simp [settled, occurs]
    rw [alone, List.foldlM_cons] at answer
    obtain ⟨⟨_, _⟩, folds, same⟩ := Attempt.bind_eq_ok.mp answer
    cases same
    obtain ⟨_, folded, same⟩ := Attempt.bind_eq_ok.mp folds
    cases same
    exact absorbs_allOf folded
  · have idle : folding.settled [.allOf] = [] := by simp [settled, occurs]
    have memberless : folding.visit.fragment.members .allOf = [] := by simpa [Fragment.has] using occurs
    rw [idle] at answer
    cases answer
    rw [memberless]
    exact .nil _

section
variable (schemas : folding.AddsSchemas)
  (object : ∃ members, folding.task.staticPart folding.visit.fragment.schema = .obj members)
include schemas object

/-- Whatever was added before the dependencies, these are added as they apply. -/
private theorem absorbs_of_dependencies {early : List Demand} {first second : Json} {choice choice' : Option Nat}
    (absorbs : folding.Absorbs (folding.task.staticPart folding.visit.fragment.schema) early first)
    (selected : ∀ demand, demand ∈ early ↔
      ∃ reducer ≠ Reducer.conditional, folding.Settles reducer ∧ folding.Selects reducer demand)
    (given : folding.task.data.isSome = true)
    (answer : (folding.fold first choice .dependencies).run = some (.ok (second, choice'))) :
    ∃ demands, folding.Absorbs first demands second ∧ ∀ demand, demand ∈ demands ↔
      ∃ dependency ∈ folding.visit.fragment.dependencies folding.visit.context.draft,
        folding.Triggers dependency.property ∧ demand = dependency.demand := by
  have folds : ∀ demand ∈ early, folding.Folds demand := fun demand inside =>
    have ⟨_, _, settles, selects⟩ := (selected demand).mp inside
    .selected settles selects
  have sound : folding.Sound first := by
    intro name triggered
    rcases Reduction.isTriggered_iff.mp triggered with present | requires
    · exact .present present
    · rcases absorbs.requires_cases requires with own | ⟨demand, inside, brings⟩
      · exact .required own
      · obtain ⟨reducer, apart, settles, selects⟩ := (selected demand).mp inside
        exact .selected settles apart selects brings
  obtain ⟨_, folded, same⟩ := Attempt.bind_eq_ok.mp answer
  cases same
  obtain ⟨left, taken, perm, absorbs', untriggered, applies, -⟩ :=
    absorbs_of_foldDependencies (Nat.lt_succ_self _) (fun _ member => member) sound folded
  have folds' : ∀ demand ∈ taken.map Dependency.demand, folding.Folds demand := by
    intro demand inside
    obtain ⟨dependency, listed, rfl⟩ := List.mem_map.mp inside
    exact .dependency given (perm.mem_iff.mpr (List.mem_append_right _ listed)) (applies dependency listed)
  have both : ∀ demand ∈ early ++ taken.map Dependency.demand, folding.AddsSchema demand := fun demand inside =>
    schemas demand (List.forall_mem_append.mpr ⟨folds, folds'⟩ demand inside)
  have taken_of_triggered {dependency : Dependency}
      (listed : dependency ∈ folding.visit.fragment.dependencies folding.visit.context.draft)
      (triggered : Reduction.isTriggered folding.visit.data second dependency.property = true) : dependency ∈ taken := by
    refine (List.mem_append.mp (perm.mem_iff.mp listed)).resolve_left fun waits => ?_
    rw [untriggered dependency waits] at triggered
    cases triggered
  -- What the closure sets off is set off in the end, and what is left then does not apply.
  have complete {name : String} (triggers : folding.Triggers name) :
      Reduction.isTriggered folding.visit.data second name = true := by
    rw [Reduction.isTriggered_iff]
    induction triggers with
    | present present => exact .inl present
    | required requires => exact .inr ((absorbs.append absorbs').requires both object requires)
    | selected settles before selects brings =>
      exact .inr ((absorbs.append absorbs').requires_of_brings both object
        (List.mem_append_left _ ((selected _).mpr ⟨_, before, settles, selects⟩)) brings)
    | dependency listed _ brings ih =>
      exact .inr ((absorbs.append absorbs').requires_of_brings both object
        (List.mem_append_right _ (List.mem_map_of_mem (taken_of_triggered listed (Reduction.isTriggered_iff.mpr ih)))) brings)
  refine ⟨_, absorbs', fun demand => ⟨fun inside => ?_, ?_⟩⟩
  · obtain ⟨dependency, listed, rfl⟩ := List.mem_map.mp inside
    exact ⟨dependency, perm.mem_iff.mpr (List.mem_append_right _ listed), applies dependency listed, rfl⟩
  · rintro ⟨dependency, listed, triggers, rfl⟩
    exact List.mem_map_of_mem (taken_of_triggered listed (complete triggers))

/-- Where dependencies occur and there are data, those that apply are added; else nothing is. -/
private theorem absorbs_of_settled {early : List Demand} {first second : Json} {choice choice' : Option Nat}
    (absorbs : folding.Absorbs (folding.task.staticPart folding.visit.fragment.schema) early first)
    (selected : ∀ demand, demand ∈ early ↔
      ∃ reducer ≠ Reducer.conditional, folding.Settles reducer ∧ folding.Selects reducer demand)
    (answer : ((folding.settled [.dependencies]).foldlM
      (fun (state : Json × Option Nat) reducer => folding.fold state.1 state.2 reducer) (first, choice)).run =
        some (.ok (second, choice'))) :
    ∃ demands, folding.Absorbs first demands second ∧ ∀ demand, demand ∈ demands ↔
      folding.task.data.isSome = true ∧ ∃ dependency ∈ folding.visit.fragment.dependencies folding.visit.context.draft,
        folding.Triggers dependency.property ∧ demand = dependency.demand := by
  by_cases occurs : folding.visit.fragment.has folding.visit.context.draft .dependencies = true ∧
      folding.task.data.isSome = true
  · have alone : folding.settled [.dependencies] = [.dependencies] := by simp [settled, occurs]
    rw [alone, List.foldlM_cons] at answer
    obtain ⟨⟨_, _⟩, folds, same⟩ := Attempt.bind_eq_ok.mp answer
    cases same
    obtain ⟨demands, absorbs, exact'⟩ := absorbs_of_dependencies schemas object absorbs selected occurs.2 folds
    exact ⟨demands, absorbs, fun demand => by rw [exact', and_iff_right occurs.2]⟩
  · have none : folding.settled [.dependencies] = [] := by
      rw [List.eq_nil_iff_forall_not_mem]
      rintro reducer inside
      obtain ⟨listed, has, settles⟩ := mem_settled.mp inside
      rw [List.mem_singleton.mp listed] at has settles
      exact occurs ⟨has, settles.resolve_right (by simp)⟩
    rw [none] at answer
    cases answer
    refine ⟨[], .nil _, fun demand => ⟨fun inside => absurd inside List.not_mem_nil, ?_⟩⟩
    rintro ⟨given, dependency, listed, -⟩
    refine absurd ⟨?_, given⟩ occurs
    rw [Fragment.has, Bool.not_eq_true', List.isEmpty_eq_false_iff]
    exact List.ne_nil_of_mem listed

/-- Folding adds what is told by the closure, and nothing else. -/
theorem absorbs_of_foldAll {schema : Json} {choice : Option Nat}
    (answer : folding.foldAll.run = some (.ok (schema, choice))) :
    ∃ demands, folding.Absorbs (folding.task.staticPart folding.visit.fragment.schema) demands schema ∧
      ∀ demand, demand ∈ demands ↔ folding.Folds demand := by
  rw [foldAll_eq, List.foldlM_append] at answer
  obtain ⟨⟨first, choice₁⟩, before, answer⟩ := Attempt.bind_eq_ok.mp answer
  rw [List.foldlM_append] at answer
  obtain ⟨⟨second, choice₂⟩, middle, after⟩ := Attempt.bind_eq_ok.mp answer
  obtain ⟨early, absorbs₁, selects₁⟩ := absorbs_of_foldlM (fun reducer listed => by
    rintro rfl
    simp [mem_settled] at listed) before
  obtain ⟨late, absorbs₃, selects₃⟩ := absorbs_of_foldlM (fun reducer listed => by
    rintro rfl
    simp [mem_settled] at listed) after
  have selected (demand : Demand) : demand ∈ early ↔
      ∃ reducer ≠ Reducer.conditional, folding.Settles reducer ∧ folding.Selects reducer demand := by
    rw [selects₁]
    constructor
    · rintro ⟨reducer, listed, selects⟩
      obtain ⟨listed, -, settles⟩ := mem_settled.mp listed
      exact ⟨reducer, by rintro rfl; simp at listed, settles, selects⟩
    · rintro ⟨reducer, apart, settles, selects⟩
      refine ⟨reducer, mem_settled.mpr ⟨?_, selects.has _, settles⟩, selects⟩
      cases selects with
      | branch => exact absurd rfl apart
      | _ => simp
  obtain ⟨middle', absorbs₂, applies⟩ := absorbs_of_settled schemas object absorbs₁ selected middle
  refine ⟨early ++ (middle' ++ late), absorbs₁.append (absorbs₂.append absorbs₃), fun demand => ?_⟩
  rw [List.mem_append, List.mem_append, selected, applies, selects₃]
  constructor
  · rintro (⟨reducer, -, settles, selects⟩ | ⟨given, dependency, listed, triggers, rfl⟩ | ⟨reducer, listed, selects⟩)
    · exact .selected settles selects
    · exact .dependency given listed triggers
    · exact .selected (mem_settled.mp listed).2.2 selects
  · intro folds
    cases folds with
    | @selected reducer _ settles selects =>
      by_cases last : reducer = .conditional
      · subst last
        exact .inr (.inr ⟨_, mem_settled.mpr ⟨by simp, selects.has _, settles⟩, selects⟩)
      · exact .inl ⟨reducer, last, settles, selects⟩
    | dependency given listed triggers => exact .inr (.inl ⟨given, _, listed, triggers, rfl⟩)

end

end Folding
end JsonSchema
