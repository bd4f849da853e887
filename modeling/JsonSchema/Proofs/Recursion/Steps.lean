import JsonSchema.Proofs.Attempt
import JsonSchema.Proofs.Recursion.Checks
import JsonSchema.Proofs.Reference.Chain

/-!
# What one step asks

A step answers an inquiry by means of the answers to others. Each of those stands in the scope
inside the fragment that the reference leads to. It is about a part of the value, or about the
whole value at a location that is now in the scope or among the active ones.
-/

namespace JsonSchema

/-! ## Reductions -/

namespace Folding

/-- The folding with another judge. -/
def under (folding : Folding) (judge : Judge) : Folding := { folding with visit := folding.visit.under judge }

section
variable {P : Inquiry → Prop} {folding : Folding}

@[simp] theorem under_fragment (judge : Judge) :
    (folding.under judge).visit.fragment = folding.visit.fragment := rfl

/-- All checks and reductions of near fragments satisfy `P`. -/
structure Admits (P : Inquiry → Prop) (folding : Folding) : Prop where
  checks : folding.visit.Admits P
  reduces : ∀ member, folding.visit.fragment.HasChild member →
    P (.reduction folding.task member folding.visit.scope)

theorem inquires_contribution (admits : folding.Admits P) {member : Fragment}
    (child : folding.visit.fragment.HasChild member) :
    Inquires P fun judge => ((folding.under judge).contribution member).run := by
  have reduced : Inquires P fun judge => judge.reduce folding.task member folding.visit.scope :=
    .reduce _ _ _ (admits.reduces member child)
  exact Inquires.attempt (f := fun judge => ExceptT.mk (judge.reduce folding.task member folding.visit.scope))
    reduced fun result => .always (Except.ok (rebase result.fragment.site.base result.fragment.schema))

theorem inquires_absorb (admits : folding.Admits P) (accumulated : Json) {member : Fragment}
    (child : folding.visit.fragment.HasChild member) :
    Inquires P fun judge => ((folding.under judge).absorb accumulated member).run :=
  Inquires.attempt (inquires_contribution admits child) fun addition =>
    .always (Except.ok (merge accumulated addition))

theorem inquires_absorbDemand (admits : folding.Admits P) (accumulated : Json) {demand : Demand}
    (child : ∀ fragment, demand = .schema fragment → folding.visit.fragment.HasChild fragment) :
    Inquires P fun judge => ((folding.under judge).absorbDemand accumulated demand).run := by
  cases demand with
  | names names => exact .unasked (fun _ _ => rfl) fun _ => Option.some_ne_none _
  | schema fragment => exact inquires_absorb admits accumulated (child fragment rfl)

/-- All dependencies that ask for a schema ask for a child of the fragment. -/
def OwnDependencies (folding : Folding) (dependencies : List Dependency) : Prop :=
  ∀ dependency ∈ dependencies, ∀ fragment, dependency.demand = .schema fragment →
    folding.visit.fragment.HasChild fragment

theorem inquires_dependencyPass (admits : folding.Admits P) {waiting : List Dependency}
    (own : folding.OwnDependencies waiting) (accumulated : Json) :
    Inquires P fun judge => ((folding.under judge).dependencyPass waiting accumulated).run := by
  refine Inquires.foldlM (fun dependency member => ?_) _
  rintro ⟨left, accumulated⟩
  by_cases triggered : Reduction.isTriggered folding.visit.data accumulated dependency.property
  · have demanded := inquires_absorbDemand admits accumulated (own dependency member)
    simp only [under, Visit.under, triggered, ↓reduceIte]
    exact Inquires.attempt demanded fun addition => .always (Except.ok (left, addition))
  · simp only [under, Visit.under, triggered, Bool.false_eq_true, ↓reduceIte]
    exact .always (Except.ok (left ++ [dependency], accumulated))

/-- A pass leaves only dependencies that were waiting. -/
theorem dependencyPass_subset {waiting : List Dependency} {accumulated : Json}
    {left : List Dependency} {result : Json}
    (passed : (folding.dependencyPass waiting accumulated).run = some (.ok (left, result))) :
    left ⊆ waiting := by
  have ends : Attempt.Ends (fun state : List Dependency × Json => state.1 ⊆ waiting) (fun _ => True)
      (folding.dependencyPass waiting accumulated) := by
    refine .foldlM (fun dependency member state inside => ?_) (List.nil_subset _)
    by_cases triggered : Reduction.isTriggered folding.visit.data state.2 dependency.property
    · simp only [triggered, ↓reduceIte]
      exact .bind (.any _) fun _ _ => .pure inside
    · simp only [triggered, Bool.false_eq_true, ↓reduceIte]
      exact .pure (by simpa [member] using inside)
  exact ends _ passed

theorem inquires_foldDependencies (admits : folding.Admits P) (passes : Nat) {waiting : List Dependency}
    (own : folding.OwnDependencies waiting) (accumulated : Json) :
    Inquires P fun judge => ((folding.under judge).foldDependencies passes waiting accumulated).run := by
  induction passes generalizing waiting accumulated with
  | zero => exact .always (Except.ok accumulated)
  | succ passes ih =>
    simp only [foldDependencies]
    refine Inquires.attemptOf (inquires_dependencyPass admits own accumulated) ?_
    rintro ⟨left, next⟩ ⟨judge, passed⟩
    have subset : left ⊆ waiting := dependencyPass_subset passed
    by_cases ended : left.length = waiting.length
    · simp only [ended, ↓reduceIte]
      exact .always (Except.ok next)
    · simp only [ended, ↓reduceIte]
      exact ih (fun dependency member => own dependency (subset member)) next

theorem inquires_accepts (admits : folding.Admits P) {fragment : Fragment}
    (child : folding.visit.fragment.HasChild fragment) :
    Inquires P fun judge =>
      (ExceptT.lift ((folding.under judge).visit.accepts fragment) : Attempt Bool).run :=
  (Visit.inquires_accepts admits.checks child).map Except.ok

theorem inquires_branch? (admits : folding.Admits P) :
    Inquires P fun judge => (folding.under judge).branch?.run := by
  simp only [branch?, under_fragment]
  cases schema : folding.visit.fragment.condition? with
  | none => exact .always (Except.ok none)
  | some condition =>
    exact Inquires.attempt (inquires_accepts admits (Fragment.hasChild_of_child? schema)) fun holds =>
      .always (Except.ok _)

theorem hasChild_of_branch? {branch : Fragment} (branched : folding.branch?.run = some (.ok (some branch))) :
    folding.visit.fragment.HasChild branch := by
  unfold branch? at branched
  cases schema : folding.visit.fragment.condition? with
  | none => simp [schema] at branched
  | some condition =>
    simp only [schema] at branched
    obtain ⟨holds, -, same⟩ := Attempt.bind_eq_ok.mp branched
    have chosen : (if holds then folding.visit.fragment.consequence?
        else folding.visit.fragment.alternative?) = some branch := by
      injection (Option.some.inj same)
    exact Fragment.hasChild_of_taken chosen

theorem ownDependencies (folding : Folding) (draft : Draft) :
    folding.OwnDependencies (folding.visit.fragment.dependencies draft) := by
  intro dependency member fragment demand
  obtain ⟨keyword, -, inside⟩ := List.mem_flatMap.mp member
  exact Fragment.hasChild_of_dependenciesOf inside demand

theorem inquires_fold (admits : folding.Admits P) (accumulated : Json) (choice : Option Nat)
    (reducer : Reducer) : Inquires P fun judge => ((folding.under judge).fold accumulated choice reducer).run := by
  cases reducer with
  | allOf =>
    have absorbed : Inquires P fun judge =>
        ((folding.visit.fragment.members .allOf).foldlM (folding.under judge).absorb accumulated).run :=
      .foldlM (fun member inside accumulated =>
        inquires_absorb admits accumulated (Fragment.hasChild_of_members inside)) accumulated
    exact Inquires.attempt absorbed fun result => .always (Except.ok (result, choice))
  | anyOf =>
    have absorbed : Inquires P fun judge =>
        ((folding.visit.fragment.members .anyOf).foldlM
          (fun accumulated member => do
            let holds : Bool ← ExceptT.lift ((folding.under judge).visit.accepts member)
            if holds then (folding.under judge).absorb accumulated member else return accumulated)
          accumulated).run := by
      refine .foldlM (fun member inside accumulated => ?_) accumulated
      have child := Fragment.hasChild_of_members inside
      refine Inquires.attempt (inquires_accepts admits child) fun holds => ?_
      cases holds with
      | true => exact inquires_absorb admits accumulated child
      | false => exact .always (Except.ok accumulated)
    exact Inquires.attempt absorbed fun result => .always (Except.ok (result, choice))
  | oneOf =>
    have selected : Inquires P fun judge => (folding.under judge).visit.selectOneOf :=
      Visit.inquires_selectOneOf admits.checks
    refine Inquires.attempt (f := fun judge => ExceptT.mk (folding.under judge).visit.selectOneOf)
      selected fun chosen => ?_
    simp only [under_fragment]
    cases found : (folding.visit.fragment.members .oneOf)[chosen.index]? with
    | none => exact .always (Except.ok (accumulated, some chosen.index))
    | some member =>
      have child := Fragment.hasChild_of_members (List.mem_of_getElem? found)
      exact Inquires.attempt (inquires_absorb admits accumulated child) fun result =>
        .always (Except.ok (result, some chosen.index))
  | dependencies =>
    have absorbed := inquires_foldDependencies admits
      ((folding.visit.fragment.dependencies folding.visit.context.draft).length + 1)
      (folding.ownDependencies folding.visit.context.draft) accumulated
    exact Inquires.attempt absorbed fun result => .always (Except.ok (result, choice))
  | conditional =>
    refine Inquires.attemptOf (inquires_branch? admits) fun branch possible => ?_
    cases branch with
    | none => exact .always (Except.ok (accumulated, choice))
    | some branch =>
      have child : folding.visit.fragment.HasChild branch := by
        obtain ⟨judge, branched⟩ := possible
        exact (folding.under judge).hasChild_of_branch? branched
      exact Inquires.attempt (inquires_absorb admits accumulated child) fun result =>
        .always (Except.ok (result, choice))

theorem inquires_foldAll (admits : folding.Admits P) :
    Inquires P fun judge => (folding.under judge).foldAll.run := by
  have folded : Inquires P fun judge =>
      (((folding.visit.fragment.reducers folding.visit.context.draft).filter fun reducer =>
        folding.task.data.isSome || reducer = .allOf).foldlM
        (fun (state : Json × Option Nat) reducer => (folding.under judge).fold state.1 state.2 reducer)
        (folding.task.staticPart folding.visit.fragment.schema, none)).run :=
    .foldlM (fun reducer _ state => inquires_fold admits state.1 state.2 reducer) _
  exact folded

end
end Folding
/-! ## Steps -/

namespace Context

/-- The inquiries that the step of an inquiry may lead to. -/
def Next (context : Context) : Inquiry → Inquiry → Prop
  | .check fragment data pointer scope, next =>
    scope.isChecking fragment.location pointer = false ∧
      ∃ target inner, context.inside? fragment (scope.enterAt fragment pointer) = some (target, inner) ∧
        match next with
        | .check child part place inner' =>
          let visit : Visit := ⟨context, context.judge 0, target, data, pointer, inner⟩
          inner' = inner ∧ visit.Covers part place ∧
            (visit.Near child ∨ .unevaluatedItems ∈ target.keywords context.draft)
        | .reduction task reduced inner' =>
          inner' = inner ∧ task = ⟨some data, pointer, []⟩ ∧ reduced = target
  | .reduction task fragment scope, next =>
    ∃ target inner, context.inside? fragment (scope.enter fragment) = some (target, inner) ∧
      target.location ∉ task.active ∧
        match next with
        | .check child part place inner' =>
          let visit : Visit := ⟨context, context.judge 0, target, task.value, task.pointer, inner⟩
          inner' = inner ∧ visit.Covers part place ∧ visit.Near child
        | .reduction task' member inner' =>
          inner' = inner ∧ task' = { task with active := target.location :: task.active } ∧
            target.HasChild member

/-- The judge whose answers take one step more. -/
def stepJudge (context : Context) (judge : Judge) : Judge :=
  ⟨fun fragment data pointer scope => context.validateStep judge fragment data pointer scope,
    fun task fragment scope => context.reduceStep judge task fragment scope⟩

theorem judge_succ (context : Context) (depth : Nat) :
    context.judge (depth + 1) = context.stepJudge (context.judge depth) := rfl

theorem inquires_validateSettled (context : Context) {P : Inquiry → Prop} (target : Fragment) (data : Json)
    (pointer : Pointer) (inner : Scope)
    (admits : Visit.Admits P ⟨context, context.judge 0, target, data, pointer, inner⟩)
    (reduces : P (.reduction ⟨some data, pointer, []⟩ target inner))
    (all : .unevaluatedItems ∈ target.keywords context.draft →
      ∀ fragment part place, Visit.Covers ⟨context, context.judge 0, target, data, pointer, inner⟩ part place →
        P (.check fragment part place inner)) :
    Inquires P fun judge => context.validateSettled judge target data pointer inner := by
  unfold validateSettled
  split
  · exact .always _
  · exact .unasked (fun _ _ => rfl) (by simp)
  · refine .gather fun keyword member => ?_
    have occurs := (List.mem_filter.mp member).1
    exact Visit.inquires_check admits reduces keyword fun same => all (same ▸ occurs)

theorem inquires_validateStep (context : Context) (fragment : Fragment) (data : Json) (pointer : Pointer)
    (scope : Scope) :
    Inquires (context.Next (.check fragment data pointer scope)) fun judge =>
      context.validateStep judge fragment data pointer scope := by
  unfold validateStep
  by_cases checking : scope.isChecking fragment.location pointer
  · simp only [checking, ↓reduceIte]
    exact .always _
  · simp only [checking, Bool.false_eq_true, ↓reduceIte]
    have settled (target : Fragment) (inner : Scope)
        (inside : context.inside? fragment (scope.enterAt fragment pointer) = some (target, inner)) :
        Inquires (context.Next (.check fragment data pointer scope)) fun judge =>
          context.validateSettled judge target data pointer inner := by
      have free : scope.isChecking fragment.location pointer = false := by simpa using checking
      refine context.inquires_validateSettled target data pointer inner ?_ ?_ ?_
      · exact fun child part place near covers => ⟨free, target, inner, inside, rfl, covers, .inl near⟩
      · exact ⟨free, target, inner, inside, rfl, rfl, rfl⟩
      · exact fun occurs child part place covers => ⟨free, target, inner, inside, rfl, covers, .inr occurs⟩
    cases resolved : context.resolve fragment (scope.enterAt fragment pointer) with
    | plain => exact settled fragment _ (by simp [inside?, resolved])
    | resolved target inner => exact settled target inner (by simp [inside?, resolved])
    | unresolved reference => exact .always _

theorem inquires_reduceSettled (context : Context) {P : Inquiry → Prop} (task : Reduction)
    (target : Fragment) (inner : Scope)
    (admits : target.location ∉ task.active → Folding.Admits P
      ⟨{ task with active := target.location :: task.active },
        ⟨context, context.judge 0, target, task.value, task.pointer, inner⟩⟩) :
    Inquires P fun judge => (context.reduceSettled judge task target inner).run := by
  unfold reduceSettled
  by_cases work : !task.hasWork context.draft target
  · simp only [work, ↓reduceIte]
    exact .always (Except.ok _)
  · by_cases entered : task.active.contains target.location
    · simp only [work, entered, Bool.false_eq_true, ↓reduceIte]
      exact Inquires.attempt (f := fun _ => ExceptT.mk (some _)) (.always _) fun folded => .always (Except.ok _)
    · simp only [work, entered, Bool.false_eq_true, ↓reduceIte]
      refine Inquires.attempt (Folding.inquires_foldAll (admits (by simpa using entered))) ?_
      rintro ⟨schema, choice⟩
      exact Inquires.attempt (f := fun _ => ExceptT.mk (some _)) (.always _) fun folded => .always (Except.ok _)

theorem inquires_reduceStep (context : Context) (task : Reduction) (fragment : Fragment) (scope : Scope) :
    Inquires (context.Next (.reduction task fragment scope)) fun judge =>
      context.reduceStep judge task fragment scope := by
  have settled (target : Fragment) (inner : Scope)
      (inside : context.inside? fragment (scope.enter fragment) = some (target, inner)) :
      Inquires (context.Next (.reduction task fragment scope)) fun judge =>
        (context.reduceSettled judge task target inner).run := by
    refine context.inquires_reduceSettled task target inner fun free => ⟨?_, ?_⟩
    · exact fun child part place near covers => ⟨target, inner, inside, free, rfl, covers, near⟩
    · exact fun member child => ⟨target, inner, inside, free, rfl, rfl, child⟩
  unfold reduceStep
  simp only
  cases resolved : context.resolve fragment (scope.enter fragment) with
  | plain => exact settled fragment (scope.enter fragment) (by simp [inside?, resolved])
  | resolved target inner => exact settled target inner (by simp [inside?, resolved])
  | unresolved reference => exact .always _

/-- A step asks only for what an inquiry may lead to. -/
theorem inquires_stepJudge (context : Context) (q : Inquiry) :
    Inquires (context.Next q) fun judge => (context.stepJudge judge).answer q := by
  cases q with
  | check fragment data pointer scope =>
    exact (context.inquires_validateStep fragment data pointer scope).map Verdict.violations
  | reduction task fragment scope =>
    exact (context.inquires_reduceStep task fragment scope).map Verdict.reduced

end Context
end JsonSchema
