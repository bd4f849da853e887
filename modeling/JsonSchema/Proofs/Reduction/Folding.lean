import JsonSchema.Proofs.Recursion.Steps

/-!
# What folding adds

Folding starts with the static part of a fragment and adds what the members that apply contribute,
one after the other. What holds of the static part and is kept by every addition holds of the folded
schema.
-/

namespace JsonSchema.Folding

variable {folding : Folding}

/-- What may be added to what was accumulated: the members of `allOf`, those of `anyOf` that accept
the data, the selected one of `oneOf`, what a triggered dependency asks for, and the branch of the
conditional that applies. -/
inductive Adds (folding : Folding) (accumulated : Json) : Demand → Prop where
  | allOf {member : Fragment} (listed : member ∈ folding.visit.fragment.members .allOf) :
      Adds folding accumulated (.schema member)
  | anyOf {member : Fragment} (listed : member ∈ folding.visit.fragment.members .anyOf)
      (holds : folding.visit.accepts member = some true) : Adds folding accumulated (.schema member)
  | oneOf {selected : Choice} {member : Fragment} (chosen : folding.visit.selectOneOf = some (.ok selected))
      (listed : (folding.visit.fragment.members .oneOf)[selected.index]? = some member) :
      Adds folding accumulated (.schema member)
  | dependency {dependency : Dependency}
      (listed : dependency ∈ folding.visit.fragment.dependencies folding.visit.context.draft)
      (triggered : Reduction.isTriggered folding.visit.data accumulated dependency.property = true) :
      Adds folding accumulated dependency.demand
  | branch {condition branch : Fragment} {holds : Bool}
      (conditional : folding.visit.fragment.condition? = some condition)
      (decided : folding.visit.accepts condition = some holds)
      (taken : (if holds then folding.visit.fragment.consequence? else folding.visit.fragment.alternative?) = some branch) :
      Adds folding accumulated (.schema branch)

/-- Schemas that are added are those of children. -/
theorem Adds.hasChild {accumulated : Json} {member : Fragment} (adds : folding.Adds accumulated (.schema member)) :
    folding.visit.fragment.HasChild member := by
  generalize same : Demand.schema member = demand at adds
  cases adds with
  | allOf listed | anyOf listed =>
    cases same
    exact Fragment.hasChild_of_members listed
  | oneOf _ listed =>
    cases same
    exact Fragment.hasChild_of_members (List.mem_of_getElem? listed)
  | dependency listed => exact folding.ownDependencies _ _ listed _ same.symm
  | branch _ _ taken =>
    cases same
    exact Fragment.hasChild_of_taken taken

/-- Every addition keeps `Q` of what was accumulated. Where one fails, or no member of `oneOf` is
selected, `E` holds of the violation. -/
structure Keeps (folding : Folding) (Q : Json → Prop) (E : Violation → Prop) : Prop where
  added : ∀ accumulated demand, folding.Adds accumulated demand → Q accumulated →
    Attempt.Ends Q E (folding.absorbDemand accumulated demand)
  selected : folding.visit.fragment.members .oneOf ≠ [] → ∀ violation,
    folding.visit.selectOneOf = some (.error violation) → E violation

section
variable {Q : Json → Prop} {E : Violation → Prop} {accumulated : Json}

private theorem ends_dependencyPass (keeps : folding.Keeps Q E) {waiting : List Dependency}
    (own : waiting ⊆ folding.visit.fragment.dependencies folding.visit.context.draft) (holds : Q accumulated) :
    Attempt.Ends (fun state : List Dependency × Json =>
      state.1 ⊆ folding.visit.fragment.dependencies folding.visit.context.draft ∧ Q state.2) E
      (folding.dependencyPass waiting accumulated) := by
  refine .foldlM (fun dependency member state held => ?_) ⟨List.nil_subset _, holds⟩
  obtain ⟨left, accumulated⟩ := state
  obtain ⟨subset, held⟩ := held
  by_cases triggered : Reduction.isTriggered folding.visit.data accumulated dependency.property
  · simp only [triggered, ↓reduceIte]
    exact .bind (keeps.added _ _ (.dependency (own member) triggered) held) fun _ kept => .pure ⟨subset, kept⟩
  · simp only [triggered, Bool.false_eq_true, ↓reduceIte]
    exact .pure ⟨by simpa [own member] using subset, held⟩

private theorem ends_foldDependencies (keeps : folding.Keeps Q E) (passes : Nat) {waiting : List Dependency}
    (own : waiting ⊆ folding.visit.fragment.dependencies folding.visit.context.draft) (holds : Q accumulated) :
    Attempt.Ends Q E (folding.foldDependencies passes waiting accumulated) := by
  induction passes generalizing waiting accumulated with
  | zero => exact .pure holds
  | succ passes ih =>
    rw [foldDependencies]
    refine .bind (ends_dependencyPass keeps own holds) fun passed kept => ?_
    obtain ⟨left, next⟩ := passed
    dsimp only
    split
    · exact .pure kept.2
    · exact ih kept.1 kept.2

private theorem ends_branch? : Attempt.Ends (fun branch? : Option Fragment => ∀ branch ∈ branch?, ∀ accumulated,
    folding.Adds accumulated (.schema branch)) E folding.branch? := by
  unfold branch?
  split
  · exact .pure fun _ taken => nomatch taken
  · rename_i condition conditional
    exact .bind (Attempt.Ends.lift fun _ decided => decided) fun holds decided =>
      .pure fun branch taken _ => .branch conditional decided taken

private theorem ends_fold (keeps : folding.Keeps Q E) {choice : Option Nat} {reducer : Reducer}
    (occurs : folding.visit.fragment.has folding.visit.context.draft reducer = true) (holds : Q accumulated) :
    Attempt.Ends (fun state : Json × Option Nat => Q state.1) E (folding.fold accumulated choice reducer) := by
  cases reducer with
  | allOf =>
    exact .bind (.foldlM (fun member listed _ held => keeps.added _ (.schema member) (.allOf listed) held) holds)
      fun _ kept => .pure kept
  | anyOf =>
    refine .bind (.foldlM (fun member listed accumulated held => ?_) holds) fun _ kept => .pure kept
    refine .bind (Attempt.Ends.lift fun _ decided => decided) fun accepted decided => ?_
    cases accepted with
    | true => exact keeps.added _ (.schema member) (.anyOf listed decided) held
    | false => exact .pure held
  | oneOf =>
    have members : folding.visit.fragment.members .oneOf ≠ [] := by simpa [Fragment.has] using occurs
    have selects : Attempt.Ends (fun selected => folding.visit.selectOneOf = some (.ok selected)) E
        (ExceptT.mk folding.visit.selectOneOf) := by
      intro end' answer
      cases end' with
      | error violation => exact keeps.selected members violation answer
      | ok selected => exact answer
    refine .bind selects fun selected chosen => ?_
    split
    · rename_i member listed
      exact .bind (keeps.added _ (.schema member) (.oneOf chosen listed) holds) fun _ kept => .pure kept
    · exact .pure holds
  | dependencies => exact .bind (ends_foldDependencies keeps _ (fun _ member => member) holds) fun _ kept => .pure kept
  | conditional =>
    refine .bind ends_branch? fun branch? adds => ?_
    cases branch? with
    | none => exact .pure holds
    | some branch => exact .bind (keeps.added _ (.schema branch) (adds branch rfl _) holds) fun _ kept => .pure kept

/-- What holds of the static part and is kept by every addition holds of the folded schema. -/
theorem ends_foldAll (keeps : folding.Keeps Q E) (start : Q (folding.task.staticPart folding.visit.fragment.schema)) :
    Attempt.Ends (fun state : Json × Option Nat => Q state.1) E folding.foldAll := by
  refine .foldlM (fun reducer listed state held => ends_fold keeps ?_ held) start
  exact (List.mem_filter.mp (List.mem_of_mem_filter listed)).2

end
end JsonSchema.Folding
