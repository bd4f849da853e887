import JsonSchema.Proofs.Recursion.Unwinding
import JsonSchema.Proofs.Reference.Easing
import JsonSchema.Proofs.Reduction.Agreement
import JsonSchema.Proofs.Reduction.Steps

/-!
# Answers in eased scopes

What is being checked in a scope matters only where it cuts a check. So an inquiry that unwinds is
answered in the same way in a scope with the same fragments in which fewer checks are going on.
-/

namespace JsonSchema

/-! ## Judges of another scope -/

/-- A judge that looks at one scope only, and gives what it reduces to the scope it is told to. -/
def Judge.within (judge : Judge) (eased : Scope) (inside : Reduction → Fragment → Scope → Scope) : Judge :=
  ⟨fun fragment data pointer _ => judge.validate fragment data pointer eased,
    fun task fragment scope => (judge.reduce task fragment eased).map
      (Except.map fun reduced => { reduced with scope := inside task fragment scope })⟩

section
variable {context : Context} {judge : Judge} {eased scope : Scope} {inside : Reduction → Fragment → Scope → Scope}
  {fragment : Fragment} {data : Json} {pointer : Pointer} {task : Reduction}

namespace Visit

private theorem failuresBefore_within (members : List Fragment) :
    (Visit.mk context (judge.within eased inside) fragment data pointer scope).failuresBefore members =
      (Visit.mk context judge fragment data pointer eased).failuresBefore members := by
  induction members with
  | nil => rfl
  | cons member rest ih =>
    simp only [failuresBefore, ih]
    rfl

theorem selectOneOf_within (eases : eased.Eases scope) :
    (Visit.mk context (judge.within eased inside) fragment data pointer scope).selectOneOf =
      (Visit.mk context judge fragment data pointer eased).selectOneOf := by
  have settled (name : String) (value : Json) :
      (Visit.mk context (judge.within eased inside) fragment data pointer scope).discriminates name value =
        (Visit.mk context judge fragment data pointer eased).discriminates name value := by
    funext member
    simp only [discriminates, context.guides_eases.settle eases member]
    rfl
  unfold selectOneOf selectByProperty
  simp only [settled]
  rfl

private theorem evaluatedShape_within :
    (Visit.mk context (judge.within eased inside) fragment data pointer scope).evaluatedShape =
      (Visit.mk context judge fragment data pointer eased).evaluatedShape := by
  simp only [evaluatedShape, Judge.within]
  cases judge.reduce ⟨some data, pointer, []⟩ fragment eased with
  | none => rfl
  | some result => cases result <;> rfl

/-- A check asks its judge about its own scope only. -/
theorem check_within (eases : eased.Eases scope) (keyword : Keyword) :
    (Visit.mk context (judge.within eased inside) fragment data pointer scope).check keyword =
      (Visit.mk context judge fragment data pointer eased).check keyword := by
  cases keyword with
  | anyOf =>
    simp only [check, checkAnyOf, failuresBefore_within]
    rfl
  | oneOf => simp only [check, checkOneOf, selectOneOf_within eases]
  | unevaluatedItems =>
    simp only [check, checkUnevaluatedItems, evaluatedShape_within]
    rfl
  | unevaluatedProperties =>
    simp only [check, checkUnevaluatedProperties, evaluatedShape_within]
    rfl
  | _ => rfl

end Visit

namespace Folding

theorem foldAll_within (eases : eased.Eases scope) :
    (Folding.mk task ⟨context, judge.within eased inside, fragment, data, pointer, scope⟩).foldAll =
      (Folding.mk task ⟨context, judge, fragment, data, pointer, eased⟩).foldAll := by
  have agrees : Agrees id ⟨task, ⟨context, judge.within eased inside, fragment, data, pointer, scope⟩⟩
      ⟨task, ⟨context, judge, fragment, data, pointer, eased⟩⟩ := by
    refine ⟨rfl, rfl, rfl, rfl, rfl, ?_, fun member => ?_⟩
    · rw [Attempt.adapt_id, Visit.selectOneOf_within eases]
    · rw [Attempt.adapt_id]
      simp only [contribution, Judge.within]
      cases judge.reduce task member eased with
      | none => rfl
      | some result => cases result <;> rfl
  rw [agrees.foldAll, Attempt.adapt_id]

end Folding
end

/-! ## Answers -/

/-- An inquiry in a scope that is eased. -/
inductive Inquiry.Eases : Inquiry → Inquiry → Prop where
  | check {fragment : Fragment} {data : Json} {pointer : Pointer} {eased scope : Scope} (eases : eased.Eases scope) :
      Eases (.check fragment data pointer eased) (.check fragment data pointer scope)
  | reduction {task : Reduction} {fragment : Fragment} {eased scope : Scope} (eases : eased.Eases scope) :
      Eases (.reduction task fragment eased) (.reduction task fragment scope)

/-- The same answer, up to the scope inside what is reduced. -/
inductive Verdict.Eases : Verdict → Verdict → Prop where
  | violations {found : List Violation} : Eases (.violations found) (.violations found)
  | failed {violation : Violation} : Eases (.reduced (.error violation)) (.reduced (.error violation))
  | reduced {fragment : Fragment} {eased scope : Scope} {choice : Option Nat} (eases : eased.Eases scope) :
      Eases (.reduced (.ok ⟨fragment, eased, choice⟩)) (.reduced (.ok ⟨fragment, scope, choice⟩))

namespace Context

variable {context : Context}

/-- The limit seen from one scope, where what is reduced keeps the scope that the limit gives it. -/
noncomputable def limitWithin (context : Context) (eased : Scope) : Judge :=
  context.limit.within eased fun task fragment scope =>
    match context.limit.reduce task fragment scope with
    | some (.ok reduced) => reduced.scope
    | _ => []

/-- Seen from an eased scope the limit gives all that is needed in a scope, if the answers are the same there. -/
theorem limitWithin_extends {q : Inquiry} {eased scope : Scope} (eases : eased.Eases scope)
    (inside : ∀ r, context.Needs q r → r.scope = scope)
    (same : ∀ r, context.Needs q r → ∀ r' verdict, r'.Eases r → context.limit.answer r = some verdict →
      ∃ verdict', context.limit.answer r' = some verdict' ∧ verdict'.Eases verdict) :
    (context.limitWithin eased).Extends (context.needed q) := by
  intro r verdict given
  obtain ⟨needs, given⟩ := (needed_answer_eq_some context).mp given
  have own := inside r needs
  cases r with
  | check fragment data pointer scope' =>
    obtain rfl : scope' = scope := own
    obtain ⟨verdict', given', eased'⟩ := same _ needs _ verdict (.check eases) given
    obtain ⟨found, -, rfl⟩ := Option.map_eq_some_iff.mp given
    cases eased'
    exact given'
  | reduction task fragment scope' =>
    obtain rfl : scope' = scope := own
    obtain ⟨verdict', given', eased'⟩ := same _ needs _ verdict (.reduction eases) given
    obtain ⟨result, answer, rfl⟩ := Option.map_eq_some_iff.mp given
    obtain ⟨result', answer', rfl⟩ := Option.map_eq_some_iff.mp given'
    cases eased' with
    | failed => simp [limitWithin, Judge.within, Judge.answer, answer', Except.map]
    | reduced => simp [limitWithin, Judge.within, Judge.answer, answer', answer, Except.map]

theorem scope_of_needs_check {fragment target : Fragment} {data : Json} {pointer : Pointer} {scope inner : Scope}
    (inside : context.inside? fragment (scope.enterAt fragment pointer) = some (target, inner)) {r : Inquiry}
    (needs : context.Needs (.check fragment data pointer scope) r) : r.scope = inner := by
  obtain ⟨-, target', inner', inside', next⟩ := context.next_of_needs needs
  obtain ⟨rfl, rfl⟩ := Prod.mk.inj (Option.some.inj (inside.symm.trans inside'))
  cases r with
  | check => exact next.1
  | reduction => exact next.1

theorem scope_of_needs_reduction {task : Reduction} {fragment target : Fragment} {scope inner : Scope}
    (inside : context.inside? fragment (scope.enter fragment) = some (target, inner)) {r : Inquiry}
    (needs : context.Needs (.reduction task fragment scope) r) : r.scope = inner := by
  obtain ⟨target', inner', inside', -, next⟩ := context.next_of_needs needs
  obtain ⟨rfl, rfl⟩ := Prod.mk.inj (Option.some.inj (inside.symm.trans inside'))
  cases r with
  | check => exact next.1
  | reduction => exact next.1

/-- A fragment without reference is checked in the same way. -/
theorem validateSettled_within {judge : Judge} {eased scope : Scope} (eases : eased.Eases scope)
    {inside : Reduction → Fragment → Scope → Scope} (fragment : Fragment) (data : Json) (pointer : Pointer) :
    context.validateSettled (judge.within eased inside) fragment data pointer scope =
      context.validateSettled judge fragment data pointer eased := by
  have checks : (Visit.mk context (judge.within eased inside) fragment data pointer scope).check =
      (Visit.mk context judge fragment data pointer eased).check := funext fun keyword => Visit.check_within eases keyword
  simp only [validateSettled, checks]
  rfl

theorem reduceSettled_within_eq {judge : Judge} {eased scope : Scope} (eases : eased.Eases scope)
    {inside : Reduction → Fragment → Scope → Scope} (task : Reduction) (fragment : Fragment) :
    context.reduceSettled (judge.within eased inside) task fragment scope =
      (fun reduced => { reduced with scope }) <$> context.reduceSettled judge task fragment eased := by
  unfold reduceSettled
  dsimp only
  rw [Folding.foldAll_within eases]
  split
  · rfl
  · split <;> simp only [map_bind, map_pure]

/-- A fragment without reference is reduced in the same way, up to the scope inside it. -/
theorem reduceSettled_within {judge : Judge} {eased scope : Scope} (eases : eased.Eases scope)
    {inside : Reduction → Fragment → Scope → Scope} {task : Reduction} {fragment : Fragment}
    {result : Except Violation Reduced}
    (given : (context.reduceSettled (judge.within eased inside) task fragment scope).run = some result) :
    ∃ result', (context.reduceSettled judge task fragment eased).run = some result' ∧
      (Verdict.reduced result').Eases (.reduced result) := by
  rw [reduceSettled_within_eq eases, ExceptT.run_map] at given
  obtain ⟨result', answer, rfl⟩ := Option.map_eq_some_iff.mp given
  refine ⟨result', answer, ?_⟩
  cases result' with
  | error violation => exact .failed
  | ok reduced =>
    obtain ⟨own, -⟩ := reduceSettled_eq_ok answer
    obtain ⟨folded, inner, choice⟩ := reduced
    obtain rfl : inner = eased := own
    exact .reduced eases

/-- Which checks are going on does not matter for an inquiry that unwinds. -/
theorem Unwinds.answer_eased {q q' : Inquiry} (unwinds : context.Unwinds q) (eases : q'.Eases q) {verdict : Verdict}
    (given : context.limit.answer q = some verdict) :
    ∃ verdict', context.limit.answer q' = some verdict' ∧ verdict'.Eases verdict := by
  induction unwinds generalizing q' verdict with
  | @intro q uncut needs ih =>
    have answer := context.answer_of_needed given
    rw [← context.stepJudge_limit_eq]
    cases eases with
    | @check fragment data pointer eased scope eases =>
      obtain ⟨found, checked, rfl⟩ := Option.map_eq_some_iff.mp answer
      suffices step : context.validateStep context.limit fragment data pointer eased = some found from
        ⟨.violations found, congrArg (Option.map _) step, .violations⟩
      have free : scope.isChecking fragment.location pointer = false := by simpa [Inquiry.IsCut] using uncut
      have free' : eased.isChecking fragment.location pointer = false := by
        by_contra checking
        rw [eases.isChecking (by simpa using checking)] at free
        cases free
      have entered := eases.enterAt fragment pointer
      cases inside : context.inside? fragment (scope.enterAt fragment pointer) with
      | none =>
        obtain ⟨reference, unresolved⟩ := exists_unresolved inside
        rw [← checked]
        exact (validateStep_of_unresolved free' (context.guides_eases.unresolved entered unresolved)).trans
          (validateStep_of_unresolved free unresolved).symm
      | some found =>
        obtain ⟨target, inner⟩ := found
        obtain ⟨inner', inside', eases'⟩ := context.guides_eases.inside? entered inside
        have seen := context.limitWithin_extends eases' (fun r => scope_of_needs_check inside)
          fun r needs r' verdict eases given => ih r needs eases given
        obtain ⟨found', checked', same⟩ := Option.map_eq_some_iff.mp (context.stepJudge_extends seen _ _ answer)
        obtain rfl : found' = _ := Verdict.violations.inj same
        have checked' : context.validateStep (context.limitWithin inner') fragment data pointer scope = some _ := checked'
        rw [validateStep_of_inside? free inside, limitWithin, validateSettled_within eases'] at checked'
        exact (validateStep_of_inside? free' inside').trans checked'
    | @reduction task fragment eased scope eases =>
      have entered := eases.enter fragment
      cases inside : context.inside? fragment (scope.enter fragment) with
      | none =>
        obtain ⟨reference, unresolved⟩ := exists_unresolved inside
        obtain ⟨result, reduced, rfl⟩ := Option.map_eq_some_iff.mp answer
        cases (reduceStep_of_unresolved unresolved).symm.trans reduced
        exact ⟨_, congrArg (Option.map _)
          (reduceStep_of_unresolved (context.guides_eases.unresolved entered unresolved)), .failed⟩
      | some found =>
        obtain ⟨target, inner⟩ := found
        obtain ⟨inner', inside', eases'⟩ := context.guides_eases.inside? entered inside
        have seen := context.limitWithin_extends eases' (fun r => scope_of_needs_reduction inside)
          fun r needs r' verdict eases given => ih r needs eases given
        obtain ⟨result, reduced, rfl⟩ := Option.map_eq_some_iff.mp (context.stepJudge_extends seen _ _ answer)
        have reduced : context.reduceStep (context.limitWithin inner') task fragment scope = some result := reduced
        rw [reduceStep_of_inside? inside] at reduced
        obtain ⟨result', reduced', eases⟩ := reduceSettled_within eases' reduced
        exact ⟨.reduced result', congrArg (Option.map _) ((reduceStep_of_inside? inside').trans reduced'), eases⟩

theorem Unwinds.validate_eased {fragment : Fragment} {data : Json} {pointer : Pointer} {eased scope : Scope}
    (unwinds : context.Unwinds (.check fragment data pointer scope)) (eases : eased.Eases scope) {found : List Violation}
    (given : context.limit.validate fragment data pointer scope = some found) :
    context.limit.validate fragment data pointer eased = some found := by
  obtain ⟨verdict, answer, same⟩ := unwinds.answer_eased (.check eases) (congrArg (Option.map Verdict.violations) given)
  cases same
  obtain ⟨found', answer, equal⟩ := Option.map_eq_some_iff.mp answer
  exact Verdict.violations.inj equal ▸ answer

end Context
end JsonSchema
