import JsonSchema.Check.Judgement
import JsonSchema.Proofs.Check.Reordered
import JsonSchema.Proofs.Reduction.Agreement

/-!
# Judges and the order of members

A judge that does not look at the order of members comes to one verdict on data that differ in it
only, and to one reduction or to failures of one kind. A step keeps this of the judge it asks, so the
judges of all depths do not look at the order of members, if the formats do not.
-/

namespace JsonSchema

/-- A judge that does not look at the order of members. -/
structure Judge.OrderBlind (judge : Judge) : Prop where
  validate : ∀ fragment {a b : Json}, a.Shuffled b → ∀ pointer scope,
    verdict (judge.validate fragment a pointer scope) = verdict (judge.validate fragment b pointer scope)
  reduce : ∀ {a b : Json}, a.Shuffled b → ∀ pointer active fragment scope,
    (judge.reduce ⟨some a, pointer, active⟩ fragment scope).map (Except.mapError Violation.code) =
      (judge.reduce ⟨some b, pointer, active⟩ fragment scope).map (Except.mapError Violation.code)

namespace Context

variable {context : Context} (formats : context.formats.OrderBlind) {judge : Judge} (blind : judge.OrderBlind)
  {a b : Json} (data : a.Shuffled b)
include formats blind data

/-- Visits of such data, under a judge that does not look at the order of members. -/
theorem visit_shuffled (fragment : Fragment) (pointer : Pointer) (scope : Scope) :
    Visit.Shuffled ⟨context, judge, fragment, a, pointer, scope⟩ ⟨context, judge, fragment, b, pointer, scope⟩ where
  context := rfl
  fragment := rfl
  pointer := rfl
  scope := rfl
  data := data
  formats := formats
  judged c _ _ part q := blind.validate c part q scope
  shape := by
    have reductions := blind.reduce data pointer [] fragment scope
    unfold Visit.evaluatedShape
    dsimp only
    generalize judge.reduce ⟨some a, pointer, []⟩ fragment scope = first,
      judge.reduce ⟨some b, pointer, []⟩ fragment scope = second at reductions
    match first, second, reductions with
    | none, none, _ => rfl
    | some (.ok reduced), some (.ok _), same =>
      cases same
      rfl
    | some (.error _), some (.error _), _ => rfl

theorem verdict_validateSettled (fragment : Fragment) (pointer : Pointer) (scope : Scope) :
    verdict (context.validateSettled judge fragment a pointer scope) =
      verdict (context.validateSettled judge fragment b pointer scope) := by
  have visits := context.visit_shuffled formats blind data fragment pointer scope
  unfold validateSettled
  split
  · rfl
  · rfl
  · rw [data.of_eq]
    exact verdict_gather_congr fun keyword _ => visits.check keyword

theorem verdict_validateStep (fragment : Fragment) (pointer : Pointer) (scope : Scope) :
    verdict (context.validateStep judge fragment a pointer scope) =
      verdict (context.validateStep judge fragment b pointer scope) := by
  unfold validateStep
  split
  · rfl
  · dsimp only
    split
    · exact context.verdict_validateSettled formats blind data fragment pointer _
    · exact context.verdict_validateSettled formats blind data _ pointer _
    · rfl

theorem folding_matches (pointer : Pointer) (active : List String) (fragment : Fragment) (scope : Scope) :
    Folding.Matches Violation.code Violation.code
      ⟨⟨some a, pointer, active⟩, ⟨context, judge, fragment, a, pointer, scope⟩⟩
      ⟨⟨some b, pointer, active⟩, ⟨context, judge, fragment, b, pointer, scope⟩⟩ := by
  have visits := context.visit_shuffled formats blind data fragment pointer scope
  refine ⟨rfl, rfl, rfl, fun name => ?_, funext visits.accepts, ?_, fun member => ?_⟩
  · exact isSome_eq_of_rel (data.member? name)
  · have chosen (visit : Visit) : ExceptT.adapt Violation.code (Choice.index <$> (ExceptT.mk visit.selectOneOf : Attempt Choice)) =
        ExceptT.mk ((visit.selectOneOf.map Visit.outcome).map (Except.map Prod.fst)) := by
      cases visit.selectOneOf with
      | none => rfl
      | some result => cases result <;> rfl
    rw [chosen, chosen, visits.selectOneOf]
  · simp only [Folding.contribution, Attempt.adapt_bind, Attempt.adapt_mk, blind.reduce data]

theorem adapt_reduceSettled (pointer : Pointer) (active : List String) (fragment : Fragment) (scope : Scope) :
    ExceptT.adapt Violation.code (context.reduceSettled judge ⟨some a, pointer, active⟩ fragment scope) =
      ExceptT.adapt Violation.code (context.reduceSettled judge ⟨some b, pointer, active⟩ fragment scope) := by
  have folds := (context.folding_matches formats blind data pointer (fragment.location :: active) fragment scope).foldAll
  have compiles (active : List String) (schema : Json) : ExceptT.adapt Violation.code
      (ExceptT.mk (some (Reduction.compile ⟨some a, pointer, active⟩ context.draft fragment schema)) : Attempt Fragment) =
      ExceptT.adapt Violation.code
        (ExceptT.mk (some (Reduction.compile ⟨some b, pointer, active⟩ context.draft fragment schema))) := by
    unfold Reduction.compile
    cases Fragment.derive context.draft fragment.site schema <;> rfl
  unfold reduceSettled
  dsimp only
  rw [show Reduction.hasWork ⟨some a, pointer, active⟩ = Reduction.hasWork ⟨some b, pointer, active⟩ from rfl,
    show Reduction.staticPart ⟨some a, pointer, active⟩ = Reduction.staticPart ⟨some b, pointer, active⟩ from rfl]
  split
  · rfl
  · split
    · rw [Attempt.adapt_bind, Attempt.adapt_bind, compiles]
    · rw [Attempt.adapt_bind, Attempt.adapt_bind]
      refine congrArg₂ bind folds (funext fun ⟨schema, choice⟩ => ?_)
      dsimp only
      rw [Attempt.adapt_bind, Attempt.adapt_bind, compiles]

theorem reduceStep_codes (pointer : Pointer) (active : List String) (fragment : Fragment) (scope : Scope) :
    (context.reduceStep judge ⟨some a, pointer, active⟩ fragment scope).map (Except.mapError Violation.code) =
      (context.reduceStep judge ⟨some b, pointer, active⟩ fragment scope).map (Except.mapError Violation.code) := by
  have settled (target : Fragment) (inner : Scope) :
      (context.reduceSettled judge ⟨some a, pointer, active⟩ target inner).run.map (Except.mapError Violation.code) =
        (context.reduceSettled judge ⟨some b, pointer, active⟩ target inner).run.map (Except.mapError Violation.code) := by
    have adapted := congrArg ExceptT.run (context.adapt_reduceSettled formats blind data pointer active target inner)
    rwa [ExceptT.run_adapt, ExceptT.run_adapt] at adapted
  unfold reduceStep
  dsimp only
  split
  · exact settled _ _
  · exact settled _ _
  · rfl

omit blind data

/-- No judge looks at the order of members, if no format does. -/
theorem judge_orderBlind (depth : Nat) : (context.judge depth).OrderBlind := by
  induction depth with
  | zero => exact ⟨fun _ _ _ _ _ _ => rfl, fun _ _ _ _ _ => rfl⟩
  | succ depth ih =>
    exact ⟨fun fragment _ _ data => context.verdict_validateStep formats ih data fragment,
      fun data => context.reduceStep_codes formats ih data⟩

end Context
end JsonSchema
