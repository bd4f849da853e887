import JsonSchema.Check.Judgement
import JsonSchema.Proofs.Check.Displacement
import JsonSchema.Proofs.Reduction.Agreement
import JsonSchema.Proofs.Reduction.Steps
import JsonSchema.Proofs.Reference.Renumbered

/-!
# Judges of data that stand at another place

Every judge finds the same in a part of the data as in the part alone, moved to where the part stands,
and it finds the same in a context where documents have other numbers. A step keeps this of the judge it
asks, so the judges of all depths have it.
-/

namespace JsonSchema

/-- The reduction of a fragment for data below a place. -/
def Reduction.moved (p : Pointer) (task : Reduction) : Reduction := { task with pointer := p ++ task.pointer }

/-- The outcome of a reduction for a part of the data, and the one for the part alone. -/
inductive Reduced.Moves (p : Pointer) : Option (Except Violation Reduced) → Option (Except Violation Reduced) → Prop where
  | declined : Moves p none none
  | failed {violation : Violation} : Moves p (some (.error violation)) (some (.error (violation.moved p)))
  | reduced {fragment : Fragment} {choice : Option Nat} {scope moved : Scope} (inside : scope.Moves p moved) :
      Moves p (some (.ok ⟨fragment, scope, choice⟩)) (some (.ok ⟨fragment, moved, choice⟩))

/-- The outcome of a reduction, and the one where documents have other numbers and the data stand below a place. -/
inductive Reduced.Follows (p : Pointer) (σ : Nat → Nat) :
    Option (Except Violation Reduced) → Option (Except Violation Reduced) → Prop where
  | declined : Follows p σ none none
  | failed {violation : Violation} : Follows p σ (some (.error violation)) (some (.error (violation.moved p)))
  | reduced {fragment : Fragment} {choice : Option Nat} {scope moved : Scope} (inside : scope.Moves p moved) :
      Follows p σ (some (.ok ⟨fragment, scope, choice⟩)) (some (.ok ⟨fragment.renumber σ, moved, choice⟩))

theorem Reduced.Follows.moves {p : Pointer} {first second : Option (Except Violation Reduced)}
    (follows : Reduced.Follows p id first second) : Reduced.Moves p first second := by
  cases follows with
  | declined => exact .declined
  | failed => exact .failed
  | @reduced fragment choice scope moved inside =>
    rw [Fragment.renumber_id]
    exact .reduced inside

/-- A judge that finds the same in a part of the data. -/
structure Judge.Moves (p : Pointer) (judge : Judge) : Prop where
  validate : ∀ {scope moved : Scope}, scope.Moves p moved → ∀ fragment data q,
    judge.validate fragment data (p ++ q) moved = (judge.validate fragment data q scope).map (List.map (Violation.moved p))
  reduce : ∀ {scope moved : Scope}, scope.Moves p moved → ∀ task fragment,
    Reduced.Moves p (judge.reduce task fragment scope) (judge.reduce (task.moved p) fragment moved)

/-- A judge that finds in a part of the data what another one finds in the part alone, where documents have other
numbers. -/
structure Judge.Follows (p : Pointer) (σ : Nat → Nat) (judge other : Judge) : Prop where
  validate : ∀ {scope moved : Scope}, scope.Moves p moved → ∀ fragment data q,
    other.validate (fragment.renumber σ) data (p ++ q) moved =
      (judge.validate fragment data q scope).map (List.map (Violation.moved p))
  reduce : ∀ {scope moved : Scope}, scope.Moves p moved → ∀ task fragment,
    Reduced.Follows p σ (judge.reduce task fragment scope) (other.reduce (task.moved p) (fragment.renumber σ) moved)

theorem Judge.Follows.moves {p : Pointer} {judge : Judge} (follows : judge.Follows p id judge) : judge.Moves p where
  validate inside fragment data q := by
    have validates := follows.validate inside fragment data q
    rwa [Fragment.renumber_id] at validates
  reduce inside task fragment := by
    have reduces := (follows.reduce inside task fragment).moves
    rwa [Fragment.renumber_id] at reduces

theorem Judge.Moves.follows {p : Pointer} {judge : Judge} (moves : judge.Moves p) : judge.Follows p id judge where
  validate inside fragment data q := by
    rw [Fragment.renumber_id]
    exact moves.validate inside fragment data q
  reduce inside task fragment := by
    rw [Fragment.renumber_id]
    have reduces := moves.reduce inside task fragment
    generalize judge.reduce task fragment _ = first, judge.reduce (task.moved p) fragment _ = second at reduces
    cases reduces with
    | declined => exact .declined
    | failed => exact .failed
    | @reduced folded choice scope moved inside =>
      have reduced : Reduced.Follows p id (some (.ok ⟨folded, scope, choice⟩))
        (some (.ok ⟨folded.renumber id, moved, choice⟩)) := .reduced inside
      rwa [Fragment.renumber_id] at reduced

namespace Context

open Fragment

variable {σ : Nat → Nat} {context other : Context} {p : Pointer} {judge judge' : Judge}

namespace Renumbers

variable (renumbers : context.Renumbers σ other) (follows : judge.Follows p σ judge') {scope moved : Scope}
  (inside : scope.Moves p moved)
include renumbers follows inside

/-- A visit of a part of the data, under a judge that finds the same there. -/
theorem visit_follows (fragment : Fragment) (data : Json) (q : Pointer) :
    Visit.Follows p σ ⟨context, judge, fragment, data, q, scope⟩
      ⟨other, judge', fragment.renumber σ, data, p ++ q, moved⟩ where
  draft := renumbers.draft
  formats := renumbers.formats
  fragment := rfl
  data := rfl
  pointer := rfl
  settled c := renumbers.settle inside c
  judged c value q := follows.validate inside c value q
  shape := by
    have reductions := follows.reduce inside ⟨some data, q, []⟩ fragment
    simp only [Reduction.moved] at reductions
    simp only [Visit.evaluatedShape]
    generalize judge.reduce ⟨some data, q, []⟩ fragment scope = first,
      judge'.reduce ⟨some data, p ++ q, []⟩ (fragment.renumber σ) moved = second at reductions
    cases reductions <;> rfl

theorem validateSettled_follows (fragment : Fragment) (data : Json) (q : Pointer) :
    other.validateSettled judge' (fragment.renumber σ) data (p ++ q) moved =
      (context.validateSettled judge fragment data q scope).map (List.map (Violation.moved p)) := by
  have visits := renumbers.visit_follows follows inside fragment data q
  unfold validateSettled
  rw [schema_renumber]
  split
  · rfl
  · exact congrArg (fun found => some [found]) (visits.violation .invalidData [])
  · simp only [keywords_renumber, renumbers.draft]
    rw [← gather_map]
    exact congrArg (gather _) (funext visits.check)

theorem validateStep_follows (fragment : Fragment) (data : Json) (q : Pointer) :
    other.validateStep judge' (fragment.renumber σ) data (p ++ q) moved =
      (context.validateStep judge fragment data q scope).map (List.map (Violation.moved p)) := by
  have entered := inside.enterAt (site_renumber σ fragment) q
  have resolutions := renumbers.resolve entered fragment
  unfold validateStep
  rw [location_renumber, inside.checking]
  split
  · rfl
  · dsimp only
    generalize other.resolve (fragment.renumber σ) (moved.enterAt (fragment.renumber σ) (p ++ q)) = second,
      context.resolve fragment (scope.enterAt fragment q) = first at resolutions
    cases resolutions with
    | plain => exact renumbers.validateSettled_follows follows entered fragment data q
    | resolved within => exact renumbers.validateSettled_follows follows within _ data q
    | unresolved =>
      rw [schema_renumber]
      rfl

theorem folding_follows (task : Reduction) (fragment : Fragment) (data : Json) :
    Folding.Follows σ id (Violation.moved p)
      ⟨task.moved p, ⟨other, judge', fragment.renumber σ, data, p ++ task.pointer, moved⟩⟩
      ⟨task, ⟨context, judge, fragment, data, task.pointer, scope⟩⟩ := by
  have visits := renumbers.visit_follows follows inside fragment data task.pointer
  refine ⟨rfl, renumbers.draft, rfl, fun _ => rfl, visits.accepts, ?_, fun member => ?_⟩
  · apply ExceptT.ext
    rw [visits.selectOneOf]
    cases Visit.selectOneOf _ with
    | none => rfl
    | some result => cases result <;> rfl
  · have reductions := follows.reduce inside task member
    simp only [Folding.contribution]
    generalize judge.reduce task member scope = first,
      judge'.reduce (task.moved p) (member.renumber σ) moved = second at reductions
    cases reductions with
    | declined => rfl
    | failed => rfl
    | @reduced folded choice scope moved within =>
      change ExceptT.adapt id (pure (rebase (folded.renumber σ).site.base (folded.renumber σ).schema)) = _
      rw [site_renumber, schema_renumber]
      rfl

theorem reduceSettled_follows (task : Reduction) (fragment : Fragment) :
    other.reduceSettled judge' (task.moved p) (fragment.renumber σ) moved =
      ExceptT.adapt (Violation.moved p)
        ((fun reduced => ⟨reduced.fragment.renumber σ, moved, reduced.choice⟩) <$>
          context.reduceSettled judge task fragment scope) := by
  have agrees := (renumbers.folding_follows follows inside { task with active := fragment.location :: task.active } fragment
    task.value).foldAll
  rw [Attempt.adapt_id] at agrees
  have compiles (schema : Json) :
      (ExceptT.mk (some ((task.moved p).compile other.draft (fragment.renumber σ) schema)) : Attempt Fragment) =
      renumber σ <$> ExceptT.adapt (Violation.moved p)
        (ExceptT.mk (some (task.compile context.draft fragment schema))) := by
    have derived := derive_renumber σ context.draft fragment.site schema
    unfold Reduction.compile
    rw [site_renumber, renumbers.draft]
    cases answer : Fragment.derive context.draft fragment.site schema with
    | error fault => rfl
    | ok folded =>
      rw [answer] at derived
      exact congrArg (pure : Fragment → Attempt Fragment) (Except.ok.inj derived).symm
  have works : (task.moved p).hasWork other.draft (fragment.renumber σ) = task.hasWork context.draft fragment := by
    rw [renumbers.draft, Reduction.hasWork, Reduction.hasWork, reducers_renumber]
    rfl
  unfold reduceSettled
  dsimp only
  rw [works, location_renumber, schema_renumber, show (task.moved p).active = task.active from rfl,
    show (task.moved p).staticPart = task.staticPart from rfl]
  split
  · rfl
  · split
    · simp only [compiles, map_bind, map_pure, bind_map_left, Attempt.adapt_bind]
      rfl
    · rw [map_bind, Attempt.adapt_bind]
      refine congrArg₂ bind agrees (funext fun ⟨schema, choice⟩ => ?_)
      simp only [compiles, map_bind, map_pure, bind_map_left, Attempt.adapt_bind]
      rfl

theorem reduceStep_follows (task : Reduction) (fragment : Fragment) : Reduced.Follows p σ
    (context.reduceStep judge task fragment scope)
    (other.reduceStep judge' (task.moved p) (fragment.renumber σ) moved) := by
  have entered := inside.enter (site_renumber σ fragment)
  have resolutions := renumbers.resolve entered fragment
  have settled {left right : Scope} (within : left.Moves p right) (target : Fragment) : Reduced.Follows p σ
      (context.reduceSettled judge task target left).run
      (other.reduceSettled judge' (task.moved p) (target.renumber σ) right).run := by
    rw [renumbers.reduceSettled_follows follows within, ExceptT.run_adapt, ExceptT.run_map]
    cases answer : (context.reduceSettled judge task target left).run with
    | none => exact .declined
    | some result =>
      cases result with
      | error violation => exact .failed
      | ok reduced =>
        obtain ⟨own, -⟩ := reduceSettled_eq_ok answer
        obtain ⟨folded, inner, choice⟩ := reduced
        obtain rfl : inner = left := own
        exact .reduced within
  unfold reduceStep
  dsimp only
  generalize other.resolve (fragment.renumber σ) (moved.enter (fragment.renumber σ)) = second,
    context.resolve fragment (scope.enter fragment) = first at resolutions
  cases resolutions with
  | plain => exact settled entered fragment
  | resolved within => exact settled within _
  | unresolved =>
    rw [schema_renumber]
    exact .failed

omit follows inside

/-- All judges find the same where documents have other numbers and data stand at another place. -/
theorem judge_follows (p : Pointer) (depth : Nat) : (context.judge depth).Follows p σ (other.judge depth) := by
  induction depth with
  | zero => exact ⟨fun _ _ _ _ => rfl, fun _ _ _ => .declined⟩
  | succ depth ih =>
    exact ⟨fun inside => renumbers.validateStep_follows ih inside, fun inside => renumbers.reduceStep_follows ih inside⟩

end Renumbers

/-- All judges find the same in a part of the data. -/
theorem judge_moves (context : Context) (p : Pointer) (depth : Nat) : (context.judge depth).Moves p :=
  (context.renumbers_id.judge_follows p depth).moves

theorem reduceSettled_moved (context : Context) (moves : judge.Moves p) {scope moved : Scope}
    (inside : scope.Moves p moved) (task : Reduction) (fragment : Fragment) :
    context.reduceSettled judge (task.moved p) fragment moved =
      ExceptT.adapt (Violation.moved p)
        ((fun reduced => { reduced with scope := moved }) <$> context.reduceSettled judge task fragment scope) := by
  have reduces := context.renumbers_id.reduceSettled_follows moves.follows inside task fragment
  simpa only [renumber_id] using reduces

end Context
end JsonSchema
