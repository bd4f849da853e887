import JsonSchema.Proofs.Check.Relocation
import JsonSchema.Proofs.Check.Scopes
import JsonSchema.Proofs.Recursion.Easing
import JsonSchema.Proofs.Reduction.Folding
import JsonSchema.Proofs.Reference.Static

/-!
# Checks without dynamic references

Where no schema refers dynamically, a scope matters only for what is being checked in it: answers are the
same in all scopes in which the same is being checked.
-/

namespace JsonSchema

/-! ## Reductions -/

namespace Context

variable {context : Context} {f : Fragment} {scope : Scope}

/-- What a fragment without dynamic references is reduced to has none. -/
theorem Static.reduced (static : context.Static) {depth : Nat} {task : Reduction} {reduced : Reduced}
    (own : f.IsStatic context.draft) (answer : (context.judge depth).reduce task f scope = some (.ok reduced)) :
    reduced.fragment.IsStatic context.draft := by
  induction depth generalizing task f scope reduced with
  | zero => cases answer
  | succ depth ih =>
    obtain ⟨target, inner, inside, settled⟩ := reduceStep_eq_ok answer
    have found := static.inside? own inside
    have start : (task.staticPart target.schema).Static := by
      have schema := found.schema
      unfold Reduction.staticPart
      split
      · rename_i same
        rw [same] at schema
        exact schema.without _
      · exact schema
    obtain ⟨-, ⟨-, same⟩ | ⟨-, -, derived⟩ | ⟨-, -, schema, folds, derived⟩⟩ := reduceSettled_eq_ok settled
    · rwa [same]
    · exact .of_derive start derived
    · have keeps : (context.folding (context.judge depth) task target inner).Keeps Json.Static fun _ => True := by
        refine ⟨fun accumulated demand adds held => ?_, fun _ _ _ => trivial⟩
        cases demand with
        | names names => exact .pure (held.merge (Json.static_required names))
        | schema member =>
          refine .bind (Q := Json.Static) ?_ fun _ added => .pure (held.merge added)
          intro end' answer
          cases end' with
          | error => trivial
          | ok addition =>
            obtain ⟨reduced, reduces, same⟩ := Attempt.bind_eq_ok.mp answer
            cases same
            exact (ih (found.child adds.hasChild) reduces).schema.rebase _
      exact .of_derive (Folding.ends_foldAll keeps start _ folds) derived

/-- From fragments without dynamic references one comes to fragments without them. -/
theorem Static.retains (static : context.Static) : context.Retains (·.IsStatic context.draft) where
  toLeadsWithin := static.leadsWithin
  indexed := static.fragments
  child own has := own.child has
  reduced own answer := static.reduced own answer

end Context

/-! ## Scopes in which the same is being checked -/

/-- In two scopes the same is being checked. -/
def Scope.ChecksAlike (left right : Scope) : Prop :=
  ∀ location p, left.isChecking location p = right.isChecking location p

namespace Scope

variable {left right : Scope}

theorem ChecksAlike.enter (alike : left.ChecksAlike right) (fragment : Fragment) :
    (left.enter fragment).ChecksAlike (right.enter fragment) := by
  intro location p
  have checking := alike location p
  simp only [isChecking, Scope.enter, List.any_cons] at checking ⊢
  rw [checking]

theorem ChecksAlike.enterAt (alike : left.ChecksAlike right) (fragment : Fragment) (q : Pointer) :
    (left.enterAt fragment q).ChecksAlike (right.enterAt fragment q) := by
  intro location p
  have checking := alike location p
  simp only [isChecking, Scope.enterAt, List.any_cons] at checking ⊢
  rw [checking]

theorem Idle.checksAlike (idle : left.Idle) (idle' : right.Idle) : left.ChecksAlike right := by
  intro location p
  rw [idle.not_isChecking, idle'.not_isChecking]

end Scope

theorem Context.Static.guides_checksAlike {context : Context} (static : context.Static) :
    Scope.GuidesWithin context (·.IsStatic context.draft) Scope.ChecksAlike :=
  static.guides fun alike fragment => alike.enter fragment

/-- The same outcome of a reduction, in scopes in which the same is being checked. -/
inductive Reduced.Alike : Option (Except Violation Reduced) → Option (Except Violation Reduced) → Prop where
  | declined : Alike none none
  | failed {violation : Violation} : Alike (some (.error violation)) (some (.error violation))
  | reduced {fragment : Fragment} {choice : Option Nat} {left right : Scope} (alike : left.ChecksAlike right) :
      Alike (some (.ok ⟨fragment, left, choice⟩)) (some (.ok ⟨fragment, right, choice⟩))

/-- A judge for which only what is being checked matters in a scope, as long as nothing refers dynamically. -/
structure Judge.IgnoresScope (draft : Draft) (judge : Judge) : Prop where
  validate : ∀ {left right : Scope}, left.ChecksAlike right → ∀ {f : Fragment}, f.IsStatic draft → ∀ data p,
    judge.validate f data p left = judge.validate f data p right
  reduce : ∀ {left right : Scope}, left.ChecksAlike right → ∀ {f : Fragment}, f.IsStatic draft → ∀ task,
    Reduced.Alike (judge.reduce task f left) (judge.reduce task f right)

namespace Context

variable {context : Context} {depth : Nat} {f : Fragment} {left right : Scope}

section
variable (static : context.Static) (ignores : (context.judge depth).IgnoresScope context.draft)
  (alike : left.ChecksAlike right) (own : f.IsStatic context.draft)
include static ignores alike own

theorem selectsAlike (data : Json) (p : Pointer) :
    (Visit.mk context (context.judge depth) f data p right).SelectsAlike left where
  settled _ listed := static.guides_checksAlike.settle alike (own.child (Fragment.hasChild_of_members listed))
  member _ listed := ignores.validate alike (own.child (Fragment.hasChild_of_members listed)) _ _
  property _ listed _ _ _ has :=
    ignores.validate alike ((static.settle (own.child (Fragment.hasChild_of_members listed)) right).child has) _ _

theorem visit_agrees (data : Json) (p : Pointer) :
    (Visit.mk context (context.judge depth) f data p right).Agrees left where
  selects := selectsAlike static ignores alike own data p
  here _ checks := ignores.validate alike (own.child checks.hasChild) _ _
  child _ has _ _ := ignores.validate alike (own.child has) _ _
  shape _ := by
    have reductions := ignores.reduce alike own ⟨some data, p, []⟩
    simp only [Visit.evaluatedShape, Visit.inScope]
    generalize (context.judge depth).reduce ⟨some data, p, []⟩ f left = first,
      (context.judge depth).reduce ⟨some data, p, []⟩ f right = second at reductions
    cases reductions <;> rfl
  shaped _ shape reduces _ has _ _ := by
    have known : shape.IsStatic context.draft := by
      obtain ⟨result, answer, same⟩ := Option.bind_eq_some_iff.mp reduces
      cases result with
      | ok reduced =>
        cases same
        exact static.reduced own answer
      | error violation =>
        cases same
        exact own
    exact ignores.validate alike (known.child has) _ _

theorem validateSettled_alike (data : Json) (p : Pointer) :
    context.validateSettled (context.judge depth) f data p left =
      context.validateSettled (context.judge depth) f data p right :=
  validateSettled_inScope (visit_agrees static ignores alike own data p)

/-- A folding comes to the same in scopes in which the same is being checked. -/
theorem foldAll_alike (task : Reduction) (data : Json) (p : Pointer) :
    (Folding.mk task ⟨context, context.judge depth, f, data, p, left⟩).foldAll =
      (Folding.mk task ⟨context, context.judge depth, f, data, p, right⟩).foldAll := by
  -- seen from the right scope, a judge that is asked in the left one answers as it does there
  let seen := (context.judge depth).within right fun task member scope =>
    (((context.judge depth).reduce task member scope).bind Except.toOption).elim [] Reduced.scope
  let visit : Visit := ⟨context, context.judge depth, f, data, p, left⟩
  let folding : Folding := ⟨task, visit⟩
  have admits : folding.Admits fun q => seen.answer q = (context.judge depth).answer q := by
    refine ⟨fun c value place near covers => ?_, fun member has => ?_⟩
    · have known : c.IsStatic context.draft := by
        rcases near with has | ⟨member, has, below⟩
        · exact own.child has
        · exact (static.settle (own.child has) left).child below
      exact congrArg (Option.map Verdict.violations) (ignores.validate alike known value place).symm
    · have reductions := ignores.reduce alike (own.child has) task
      refine congrArg (Option.map Verdict.reduced) ?_
      change ((context.judge depth).reduce task member right).map _ = (context.judge depth).reduce task member left
      simp only [folding, visit]
      generalize (context.judge depth).reduce task member left = first,
        (context.judge depth).reduce task member right = second at reductions
      cases reductions <;> rfl
  have agrees : (folding.under seen).Agrees id ⟨task, { visit with scope := right }⟩ := by
    refine ⟨rfl, rfl, rfl, rfl, rfl, ?_, fun member => ?_⟩
    · have selects : (visit.under seen).selectOneOf = visit.selectOneOf :=
        (Visit.inquires_selectOneOf admits.checks).congr fun q same => same
      have selects' := (selectsAlike static ignores alike own data p).selectOneOf
      rw [Attempt.adapt_id]
      exact congrArg (fun selected => Choice.index <$> (ExceptT.mk selected : Attempt Choice)) (selects.trans selects')
    · rw [Attempt.adapt_id]
      simp only [Folding.contribution, Folding.under, Visit.under, seen, Judge.within, visit]
      cases (context.judge depth).reduce task member right with
      | none => rfl
      | some result => cases result <;> rfl
  calc folding.foldAll = (folding.under seen).foldAll :=
        ExceptT.ext ((Folding.inquires_foldAll admits).congr fun q same => same).symm
    _ = _ := by rw [agrees.foldAll, Attempt.adapt_id]

theorem reduceSettled_alike (task : Reduction) :
    context.reduceSettled (context.judge depth) task f left =
      (fun reduced => { reduced with scope := left }) <$> context.reduceSettled (context.judge depth) task f right := by
  unfold reduceSettled
  dsimp only
  rw [foldAll_alike static ignores alike own]
  split
  · rfl
  · split <;> simp only [map_bind, map_pure]

theorem reduced_alike (task : Reduction) : Reduced.Alike (context.reduceSettled (context.judge depth) task f left).run
    (context.reduceSettled (context.judge depth) task f right).run := by
  rw [reduceSettled_alike static ignores alike own, ExceptT.run_map]
  cases answer : (context.reduceSettled (context.judge depth) task f right).run with
  | none => exact .declined
  | some result =>
    cases result with
    | error violation => exact .failed
    | ok reduced =>
      obtain ⟨inner, -⟩ := reduceSettled_eq_ok answer
      obtain ⟨folded, scope, choice⟩ := reduced
      obtain rfl : scope = right := inner
      exact .reduced alike

theorem validateStep_alike (data : Json) (p : Pointer) :
    context.validateStep (context.judge depth) f data p left = context.validateStep (context.judge depth) f data p right := by
  have entered := alike.enterAt f p
  by_cases checking : right.isChecking f.location p = true
  · rw [validateStep, validateStep, alike, checking]
    rfl
  · have free : right.isChecking f.location p = false := by simpa using checking
    have free' : left.isChecking f.location p = false := (alike _ _).trans free
    cases inside : context.inside? f (right.enterAt f p) with
    | none =>
      obtain ⟨reference, unresolved⟩ := exists_unresolved inside
      rw [validateStep_of_unresolved free unresolved,
        validateStep_of_unresolved free' (static.guides_checksAlike.unresolved entered own unresolved)]
    | some found =>
      obtain ⟨target, inner⟩ := found
      obtain ⟨inner', inside', within⟩ := static.guides_checksAlike.inside? entered own inside
      rw [validateStep_of_inside? free inside, validateStep_of_inside? free' inside']
      exact validateSettled_alike static ignores within (static.inside? own inside) data p

theorem reduceStep_alike (task : Reduction) : Reduced.Alike (context.reduceStep (context.judge depth) task f left)
    (context.reduceStep (context.judge depth) task f right) := by
  have entered := alike.enter f
  cases inside : context.inside? f (right.enter f) with
  | none =>
    obtain ⟨reference, unresolved⟩ := exists_unresolved inside
    rw [reduceStep_of_unresolved unresolved,
      reduceStep_of_unresolved (static.guides_checksAlike.unresolved entered own unresolved)]
    exact .failed
  | some found =>
    obtain ⟨target, inner⟩ := found
    obtain ⟨inner', inside', within⟩ := static.guides_checksAlike.inside? entered own inside
    rw [reduceStep_of_inside? inside, reduceStep_of_inside? inside']
    exact reduced_alike static ignores within (static.inside? own inside) task

end

/-- Where nothing refers dynamically, only what is being checked matters in a scope. -/
theorem judge_ignoresScope (static : context.Static) (depth : Nat) :
    (context.judge depth).IgnoresScope context.draft := by
  induction depth with
  | zero => exact ⟨fun _ _ _ _ _ => rfl, fun _ _ _ _ => .declined⟩
  | succ depth ih =>
    exact ⟨fun alike _ own => validateStep_alike static ih alike own,
      fun alike _ own => reduceStep_alike static ih alike own⟩

end Context
end JsonSchema
