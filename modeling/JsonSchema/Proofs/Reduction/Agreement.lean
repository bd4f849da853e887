import JsonSchema.Proofs.Attempt
import JsonSchema.Proofs.Compilation.Renumbered

/-!
# Foldings that come to the same

What a folding comes to depends on the names that are present in the data, on the members that are
selected and on what these contribute, not on the numbers of documents. The violations that two foldings
fail with are compared as each of them is seen.
-/

namespace JsonSchema.Folding

/-- Two foldings for data with the same names, whose checks and reductions of the members give the same, once
the violations are seen in some way on either side. The fragment on the left is that on the right where
documents have other numbers. -/
structure Follows {ε : Type} (σ : Nat → Nat) (f g : Violation → ε) (left right : Folding) : Prop where
  known : left.task.data.isSome = right.task.data.isSome
  draft : left.visit.context.draft = right.visit.context.draft
  fragment : left.visit.fragment = right.visit.fragment.renumber σ
  present : ∀ name, (left.visit.data.member? name).isSome = (right.visit.data.member? name).isSome
  accepts : ∀ member : Fragment, left.visit.accepts (member.renumber σ) = right.visit.accepts member
  selects : ExceptT.adapt f (Choice.index <$> (ExceptT.mk left.visit.selectOneOf : Attempt Choice)) =
    ExceptT.adapt g (Choice.index <$> (ExceptT.mk right.visit.selectOneOf : Attempt Choice))
  contributes : ∀ member : Fragment,
    ExceptT.adapt f (left.contribution (member.renumber σ)) = ExceptT.adapt g (right.contribution member)

/-- The member of `oneOf` at an index contributes, if there is one. -/
def foldAt (folding : Folding) (accumulated : Json) (index : Nat) : Attempt (Json × Option Nat) :=
  match (folding.visit.fragment.members .oneOf)[index]? with
  | some member => do return (← folding.absorb accumulated member, some index)
  | none => return (accumulated, some index)

theorem fold_oneOf (folding : Folding) (accumulated : Json) (choice : Option Nat) :
    folding.fold accumulated choice .oneOf =
      (Choice.index <$> (ExceptT.mk folding.visit.selectOneOf : Attempt Choice)) >>= folding.foldAt accumulated := by
  rw [bind_map_left]
  rfl

namespace Follows

open Fragment

variable {ε : Type} {σ : Nat → Nat} {f g : Violation → ε} {left right : Folding} (same : left.Follows σ f g right)
include same

theorem absorb (accumulated : Json) (member : Fragment) :
    ExceptT.adapt f (left.absorb accumulated (member.renumber σ)) = ExceptT.adapt g (right.absorb accumulated member) := by
  rw [Folding.absorb, Folding.absorb, Attempt.adapt_bind, Attempt.adapt_bind, same.contributes]
  rfl

theorem absorbDemand (accumulated : Json) (demand : Demand) :
    ExceptT.adapt f (left.absorbDemand accumulated (demand.renumber σ)) =
      ExceptT.adapt g (right.absorbDemand accumulated demand) := by
  cases demand with
  | names names => rfl
  | schema member => exact same.absorb accumulated member

theorem foldAt (accumulated : Json) (index : Nat) :
    ExceptT.adapt f (left.foldAt accumulated index) = ExceptT.adapt g (right.foldAt accumulated index) := by
  unfold Folding.foldAt
  rw [same.fragment, members_renumber, List.getElem?_map]
  cases (right.visit.fragment.members .oneOf)[index]? with
  | none => rfl
  | some member =>
    dsimp only [Option.map_some]
    rw [Attempt.adapt_bind, Attempt.adapt_bind, same.absorb]
    rfl

theorem isTriggered (accumulated : Json) (name : String) :
    Reduction.isTriggered left.visit.data accumulated name = Reduction.isTriggered right.visit.data accumulated name := by
  rw [Reduction.isTriggered, Reduction.isTriggered, same.present]

/-- A pass leaves the same dependencies over. -/
theorem dependencyPass (waiting : List Dependency) (accumulated : Json) :
    ExceptT.adapt f (left.dependencyPass (waiting.map (Dependency.renumber σ)) accumulated) =
      (fun state => (state.1.map (Dependency.renumber σ), state.2)) <$>
        ExceptT.adapt g (right.dependencyPass waiting accumulated) := by
  rw [Folding.dependencyPass, Folding.dependencyPass]
  refine Attempt.adapt_foldlM_map (Dependency.renumber σ) (fun state => (state.1.map (Dependency.renumber σ), state.2))
    (fun ⟨rest, accumulated⟩ dependency => ?_) ([], accumulated) waiting
  dsimp only
  rw [same.isTriggered, show (dependency.renumber σ).property = dependency.property from rfl]
  split
  · rw [Attempt.adapt_bind, Attempt.adapt_bind, map_bind]
    exact congrArg₂ bind (same.absorbDemand accumulated dependency.demand) rfl
  · rw [← List.map_singleton, ← List.map_append]
    rfl

theorem foldDependencies (passes : Nat) (waiting : List Dependency) (accumulated : Json) :
    ExceptT.adapt f (left.foldDependencies passes (waiting.map (Dependency.renumber σ)) accumulated) =
      ExceptT.adapt g (right.foldDependencies passes waiting accumulated) := by
  induction passes generalizing waiting accumulated with
  | zero => rfl
  | succ passes ih =>
    rw [Folding.foldDependencies, Folding.foldDependencies, Attempt.adapt_bind, Attempt.adapt_bind,
      same.dependencyPass, bind_map_left]
    congr 1
    funext ⟨rest, next⟩
    dsimp only
    rw [List.length_map, List.length_map]
    split
    · rfl
    · exact ih rest next

theorem branch? : ExceptT.adapt f left.branch? = Option.map (renumber σ) <$> ExceptT.adapt g right.branch? := by
  unfold Folding.branch?
  rw [same.fragment, condition?_renumber, consequence?_renumber, alternative?_renumber]
  cases right.visit.fragment.condition? with
  | none => rfl
  | some condition =>
    dsimp only [Option.map_some]
    rw [same.accepts, Attempt.adapt_bind, Attempt.adapt_bind, Attempt.adapt_lift, Attempt.adapt_lift, map_bind]
    congr 1
    funext holds
    cases holds <;> rfl

/-- The members of a composition are absorbed one after the other, some of them only. -/
theorem absorbEach {step step' : Json → Fragment → Attempt Json}
    (each : ∀ accumulated member,
      ExceptT.adapt f (step accumulated (member.renumber σ)) = ExceptT.adapt g (step' accumulated member))
    (accumulated : Json) (keyword : Keyword) :
    ExceptT.adapt f ((left.visit.fragment.members keyword).foldlM step accumulated) =
      ExceptT.adapt g ((right.visit.fragment.members keyword).foldlM step' accumulated) := by
  rw [same.fragment, members_renumber]
  exact (Attempt.adapt_foldlM_map (renumber σ) id (fun accumulated member => by
    rw [id_map]
    exact each accumulated member) accumulated _).trans (id_map _)

theorem fold (accumulated : Json) (choice : Option Nat) (reducer : Reducer) :
    ExceptT.adapt f (left.fold accumulated choice reducer) = ExceptT.adapt g (right.fold accumulated choice reducer) := by
  cases reducer with
  | allOf =>
    rw [Folding.fold, Folding.fold, Attempt.adapt_bind, Attempt.adapt_bind, same.absorbEach same.absorb]
    rfl
  | anyOf =>
    rw [Folding.fold, Folding.fold, Attempt.adapt_bind, Attempt.adapt_bind, same.absorbEach fun accumulated member => ?_]
    · rfl
    · rw [same.accepts, Attempt.adapt_bind, Attempt.adapt_bind, Attempt.adapt_lift, Attempt.adapt_lift]
      congr 1
      funext holds
      split
      · exact same.absorb accumulated member
      · rfl
  | oneOf =>
    rw [fold_oneOf, fold_oneOf, Attempt.adapt_bind, Attempt.adapt_bind, same.selects]
    congr 1
    funext index
    exact same.foldAt accumulated index
  | dependencies =>
    simp only [Folding.fold, same.fragment, same.draft, dependencies_renumber, List.length_map, Attempt.adapt_bind,
      same.foldDependencies]
    rfl
  | conditional =>
    rw [Folding.fold, Folding.fold, Attempt.adapt_bind, Attempt.adapt_bind, same.branch?, bind_map_left]
    congr 1
    funext branch?
    cases branch? with
    | none => rfl
    | some branch =>
      dsimp only [Option.map_some]
      rw [Attempt.adapt_bind, Attempt.adapt_bind, same.absorb]
      rfl

/-- Foldings that follow one another come to the same. -/
theorem foldAll : ExceptT.adapt f left.foldAll = ExceptT.adapt g right.foldAll := by
  have dynamic : left.task.isDynamic = right.task.isDynamic := by
    funext name
    rw [Reduction.isDynamic, Reduction.isDynamic, same.known]
  simp only [Folding.foldAll, Reduction.staticPart, dynamic, same.known, same.draft, same.fragment, schema_renumber,
    reducers_renumber, Attempt.adapt_foldlM, same.fold]

end Follows

/-- Two foldings of one fragment for data with the same names, whose checks and reductions of its
members give the same, once the violations are seen in some way on either side. -/
structure Matches {ε : Type} (f g : Violation → ε) (left right : Folding) : Prop where
  known : left.task.data.isSome = right.task.data.isSome
  context : left.visit.context = right.visit.context
  fragment : left.visit.fragment = right.visit.fragment
  present : ∀ name, (left.visit.data.member? name).isSome = (right.visit.data.member? name).isSome
  accepts : left.visit.accepts = right.visit.accepts
  selects : ExceptT.adapt f (Choice.index <$> (ExceptT.mk left.visit.selectOneOf : Attempt Choice)) =
    ExceptT.adapt g (Choice.index <$> (ExceptT.mk right.visit.selectOneOf : Attempt Choice))
  contributes : ∀ member, ExceptT.adapt f (left.contribution member) = ExceptT.adapt g (right.contribution member)

theorem Matches.follows {ε : Type} {f g : Violation → ε} {left right : Folding} (same : left.Matches f g right) :
    left.Follows id f g right where
  known := same.known
  draft := by rw [same.context]
  fragment := by rw [Fragment.renumber_id, same.fragment]
  present := same.present
  accepts member := by rw [Fragment.renumber_id, same.accepts]
  selects := same.selects
  contributes member := by rw [Fragment.renumber_id, same.contributes]

/-- Foldings that match come to the same. -/
theorem Matches.foldAll {ε : Type} {f g : Violation → ε} {left right : Folding} (same : left.Matches f g right) :
    ExceptT.adapt f left.foldAll = ExceptT.adapt g right.foldAll := same.follows.foldAll

/-- Two foldings of one fragment, whose checks and reductions of its members give the same, up to a
change of the violations. -/
structure Agrees (change : Violation → Violation) (left right : Folding) : Prop where
  known : left.task.data = right.task.data
  context : left.visit.context = right.visit.context
  fragment : left.visit.fragment = right.visit.fragment
  data : left.visit.data = right.visit.data
  accepts : left.visit.accepts = right.visit.accepts
  selects : Choice.index <$> (ExceptT.mk left.visit.selectOneOf : Attempt Choice) =
    ExceptT.adapt change (Choice.index <$> (ExceptT.mk right.visit.selectOneOf : Attempt Choice))
  contributes : ∀ member, left.contribution member = ExceptT.adapt change (right.contribution member)

theorem Agrees.matches {change : Violation → Violation} {left right : Folding} (agrees : left.Agrees change right) :
    left.Matches id change right where
  known := congrArg Option.isSome agrees.known
  context := agrees.context
  fragment := agrees.fragment
  present name := by rw [agrees.data]
  accepts := agrees.accepts
  selects := (Attempt.adapt_id _).trans agrees.selects
  contributes member := (Attempt.adapt_id _).trans (agrees.contributes member)

/-- Foldings that agree come to the same. -/
theorem Agrees.foldAll {change : Violation → Violation} {left right : Folding} (agrees : left.Agrees change right) :
    left.foldAll = ExceptT.adapt change right.foldAll :=
  (Attempt.adapt_id _).symm.trans agrees.matches.foldAll

end JsonSchema.Folding
