import JsonSchema.Proofs.Check.Composition
import JsonSchema.Proofs.Check.Relocation
import JsonSchema.Proofs.Check.Reports
import JsonSchema.Proofs.Recursion.Displacement
import JsonSchema.Proofs.Reduction.Composed
import JsonSchema.Proofs.Reduction.FixedPoint
import JsonSchema.Proofs.Reference.Easing

/-!
# The member of `oneOf` that is selected

Checking and reducing a fragment select a member of `oneOf` in different scopes: while data are checked
the fragment itself is being checked, while it is reduced it is not. The members answer alike in both
where none of the schemas that are asked at the same place stands at the location of the fragment.
-/

namespace JsonSchema

/-! ## The only member -/

/-- A position is the only one whose member satisfies `p`. -/
def OnlyAt {α : Type} (members : List α) (p : α → Option Bool) (index : Nat) : Prop :=
  ∀ i, (∃ member, members[i]? = some member ∧ p member = some true) ↔ i = index

/-- Each of a list of answers is that to the question at the same position. -/
theorem exists_of_mapM {α β : Type} {f : α → Option β} {xs : List α} {ys : List β} (answered : xs.mapM f = some ys)
    {index : Nat} {y : β} (there : ys[index]? = some y) : ∃ x, xs[index]? = some x ∧ f x = some y := by
  induction xs generalizing ys index with
  | nil =>
    cases answered
    cases there
  | cons first rest ih =>
    rw [List.mapM_cons] at answered
    obtain ⟨y', own, answered⟩ := Option.bind_eq_some_iff.mp answered
    obtain ⟨ys', later, same⟩ := Option.bind_eq_some_iff.mp answered
    cases same
    cases index with
    | zero =>
      cases there
      exact ⟨first, rfl, own⟩
    | succ index => exact ih later there

/-- If the verdicts hold at one position only, the members do. -/
theorem onlyAt_of_verdicts {α : Type} {members : List α} {p : α → Option Bool} {verdicts : List Bool} {index : Nat}
    (answered : members.mapM p = some verdicts)
    (only : (verdicts.zipIdx.filter Prod.fst).map Prod.snd = [index]) : OnlyAt members p index := by
  have holds (i : Nat) : verdicts[i]? = some true ↔ i = index := by
    have listed : i ∈ (verdicts.zipIdx.filter Prod.fst).map Prod.snd ↔ verdicts[i]? = some true := by
      simp [List.mk_mem_zipIdx_iff_getElem?]
    rw [← listed, only, List.mem_singleton]
  intro i
  rw [← holds]
  constructor
  · rintro ⟨member, listed, accepted⟩
    rw [← getElem?_of_mapM answered listed, accepted]
  · exact fun accepted => exists_of_mapM answered accepted

namespace Visit

variable {visit : Visit} {index : Nat}

/-- A position is that of the member of `oneOf` that the value selects: the only one that accepts it, or
the only one whose schema for the discriminating property accepts the value of that property. -/
def Selects (visit : Visit) (index : Nat) : Prop :=
  match visit.fragment.discriminator? with
  | some name => ∃ value, visit.data.member? name = some value ∧
      OnlyAt (visit.fragment.members .oneOf) (visit.discriminates name value) index
  | none => OnlyAt (visit.fragment.members .oneOf) visit.accepts index

theorem onlyAt_of_selectByProperty {name : String} {choice : Choice}
    (chosen : visit.selectByProperty name = some (.ok choice)) :
    ∃ value, visit.data.member? name = some value ∧
      OnlyAt (visit.fragment.members .oneOf) (visit.discriminates name value) choice.index := by
  unfold selectByProperty at chosen
  cases found : visit.data.member? name with
  | none =>
    rw [found] at chosen
    cases chosen
  | some value =>
    rw [found] at chosen
    obtain ⟨positions, only, chosen⟩ := Option.bind_eq_some_iff.mp chosen
    obtain ⟨verdicts, answered, same⟩ := Option.bind_eq_some_iff.mp only
    cases same
    refine ⟨value, rfl, onlyAt_of_verdicts answered ?_⟩
    split at chosen
    · cases chosen
    · rename_i index only
      rw [only]
      cases member : (visit.fragment.members .oneOf)[index]? with
      | none =>
        rw [member] at chosen
        cases chosen
        rfl
      | some member' =>
        rw [member] at chosen
        obtain ⟨found, -, same⟩ := Option.bind_eq_some_iff.mp chosen
        cases same
        rfl
    · cases chosen

theorem onlyAt_of_selectByValue {choice : Choice} (chosen : visit.selectByValue = some (.ok choice)) :
    OnlyAt (visit.fragment.members .oneOf) visit.accepts choice.index := by
  obtain ⟨failures, answered, chosen⟩ := Option.bind_eq_some_iff.mp chosen
  have verdicts : (visit.fragment.members .oneOf).mapM visit.accepts = some (failures.map List.isEmpty) := by
    unfold accepts
    rw [← map_mapM, answered]
    rfl
  refine onlyAt_of_verdicts verdicts ?_
  have positions : ((failures.map List.isEmpty).zipIdx.filter Prod.fst).map Prod.snd =
      (failures.zipIdx.filter fun entry => entry.1.isEmpty).map Prod.snd := by
    rw [List.zipIdx_map, List.filter_map, List.map_map]
    rfl
  rw [positions]
  split at chosen
  · cases chosen
  · rename_i only
    cases chosen
    exact only
  · cases chosen

theorem selects_of_selectOneOf {choice : Choice} (chosen : visit.selectOneOf = some (.ok choice)) :
    visit.Selects choice.index := by
  unfold Selects
  unfold selectOneOf at chosen
  cases named : visit.fragment.discriminator? with
  | some name =>
    rw [named] at chosen
    exact onlyAt_of_selectByProperty chosen
  | none =>
    rw [named] at chosen
    exact onlyAt_of_selectByValue chosen

theorem Selects.exists_member (selects : visit.Selects index) :
    ∃ member, (visit.fragment.members .oneOf)[index]? = some member := by
  unfold Selects at selects
  split at selects
  · obtain ⟨value, -, only⟩ := selects
    obtain ⟨member, listed, -⟩ := (only index).mpr rfl
    exact ⟨member, listed⟩
  · obtain ⟨member, listed, -⟩ := (selects index).mpr rfl
    exact ⟨member, listed⟩

end Visit

/-! ## Scopes of the same fragments -/

/-- What is being checked in a scope is checked at one place. -/
def Scope.ChecksAt (p : Pointer) (scope : Scope) : Prop :=
  ∀ frame ∈ scope, frame.instance? = none ∨ frame.instance? = some p

/-- Two scopes of the same fragments, all checked at one place, and alike except at one location. -/
structure Scope.AlikeBut (p : Pointer) (location : String) (left right : Scope) : Prop where
  same : left.unmarked = right.unmarked
  marks : left.ChecksAt p
  marks' : right.ChecksAt p
  checking : ∀ other, other ≠ location → left.isChecking other p = right.isChecking other p

namespace Scope

variable {p : Pointer} {location : String} {scope left right : Scope}

theorem outermostFirst_unmarked (scope : Scope) : scope.unmarked.outermostFirst = scope.outermostFirst :=
  (unmarked_eases scope).outermostFirst

theorem ChecksAt.not_isChecking (checks : scope.ChecksAt p) (location : String) {q : Pointer} (other : q ≠ p) :
    scope.isChecking location q = false := by
  rw [isChecking, List.any_eq_false]
  intro frame inside checked
  obtain ⟨instance?, -⟩ := Bool.and_eq_true_iff.mp checked
  rcases checks frame inside with free | here
  · simp [free] at instance?
  · rw [here] at instance?
    exact other (Option.some.inj (of_decide_eq_true instance?)).symm

/-- Below the place nothing is being checked. -/
theorem ChecksAt.moves (checks : scope.ChecksAt p) (segment : String) : scope.unmarked.Moves (p.join segment) scope := by
  refine ⟨fun find => by rw [bases, bases, outermostFirst_unmarked], fun location q => ?_⟩
  rw [(idle_unmarked scope).not_isChecking, checks.not_isChecking]
  intro same
  have longer := congrArg (fun q : Pointer => q.segments.length) same
  change (p.segments ++ [segment] ++ q.segments).length = p.segments.length at longer
  simp only [List.length_append, List.length_singleton] at longer
  omega

theorem ChecksAt.enterAt (checks : scope.ChecksAt p) (fragment : Fragment) : (scope.enterAt fragment p).ChecksAt p :=
  List.forall_mem_cons.mpr ⟨.inr rfl, checks⟩

theorem AlikeBut.enterAt (alike : left.AlikeBut p location right) (fragment : Fragment) :
    (left.enterAt fragment p).AlikeBut p location (right.enterAt fragment p) where
  same := congrArg (_ :: ·) alike.same
  marks := alike.marks.enterAt fragment
  marks' := alike.marks'.enterAt fragment
  checking other apart := by
    have checking := alike.checking other apart
    simp only [isChecking, Scope.enterAt, List.any_cons] at checking ⊢
    rw [checking]

/-- Outside the location of a fragment it does not matter whether the fragment is being checked. -/
theorem Idle.alikeBut (idle : scope.Idle) (fragment : Fragment) (p : Pointer) :
    (scope.enter fragment).AlikeBut p fragment.location (scope.enterAt fragment p) where
  same := rfl
  marks := List.forall_mem_cons.mpr ⟨.inl rfl, fun frame inside => .inl (idle frame inside)⟩
  marks' := List.forall_mem_cons.mpr ⟨.inr rfl, fun frame inside => .inl (idle frame inside)⟩
  checking other apart := by
    simp [isChecking, Scope.enter, Scope.enterAt, apart.symm]

end Scope

/-! ## Members that stand elsewhere -/

/-- A schema without reference and composition that does not stand at a location, and neither does what it
negates: all that is asked about a value at the place where the schema is checked. -/
inductive Fragment.Apart (draft : Draft) (location : String) : Fragment → Prop where
  | intro {f : Fragment} (rests : f.Rests draft) (elsewhere : f.location ≠ location)
      (negated : ∀ c, f.not? = some c → Apart draft location c) : Apart draft location f

namespace Fragment

variable {draft : Draft} {f c : Fragment}

theorem Apart.rests {location : String} (apart : f.Apart draft location) : f.Rests draft := by
  obtain ⟨rests, -⟩ := apart
  exact rests

theorem Rests.not_has (rests : f.Rests draft) (reducer : Reducer) : f.has draft reducer = false := by
  by_contra has
  have listed : reducer ∈ f.reducers draft :=
    List.mem_filter.mpr ⟨by cases reducer <;> decide, by simpa using has⟩
  rw [rests.2] at listed
  cases listed

/-- Without composition only a negation asks about the value itself. -/
theorem Rests.negated (rests : f.Rests draft) (here : f.ChecksHere draft c) : f.not? = some c := by
  have members (reducer : Reducer) := rests.not_has reducer
  cases here with
  | negated own => exact own
  | allOf own => 
    have none := members .allOf
    simp only [has, Bool.not_eq_false', List.isEmpty_iff] at none
    rw [none] at own
    cases own
  | anyOf own =>
    have none := members .anyOf
    simp only [has, Bool.not_eq_false', List.isEmpty_iff] at none
    rw [none] at own
    cases own
  | oneOf own =>
    have none := members .oneOf
    simp only [has, Bool.not_eq_false', List.isEmpty_iff] at none
    rw [none] at own
    cases own
  | dependency own =>
    have none := members .dependencies
    simp only [has, Bool.not_eq_false', List.isEmpty_iff] at none
    rw [none] at own
    cases own
  | conditional own =>
    have none := members .conditional
    simp only [has, Bool.or_eq_false_iff, Option.isSome_eq_false_iff, Option.isNone_iff_eq_none] at none
    rcases own with own | own | own
    · rw [none.1.1] at own
      cases own
    · rw [none.1.2] at own
      cases own
    · rw [none.2] at own
      cases own

/-- What is accumulated, with the member of `oneOf` at a position merged into it. -/
def withMember (f : Fragment) (accumulated : Json) (index : Nat) : Json :=
  match (f.members .oneOf)[index]? with
  | some member => merge accumulated (rebase member.site.base member.schema)
  | none => accumulated

end Fragment

namespace Context

variable {context : Context} {fragment : Fragment} {p : Pointer} {location : String} {left right scope : Scope}
  {depth : Nat} {data : Json}

/-- Parts of the value are checked alike. -/
theorem validate_below (alike : left.AlikeBut p location right) (depth : Nat) (fragment : Fragment) (value : Json)
    (segment : String) : (context.judge depth).validate fragment value (p.join segment) left =
      (context.judge depth).validate fragment value (p.join segment) right := by
  have moves := context.judge_moves (p.join segment) depth
  have first := moves.validate (alike.marks.moves segment) fragment value .root
  have second := moves.validate (alike.marks'.moves segment) fragment value .root
  rw [Pointer.append_root] at first second
  rw [first, second, alike.same]

/-- A schema that stands elsewhere, with what it negates, is checked alike. -/
theorem validate_apart (apart : fragment.Apart context.draft location) (alike : left.AlikeBut p location right) :
    (context.judge depth).validate fragment data p left = (context.judge depth).validate fragment data p right := by
  induction depth generalizing fragment left right with
  | zero => rfl
  | succ depth ih =>
    obtain ⟨rests, elsewhere, negated⟩ := apart
    have entered := alike.enterAt fragment
    have agrees : (Visit.mk context (context.judge depth) fragment data p (right.enterAt fragment p)).Agrees
        (left.enterAt fragment p) := by
      have none (member : Fragment) (listed : member ∈ fragment.members .oneOf) : False := by
        have := rests.not_has .oneOf
        simp only [Fragment.has, Bool.not_eq_false', List.isEmpty_iff] at this
        rw [this] at listed
        cases listed
      refine ⟨⟨fun member listed => (none member listed).elim, fun member listed => (none member listed).elim,
        fun member listed => (none member listed).elim⟩, fun c here => ?_, fun c _ value segment => ?_, fun _ => ?_,
        fun _ shape _ c _ value segment => ?_⟩
      · exact ih (negated c (rests.negated here)) entered
      · exact validate_below entered depth c value segment
      · cases depth with
        | zero => rfl
        | succ depth =>
          unfold Visit.evaluatedShape
          simp only [Visit.inScope, reduce_of_rests rests (Nat.succ_pos _)]
          rfl
      · exact validate_below entered depth c value segment
    change context.validateStep (context.judge depth) fragment data p left =
      context.validateStep (context.judge depth) fragment data p right
    unfold validateStep
    rw [alike.checking _ elsewhere]
    split
    · rfl
    · simp only [resolve_eq_plain.mpr rests.1]
      exact validateSettled_inScope agrees

/-- The member of `oneOf` that data select does not depend on whether the fragment is being checked. -/
theorem selectOneOf_apart (members : ∀ member ∈ fragment.members .oneOf, member.Apart context.draft fragment.location)
    (idle : scope.Idle) :
    (Visit.mk context (context.judge depth) fragment data p (scope.enter fragment)).selectOneOf =
      (Visit.mk context (context.judge depth) fragment data p (scope.enterAt fragment p)).selectOneOf := by
  have alike := idle.alikeBut fragment p
  have selects : (Visit.mk context (context.judge depth) fragment data p (scope.enterAt fragment p)).SelectsAlike
      (scope.enter fragment) := by
    refine ⟨fun member listed => ?_, fun member listed => validate_apart (members member listed) alike,
      fun member _ c value segment _ => validate_below alike depth c value segment⟩
    simp only [settle, resolve_eq_plain.mpr (members member listed).rests.1]
  exact selects.selectOneOf

/-! ## What reduction comes to -/

/-- A fold merges a member that rests as it is. -/
theorem absorb_of_rests {folding : Folding} {member : Fragment} (rests : member.Rests folding.visit.context.draft)
    (judge : folding.visit.judge = folding.visit.context.judge depth) (deep : 0 < depth) (accumulated : Json) :
    folding.absorb accumulated member = pure (merge accumulated (rebase member.site.base member.schema)) := by
  unfold Folding.absorb Folding.contribution
  rw [judge, reduce_of_rests rests deep]
  rfl

/-- Folding `oneOf` fails as the selection does, and else merges the member at the position that is selected. -/
theorem fold_oneOf {folding : Folding} (judge : folding.visit.judge = folding.visit.context.judge depth) (deep : 0 < depth)
    (members : ∀ member ∈ folding.visit.fragment.members .oneOf, member.Rests folding.visit.context.draft)
    (accumulated : Json) (choice : Option Nat) :
    folding.fold accumulated choice .oneOf = ExceptT.mk (folding.visit.selectOneOf.map (Except.map fun selected =>
      (folding.visit.fragment.withMember accumulated selected.index, some selected.index))) := by
  have tail (index : Nat) : (match (folding.visit.fragment.members .oneOf)[index]? with
      | some member => do return (← folding.absorb accumulated member, some index)
      | none => return (accumulated, some index) : Attempt (Json × Option Nat)) =
      pure (folding.visit.fragment.withMember accumulated index, some index) := by
    unfold Fragment.withMember
    cases there : (folding.visit.fragment.members .oneOf)[index]? with
    | none => rfl
    | some member =>
      dsimp only
      rw [absorb_of_rests (members member (List.mem_of_getElem? there)) judge deep]
      rfl
  unfold Folding.fold
  cases folding.visit.selectOneOf with
  | none => rfl
  | some selected =>
    cases selected with
    | error violation => rfl
    | ok selected => exact tail selected.index

/-- Reducing a fragment with `oneOf` alone selects a member, merges it and compiles what comes out. -/
theorem reduce_oneOf (unreferring : fragment.reference? context.draft = none)
    (only : fragment.reducers context.draft = [.oneOf])
    (members : ∀ member ∈ fragment.members .oneOf, member.Rests context.draft) (deep : 0 < depth) :
    (context.judge (depth + 1)).reduce ⟨some data, p, []⟩ fragment scope =
      ((Visit.mk context (context.judge depth) fragment data p (scope.enter fragment)).selectOneOf.map
        fun selected => do
          let choice ← selected
          let task : Reduction := ⟨some data, p, []⟩
          let folded ← task.compile context.draft fragment
            (fragment.withMember (task.staticPart fragment.schema) choice.index)
          return ⟨folded, scope.enter fragment, some choice.index⟩) := by
  change context.reduceStep (context.judge depth) _ fragment scope = _
  rw [reduceStep_of_inside? (inside?_of_settled unreferring)]
  have work : (⟨some data, p, []⟩ : Reduction).hasWork context.draft fragment = true := by
    simp [Reduction.hasWork, only]
  unfold reduceSettled Folding.foldAll
  simp only [work, only, Bool.not_true, Bool.false_eq_true, if_false, List.contains_nil, Option.isSome_some,
    Bool.true_or, List.filter_cons, List.filter_nil, if_true, List.foldlM_cons, List.foldlM_nil]
  rw [fold_oneOf rfl deep members]
  simp only [Reduction.value, Json.ofOption, Option.getD_some]
  cases (Visit.mk context (context.judge depth) fragment data p (scope.enter fragment)).selectOneOf with
  | none => rfl
  | some selected =>
    cases selected with
    | error violation => rfl
    | ok choice =>
      have ends (compiled : Except Violation Fragment) :
          (do return ⟨← ExceptT.mk (some compiled), scope.enter fragment, some choice.index⟩ : Attempt Reduced).run =
            some (do return ⟨← compiled, scope.enter fragment, some choice.index⟩) := by
        cases compiled <;> rfl
      exact ends _

end Context

end JsonSchema
