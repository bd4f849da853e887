import JsonSchema.Proofs.Recursion.Easing
import JsonSchema.Proofs.Reduction.Composed
import JsonSchema.Proofs.Reduction.Folding

/-!
# Reduction of data that are accepted

For data that a fragment accepts, reduction adds only what the validator has checked as well: every
member that is folded accepts the data, and every name that is demanded is present. So what holds of
all fragments that accept the data, and is kept by merging, holds of the reduced fragment. The only
violation that can end the reduction is that a merged schema does not compile.
-/

namespace JsonSchema

/-! ## The selected member in another scope -/

theorem Visit.selectOneOf_extends {visit : Visit} {judge other : Judge} (more : other.Extends judge)
    {result : Except Violation Choice} (selects : (visit.under judge).selectOneOf = some result) :
    (visit.under other).selectOneOf = some result := by
  have inquires : Inquires (fun _ => True) fun judge => (visit.under judge).selectOneOf :=
    Visit.inquires_selectOneOf fun _ _ _ _ _ => trivial
  obtain ⟨asked, -, asks⟩ := inquires.asks judge (by simp [selects])
  rw [← selects]
  exact asks.extended more

namespace Context

variable {context : Context} {q : Inquiry} {data : Json} {Q : Json → Prop}

/-- A fragment accepts the data in a scope in which at least as much is being checked. -/
def AcceptedNear (context : Context) (data : Json) (pointer : Pointer) (fragment : Fragment) (scope : Scope) : Prop :=
  ∃ marked, scope.Eases marked ∧ context.Unwinds (.check fragment data pointer marked) ∧
    context.limit.validate fragment data pointer marked = some []

/-- A reduction for the data comes to a fragment without reference, which stands for one that accepts them. -/
inductive Reduces (context : Context) (q : Inquiry) (data : Json) : Reduction → Fragment → Prop where
  | intro {task : Reduction} {fragment target : Fragment} {scope inner : Scope}
      (leads : context.Leads q (.reduction task fragment scope)) (given : task.data = some data)
      (near : context.AcceptedNear data task.pointer fragment scope)
      (inside : context.inside? fragment (scope.enter fragment) = some (target, inner))
      (compiled : target.IsCompiled context.draft) : Reduces context q data task target

theorem Reduces.compiled {task : Reduction} {target : Fragment} (reduces : context.Reduces q data task target) :
    target.IsCompiled context.draft := by
  cases reduces
  assumption

/-- A property of schemas that folding keeps, and that those it starts from have. -/
structure Inherits (context : Context) (q : Inquiry) (data : Json) (Q : Json → Prop) : Prop where
  idle : ∀ task target, context.Reduces q data task target → task.hasWork context.draft target = false → Q target.schema
  static : ∀ task target, context.Reduces q data task target → Q (task.staticPart target.schema)
  names : ∀ names : List String, (∀ name ∈ names, (data.member? name).isSome = true) →
    Q (.obj [("required", .ofStrings names)])
  rebased : ∀ base schema, Q schema → Q (rebase base schema)
  merged : ∀ a b, Q a → Q b → Q (merge a b)

/-- Dependencies of a fragment apply to the data only if their property is present. -/
def FiresOnPresence (context : Context) (data : Json) (Q : Json → Prop) (target : Fragment) : Prop :=
  ∀ dependency ∈ target.dependencies context.draft, ∀ accumulated, Q accumulated →
    Reduction.isTriggered data accumulated dependency.property = true →
    (data.member? dependency.property).isSome = true

/-! ## One fragment -/

/-- A reduction and a check that have come to the same fragment, which accepts the data. -/
structure Alongside (context : Context) (reduction check : Inquiry) (target : Fragment) (data : Json) (pointer : Pointer)
    (scope marked : Scope) : Prop where
  reduces : context.Unwinds reduction
  checks : context.Unwinds check
  eases : scope.Eases marked
  inside : ∀ r, context.Needs check r → r.scope = marked
  composed : (Visit.mk context (context.needed check) target data pointer marked).Composed

/-- What folding may add for the data: names that are present, and schemas that accept the data. -/
def Backed (context : Context) (data : Json) (pointer : Pointer) (scope : Scope) : Demand → Prop
  | .names names => ∀ name ∈ names, (data.member? name).isSome = true
  | .schema member => context.AcceptedNear data pointer member scope

namespace Alongside

variable {reduction check : Inquiry} {target : Fragment} {pointer : Pointer} {scope marked : Scope}

theorem accepted (alongside : context.Alongside reduction check target data pointer scope marked) {member : Fragment}
    (checked : (Visit.mk context (context.needed check) target data pointer marked).validateHere member = some []) :
    context.AcceptedNear data pointer member scope := by
  obtain ⟨unwinds, accepted⟩ := alongside.checks.validate_of_needed checked
  exact ⟨marked, alongside.eases, unwinds, accepted⟩

/-- The condition of a conditional is decided in the same way. -/
theorem decided (alongside : context.Alongside reduction check target data pointer scope marked) {condition : Fragment}
    {holds holds' : Bool}
    (decides : (Visit.mk context (context.needed reduction) target data pointer scope).accepts condition = some holds)
    (decides' : (Visit.mk context (context.needed check) target data pointer marked).accepts condition = some holds') :
    holds = holds' := by
  obtain ⟨found, answer, rfl⟩ := Option.map_eq_some_iff.mp decides
  obtain ⟨found', answer', rfl⟩ := Option.map_eq_some_iff.mp decides'
  obtain ⟨-, answer⟩ := alongside.reduces.validate_of_needed answer
  obtain ⟨unwinds, answer'⟩ := alongside.checks.validate_of_needed answer'
  have eased := unwinds.validate_eased alongside.eases answer'
  rw [Option.some.inj (answer.symm.trans eased)]

/-- The same member of `oneOf` is selected. -/
theorem selected (alongside : context.Alongside reduction check target data pointer scope marked)
    {result result' : Except Violation Choice}
    (selects : (Visit.mk context (context.needed reduction) target data pointer scope).selectOneOf = some result)
    (selects' : (Visit.mk context (context.needed check) target data pointer marked).selectOneOf = some result') :
    result = result' := by
  have known : context.limit.Extends (context.needed reduction) :=
    fun r verdict given => ((needed_answer_eq_some context).mp given).2
  have seen : (context.limitWithin scope).Extends (context.needed check) :=
    context.limitWithin_extends alongside.eases alongside.inside fun r needs r' verdict eases given =>
      (alongside.checks.of_needs needs).answer_eased eases given
  have first := @Visit.selectOneOf_extends ⟨context, context.limit, target, data, pointer, scope⟩ _ _ known _ selects
  have second := @Visit.selectOneOf_extends ⟨context, context.limit, target, data, pointer, marked⟩ _ _ seen _ selects'
  change (Visit.mk context (context.limitWithin scope) target data pointer marked).selectOneOf = _ at second
  rw [limitWithin, Visit.selectOneOf_within alongside.eases] at second
  exact Option.some.inj (first.symm.trans second)

/-- Everything that folding adds has been checked. -/
theorem backed (alongside : context.Alongside reduction check target data pointer scope marked)
    (fires : context.FiresOnPresence data Q target) {task : Reduction} {accumulated : Json} {demand : Demand}
    (holds : Q accumulated)
    (adds : Folding.Adds ⟨task, ⟨context, context.needed reduction, target, data, pointer, scope⟩⟩ accumulated demand) :
    context.Backed data pointer scope demand := by
  cases adds with
  | allOf listed => exact alongside.accepted (alongside.composed.allOf _ listed)
  | anyOf listed accepts =>
    obtain ⟨unwinds, accepted⟩ := alongside.reduces.validate_of_needed (Visit.accepts_eq_true.mp accepts)
    exact ⟨scope, .refl scope, unwinds, accepted⟩
  | oneOf chosen listed =>
    obtain ⟨selected, selects, accepts⟩ := alongside.composed.oneOf (List.ne_nil_of_mem (List.mem_of_getElem? listed))
    cases alongside.selected chosen selects
    exact alongside.accepted (accepts _ listed)
  | @dependency dependency listed triggered =>
    have supplied := alongside.composed.dependency dependency listed (fires dependency listed accumulated holds triggered)
    cases demand : dependency.demand with
    | names names =>
      rw [demand] at supplied
      exact supplied
    | schema member =>
      rw [demand] at supplied
      exact alongside.accepted supplied
  | @branch condition branch holds conditional decides taken =>
    have occurs : target.consequence? = some branch ∨ target.alternative? = some branch := by
      cases holds with
      | true => exact .inl taken
      | false => exact .inr taken
    obtain ⟨holds', decides', accepts⟩ := alongside.composed.branch condition branch conditional occurs
    obtain rfl := alongside.decided decides decides'
    exact alongside.accepted (accepts branch taken)

/-- The demands of a folding are backed, so every addition keeps `Q`; it fails only with its member. -/
theorem keeps (alongside : context.Alongside reduction check target data pointer scope marked)
    (inherits : context.Inherits q data Q) (fires : context.FiresOnPresence data Q target) {E : Violation → Prop}
    {task : Reduction} (members : ∀ member, target.HasChild member → context.AcceptedNear data pointer member scope →
      Attempt.Ends (fun reduced : Reduced => Q reduced.fragment.schema) E
        (ExceptT.mk ((context.needed reduction).reduce task member scope))) :
    Folding.Keeps ⟨task, ⟨context, context.needed reduction, target, data, pointer, scope⟩⟩ Q E where
  added := by
    intro accumulated demand adds holds
    have backed := alongside.backed fires holds adds
    cases demand with
    | names names => exact .pure (inherits.merged _ _ holds (inherits.names names backed))
    | schema member =>
      have contributes : Attempt.Ends Q E
          (Folding.mk task ⟨context, context.needed reduction, target, data, pointer, scope⟩ |>.contribution member) :=
        .bind (members member adds.hasChild backed) fun reduced kept => .pure (inherits.rebased _ _ kept)
      exact .bind contributes fun addition kept => .pure (inherits.merged _ _ holds kept)
  selected := by
    intro some violation fails
    obtain ⟨selected, selects, -⟩ := alongside.composed.oneOf some
    cases alongside.selected fails selects

end Alongside

/-! ## The whole reduction -/

/-- A check that accepts has come to a fragment without reference, which accepts for every judge that gives the
answers that are needed. -/
theorem Unwinds.inside_of_accepted {fragment : Fragment} {pointer : Pointer} {marked : Scope}
    (unwinds : context.Unwinds (.check fragment data pointer marked))
    (accepted : context.limit.validate fragment data pointer marked = some []) : ∃ target inner,
      context.inside? fragment (marked.enterAt fragment pointer) = some (target, inner) ∧
      ∀ judge : Judge, judge.Extends (context.needed (.check fragment data pointer marked)) →
        context.validateSettled judge target data pointer inner = some [] := by
  have free : marked.isChecking fragment.location pointer = false := by simpa [Inquiry.IsCut] using unwinds.uncut
  have given : context.limit.answer (.check fragment data pointer marked) = some (.violations []) :=
    congrArg (Option.map _) accepted
  have told (judge : Judge) (more : judge.Extends (context.needed (.check fragment data pointer marked))) :
      context.validateStep judge fragment data pointer marked = some [] := by
    obtain ⟨found, answer, same⟩ :=
      Option.map_eq_some_iff.mp (context.stepJudge_extends more _ _ (context.answer_of_needed given))
    cases same
    exact answer
  cases inside : context.inside? fragment (marked.enterAt fragment pointer) with
  | none =>
    obtain ⟨reference, unresolved⟩ := exists_unresolved inside
    have refused := told _ fun _ _ given => given
    rw [validateStep_of_unresolved free unresolved] at refused
    cases refused
  | some found =>
    obtain ⟨target, inner⟩ := found
    refine ⟨target, inner, rfl, fun judge more => ?_⟩
    rw [← validateStep_of_inside? free inside]
    exact told judge more

/-- What a fragment that accepts the data stands for accepts them from the inside, where nothing is being checked. -/
theorem AcceptedNear.settled {pointer : Pointer} {fragment target : Fragment} {scope inner : Scope}
    (near : context.AcceptedNear data pointer fragment scope)
    (inside : context.inside? fragment (scope.enter fragment) = some (target, inner)) : ∃ quiet : Scope,
      quiet.Idle ∧ context.validateSettled context.limit target data pointer quiet = some [] := by
  obtain ⟨marked, eases, unwinds, accepted⟩ := near
  obtain ⟨target', inner', inside', told⟩ := unwinds.inside_of_accepted accepted
  obtain ⟨eased, again, -⟩ := context.guides_eases.inside? (eases.enter_enterAt fragment pointer) inside'
  cases again.symm.trans inside
  refine ⟨inner'.unmarked, inner'.idle_unmarked, ?_⟩
  rw [← @validateSettled_within context _ _ _ inner'.unmarked_eases]
  refine told _ (context.limitWithin_extends inner'.unmarked_eases (fun r => scope_of_needs_check inside') ?_)
  exact fun r needs r' verdict eases given => (unwinds.of_needs needs).answer_eased eases given

/-- What a fragment that accepts the data is reduced to has what all fragments that accept them have, and
nothing but a merged schema that is refused ends the reduction. -/
theorem ends_reduction_unless_refused (inherits : context.Inherits q data Q)
    (known : context.index.WellCompiled context.draft)
    (fires : ∀ task fragment scope, context.Leads q (.reduction task fragment scope) →
      context.FiresOnPresence data Q (context.settle fragment (scope.enter fragment)))
    {E : Violation → Prop} (refused : ∀ schema, Q schema → ∀ (task : Reduction) target violation,
      task.compile context.draft target schema = .error violation → E violation)
    {r : Inquiry} (unwinds : context.Unwinds r) (leads : context.Leads q r) {task : Reduction} {fragment : Fragment}
    {scope : Scope} (same : r = .reduction task fragment scope) (given : task.data = some data)
    (compiled : fragment.IsCompiled context.draft) (entered : scope.IsCompiled context.draft)
    (accepted : context.AcceptedNear data task.pointer fragment scope) :
    Attempt.Ends (fun reduced : Reduced => Q reduced.fragment.schema) E
      (ExceptT.mk (context.limit.reduce task fragment scope)) := by
  induction unwinds generalizing task fragment scope with
  | @intro r uncut needs ih =>
    subst same
    have near := accepted
    obtain ⟨marked, eases, unwinds', accepted⟩ := accepted
    obtain ⟨target, inner, inside, told⟩ := unwinds'.inside_of_accepted accepted
    obtain ⟨inner', inside', eases'⟩ := context.guides_eases.inside? (eases.enter_enterAt fragment task.pointer) inside
    have chain := chain_of_inside? inside'
    obtain ⟨found, enters⟩ := chain.isCompiled known compiled (List.forall_mem_cons.mpr ⟨compiled, entered⟩)
    have alongside : context.Alongside (.reduction task fragment scope) (.check fragment data task.pointer marked)
        target data task.pointer inner' inner :=
      ⟨.intro uncut needs, unwinds', eases', fun r => scope_of_needs_check inside,
        Visit.composed_of_accepted found (told _ fun _ _ given => given)⟩
    have reduces : context.Reduces q data task target := .intro leads given near inside' found
    have start := inherits.static task target reduces
    have own := fires task fragment scope leads
    rw [settle_eq_of_inside? inside'] at own
    have value : task.value = data := by rw [Reduction.value, given]; rfl
    intro end' answer
    have answer : context.limit.answer (.reduction task fragment scope) = some (.reduced end') :=
      congrArg (Option.map _) answer
    obtain ⟨end'', steps, equal⟩ := Option.map_eq_some_iff.mp (context.answer_of_needed answer)
    obtain rfl : end'' = end' := Verdict.reduced.inj equal
    have steps : context.reduceStep (context.needed _) task fragment scope = some end'' := steps
    rw [reduceStep_of_inside? inside'] at steps
    refine ends_reduceSettled (fun schema kept => refused schema kept task target) (inherits.idle task target reduces)
      (fun _ => start)
      (fun work free => Folding.ends_foldAll ?_ start) end'' steps
    rw [folding, value]
    refine alongside.keeps inherits own fun member child near end' answer => ?_
    obtain ⟨needed, answer⟩ := reduce_of_needed answer
    exact ih _ needed (leads.tail needed) rfl given (found.child child) enters near end' answer

/-- What is refused does not compile. -/
theorem ends_reduction (inherits : context.Inherits q data Q) (known : context.index.WellCompiled context.draft)
    (fires : ∀ task fragment scope, context.Leads q (.reduction task fragment scope) →
      context.FiresOnPresence data Q (context.settle fragment (scope.enter fragment)))
    {r : Inquiry} (unwinds : context.Unwinds r) (leads : context.Leads q r) {task : Reduction} {fragment : Fragment}
    {scope : Scope} (same : r = .reduction task fragment scope) (given : task.data = some data)
    (compiled : fragment.IsCompiled context.draft) (entered : scope.IsCompiled context.draft)
    (accepted : context.AcceptedNear data task.pointer fragment scope) :
    Attempt.Ends (fun reduced : Reduced => Q reduced.fragment.schema) (fun violation => violation.code = .invalidSchema)
      (ExceptT.mk (context.limit.reduce task fragment scope)) :=
  ends_reduction_unless_refused inherits known fires (fun _ _ _ _ _ => Reduction.code_of_compile) unwinds leads same given
    compiled entered accepted

end Context
end JsonSchema
