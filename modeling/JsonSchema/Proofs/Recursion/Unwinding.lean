import JsonSchema.Proofs.Recursion.Termination

/-!
# Recursion that unwinds

As long as references form no cycle, a check never comes back to a place where it is still going on,
and everything it leads to comes to an end. Such an inquiry is answered from the answers to what it
needs, and what holds of all it needs can be carried up to it.
-/

namespace JsonSchema

/-- The same check is going on already. -/
def Inquiry.IsCut : Inquiry → Prop
  | .check fragment _ pointer scope => scope.isChecking fragment.location pointer = true
  | .reduction .. => False

namespace Context

variable (context : Context)

/-- Nothing that an inquiry leads to is cut, and all of it has an end. -/
inductive Unwinds : Inquiry → Prop where
  | intro {q : Inquiry} (uncut : ¬ q.IsCut) (needs : ∀ r, context.Needs q r → Unwinds r) : Unwinds q

variable {context} in
/-- An inquiry that unwinds ends. -/
theorem Unwinds.finishes {q : Inquiry} (unwinds : context.Unwinds q) : context.Finishes q := by
  induction unwinds with
  | intro _ _ ih =>
    by_contra endless
    obtain ⟨needed, needs, endless'⟩ := context.endless_needs endless
    exact endless' (ih needed needs)

/-- The limit, as far as an inquiry needs it. -/
noncomputable def needed (q : Inquiry) : Judge :=
  open Classical in
  ⟨fun fragment data pointer scope =>
      if context.Needs q (.check fragment data pointer scope) then context.limit.validate fragment data pointer scope
      else none,
    fun task fragment scope =>
      if context.Needs q (.reduction task fragment scope) then context.limit.reduce task fragment scope
      else none⟩

theorem needed_answer_eq_some {q r : Inquiry} {verdict : Verdict} :
    (context.needed q).answer r = some verdict ↔ context.Needs q r ∧ context.limit.answer r = some verdict := by
  cases r with
  | check fragment data pointer scope =>
    by_cases needs : context.Needs q (.check fragment data pointer scope) <;> simp [needed, Judge.answer, needs]
  | reduction task fragment scope =>
    by_cases needs : context.Needs q (.reduction task fragment scope) <;> simp [needed, Judge.answer, needs]

/-- The answers to what an inquiry needs are enough to answer it. -/
theorem answer_of_needed {q : Inquiry} {verdict : Verdict} (given : context.limit.answer q = some verdict) :
    (context.stepJudge (context.needed q)).answer q = some verdict := by
  have extends' : context.limit.Extends (context.needed q) :=
    fun r verdict given => ((needed_answer_eq_some context).mp given).2
  rw [← stepJudge_limit_eq] at given
  cases answer : (context.stepJudge (context.needed q)).answer q with
  | some verdict' =>
    rw [← given]
    exact (context.stepJudge_extends extends' q verdict' answer).symm
  | none =>
    obtain ⟨r, -, declined, blocks⟩ := (context.inquires_stepJudge q).stuck _ answer
    cases known : context.limit.answer r with
    | none =>
      rw [blocks _ extends' known] at given
      cases given
    | some found =>
      -- whoever lacks the answer that blocks still has all others that are needed
      have needs : context.Needs q r := by
        intro judge lacks
        refine blocks judge (fun other verdict kept => ?_) lacks.declined
        obtain ⟨-, given⟩ := (needed_answer_eq_some context).mp kept
        obtain ⟨depth, given⟩ := (limit_answer_eq_some context).mp given
        refine lacks.others other ?_ depth verdict given
        rintro rfl
        rw [declined] at kept
        cases kept
      rw [(needed_answer_eq_some context).mpr ⟨needs, known⟩] at declined
      cases declined

variable {context}

theorem Unwinds.of_needs {q r : Inquiry} (unwinds : context.Unwinds q) (needs : context.Needs q r) : context.Unwinds r := by
  cases unwinds with
  | intro _ below => exact below r needs

theorem Unwinds.uncut {q : Inquiry} (unwinds : context.Unwinds q) : ¬ q.IsCut := by
  cases unwinds with
  | intro uncut _ => exact uncut

/-- The checks that an inquiry needs unwind with it. -/
theorem Unwinds.validate_of_needed {q : Inquiry} (unwinds : context.Unwinds q) {fragment : Fragment} {data : Json}
    {pointer : Pointer} {scope : Scope} {found : List Violation}
    (answer : (context.needed q).validate fragment data pointer scope = some found) :
    context.Unwinds (.check fragment data pointer scope) ∧
      context.limit.validate fragment data pointer scope = some found := by
  have given : (context.needed q).answer (.check fragment data pointer scope) = some (.violations found) :=
    congrArg (Option.map _) answer
  obtain ⟨needs, given⟩ := (needed_answer_eq_some context).mp given
  obtain ⟨found', same, equal⟩ := Option.map_eq_some_iff.mp given
  exact ⟨unwinds.of_needs needs, Verdict.violations.inj equal ▸ same⟩

theorem reduce_of_needed {q : Inquiry} {task : Reduction} {fragment : Fragment} {scope : Scope}
    {result : Except Violation Reduced} (answer : (context.needed q).reduce task fragment scope = some result) :
    context.Needs q (.reduction task fragment scope) ∧ context.limit.reduce task fragment scope = some result := by
  have given : (context.needed q).answer (.reduction task fragment scope) = some (.reduced result) :=
    congrArg (Option.map _) answer
  obtain ⟨needs, given⟩ := (needed_answer_eq_some context).mp given
  obtain ⟨result', same, equal⟩ := Option.map_eq_some_iff.mp given
  exact ⟨needs, Verdict.reduced.inj equal ▸ same⟩

end Context
end JsonSchema
