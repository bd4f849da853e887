import JsonSchema.Check.Judgement

/-!
# Inquiries

A check or a reduction puts inquiries to its judge, each of which is the check or the reduction
of another fragment. Which inquiries these are can be told from the outside: they are the ones
whose answers the result rests on. The inquiries are put one after the other, so a computation
without a result is stuck at the first one that its judge declines.
-/

namespace JsonSchema

/-- What a check or a reduction may ask of a judge. -/
inductive Inquiry where
  | check (fragment : Fragment) (data : Json) (pointer : Pointer) (scope : Scope)
  | reduction (task : Reduction) (fragment : Fragment) (scope : Scope)

/-- The scope that an inquiry is put in. -/
def Inquiry.scope : Inquiry → Scope
  | .check _ _ _ scope => scope
  | .reduction _ _ scope => scope

/-- The answer to an inquiry. -/
inductive Verdict where
  | violations (found : List Violation)
  | reduced (result : Except Violation Reduced)

namespace Judge

/-- The answer of a judge, unless it declines. -/
def answer (judge : Judge) : Inquiry → Option Verdict
  | .check fragment data pointer scope => (judge.validate fragment data pointer scope).map .violations
  | .reduction task fragment scope => (judge.reduce task fragment scope).map .reduced

theorem answer_check {judge : Judge} {fragment : Fragment} {data : Json} {pointer : Pointer} {scope : Scope}
    {found : List Violation} : judge.answer (.check fragment data pointer scope) = some (.violations found) ↔
      judge.validate fragment data pointer scope = some found := by
  simp [answer]

theorem answer_reduction {judge : Judge} {task : Reduction} {fragment : Fragment} {scope : Scope}
    {result : Except Violation Reduced} : judge.answer (.reduction task fragment scope) = some (.reduced result) ↔
      judge.reduce task fragment scope = some result := by
  simp [answer]

/-- A judge gives every answer that another one gives. -/
def Extends (judge other : Judge) : Prop :=
  ∀ q verdict, other.answer q = some verdict → judge.answer q = some verdict

end Judge

/-- The answers to some inquiries settle what a computation comes to. -/
structure Asks {α : Type} (f : Judge → Option α) (judge : Judge) (asked : List Inquiry) : Prop where
  answered : ∀ q ∈ asked, judge.answer q ≠ none
  settled : ∀ other : Judge, (∀ q ∈ asked, other.answer q = judge.answer q) → f other = f judge

/-- A computation asks for inquiries with the property `P` only. A result rests on the answers to a
list of them, and where there is no result one of them was declined, without which no judge
that answers more comes to a result either. -/
structure Inquires {α : Type} (P : Inquiry → Prop) (f : Judge → Option α) : Prop where
  asks : ∀ judge, f judge ≠ none → ∃ asked, (∀ q ∈ asked, P q) ∧ Asks f judge asked
  stuck : ∀ judge, f judge = none → ∃ q, P q ∧ judge.answer q = none ∧
    ∀ other : Judge, other.Extends judge → other.answer q = none → f other = none

theorem Asks.extended {α : Type} {f : Judge → Option α} {judge other : Judge} {asked : List Inquiry}
    (asks : Asks f judge asked) (more : other.Extends judge) : f other = f judge := by
  refine asks.settled other fun q member => ?_
  obtain ⟨verdict, given⟩ := Option.ne_none_iff_exists'.mp (asks.answered q member)
  rw [given]
  exact more q verdict given

namespace Inquires

variable {α β : Type} {P Q : Inquiry → Prop}

/-- Judges that agree on all that is asked lead to the same result. -/
theorem congr {f : Judge → Option α} (inquires : Inquires P f) {judge other : Judge}
    (same : ∀ q, P q → other.answer q = judge.answer q) : f other = f judge := by
  have carried {first second : Judge} (agree : ∀ q, P q → second.answer q = first.answer q)
      (result : f first ≠ none) : f second = f first := by
    obtain ⟨asked, kept, asks⟩ := inquires.asks first result
    exact asks.settled second fun q member => agree q (kept q member)
  by_cases result : f judge = none
  · by_cases given : f other = none
    · rw [result, given]
    · exact (carried (fun q kept => (same q kept).symm) given).symm
  · exact carried same result

/-! ## Computations without inquiries -/

/-- A result that is the same for all judges. -/
theorem unasked {f : Judge → Option α} (same : ∀ judge other, f other = f judge)
    (result : ∀ judge, f judge ≠ none) : Inquires P f := by
  refine ⟨fun judge _ => ⟨[], by simp, ?_⟩, fun judge none => absurd none (result judge)⟩
  exact ⟨by simp, fun other _ => same judge other⟩

theorem always (result : α) : Inquires P fun _ => some result :=
  unasked (fun _ _ => rfl) fun _ => by simp

/-! ## Single inquiries -/

theorem single {f : Judge → Option α} (q : Inquiry) (kept : P q)
    (declines : ∀ judge : Judge, f judge = none ↔ judge.answer q = none)
    (agrees : ∀ judge other : Judge, other.answer q = judge.answer q → f other = f judge) :
    Inquires P f := by
  constructor
  · intro judge result
    refine ⟨[q], by simpa using kept, ?_, ?_⟩
    · intro asked member
      rw [List.mem_singleton.mp member]
      exact fun none => result ((declines judge).mpr none)
    · intro other same
      exact agrees judge other (same q (List.mem_singleton_self q))
  · intro judge none
    exact ⟨q, kept, (declines judge).mp none, fun other _ declined => (declines other).mpr declined⟩

theorem validate (fragment : Fragment) (data : Json) (pointer : Pointer) (scope : Scope)
    (kept : P (.check fragment data pointer scope)) :
    Inquires P fun judge => judge.validate fragment data pointer scope := by
  refine single _ kept (fun judge => by simp [Judge.answer]) fun judge other same => ?_
  have injective : Function.Injective Verdict.violations := fun _ _ equal => by cases equal; rfl
  exact Option.map_injective injective same

theorem reduce (task : Reduction) (fragment : Fragment) (scope : Scope)
    (kept : P (.reduction task fragment scope)) :
    Inquires P fun judge => judge.reduce task fragment scope := by
  refine single _ kept (fun judge => by simp [Judge.answer]) fun judge other same => ?_
  have injective : Function.Injective Verdict.reduced := fun _ _ equal => by cases equal; rfl
  exact Option.map_injective injective same

/-! ## Computations one after the other -/

/-- The second computation may rely on what the first one can come to. -/
theorem bindOf {f : Judge → Option α} {g : α → Judge → Option β} (first : Inquires P f)
    (later : ∀ a, (∃ judge, f judge = some a) → Inquires P (g a)) :
    Inquires P fun judge => (f judge).bind fun a => g a judge := by
  constructor
  · intro judge result
    cases computed : f judge with
    | none => simp [computed] at result
    | some a =>
      simp only [computed, Option.bind_some] at result
      obtain ⟨asked, kept, asks⟩ := first.asks judge (by simp [computed])
      obtain ⟨asked', kept', asks'⟩ := (later a ⟨judge, computed⟩).asks judge result
      refine ⟨asked ++ asked', ?_, ?_, ?_⟩
      · intro q member
        exact (List.mem_append.mp member).elim (kept q) (kept' q)
      · intro q member
        exact (List.mem_append.mp member).elim (asks.answered q) (asks'.answered q)
      · intro other same
        have head := asks.settled other fun q member => same q (List.mem_append_left _ member)
        have tail := asks'.settled other fun q member => same q (List.mem_append_right _ member)
        simp only [head, computed, Option.bind_some, tail]
  · intro judge none
    cases computed : f judge with
    | none =>
      obtain ⟨q, kept, declined, blocks⟩ := first.stuck judge computed
      refine ⟨q, kept, declined, fun other more still => ?_⟩
      simp only [blocks other more still, Option.bind_none]
    | some a =>
      simp only [computed, Option.bind_some] at none
      obtain ⟨q, kept, declined, blocks⟩ := (later a ⟨judge, computed⟩).stuck judge none
      refine ⟨q, kept, declined, fun other more still => ?_⟩
      -- a judge that answers more takes the first computation to the same point
      obtain ⟨asked, -, asks⟩ := first.asks judge (by simp [computed])
      simp only [asks.extended more, computed, Option.bind_some, blocks other more still]

theorem bind {f : Judge → Option α} {g : α → Judge → Option β} (first : Inquires P f)
    (later : ∀ a, Inquires P (g a)) : Inquires P fun judge => (f judge).bind fun a => g a judge :=
  first.bindOf fun a _ => later a

theorem map {f : Judge → Option α} (g : α → β) (inner : Inquires P f) :
    Inquires P fun judge => (f judge).map g := by
  simpa only [Option.map_eq_bind, Function.comp_def] using inner.bind fun a => always (g a)

theorem mono {f : Judge → Option α} (weaker : ∀ q, P q → Q q) (inner : Inquires P f) : Inquires Q f := by
  constructor
  · intro judge result
    obtain ⟨asked, kept, asks⟩ := inner.asks judge result
    exact ⟨asked, fun q member => weaker q (kept q member), asks⟩
  · intro judge none
    obtain ⟨q, kept, declined, blocks⟩ := inner.stuck judge none
    exact ⟨q, weaker q kept, declined, blocks⟩

/-! ## Lists of computations -/

theorem mapM {items : List α} {check : Judge → α → Option β}
    (each : ∀ item ∈ items, Inquires P fun judge => check judge item) :
    Inquires P fun judge => items.mapM (check judge) := by
  induction items with
  | nil => exact always []
  | cons item rest ih =>
    simp only [List.mapM_cons]
    refine bind (each item (by simp)) fun b => ?_
    exact bind (ih fun item member => each item (by simp [member])) fun bs => always (b :: bs)

theorem gather {items : List α} {check : Judge → α → Option (List Violation)}
    (each : ∀ item ∈ items, Inquires P fun judge => check judge item) :
    Inquires P fun judge => JsonSchema.gather items (check judge) :=
  (mapM each).map List.flatten

/-! ## Attempts -/

/-- A violation ends an attempt without further inquiries. -/
theorem attemptOf {f : Judge → Attempt α} {g : α → Judge → Attempt β}
    (first : Inquires P fun judge => (f judge).run)
    (later : ∀ a, (∃ judge, (f judge).run = some (.ok a)) → Inquires P fun judge => (g a judge).run) :
    Inquires P fun judge => (f judge >>= fun a => g a judge).run := by
  have whole : Inquires P fun judge => (f judge).run.bind fun result =>
      (ExceptT.bindCont (fun a => g a judge) result : Option (Except Violation β)) :=
    first.bindOf fun result possible => by
      cases result with
      | ok a => exact later a possible
      | error violation => exact always (Except.error violation)
  exact whole

theorem attempt {f : Judge → Attempt α} {g : α → Judge → Attempt β}
    (first : Inquires P fun judge => (f judge).run) (later : ∀ a, Inquires P fun judge => (g a judge).run) :
    Inquires P fun judge => (f judge >>= fun a => g a judge).run :=
  attemptOf first fun a _ => later a

theorem foldlM {items : List α} {step : Judge → β → α → Attempt β}
    (each : ∀ item ∈ items, ∀ b, Inquires P fun judge => (step judge b item).run) (start : β) :
    Inquires P fun judge => (items.foldlM (step judge) start).run := by
  induction items generalizing start with
  | nil => exact always (Except.ok start)
  | cons item rest ih =>
    simp only [List.foldlM_cons]
    refine attempt (each item (by simp) start) fun b => ?_
    exact ih (fun item member => each item (by simp [member])) b

end Inquires
end JsonSchema
