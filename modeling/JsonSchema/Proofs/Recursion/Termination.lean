import JsonSchema.Proofs.Recursion.Steps
import Mathlib.Data.Set.Finite.Lattice
import Mathlib.Data.Finset.Card
import Mathlib.Data.Prod.Lex
import Mathlib.Logic.Relation

/-!
# When the recursion ends

An inquiry ends if it is answered at some depth. The recursion is cut at locations only: those
being checked against one place of the data, and those being reduced. So it ends exactly if the
inquiries it leads to are about finitely many locations.
-/

namespace JsonSchema

namespace Judge

/-- The judge that declines one inquiry and answers all others as before. -/
noncomputable def without (judge : Judge) (declined : Inquiry) : Judge :=
  open Classical in
  ⟨fun fragment data pointer scope =>
      if Inquiry.check fragment data pointer scope = declined then none
      else judge.validate fragment data pointer scope,
    fun task fragment scope =>
      if Inquiry.reduction task fragment scope = declined then none
      else judge.reduce task fragment scope⟩

theorem answer_without_self (judge : Judge) (q : Inquiry) : (judge.without q).answer q = none := by
  cases q <;> simp [answer, without]

theorem answer_without_of_ne (judge : Judge) {q declined : Inquiry} (other : q ≠ declined) :
    (judge.without declined).answer q = judge.answer q := by
  cases q <;> simp [answer, without, other]

end Judge

/-! ## More depth -/

namespace Context

variable (context : Context)

/-- An inquiry is answered at some depth. -/
def Finishes (q : Inquiry) : Prop := ∃ depth, (context.judge depth).answer q ≠ none

theorem answer_judge_zero (q : Inquiry) : (context.judge 0).answer q = none := by
  cases q <;> rfl

/-- Judges that agree wherever one of them has an answer do so after one step more. -/
theorem stepJudge_extends {judge other : Judge} (more : other.Extends judge) :
    (context.stepJudge other).Extends (context.stepJudge judge) := by
  intro q verdict given
  obtain ⟨asked, -, asks⟩ := (context.inquires_stepJudge q).asks judge (by simp [given])
  rw [← given]
  exact asks.extended more

theorem judge_succ_extends (depth : Nat) : (context.judge (depth + 1)).Extends (context.judge depth) := by
  induction depth with
  | zero =>
    intro q verdict given
    rw [answer_judge_zero] at given
    cases given
  | succ depth ih => exact context.stepJudge_extends ih

/-- What is answered at one depth is answered in the same way at all greater ones. -/
theorem judge_extends {depth deeper : Nat} (le : depth ≤ deeper) :
    (context.judge deeper).Extends (context.judge depth) := by
  induction le with
  | refl => exact fun _ _ given => given
  | step _ ih => exact fun q verdict given => context.judge_succ_extends _ q verdict (ih q verdict given)

theorem answer_unique {depth depth' : Nat} {q : Inquiry} {verdict verdict' : Verdict}
    (given : (context.judge depth).answer q = some verdict)
    (given' : (context.judge depth').answer q = some verdict') : verdict = verdict' := by
  have first := context.judge_extends (Nat.le_max_left depth depth') q verdict given
  have second := context.judge_extends (Nat.le_max_right depth depth') q verdict' given'
  exact Option.some.inj (first.symm.trans second)

/-- One depth suffices for a list of inquiries that all end. -/
theorem common_depth {asked : List Inquiry} (finish : ∀ q ∈ asked, context.Finishes q) :
    ∃ depth, ∀ q ∈ asked, (context.judge depth).answer q ≠ none := by
  induction asked with
  | nil => exact ⟨0, by simp⟩
  | cons q rest ih =>
    obtain ⟨depth, first⟩ := finish q (by simp)
    obtain ⟨depth', others⟩ := ih fun q member => finish q (by simp [member])
    have kept {q : Inquiry} {small : Nat} (le : small ≤ max depth depth')
        (answered : (context.judge small).answer q ≠ none) :
        (context.judge (max depth depth')).answer q ≠ none := by
      obtain ⟨verdict, given⟩ := Option.ne_none_iff_exists'.mp answered
      simp [context.judge_extends le q verdict given]
    refine ⟨max depth depth', fun asked member => ?_⟩
    rcases List.mem_cons.mp member with rfl | later
    · exact kept (Nat.le_max_left _ _) first
    · exact kept (Nat.le_max_right _ _) (others asked later)

/-! ## Needs -/

/-- A judge gives all answers there are, but for one inquiry, which it declines. -/
structure Lacks (judge : Judge) (q : Inquiry) : Prop where
  declined : judge.answer q = none
  others : ∀ r ≠ q, ∀ depth verdict, (context.judge depth).answer r = some verdict →
    judge.answer r = some verdict

/-- An inquiry cannot be answered without the answer to another one. -/
def Needs (q needed : Inquiry) : Prop :=
  ∀ judge, context.Lacks judge needed → (context.stepJudge judge).answer q = none

/-- The judge that answers every inquiry that ends. -/
noncomputable def limit : Judge :=
  open Classical in
  ⟨fun fragment data pointer scope =>
      if ends : context.Finishes (.check fragment data pointer scope) then
        (context.judge ends.choose).validate fragment data pointer scope
      else none,
    fun task fragment scope =>
      if ends : context.Finishes (.reduction task fragment scope) then
        (context.judge ends.choose).reduce task fragment scope
      else none⟩

theorem limit_answer_eq_none {q : Inquiry} : context.limit.answer q = none ↔ ¬ context.Finishes q := by
  have given (ends : context.Finishes q) : (context.judge ends.choose).answer q ≠ none := ends.choose_spec
  cases q with
  | check fragment data pointer scope =>
    by_cases ends : context.Finishes (.check fragment data pointer scope)
    · simpa [limit, Judge.answer, ends] using given ends
    · simp [limit, Judge.answer, ends]
  | reduction task fragment scope =>
    by_cases ends : context.Finishes (.reduction task fragment scope)
    · simpa [limit, Judge.answer, ends] using given ends
    · simp [limit, Judge.answer, ends]

theorem limit_answer_eq_some {q : Inquiry} {verdict : Verdict} :
    context.limit.answer q = some verdict ↔ ∃ depth, (context.judge depth).answer q = some verdict := by
  have chosen (ends : context.Finishes q) :
      context.limit.answer q = (context.judge ends.choose).answer q := by
    cases q <;> simp [limit, Judge.answer, ends]
  constructor
  · intro given
    have ends : context.Finishes q := by
      by_contra endless
      rw [(limit_answer_eq_none context).mpr endless] at given
      cases given
    exact ⟨ends.choose, chosen ends ▸ given⟩
  · rintro ⟨depth, given⟩
    have ends : context.Finishes q := ⟨depth, by simp [given]⟩
    obtain ⟨verdict', given'⟩ := Option.ne_none_iff_exists'.mp ends.choose_spec
    rw [chosen ends, given', context.answer_unique given' given]

theorem lacks_limit_without (q : Inquiry) : context.Lacks (context.limit.without q) q := by
  refine ⟨Judge.answer_without_self _ q, fun r other depth verdict given => ?_⟩
  rw [Judge.answer_without_of_ne _ other]
  exact (limit_answer_eq_some context).mpr ⟨depth, given⟩

/-- The limit, with some answer to every inquiry that does not end. -/
noncomputable def filled : Judge :=
  ⟨fun fragment data pointer scope => some ((context.limit.validate fragment data pointer scope).getD []),
    fun task fragment scope =>
      some ((context.limit.reduce task fragment scope).getD (.ok ⟨fragment, scope, none⟩))⟩

theorem filled_extends_limit : context.filled.Extends context.limit := by
  intro q verdict given
  cases q with
  | check fragment data pointer scope =>
    obtain ⟨found, same, rfl⟩ := Option.map_eq_some_iff.mp given
    simp [filled, Judge.answer, same]
  | reduction task fragment scope =>
    obtain ⟨result, same, rfl⟩ := Option.map_eq_some_iff.mp given
    simp [filled, Judge.answer, same]

theorem filled_answers (q : Inquiry) : context.filled.answer q ≠ none := by
  cases q <;> simp [filled, Judge.answer]

/-- An inquiry needs only what its step may lead to. -/
theorem next_of_needs {q needed : Inquiry} (needs : context.Needs q needed) : context.Next q needed := by
  have lacks : context.Lacks (context.filled.without needed) needed := by
    refine ⟨Judge.answer_without_self _ needed, fun r other depth verdict given => ?_⟩
    rw [Judge.answer_without_of_ne _ other]
    exact context.filled_extends_limit r verdict ((limit_answer_eq_some context).mpr ⟨depth, given⟩)
  obtain ⟨r, next, declined, -⟩ := (context.inquires_stepJudge q).stuck _ (needs _ lacks)
  by_cases same : r = needed
  · exact same ▸ next
  · rw [Judge.answer_without_of_ne _ same] at declined
    exact absurd declined (context.filled_answers r)

/-- What is computed from the answers of the limit is computed at some depth. -/
theorem exists_depth_of_limit {α : Type} {P : Inquiry → Prop} {f : Judge → Option α} (inquires : Inquires P f) {result : α}
    (given : f context.limit = some result) : ∃ depth, f (context.judge depth) = some result := by
  obtain ⟨asked, -, asks⟩ := inquires.asks context.limit (by simp [given])
  have finish : ∀ r ∈ asked, context.Finishes r := by
    intro r member
    by_contra open'
    exact asks.answered r member ((limit_answer_eq_none context).mpr open')
  obtain ⟨depth, answered⟩ := context.common_depth finish
  refine ⟨depth, given ▸ asks.settled _ fun r member => ?_⟩
  obtain ⟨verdict, answer⟩ := Option.ne_none_iff_exists'.mp (answered r member)
  rw [answer, (limit_answer_eq_some context).mpr ⟨depth, answer⟩]

/-- The limit has nothing to gain from a further step. -/
theorem stepJudge_limit {q : Inquiry} (endless : ¬ context.Finishes q) :
    (context.stepJudge context.limit).answer q = none := by
  by_contra answered
  obtain ⟨verdict, given⟩ := Option.ne_none_iff_exists'.mp answered
  obtain ⟨depth, answer⟩ := context.exists_depth_of_limit (context.inquires_stepJudge q) given
  exact endless ⟨depth + 1, by simp [judge_succ, answer]⟩

/-- A further step gives the answers of the limit. -/
theorem stepJudge_limit_eq (q : Inquiry) : (context.stepJudge context.limit).answer q = context.limit.answer q := by
  cases given : context.limit.answer q with
  | none => exact context.stepJudge_limit ((limit_answer_eq_none context).mp given)
  | some verdict =>
    obtain ⟨depth, answer⟩ := (limit_answer_eq_some context).mp given
    cases depth with
    | zero =>
      rw [answer_judge_zero] at answer
      cases answer
    | succ depth =>
      rw [judge_succ] at answer
      exact context.stepJudge_extends (fun r verdict given => (limit_answer_eq_some context).mpr ⟨depth, given⟩)
        q verdict answer

/-- An inquiry that does not end needs another one that does not end. -/
theorem endless_needs {q : Inquiry} (endless : ¬ context.Finishes q) :
    ∃ needed, context.Needs q needed ∧ ¬ context.Finishes needed := by
  obtain ⟨needed, -, declined, blocks⟩ :=
    (context.inquires_stepJudge q).stuck context.limit (context.stepJudge_limit endless)
  refine ⟨needed, fun judge lacks => ?_, (limit_answer_eq_none context).mp declined⟩
  refine blocks judge (fun r verdict given => ?_) lacks.declined
  obtain ⟨depth, answer⟩ := (limit_answer_eq_some context).mp given
  refine lacks.others r ?_ depth verdict answer
  rintro rfl
  rw [declined] at given
  cases given

/-- What cannot be answered before another inquiry, which does not end, does not end. -/
theorem not_finishes_of_declined {q r : Inquiry} (endless : ¬ context.Finishes r)
    (blocks : ∀ judge : Judge, judge.answer r = none → (context.stepJudge judge).answer q = none) :
    ¬ context.Finishes q := by
  rintro ⟨depth, answered⟩
  cases depth with
  | zero => exact answered (context.answer_judge_zero q)
  | succ depth => exact answered (blocks _ (by_contra fun given => endless ⟨depth, given⟩))

/-- Inquiries that cannot be answered before others of the same kind are never answered. -/
theorem not_finishes_of_asks {P : Inquiry → Prop}
    (asks : ∀ q, P q → ∃ r, P r ∧ ∀ judge : Judge, judge.answer r = none → (context.stepJudge judge).answer q = none)
    {q : Inquiry} (held : P q) : ¬ context.Finishes q := by
  rintro ⟨depth, answered⟩
  induction depth generalizing q with
  | zero => exact answered (context.answer_judge_zero q)
  | succ depth ih =>
    obtain ⟨r, held', blocks⟩ := asks q held
    exact answered (blocks _ (by_contra fun given => ih held' given))

/-- What ends has asked for all that it needs, one level deeper. -/
theorem needs_of_answered {depth : Nat} {q : Inquiry} (answered : (context.judge (depth + 1)).answer q ≠ none) :
    ∃ asked : List Inquiry, (∀ r ∈ asked, (context.judge depth).answer r ≠ none) ∧
      ∀ needed, context.Needs q needed → needed ∈ asked := by
  obtain ⟨asked, -, asks⟩ := (context.inquires_stepJudge q).asks (context.judge depth) answered
  refine ⟨asked, asks.answered, fun needed needs => ?_⟩
  by_contra absent
  have same : (context.stepJudge (context.limit.without needed)).answer q =
      (context.judge (depth + 1)).answer q := by
    refine asks.settled _ fun r member => ?_
    obtain ⟨verdict, given⟩ := Option.ne_none_iff_exists'.mp (asks.answered r member)
    have other : r ≠ needed := fun same => absent (same ▸ member)
    rw [Judge.answer_without_of_ne _ other, given]
    exact (limit_answer_eq_some context).mpr ⟨depth, given⟩
  exact answered (same ▸ needs _ (context.lacks_limit_without needed))

/-! ## Locations -/

/-- The location at which an inquiry is cut when it comes again. -/
def guardLocation : Inquiry → String
  | .check fragment _ _ _ => fragment.location
  | .reduction _ fragment scope => (context.settle fragment (scope.enter fragment)).location

/-- An inquiry is led to by the needs of another one. -/
def Leads : Inquiry → Inquiry → Prop := Relation.ReflTransGen context.Needs

/-- What is answered leads to finitely many inquiries. -/
theorem finite_leads_of_answered {depth : Nat} {q : Inquiry} (answered : (context.judge depth).answer q ≠ none) :
    {r | context.Leads q r}.Finite := by
  induction depth generalizing q with
  | zero => exact absurd (context.answer_judge_zero q) answered
  | succ depth ih =>
    obtain ⟨asked, given, needs⟩ := context.needs_of_answered answered
    have below : (⋃ r ∈ {r | r ∈ asked}, {s | context.Leads r s}).Finite :=
      (List.finite_toSet asked).biUnion fun r member => ih (given r member)
    refine (below.insert q).subset fun s leads => ?_
    rcases Relation.ReflTransGen.cases_head leads with rfl | ⟨r, first, rest⟩
    · exact Set.mem_insert _ _
    · exact Set.mem_insert_of_mem _ (Set.mem_biUnion (needs r first) rest)

/-- The locations of a set that are not being checked against the data at a place. -/
def unchecked (locations : Finset String) (scope : Scope) (pointer : Pointer) : Finset String :=
  locations.filter fun location => scope.isChecking location pointer = false

/-- How far an inquiry can be from its end, if all locations on the way belong to a finite set: the
depth of the data, the locations not being checked against them, and those not being reduced. -/
def distance (locations : Finset String) : Inquiry → Nat ×ₗ Nat ×ₗ Nat
  | .check _ data pointer scope => toLex (data.depth, toLex ((unchecked locations scope pointer).card, 0))
  | .reduction task _ scope =>
    toLex (task.value.depth, toLex ((unchecked locations scope task.pointer).card,
      (locations.filter (· ∉ task.active)).card + 1))

variable {context} {locations : Finset String}

theorem unchecked_subset {scope inner : Scope} (inside : scope <:+ inner) (pointer : Pointer) :
    unchecked locations inner pointer ⊆ unchecked locations scope pointer := by
  intro location member
  obtain ⟨known, free⟩ := Finset.mem_filter.mp member
  refine Finset.mem_filter.mpr ⟨known, ?_⟩
  by_contra checking
  obtain ⟨frame, member, same⟩ := List.any_eq_true.mp (Bool.not_eq_false _ ▸ checking)
  have still : inner.isChecking location pointer = true :=
    List.any_eq_true.mpr ⟨frame, inside.subset member, same⟩
  rw [still] at free
  cases free

/-- A check takes its own location from those that are free. -/
theorem card_unchecked_enterAt {fragment : Fragment} {pointer : Pointer} {scope inner : Scope}
    (known : fragment.location ∈ locations) (free : scope.isChecking fragment.location pointer = false)
    (inside : scope.enterAt fragment pointer <:+ inner) :
    (unchecked locations inner pointer).card < (unchecked locations scope pointer).card := by
  refine Finset.card_lt_card (Finset.ssubset_iff_of_subset ?_ |>.mpr ⟨fragment.location, ?_, ?_⟩)
  · exact unchecked_subset ((List.suffix_cons _ _).trans inside) pointer
  · exact Finset.mem_filter.mpr ⟨known, free⟩
  · intro member
    obtain ⟨-, free⟩ := Finset.mem_filter.mp member
    have entered : inner.isChecking fragment.location pointer = true :=
      List.any_eq_true.mpr ⟨⟨fragment, some pointer⟩, inside.subset (List.mem_cons_self ..), by simp⟩
    rw [entered] at free
    cases free

theorem inside_suffix {fragment target : Fragment} {scope inner : Scope}
    (inside : context.inside? fragment scope = some (target, inner)) : scope <:+ inner :=
  (chain_of_inside? inside).scope

/-- Every step comes nearer to its end. -/
theorem distance_lt_of_next {q next : Inquiry} (known : context.guardLocation q ∈ locations)
    (leads : context.Next q next) : distance locations next < distance locations q := by
  cases q with
  | check fragment data pointer scope =>
    obtain ⟨free, target, inner, inside, step⟩ := leads
    have fewer := card_unchecked_enterAt known free (inside_suffix inside)
    cases next with
    | check child part place inner' =>
      obtain ⟨rfl, covers, -⟩ := step
      simp only [distance, Prod.Lex.toLex_lt_toLex]
      rcases covers with ⟨rfl, rfl⟩ | smaller
      · exact .inr ⟨rfl, .inl fewer⟩
      · exact .inl smaller
    | reduction task reduced inner' =>
      obtain ⟨rfl, rfl, rfl⟩ := step
      simp only [distance, Prod.Lex.toLex_lt_toLex]
      exact .inr ⟨rfl, .inl fewer⟩
  | reduction task fragment scope =>
    obtain ⟨target, inner, inside, free, step⟩ := leads
    have suffix : scope <:+ inner := (List.suffix_cons _ _).trans (inside_suffix inside)
    have fewer : unchecked locations inner task.pointer ⊆ unchecked locations scope task.pointer :=
      unchecked_subset suffix task.pointer
    have le := Finset.card_le_card fewer
    cases next with
    | check child part place inner' =>
      obtain ⟨rfl, covers, -⟩ := step
      simp only [distance, Prod.Lex.toLex_lt_toLex]
      rcases covers with ⟨rfl, rfl⟩ | smaller
      · refine .inr ⟨rfl, ?_⟩
        rcases Nat.lt_or_eq_of_le le with fewer | same
        · exact .inl fewer
        · exact .inr ⟨same, Nat.succ_pos _⟩
      · exact .inl smaller
    | reduction task' member inner' =>
      obtain ⟨rfl, rfl, -⟩ := step
      simp only [distance, Prod.Lex.toLex_lt_toLex]
      refine .inr ⟨rfl, ?_⟩
      rcases Nat.lt_or_eq_of_le le with fewer | same
      · exact .inl fewer
      · refine .inr ⟨same, Nat.succ_lt_succ (Finset.card_lt_card ?_)⟩
        rw [guardLocation, settle_eq_of_inside? inside] at known
        refine Finset.ssubset_iff_of_subset ?_ |>.mpr ⟨target.location, ?_, ?_⟩
        · intro location member
          obtain ⟨kept, unlisted⟩ := Finset.mem_filter.mp member
          exact Finset.mem_filter.mpr ⟨kept, fun listed => unlisted (List.mem_cons_of_mem _ listed)⟩
        · exact Finset.mem_filter.mpr ⟨known, free⟩
        · simp

/-- An inquiry ends if all it leads to is about a finite set of locations. -/
theorem finishes_of_locations (locations : Finset String) {q : Inquiry}
    (bounded : ∀ r, context.Leads q r → context.guardLocation r ∈ locations) : context.Finishes q := by
  induction near : distance locations q using WellFoundedLT.induction generalizing q with
  | _ _ ih =>
    by_contra endless
    obtain ⟨needed, needs, endless'⟩ := context.endless_needs endless
    have nearer := distance_lt_of_next (bounded q .refl) (context.next_of_needs needs)
    refine endless' (ih _ (near ▸ nearer) (fun r leads => ?_) rfl)
    exact bounded r (Relation.ReflTransGen.head needs leads)

/-- The recursion ends exactly if it comes to finitely many locations. -/
theorem finishes_iff {q : Inquiry} :
    context.Finishes q ↔ (context.guardLocation '' {r | context.Leads q r}).Finite := by
  constructor
  · rintro ⟨depth, answered⟩
    exact (context.finite_leads_of_answered answered).image _
  · intro finite
    refine finishes_of_locations finite.toFinset fun r leads => ?_
    exact finite.mem_toFinset.mpr ⟨r, leads, rfl⟩

end Context
end JsonSchema
