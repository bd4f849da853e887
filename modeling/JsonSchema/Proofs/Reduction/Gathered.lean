import JsonSchema.Proofs.Reduction.AcceptedData
import JsonSchema.Proofs.Reduction.Additions

/-!
# What a reduction gathers

The reduction of a fragment comes to those of the members that are added, and through them to others, unless
a fragment is being reduced already. Each of them brings in what stands beside its composition. All that holds
of these parts and is kept by merging holds of the reduced schema; and what one of them has and no merge takes
away, the reduced schema has.
-/

namespace JsonSchema

/-! ## Judges that answer more -/

namespace Folding

variable {folding : Folding} {judge other : Judge}

section
variable (more : other.Extends judge)
include more

theorem accepts_extends {fragment : Fragment} {holds : Bool}
    (decided : (folding.under judge).visit.accepts fragment = some holds) :
    (folding.under other).visit.accepts fragment = some holds := by
  obtain ⟨found, checked, same⟩ := Option.map_eq_some_iff.mp decided
  exact Option.map_eq_some_iff.mpr ⟨found, Judge.answer_check.mp (more _ _ (Judge.answer_check.mpr checked)), same⟩

theorem addition_extends {demand : Demand} {added : Json} (adds : ((folding.under judge).addition demand).run = some (.ok added)) :
    ((folding.under other).addition demand).run = some (.ok added) := by
  cases demand with
  | names => exact adds
  | schema member =>
    obtain ⟨reduced, reduces, same⟩ := Attempt.bind_eq_ok.mp adds
    exact Attempt.bind_eq_ok.mpr
      ⟨reduced, Judge.answer_reduction.mp (more _ _ (Judge.answer_reduction.mpr reduces)), same⟩

theorem Selects.extends {reducer : Reducer} {demand : Demand} (selects : (folding.under judge).Selects reducer demand) :
    (folding.under other).Selects reducer demand := by
  cases selects with
  | allOf listed => exact .allOf listed
  | anyOf listed holds => exact .anyOf listed (accepts_extends more holds)
  | oneOf chosen listed => exact .oneOf (Visit.selectOneOf_extends more chosen) listed
  | branch conditional decided taken => exact .branch conditional (accepts_extends more decided) taken

theorem Brings.extends {demand : Demand} {name : String} (brings : (folding.under judge).Brings demand name) :
    (folding.under other).Brings demand name :=
  have ⟨added, adds, requires⟩ := brings
  ⟨added, addition_extends more adds, requires⟩

theorem Triggers.extends {name : String} (triggers : (folding.under judge).Triggers name) :
    (folding.under other).Triggers name := by
  induction triggers with
  | present present => exact .present present
  | required requires => exact .required requires
  | selected settles before selects brings => exact .selected settles before (selects.extends more) (brings.extends more)
  | dependency listed _ brings ih => exact .dependency listed ih (brings.extends more)

/-- What is added by the answers of one judge is added by those of a judge that answers more. -/
theorem Folds.extends {demand : Demand} (folds : (folding.under judge).Folds demand) :
    (folding.under other).Folds demand := by
  cases folds with
  | selected settles selects => exact .selected settles (selects.extends more)
  | dependency given listed triggers => exact .dependency given listed (triggers.extends more)

end
end Folding

/-! ## Gathered fragments -/

/-- What is no composition is folded neither with data nor without. -/
theorem Reduction.isDynamic_eq_false {task : Reduction} {name : String} (static : name ∉ dynamicKeywords) :
    task.isDynamic name = false := by
  unfold isDynamic
  split
  · exact Bool.eq_false_iff.mpr fun listed => static (List.contains_iff_mem.mp listed)
  · exact beq_false_of_ne fun same => static (same ▸ List.mem_cons_self)

/-- What a fragment brings in: all of it, or what stands beside the composition that is folded. -/
def Reduction.ownPart (task : Reduction) (draft : Draft) (target : Fragment) : Json :=
  if task.hasWork draft target then task.staticPart target.schema else target.schema

namespace Context

variable {context : Context} {task : Reduction} {fragment target : Fragment} {scope inner : Scope}

/-- The reduction of a fragment in a scope comes to that of another one. -/
inductive Gathers (context : Context) : Reduction → Fragment → Scope → Fragment → Scope → Prop where
  | refl (task : Reduction) (fragment : Fragment) (scope : Scope) : Gathers context task fragment scope fragment scope
  | step {task : Reduction} {fragment target member part : Fragment} {scope inner deeper : Scope}
      (inside : context.inside? fragment (scope.enter fragment) = some (target, inner))
      (work : task.hasWork context.draft target = true) (first : target.location ∉ task.active)
      (folds : (context.folding context.limit task target inner).Folds (.schema member))
      (below : Gathers context (context.folding context.limit task target inner).task member inner part deeper) :
      Gathers context task fragment scope part deeper

/-- What a fragment stands for to which a reduction comes. -/
inductive Gathered (context : Context) (task : Reduction) (fragment : Fragment) (scope : Scope) (target : Fragment) :
    Prop where
  | intro {part : Fragment} {deeper inner : Scope} (gathers : context.Gathers task fragment scope part deeper)
      (inside : context.inside? part (deeper.enter part) = some (target, inner)) : Gathered context task fragment scope target

theorem Gathered.step (inside : context.inside? fragment (scope.enter fragment) = some (target, inner))
    (work : task.hasWork context.draft target = true) (first : target.location ∉ task.active)
    {member found : Fragment} (folds : (context.folding context.limit task target inner).Folds (.schema member))
    (below : context.Gathered (context.folding context.limit task target inner).task member inner found) :
    context.Gathered task fragment scope found := by
  obtain ⟨gathers, stands⟩ := below
  exact ⟨.step inside work first folds gathers, stands⟩

/-- All that a reduction comes to is compiled. -/
theorem Gathers.isCompiled (known : context.index.WellCompiled context.draft) {part : Fragment} {deeper : Scope}
    (gathers : context.Gathers task fragment scope part deeper) (compiled : fragment.IsCompiled context.draft)
    (entered : scope.IsCompiled context.draft) : part.IsCompiled context.draft ∧ deeper.IsCompiled context.draft := by
  induction gathers with
  | refl => exact ⟨compiled, entered⟩
  | step inside _ _ folds _ ih =>
    obtain ⟨found, enters⟩ := (chain_of_inside? inside).isCompiled known compiled
      (List.forall_mem_cons.mpr ⟨compiled, entered⟩)
    exact ih (found.child folds.hasChild) enters

theorem Gathered.isCompiled (known : context.index.WellCompiled context.draft)
    (gathered : context.Gathered task fragment scope target) (compiled : fragment.IsCompiled context.draft)
    (entered : scope.IsCompiled context.draft) : target.IsCompiled context.draft := by
  obtain ⟨gathers, inside⟩ := gathered
  obtain ⟨own, enters⟩ := gathers.isCompiled known compiled entered
  exact ((chain_of_inside? inside).isCompiled known own (List.forall_mem_cons.mpr ⟨own, enters⟩)).1

/-! ## One folding -/

theorem isSchema_of_compiled (compiled : fragment.IsCompiled context.draft) : fragment.schema.IsSchema := by
  obtain ⟨source, outer, compiled⟩ := compiled
  exact compiled.bool_or_obj

/-- A fragment with something to fold is an object. -/
theorem isObject_of_hasWork (compiled : target.IsCompiled context.draft) (work : task.hasWork context.draft target = true) :
    ∃ members, task.staticPart target.schema = .obj members := by
  obtain ⟨source, outer, compiled⟩ := compiled
  rcases compiled.bool_or_obj with ⟨b, same⟩ | ⟨members, same⟩
  · rw [same] at compiled
    rw [Reduction.hasWork, (Fragment.rests_bool compiled).2] at work
    split at work <;> cases work
  · rw [same]
    exact ⟨_, rfl⟩

theorem isSchema_rebase {base : Uri} {schema : Json} (own : schema.IsSchema) : (rebase base schema).IsSchema := by
  rcases own with ⟨b, rfl⟩ | ⟨members, rfl⟩
  · exact .inl ⟨b, rfl⟩
  · exact .inr ⟨_, rfl⟩

/-- A member that is reduced to compiled fragments adds a schema. -/
theorem addsSchema_of_child {judge : Judge} {member : Fragment}
    (reduces : ∀ reduced, judge.reduce (context.folding judge task target inner).task member inner = some (.ok reduced) →
      reduced.fragment.IsCompiled context.draft) : (context.folding judge task target inner).AddsSchema (.schema member) := by
  intro added adds
  obtain ⟨reduced, reduces', same⟩ := Attempt.bind_eq_ok.mp adds
  cases same
  exact isSchema_rebase (isSchema_of_compiled (reduces reduced reduces'))

/-- Where members are reduced to compiled fragments, all that is added is a schema. -/
theorem addsSchemas_of_folding {judge : Judge}
    (reduces : ∀ member, target.HasChild member → ∀ reduced,
      judge.reduce (context.folding judge task target inner).task member inner = some (.ok reduced) →
      reduced.fragment.IsCompiled context.draft) : (context.folding judge task target inner).AddsSchemas := by
  intro demand folds
  cases demand with
  | names names =>
    rintro added ⟨⟩
    exact .inr ⟨_, rfl⟩
  | schema member => exact addsSchema_of_child (reduces member folds.hasChild)

theorem addsSchemas_of_judge (known : context.index.WellCompiled context.draft) (compiled : target.IsCompiled context.draft)
    (entered : inner.IsCompiled context.draft) (depth : Nat) :
    (context.folding (context.judge depth) task target inner).AddsSchemas :=
  addsSchemas_of_folding fun _ child _ reduces => (isCompiled_of_reduce known (compiled.child child) entered reduces).1

theorem addsSchemas_of_limit (known : context.index.WellCompiled context.draft) (compiled : target.IsCompiled context.draft)
    (entered : inner.IsCompiled context.draft) : (context.folding context.limit task target inner).AddsSchemas := by
  refine addsSchemas_of_folding fun member child reduced reduces => ?_
  obtain ⟨depth, answer⟩ := (limit_answer_eq_some context).mp (Judge.answer_reduction.mpr reduces)
  exact (isCompiled_of_reduce known (compiled.child child) entered (Judge.answer_reduction.mp answer)).1

/-! ## What holds of all parts -/

/-- A property of schemas that merging and making references absolute keep. -/
structure Stable (S : Json → Prop) : Prop where
  merged : ∀ a b, S a → S b → S (merge a b)
  rebased : ∀ base schema, S schema → S (rebase base schema)

/-- What holds of all parts that a reduction gathers. -/
structure Gathering (context : Context) (task : Reduction) (fragment : Fragment) (scope : Scope) (S : Json → Prop) :
    Prop where
  own : ∀ target, context.Gathered task fragment scope target → S (task.ownPart context.draft target)
  names : task.data.isSome = true → ∀ names : List String, S (.obj [("required", .ofStrings names)])

/-- What holds of all parts holds of those that a member brings in. -/
theorem Gathering.member {S : Json → Prop} {member : Fragment} (gathering : context.Gathering task fragment scope S)
    (inside : context.inside? fragment (scope.enter fragment) = some (target, inner))
    (work : task.hasWork context.draft target = true) (first : target.location ∉ task.active)
    (folds : (context.folding context.limit task target inner).Folds (.schema member)) :
    context.Gathering (context.folding context.limit task target inner).task member inner S where
  own found below := gathering.own found (below.step inside work first folds)
  names := gathering.names

/-- What holds of all parts and is kept by merging holds of the reduced schema. -/
theorem Gathering.reduced {S : Json → Prop} (stable : Stable S) (known : context.index.WellCompiled context.draft)
    {depth : Nat} {reduced : Reduced} (gathering : context.Gathering task fragment scope S)
    (compiled : fragment.IsCompiled context.draft) (entered : scope.IsCompiled context.draft)
    (answer : (context.judge depth).reduce task fragment scope = some (.ok reduced)) : S reduced.fragment.schema := by
  induction depth generalizing task fragment scope reduced with
  | zero => cases answer
  | succ depth ih =>
    obtain ⟨target, inner, inside, settled⟩ := reduceStep_eq_ok answer
    obtain ⟨found, enters⟩ := (chain_of_inside? inside).isCompiled known compiled
      (List.forall_mem_cons.mpr ⟨compiled, entered⟩)
    have own := gathering.own target ⟨.refl .., inside⟩
    unfold Reduction.ownPart at own
    obtain ⟨-, ⟨idle, same⟩ | ⟨work, -, derived⟩ | ⟨work, first, schema, folds, derived⟩⟩ := reduceSettled_eq_ok settled
    · rwa [idle, if_neg Bool.false_ne_true, ← same] at own
    · rwa [if_pos work, ← Fragment.schema_of_derive derived] at own
    · rw [if_pos work] at own
      rw [Fragment.schema_of_derive derived]
      obtain ⟨demands, absorbs, exact'⟩ := Folding.absorbs_of_foldAll (addsSchemas_of_judge known found enters depth)
        (isObject_of_hasWork found work) folds
      refine absorbs.keeps (fun demand listed added adds accumulated held => stable.merged _ _ held ?_) own
      have folds := (exact' demand).mp listed
      cases demand with
      | names names =>
        cases adds
        exact gathering.names folds.given names
      | schema member =>
        obtain ⟨reduced', reduces, same⟩ := Attempt.bind_eq_ok.mp adds
        cases same
        have more : context.limit.Extends (context.judge depth) := fun q verdict given =>
          (limit_answer_eq_some context).mpr ⟨depth, given⟩
        have folds' : (context.folding context.limit task target inner).Folds (.schema member) :=
          @Folding.Folds.extends (context.folding context.limit task target inner) _ _ more _ folds
        exact stable.rebased _ _ (ih (gathering.member inside work first folds') (found.child folds.hasChild) enters reduces)

/-! ## What one part brings in -/

/-- A property that no merge of related schemas takes away, nor making references absolute. -/
structure Lasting (R : Json → Json → Prop) (P : Json → Prop) : Prop where
  left : ∀ (members : Members) b, b.IsSchema → R (.obj members) b → P (.obj members) → P (merge (.obj members) b)
  right : ∀ (members : Members) b, b.IsSchema → R (.obj members) b → P b → P (merge (.obj members) b)
  rebased : ∀ base schema, P schema → P (rebase base schema)

end Context

/-- Demands are added one after the other, and what is merged is related. -/
inductive Folding.Merging (folding : Folding) (R : Json → Json → Prop) : Json → List Demand → Json → Prop where
  | nil (accumulated : Json) : Merging folding R accumulated [] accumulated
  | cons {accumulated added final : Json} {demand : Demand} {rest : List Demand}
      (adds : (folding.addition demand).run = some (.ok added)) (related : R accumulated added)
      (later : Merging folding R (merge accumulated added) rest final) : Merging folding R accumulated (demand :: rest) final

namespace Folding

variable {folding : Folding} {R : Json → Json → Prop} {P Q : Json → Prop} {accumulated final : Json} {demands : List Demand}

theorem Merging.mono {R' : Json → Json → Prop} (weaker : ∀ a b, R a b → R' a b)
    (merging : folding.Merging R accumulated demands final) : folding.Merging R' accumulated demands final := by
  induction merging with
  | nil => exact .nil _
  | cons adds related _ ih => exact .cons adds (weaker _ _ related) ih

/-- What is added is related if it is so to all that has what is accumulated. -/
theorem Absorbs.merging (absorbs : folding.Absorbs accumulated demands final)
    (related : ∀ demand ∈ demands, ∀ added, (folding.addition demand).run = some (.ok added) → ∀ accumulated, Q accumulated →
      R accumulated added ∧ Q (merge accumulated added))
    (start : Q accumulated) : folding.Merging R accumulated demands final := by
  induction absorbs with
  | nil => exact .nil _
  | cons adds _ ih =>
    obtain ⟨own, next⟩ := related _ List.mem_cons_self _ adds _ start
    exact .cons adds own (ih (fun demand listed => related demand (List.mem_cons_of_mem _ listed)) next)

section
variable (lasting : Context.Lasting R P)
  (schemas : ∀ demand ∈ demands, ∀ added, (folding.addition demand).run = some (.ok added) → added.IsSchema)
  (merging : folding.Merging R accumulated demands final) (object : ∃ members, accumulated = .obj members)
include lasting schemas merging object

/-- What there was before lasts. -/
theorem Merging.lasts (has : P accumulated) : P final := by
  induction merging with
  | nil => exact has
  | @cons accumulated added final demand rest adds related _ ih =>
    have own := schemas demand List.mem_cons_self added adds
    have next := isObject_merge object own
    obtain ⟨members, rfl⟩ := object
    exact ih (fun other listed => schemas other (List.mem_cons_of_mem _ listed)) next (lasting.left _ _ own related has)

/-- What is added lasts. -/
theorem Merging.lasts_of_mem {demand : Demand} (listed : demand ∈ demands)
    (has : ∀ added, (folding.addition demand).run = some (.ok added) → P added) : P final := by
  induction merging with
  | nil => cases listed
  | @cons accumulated added final first rest adds related later ih =>
    have own := schemas first List.mem_cons_self added adds
    have next := isObject_merge object own
    have rest' := fun other inside => schemas other (List.mem_cons_of_mem first inside)
    obtain ⟨members, rfl⟩ := object
    rcases List.mem_cons.mp listed with rfl | below
    · exact later.lasts lasting rest' next (lasting.right _ _ own related (has added adds))
    · exact ih rest' next below

end
end Folding

namespace Context

variable {context : Context} {task : Reduction} {fragment target : Fragment} {scope inner : Scope}

/-- A reduction comes to a folding. -/
inductive Performs (context : Context) : Reduction → Fragment → Scope → Folding → Prop where
  | own {task : Reduction} {fragment target : Fragment} {scope inner : Scope}
      (inside : context.inside? fragment (scope.enter fragment) = some (target, inner))
      (work : task.hasWork context.draft target = true) (first : target.location ∉ task.active) :
      Performs context task fragment scope (context.folding context.limit task target inner)
  | member {task : Reduction} {fragment target member : Fragment} {scope inner : Scope} {folding : Folding}
      (inside : context.inside? fragment (scope.enter fragment) = some (target, inner))
      (work : task.hasWork context.draft target = true) (first : target.location ∉ task.active)
      (folds : (context.folding context.limit task target inner).Folds (.schema member))
      (below : Performs context (context.folding context.limit task target inner).task member inner folding) :
      Performs context task fragment scope folding

/-- Every folding to which a reduction comes can be put together, in some order, by merges of related schemas. -/
def Unites (context : Context) (task : Reduction) (fragment : Fragment) (scope : Scope) (R : Json → Json → Prop) : Prop :=
  ∀ folding, context.Performs task fragment scope folding → ∀ schema choice,
    folding.foldAll.run = some (.ok (schema, choice)) →
    ∃ demands, folding.Merging R (folding.task.staticPart folding.visit.fragment.schema) demands schema ∧
      ∀ demand, demand ∈ demands ↔ folding.Folds demand

theorem Unites.member {R : Json → Json → Prop} {member : Fragment} (unites : context.Unites task fragment scope R)
    (inside : context.inside? fragment (scope.enter fragment) = some (target, inner))
    (work : task.hasWork context.draft target = true) (first : target.location ∉ task.active)
    (folds : (context.folding context.limit task target inner).Folds (.schema member)) :
    context.Unites (context.folding context.limit task target inner).task member inner R :=
  fun folding performs => unites folding (.member inside work first folds performs)

theorem Unites.mono {R R' : Json → Json → Prop} (weaker : ∀ a b, R a b → R' a b)
    (unites : context.Unites task fragment scope R) : context.Unites task fragment scope R' := by
  intro folding performs schema choice answer
  obtain ⟨demands, merging, exact'⟩ := unites folding performs schema choice answer
  exact ⟨demands, merging.mono weaker, exact'⟩

/-- What the limit answers a step with the answers of the limit does. -/
theorem reduceStep_limit {result : Except Violation Reduced} (answer : context.limit.reduce task fragment scope = some result) :
    context.reduceStep context.limit task fragment scope = some result := by
  have step := context.stepJudge_limit_eq (.reduction task fragment scope)
  rw [Judge.answer_reduction.mpr answer] at step
  exact Judge.answer_reduction.mp step

section
variable (known : context.index.WellCompiled context.draft)
include known

/-- Where all parts have a property that is kept, only schemas with it are merged. -/
theorem Gathering.unites {S : Json → Prop} (stable : Stable S) (gathering : context.Gathering task fragment scope S)
    (compiled : fragment.IsCompiled context.draft) (entered : scope.IsCompiled context.draft) :
    context.Unites task fragment scope fun a b => S a ∧ S b := by
  intro folding performs
  induction performs with
  | @own task fragment target scope inner inside work first =>
    intro schema choice answer
    obtain ⟨found, enters⟩ := (chain_of_inside? inside).isCompiled known compiled
      (List.forall_mem_cons.mpr ⟨compiled, entered⟩)
    have own := gathering.own target ⟨.refl .., inside⟩
    rw [Reduction.ownPart, if_pos work] at own
    obtain ⟨demands, absorbs, exact'⟩ := Folding.absorbs_of_foldAll (addsSchemas_of_limit known found enters)
      (isObject_of_hasWork found work) answer
    refine ⟨demands, absorbs.merging (Q := S) (fun demand listed added adds accumulated held => ?_) own, exact'⟩
    suffices fits : S added from ⟨⟨held, fits⟩, stable.merged _ _ held fits⟩
    have folds := (exact' demand).mp listed
    cases demand with
    | names names =>
      cases adds
      exact gathering.names folds.given names
    | schema member =>
      obtain ⟨reduced, reduces, same⟩ := Attempt.bind_eq_ok.mp adds
      cases same
      obtain ⟨depth, answer⟩ := (limit_answer_eq_some context).mp (Judge.answer_reduction.mpr reduces)
      exact stable.rebased _ _ ((gathering.member inside work first folds).reduced stable known
        (found.child folds.hasChild) enters (Judge.answer_reduction.mp answer))
  | member inside work first folds _ ih =>
    obtain ⟨found, enters⟩ := (chain_of_inside? inside).isCompiled known compiled
      (List.forall_mem_cons.mpr ⟨compiled, entered⟩)
    exact ih (gathering.member inside work first folds) (found.child folds.hasChild) enters

/-- What one part has and no merge takes away, the reduced schema has. -/
theorem reduced_has {R : Json → Json → Prop} {P : Json → Prop} (lasting : Lasting R P)
    (unites : context.Unites task fragment scope R) (compiled : fragment.IsCompiled context.draft)
    (entered : scope.IsCompiled context.draft) (gathered : context.Gathered task fragment scope target)
    (has : P (task.ownPart context.draft target)) {reduced : Reduced}
    (answer : context.limit.reduce task fragment scope = some (.ok reduced)) : P reduced.fragment.schema := by
  obtain ⟨gathers, stands⟩ := gathered
  induction gathers generalizing reduced with
  | refl task fragment scope =>
    obtain ⟨target', inner', inside, settled⟩ := reduceStep_eq_ok (reduceStep_limit answer)
    rw [stands] at inside
    cases inside
    obtain ⟨found, enters⟩ := (chain_of_inside? stands).isCompiled known compiled
      (List.forall_mem_cons.mpr ⟨compiled, entered⟩)
    unfold Reduction.ownPart at has
    obtain ⟨-, ⟨idle, same⟩ | ⟨work, -, derived⟩ | ⟨work, first, schema, folds, derived⟩⟩ := reduceSettled_eq_ok settled
    · rwa [idle, if_neg Bool.false_ne_true, ← same] at has
    · rwa [if_pos work, ← Fragment.schema_of_derive derived] at has
    · rw [if_pos work] at has
      rw [Fragment.schema_of_derive derived]
      obtain ⟨demands, merging, exact'⟩ := unites _ (.own stands work first) _ _ folds
      exact merging.lasts lasting (fun demand listed => addsSchemas_of_limit known found enters demand ((exact' demand).mp listed))
        (isObject_of_hasWork found work) has
  | @step task fragment target member part scope inner deeper inside work first folds below ih =>
    obtain ⟨target', inner', inside', settled⟩ := reduceStep_eq_ok (reduceStep_limit answer)
    rw [inside] at inside'
    cases inside'
    obtain ⟨found, enters⟩ := (chain_of_inside? inside).isCompiled known compiled
      (List.forall_mem_cons.mpr ⟨compiled, entered⟩)
    obtain ⟨-, ⟨idle, -⟩ | ⟨-, again, -⟩ | ⟨-, -, schema, runs, derived⟩⟩ := reduceSettled_eq_ok settled
    · rw [work] at idle
      cases idle
    · exact absurd again first
    · rw [Fragment.schema_of_derive derived]
      obtain ⟨demands, merging, exact'⟩ := unites _ (.own inside work first) _ _ runs
      refine merging.lasts_of_mem lasting
        (fun demand listed => addsSchemas_of_limit known found enters demand ((exact' demand).mp listed))
        (isObject_of_hasWork found work) ((exact' _).mpr folds) fun added adds => ?_
      obtain ⟨reduced', reduces, same⟩ := Attempt.bind_eq_ok.mp adds
      cases same
      exact lasting.rebased _ _
        (ih (unites.member inside work first folds) (found.child folds.hasChild) enters has reduces stands)

end

/-! ## What stands on the way of references -/

/-- A reference on the way from a fragment to what it stands for: the fragment that makes it, and what it leads to. -/
inductive Refers (context : Context) : Fragment → Scope → Fragment → Fragment → Prop where
  | first {source target : Fragment} {scope : Scope} {keyword : ReferenceKeyword} {reference : String}
      (refers : source.reference? context.draft = some (keyword, reference))
      (found : context.target? source keyword reference scope = some target) : Refers context source scope source target
  | later {current next hop source target : Fragment} {scope : Scope} {keyword : ReferenceKeyword} {reference : String}
      (refers : current.reference? context.draft = some (keyword, reference))
      (found : context.target? current keyword reference scope = some hop)
      (followed : context.follow? current hop = some next) (rest : Refers context next (scope.enter hop) source target) :
      Refers context current scope source target

/-- All that a fragment refers to on the way is compiled. -/
theorem Refers.isCompiled (known : context.index.WellCompiled context.draft) {source : Fragment}
    (refers : context.Refers fragment scope source target) (compiled : fragment.IsCompiled context.draft) :
    source.IsCompiled context.draft ∧ target.IsCompiled context.draft := by
  induction refers with
  | first _ found => exact ⟨compiled, compiled_of_target? known found⟩
  | later _ found followed _ ih => exact ih (isCompiled_of_follow? (compiled_of_target? known found) followed)

/-- A fragment without a reference refers to nothing. -/
theorem not_refers_of_settled (settled : fragment.reference? context.draft = none) {source : Fragment} :
    ¬ context.Refers fragment scope source target := by
  intro refers
  cases refers with
  | first refers | later refers =>
    rw [settled] at refers
    cases refers

/-- A property that no boolean has, and that nothing decides that belongs to a reference. -/
structure Beside (P : Json → Prop) : Prop where
  object : ∀ b, ¬ P (.bool b)
  kept : ∀ schema, P schema → hasSiblings schema = true ∧ P (siblings schema)

/-- A boolean stands for itself. -/
theorem Chain.eq_of_bool {seen : List String} {final : Fragment} (chain : Chain context seen fragment scope final inner)
    {b : Bool} (shape : fragment.schema = .bool b) : final = fragment := by
  cases chain with
  | ended => rfl
  | hop refers =>
    have unreferring : fragment.reference? context.draft = none :=
      Fragment.reference?_eq_none_iff.mpr fun _ _ => by rw [shape]; rfl
    rw [unreferring] at refers
    cases refers

section
variable {R : Json → Json → Prop} {P : Json → Prop} (lasting : Lasting R P) (beside : Beside P)
  (merges : context.draft.mergesSiblings = true)
include lasting beside merges

/-- What a fragment or what it refers to has, that is what the reference is followed to has, unless nothing meets it. -/
theorem follow?_has {next : Fragment} (compiled : target.IsCompiled context.draft)
    (followed : context.follow? fragment target = some next) (related : R (mergeTarget target) (siblings fragment.schema))
    (has : P fragment.schema ∨ P target.schema) : P next.schema ∨ next.schema = .bool false := by
  by_cases siblings' : hasSiblings fragment.schema = true
  · rw [Fragment.schema_of_derive (derive_of_follow? (by rw [merges, siblings']; rfl) followed)]
    obtain ⟨others, same⟩ : ∃ others, siblings fragment.schema = .obj others := by
      unfold siblings
      split <;> exact ⟨_, rfl⟩
    unfold mergeTarget at related ⊢
    rw [same] at related ⊢
    rcases isSchema_of_compiled compiled with ⟨b, shape⟩ | ⟨members, shape⟩
    · cases b with
      | true =>
        have whole : target.isBool true = true := by rw [Fragment.isBool, shape]; rfl
        rw [if_pos whole] at related ⊢
        refine .inl (lasting.right _ _ (.inr ⟨_, rfl⟩) related ?_)
        rcases has with has | has
        · exact same ▸ (beside.kept _ has).2
        · rw [shape] at has
          exact absurd has (beside.object _)
      | false =>
        have other : target.isBool true = false := by rw [Fragment.isBool, shape]; rfl
        rw [other, if_neg Bool.false_ne_true, shape]
        exact .inr rfl
    · have other : target.isBool true = false := by rw [Fragment.isBool, shape]; rfl
      rw [other, if_neg Bool.false_ne_true] at related ⊢
      rcases has with has | has
      · rw [shape] at related ⊢
        exact .inl (lasting.right _ _ (.inr ⟨_, rfl⟩) related (same ▸ (beside.kept _ has).2))
      · have rebased := lasting.rebased target.site.base _ has
        rw [shape] at related rebased ⊢
        exact .inl (lasting.left _ _ (.inr ⟨_, rfl⟩) related rebased)
  · rw [follow?, if_neg (by rw [merges, Bool.true_and]; exact siblings')] at followed
    cases followed
    rcases has with has | has
    · exact absurd (beside.kept _ has).1 siblings'
    · exact .inl has

/-- What one fragment on the way has, that is what the whole chain leads to has, unless nothing meets it. -/
theorem Chain.has (known : context.index.WellCompiled context.draft) {seen : List String} {final : Fragment}
    (chain : Chain context seen fragment scope final inner) (compiled : fragment.IsCompiled context.draft)
    (related : ∀ source target, context.Refers fragment scope source target → R (mergeTarget target) (siblings source.schema))
    (possible : final.schema ≠ .bool false) :
    (P fragment.schema → P final.schema) ∧
      ∀ source target, context.Refers fragment scope source target → P source.schema ∨ P target.schema → P final.schema := by
  induction chain with
  | ended settled =>
    exact ⟨id, fun source target refers => absurd refers (not_refers_of_settled settled)⟩
  | @hop seen current target next final scope inner keyword reference refers found unseen followed rest ih =>
    have indexed := compiled_of_target? known found
    obtain ⟨onward, later⟩ := ih (isCompiled_of_follow? indexed followed)
      (fun source target' below => related source target' (.later refers found followed below)) possible
    have first (has : P current.schema ∨ P target.schema) : P final.schema := by
      rcases follow?_has lasting beside merges indexed followed (related _ _ (.first refers found)) has with has | none
      · exact onward has
      · rw [rest.eq_of_bool none] at possible
        exact absurd none possible
    refine ⟨fun has => first (.inl has), fun source target' way has => ?_⟩
    cases way with
    | first refers' found' =>
      rw [refers] at refers'
      cases refers'
      rw [found] at found'
      cases found'
      exact first has
    | later refers' found' followed' below =>
      rw [refers] at refers'
      cases refers'
      rw [found] at found'
      cases found'
      rw [followed] at followed'
      cases followed'
      exact later source target' below has

end

/-- A fragment has a property that a reduction comes to, or one on the way of a reference to what can be met. -/
inductive Comes (context : Context) (task : Reduction) (fragment : Fragment) (scope : Scope) (P : Json → Prop) : Prop where
  | stands {target : Fragment} (gathered : context.Gathered task fragment scope target) (has : P target.schema)
  | refers {part source target final : Fragment} {deeper inner : Scope}
      (gathers : context.Gathers task fragment scope part deeper)
      (refers : context.Refers part (deeper.enter part) source target)
      (inside : context.inside? part (deeper.enter part) = some (final, inner)) (possible : final.schema ≠ .bool false)
      (has : P source.schema ∨ P target.schema)

/-- What one fragment has that a reduction comes to, the reduced schema has. -/
theorem reduced_has_of_comes {R : Json → Json → Prop} {P : Json → Prop} (lasting : Lasting R P) (beside : Beside P)
    (apart : ∀ schema, P schema → P (task.staticPart schema)) (siblings' : context.draft.mergesSiblings = true)
    (known : context.index.WellCompiled context.draft) (unites : context.Unites task fragment scope R)
    (related : ∀ part deeper, context.Gathers task fragment scope part deeper → ∀ source target,
      context.Refers part (deeper.enter part) source target → R (mergeTarget target) (siblings source.schema))
    (compiled : fragment.IsCompiled context.draft) (entered : scope.IsCompiled context.draft)
    (comes : context.Comes task fragment scope P) {depth : Nat} {reduced : Reduced}
    (answer : (context.judge depth).reduce task fragment scope = some (.ok reduced)) : P reduced.fragment.schema := by
  have limit : context.limit.reduce task fragment scope = some (.ok reduced) :=
    Judge.answer_reduction.mp ((limit_answer_eq_some context).mpr ⟨depth, Judge.answer_reduction.mpr answer⟩)
  have found {target : Fragment} (gathered : context.Gathered task fragment scope target) (has : P target.schema) :
      P reduced.fragment.schema := by
    refine reduced_has known lasting unites compiled entered gathered ?_ limit
    unfold Reduction.ownPart
    split
    · exact apart _ has
    · exact has
  cases comes with
  | stands gathered has => exact found gathered has
  | refers gathers refers inside possible has =>
    exact found ⟨gathers, inside⟩ (((chain_of_inside? inside).has lasting beside siblings' known
      (gathers.isCompiled known compiled entered).1 (related _ _ gathers) possible).2 _ _ refers has)

end Context
end JsonSchema
