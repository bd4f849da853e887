import JsonSchema.Proofs.Reduction.Gathered

/-!
# The closure of the dependencies

Folding passes over the dependencies until a pass takes none of those that are left. Every pass but the last
takes one at least, so the passes end, at most one more of them than there are dependencies. As required names
are never lost, what was taken applies in the end, and what is left does not. So where all dependencies list
names, the names that are required in the end are a least closure, whatever the order of the dependencies.
-/

namespace JsonSchema

namespace Folding

variable {folding : Folding} {accumulated final : Json} {waiting left taken : List Dependency} {count : Nat}

/-! ## Rounds -/

/-- Passes over dependencies, and their number, up to the first that leaves all of those it finds. -/
inductive Rounds (folding : Folding) : Nat → List Dependency → Json → List Dependency → Json → Prop where
  | last {waiting left : List Dependency} {accumulated final : Json}
      (pass : (folding.dependencyPass waiting accumulated).run = some (.ok (left, final)))
      (idle : left.length = waiting.length) : Rounds folding 1 waiting accumulated left final
  | more {count : Nat} {waiting between left : List Dependency} {accumulated next final : Json}
      (pass : (folding.dependencyPass waiting accumulated).run = some (.ok (between, next)))
      (progress : between.length ≠ waiting.length) (later : Rounds folding count between next left final) :
      Rounds folding (count + 1) waiting accumulated left final

/-- A pass that makes progress leaves fewer. -/
theorem length_lt_of_pass (pass : (folding.dependencyPass waiting accumulated).run = some (.ok (left, final)))
    (progress : left.length ≠ waiting.length) : left.length < waiting.length := by
  obtain ⟨taken, passes⟩ := passes_of_dependencyPass pass
  have counted := passes.perm.length_eq
  rw [List.length_append] at counted
  omega

/-- There is at most one pass more than dependencies. -/
theorem Rounds.count_le (rounds : folding.Rounds count waiting accumulated left final) : count ≤ waiting.length + 1 := by
  induction rounds with
  | last => omega
  | more pass progress _ ih =>
    have fewer := length_lt_of_pass pass progress
    omega

/-- Without dependencies nothing is done. -/
theorem Rounds.of_nil (rounds : folding.Rounds count [] accumulated left final) : left = [] ∧ accumulated = final := by
  cases rounds with
  | last pass =>
    cases pass
    exact ⟨rfl, rfl⟩
  | more pass progress =>
    cases pass
    exact absurd rfl progress

/-- The bound on the passes cuts nothing off: the answer is that of the passes without a bound. -/
theorem foldDependencies_eq_ok_iff {passes : Nat} (enough : waiting.length < passes) :
    (folding.foldDependencies passes waiting accumulated).run = some (.ok final) ↔
      ∃ count left, folding.Rounds count waiting accumulated left final := by
  induction passes generalizing waiting accumulated with
  | zero => omega
  | succ passes ih =>
    rw [foldDependencies]
    constructor
    · intro answer
      obtain ⟨⟨between, next⟩, pass, answer⟩ := Attempt.bind_eq_ok.mp answer
      dsimp only at answer
      split at answer
      · rename_i idle
        cases answer
        exact ⟨1, between, .last pass idle⟩
      · rename_i progress
        have fewer := length_lt_of_pass pass progress
        obtain ⟨count, left, later⟩ := (ih (by omega)).mp answer
        exact ⟨count + 1, left, .more pass progress later⟩
    · rintro ⟨count, left, rounds⟩
      cases rounds with
      | last pass idle =>
        refine Attempt.bind_eq_ok.mpr ⟨_, pass, ?_⟩
        dsimp only
        rw [if_pos idle]
        rfl
      | more pass progress later =>
        have fewer := length_lt_of_pass pass progress
        refine Attempt.bind_eq_ok.mpr ⟨_, pass, ?_⟩
        dsimp only
        rw [if_neg progress]
        exact (ih (by omega)).mpr ⟨_, left, later⟩

/-! ## What is taken and what is left -/

/-- What applies once, applies after more was added. -/
theorem Absorbs.isTriggered {demands : List Demand} (absorbs : folding.Absorbs accumulated demands final)
    (schemas : ∀ demand ∈ demands, folding.AddsSchema demand) (object : ∃ members, accumulated = .obj members)
    {name : String} (triggered : Reduction.isTriggered folding.visit.data accumulated name = true) :
    Reduction.isTriggered folding.visit.data final name = true := by
  rw [Reduction.isTriggered_iff] at triggered ⊢
  exact triggered.imp_right (absorbs.requires schemas object)

/-- What a pass takes applies at its end. -/
theorem Passes.triggered (passes : folding.Passes accumulated waiting left taken final)
    (schemas : ∀ entry ∈ waiting, folding.AddsSchema entry.demand) (object : ∃ members, accumulated = .obj members) :
    ∀ entry ∈ taken, Reduction.isTriggered folding.visit.data final entry.property = true := by
  induction passes with
  | nil => simp
  | leave _ _ ih => exact ih (fun entry inside => schemas entry (List.mem_cons_of_mem _ inside)) object
  | take applies adds later ih =>
    have others := fun entry inside => schemas entry (List.mem_cons_of_mem _ inside)
    have whole := isObject_merge object (schemas _ List.mem_cons_self _ adds)
    refine List.forall_mem_cons.mpr ⟨?_, ih others whole⟩
    have absorbs : folding.Absorbs _ _ _ := .cons adds later.absorbs
    refine absorbs.isTriggered ?_ object applies
    rw [← List.map_cons (f := Dependency.demand), List.forall_mem_map]
    intro entry inside
    rcases List.mem_cons.mp inside with rfl | below
    · exact schemas _ List.mem_cons_self
    · exact others entry (later.perm.mem_iff.mpr (List.mem_append_right _ below))

/-- Each dependency is left or taken once. What is taken applies in the end, and what is left does not. -/
theorem Rounds.outcome (rounds : folding.Rounds count waiting accumulated left final)
    (schemas : ∀ entry ∈ waiting, folding.AddsSchema entry.demand) (object : ∃ members, accumulated = .obj members) :
    ∃ taken, waiting.Perm (left ++ taken) ∧ folding.Absorbs accumulated (taken.map Dependency.demand) final ∧
      (∀ entry ∈ taken, Reduction.isTriggered folding.visit.data final entry.property = true) ∧
      ∀ entry ∈ left, Reduction.isTriggered folding.visit.data final entry.property = false := by
  induction rounds with
  | last pass idle =>
    obtain ⟨taken, passes⟩ := passes_of_dependencyPass pass
    have counted := passes.perm.length_eq
    rw [List.length_append] at counted
    obtain rfl : taken = [] := List.length_eq_zero_iff.mp (by omega)
    refine ⟨[], passes.perm, passes.absorbs, by simp, ?_⟩
    have unchanged := passes.absorbs
    cases unchanged
    exact passes.untriggered
  | @more count waiting between left accumulated next final pass progress later ih =>
    obtain ⟨early, passes⟩ := passes_of_dependencyPass pass
    have schemasEarly : ∀ demand ∈ early.map Dependency.demand, folding.AddsSchema demand :=
      List.forall_mem_map.mpr fun entry inside => schemas entry (passes.perm.mem_iff.mpr (List.mem_append_right _ inside))
    have schemasBetween : ∀ entry ∈ between, folding.AddsSchema entry.demand := fun entry inside =>
      schemas entry (passes.perm.mem_iff.mpr (List.mem_append_left _ inside))
    obtain ⟨late, perm, absorbs, applies, rests⟩ := ih schemasBetween (passes.absorbs.isObject schemasEarly object)
    have schemasLate : ∀ demand ∈ late.map Dependency.demand, folding.AddsSchema demand :=
      List.forall_mem_map.mpr fun entry inside => schemasBetween entry (perm.mem_iff.mpr (List.mem_append_right _ inside))
    refine ⟨early ++ late, ?_, ?_, ?_, rests⟩
    · have order : (left ++ late ++ early).Perm (left ++ (early ++ late)) := by
        rw [List.append_assoc]
        exact List.perm_append_comm.append_left left
      exact passes.perm.trans ((perm.append_right early).trans order)
    · rw [List.map_append]
      exact passes.absorbs.append absorbs
    · refine List.forall_mem_append.mpr ⟨fun entry inside => ?_, applies⟩
      exact absorbs.isTriggered schemasLate (passes.absorbs.isObject schemasEarly object)
        (passes.triggered schemas object entry inside)

end Folding

/-! ## Lists of names -/

/-- A set of names has those that are required at first, and with a property that is present or in the set the
names that a dependency lists for it. -/
structure ClosedNames (data : Json) (entries : List Dependency) (initial : Json) (names : Set String) : Prop where
  initial : ∀ name, initial.Requires name → name ∈ names
  listed : ∀ entry ∈ entries, ∀ others, entry.demand = .names others →
    (data.member? entry.property).isSome = true ∨ entry.property ∈ names → ∀ name ∈ others, name ∈ names

namespace Folding

variable {folding : Folding} {accumulated final : Json} {waiting left taken : List Dependency} {count : Nat}

section
variable {names : Set String} {entries : List Dependency} {initial : Json}
  (closed : ClosedNames folding.visit.data entries initial names)
include closed

/-- A pass requires no names outside a closed set. -/
theorem Passes.within (passes : folding.Passes accumulated waiting left taken final) (own : waiting ⊆ entries)
    (plain : ∀ entry ∈ waiting, ∃ others, entry.demand = .names others)
    (before : ∀ name, accumulated.Requires name → name ∈ names) : ∀ name, final.Requires name → name ∈ names := by
  induction passes with
  | nil => exact before
  | leave _ _ ih =>
    exact ih (fun _ inside => own (List.mem_cons_of_mem _ inside))
      (fun entry inside => plain entry (List.mem_cons_of_mem _ inside)) before
  | take applies adds _ ih =>
    refine ih (fun _ inside => own (List.mem_cons_of_mem _ inside))
      (fun entry inside => plain entry (List.mem_cons_of_mem _ inside)) fun name requires => ?_
    obtain ⟨others, list⟩ := plain _ List.mem_cons_self
    rcases requires.of_merge with earlier | added
    · exact before name earlier
    · rw [list] at adds
      cases adds
      have triggered := (Reduction.isTriggered_iff.mp applies).imp_right (before _)
      exact closed.listed _ (own List.mem_cons_self) others list triggered name added.of_names

theorem Rounds.within (rounds : folding.Rounds count waiting accumulated left final) (own : waiting ⊆ entries)
    (plain : ∀ entry ∈ waiting, ∃ others, entry.demand = .names others)
    (before : ∀ name, accumulated.Requires name → name ∈ names) : ∀ name, final.Requires name → name ∈ names := by
  induction rounds with
  | last pass =>
    obtain ⟨taken, passes⟩ := passes_of_dependencyPass pass
    exact passes.within closed own plain before
  | more pass _ _ ih =>
    obtain ⟨taken, passes⟩ := passes_of_dependencyPass pass
    have stays : ∀ entry ∈ _, entry ∈ _ := fun entry inside => passes.perm.mem_iff.mpr (List.mem_append_left taken inside)
    exact ih (fun entry inside => own (stays entry inside)) (fun entry inside => plain entry (stays entry inside))
      (passes.within closed own plain before)

end

theorem requires_names {names : List String} {name : String} (inside : name ∈ names) :
    (Json.obj [("required", .ofStrings names)]).Requires name :=
  ⟨names.map .str, rfl, List.mem_map_of_mem inside⟩

/-- Where all dependencies list names, exactly the least closure is required in the end. -/
theorem Rounds.isLeast (rounds : folding.Rounds count waiting accumulated left final)
    (plain : ∀ entry ∈ waiting, ∃ others, entry.demand = .names others) (object : ∃ members, accumulated = .obj members) :
    IsLeast {names | ClosedNames folding.visit.data waiting accumulated names} {name | final.Requires name} := by
  have schemas : ∀ entry ∈ waiting, folding.AddsSchema entry.demand := by
    intro entry inside added adds
    obtain ⟨others, list⟩ := plain entry inside
    rw [list] at adds
    cases adds
    exact .inr ⟨_, rfl⟩
  obtain ⟨taken, perm, absorbs, -, rests⟩ := rounds.outcome schemas object
  have schemasTaken : ∀ demand ∈ taken.map Dependency.demand, folding.AddsSchema demand :=
    List.forall_mem_map.mpr fun entry inside => schemas entry (perm.mem_iff.mpr (List.mem_append_right _ inside))
  constructor
  · constructor
    · intro name requires
      exact absorbs.requires schemasTaken object requires
    · intro entry inside others list triggered name listed
      have applies : entry ∈ taken := by
        refine (List.mem_append.mp (perm.mem_iff.mp inside)).resolve_left fun waits => ?_
        have rest := rests entry waits
        rw [Reduction.isTriggered_iff.mpr triggered] at rest
        cases rest
      refine absorbs.requires_of_brings schemasTaken object (List.mem_map_of_mem applies) ?_
      rw [list]
      exact ⟨_, rfl, requires_names listed⟩
  · intro names closed name requires
    exact rounds.within closed (fun _ inside => inside) plain closed.initial name requires

/-! ## The dependencies of a fragment -/

/-- What is accumulated when the dependencies of a fragment are reached: what stands beside its composition, and
what `allOf`, `anyOf` and `oneOf` add. -/
def Accumulates (folding : Folding) (initial : Json) : Prop :=
  ∃ choice, ((folding.settled [.allOf, .anyOf, .oneOf]).foldlM
    (fun (state : Json × Option Nat) reducer => folding.fold state.1 state.2 reducer)
    (folding.task.staticPart folding.visit.fragment.schema, none)).run = some (.ok (initial, choice))

/-- Where only dependencies are composed, they are reached with what stands beside them. -/
theorem accumulates_of_settled (none : folding.settled [.allOf, .anyOf, .oneOf] = []) :
    folding.Accumulates (folding.task.staticPart folding.visit.fragment.schema) := by
  refine ⟨.none, ?_⟩
  rw [none]
  rfl

end Folding

namespace Context

variable {context : Context} {task : Reduction} {target : Fragment} {inner : Scope} {depth : Nat}
  (known : context.index.WellCompiled context.draft) (compiled : target.IsCompiled context.draft)
  (entered : inner.IsCompiled context.draft)
include known compiled entered

/-- What a dependency asks for is a schema. -/
theorem addsSchema_of_dependency {entry : Dependency} (listed : entry ∈ target.dependencies context.draft) :
    (context.folding (context.judge depth) task target inner).AddsSchema entry.demand := by
  cases same : entry.demand with
  | names names =>
    rintro added ⟨⟩
    exact .inr ⟨_, rfl⟩
  | schema member =>
    have child := (context.folding (context.judge depth) task target inner).ownDependencies _ _ listed _ same
    exact addsSchema_of_child fun reduced reduces =>
      (isCompiled_of_reduce known (compiled.child child) entered reduces).1

/-- What is accumulated for a fragment with something to fold is an object. -/
theorem isObject_of_accumulates {initial : Json}
    (accumulates : (context.folding (context.judge depth) task target inner).Accumulates initial)
    (work : task.hasWork context.draft target = true) : ∃ members, initial = .obj members := by
  obtain ⟨choice, answer⟩ := accumulates
  obtain ⟨demands, absorbs, selects⟩ := Folding.absorbs_of_foldlM (fun reducer listed => by
    rintro rfl
    simp [Folding.mem_settled] at listed) answer
  refine absorbs.isObject (fun demand inside => ?_) (isObject_of_hasWork compiled work)
  obtain ⟨reducer, listed, selects⟩ := (selects demand).mp inside
  exact addsSchemas_of_judge known compiled entered depth demand (.selected (Folding.mem_settled.mp listed).2.2 selects)

/-- The passes over the dependencies of a fragment, in whatever order these stand, end by themselves after at most
one pass more than there are dependencies. Each dependency is taken at most once, and it is taken just if its
property is present or required in the end. If all of them list names, the least set is required that has the
names required at first and is closed under the dependencies. -/
theorem dependencies_fold_to_closure {data initial final : Json} (given : task.data = some data)
    (accumulates : (context.folding (context.judge depth) task target inner).Accumulates initial)
    {entries : List Dependency} (order : entries.Perm (target.dependencies context.draft)) {passes : Nat}
    (enough : entries.length < passes)
    (answer : ((context.folding (context.judge depth) task target inner).foldDependencies passes entries initial).run =
      some (.ok final)) :
    ∃ count left taken,
      (context.folding (context.judge depth) task target inner).Rounds count entries initial left final ∧
      count ≤ entries.length + 1 ∧
      entries.Perm (left ++ taken) ∧
      (context.folding (context.judge depth) task target inner).Absorbs initial (taken.map Dependency.demand) final ∧
      (∀ entry ∈ entries, entry ∈ taken ↔
        (data.member? entry.property).isSome = true ∨ final.Requires entry.property) ∧
      ((∀ entry ∈ entries, ∃ names, entry.demand = .names names) →
        IsLeast {names | ClosedNames data (target.dependencies context.draft) initial names}
          {name | final.Requires name}) := by
  obtain ⟨count, left, rounds⟩ := (Folding.foldDependencies_eq_ok_iff enough).mp answer
  have schemas : ∀ entry ∈ entries,
      (context.folding (context.judge depth) task target inner).AddsSchema entry.demand := fun entry inside =>
    addsSchema_of_dependency known compiled entered (order.mem_iff.mp inside)
  have value : (context.folding (context.judge depth) task target inner).visit.data = data := by
    simp [folding, Reduction.value, given, Json.ofOption]
  by_cases some : entries = []
  · subst some
    obtain ⟨rfl, rfl⟩ := rounds.of_nil
    rw [List.nil_perm.mp order]
    exact ⟨count, [], [], rounds, rounds.count_le, .nil, .nil _, by simp, fun _ =>
      ⟨⟨fun _ requires => requires, by simp⟩, fun _ closed => closed.initial⟩⟩
  have work : task.hasWork context.draft target = true := by
    have occurs : target.dependencies context.draft ≠ [] := fun none => some (order.trans (none ▸ .nil)).eq_nil
    have listed : Reducer.dependencies ∈ target.reducers context.draft := by
      simp [Fragment.reducers, Fragment.has, occurs]
    rw [Reduction.hasWork, if_pos (by rw [given]; rfl), Bool.not_eq_true', List.isEmpty_eq_false_iff]
    exact List.ne_nil_of_mem listed
  have object := isObject_of_accumulates known compiled entered accumulates work
  obtain ⟨taken, perm, absorbs, applies, rests⟩ := rounds.outcome schemas object
  rw [value] at applies rests
  refine ⟨count, left, taken, rounds, rounds.count_le, perm, absorbs, fun entry inside => ?_, fun plain => ?_⟩
  · rw [← Reduction.isTriggered_iff]
    refine ⟨applies entry, fun triggered => ?_⟩
    refine (List.mem_append.mp (perm.mem_iff.mp inside)).resolve_left fun waits => ?_
    rw [rests entry waits] at triggered
    cases triggered
  · have least := rounds.isLeast plain object
    rw [value] at least
    have same : {names | ClosedNames data (target.dependencies context.draft) initial names} =
        {names | ClosedNames data entries initial names} := by
      ext names
      exact ⟨fun closed => ⟨closed.initial, fun entry inside => closed.listed entry (order.mem_iff.mp inside)⟩,
        fun closed => ⟨closed.initial, fun entry inside => closed.listed entry (order.mem_iff.mpr inside)⟩⟩
    rw [same]
    exact least

end Context

/-- Dependencies in a circle, of which one sets off the next against their order, and a further name. -/
def circularNames : Json := .obj [("dependentRequired", .obj [
  ("c", .ofStrings ["a", "d"]), ("b", .ofStrings ["c"]), ("a", .ofStrings ["b"])])]

/-- The names that a demand lists. -/
def Demand.names? : Demand → Option (List String)
  | .names listed => some listed
  | .schema _ => none

theorem Demand.eq_of_names? {demand : Demand} {listed : List String} (lists : demand.names? = some listed) :
    demand = .names listed := by
  cases demand with
  | names own => exact congrArg _ (Option.some.inj lists)
  | schema member => cases lists

/-- The folding of the root of a schema and what its dependencies make of what stands beside them. -/
def dependenciesOfRoot? (schema data : Json) : Option (Node × Folding × Json) := do
  let root ← (Compiler.standard.compile schema).toOption
  let folding := root.context.folding (root.context.judge 0) ⟨some data, .root, []⟩ root.fragment root.scope
  let entries := root.fragment.dependencies root.context.draft
  match (folding.foldDependencies (entries.length + 1) entries (folding.task.staticPart root.fragment.schema)).run with
  | some (.ok final) => return (root, folding, final)
  | _ => none

/-- Each dependency is taken in a pass of its own, and the last pass finds none. -/
theorem circularNames_fold_to_closure : ∃ root folding initial final,
    Compiler.standard.compile circularNames = .ok root ∧
    folding = root.context.folding (root.context.judge 0) ⟨some (.obj [("a", .null)]), .root, []⟩ root.fragment root.scope ∧
    (folding.foldDependencies 4 (root.fragment.dependencies root.context.draft) initial).run = some (.ok final) ∧
    IsLeast {names | ClosedNames (.obj [("a", .null)]) (root.fragment.dependencies root.context.draft) initial names}
      {name | final.Requires name} ∧ final.Requires "d" := by
  have computed : (dependenciesOfRoot? circularNames (.obj [("a", .null)])).map (fun (root, folding, final) =>
      (root.fragment.dependencies root.context.draft).length == 3 &&
      (root.fragment.dependencies root.context.draft).all (·.demand.names?.isSome) &&
      (folding.settled [.allOf, .anyOf, .oneOf]).isEmpty && Reduction.isTriggered .null final "d") = some true := by
    decide +kernel
  obtain ⟨⟨root, folding, final⟩, known, holds⟩ := Option.map_eq_some_iff.mp computed
  simp only [Bool.and_eq_true, beq_iff_eq, List.all_eq_true, List.isEmpty_iff, Reduction.isTriggered_iff] at holds
  obtain ⟨⟨⟨three, plain⟩, none⟩, required⟩ := holds
  simp only [dependenciesOfRoot?, Option.bind_eq_bind, Option.bind_eq_some_iff] at known
  obtain ⟨_, compiled, known⟩ := known
  split at known
  · rename_i answer
    cases known
    have compiled := ok_of_toOption compiled
    have sound := Node.sound_of_compile compiled
    obtain ⟨count, left, taken, rounds, -, -, -, -, least⟩ := Context.dependencies_fold_to_closure sound.index
      sound.fragment sound.scope rfl (Folding.accumulates_of_settled none) (.refl _) (Nat.lt_succ_self _) answer
    rw [three] at answer
    refine ⟨root, _, _, final, compiled, rfl, answer, least fun entry inside => ?_, ?_⟩
    · obtain ⟨names, lists⟩ := Option.isSome_iff_exists.mp (plain entry inside)
      exact ⟨names, Demand.eq_of_names? lists⟩
    · rcases required with present | required
      · cases present
      · exact required
  · cases known

end JsonSchema
