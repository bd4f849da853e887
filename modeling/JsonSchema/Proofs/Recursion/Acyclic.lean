import JsonSchema.Proofs.Check.Relocation
import JsonSchema.Proofs.Check.Scopes
import JsonSchema.Proofs.Node.Handle
import JsonSchema.Proofs.Recursion.Depth
import JsonSchema.Proofs.Recursion.Unwinding
import JsonSchema.Proofs.Reference.Static

/-!
# References without cycles

Where no way along references and subschemas comes to a location twice, validation and reduction
unwind for all data, in a number of steps that depends on the schema only. Nor does it matter through
which scope such a schema is reached. Without references this is always so, as every location is longer
than the last.
-/

namespace JsonSchema

/-- All checks that are going on in a scope are at some locations. -/
def Scope.ChecksWithin (scope : Scope) (locations : List String) : Prop :=
  ∀ frame ∈ scope, frame.instance? ≠ none → frame.fragment.location ∈ locations

namespace Scope.ChecksWithin

variable {scope : Scope} {locations others : List String}

theorem mono (within : scope.ChecksWithin locations) (sub : locations ⊆ others) : scope.ChecksWithin others :=
  fun frame inside checked => sub (within frame inside checked)

theorem enter (within : scope.ChecksWithin locations) (fragment : Fragment) :
    (scope.enter fragment).ChecksWithin locations := by
  intro frame inside checked
  rcases List.mem_cons.mp inside with rfl | outer
  · exact absurd rfl checked
  · exact within frame outer checked

theorem enterAt (within : scope.ChecksWithin locations) (fragment : Fragment) (pointer : Pointer) :
    (scope.enterAt fragment pointer).ChecksWithin (fragment.location :: locations) := by
  intro frame inside checked
  rcases List.mem_cons.mp inside with rfl | outer
  · exact List.mem_cons_self
  · exact List.mem_cons_of_mem _ (within frame outer checked)

theorem not_isChecking (within : scope.ChecksWithin locations) {location : String} (fresh : location ∉ locations)
    (pointer : Pointer) : scope.isChecking location pointer = false := by
  rw [isChecking, List.any_eq_false]
  intro frame inside checked
  obtain ⟨instance?, same⟩ := Bool.and_eq_true_iff.mp checked
  have known : frame.instance? ≠ none := by simp [of_decide_eq_true instance?]
  exact fresh (beq_iff_eq.mp same ▸ within frame inside known)

end Scope.ChecksWithin

theorem Scope.Idle.checksWithin {scope : Scope} (idle : scope.Idle) (locations : List String) :
    scope.ChecksWithin locations := fun frame inside checked => absurd (idle frame inside) checked

namespace Context

variable {context : Context} {f g : Fragment} {scope inner left right : Scope} {seen others : List String}
  {steps more : Nat}

/-! ## Ways along references and subschemas -/

/-- The fragments on the ways from a fragment along subschemas, with the references of each of them followed. -/
inductive WayTo (context : Context) : Fragment → Fragment → Prop where
  | here (f : Fragment) (scope : Scope) : WayTo context f (context.settle f scope)
  | deeper {f child last : Fragment} (scope : Scope) (has : (context.settle f scope).HasChild child)
      (later : WayTo context child last) : WayTo context f last

/-- In every scope a fragment stands for another one. -/
def StandsFor (context : Context) (f target : Fragment) : Prop :=
  ∀ scope, ∃ inner, context.inside? f scope = some (target, inner)

/-- Every reference on a way from a fragment leads to the same target in all scopes. No way has more than a number of
steps, comes to one of the locations seen so far or comes to any location twice, and no fragment on it asks for what
is unevaluated. -/
inductive Acyclic (context : Context) : Nat → List String → Fragment → Prop where
  | intro {steps : Nat} {seen : List String} {f target : Fragment}
      (stands : context.StandsFor f target) (fresh : f.location ∉ seen) (free : target.location ∉ seen)
      (evaluated : ¬ target.LooksAround context.draft)
      (below : ∀ child, target.HasChild child → Acyclic context steps (target.location :: f.location :: seen) child) :
      Acyclic context (steps + 1) seen f

namespace Acyclic

theorem mono (acyclic : context.Acyclic steps seen f) (le : steps ≤ more) (sub : others ⊆ seen) :
    context.Acyclic more others f := by
  induction acyclic generalizing more others with
  | intro stands fresh free evaluated _ ih =>
    obtain ⟨more, rfl⟩ := Nat.exists_eq_add_one_of_ne_zero (Nat.ne_of_gt (Nat.lt_of_lt_of_le (Nat.succ_pos _) le))
    exact .intro stands (fun known => fresh (sub known)) (fun known => free (sub known)) evaluated fun child has =>
      ih child has (Nat.le_of_succ_le_succ le) (List.cons_subset_cons _ (List.cons_subset_cons _ sub))

/-- What a fragment stands for has the same ways. -/
theorem target {last : Fragment} (acyclic : context.Acyclic steps seen f)
    (inside : context.inside? f scope = some (last, inner)) : context.Acyclic steps seen last := by
  cases acyclic with
  | intro stands fresh free evaluated below =>
    obtain ⟨_, same⟩ := stands scope
    cases same.symm.trans inside
    have settled := (chain_of_inside? inside).settled
    exact .intro (fun scope => ⟨scope, inside?_of_settled settled⟩) free free evaluated fun child has =>
      (below child has).mono (Nat.le_refl _) (by simp)

theorem steps_pos (acyclic : context.Acyclic steps seen f) : 0 < steps := by
  cases acyclic
  exact Nat.succ_pos _

theorem settle_eq (acyclic : context.Acyclic steps seen f) (left right : Scope) :
    context.settle f left = context.settle f right := by
  cases acyclic with
  | intro stands =>
    obtain ⟨_, inside⟩ := stands left
    obtain ⟨_, inside'⟩ := stands right
    rw [settle_eq_of_inside? inside, settle_eq_of_inside? inside']

theorem eq_of_inside? {target target' : Fragment} {scope' inner' : Scope} (acyclic : context.Acyclic steps seen f)
    (inside : context.inside? f scope = some (target, inner)) (inside' : context.inside? f scope' = some (target', inner')) :
    target = target' := by
  rw [← settle_eq_of_inside? inside, ← settle_eq_of_inside? inside', acyclic.settle_eq]

theorem standsFor (acyclic : context.Acyclic steps seen f) (scope : Scope) : context.StandsFor f (context.settle f scope) := by
  cases acyclic with
  | intro stands =>
    obtain ⟨inner, inside⟩ := stands scope
    rwa [settle_eq_of_inside? inside]

theorem settle_location_not_mem (acyclic : context.Acyclic steps seen f) (scope : Scope) :
    (context.settle f scope).location ∉ seen := by
  cases acyclic with
  | intro stands _ free =>
    obtain ⟨_, inside⟩ := stands scope
    rwa [settle_eq_of_inside? inside]

/-- The children of what a fragment stands for have fewer steps. -/
theorem child {part : Fragment} (acyclic : context.Acyclic steps seen f) (scope : Scope)
    (has : (context.settle f scope).HasChild part) :
    ∃ fewer, steps = fewer + 1 ∧ context.Acyclic fewer ((context.settle f scope).location :: f.location :: seen) part := by
  cases acyclic with
  | intro stands _ _ _ below =>
    obtain ⟨_, inside⟩ := stands scope
    rw [settle_eq_of_inside? inside] at has ⊢
    exact ⟨_, rfl, below part has⟩

/-- So does what is near to it. -/
theorem near {target member : Fragment} {judge : Judge} {data : Json} {pointer : Pointer} {inner' : Scope}
    (acyclic : context.Acyclic steps seen f) (inside : context.inside? f scope = some (target, inner))
    (near : (Visit.mk context judge target data pointer inner').Near member) : ∃ fewer others, fewer < steps ∧
      target.location :: f.location :: seen ⊆ others ∧ context.Acyclic fewer others member := by
  obtain rfl := settle_eq_of_inside? inside
  rcases near with has | ⟨between, has, deeper⟩
  · obtain ⟨fewer, rfl, below⟩ := acyclic.child scope has
    exact ⟨fewer, _, Nat.lt_succ_self _, List.Subset.refl _, below⟩
  · obtain ⟨_, rfl, between⟩ := acyclic.child scope has
    obtain ⟨fewer, rfl, below⟩ := between.child inner' deeper
    exact ⟨fewer, _, by omega, List.subset_cons_of_subset _ (List.subset_cons_self _ _), below⟩

theorem evaluated_of_wayTo (acyclic : context.Acyclic steps seen f) (way : context.WayTo f g) :
    ¬ g.LooksAround context.draft := by
  induction way generalizing steps seen with
  | here f scope =>
    cases acyclic with
    | intro stands _ _ evaluated =>
      obtain ⟨_, inside⟩ := stands scope
      rwa [settle_eq_of_inside? inside]
  | deeper scope has _ ih =>
    obtain ⟨_, -, below⟩ := acyclic.child scope has
    exact ih below

end Acyclic

/-- Nothing is checked on the way along a chain of references. -/
theorem Chain.checksWithin {before : List String} {target : Fragment} (chain : Chain context before f scope target inner)
    (within : scope.ChecksWithin seen) : inner.ChecksWithin seen := by
  induction chain with
  | ended => exact within
  | hop _ _ _ _ _ ih => exact ih (within.enter _)

/-- What a fragment stands for is inside it, if it makes no reference. -/
theorem exists_inside?_of_settled (settled : (context.settle f scope).reference? context.draft = none) :
    ∃ inner, context.inside? f scope = some (context.settle f scope, inner) := by
  unfold settle at settled ⊢
  unfold inside?
  cases resolution : context.resolve f scope with
  | plain => exact ⟨scope, rfl⟩
  | resolved target inner => exact ⟨inner, rfl⟩
  | unresolved reference =>
    rw [resolution] at settled
    rw [resolve_eq_plain.mpr settled] at resolution
    cases resolution

/-- A fragment that stands for another one comes to what that one comes to. -/
theorem WayTo.of_settle (way : context.WayTo (context.settle f scope) g) : context.WayTo f g := by
  have again (other : Scope) : ∃ scope', context.settle (context.settle f scope) other = context.settle f scope' := by
    rcases context.settle_eq_or_chain f scope with same | ⟨inner, chain⟩
    · exact ⟨other, by rw [same]⟩
    · exact ⟨scope, settle_eq_of_inside? (inside?_of_settled chain.settled)⟩
  cases way with
  | here _ other =>
    obtain ⟨scope', same⟩ := again other
    rw [same]
    exact .here f scope'
  | deeper other has later =>
    obtain ⟨scope', same⟩ := again other
    rw [same] at has
    exact .deeper scope' has later

/-- The ways from a fragment of a family stay in the family, if references and subschemas do. -/
theorem WayTo.stays {family : Fragment → Prop} (way : context.WayTo f g) (leads : context.LeadsWithin family)
    (child : ∀ {f c : Fragment}, family f → f.HasChild c → family c) (own : family f) : family g := by
  have settle {f : Fragment} (own : family f) (scope : Scope) : family (context.settle f scope) := by
    rcases context.settle_eq_or_chain f scope with same | ⟨inner, chain⟩
    · rwa [same]
    · exact (leads.chain chain own).1
  induction way with
  | here f scope => exact settle own scope
  | deeper scope has _ ih => exact ih (child (settle own scope) has)

/-- What an inquiry leads to is on the ways from its fragment, as long as nothing there asks for what is unevaluated. -/
theorem Leads.wayTo {q r : Inquiry} (leads : context.Leads q r)
    (evaluated : ∀ g, context.WayTo q.fragment g → ¬ g.LooksAround context.draft) (way : context.WayTo r.fragment g) :
    context.WayTo q.fragment g := by
  have inside : r.fragment ∈ {f | ∀ g, context.WayTo f g → context.WayTo q.fragment g} :=
    leads.stays (fun f known scope g way => known g way.of_settle)
      (fun f known scope child has g way => known g (.deeper scope has way))
      (fun f known scope occurs => evaluated _ (known _ (.here f scope)) (.inl occurs)) fun g way => way
  exact inside g way

/-! ## Unwinding -/

/-- All checks of a fragment unwind where only locations seen so far are being checked. -/
def ChecksUnwind (context : Context) (seen : List String) (f : Fragment) : Prop :=
  ∀ scope : Scope, scope.ChecksWithin seen → ∀ data pointer, context.Unwinds (.check f data pointer scope)

def ReductionsUnwind (context : Context) (seen : List String) (f : Fragment) : Prop :=
  ∀ scope : Scope, scope.ChecksWithin seen → ∀ task, context.Unwinds (.reduction task f scope)

private theorem unwinds_within (acyclic : context.Acyclic steps seen f) :
    context.ChecksUnwind seen f ∧ context.ReductionsUnwind (f.location :: seen) f := by
  induction steps using Nat.strong_induction_on generalizing f seen with
  | _ steps ih =>
    have whole := acyclic
    cases acyclic with
    | @intro steps _ _ target stands fresh _ evaluated below =>
      obtain ⟨_, leads⟩ := stands []
      have near {judge : Judge} {data : Json} {pointer : Pointer} {inner : Scope} {child : Fragment}
          (near : (Visit.mk context judge target data pointer inner).Near child)
          (within : inner.ChecksWithin (target.location :: f.location :: seen)) (part : Json) (place : Pointer) :
          context.Unwinds (.check child part place inner) := by
        obtain ⟨fewer, others, less, sub, acyclic⟩ := whole.near leads near
        exact (ih fewer less acyclic).1 inner (within.mono sub) part place
      -- what stands for the same as the fragment reduces the same children
      have same (g : Fragment) (scope : Scope) (task : Reduction)
          (leads : ∀ last inner, context.inside? g (scope.enter g) = some (last, inner) →
            last = target ∧ inner.ChecksWithin (target.location :: f.location :: seen)) :
          context.Unwinds (.reduction task g scope) := by
        refine .intro (fun cut => cut) fun r needs => ?_
        obtain ⟨last, inner, inside, -, next⟩ := context.next_of_needs needs
        obtain ⟨rfl, within⟩ := leads last inner inside
        cases r with
        | check child part place inner' =>
          obtain ⟨rfl, -, beside⟩ := next
          exact near beside within part place
        | reduction task' child inner' =>
          obtain ⟨rfl, -, has⟩ := next
          exact (ih steps (Nat.lt_succ_self _) (below child has)).2 _ (within.mono (List.subset_cons_self _ _)) task'
      refine ⟨fun scope within data pointer => ?_, fun scope within task => ?_⟩
      · refine .intro (by simp [Inquiry.IsCut, within.not_isChecking fresh pointer]) fun r needs => ?_
        obtain ⟨-, last, inner, inside, next⟩ := context.next_of_needs needs
        have entered := ((chain_of_inside? inside).checksWithin (within.enterAt f pointer)).mono
          (List.subset_cons_self target.location _)
        obtain rfl : target = last := whole.eq_of_inside? leads inside
        cases r with
        | check child part place inner' =>
          obtain ⟨rfl, -, beside | occurs⟩ := next
          · exact near beside entered part place
          · exact absurd (.inl occurs) evaluated
        | reduction task reduced inner' =>
          obtain ⟨rfl, -, rfl⟩ := next
          refine same _ _ task fun last inner' again => ?_
          rw [inside?_of_settled (chain_of_inside? inside).settled] at again
          cases again
          exact ⟨rfl, entered.enter _⟩
      · refine same f scope task fun last inner inside => ⟨whole.eq_of_inside? inside leads, ?_⟩
        exact ((chain_of_inside? inside).checksWithin (within.enter f)).mono (List.subset_cons_self _ _)

/-- Without cycles all checks and all reductions unwind. -/
theorem Acyclic.unwinds (acyclic : context.Acyclic steps [] f) (idle : scope.Idle) :
    (∀ data pointer, context.Unwinds (.check f data pointer scope)) ∧ ∀ task, context.Unwinds (.reduction task f scope) := by
  obtain ⟨checks, reductions⟩ := unwinds_within acyclic
  exact ⟨checks scope (idle.checksWithin _), reductions scope (idle.checksWithin _)⟩

/-! ## Scopes -/

/-- A fragment that asks for nothing unevaluated is checked alike in two scopes in which all that is near it is. -/
theorem validateSettled_eq_of_near {judge : Judge} {target : Fragment} {data : Json} {pointer : Pointer}
    (evaluated : ¬ target.LooksAround context.draft)
    (settles : ∀ child, target.HasChild child → context.settle child left = context.settle child right)
    (near : ∀ child, (Visit.mk context judge target data pointer right).Near child → ∀ value place,
      judge.validate child value place left = judge.validate child value place right) :
    context.validateSettled judge target data pointer left = context.validateSettled judge target data pointer right :=
  validateSettled_inScope {
    selects := {
      settled := fun _ listed => settles _ (Fragment.hasChild_of_members listed)
      member := fun member listed => near member (.inl (Fragment.hasChild_of_members listed)) _ _
      property := fun _ listed child _ _ has => near child (.inr ⟨_, Fragment.hasChild_of_members listed, has⟩) _ _ }
    here := fun child here => near child (.inl here.hasChild) _ _
    child := fun child has _ _ => near child (.inl has) _ _
    shape := fun asks => absurd asks evaluated
    shaped := fun asks => absurd asks evaluated }

/-- In two scopes in which only locations seen so far are being checked the same is found. -/
theorem Acyclic.validate_alike (acyclic : context.Acyclic steps seen f) (within : left.ChecksWithin seen)
    (within' : right.ChecksWithin seen) (depth : Nat) (data : Json) (pointer : Pointer) :
    (context.judge depth).validate f data pointer left = (context.judge depth).validate f data pointer right := by
  induction steps using Nat.strong_induction_on generalizing f seen left right depth data pointer with
  | _ steps ih =>
    cases depth with
    | zero => rfl
    | succ depth =>
      have whole := acyclic
      cases acyclic with
      | @intro steps _ _ target stands fresh _ evaluated below =>
        obtain ⟨inner, inside⟩ := stands (left.enterAt f pointer)
        obtain ⟨inner', inside'⟩ := stands (right.enterAt f pointer)
        change context.validateStep _ f data pointer left = context.validateStep _ f data pointer right
        rw [validateStep_of_inside? (within.not_isChecking fresh pointer) inside,
          validateStep_of_inside? (within'.not_isChecking fresh pointer) inside']
        refine validateSettled_eq_of_near evaluated (fun child has => (below child has).settle_eq _ _) fun child near value place => ?_
        obtain ⟨fewer, others, less, sub, acyclic⟩ := whole.near inside near
        have entered := (chain_of_inside? inside).checksWithin (within.enterAt f pointer)
        have entered' := (chain_of_inside? inside').checksWithin (within'.enterAt f pointer)
        have further := List.Subset.trans (List.subset_cons_self target.location _) sub
        exact ih fewer less acyclic (entered.mono further) (entered'.mono further) depth value place

/-- So is what the fragment stands for, from the inside. -/
theorem Acyclic.validateSettled_alike {target : Fragment} (acyclic : context.Acyclic steps seen f)
    (inside : context.inside? f scope = some (target, inner)) (within : left.ChecksWithin (target.location :: f.location :: seen))
    (within' : right.ChecksWithin (target.location :: f.location :: seen)) (depth : Nat) (data : Json) (pointer : Pointer) :
    context.validateSettled (context.judge depth) target data pointer left =
      context.validateSettled (context.judge depth) target data pointer right := by
  refine validateSettled_eq_of_near (settle_eq_of_inside? inside ▸ acyclic.evaluated_of_wayTo (.here f scope))
    (fun child has => ?_) fun child near value place => ?_
  · rw [← settle_eq_of_inside? inside] at has
    obtain ⟨_, -, below⟩ := acyclic.child scope has
    exact below.settle_eq left right
  · obtain ⟨_, _, -, sub, acyclic⟩ := acyclic.near inside near
    exact acyclic.validate_alike (within.mono sub) (within'.mono sub) depth value place

/-- A fragment is checked like the one it stands for. -/
theorem Acyclic.validate_of_inside? {target : Fragment} (acyclic : context.Acyclic steps [] f) (idle : scope.Idle)
    (quiet : inner.Idle) (inside : context.inside? f (scope.enter f) = some (target, inner)) (depth : Nat) (data : Json)
    (pointer : Pointer) :
    (context.judge depth).validate target data pointer inner = (context.judge depth).validate f data pointer scope := by
  cases depth with
  | zero => rfl
  | succ depth =>
    obtain ⟨marked, inside'⟩ := acyclic.standsFor (scope.enter f) (scope.enterAt f pointer)
    rw [settle_eq_of_inside? inside] at inside'
    change context.validateStep _ target data pointer inner = context.validateStep _ f data pointer scope
    rw [validateStep_of_inside? (idle.not_isChecking _ _) inside',
      validateStep_of_inside? (quiet.not_isChecking _ _) (inside?_of_settled (chain_of_inside? inside).settled)]
    refine acyclic.validateSettled_alike inside ?_ ?_ depth data pointer
    · exact (quiet.checksWithin [f.location]).enterAt target pointer
    · exact ((chain_of_inside? inside').checksWithin ((idle.checksWithin []).enterAt f pointer)).mono (List.subset_cons_self _ _)

/-! ## The depth that suffices -/

/-- Checks and reductions nest no deeper than a number below an inquiry: a check comes to the reduction of what its
fragment stands for before it comes to a subschema. -/
def Nests (context : Context) (n : Nat) : Inquiry → Prop
  | .check f _ _ _ => ∃ steps seen, context.Acyclic steps seen f ∧ 2 * steps ≤ n
  | .reduction _ f _ => ∃ steps seen, context.Acyclic steps seen f ∧ 2 * steps ≤ n + 1

theorem Nests.next {n : Nat} {q next : Inquiry} (nests : context.Nests n q) (leads : context.Next q next) :
    ∃ fewer, fewer < n ∧ context.Nests fewer next := by
  cases q with
  | check f data pointer scope =>
    obtain ⟨steps, seen, acyclic, bound⟩ := nests
    obtain ⟨-, target, inner, inside, step⟩ := leads
    cases next with
    | check member part place inner' =>
      obtain ⟨-, -, near | occurs⟩ := step
      · obtain ⟨fewer, others, less, -, acyclic⟩ := acyclic.near inside near
        exact ⟨2 * fewer, by omega, fewer, others, acyclic, Nat.le_refl _⟩
      · exact absurd (.inl occurs) (settle_eq_of_inside? inside ▸ acyclic.evaluated_of_wayTo (.here f _))
    | reduction task reduced inner' =>
      obtain ⟨-, -, rfl⟩ := step
      have positive := acyclic.steps_pos
      exact ⟨2 * steps - 1, by omega, _, seen, acyclic.target inside, by omega⟩
  | reduction task f scope =>
    obtain ⟨steps, seen, acyclic, bound⟩ := nests
    obtain ⟨target, inner, inside, -, step⟩ := leads
    cases next with
    | check member part place inner' =>
      obtain ⟨-, -, near⟩ := step
      obtain ⟨fewer, others, less, -, acyclic⟩ := acyclic.near inside near
      exact ⟨2 * fewer, by omega, fewer, others, acyclic, Nat.le_refl _⟩
    | reduction task' member inner' =>
      obtain ⟨-, -, has⟩ := step
      obtain rfl := settle_eq_of_inside? inside
      obtain ⟨fewer, rfl, below⟩ := acyclic.child _ has
      exact ⟨2 * fewer, by omega, fewer, _, below, Nat.le_succ _⟩

/-- The depth allowed for any data suffices where no way has many more steps than the index has room for. -/
theorem Acyclic.answer_ne_none {q : Inquiry} (acyclic : context.Acyclic steps seen q.fragment)
    (few : steps ≤ context.index.capacity + 3) (data : Json) : (context.judge (context.depthFor data)).answer q ≠ none := by
  have nests : context.Nests (2 * steps) q := by cases q <;> exact ⟨steps, seen, acyclic, by omega⟩
  refine answer_ne_none_of_lowers (fun _ _ _ nests leads => Nests.next nests leads) nests ?_
  calc 2 * steps
      ≤ 2 * (context.index.capacity + 3) := Nat.mul_le_mul_left _ few
    _ < 2 * (context.index.capacity + 16) := by omega
    _ ≤ (context.index.capacity + 16) * (context.index.capacity + 16) := Nat.mul_le_mul_right _ (by omega)
    _ ≤ context.depthFor data := Nat.le_mul_of_pos_right _ (Nat.succ_pos _)

/-! ## Ways that are walked -/

/-- Whether the ways from a fragment end within a number of steps without coming back, and all fragments on them pass a
test. References are followed in the empty scope. -/
def waysPass (context : Context) (test : Fragment → Bool) : Nat → List String → Fragment → Bool
  | 0, _, _ => false
  | steps + 1, seen, f =>
    let target := context.settle f []
    (target.reference? context.draft).isNone && !seen.contains f.location && !seen.contains target.location &&
      !decide (target.LooksAround context.draft) && test target &&
      target.children.all fun entry => context.waysPass test steps (target.location :: f.location :: seen) entry.2

/-- Where nothing refers dynamically, all scopes lead along the ways that were walked. -/
theorem acyclic_of_waysPass (static : context.Static) (own : f.IsStatic context.draft) {test : Fragment → Bool}
    (passes : context.waysPass test steps seen f = true) :
    context.Acyclic steps seen f ∧ ∀ g, context.WayTo f g → test g = true := by
  have guides := static.guides (R := fun _ _ => True) fun _ _ => trivial
  induction steps generalizing f seen with
  | zero => cases passes
  | succ steps ih =>
    simp only [waysPass, Bool.and_eq_true, Option.isNone_iff_eq_none, Bool.not_eq_true', List.all_eq_true,
      decide_eq_false_iff_not, List.contains_eq_mem] at passes
    obtain ⟨⟨⟨⟨⟨settled, fresh⟩, free⟩, evaluated⟩, passed⟩, below⟩ := passes
    have same (scope : Scope) : context.settle f scope = context.settle f [] := guides.settle trivial own
    have stands : context.StandsFor f (context.settle f []) := fun scope => by
      obtain ⟨inner, inside⟩ := exists_inside?_of_settled settled
      obtain ⟨inner', inside', -⟩ := guides.inside? trivial own inside
      exact ⟨inner', inside'⟩
    have later (child : Fragment) (has : (context.settle f []).HasChild child) :=
      have ⟨slot, listed⟩ := has
      ih ((static.settle own []).child has) (below (slot, child) listed)
    refine ⟨.intro stands fresh free evaluated fun child has => (later child has).1, fun g way => ?_⟩
    cases way with
    | here _ scope => rwa [same]
    | deeper scope has way =>
      rw [same] at has
      exact (later _ has).2 g way

end Context

/-! ## Plain schemas -/

/-- A fragment that was compiled from a plain schema. -/
structure Fragment.IsPlain (draft : Draft) (f : Fragment) : Prop where
  schema : f.schema.Plain draft
  compiled : f.IsCompiled draft

namespace Fragment.IsPlain

variable {context : Context} {f g : Fragment}

theorem reference?_eq_none (plain : f.IsPlain context.draft) : f.reference? context.draft = none :=
  have ⟨_, _, compiled⟩ := plain.compiled
  plain.schema.reference?_eq_none compiled

theorem child (plain : f.IsPlain context.draft) (has : f.HasChild g) : g.IsPlain context.draft := by
  obtain ⟨source, outer, compiled⟩ := plain.compiled
  obtain ⟨_, _, schema, compiled, -⟩ := plain.schema.location_lt_of_hasChild compiled has
  exact ⟨compiled.schema_eq.symm ▸ schema, plain.compiled.child has⟩

theorem not_looksAround (plain : f.IsPlain context.draft) : ¬ f.LooksAround context.draft := by
  intro occurs
  have schema := plain.schema
  unfold LooksAround keywords at occurs
  cases shape : f.schema with
  | obj members =>
    rw [shape] at schema occurs
    have apart {keyword : Keyword} (listed : keyword ∈ context.draft.keywords.filter (·.isPresent context.draft members)) :=
      Context.not_isPresent_unevaluated schema (List.mem_filter.mp listed).2
    exact occurs.elim (fun listed => (apart listed).1 rfl) fun listed => (apart listed).2 rfl
  | _ => simp [shape] at occurs

/-- From a plain fragment one comes to plain fragments only, and to none that is deeper. -/
theorem of_wayTo (plain : f.IsPlain context.draft) (way : context.WayTo f g) :
    g.IsPlain context.draft ∧ g.schema.depth ≤ f.schema.depth := by
  induction way with
  | here f scope =>
    rw [Context.settle_eq plain.reference?_eq_none]
    exact ⟨plain, Nat.le_refl _⟩
  | deeper scope has _ ih =>
    rw [Context.settle_eq plain.reference?_eq_none] at has
    obtain ⟨below, shallow⟩ := ih (plain.child has)
    exact ⟨below, shallow.trans (Nat.le_of_lt (plain.compiled.depth_lt has))⟩

private theorem acyclic_within (plain : f.IsPlain context.draft) {steps : Nat} {seen : List String}
    (deep : f.schema.depth < steps) (longer : ∀ location ∈ seen, location.length < f.location.length) :
    context.Acyclic steps seen f := by
  induction steps generalizing f seen with
  | zero => cases deep
  | succ steps ih =>
    have fresh : f.location ∉ seen := fun known => Nat.lt_irrefl _ (longer _ known)
    refine .intro (fun scope => ⟨scope, Context.inside?_of_settled plain.reference?_eq_none⟩) fresh fresh plain.not_looksAround
      fun child has => ?_
    have shallower := plain.compiled.depth_lt has
    have further : f.location.length < child.location.length := by
      obtain ⟨source, outer, compiled⟩ := plain.compiled
      obtain ⟨_, _, -, -, further⟩ := plain.schema.location_lt_of_hasChild compiled has
      exact further
    refine ih (plain.child has) (by omega) fun location known => ?_
    rcases List.mem_cons.mp known with rfl | known
    · exact further
    · rcases List.mem_cons.mp known with rfl | before
      · exact further
      · exact (longer location before).trans further

/-- Without references there are no cycles. -/
theorem acyclic (plain : f.IsPlain context.draft) {steps : Nat} (deep : f.schema.depth < steps) :
    context.Acyclic steps [] f := plain.acyclic_within deep fun _ known => absurd known List.not_mem_nil

end Fragment.IsPlain

/-- From the root of a plain schema no way comes back, and none is longer than the index has room for. -/
theorem Compiler.acyclic_of_plain {compiler : Compiler} {schema : Json} {root : Node}
    (compiled : compiler.compile schema = .ok root) (plain : schema.Plain (compiler.draftFor schema)) :
    root.context.Acyclic (root.context.index.capacity + 3) [] root.fragment := by
  obtain ⟨draft, -, -, position, known⟩ := Compiler.root_of_compile compiled
  have shape : root.fragment.schema = schema := (Fragment.compile_eq_ok.mp known).schema_eq
  have plain : root.fragment.IsPlain root.context.draft :=
    ⟨by rwa [shape, draft], (Node.sound_of_compile compiled).fragment⟩
  refine plain.acyclic ?_
  calc root.fragment.schema.depth
      ≤ schema.size := shape ▸ root.fragment.schema.depth_le_size
    _ ≤ root.context.index.capacity := Compiler.size_le_capacity compiled
    _ < root.context.index.capacity + 3 := Nat.lt_add_of_pos_right (Nat.succ_pos _)

/-- The root of a plain schema checks and reduces all data without coming back to anything. -/
theorem Compiler.unwinds_of_plain {compiler : Compiler} {schema : Json} {root : Node}
    (compiled : compiler.compile schema = .ok root) (plain : schema.Plain (compiler.draftFor schema)) :
    (∀ data pointer, root.context.Unwinds (.check root.fragment data pointer root.scope)) ∧
      ∀ task, root.context.Unwinds (.reduction task root.fragment root.scope) :=
  (Compiler.acyclic_of_plain compiled plain).unwinds (Node.sound_of_compile compiled).idle

end JsonSchema
