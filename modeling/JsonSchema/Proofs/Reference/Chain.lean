import JsonSchema.Reference

/-!
# Chains of references

A reference that is resolved leads through a chain of targets, each at another location, to a
fragment without reference. Every target on the way is entered into the scope.
-/

namespace JsonSchema

/-- No check is under way in a scope. -/
def Scope.Idle (scope : Scope) : Prop := ∀ frame ∈ scope, frame.instance? = none

theorem Scope.Idle.enter {scope : Scope} (idle : scope.Idle) (fragment : Fragment) : (scope.enter fragment).Idle :=
  List.forall_mem_cons.mpr ⟨rfl, idle⟩

namespace Context

variable {context : Context}

/-! ## One step -/

section
variable {fragment target merged : Fragment}

/-- What the keywords beside a reference are merged into is compiled at their site. -/
theorem derive_of_follow? (merges : (context.draft.mergesSiblings && hasSiblings fragment.schema) = true)
    (followed : context.follow? fragment target = some merged) :
    Fragment.derive context.draft fragment.site (merge (mergeTarget target) (siblings fragment.schema)) = .ok merged := by
  rw [follow?, if_pos merges] at followed
  dsimp only at followed
  cases derived : Fragment.derive context.draft fragment.site (merge (mergeTarget target) (siblings fragment.schema)) with
  | error fault =>
    rw [derived] at followed
    cases followed
  | ok fragment =>
    rw [derived] at followed
    cases followed
    rfl

/-- Without keywords to merge, the target stands for the fragment as it is. -/
theorem follow?_of_replaces (replaces : (context.draft.mergesSiblings && hasSiblings fragment.schema) = false) :
    context.follow? fragment target = some target := by
  rw [follow?, if_neg (by rw [replaces]; exact Bool.false_ne_true)]

/-- Only what does not compile when it is merged stands for nothing. -/
theorem follow?_eq_none : context.follow? fragment target = none ↔
    (context.draft.mergesSiblings && hasSiblings fragment.schema) = true ∧ ∃ fault,
      Fragment.derive context.draft fragment.site (merge (mergeTarget target) (siblings fragment.schema)) =
        .error fault := by
  cases merges : context.draft.mergesSiblings && hasSiblings fragment.schema with
  | false => simp [follow?_of_replaces merges]
  | true =>
    rw [follow?, if_pos merges]
    dsimp only
    cases Fragment.derive context.draft fragment.site (merge (mergeTarget target) (siblings fragment.schema)) <;>
      simp [Except.toOption]

end

/-! ## Chains -/

/-- The chain from a fragment, by targets at none of the locations seen so far, to the fragment it
ends at and the scope inside it. -/
inductive Chain (context : Context) : List String → Fragment → Scope → Fragment → Scope → Prop where
  | ended {seen : List String} {current : Fragment} {scope : Scope}
      (settled : current.reference? context.draft = none) : Chain context seen current scope current scope
  | hop {seen : List String} {current target next final : Fragment} {scope inner : Scope}
      {keyword : ReferenceKeyword} {reference : String}
      (refers : current.reference? context.draft = some (keyword, reference))
      (found : context.target? current keyword reference scope = some target)
      (unseen : target.location ∉ seen)
      (followed : context.follow? current target = some next)
      (rest : Chain context (target.location :: seen) next (scope.enter target) final inner) :
      Chain context seen current scope final inner

theorem chain_of_followChain {fuel : Nat} {seen : List String} {current final : Fragment}
    {scope inner : Scope} (resolved : context.followChain fuel seen current scope = .resolved final inner) :
    Chain context seen current scope final inner := by
  induction fuel generalizing seen current scope with
  | zero =>
    unfold followChain at resolved
    split at resolved
    · rename_i settled
      cases resolved
      exact .ended settled
    · split at resolved
      · cases resolved
      · split at resolved <;> cases resolved
  | succ fuel ih =>
    unfold followChain at resolved
    split at resolved
    · rename_i settled
      cases resolved
      exact .ended settled
    · rename_i keyword reference refers
      split at resolved
      · cases resolved
      · rename_i target found
        split at resolved
        · cases resolved
        · rename_i unseen
          split at resolved
          · rename_i next fuelSame followed
            cases fuelSame
            exact .hop refers found (by simpa using unseen) followed (ih resolved)
          · cases resolved

theorem followChain_ne_plain (fuel : Nat) (seen : List String) (current : Fragment) (scope : Scope) :
    context.followChain fuel seen current scope ≠ .plain := by
  induction fuel generalizing seen current scope with
  | zero =>
    unfold followChain
    split
    · simp
    · split
      · simp
      · split <;> simp
  | succ fuel ih =>
    unfold followChain
    split
    · simp
    · split
      · simp
      · split
        · simp
        · split
          · rename_i fuelSame _
            cases fuelSame
            exact ih _ _ _
          · simp

/-- Only a fragment without reference is plain. -/
theorem resolve_eq_plain {fragment : Fragment} {scope : Scope} :
    context.resolve fragment scope = .plain ↔ fragment.reference? context.draft = none := by
  unfold resolve
  cases refers : fragment.reference? context.draft with
  | none => simp
  | some reference => simpa using followChain_ne_plain _ _ _ _

theorem chain_of_resolve {fragment final : Fragment} {scope inner : Scope}
    (resolved : context.resolve fragment scope = .resolved final inner) :
    Chain context [] fragment scope final inner := by
  unfold resolve at resolved
  split at resolved
  · cases resolved
  · exact chain_of_followChain resolved

/-- The fragment that a fragment stands for, and the scope inside it. -/
def inside? (context : Context) (fragment : Fragment) (scope : Scope) : Option (Fragment × Scope) :=
  match context.resolve fragment scope with
  | .plain => some (fragment, scope)
  | .resolved target inner => some (target, inner)
  | .unresolved _ => none

/-- A fragment without reference stands for itself. -/
theorem inside?_of_settled {fragment : Fragment} {scope : Scope} (settled : fragment.reference? context.draft = none) :
    context.inside? fragment scope = some (fragment, scope) := by
  rw [inside?, resolve_eq_plain.mpr settled]

/-- What a fragment stands for is the end of its chain. -/
theorem chain_of_inside? {fragment target : Fragment} {scope inner : Scope}
    (inside : context.inside? fragment scope = some (target, inner)) :
    Chain context [] fragment scope target inner := by
  unfold inside? at inside
  split at inside
  · rename_i plain
    cases inside
    exact .ended (resolve_eq_plain.mp plain)
  · rename_i resolved
    cases inside
    exact chain_of_resolve resolved
  · cases inside

theorem settle_eq_of_inside? {fragment target : Fragment} {scope inner : Scope}
    (inside : context.inside? fragment scope = some (target, inner)) :
    context.settle fragment scope = target := by
  unfold inside? at inside
  unfold settle
  split at inside <;> simp_all

/-- A fragment settles as itself or as the end of its chain. -/
theorem settle_eq_or_chain (fragment : Fragment) (scope : Scope) :
    context.settle fragment scope = fragment ∨
      ∃ inner, Chain context [] fragment scope (context.settle fragment scope) inner := by
  unfold settle
  split
  · rename_i target inner resolved
    exact .inr ⟨inner, chain_of_resolve resolved⟩
  · exact .inl rfl

/-- The scope grows along a chain. -/
theorem Chain.scope {seen : List String} {current final : Fragment} {scope inner : Scope}
    (chain : Chain context seen current scope final inner) : scope <:+ inner := by
  induction chain with
  | ended => exact List.suffix_rfl
  | hop _ _ _ _ _ ih => exact (List.suffix_cons _ _).trans ih

/-- Following references checks nothing. -/
theorem Chain.idle {seen : List String} {fragment target : Fragment} {scope inner : Scope}
    (chain : Chain context seen fragment scope target inner) (idle : scope.Idle) : inner.Idle := by
  induction chain with
  | ended => exact idle
  | hop _ _ _ _ _ ih => exact ih (idle.enter _)

end Context
end JsonSchema
