import JsonSchema.Proofs.Json.Place
import JsonSchema.Proofs.Reference.Chain

/-!
# Scopes of data that stand at another place

The data of one scope are a part of the data of another one. What is being checked in the first scope
is being checked below a place in the second one. Dynamic references ask the resources of a scope for
their anchors, the outermost first; it does not matter how often a resource was entered.
-/

namespace JsonSchema

/-- The resources, outermost first. -/
def Scope.bases (scope : Scope) : List Uri := scope.outermostFirst.map fun fragment => fragment.site.base

/-- A scope of the whole data that does for a part of them what another one does for the part alone. -/
structure Scope.Moves (p : Pointer) (scope moved : Scope) : Prop where
  resources : ∀ find : Uri → Option Fragment, moved.bases.findSome? find = scope.bases.findSome? find
  checking : ∀ location q, moved.isChecking location (p ++ q) = scope.isChecking location q

namespace Scope

variable {p : Pointer} {scope moved : Scope}

theorem bases_cons (frame : Frame) (scope : Scope) :
    bases (frame :: scope) = scope.bases ++ [frame.fragment.site.base] := by
  simp [bases, outermostFirst]

/-- In a scope without checks the place makes no difference. -/
theorem Idle.moves (idle : scope.Idle) (p : Pointer) : scope.Moves p scope := by
  have free (location : String) (q : Pointer) : scope.isChecking location q = false := by
    simp only [isChecking, List.any_eq_false]
    intro frame inside
    simp [idle frame inside]
  exact ⟨fun _ => rfl, fun location q => by rw [free, free]⟩

/-- What is entered on either side has to stand at the same site. -/
theorem Moves.enter (moves : scope.Moves p moved) {fragment other : Fragment} (same : other.site = fragment.site) :
    (scope.enter fragment).Moves p (moved.enter other) := by
  refine ⟨fun find => ?_, fun location q => ?_⟩
  · simp only [Scope.enter, bases_cons, List.findSome?_append, moves.resources, same]
  · have checking := moves.checking location q
    simp only [isChecking, Scope.enter, List.any_cons] at checking ⊢
    rw [checking]
    rfl

theorem Moves.enterAt (moves : scope.Moves p moved) {fragment other : Fragment} (same : other.site = fragment.site)
    (q : Pointer) : (scope.enterAt fragment q).Moves p (moved.enterAt other (p ++ q)) := by
  refine ⟨fun find => ?_, fun location r => ?_⟩
  · simp only [Scope.enterAt, bases_cons, List.findSome?_append, moves.resources, same]
  · have checking := moves.checking location r
    simp only [isChecking, Scope.enterAt, List.any_cons, Option.some.injEq, Fragment.location, same,
      (Pointer.append_right_injective p).eq_iff] at checking ⊢
    rw [checking]

/-- A fragment of a resource in scope that is being checked elsewhere makes no difference. -/
theorem Moves.beside (moves : scope.Moves p moved) {fragment : Fragment} {q : Pointer}
    (near : fragment.site.base ∈ scope.bases) (elsewhere : ∀ r, q ≠ p ++ r) : scope.Moves p (moved.enterAt fragment q) := by
  refine ⟨fun find => ?_, fun location r => ?_⟩
  · rw [Scope.enterAt, bases_cons, List.findSome?_append, moves.resources]
    cases found : scope.bases.findSome? find with
    | some target => rfl
    | none => simpa using List.findSome?_eq_none_iff.mp found _ near
  · have checking := moves.checking location r
    simp only [isChecking, Scope.enterAt, List.any_cons, Option.some.injEq, elsewhere r, decide_false,
      Bool.false_and, Bool.false_or] at checking ⊢
    rw [checking]

end Scope

end JsonSchema
