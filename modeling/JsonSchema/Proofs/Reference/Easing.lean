import JsonSchema.Proofs.Reference.Guidance
import Mathlib.Data.List.Forall2

/-!
# Scopes with fewer checks going on

Where a reference leads depends on the fragments in the scope alone. A scope with the same fragments,
in which fewer checks are going on, gives the same target.
-/

namespace JsonSchema

/-- A scope with the same fragments, each of which is checked at the same place or at none. -/
def Scope.Eases (eased scope : Scope) : Prop :=
  List.Forall₂ (fun free frame : Frame =>
    free.fragment = frame.fragment ∧ (free.instance? = none ∨ free.instance? = frame.instance?)) eased scope

namespace Scope

variable {eased scope : Scope}

theorem Eases.refl (scope : Scope) : scope.Eases scope :=
  List.forall₂_same.mpr fun _ _ => ⟨rfl, .inr rfl⟩

theorem Eases.enter (eases : eased.Eases scope) (fragment : Fragment) :
    (eased.enter fragment).Eases (scope.enter fragment) := .cons ⟨rfl, .inl rfl⟩ eases

theorem Eases.enterAt (eases : eased.Eases scope) (fragment : Fragment) (pointer : Pointer) :
    (eased.enterAt fragment pointer).Eases (scope.enterAt fragment pointer) := .cons ⟨rfl, .inr rfl⟩ eases

/-- A fragment that is entered to be reduced is not being checked there. -/
theorem Eases.enter_enterAt (eases : eased.Eases scope) (fragment : Fragment) (pointer : Pointer) :
    (eased.enter fragment).Eases (scope.enterAt fragment pointer) := .cons ⟨rfl, .inl rfl⟩ eases

/-- A scope in which nothing is being checked. -/
def unmarked (scope : Scope) : Scope := scope.map fun frame => ⟨frame.fragment, none⟩

theorem idle_unmarked (scope : Scope) : scope.unmarked.Idle := by
  intro frame inside
  obtain ⟨_, -, rfl⟩ := List.mem_map.mp inside
  rfl

theorem unmarked_eases (scope : Scope) : scope.unmarked.Eases scope := by
  unfold unmarked Eases
  rw [List.forall₂_map_left_iff, List.forall₂_same]
  exact fun _ _ => ⟨rfl, .inl rfl⟩

theorem Eases.outermostFirst (eases : eased.Eases scope) : eased.outermostFirst = scope.outermostFirst := by
  unfold Scope.outermostFirst
  congr 1
  induction eases with
  | nil => rfl
  | cons same _ ih => rw [List.map_cons, List.map_cons, same.1, ih]

theorem Eases.isChecking (eases : eased.Eases scope) {location : String} {pointer : Pointer}
    (checking : eased.isChecking location pointer = true) : scope.isChecking location pointer = true := by
  induction eases with
  | nil => exact checking
  | @cons free frame _ _ same _ ih =>
    obtain ⟨fragment, instances⟩ := same
    simp only [Scope.isChecking, List.any_cons, Bool.or_eq_true] at checking ih ⊢
    rcases checking with first | later
    · left
      rcases instances with none | same
      · simp [none] at first
      · rwa [← same, ← fragment]
    · exact .inr (ih later)

end Scope

/-- References lead to the same targets. -/
theorem Context.guides_eases (context : Context) : Scope.Guides context Scope.Eases where
  target eases source keyword reference := by
    unfold Context.target?
    rw [eases.outermostFirst]
  enter := Scope.Eases.enter

end JsonSchema
