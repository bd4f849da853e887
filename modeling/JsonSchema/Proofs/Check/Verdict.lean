import JsonSchema.Check.Judgement
import Mathlib.Data.List.Forall2

/-!
# Verdicts

Whether a check found nothing. The violations themselves tell the schema and the place they come
from; the verdict does not.
-/

namespace JsonSchema

/-- Whether a check found nothing, unless it was declined. -/
def verdict (answer : Option (List Violation)) : Option Bool := answer.map List.isEmpty

@[simp]
theorem verdict_some (found : List Violation) : verdict (some found) = some found.isEmpty := rfl

theorem verdict_eq_true {answer : Option (List Violation)} : verdict answer = some true ↔ answer = some [] := by
  cases answer <;> simp [verdict]

/-- Answers that are alike lead to answers that are alike, if each pair of alike results does. -/
theorem map_bind_congr {α β γ δ κ κ' : Type} {x : Option α} {y : Option β} {key : α → κ} {key' : β → κ}
    {f : α → Option γ} {g : β → Option δ} {read : γ → κ'} {read' : δ → κ'} (alike : x.map key = y.map key')
    (each : ∀ a b, key a = key' b → (f a).map read = (g b).map read') : (x >>= f).map read = (y >>= g).map read' := by
  cases x with
  | none =>
    cases y with
    | none => rfl
    | some b => cases alike
  | some a =>
    cases y with
    | none => cases alike
    | some b => exact each a b (Option.some.inj alike)

/-! ## Answers at several places -/

section
variable {α β γ δ : Type} {xs : List α} {ys : List β}

theorem mapM_congr {m : Type → Type} [Monad m] [LawfulMonad m] {f : α → m γ} {g : β → m γ}
    (all : List.Forall₂ (fun x y => f x = g y) xs ys) : xs.mapM f = ys.mapM g := by
  induction all with
  | nil => rfl
  | cons first _ ih => simp only [List.mapM_cons, first, ih]

theorem map_mapM (f : α → Option γ) (h : γ → δ) : (xs.mapM f).map (List.map h) = xs.mapM fun x => (f x).map h := by
  induction xs with
  | nil => rfl
  | cons x xs ih =>
    simp only [List.mapM_cons, Option.bind_eq_bind, ← ih]
    cases f x <;> cases xs.mapM f <;> rfl

end

section
variable {α β : Type} {xs : List α} {ys : List β} {f : α → Option (List Violation)} {g : β → Option (List Violation)}

/-- The verdict on several places is that on each of them. -/
theorem verdict_gather_eq :
    verdict (gather xs f) = (xs.mapM fun x => verdict (f x)).map fun empty => empty.all id := by
  have whole (found : List (List Violation)) : found.flatten.isEmpty = (found.map List.isEmpty).all id := by
    induction found with
    | nil => rfl
    | cons first rest ih =>
      rw [List.flatten_cons, List.map_cons, List.all_cons, ← ih]
      cases first <;> rfl
  unfold verdict gather
  rw [← map_mapM, Option.map_map, Option.map_map]
  simp only [Function.comp_def, whole]

theorem verdict_gather (all : List.Forall₂ (fun x y => verdict (f x) = verdict (g y)) xs ys) :
    verdict (gather xs f) = verdict (gather ys g) := by
  rw [verdict_gather_eq, verdict_gather_eq, mapM_congr all]

theorem gather_eq_nil : gather xs f = some [] ↔ ∀ x ∈ xs, f x = some [] := by
  induction xs with
  | nil => simp [gather]
  | cons x xs ih =>
    rw [List.forall_mem_cons, ← ih]
    simp only [gather, List.mapM_cons, Option.bind_eq_bind]
    cases f x with
    | none => simp
    | some found => cases xs.mapM f <;> simp [pure]

end

/-- Two checks of the same places. -/
theorem verdict_gather_congr {α : Type} {xs : List α} {f g : α → Option (List Violation)}
    (each : ∀ x ∈ xs, verdict (f x) = verdict (g x)) : verdict (gather xs f) = verdict (gather xs g) :=
  verdict_gather (List.forall₂_same.mpr each)

/-- The items that match are counted from the verdicts. -/
theorem Visit.countMatches_eq (visit : Visit) (schema : Fragment) (items : List Json) : visit.countMatches schema items =
    (items.zipIdx.mapM fun (item, index) => verdict (visit.validate schema item (visit.pointer.item index))).map
      (List.countP id) := by
  unfold countMatches verdict
  rw [← map_mapM, Option.map_map]
  generalize List.mapM (m := Option) _ items.zipIdx = answers
  cases answers with
  | none => rfl
  | some found => simp [List.countP_map, Function.comp_def]

/-- All members hold if each of them does. -/
theorem Visit.verdict_allOf (visit : Visit) :
    verdict visit.checkAllOf = verdict (gather (visit.fragment.members .allOf) visit.validateHere) := by
  unfold checkAllOf
  cases gather (visit.fragment.members .allOf) visit.validateHere with
  | none => rfl
  | some found => cases found <;> rfl

/-- Some member holds if there is a first one that does. -/
theorem Visit.verdict_anyOf (visit : Visit) :
    verdict visit.checkAnyOf = (visit.failuresBefore (visit.fragment.members .anyOf)).map Option.isNone := by
  unfold checkAnyOf
  cases visit.failuresBefore (visit.fragment.members .anyOf) with
  | none => rfl
  | some found => cases found <;> rfl

end JsonSchema
