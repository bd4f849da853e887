import Mathlib.Data.List.Induction
import Mathlib.Tactic.IntervalCases
import Mathlib.Tactic.Ring

/-!
# Decimal digits

A number is read back from its decimal digits. They have no leading zero, and zeros after them
multiply the number by ten.
-/

namespace JsonSchema.Digits

/-- The number that decimal digits stand for. -/
def value (ds : List Char) : Nat := Nat.ofDigitChars 10 ds 0

theorem value_toDigits (n : Nat) : value (Nat.toDigits 10 n) = n :=
  Nat.ofDigitChars_toDigits (by decide) (by decide)

theorem isDigit_of_mem {n : Nat} {c : Char} (inside : c ∈ Nat.toDigits 10 n) : c.isDigit = true :=
  Nat.isDigit_of_mem_toDigits (by decide) (by decide) inside

theorem isDigit_iff {c : Char} : c.isDigit = true ↔ '0' ≤ c ∧ c ≤ '9' := by
  simp [Char.isDigit, Char.le_def]

/-- Digits in front of others count for a power of ten. -/
theorem value_append (ds es : List Char) : value (ds ++ es) = value ds * 10 ^ es.length + value es := by
  induction es using List.reverseRecOn with
  | nil => simp [value, Nat.ofDigitChars]
  | append_singleton es e ih =>
    rw [← List.append_assoc]
    simp only [value, Nat.ofDigitChars, List.foldl_append, List.foldl_cons, List.foldl_nil, List.length_append,
      List.length_singleton, pow_succ] at ih ⊢
    rw [ih]
    ring

theorem value_replicate_zero (count : Nat) : value (List.replicate count '0') = 0 := by
  simp [value, Nat.ofDigitChars_replicate_zero]

/-- Zeros at the end multiply by a power of ten. -/
theorem toDigits_mul_pow {n : Nat} (positive : 0 < n) (count : Nat) :
    Nat.toDigits 10 (n * 10 ^ count) = Nat.toDigits 10 n ++ List.replicate count '0' := by
  induction count with
  | zero => simp
  | succ count ih =>
    have tenfold : n * 10 ^ (count + 1) = 10 * (n * 10 ^ count) + 0 := by ring
    have large : 0 < n * 10 ^ count := Nat.mul_pos positive (Nat.pow_pos (by decide))
    rw [tenfold, ← Nat.toDigits_append_toDigits (by decide) large (by decide), ih, List.replicate_succ',
      List.append_assoc]
    rfl

/-- The first digit of a positive number is not zero. -/
theorem head?_toDigits {n : Nat} (positive : 0 < n) : (Nat.toDigits 10 n).head? ≠ some '0' := by
  induction n using Nat.strong_induction_on with
  | _ n ih =>
    rw [Nat.toDigits_eq_if (by decide)]
    by_cases single : n < 10
    · rw [if_pos single]
      interval_cases n <;> decide
    · have smaller : 0 < n / 10 := by omega
      rw [if_neg single, List.head?_append, Option.or_of_isSome (by simp)]
      exact ih (n / 10) (by omega) smaller

theorem lt_pow_length (n : Nat) : n < 10 ^ (Nat.toDigits 10 n).length :=
  (Nat.length_toDigits_le_iff (by decide) Nat.length_toDigits_pos).mp le_rfl

theorem pow_length_le {n : Nat} (positive : 0 < n) : 10 ^ ((Nat.toDigits 10 n).length - 1) ≤ n := by
  by_contra small
  rcases Nat.eq_zero_or_pos ((Nat.toDigits 10 n).length - 1) with none | some
  · rw [none] at small
    omega
  · have := (Nat.length_toDigits_le_iff (by decide) some).mpr (not_le.mp small)
    omega

end JsonSchema.Digits
