import JsonSchema.Proofs.Number.Digits
import JsonSchema.Proofs.Number.Rounding

/-!
# The shortest decimal of a double

Seventeen digits are enough to tell a double from its neighbours, so the search for the shortest
decimal ends with one that reads back. The shortest decimal of an integer up to `2 ^ 53` is that
integer, though many decimals may round to it.
-/

namespace JsonSchema

namespace Decimal

/-- The number that a decimal is. -/
def value (d : Decimal) : ℚ := d.digits * 10 ^ d.exponent

variable {d : Decimal}

private theorem go_induction {p : Decimal → Prop} (fuel : Nat) (start : p d)
    (step : ∀ d : Decimal, p d → d.digits % 10 = 0 → d.digits ≠ 0 → p ⟨d.digits / 10, d.exponent + 1⟩) :
    p (trim.go fuel d) := by
  induction fuel generalizing d with
  | zero => exact start
  | succ fuel ih =>
    unfold trim.go
    by_cases round : d.digits % 10 = 0 ∧ d.digits ≠ 0
    · rw [if_pos round]
      exact ih (step d start round.1 round.2)
    · rw [if_neg round]
      exact start

/-- Without its last zeros a decimal is the same number. -/
theorem value_trim (d : Decimal) : d.trim.value = d.value := by
  refine go_induction (p := fun e => e.value = d.value) _ rfl fun e same round _ => ?_
  obtain ⟨tens, digits⟩ : ∃ tens, e.digits = 10 * tens := ⟨e.digits / 10, by omega⟩
  rw [← same, value, value, zpow_add_one₀ (by norm_num), digits, Nat.mul_div_cancel_left _ (by decide)]
  push_cast
  ring

theorem exponent_le_trim (d : Decimal) : d.exponent ≤ d.trim.exponent := by
  refine go_induction (p := fun e => d.exponent ≤ e.exponent) _ le_rfl fun e least _ _ => ?_
  exact le_trans least (by simp)

theorem digits_trim_ne_zero (positive : d.digits ≠ 0) : d.trim.digits ≠ 0 := by
  refine go_induction (p := fun e => e.digits ≠ 0) _ positive fun e _ round positive => ?_
  simp only
  omega

end Decimal

namespace Binary64

variable {x y : Binary64}

/-! ## The leading digit -/

theorem pow_floorLog10_le {num den : Nat} (positive : 0 < num) (positive' : 0 < den) :
    (10 : ℚ) ^ floorLog10 num den ≤ num / den := by
  have unit : (0 : ℚ) < den := by exact_mod_cast positive'
  unfold floorLog10
  by_cases large : den ≤ num
  · have whole := Digits.pow_length_le (Nat.div_pos large positive')
    have length : 0 < (Nat.toDigits 10 (num / den)).length := Nat.length_toDigits_pos
    rw [if_pos large, le_div_iff₀ unit, show ((Nat.toDigits 10 (num / den)).length : Int) - 1 =
      (((Nat.toDigits 10 (num / den)).length - 1 : Nat) : Int) by omega, zpow_natCast]
    exact_mod_cast le_trans (Nat.mul_le_mul_right den whole) (Nat.div_mul_le_self num den)
  · have down (count : Nat) (enough : den ≤ num * 10 ^ count) : (10 : ℚ) ^ (0 - (count : Int)) ≤ num / den := by
      rw [zero_sub, zpow_neg, zpow_natCast, le_div_iff₀ unit, inv_mul_le_iff₀ (by positivity), mul_comm]
      exact_mod_cast enough
    rw [if_neg large]
    simp only
    split
    · rename_i enough
      exact down _ enough
    · refine down _ ?_
      have below := Digits.lt_pow_length (den / num)
      exact le_trans (Nat.lt_mul_div_succ den positive).le (Nat.mul_le_mul_left num below)

/-! ## Candidates -/

/-- The whole part of a fraction. -/
theorem div_le_fraction {p : Nat × Nat} (positive : 0 < p.2) :
    ((p.1 / p.2 : Nat) : ℚ) ≤ fraction p ∧ fraction p < ((p.1 / p.2 + 1 : Nat) : ℚ) := by
  have unit : (0 : ℚ) < p.2 := by exact_mod_cast positive
  rw [fraction, le_div_iff₀ unit, div_lt_iff₀ unit]
  exact ⟨by exact_mod_cast Nat.div_mul_le_self p.1 p.2,
    by exact_mod_cast mul_comm p.2 _ ▸ Nat.lt_mul_div_succ p.1 positive⟩

theorem candidate?_covers {precision : Nat} {d : Decimal} (found : x.candidate? precision = some d) :
    x.Covers d.value ∧ d.digits ≠ 0 := by
  unfold candidate? at found
  simp only at found
  split at found
  · rename_i here next
    rw [Bool.and_eq_true, bne_iff_ne] at here
    split at found
    · cases found
      exact ⟨(readsBack_iff _ _ _).mp here.1, here.2⟩
    · cases found
      exact ⟨(readsBack_iff _ _ _).mp next, by simp⟩
  · rename_i here _
    rw [Bool.and_eq_true, bne_iff_ne] at here
    cases found
    exact ⟨(readsBack_iff _ _ _).mp here.1, here.2⟩
  · rename_i _ next
    cases found
    exact ⟨(readsBack_iff _ _ _).mp next, by simp⟩
  · cases found

theorem ratio_pos (nonzero : x.isZero = false) : 0 < x.ratio.1 ∧ 0 < x.ratio.2 := by
  have positive : x.mantissa ≠ 0 := by simpa [isZero] using nonzero
  refine ⟨?_, scale_den_pos _ _⟩
  unfold ratio scale
  split
  · exact Nat.mul_pos (Nat.pos_of_ne_zero positive) (Nat.pow_pos (by decide))
  · exact Nat.pos_of_ne_zero positive

/-- The candidates of a precision are the multiples of a power of ten around the double. -/
theorem step_bounds (x : Binary64) (k : Int) :
    let c := (inTens x.ratio.1 x.ratio.2 k).1 / (inTens x.ratio.1 x.ratio.2 k).2
    (c : ℚ) * 10 ^ k ≤ x.magnitude ∧ x.magnitude < ((c + 1 : Nat) : ℚ) * 10 ^ k := by
  have unit : (0 : ℚ) < 10 ^ k := by positivity
  have value : fraction (inTens x.ratio.1 x.ratio.2 k) = x.magnitude / 10 ^ k := by
    rw [fraction_inTens, ← fraction_ratio]
    rfl
  have positive : 0 < (inTens x.ratio.1 x.ratio.2 k).2 := inTens_den_pos (scale_den_pos _ _) k
  have bounds := div_le_fraction positive
  rw [value, le_div_iff₀ unit, div_lt_iff₀ unit] at bounds
  exact bounds

/-- Steps finer than the interval do not miss it. -/
theorem candidate?_isSome (nonzero : x.isZero = false) : (x.candidate? 17).isSome = true := by
  obtain ⟨positive, positive'⟩ := ratio_pos nonzero
  have digit : (10 : ℚ) ^ floorLog10 x.ratio.1 x.ratio.2 ≤ x.magnitude :=
    fraction_ratio x ▸ pow_floorLog10_le positive positive'
  have fine : (10 : ℚ) ^ (floorLog10 x.ratio.1 x.ratio.2 - 17 + 1) * 10 ^ 16 ≤ x.magnitude := by
    refine le_of_eq_of_le ?_ digit
    rw [← zpow_natCast, ← zpow_add₀ (by norm_num)]
    congr 1
    omega
  unfold candidate?
  simp only [Nat.cast_ofNat]
  obtain ⟨least, greatest⟩ := step_bounds x (floorLog10 x.ratio.1 x.ratio.2 - 17 + 1)
  have width := magnitude_lt_width nonzero
  have low := lower_lt_magnitude nonzero
  have high := magnitude_lt_upper x
  have unit : (0 : ℚ) < 10 ^ (floorLog10 x.ratio.1 x.ratio.2 - 17 + 1) := by positivity
  generalize floorLog10 x.ratio.1 x.ratio.2 - 17 + 1 = k at *
  generalize (inTens x.ratio.1 x.ratio.2 k).1 / (inTens x.ratio.1 x.ratio.2 k).2 = c at *
  push_cast at greatest
  -- the steps on both sides of the double cannot both miss the interval
  have found : (x.readsBack c k && c != 0) = true ∨ x.readsBack (c + 1) k = true := by
    rcases lt_or_ge x.lower (c * 10 ^ k) with inside | outside
    · have some : c ≠ 0 := by
        rintro rfl
        push_cast at greatest
        linarith
      have here := (readsBack_iff x c k).mpr (covers_of_lt inside (lt_of_le_of_lt least high))
      exact .inl (by simp [here, some])
    · exact .inr ((readsBack_iff x (c + 1) k).mpr (covers_of_lt (by push_cast; linarith) (by push_cast; linarith)))
  rcases found with here | next
  · rw [here]
    cases x.readsBack (c + 1) k with
    | false => rfl
    | true => simp only [apply_ite Option.isSome, Option.isSome_some, ite_self]
  · rw [next]
    cases x.readsBack c k && c != 0 with
    | false => rfl
    | true => simp only [apply_ite Option.isSome, Option.isSome_some, ite_self]

/-! ## The search -/

/-- The search ends at the first precision with a candidate, and no later than at the seventeenth digit. -/
theorem shortest_eq (nonzero : x.isZero = false) : ∃ n d, n < 17 ∧ x.candidate? (n + 1) = some d ∧
    (∀ m < n, x.candidate? (m + 1) = none) ∧ x.shortest = d.trim := by
  have ends : ((List.range 17).findSome? fun n => x.candidate? (n + 1)).isSome = true := by
    rw [List.findSome?_isSome_iff]
    exact ⟨16, by simp, candidate?_isSome nonzero⟩
  obtain ⟨d, found⟩ := Option.isSome_iff_exists.mp ends
  obtain ⟨before, n, after, range, candidate, none⟩ := List.findSome?_eq_some_iff.mp found
  have sorted : (before ++ n :: after).Pairwise (· < ·) := range ▸ List.pairwise_lt_range
  have within : n < 17 := List.mem_range.mp (range ▸ by simp)
  refine ⟨n, d, within, candidate, fun m less => none m ?_, ?_⟩
  · have listed : m ∈ before ++ n :: after := range ▸ List.mem_range.mpr (less.trans within)
    rcases List.mem_append.mp listed with early | late
    · exact early
    · have := List.pairwise_append.mp sorted
      rcases List.mem_cons.mp late with rfl | later
      · omega
      · have := (List.pairwise_cons.mp this.2.1).1 m later
        omega
  · simp [shortest, nonzero, found]

theorem shortest_covers (nonzero : x.isZero = false) : x.Covers x.shortest.value ∧ x.shortest.digits ≠ 0 := by
  obtain ⟨n, d, -, candidate, -, same⟩ := shortest_eq nonzero
  obtain ⟨covers, some⟩ := candidate?_covers candidate
  rw [same, Decimal.value_trim]
  exact ⟨covers, Decimal.digits_trim_ne_zero some⟩

/-- The shortest decimal tells the magnitude. -/
theorem shortest_value_inj (same : x.shortest.value = y.shortest.value) : x.magnitude = y.magnitude := by
  have zero {x : Binary64} (none : x.isZero = true) : x.shortest.value = 0 := by
    have nothing : x.shortest = ⟨0, 0⟩ := by simp [shortest, none]
    rw [nothing]
    simp [Decimal.value]
  have some {x : Binary64} (nonzero : x.isZero = false) : x.shortest.value ≠ 0 :=
    mul_ne_zero (by exact_mod_cast (shortest_covers nonzero).2) (zpow_ne_zero _ (by norm_num))
  cases hx : x.isZero <;> cases hy : y.isZero
  · exact (shortest_covers hx).1.magnitude_eq (same ▸ (shortest_covers hy).1)
  · exact absurd (same.trans (zero hy)) (some hx)
  · exact absurd (same.symm.trans (zero hx)) (some hy)
  · rw [magnitude_eq_zero.mpr hx, magnitude_eq_zero.mpr hy]

/-! ## Integers -/

theorem exists_magnitude {n : Nat} (small : n ≤ 2 * normal) : ∃ y : Binary64, y.magnitude = n := by
  obtain ⟨y, -, whole⟩ := ofInt?_exact (i := n) (by simpa using small)
  refine ⟨y, ?_⟩
  rw [← abs_toRat, whole]
  simp

/-- What rounds to an integer up to `2 ^ 53` and is a multiple of ten is that integer: the integers
up to it are doubles of their own, and `2 ^ 53 + 1` is no multiple of ten. -/
theorem eq_of_covers_tens {n tens : Nat} (some : 0 < tens) (whole : x.magnitude = n) (small : n ≤ 2 * normal)
    (covers : x.Covers ((10 * tens : Nat) : ℚ)) : 10 * tens = n := by
  rcases Nat.lt_or_ge (2 * normal) (10 * tens) with beyond | within
  · obtain ⟨y, greatest⟩ := exists_magnitude le_rfl
    have upper : y.upper = ((2 * normal + 1 : Nat) : ℚ) := by
      obtain ⟨mantissa, exponent⟩ := (magnitude_inj (y := ⟨false, normal, 1, by decide⟩)).mp
        (greatest.trans (by norm_num [magnitude, normal]))
      rw [Binary64.upper, interval, mantissa, exponent]
      norm_num [normal]
    have bound : ((10 * tens : Nat) : ℚ) ≤ y.upper :=
      covers.1.2.trans (upper_mono (by rw [whole, greatest]; exact_mod_cast small))
    have bound : 10 * tens ≤ 2 * normal + 1 := by exact_mod_cast upper ▸ bound
    simp only [normal] at beyond bound
    omega
  · obtain ⟨y, own⟩ := exists_magnitude within
    have nonzero : y.isZero = false := by
      rw [← Bool.not_eq_true, ← magnitude_eq_zero, own, Nat.cast_eq_zero]
      omega
    have same := covers.magnitude_eq (own ▸ covers_self nonzero)
    rw [whole, own] at same
    exact_mod_cast same.symm

/-- The digits of an integer are among the candidates. -/
theorem candidate?_nat {n : Nat} (whole : x.magnitude = n) (positive : 0 < n) :
    x.candidate? (Nat.toDigits 10 n).length = some ⟨n, 0⟩ := by
  have unit : 0 < x.ratio.2 := scale_den_pos _ _
  have num : x.ratio.1 = n * x.ratio.2 := by
    have value := (fraction_ratio x).trans whole
    rw [fraction, div_eq_iff (by exact_mod_cast unit.ne')] at value
    exact_mod_cast value
  have leading : floorLog10 x.ratio.1 x.ratio.2 = (Nat.toDigits 10 n).length - 1 := by
    rw [floorLog10, num, if_pos (Nat.le_mul_of_pos_left _ positive), Nat.mul_div_cancel _ unit]
  have nonzero : x.isZero = false := by
    rw [← Bool.not_eq_true, ← magnitude_eq_zero, whole, Nat.cast_eq_zero]
    exact positive.ne'
  have reads : x.readsBack n 0 = true := by
    rw [readsBack_iff, zpow_zero, mul_one, ← whole]
    exact covers_self nonzero
  have steps : inTens x.ratio.1 x.ratio.2 0 = (n * x.ratio.2, x.ratio.2) := by simp [inTens, num]
  have exponent : ((Nat.toDigits 10 n).length : Int) - 1 - (Nat.toDigits 10 n).length + 1 = 0 := by omega
  unfold candidate?
  simp only [leading, exponent, steps, Nat.mul_div_cancel _ unit, Nat.mul_mod_left, reads, Bool.true_and,
    bne_iff_ne.mpr positive.ne', mul_zero, Nat.zero_le, if_true]
  cases x.readsBack (n + 1) 0 <;> rfl

/-- The candidates of a precision have one exponent. -/
theorem candidate?_exponent {precision : Nat} {d : Decimal} (found : x.candidate? precision = some d) :
    d.exponent = floorLog10 x.ratio.1 x.ratio.2 - precision + 1 := by
  unfold candidate? at found
  simp only at found
  split at found
  · split at found <;> cases found <;> rfl
  · cases found
    rfl
  · cases found
    rfl
  · cases found

/-- The shortest decimal of an integer up to `2 ^ 53` is the integer, without a fraction. -/
theorem shortest_nat {n : Nat} (whole : x.magnitude = n) (positive : 0 < n) (small : n ≤ 2 * normal) :
    x.shortest.value = n ∧ 0 ≤ x.shortest.exponent := by
  have nonzero : x.isZero = false := by
    rw [← Bool.not_eq_true, ← magnitude_eq_zero, whole, Nat.cast_eq_zero]
    exact positive.ne'
  obtain ⟨m, d, -, candidate, none, same⟩ := shortest_eq nonzero
  obtain ⟨covers, some⟩ := candidate?_covers candidate
  have exponent := candidate?_exponent candidate
  have digits := candidate?_nat whole positive
  have length : 0 < (Nat.toDigits 10 n).length := Nat.length_toDigits_pos
  have leading := candidate?_exponent digits
  -- the search ends no later than at the last digit of the integer
  have early : m + 1 ≤ (Nat.toDigits 10 n).length := by
    by_contra late
    have := none ((Nat.toDigits 10 n).length - 1) (by omega)
    rw [Nat.sub_add_cancel length, digits] at this
    cases this
  obtain ⟨j, power⟩ : ∃ j : Nat, d.exponent = j := ⟨d.exponent.toNat, by simp only at leading; omega⟩
  have value : d.value = n := by
    rcases Nat.eq_zero_or_pos j with rfl | tens
    · have last : m + 1 = (Nat.toDigits 10 n).length := by simp only at leading; omega
      rw [last, digits] at candidate
      cases candidate
      simp [Decimal.value]
    · obtain ⟨i, rfl⟩ : ∃ i, j = i + 1 := ⟨j - 1, by omega⟩
      have written : d.value = ((10 * (d.digits * 10 ^ i) : Nat) : ℚ) := by
        rw [Decimal.value, power, zpow_natCast]
        push_cast
        ring
      have multiple : 0 < d.digits * 10 ^ i := Nat.mul_pos (Nat.pos_of_ne_zero some) (Nat.pow_pos (by decide))
      rw [written, eq_of_covers_tens multiple whole small (written ▸ covers)]
  rw [same, Decimal.value_trim]
  exact ⟨value, le_trans (by omega) d.exponent_le_trim⟩

end Binary64
end JsonSchema
