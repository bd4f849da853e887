import JsonSchema.Proofs.Number.Shortest
import Mathlib.Algebra.Order.Field.Basic
import Mathlib.Data.Int.Log
import Mathlib.Data.Rat.Floor
import Mathlib.Tactic.Positivity

/-!
# Rounded fractions

A fraction is rounded to the nearest multiple of a power of two that leaves 53 bits, ties to the
even multiple. So the result is the double whose interval the fraction lies in, and the quotient of
two doubles is integral just if an integer lies within half a step of it.
-/

namespace JsonSchema.Binary64

variable {x y : Binary64} {num den : Nat}

/-! ## The leading bit -/

theorem two_pow_log2 {n : Nat} (positive : 0 < n) :
    (2 : ℚ) ^ (Nat.log2 n : Int) ≤ n ∧ (n : ℚ) < 2 ^ ((Nat.log2 n : Int) + 1) := by
  have above : n < 2 ^ (Nat.log2 n + 1) := Nat.lt_log2_self
  constructor
  · rw [zpow_natCast]
    exact_mod_cast Nat.log2_self_le positive.ne'
  · rw [show (Nat.log2 n : Int) + 1 = ((Nat.log2 n + 1 : Nat) : Int) by omega, zpow_natCast]
    exact_mod_cast above

/-- The guess from the bits of both parts is met or missed by one. -/
theorem floorLog2_bounds (positive : 0 < num) (positive' : 0 < den) :
    (2 : ℚ) ^ floorLog2 num den ≤ num / den ∧ (num : ℚ) / den < 2 ^ (floorLog2 num den + 1) := by
  have unit : (0 : ℚ) < den := by exact_mod_cast positive'
  obtain ⟨least, greatest⟩ := two_pow_log2 positive
  obtain ⟨least', greatest'⟩ := two_pow_log2 positive'
  let guess : Int := Nat.log2 num - Nat.log2 den
  have above : (num : ℚ) / den < 2 ^ (guess + 1) := by
    rw [div_lt_iff₀ unit]
    calc (num : ℚ) < 2 ^ ((Nat.log2 num : Int) + 1) := greatest
      _ = 2 ^ (guess + 1) * 2 ^ (Nat.log2 den : Int) := by
        rw [← zpow_add₀ (by norm_num)]
        congr 1
        omega
      _ ≤ 2 ^ (guess + 1) * den := mul_le_mul_of_nonneg_left least' (by positivity)
  have below : (2 : ℚ) ^ (guess - 1) ≤ num / den := by
    rw [le_div_iff₀ unit]
    calc (2 : ℚ) ^ (guess - 1) * den ≤ 2 ^ (guess - 1) * 2 ^ ((Nat.log2 den : Int) + 1) :=
        mul_le_mul_of_nonneg_left greatest'.le (by positivity)
      _ = 2 ^ (Nat.log2 num : Int) := by
        rw [← zpow_add₀ (by norm_num)]
        congr 1
        omega
      _ ≤ num := least
  have met : (scale den guess).1 ≤ num * (scale den guess).2 ↔ (2 : ℚ) ^ guess ≤ num / den := by
    have whole : (0 : ℚ) < (scale den guess).2 := by exact_mod_cast scale_den_pos den guess
    rw [le_div_iff₀ unit, mul_comm ((2 : ℚ) ^ guess), ← fraction_scale, fraction, div_le_iff₀ whole]
    exact_mod_cast Iff.rfl
  have guessed : floorLog2 num den = if (scale den guess).1 ≤ num * (scale den guess).2 then guess else guess - 1 := rfl
  rw [guessed]
  split
  · rename_i reached
    exact ⟨met.mp reached, above⟩
  · rename_i missed
    rw [sub_add_cancel]
    exact ⟨below, not_le.mp (mt met.mpr missed)⟩

theorem floorLog2_eq_log (positive : 0 < num) (positive' : 0 < den) :
    floorLog2 num den = Int.log 2 ((num : ℚ) / den) := by
  have quotient : (0 : ℚ) < num / den := by positivity
  obtain ⟨least, greatest⟩ := floorLog2_bounds positive positive'
  refine le_antisymm ?_ ?_
  · exact (Int.zpow_le_iff_le_log (by decide) quotient).mp (by exact_mod_cast least)
  · exact Int.lt_add_one_iff.mp ((Int.lt_zpow_iff_log_lt (by decide) quotient).mp (by exact_mod_cast greatest))

/-! ## Rounding -/

/-- `n` is the integer nearest to `q`; a tie goes to the even one. -/
def Nearest (n : Nat) (q : ℚ) : Prop :=
  |q - n| ≤ 1 / 2 ∧ (n % 2 = 1 → |q - n| < 1 / 2)

theorem nearest_below {n : Nat} {part : ℚ} (nonneg : 0 ≤ part) (down : part < 1 / 2) : Nearest n (n + part) := by
  have distance : |(n : ℚ) + part - n| = part := by rw [add_sub_cancel_left, abs_of_nonneg nonneg]
  rw [Nearest, distance]
  exact ⟨down.le, fun _ => down⟩

theorem nearest_above {n : Nat} {part : ℚ} (up : 1 / 2 < part) (below : part < 1) : Nearest (n + 1) (n + part) := by
  have distance : |(n : ℚ) + part - (n + 1 : Nat)| = 1 - part := by
    rw [abs_sub_comm, abs_of_nonneg (by push_cast; linarith)]
    push_cast
    ring
  rw [Nearest, distance]
  exact ⟨by linarith, fun _ => by linarith⟩

theorem nearest_tie (n : Nat) : Nearest (n + n % 2) (n + 1 / 2) := by
  rcases Nat.mod_two_eq_zero_or_one n with even | odd
  · refine ⟨?_, fun odd => by omega⟩
    rw [even, Nat.add_zero, add_sub_cancel_left, abs_of_pos (by norm_num)]
  · refine ⟨?_, fun even => by omega⟩
    rw [odd]
    push_cast
    rw [abs_sub_comm, abs_of_nonneg (by linarith)]
    linarith

theorem roundHalfEven_nearest (positive : 0 < den) : Nearest (roundHalfEven num den) (num / den) := by
  have unit : (0 : ℚ) < den := by exact_mod_cast positive
  have split : den * (num / den) + num % den = num := Nat.div_add_mod num den
  have rest : num % den < den := Nat.mod_lt _ positive
  have whole : (num : ℚ) / den = (num / den : Nat) + (num % den : Nat) / den := by
    rw [eq_comm, ← mul_right_inj' unit.ne', mul_add, mul_div_cancel₀ _ unit.ne', mul_div_cancel₀ _ unit.ne']
    exact_mod_cast split
  unfold roundHalfEven
  rw [whole]
  generalize num / den = quotient
  generalize num % den = remainder at rest
  have nonneg : (0 : ℚ) ≤ remainder / den := by positivity
  have below : (remainder : ℚ) / den < 1 := (div_lt_one unit).mpr (by exact_mod_cast rest)
  have small : 2 * remainder < den ↔ (remainder : ℚ) / den < 1 / 2 := by
    rw [div_lt_iff₀ unit, ← Nat.cast_lt (α := ℚ)]
    push_cast
    constructor <;> intro <;> linarith
  have large : den < 2 * remainder ↔ 1 / 2 < (remainder : ℚ) / den := by
    rw [lt_div_iff₀ unit, ← Nat.cast_lt (α := ℚ)]
    push_cast
    constructor <;> intro <;> linarith
  generalize (remainder : ℚ) / den = part at *
  dsimp only
  split
  · rename_i down
    exact nearest_below nonneg (small.mp down)
  · rename_i notDown
    split
    · rename_i up
      exact nearest_above (large.mp up) below
    · rename_i notUp
      rw [le_antisymm (not_lt.mp (mt large.mpr notUp)) (not_lt.mp (mt small.mpr notDown))]
      exact nearest_tie quotient

/-- A number that has an even integer within half a step is rounded to it. -/
theorem Nearest.eq_even {n k : Nat} {q : ℚ} (nearest : Nearest n q) (even : k % 2 = 0) (close : |q - k| ≤ 1 / 2) : n = k := by
  obtain ⟨near, strict⟩ := nearest
  have apart : |(n : ℚ) - k| ≤ |q - n| + |q - k| := by
    rw [abs_sub_comm q n]
    exact abs_sub_le _ _ _
  have integral : ((|(n : Int) - k| : Int) : ℚ) = |(n : ℚ) - k| := by push_cast; rfl
  rcases Nat.mod_two_eq_zero_or_one n with even' | odd
  · have : |(n : Int) - k| ≤ 1 := by
      have : ((|(n : Int) - k| : Int) : ℚ) ≤ 1 := by linarith
      exact_mod_cast this
    rw [abs_le] at this
    omega
  · have : |(n : Int) - k| < 1 := by
      have := strict odd
      have : ((|(n : Int) - k| : Int) : ℚ) < 1 := by linarith
      exact_mod_cast this
    rw [abs_lt] at this
    omega

/-- The step at which a number with that leading bit is rounded. -/
def step (bit : Int) : Int := max (-1074) (bit - 52)

/-- The double is a fraction rounded at the step of its leading bit. -/
structure Rounds (x : Binary64) (num den : Nat) : Prop where
  count : ∃ n : Nat, x.magnitude = n * 2 ^ step (floorLog2 num den) ∧
    Nearest n (num / den / 2 ^ step (floorLog2 num den))
  covers : x.Covers (num / den)
  leading : -1022 < floorLog2 num den →
    (2 : ℚ) ^ floorLog2 num den ≤ x.magnitude ∧ x.magnitude ≤ 2 ^ (floorLog2 num den + 1)

theorem scale_num_pos (positive : 0 < den) (e : Int) : 0 < (scale den e).1 := by
  have unit : (0 : ℚ) < den := by exact_mod_cast positive
  have whole : (0 : ℚ) < (scale den e).2 := by exact_mod_cast scale_den_pos den e
  have scaled := fraction_scale den e
  have filled : (0 : ℚ) < (scale den e).1 := by
    rw [fraction, div_eq_iff whole.ne'] at scaled
    rw [scaled]
    positivity
  exact_mod_cast filled

/-- A fraction, counted in steps. -/
theorem scaled_fraction (positive : 0 < den) (e : Int) :
    ((num * (scale den e).2 : Nat) : ℚ) / (scale den e).1 = num / den / 2 ^ e := by
  have filled : (0 : ℚ) < (scale den e).1 := by exact_mod_cast scale_num_pos positive e
  have whole : (0 : ℚ) < (scale den e).2 := by exact_mod_cast scale_den_pos den e
  rw [div_div, ← fraction_scale den e, fraction]
  push_cast
  field_simp

/-- The multiples of the step between which a fraction lies. -/
theorem rounded_bounds (positive : 0 < num) (positive' : 0 < den) :
    let e := step (floorLog2 num den)
    let n := roundHalfEven (num * (scale den e).2) (scale den e).1
    Nearest n (num / den / 2 ^ e) ∧ n ≤ 2 * normal ∧
      (-1074 < e → normal ≤ n) ∧ (-1074 < e → (normal : ℚ) ≤ num / den / 2 ^ e) := by
  intro e n
  have step : (0 : ℚ) < 2 ^ e := by positivity
  have nearest : Nearest n (num / den / 2 ^ e) :=
    scaled_fraction positive' e ▸ roundHalfEven_nearest (scale_num_pos positive' e)
  obtain ⟨least, greatest⟩ := floorLog2_bounds positive positive'
  have near := abs_le.mp nearest.1
  have bits : (normal : ℚ) = 2 ^ (52 : Int) := by norm_num [normal]
  have wide (full : -1074 < e) : (normal : ℚ) ≤ num / den / 2 ^ e := by
    rw [le_div_iff₀ step, bits, ← zpow_add₀ (by norm_num)]
    refine le_trans (zpow_le_zpow_right₀ (by norm_num) ?_) least
    simp only [e, Binary64.step] at full ⊢
    omega
  refine ⟨nearest, ?_, fun full => ?_, wide⟩
  · have short : (num : ℚ) / den / 2 ^ e < 2 * normal := by
      rw [div_lt_iff₀ step, bits, mul_comm (2 : ℚ), ← zpow_add_one₀ (by norm_num), ← zpow_add₀ (by norm_num)]
      refine greatest.trans_le (zpow_le_zpow_right₀ (by norm_num) ?_)
      simp only [e, Binary64.step]
      omega
    have : (n : ℚ) < ((2 * normal + 1 : Nat) : ℚ) := by
      push_cast
      linarith
    exact Nat.lt_succ_iff.mp (by exact_mod_cast this)
  · have : ((normal : Nat) : ℚ) < ((n + 1 : Nat) : ℚ) := by
      push_cast
      linarith [wide full]
    exact Nat.lt_succ_iff.mp (by exact_mod_cast this)

/-- Above the smallest doubles the leading bit is kept, or rounding carries to the next one. -/
theorem rounded_leading (positive : 0 < num) (positive' : 0 < den) (above : -1022 < floorLog2 num den) :
    let e := step (floorLog2 num den)
    let n := roundHalfEven (num * (scale den e).2) (scale den e).1
    (2 : ℚ) ^ floorLog2 num den ≤ n * 2 ^ e ∧ (n : ℚ) * 2 ^ e ≤ 2 ^ (floorLog2 num den + 1) := by
  intro e n
  obtain ⟨-, short, full, -⟩ := rounded_bounds positive positive'
  have unit : (0 : ℚ) < 2 ^ e := by positivity
  have bits : (normal : ℚ) = 2 ^ (52 : Int) := by norm_num [normal]
  have place : -1074 < step (floorLog2 num den) ∧ floorLog2 num den = 52 + e := by
    simp only [e, step]
    omega
  have wide : (normal : ℚ) ≤ n := by exact_mod_cast full place.1
  have short : (n : ℚ) ≤ 2 * normal := by exact_mod_cast short
  rw [place.2, add_right_comm, zpow_add₀ (by norm_num), zpow_add₀ (by norm_num), zpow_add_one₀ (by norm_num),
    ← bits, mul_comm (normal : ℚ) 2]
  exact ⟨mul_le_mul_of_nonneg_right wide unit.le, mul_le_mul_of_nonneg_right short unit.le⟩

/-- The numbers that round to a mantissa lie in the interval of the double; below a power of two the
interval is as narrow as the steps there. -/
theorem covers_of_nearest {t : ℚ} (positive : 0 < t) (nearest : Nearest x.mantissa t)
    (full : x.mantissa = normal → -1074 < x.exponent → (4 * normal - 1 : ℚ) ≤ 4 * t) : x.Covers (t * 2 ^ x.exponent) := by
  have unit : (0 : ℚ) < 2 ^ (x.exponent - 2) := by positivity
  have quarters : t * 2 ^ x.exponent = 4 * t * 2 ^ (x.exponent - 2) := by
    rw [show x.exponent = x.exponent - 2 + 2 by omega, zpow_add₀ (by norm_num), add_sub_cancel_right]
    ring
  have above : (x.interval.above : ℚ) = 4 * x.mantissa + 2 := by simp [interval]
  obtain ⟨near, strict⟩ := nearest
  have near := abs_le.mp near
  have below : (x.interval.below : ℚ) ≤ 4 * t ∧ (x.mantissa % 2 = 1 → (x.interval.below : ℚ) < 4 * t) := by
    by_cases narrow : x.mantissa = normal ∧ -1074 < x.exponent
    · have full := full narrow.1 narrow.2
      have even : normal % 2 = 0 := by decide
      refine ⟨?_, fun odd => by omega⟩
      rw [below_of_normal narrow.1 narrow.2]
      norm_num [normal] at full ⊢
      linarith
    · have width : x.interval.below = 4 * x.mantissa - 2 := by simp [interval, narrow]
      rw [width]
      rcases Nat.eq_zero_or_pos x.mantissa with zero | some
      · simp [zero, positive, positive.le]
      · rw [Nat.cast_sub (by omega)]
        push_cast
        exact ⟨by linarith, fun odd => by linarith [(abs_lt.mp (strict odd)).1]⟩
  unfold Covers lower upper
  rw [quarters, mul_le_mul_iff_left₀ unit, mul_le_mul_iff_left₀ unit, mul_lt_mul_iff_left₀ unit,
    mul_lt_mul_iff_left₀ unit, above]
  exact ⟨⟨below.1, by linarith⟩, fun odd => ⟨below.2 odd, by linarith [(abs_lt.mp (strict odd)).2]⟩⟩

/-- A positive fraction with a leading bit below the last is rounded to a double. -/
theorem ofRatio_rounds (negative : Bool) (positive : 0 < num) (positive' : 0 < den) (bounded : floorLog2 num den ≤ 1022) :
    ∃ x, ofRatio negative num den = some x ∧ x.negative = negative ∧ x.Rounds num den := by
  obtain ⟨nearest, short, full⟩ := rounded_bounds positive positive'
  have fraction : (0 : ℚ) < num / den := by positivity
  set e := step (floorLog2 num den) with exponent
  set n := roundHalfEven (num * (scale den e).2) (scale den e).1 with rounded
  have unit : (0 : ℚ) < 2 ^ e := by positivity
  have range : -1074 ≤ e ∧ e ≤ 970 := by
    simp only [exponent, step]
    omega
  have leading := rounded_leading positive positive'
  have cancel : (num : ℚ) / den / 2 ^ e * 2 ^ e = num / den := div_mul_cancel₀ _ unit.ne'
  have result : ofRatio negative num den =
      let found := if n = 2 * normal then (normal, e + 1) else (n, e)
      if h : Canonical found.1 found.2 then some ⟨negative, found.1, found.2, h⟩ else none := by
    rw [ofRatio, if_neg positive.ne']
    rfl
  rcases Nat.lt_or_eq_of_le short with short | carried
  · have canonical : Canonical n e := ⟨short, range.1, by omega, fun lacking => by
      by_contra above
      exact absurd (full.1 (by omega)) (by omega)⟩
    have covers := covers_of_nearest (x := ⟨negative, n, e, canonical⟩) (div_pos fraction unit) nearest
      fun _ above => by linarith [full.2 above]
    rw [cancel] at covers
    rw [result, if_neg short.ne]
    exact ⟨_, dif_pos canonical, rfl, ⟨n, rfl, nearest⟩, covers, leading⟩
  · have canonical : Canonical normal (e + 1) := ⟨by decide, by omega, by omega, fun lacking => absurd lacking (by decide)⟩
    have half : (num : ℚ) / den / 2 ^ e / 2 * 2 ^ (e + 1) = num / den := by
      rw [zpow_add_one₀ (by norm_num), mul_comm ((2 : ℚ) ^ e), ← mul_assoc, div_mul_cancel₀ _ (by norm_num), cancel]
    have near := abs_le.mp nearest.1
    rw [carried] at near
    push_cast at near
    have nearest' : Nearest normal ((num : ℚ) / den / 2 ^ e / 2) :=
      ⟨abs_le.mpr ⟨by linarith, by linarith⟩, fun odd => absurd odd (by decide)⟩
    have covers := covers_of_nearest (x := ⟨negative, normal, e + 1, canonical⟩)
      (div_pos (div_pos fraction unit) two_pos) nearest' fun _ _ => by linarith
    rw [half] at covers
    rw [result, if_pos carried]
    have magnitude : (⟨negative, normal, e + 1, canonical⟩ : Binary64).magnitude = n * 2 ^ e := by
      rw [Binary64.magnitude, carried, zpow_add_one₀ (by norm_num)]
      push_cast
      ring
    exact ⟨_, dif_pos canonical, rfl, ⟨n, magnitude, nearest⟩, covers, magnitude ▸ leading⟩

end JsonSchema.Binary64
