import JsonSchema.Number.Basic
import Mathlib.Algebra.Order.Field.Power
import Mathlib.Data.Nat.Cast.Field
import Mathlib.Data.Rat.Cast.Order
import Mathlib.Tactic.FieldSimp
import Mathlib.Tactic.Linarith
import Mathlib.Tactic.Ring

/-!
# Doubles as rational numbers

A finite double is a rational number. The canonical forms of one magnitude are the same, so doubles
compare as equal just if they are one number. Integers up to `2 ^ 53` are doubles themselves.
-/

namespace JsonSchema

namespace Binary64

/-! ## Fractions of naturals -/

/-- The rational number that a fraction of naturals is. -/
def fraction (p : Nat × Nat) : ℚ := p.1 / p.2

theorem scale_den_pos (n : Nat) (e : Int) : 0 < (scale n e).2 := by
  unfold scale
  split
  · exact Nat.one_pos
  · exact Nat.pow_pos (by decide)

theorem fraction_scale (n : Nat) (e : Int) : fraction (scale n e) = n * 2 ^ e := by
  unfold scale fraction
  split
  · rename_i positive
    obtain ⟨k, rfl⟩ := Int.eq_ofNat_of_zero_le positive
    simp
  · rename_i negative
    obtain ⟨k, rfl⟩ : ∃ k : Nat, e = -(k : Int) := ⟨(-e).toNat, by omega⟩
    simp [zpow_neg, div_eq_mul_inv]

theorem inTens_den_pos {num den : Nat} (positive : 0 < den) (k : Int) : 0 < (inTens num den k).2 := by
  unfold inTens
  split
  · exact Nat.mul_pos positive (Nat.pow_pos (by decide))
  · exact positive

theorem fraction_inTens (num den : Nat) (k : Int) : fraction (inTens num den k) = num / den / 10 ^ k := by
  unfold inTens fraction
  split
  · rename_i positive
    obtain ⟨j, rfl⟩ := Int.eq_ofNat_of_zero_le positive
    simp [div_div]
  · rename_i negative
    obtain ⟨j, rfl⟩ : ∃ j : Nat, k = -(j : Int) := ⟨(-k).toNat, by omega⟩
    simp [zpow_neg]
    ring

/-! ## Magnitudes -/

/-- The number without its sign. -/
def magnitude (x : Binary64) : ℚ := x.mantissa * 2 ^ x.exponent

/-- The number. -/
def toRat (x : Binary64) : ℚ := if x.negative then -x.magnitude else x.magnitude

variable {x y : Binary64}

theorem fraction_ratio (x : Binary64) : fraction x.ratio = x.magnitude := fraction_scale _ _

theorem magnitude_nonneg (x : Binary64) : 0 ≤ x.magnitude := by
  unfold magnitude
  positivity

theorem abs_toRat (x : Binary64) : |x.toRat| = x.magnitude := by
  have nonneg := x.magnitude_nonneg
  unfold toRat
  split
  · rw [abs_neg, abs_of_nonneg nonneg]
  · exact abs_of_nonneg nonneg

theorem magnitude_eq_zero : x.magnitude = 0 ↔ x.isZero = true := by
  simp [magnitude, isZero, zpow_ne_zero]

/-- A larger exponent is that of a larger number, as only the least exponent leaves the mantissa
short of its full width. -/
theorem magnitude_lt_of_exponent_lt (lower : x.exponent < y.exponent) : x.magnitude < y.magnitude := by
  obtain ⟨short, least, -, -⟩ := x.canonical
  obtain ⟨-, -, -, full⟩ := y.canonical
  have full : normal ≤ y.mantissa := by
    by_contra lacking
    have := full (by omega)
    omega
  have unit : (0 : ℚ) < 2 ^ x.exponent := by positivity
  have twice : (2 : ℚ) ^ (x.exponent + 1) ≤ 2 ^ y.exponent := zpow_le_zpow_right₀ (by norm_num) lower
  have short : (x.mantissa : ℚ) < 2 * normal := by exact_mod_cast short
  have full : (normal : ℚ) ≤ y.mantissa := by exact_mod_cast full
  calc x.magnitude < 2 * normal * 2 ^ x.exponent := mul_lt_mul_of_pos_right short unit
    _ = normal * 2 ^ (x.exponent + 1) := by rw [zpow_add_one₀ (by norm_num)]; ring
    _ ≤ y.magnitude := mul_le_mul full twice (by positivity) (by positivity)

/-- The canonical form of a magnitude is one. -/
theorem magnitude_inj : x.magnitude = y.magnitude ↔ x.mantissa = y.mantissa ∧ x.exponent = y.exponent := by
  refine ⟨fun same => ?_, fun ⟨mantissa, exponent⟩ => by rw [magnitude, magnitude, mantissa, exponent]⟩
  rcases lt_trichotomy x.exponent y.exponent with lower | exponent | higher
  · exact absurd same (magnitude_lt_of_exponent_lt lower).ne
  · have unit : (2 : ℚ) ^ y.exponent ≠ 0 := zpow_ne_zero _ (by norm_num)
    rw [magnitude, magnitude, exponent] at same
    exact ⟨by exact_mod_cast mul_right_cancel₀ unit same, exponent⟩
  · exact absurd same.symm (magnitude_lt_of_exponent_lt higher).ne

/-! ## Comparison -/

theorem onGrid_mul {grid : Int} (fine : grid ≤ x.exponent) : (x.onGrid grid : ℚ) * 2 ^ grid = x.toRat := by
  obtain ⟨steps, exponent⟩ : ∃ steps : Nat, x.exponent = grid + steps := ⟨(x.exponent - grid).toNat, by omega⟩
  have magnitude : x.magnitude = x.mantissa * 2 ^ steps * 2 ^ grid := by
    rw [Binary64.magnitude, exponent, zpow_add₀ (by norm_num), zpow_natCast]
    ring
  unfold onGrid toRat
  rw [magnitude, exponent, show grid + (steps : Int) - grid = steps by omega]
  cases x.negative <;> simp

/-- Doubles compare as equal if they are one number. -/
theorem compare_eq_iff : x.compare y = .eq ↔ x.toRat = y.toRat := by
  have unit : (2 : ℚ) ^ min x.exponent y.exponent ≠ 0 := zpow_ne_zero _ (by norm_num)
  rw [← onGrid_mul (min_le_left x.exponent y.exponent), ← onGrid_mul (min_le_right x.exponent y.exponent),
    mul_left_inj' unit, Int.cast_inj]
  exact Int.compare_eq_eq

/-! ## Integers -/

theorem roundHalfEven_one (n : Nat) : roundHalfEven n 1 = n := by
  simp [roundHalfEven, Nat.mod_one]

theorem floorLog2_one {n : Nat} (positive : 0 < n) : floorLog2 n 1 = Nat.log2 n := by
  have whole : 2 ^ Nat.log2 n ≤ n := Nat.log2_self_le positive.ne'
  have unit : Nat.log2 1 = 0 := by decide
  simp [floorLog2, scale, unit, whole]

/-- A natural number of at most 53 bits keeps them all. -/
theorem ofRatio_nat {n : Nat} (negative : Bool) (positive : 0 < n) (short : n < 2 * normal) :
    ∃ x, ofRatio negative n 1 = some x ∧ x.negative = negative ∧ x.magnitude = n := by
  have least : 2 ^ Nat.log2 n ≤ n := Nat.log2_self_le positive.ne'
  have below : n < 2 ^ (Nat.log2 n + 1) := Nat.lt_log2_self
  have bits : Nat.log2 n ≤ 52 := by
    by_contra many
    have : (2 : Nat) ^ 53 ≤ 2 ^ Nat.log2 n := Nat.pow_le_pow_right (by decide) (by omega)
    have : (2 : Nat) ^ 53 = 2 * normal := by decide
    omega
  obtain ⟨room, full⟩ : ∃ room, Nat.log2 n + room = 52 := ⟨52 - Nat.log2 n, by omega⟩
  have width : 2 ^ Nat.log2 n * 2 ^ room = normal := by rw [← pow_add, full]; rfl
  have wide : normal ≤ n * 2 ^ room := width ▸ Nat.mul_le_mul_right _ least
  have fits : n * 2 ^ room < 2 * normal := by
    have := Nat.mul_lt_mul_of_pos_right below (Nat.two_pow_pos room)
    rw [pow_succ, mul_right_comm, width] at this
    omega
  have exponent : max (-1074) (floorLog2 n 1 - 52) = -(room : Int) := by
    rw [floorLog2_one positive]
    omega
  have unit : scale 1 (-(room : Int)) = (1, 2 ^ room) := by
    unfold scale
    split
    · obtain rfl : room = 0 := by omega
      rfl
    · simp
  have canonical : Canonical (n * 2 ^ room) (-(room : Int)) := ⟨fits, by omega, by omega, by omega⟩
  refine ⟨⟨negative, n * 2 ^ room, -(room : Int), canonical⟩, ?_, rfl, ?_⟩
  · simp [ofRatio, positive.ne', exponent, unit, roundHalfEven_one, fits.ne, canonical]
  · simp [magnitude, zpow_neg]

/-- Integers up to `2 ^ 53` are doubles. -/
theorem ofInt?_exact {i : Int} (small : i.natAbs ≤ 2 * normal) : ∃ x, ofInt? i = some x ∧ x.toRat = i := by
  have signed (x : Binary64) (sign : x.negative = decide (i < 0)) (whole : x.magnitude = i.natAbs) : x.toRat = i := by
    unfold toRat
    rw [sign, whole]
    by_cases negative : i < 0
    · simp [negative, Nat.cast_natAbs, abs_of_neg negative]
    · simp [negative, Nat.cast_natAbs, abs_of_nonneg (not_lt.mp negative)]
  rcases Nat.eq_zero_or_pos i.natAbs with none | positive
  · obtain rfl : i = 0 := by omega
    exact ⟨zero false, rfl, by simp [toRat, magnitude, Binary64.zero]⟩
  · rcases Nat.lt_or_eq_of_le small with short | power
    · obtain ⟨x, known, sign, whole⟩ := ofRatio_nat (decide (i < 0)) positive short
      exact ⟨x, known, signed x sign whole⟩
    · have known (negative : Bool) : ofRatio negative (2 * normal) 1 = some ⟨negative, normal, 1, by decide⟩ := by
        cases negative <;> decide +kernel
      refine ⟨_, by rw [ofInt?, power, known], signed _ rfl ?_⟩
      rw [power]
      norm_num [magnitude, normal]

/-! ## Whole numbers -/

theorem isIntegral_iff : x.isIntegral = true ↔ ∃ n : Nat, x.magnitude = n := by
  have unit : (0 : ℚ) < x.ratio.2 := by exact_mod_cast scale_den_pos x.mantissa x.exponent
  have divides : x.isIntegral = true ↔ x.ratio.2 ∣ x.ratio.1 := by
    simp [isIntegral, Nat.dvd_iff_mod_eq_zero]
  rw [divides, ← fraction_ratio, fraction]
  refine exists_congr fun n => ?_
  rw [div_eq_iff unit.ne', mul_comm]
  exact_mod_cast Iff.rfl

theorem isIntegral_iff_den : x.isIntegral = true ↔ x.toRat.den = 1 := by
  rw [isIntegral_iff]
  constructor
  · rintro ⟨n, whole⟩
    rw [toRat, whole]
    cases x.negative <;> simp
  · intro whole
    refine ⟨x.toRat.num.natAbs, ?_⟩
    rw [← abs_toRat, ← Rat.coe_int_num_of_den_eq_one whole, Rat.num_intCast, Nat.cast_natAbs, Int.cast_abs]

/-- Of a whole number nothing is cut off. -/
theorem truncate_of_isIntegral (whole : x.isIntegral = true) : x.truncate = x.toRat.num := by
  have divides : x.ratio.2 ∣ x.ratio.1 := Nat.dvd_of_mod_eq_zero (by simpa [isIntegral] using whole)
  have unit : (x.ratio.2 : ℚ) ≠ 0 := by exact_mod_cast (scale_den_pos x.mantissa x.exponent).ne'
  have magnitude : ((x.ratio.1 / x.ratio.2 : Nat) : ℚ) = x.magnitude := by
    rw [Nat.cast_div divides unit, ← fraction_ratio, fraction]
  have value : (x.truncate : ℚ) = x.toRat := by
    unfold truncate toRat
    rw [← magnitude]
    cases x.negative <;> simp [← Int.natCast_ediv]
  rw [← value, Rat.num_intCast]

theorem num_nonneg_iff : 0 ≤ x.toRat.num ↔ (x.negative = true → x.isZero = true) := by
  rw [Rat.num_nonneg, ← magnitude_eq_zero]
  have nonneg := x.magnitude_nonneg
  unfold toRat
  cases x.negative with
  | false => simpa using nonneg
  | true => simpa using ⟨fun below => le_antisymm below nonneg, fun zero => zero.le⟩

end Binary64

namespace Number

/-- The exact value of a number. -/
def toRat : Number → ℚ
  | .int i => i
  | .real x => x.toRat

theorem isInteger_iff_den (n : Number) : n.isInteger = true ↔ n.toRat.den = 1 := by
  cases n with
  | int i => simp [isInteger, toRat]
  | real x => exact Binary64.isIntegral_iff_den

/-- A number is a limit by its exact value. -/
theorem limit?_eq (n : Number) : n.limit? =
    if n.toRat.den = 1 ∧ 0 ≤ n.toRat.num then
      some (match n with
        | .int _ => n.toRat.num.toNat
        | .real _ => min n.toRat.num.toNat (2 ^ 64 - 1))
    else none := by
  cases n with
  | int i => simp [limit?, toRat]
  | real x =>
    simp only [limit?, toRat, Binary64.isIntegral_iff_den, Binary64.num_nonneg_iff]
    split
    · rename_i whole
      rw [Binary64.truncate_of_isIntegral (Binary64.isIntegral_iff_den.mpr whole.1)]
      rfl
    · rfl

end Number
end JsonSchema
