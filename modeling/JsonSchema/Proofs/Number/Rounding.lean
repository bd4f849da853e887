import JsonSchema.Proofs.Number.Magnitude

/-!
# The numbers that round to a double

The decimals that read back as a double lie between the midpoints to its neighbours. These
intervals do not overlap: two doubles have at most an end in common, and it belongs to the one with
the even mantissa.
-/

namespace JsonSchema.Binary64

variable {x y : Binary64} {q : ℚ}

/-- The least number that rounds to the magnitude. -/
def lower (x : Binary64) : ℚ := x.interval.below * 2 ^ (x.exponent - 2)

/-- The greatest number that rounds to the magnitude. -/
def upper (x : Binary64) : ℚ := x.interval.above * 2 ^ (x.exponent - 2)

/-- A number rounds to the magnitude; ties go to the even mantissa. -/
def Covers (x : Binary64) (q : ℚ) : Prop :=
  (x.lower ≤ q ∧ q ≤ x.upper) ∧ (x.mantissa % 2 = 1 → x.lower < q ∧ q < x.upper)

/-- Reading a decimal back is rounding it. -/
theorem readsBack_iff (x : Binary64) (c : Nat) (k : Int) : x.readsBack c k = true ↔ x.Covers (c * 10 ^ k) := by
  have pointValue := fraction_inTens c 1 (-k)
  have stepValue := fraction_scale 1 (x.exponent - 2)
  have unitPositive := @inTens_den_pos c 1 Nat.one_pos (-k)
  have denPositive := scale_den_pos 1 (x.exponent - 2)
  unfold readsBack Covers lower upper
  generalize inTens c 1 (-k) = decimal at *
  generalize scale 1 (x.exponent - 2) = quarter at *
  obtain ⟨point, unit⟩ := decimal
  obtain ⟨step, den⟩ := quarter
  simp only [fraction, Nat.cast_one, div_one, one_mul, zpow_neg, div_inv_eq_mul] at pointValue stepValue
  have unitPositive : (0 : ℚ) < unit := by exact_mod_cast unitPositive
  have denPositive : (0 : ℚ) < den := by exact_mod_cast denPositive
  -- products of naturals compare as the fractions do
  have order (a : Nat) : ((a * step * unit : Nat) : ℚ) = a * 2 ^ (x.exponent - 2) * (den * unit) ∧
      ((point * den : Nat) : ℚ) = c * 10 ^ k * (den * unit) := by
    rw [← pointValue, ← stepValue]
    push_cast
    constructor <;> field_simp
  have positive : 0 < (den : ℚ) * unit := mul_pos denPositive unitPositive
  have low (a : Nat) : a * step * unit ≤ point * den ↔ (a : ℚ) * 2 ^ (x.exponent - 2) ≤ c * 10 ^ k := by
    rw [← Nat.cast_le (α := ℚ), (order a).1, (order a).2, mul_le_mul_iff_left₀ positive]
  have high (a : Nat) : point * den ≤ a * step * unit ↔ (c : ℚ) * 10 ^ k ≤ a * 2 ^ (x.exponent - 2) := by
    rw [← Nat.cast_le (α := ℚ), (order a).1, (order a).2, mul_le_mul_iff_left₀ positive]
  have closed : x.interval.closed = true ↔ x.mantissa % 2 = 0 := by simp [interval]
  by_cases even : x.mantissa % 2 = 0
  · simp [closed.mpr even, even, low, high]
  · have odd : x.mantissa % 2 = 1 := by omega
    have opened : x.interval.closed = false := by simpa using mt closed.mp even
    simp only [opened, odd, Bool.false_eq_true, if_false, Bool.and_eq_true, decide_eq_true_eq, true_imp_iff,
      ← not_le, low, high]
    exact ⟨fun inner => ⟨⟨le_of_not_ge inner.1, le_of_not_ge inner.2⟩, inner⟩, And.right⟩

/-! ## Intervals -/

theorem magnitude_eq_quarters (x : Binary64) : x.magnitude = (4 * x.mantissa : Nat) * 2 ^ (x.exponent - 2) := by
  have quarter : (2 : ℚ) ^ x.exponent = 2 ^ (x.exponent - 2) * 4 := by
    rw [show x.exponent = x.exponent - 2 + 2 by omega, zpow_add₀ (by norm_num)]
    norm_num
  rw [magnitude, quarter]
  push_cast
  ring

theorem four_mantissa_le_below (x : Binary64) : 4 * x.mantissa ≤ x.interval.below + 2 := by
  unfold interval
  simp only
  split <;> omega

theorem below_of_normal (least : x.mantissa = normal) (above : -1074 < x.exponent) :
    x.interval.below = 4 * normal - 1 := by
  simp [interval, least, above]

/-- What lies strictly between the ends belongs to the interval. -/
theorem covers_of_lt (low : x.lower < q) (high : q < x.upper) : x.Covers q :=
  ⟨⟨low.le, high.le⟩, fun _ => ⟨low, high⟩⟩

theorem magnitude_lt_upper (x : Binary64) : x.magnitude < x.upper := by
  rw [magnitude_eq_quarters, upper]
  refine mul_lt_mul_of_pos_right ?_ (by positivity)
  exact_mod_cast (show 4 * x.mantissa < 4 * x.mantissa + 2 by omega)

theorem lower_lt_magnitude (nonzero : x.isZero = false) : x.lower < x.magnitude := by
  have positive : x.mantissa ≠ 0 := by simpa [isZero] using nonzero
  rw [magnitude_eq_quarters, lower]
  refine mul_lt_mul_of_pos_right ?_ (by positivity)
  have : x.interval.below < 4 * x.mantissa := by
    unfold interval
    simp only
    split <;> omega
  exact_mod_cast this

/-- A double rounds to itself. -/
theorem covers_self (nonzero : x.isZero = false) : x.Covers x.magnitude :=
  covers_of_lt (lower_lt_magnitude nonzero) x.magnitude_lt_upper

/-- Intervals are wide enough for steps of seventeen digits. -/
theorem magnitude_lt_width (nonzero : x.isZero = false) : x.magnitude < (x.upper - x.lower) * 10 ^ 16 := by
  have positive : x.mantissa ≠ 0 := by simpa [isZero] using nonzero
  obtain ⟨short, -, -, -⟩ := x.canonical
  have bits : normal = 0x10000000000000 := rfl
  have above : x.interval.above = 4 * x.mantissa + 2 := rfl
  have wide : 4 * x.mantissa + x.interval.below * 10 ^ 16 < x.interval.above * 10 ^ 16 := by
    unfold interval
    simp only
    split <;> omega
  have unit : (0 : ℚ) < 2 ^ (x.exponent - 2) := by positivity
  have wide : ((4 * x.mantissa + x.interval.below * 10 ^ 16 : Nat) : ℚ) < (x.interval.above * 10 ^ 16 : Nat) := by
    exact_mod_cast wide
  rw [magnitude_eq_quarters, upper, lower]
  push_cast at wide ⊢
  nlinarith

/-! ## Intervals do not overlap -/

/-- The interval of a smaller double ends before that of a larger one starts, or where it starts. -/
theorem upper_le_lower (smaller : x.magnitude < y.magnitude) :
    x.upper < y.lower ∨ x.upper ≤ y.lower ∧ (x.mantissa % 2 = 1 ∨ y.mantissa % 2 = 1) := by
  have unit : (0 : ℚ) < 2 ^ (x.exponent - 2) := by positivity
  have above : x.interval.above = 4 * x.mantissa + 2 := rfl
  have below := four_mantissa_le_below y
  rcases lt_trichotomy x.exponent y.exponent with finer | same | coarser
  · obtain ⟨short, least, -, -⟩ := x.canonical
    obtain ⟨-, -, -, full⟩ := y.canonical
    have full : normal ≤ y.mantissa := by
      by_contra lacking
      have := full (by omega)
      omega
    have twice : (2 : ℚ) ^ (x.exponent - 2) * 2 ≤ 2 ^ (y.exponent - 2) := by
      rw [← zpow_add_one₀ (by norm_num)]
      exact zpow_le_zpow_right₀ (by norm_num) (by omega)
    have start : ((2 * y.interval.below : Nat) : ℚ) * 2 ^ (x.exponent - 2) ≤ y.lower := by
      have := mul_le_mul_of_nonneg_left twice (Nat.cast_nonneg (α := ℚ) y.interval.below)
      rw [lower]
      push_cast
      linarith
    have order : x.interval.above < 2 * y.interval.below ∨
        x.interval.above ≤ 2 * y.interval.below ∧ x.mantissa % 2 = 1 := by
      have half : normal % 2 = 0 := by decide
      rcases Nat.lt_or_eq_of_le full with more | least
      · omega
      · have := below_of_normal least.symm (by omega)
        omega
    rcases order with apart | ⟨touching, odd⟩
    · refine .inl (lt_of_lt_of_le (mul_lt_mul_of_pos_right ?_ unit) start)
      exact_mod_cast apart
    · refine .inr ⟨le_trans (mul_le_mul_of_nonneg_right ?_ unit.le) start, .inl odd⟩
      exact_mod_cast touching
  · have mantissa : x.mantissa < y.mantissa := by
      rw [magnitude, magnitude, same, mul_lt_mul_iff_left₀ (by positivity)] at smaller
      exact_mod_cast smaller
    have order : x.interval.above < y.interval.below ∨
        x.interval.above ≤ y.interval.below ∧ (x.mantissa % 2 = 1 ∨ y.mantissa % 2 = 1) := by omega
    unfold upper lower
    rw [← same]
    rcases order with apart | ⟨touching, odd⟩
    · refine .inl (mul_lt_mul_of_pos_right ?_ unit)
      exact_mod_cast apart
    · refine .inr ⟨mul_le_mul_of_nonneg_right ?_ unit.le, odd⟩
      exact_mod_cast touching
  · exact absurd (magnitude_lt_of_exponent_lt coarser) smaller.le.not_gt

theorem upper_mono (order : x.magnitude ≤ y.magnitude) : x.upper ≤ y.upper := by
  rcases order.lt_or_eq with smaller | same
  · have touching : x.upper ≤ y.lower := by
      rcases upper_le_lower smaller with apart | ⟨touching, -⟩
      · exact apart.le
      · exact touching
    have nonzero : y.isZero = false := by
      by_contra zero
      have zero : y.magnitude = 0 := magnitude_eq_zero.mpr (by simpa using zero)
      linarith [x.magnitude_nonneg]
    linarith [lower_lt_magnitude nonzero, y.magnitude_lt_upper]
  · obtain ⟨mantissa, exponent⟩ := magnitude_inj.mp same
    rw [upper, upper, interval, interval, mantissa, exponent]

theorem Covers.not_of_lt (covers : x.Covers q) (smaller : x.magnitude < y.magnitude) : ¬ y.Covers q := by
  intro other
  obtain ⟨⟨-, high⟩, inner⟩ := covers
  obtain ⟨⟨low, -⟩, inner'⟩ := other
  rcases upper_le_lower smaller with apart | ⟨touching, odd | odd⟩
  · linarith
  · linarith [(inner odd).2]
  · linarith [(inner' odd).1]

/-- A number rounds to one magnitude only. -/
theorem Covers.magnitude_eq (covers : x.Covers q) (covers' : y.Covers q) : x.magnitude = y.magnitude := by
  rcases lt_trichotomy x.magnitude y.magnitude with smaller | same | larger
  · exact absurd covers' (covers.not_of_lt smaller)
  · exact same
  · exact absurd covers (covers'.not_of_lt larger)

end JsonSchema.Binary64
