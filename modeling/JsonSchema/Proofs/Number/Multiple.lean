import JsonSchema.Proofs.Number.Quotient

/-!
# Multiples of integers

Two integers of one word type divide exactly. A negative integer beside one beyond the signed words
is divided after both are rounded to doubles, and the answer is whether an integer lies within half
a step of that quotient.
-/

namespace JsonSchema

namespace Binary64

variable {x y : Binary64} {num den : Nat}

/-- Rounding ends at an integer just if one lies within half a step. -/
theorem Rounds.isIntegral_iff (rounds : x.Rounds num den) (above : -1022 < floorLog2 num den) :
    x.isIntegral = true ↔ ∃ n : Nat, |(num : ℚ) / den - n| ≤ 2 ^ (floorLog2 num den - 53) := by
  obtain ⟨count, magnitude, nearest⟩ := rounds.count
  set bit := floorLog2 num den
  have grain : step bit = bit - 52 := by
    simp only [step]
    omega
  rw [grain] at magnitude nearest
  have unit : (0 : ℚ) < 2 ^ (bit - 52) := by positivity
  have half : (2 : ℚ) ^ (bit - 53) = 1 / 2 * 2 ^ (bit - 52) := by
    rw [show bit - 52 = bit - 53 + 1 by omega, zpow_add_one₀ (by norm_num)]
    ring
  have scaled (m : ℚ) : |(num : ℚ) / den - m * 2 ^ (bit - 52)| ≤ 2 ^ (bit - 53) ↔
      |(num : ℚ) / den / 2 ^ (bit - 52) - m| ≤ 1 / 2 := by
    have distance : |(num : ℚ) / den - m * 2 ^ (bit - 52)| =
        |(num : ℚ) / den / 2 ^ (bit - 52) - m| * 2 ^ (bit - 52) := by
      conv_rhs => rw [← abs_of_pos unit, ← abs_mul, abs_of_pos unit]
      rw [sub_mul, div_mul_cancel₀ _ unit.ne']
    rw [distance, half, mul_le_mul_iff_left₀ unit]
  have close := (scaled count).mpr nearest.1
  rw [Binary64.isIntegral_iff, magnitude]
  constructor
  · rintro ⟨n, integral⟩
    exact ⟨n, integral ▸ close⟩
  · rintro ⟨n, near⟩
    rcases le_or_gt 0 (bit - 52) with coarse | fine
    · obtain ⟨k, steps⟩ := Int.eq_ofNat_of_zero_le coarse
      exact ⟨count * 2 ^ k, by rw [steps, zpow_natCast]; push_cast; rfl⟩
    · obtain ⟨k, steps⟩ : ∃ k : Nat, bit - 52 = -((k + 1 : Nat) : Int) := ⟨(51 - bit).toNat, by omega⟩
      -- an integer is an even number of such steps, so ties go to it
      have whole : (n : ℚ) = (n * 2 ^ (k + 1) : Nat) * 2 ^ (bit - 52) := by
        rw [steps, zpow_neg, zpow_natCast]
        push_cast
        field_simp
      have even : n * 2 ^ (k + 1) % 2 = 0 := by
        rw [pow_succ, ← mul_assoc, Nat.mul_mod_left]
      rw [whole, scaled] at near
      exact ⟨n, by rw [nearest.eq_even even near, ← whole]⟩

/-- The quotient of two doubles is an integer just if one lies within half a step of it. -/
theorem hasIntegralQuotient_iff (nonzero : x.isZero = false) (nonzero' : y.isZero = false)
    (above : -1022 < Int.log 2 (x.magnitude / y.magnitude)) (below : Int.log 2 (x.magnitude / y.magnitude) ≤ 1022) :
    Number.hasIntegralQuotient x y = true ↔
      ∃ n : Nat, |x.magnitude / y.magnitude - n| ≤ 2 ^ (Int.log 2 (x.magnitude / y.magnitude) - 53) := by
  obtain ⟨positive, positive'⟩ := ratio_pos nonzero
  obtain ⟨positive₂, positive₂'⟩ := ratio_pos nonzero'
  have num := Nat.mul_pos positive positive₂'
  have den := Nat.mul_pos positive' positive₂
  have quotient : ((x.ratio.1 * y.ratio.2 : Nat) : ℚ) / (x.ratio.2 * y.ratio.1 : Nat) = x.magnitude / y.magnitude := by
    rw [← fraction_ratio, ← fraction_ratio, fraction, fraction, div_div_div_eq]
    push_cast
    rfl
  have bit := floorLog2_eq_log num den
  rw [quotient] at bit
  obtain ⟨z, rounded, -, rounds⟩ := ofRatio_rounds (x.negative != y.negative) num den (by omega)
  have value : x.div y = some z := by simp [div, nonzero', rounded]
  rw [Number.hasIntegralQuotient, value, Option.map_some, Option.getD_some, rounds.isIntegral_iff (by omega), bit, quotient]

theorem log_bounds {q : ℚ} {low high : Int} (least : (2 : ℚ) ^ low ≤ q) (greatest : q ≤ 2 ^ high) :
    low ≤ Int.log 2 q ∧ Int.log 2 q ≤ high := by
  have positive : 0 < q := lt_of_lt_of_le (by positivity) least
  refine ⟨(Int.zpow_le_iff_le_log (by decide) positive).mp (by exact_mod_cast least), ?_⟩
  have bound : Int.log 2 q ≤ Int.log 2 (((2 : Nat) : ℚ) ^ high) :=
    Int.log_mono_right positive (by exact_mod_cast greatest)
  rwa [Int.log_zpow (by decide)] at bound

/-- Multiplying with one keeps the magnitude. -/
theorem magnitude_mul_one {z : Binary64} (nonzero : x.isZero = false) (below : Int.log 2 x.magnitude ≤ 1022)
    (product : x.mul one = some z) : z.magnitude = x.magnitude := by
  obtain ⟨positive, positive'⟩ := ratio_pos nonzero
  obtain ⟨unit, unit'⟩ := ratio_pos (x := one) rfl
  have num := Nat.mul_pos positive unit
  have den := Nat.mul_pos positive' unit'
  have same : ((x.ratio.1 * one.ratio.1 : Nat) : ℚ) / (x.ratio.2 * one.ratio.2 : Nat) = x.magnitude := by
    have one_ : fraction one.ratio = 1 := by
      rw [fraction_ratio, magnitude]
      norm_num [one, normal]
    rw [← fraction_ratio, ← mul_one (fraction x.ratio), ← one_, fraction, fraction, div_mul_div_comm]
    push_cast
    rfl
  have bit := floorLog2_eq_log num den
  rw [same] at bit
  obtain ⟨z', rounded, -, rounds⟩ := ofRatio_rounds (x.negative != one.negative) num den (by omega)
  obtain rfl : z' = z := Option.some.inj (rounded.symm.trans product)
  exact (same ▸ rounds.covers).magnitude_eq (covers_self nonzero)

/-- Rounding to an integer does not cross a smaller one. -/
theorem le_natAbs_round {n : Nat} (least : (n : ℚ) ≤ x.magnitude) : n ≤ x.round.natAbs := by
  have unit : 0 < x.ratio.2 := scale_den_pos x.mantissa x.exponent
  have unitCast : (0 : ℚ) < x.ratio.2 := by exact_mod_cast unit
  rw [← fraction_ratio, fraction, le_div_iff₀ unitCast] at least
  have least : n * x.ratio.2 ≤ x.ratio.1 := by exact_mod_cast least
  have rounded : x.round.natAbs = (2 * x.ratio.1 + x.ratio.2) / (2 * x.ratio.2) := by
    have cast : ((2 * x.ratio.1 + x.ratio.2 : Int) / (2 * x.ratio.2) : Int) =
        ((2 * x.ratio.1 + x.ratio.2) / (2 * x.ratio.2) : Nat) := by push_cast; rfl
    unfold round
    simp only [cast]
    split <;> simp only [Int.natAbs_neg, Int.natAbs_natCast]
  rw [rounded, Nat.le_div_iff_mul_le (Nat.mul_pos two_pos unit)]
  linarith

/-- An integer of a 64-bit word is rounded to a double in the range of its leading bit. -/
theorem ofInt?_rounds {i : Int} (nonzero : i ≠ 0) (word : i.natAbs < 2 ^ 64) :
    ∃ x, ofInt? i = some x ∧ x.negative = decide (i < 0) ∧ x.Covers |(i : ℚ)| ∧ x.isZero = false ∧
      1 ≤ x.magnitude ∧ x.magnitude ≤ 2 ^ (64 : Int) ∧ (2 ^ 63 ≤ i.natAbs → (2 : ℚ) ^ (63 : Int) ≤ x.magnitude) := by
  have positive : 0 < i.natAbs := Int.natAbs_pos.mpr nonzero
  have bit := floorLog2_one positive
  have short : Nat.log2 i.natAbs < 64 := (Nat.log2_lt positive.ne').mpr word
  obtain ⟨x, rounded, sign, rounds⟩ := ofRatio_rounds (decide (i < 0)) positive Nat.one_pos (by omega)
  have covers := rounds.covers
  obtain ⟨least, greatest⟩ := rounds.leading (by omega)
  rw [bit] at least greatest
  rw [Nat.cast_one, div_one, Nat.cast_natAbs, Int.cast_abs] at covers
  have one_le : (1 : ℚ) ≤ x.magnitude :=
    le_trans (one_le_zpow₀ (by norm_num) (by omega)) least
  refine ⟨x, rounded, sign, covers, ?_, one_le, ?_, fun long => ?_⟩
  · by_contra zero
    have := magnitude_eq_zero.mpr (by simpa using zero)
    linarith
  · exact le_trans greatest (zpow_le_zpow_right₀ (by norm_num) (by omega))
  · have : 63 ≤ Nat.log2 i.natAbs := (Nat.le_log2 positive.ne').mpr long
    exact le_trans (zpow_le_zpow_right₀ (by norm_num) (by omega)) least

end Binary64

namespace Number

open Binary64

variable {v d : Int}

/-- Integers of one word type divide exactly. -/
theorem isMultipleOf_sameWord (same : sameWord v d = true) :
    (int v).isMultipleOf (int d) = true ↔ d ≠ 0 ∧ d ∣ v := by
  rw [Int.dvd_iff_emod_eq_zero]
  simp [isMultipleOf, same]

/-- A double beyond the signed words is not scaled exactly. -/
theorem exactDouble_le_scaled {a b : Binary64} (nonzero : a.isZero = false) (short : Int.log 2 a.magnitude ≤ 1022)
    (product : a.mul one = some b) (long : (2 : ℚ) ^ (63 : Int) ≤ a.magnitude) :
    ¬ (b.round.natAbs : Int) < exactDouble := by
  rw [← magnitude_mul_one nonzero short product] at long
  have large : 0x20000000000000 ≤ b.round.natAbs := le_natAbs_round (le_trans (by norm_num) long)
  rw [exactDouble, not_lt]
  exact_mod_cast large

/-- Integers of different word types are divided as doubles: scaling them does not make the larger
one exact. -/
theorem isMultipleOf_otherWord {x y : Binary64} (other : sameWord v d = false) (rounded : ofInt? v = some x)
    (rounded' : ofInt? d = some y) (nonzero : x.isZero = false) (nonzero' : y.isZero = false)
    (short : Int.log 2 x.magnitude ≤ 1022) (short' : Int.log 2 y.magnitude ≤ 1022)
    (long : (2 : ℚ) ^ (63 : Int) ≤ x.magnitude ∨ (2 : ℚ) ^ (63 : Int) ≤ y.magnitude) :
    (int v).isMultipleOf (int d) = hasIntegralQuotient x y := by
  -- kept under a name, so that nothing is computed from it
  obtain ⟨unit, same, scale⟩ : ∃ unit, unit = one ∧ ((ofInt? 10).getD default).pow 0 = some unit := ⟨one, rfl, rfl⟩
  simp only [isMultipleOf, other, Bool.false_eq_true, if_false, isDecimalMultipleOf, toBinary64, rounded, rounded',
    Option.getD_some, nonzero', places, Bool.false_or, Nat.lt_irrefl, decide_false]
  rw [scale]
  simp only [Option.bind_eq_bind, Option.bind_some]
  cases product : x.mul unit with
  | none => rfl
  | some a =>
    cases product' : y.mul unit with
    | none => rfl
    | some b =>
      subst same
      have fallsBack : ¬ ((a.round.natAbs : Int) < exactDouble ∧ (b.round.natAbs : Int) < exactDouble ∧ b.round ≠ 0) := by
        rintro ⟨exact₁, exact₂, -⟩
        exact long.elim (fun long => exactDouble_le_scaled nonzero short product long exact₁)
          fun long => exactDouble_le_scaled nonzero' short' product' long exact₂
      simp only [Option.bind_some, Option.pure_def, if_neg fallsBack]

end Number

namespace Binary64

variable {x y : Binary64}

/-- Rounding keeps the order. -/
theorem Covers.magnitude_le {p q : ℚ} (covers : x.Covers p) (covers' : y.Covers q) (order : p ≤ q) :
    x.magnitude ≤ y.magnitude := by
  by_contra larger
  obtain ⟨⟨low, -⟩, inner⟩ := covers
  obtain ⟨⟨-, high⟩, inner'⟩ := covers'
  rcases upper_le_lower (not_le.mp larger) with apart | ⟨touching, odd | odd⟩
  · linarith
  · linarith [(inner' odd).2]
  · linarith [(inner odd).1]

/-! ## The least integer beyond the signed words -/

/-- `2 ^ 63` as a double. -/
def beyondSigned : Binary64 := ⟨false, normal, 11, by decide⟩

theorem magnitude_beyondSigned : beyondSigned.magnitude = 2 ^ 63 := by
  norm_num [magnitude, beyondSigned, normal]

/-- Halfway to the neighbours of `2 ^ 63` the numbers round to it, as its mantissa is even. -/
theorem covers_beyondSigned {q : ℚ} : beyondSigned.Covers q ↔ 2 ^ 63 - 512 ≤ q ∧ q ≤ 2 ^ 63 + 1024 := by
  have low : beyondSigned.lower = 2 ^ 63 - 512 := by norm_num [lower, interval, beyondSigned, normal]
  have high : beyondSigned.upper = 2 ^ 63 + 1024 := by norm_num [upper, interval, beyondSigned, normal]
  have even : ¬ beyondSigned.mantissa % 2 = 1 := by decide
  simp only [Covers, low, high, even, false_imp_iff, and_true]

theorem magnitude_eq_beyondSigned {q : ℚ} (covers : x.Covers q) :
    x.magnitude = 2 ^ 63 ↔ 2 ^ 63 - 512 ≤ q ∧ q ≤ 2 ^ 63 + 1024 := by
  rw [← covers_beyondSigned, ← magnitude_beyondSigned]
  refine ⟨fun same => ?_, fun covers' => covers.magnitude_eq covers'⟩
  obtain ⟨mantissa, exponent⟩ := magnitude_inj.mp same
  simpa only [Covers, lower, upper, interval, mantissa, exponent] using covers

/-- Doubles of the step of `2 ^ 63` have a full mantissa. -/
theorem magnitude_of_exponent (same : x.exponent = 11) :
    x.magnitude = (x.mantissa * 2048 : Nat) ∧ normal ≤ x.mantissa := by
  obtain ⟨-, -, -, full⟩ := x.canonical
  refine ⟨by rw [magnitude, same]; norm_num, ?_⟩
  by_contra lacking
  have := full (by omega)
  omega

/-- The double before `2 ^ 63` is 1024 less. -/
theorem magnitude_le_of_lt_beyondSigned (below : x.magnitude < 2 ^ 63) : x.magnitude ≤ 2 ^ 63 - 1024 := by
  obtain ⟨short, -, -, -⟩ := x.canonical
  have finer : x.exponent ≤ 10 := by
    by_contra coarse
    rcases (show 11 ≤ x.exponent by omega).lt_or_eq with above | same
    · have := magnitude_lt_of_exponent_lt (x := beyondSigned) (y := x) above
      rw [magnitude_beyondSigned] at this
      linarith
    · obtain ⟨value, wide⟩ := magnitude_of_exponent same.symm
      rw [value] at below
      have below : x.mantissa * 2048 < 2 ^ 63 := by exact_mod_cast below
      simp only [normal] at wide
      omega
  have unit : (2 : ℚ) ^ x.exponent ≤ 2 ^ (10 : Int) := zpow_le_zpow_right₀ (by norm_num) finer
  have digits : (x.mantissa : ℚ) ≤ 2 * normal - 1 := by
    have : (x.mantissa : ℚ) + 1 ≤ 2 * normal := by exact_mod_cast (show x.mantissa + 1 ≤ 2 * normal from short)
    linarith
  calc x.magnitude ≤ (2 * normal - 1) * 2 ^ (10 : Int) :=
        mul_le_mul digits unit (by positivity) (by norm_num [normal])
    _ = 2 ^ 63 - 1024 := by norm_num [normal]

/-- The double after `2 ^ 63` is 2048 more. -/
theorem le_magnitude_of_beyondSigned_lt (above : 2 ^ 63 < x.magnitude) : 2 ^ 63 + 2048 ≤ x.magnitude := by
  obtain ⟨-, -, -, full⟩ := x.canonical
  rcases lt_trichotomy x.exponent 11 with finer | same | coarser
  · have := magnitude_lt_of_exponent_lt (x := x) (y := beyondSigned) finer
    rw [magnitude_beyondSigned] at this
    linarith
  · rw [(magnitude_of_exponent same).1] at above ⊢
    have above : 2 ^ 63 < x.mantissa * 2048 := by exact_mod_cast above
    exact_mod_cast (show 2 ^ 63 + 2048 ≤ x.mantissa * 2048 by omega)
  · have wide : normal ≤ x.mantissa := by
      by_contra lacking
      have := full (by omega)
      omega
    have wide : (normal : ℚ) ≤ x.mantissa := by exact_mod_cast wide
    have unit : (2 : ℚ) ^ (12 : Int) ≤ 2 ^ x.exponent := zpow_le_zpow_right₀ (by norm_num) (by omega)
    calc (2 : ℚ) ^ 63 + 2048 ≤ normal * 2 ^ (12 : Int) := by norm_num [normal]
      _ ≤ x.magnitude := mul_le_mul wide unit (by positivity) (by positivity)

/-- No quotient of a double up to `2 ^ 63` by one from there on is rounded to an integer, unless they
are equal. -/
theorem near_integer_iff (positive : 0 < x.magnitude) (small : x.magnitude ≤ 2 ^ 63) (large : 2 ^ 63 ≤ y.magnitude) :
    (∃ n : Nat, |x.magnitude / y.magnitude - n| ≤ 2 ^ (Int.log 2 (x.magnitude / y.magnitude) - 53)) ↔
      x.magnitude = 2 ^ 63 ∧ y.magnitude = 2 ^ 63 := by
  have positive' : 0 < y.magnitude := by linarith
  constructor
  · rintro ⟨n, near⟩
    by_contra differ
    have gap : x.magnitude ≤ 2 ^ 63 - 1024 ∨ 2 ^ 63 + 2048 ≤ y.magnitude := by
      rcases small.lt_or_eq with below | same
      · exact .inl (magnitude_le_of_lt_beyondSigned below)
      · rcases large.lt_or_eq with above | same'
        · exact .inr (le_magnitude_of_beyondSigned_lt above)
        · exact absurd ⟨same, same'.symm⟩ differ
    have quotient : 0 < x.magnitude / y.magnitude := div_pos positive positive'
    have short : x.magnitude / y.magnitude < 1 := (div_lt_one positive').mpr (by rcases gap with _ | _ <;> linarith)
    have bit : (2 : ℚ) ^ Int.log 2 (x.magnitude / y.magnitude) ≤ x.magnitude / y.magnitude := by
      exact_mod_cast Int.zpow_log_le_self (b := 2) (by decide) quotient
    have bit' : Int.log 2 (x.magnitude / y.magnitude) ≤ -1 := by
      have : Int.log 2 (x.magnitude / y.magnitude) < 0 :=
        (Int.lt_zpow_iff_log_lt (by decide) quotient).mp (by simpa using short)
      omega
    have halfStep : (2 : ℚ) ^ (Int.log 2 (x.magnitude / y.magnitude) - 53) ≤ x.magnitude / y.magnitude / 2 ^ 53 := by
      rw [zpow_sub₀ (by norm_num)]
      exact div_le_div_of_nonneg_right bit (by positivity)
    have halfStep' : (2 : ℚ) ^ (Int.log 2 (x.magnitude / y.magnitude) - 53) ≤ 1 / 2 ^ 54 :=
      (zpow_le_zpow_right₀ (by norm_num) (show _ ≤ (-54 : Int) by omega)).trans (by norm_num)
    have near := abs_le.mp near
    rcases Nat.eq_zero_or_pos n with rfl | some
    · push_cast at near
      linarith
    · -- the quotient is within half a step of one, but its doubles are further apart
      have some : (1 : ℚ) ≤ n := by exact_mod_cast some
      have close : 1 - 1 / 2 ^ 54 ≤ x.magnitude / y.magnitude := by linarith
      rw [le_div_iff₀ positive'] at close
      rcases gap with below | above <;> linarith
  · rintro ⟨same, same'⟩
    refine ⟨1, ?_⟩
    rw [same, same', div_self (by norm_num)]
    norm_num

end Binary64

namespace Number

open Binary64

variable {v d : Int}

/-- The doubles of two integers of different word types, and what is asked of their quotient. -/
theorem isMultipleOf_rounded (value : exactRange v = true) (divisor : exactRange d = true)
    (other : sameWord v d = false) :
    ∃ x y : Binary64, x.Covers |(v : ℚ)| ∧ y.Covers |(d : ℚ)| ∧ 0 < x.magnitude ∧ 0 < y.magnitude ∧
      ((int v).isMultipleOf (int d) = true ↔
        ∃ n : Nat, |x.magnitude / y.magnitude - n| ≤ 2 ^ (Int.log 2 (x.magnitude / y.magnitude) - 53)) := by
  simp only [exactRange, Bool.and_eq_true, decide_eq_true_eq] at value divisor
  have apart : v < 0 ∧ 2 ^ 63 ≤ d ∨ d < 0 ∧ 2 ^ 63 ≤ v := by
    simp only [sameWord, Bool.or_eq_false_iff, Bool.and_eq_false_iff, decide_eq_false_iff_not] at other
    omega
  obtain ⟨x, rounded, -, covers, nonzero, least, greatest, long⟩ := ofInt?_rounds (i := v) (by omega) (by omega)
  obtain ⟨y, rounded', -, covers', nonzero', least', greatest', long'⟩ := ofInt?_rounds (i := d) (by omega) (by omega)
  have short := (log_bounds (show (2 : ℚ) ^ (0 : Int) ≤ x.magnitude by simpa using least) greatest).2
  have short' := (log_bounds (show (2 : ℚ) ^ (0 : Int) ≤ y.magnitude by simpa using least') greatest').2
  have small : (2 : ℚ) ^ (-64 : Int) ≤ x.magnitude / y.magnitude := by
    rw [le_div_iff₀ (by linarith), zpow_neg, inv_mul_le_iff₀ (by positivity)]
    nlinarith
  have large : x.magnitude / y.magnitude ≤ 2 ^ (64 : Int) := by
    rw [div_le_iff₀ (by linarith)]
    nlinarith
  have quotient := log_bounds small large
  refine ⟨x, y, covers, covers', by linarith, by linarith, ?_⟩
  rw [isMultipleOf_otherWord other rounded rounded' nonzero nonzero' (by omega) (by omega)
    (apart.elim (fun apart => .inr (long' (by omega))) fun apart => .inl (long (by omega)))]
  exact hasIntegralQuotient_iff nonzero nonzero' (by omega) (by omega)

/-- A negative integer counts as a multiple of one beyond the signed words if both are rounded to
the magnitude `2 ^ 63`. -/
theorem isMultipleOf_beyondSigned (value : exactRange v = true) (divisor : exactRange d = true) (negative : v < 0)
    (large : 2 ^ 63 ≤ d) :
    (int v).isMultipleOf (int d) = true ↔ v ≤ -(2 ^ 63 - 512) ∧ d ≤ 2 ^ 63 + 1024 := by
  have other : sameWord v d = false := by
    simp only [sameWord, Bool.or_eq_false_iff, Bool.and_eq_false_iff, decide_eq_false_iff_not]
    omega
  obtain ⟨x, y, covers, covers', positive, positive', answer⟩ := isMultipleOf_rounded value divisor other
  have magnitude : |(v : ℚ)| = -v := abs_of_neg (by exact_mod_cast negative)
  have magnitude' : |(d : ℚ)| = d := abs_of_pos (by exact_mod_cast (show 0 < d by omega))
  have least : (-v : ℚ) ≤ 2 ^ 63 := by
    simp only [exactRange, Bool.and_eq_true, decide_eq_true_eq] at value
    exact_mod_cast (show -v ≤ 2 ^ 63 by omega)
  have largeCast : (2 ^ 63 : ℚ) ≤ d := by exact_mod_cast large
  rw [magnitude] at covers
  rw [magnitude'] at covers'
  have centre : beyondSigned.Covers (2 ^ 63) := covers_beyondSigned.mpr ⟨by norm_num, by norm_num⟩
  have small : x.magnitude ≤ 2 ^ 63 := magnitude_beyondSigned ▸ covers.magnitude_le centre least
  have big : 2 ^ 63 ≤ y.magnitude := magnitude_beyondSigned ▸ centre.magnitude_le covers' largeCast
  rw [answer, near_integer_iff positive small big, magnitude_eq_beyondSigned covers, magnitude_eq_beyondSigned covers']
  have value' : (2 ^ 63 - 512 : ℚ) ≤ -v ↔ v ≤ -(2 ^ 63 - 512) := by
    rw [le_neg]
    exact_mod_cast Iff.rfl
  have divisor' : (d : ℚ) ≤ 2 ^ 63 + 1024 ↔ d ≤ 2 ^ 63 + 1024 := by exact_mod_cast Iff.rfl
  rw [value', divisor']
  constructor
  · rintro ⟨⟨low, -⟩, -, high⟩
    exact ⟨low, high⟩
  · rintro ⟨low, high⟩
    exact ⟨⟨low, by linarith⟩, by linarith, high⟩

/-- What `multipleOf` says of two integers. Those of one word type, signed or unsigned, divide exactly.
The others are rounded to doubles first: of a negative value only what rounds to `-2 ^ 63` is a
multiple, and only of what rounds to `2 ^ 63`; for a negative divisor, an integer counts as the quotient
of the doubles if it is at most half a step of 53 bits away. -/
theorem isMultipleOf_integers (value : exactRange v = true) (divisor : exactRange d = true) :
    (sameWord v d = true → ((int v).isMultipleOf (int d) = true ↔ d ≠ 0 ∧ d ∣ v)) ∧
    (v < 0 → 2 ^ 63 ≤ d →
      ((int v).isMultipleOf (int d) = true ↔ v ≤ -(2 ^ 63 - 512) ∧ d ≤ 2 ^ 63 + 1024)) ∧
    (2 ^ 63 ≤ v → d < 0 → ∃ x y : Binary64, x.Covers |(v : ℚ)| ∧ y.Covers |(d : ℚ)| ∧
      ((int v).isMultipleOf (int d) = true ↔
        ∃ n : Nat, |x.magnitude / y.magnitude - n| ≤ 2 ^ (Int.log 2 (x.magnitude / y.magnitude) - 53))) := by
  refine ⟨isMultipleOf_sameWord, isMultipleOf_beyondSigned value divisor, fun large negative => ?_⟩
  have other : sameWord v d = false := by
    simp only [sameWord, Bool.or_eq_false_iff, Bool.and_eq_false_iff, decide_eq_false_iff_not]
    omega
  obtain ⟨x, y, covers, covers', -, -, answer⟩ := isMultipleOf_rounded value divisor other
  exact ⟨x, y, covers, covers', answer⟩

/-- One more than the least signed word, beside its magnitude: both round to `2 ^ 63`. -/
theorem isMultipleOf_leastSigned_succ :
    exactRange (-0x7FFFFFFFFFFFFFFF) = true ∧ exactRange 0x8000000000000000 = true ∧
      (int (-0x7FFFFFFFFFFFFFFF)).isMultipleOf (int 0x8000000000000000) = true := by
  have value : exactRange (-0x7FFFFFFFFFFFFFFF) = true := by decide
  have divisor : exactRange 0x8000000000000000 = true := by decide
  exact ⟨value, divisor, ((isMultipleOf_integers value divisor).2.1 (by decide) (by decide)).mpr (by decide)⟩

/-- Rounded integers divide differently: what is no multiple counts as one, and the other way round. -/
theorem rounded_integers_divide_differently :
    ((int (-0x7FFFFFFFFFFFFFFF)).isMultipleOf (int 0x8000000000000000) = true ∧
      ¬ (0x8000000000000000 : Int) ∣ -0x7FFFFFFFFFFFFFFF) ∧
    ((int 9223372036855302657).isMultipleOf (int (-2049)) = false ∧ (-2049 : Int) ∣ 9223372036855302657) := by
  decide +kernel

end Number
end JsonSchema
