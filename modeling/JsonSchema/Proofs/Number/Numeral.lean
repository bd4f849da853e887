import JsonSchema.Proofs.Number.Shortest
import Mathlib.Data.List.TakeWhile

/-!
# Numerals and their numbers

A numeral is read as the number it stands for. Whatever the style, a double is written as a numeral
of its shortest decimal, so the numeral tells the double. In the canonical style the two zeros have
one numeral, and integers up to `2 ^ 53` have that of their double: numbers with one numeral are
those that compare as equal.
-/

namespace JsonSchema

/-! ## Reading numerals -/

namespace Numeral

/-- The characters of numerals. -/
def IsPart (c : Char) : Prop := c.isDigit = true ∨ c ∈ ['.', 'e', '-', '+']

/-- How many characters follow the decimal point. -/
def places (cs : List Char) : Nat := (cs.dropWhile (· != '.')).length - 1

/-- The number of a numeral without sign and exponent. -/
def fixedValue (cs : List Char) : ℚ := Digits.value (cs.filter (· != '.')) / 10 ^ places cs

/-- The number of an exponent. -/
def exponentValue : List Char → Int
  | '-' :: ds => -(Digits.value ds : Int)
  | '+' :: ds => Digits.value ds
  | ds => Digits.value ds

/-- The number of a numeral without sign. -/
def value (cs : List Char) : ℚ :=
  match cs.dropWhile (· != 'e') with
  | _ :: exponent => fixedValue (cs.takeWhile (· != 'e')) * 10 ^ exponentValue exponent
  | [] => fixedValue cs

variable {ds es : List Char}

private theorem ne_of_not_mem {c : Char} (free : c ∉ ds) : ∀ a ∈ ds, (a != c) = true := by
  intro a inside
  rw [bne_iff_ne]
  exact fun same => free (same ▸ inside)

theorem fixedValue_whole (whole : '.' ∉ ds) : fixedValue ds = Digits.value ds := by
  have free := ne_of_not_mem whole
  have none : places ds = 0 := by rw [places, List.dropWhile_eq_nil_iff.mpr free, List.length_nil]
  rw [fixedValue, List.filter_eq_self.mpr free, none, pow_zero, div_one]

theorem fixedValue_point (whole : '.' ∉ ds) (fraction : '.' ∉ es) :
    fixedValue (ds ++ '.' :: es) = Digits.value (ds ++ es) / 10 ^ es.length := by
  have free := ne_of_not_mem whole
  have after : places (ds ++ '.' :: es) = es.length := by
    rw [places, List.dropWhile_append_of_pos free]
    simp
  have point : ('.' :: es).filter (· != '.') = es := by
    simpa using List.filter_eq_self.mpr (ne_of_not_mem fraction)
  rw [fixedValue, List.filter_append, List.filter_eq_self.mpr free, point, after]

theorem value_fixed (plain : 'e' ∉ ds) : value ds = fixedValue ds := by
  rw [value, List.dropWhile_eq_nil_iff.mpr (ne_of_not_mem plain)]

theorem value_exponent (plain : 'e' ∉ ds) : value (ds ++ 'e' :: es) = fixedValue ds * 10 ^ exponentValue es := by
  have free := ne_of_not_mem plain
  have rest : (ds ++ 'e' :: es).dropWhile (· != 'e') = 'e' :: es := by
    rw [List.dropWhile_append_of_pos free]
    simp
  have mantissa : (ds ++ 'e' :: es).takeWhile (· != 'e') = ds := by
    rw [List.takeWhile_append_of_pos free]
    simp
  simp only [value, rest, mantissa]

theorem not_mem_toDigits {c : Char} (other : c.isDigit = false) (n : Nat) : c ∉ Nat.toDigits 10 n := by
  intro inside
  rw [Digits.isDigit_of_mem inside] at other
  cases other

/-- The sign of an exponent and its digits. -/
theorem exponentValue_written (n : NumeralStyle) (e : Int) :
    exponentValue ((if e < 0 then ['-'] else if n.plusSign then ['+'] else []) ++ Nat.toDigits 10 e.natAbs) = e := by
  have digits := Digits.value_toDigits e.natAbs
  by_cases negative : e < 0
  · rw [if_pos negative]
    simp only [List.singleton_append, exponentValue, digits]
    omega
  · rw [if_neg negative]
    cases n.plusSign with
    | true =>
      simp only [if_true, List.singleton_append, exponentValue, digits]
      omega
    | false =>
      have noMinus := not_mem_toDigits (c := '-') (by decide) e.natAbs
      have noPlus := not_mem_toDigits (c := '+') (by decide) e.natAbs
      simp only [Bool.false_eq_true, if_false, List.nil_append]
      unfold exponentValue
      split
      · rename_i starts
        simp [starts] at noMinus
      · rename_i starts
        simp [starts] at noPlus
      · rw [digits]
        omega

end Numeral

namespace NumeralStyle

variable (n : NumeralStyle) (d : Decimal)

private theorem point_not_mem_text : '.' ∉ d.text := Numeral.not_mem_toDigits (by decide) _

private theorem exponent_not_mem_text : 'e' ∉ d.text := Numeral.not_mem_toDigits (by decide) _

private theorem text_ne_nil : d.text ≠ [] := Nat.toDigits_ne_nil

private theorem isDigit_of_mem_text {c : Char} (inside : c ∈ d.text) : c.isDigit = true := Digits.isDigit_of_mem inside

variable {n d} in
/-- The characters of a numeral without exponent. -/
theorem mem_positional {c : Char} (inside : c ∈ n.positional d) : c.isDigit = true ∨ c = '.' := by
  have digits := @isDigit_of_mem_text d c
  have zero : '0'.isDigit = true := by decide
  unfold positional at inside
  simp only at inside
  split at inside
  · cases fraction : n.fraction with
    | false =>
      simp only [fraction, Bool.false_eq_true, if_false, List.append_nil, List.mem_append, List.mem_replicate] at inside
      rcases inside with inside | ⟨-, rfl⟩
      · exact .inl (digits inside)
      · exact .inl zero
    | true =>
      simp only [fraction, if_true, List.mem_append, List.mem_replicate, List.mem_cons, List.not_mem_nil, or_false] at inside
      rcases inside with (inside | ⟨-, rfl⟩) | rfl | rfl
      · exact .inl (digits inside)
      · exact .inl zero
      · exact .inr rfl
      · exact .inl zero
  · split at inside
    · rcases List.mem_append.mp inside with before | after
      · exact .inl (digits (List.mem_of_mem_take before))
      · rcases List.mem_cons.mp after with rfl | after
        · exact .inr rfl
        · exact .inl (digits (List.mem_of_mem_drop after))
    · simp only [List.mem_append, List.mem_replicate, List.mem_cons, List.not_mem_nil, or_false] at inside
      rcases inside with ((rfl | rfl) | ⟨-, rfl⟩) | inside
      · exact .inl zero
      · exact .inr rfl
      · exact .inl zero
      · exact .inl (digits inside)

/-- A numeral without exponent starts with a digit. -/
theorem positional_eq : ∃ digit rest, n.positional d = digit :: rest ∧ digit.isDigit = true ∧
    ∀ c ∈ rest, Numeral.IsPart c := by
  obtain ⟨digit, others, text⟩ := List.exists_cons_of_ne_nil (text_ne_nil d)
  have isDigit : digit.isDigit = true := isDigit_of_mem_text d (text ▸ List.mem_cons_self)
  obtain ⟨first, rest, starts, whole⟩ : ∃ first rest, n.positional d = first :: rest ∧ first.isDigit = true := by
    unfold positional
    simp only [text]
    split
    · exact ⟨digit, _, rfl, isDigit⟩
    · split
      · rename_i short
        obtain ⟨kept, count⟩ : ∃ kept, (digit :: others).length - (-d.exponent).toNat = kept + 1 :=
          ⟨(digit :: others).length - (-d.exponent).toNat - 1, by omega⟩
        rw [count]
        exact ⟨digit, _, rfl, isDigit⟩
      · exact ⟨'0', _, rfl, by decide⟩
  refine ⟨first, rest, starts, whole, fun c inside => ?_⟩
  rcases mem_positional (starts ▸ List.mem_cons_of_mem _ inside : c ∈ n.positional d) with digit | rfl
  · exact .inl digit
  · exact .inr (by decide)

/-- A numeral with an exponent starts with a digit. -/
theorem scientific_eq : ∃ digit rest, n.scientific d = digit :: rest ∧ digit.isDigit = true ∧
    ∀ c ∈ rest, Numeral.IsPart c := by
  have digits := @isDigit_of_mem_text d
  have exponent : ∀ c ∈ 'e' :: ((if d.leading < 0 then ['-'] else if n.plusSign then ['+'] else []) ++
      Nat.toDigits 10 d.leading.natAbs), Numeral.IsPart c := by
    intro c inside
    rcases List.mem_cons.mp inside with rfl | inside
    · exact .inr (by decide)
    · rcases List.mem_append.mp inside with sign | power
      · refine .inr ?_
        split at sign
        · simp [List.mem_singleton.mp sign]
        · split at sign
          · simp [List.mem_singleton.mp sign]
          · cases sign
      · exact .inl (Digits.isDigit_of_mem power)
  unfold scientific
  simp only [List.append_assoc, List.cons_append]
  match text : d.text with
  | [] => exact absurd text (text_ne_nil d)
  | [digit] => exact ⟨digit, _, rfl, digits (text ▸ List.mem_cons_self), exponent⟩
  | digit :: next :: rest =>
    refine ⟨digit, _, rfl, digits (text ▸ List.mem_cons_self), fun c inside => ?_⟩
    rcases List.mem_append.mp inside with mantissa | inside
    · rcases List.mem_cons.mp mantissa with rfl | fraction
      · exact .inr (by decide)
      · exact .inl (digits (text ▸ List.mem_cons_of_mem _ fraction))
    · exact exponent c inside

private theorem exponent_not_mem_positional : 'e' ∉ n.positional d := by
  intro inside
  rcases mem_positional inside with digit | same
  · exact absurd digit (by decide)
  · exact absurd same (by decide)

/-- A numeral without exponent is its decimal. -/
theorem value_positional : Numeral.value (n.positional d) = d.value := by
  have digits : Digits.value d.text = d.digits := Digits.value_toDigits _
  have noPoint := point_not_mem_text d
  rw [Numeral.value_fixed (exponent_not_mem_positional n d)]
  unfold positional Decimal.value
  simp only
  split
  · rename_i whole
    obtain ⟨j, power⟩ := Int.eq_ofNat_of_zero_le whole
    have zeros : '.' ∉ d.text ++ List.replicate j '0' := by simp [noPoint]
    rw [power, Int.toNat_natCast, zpow_natCast]
    cases n.fraction with
    | false =>
      simp only [Bool.false_eq_true, if_false, List.append_nil]
      rw [Numeral.fixedValue_whole zeros, Digits.value_append, digits, Digits.value_replicate_zero]
      simp
    | true =>
      have none : Digits.value ['0'] = 0 := rfl
      simp only [if_true]
      rw [Numeral.fixedValue_point zeros (by decide), Digits.value_append, Digits.value_append, digits,
        Digits.value_replicate_zero, none]
      simp
  · rename_i fraction
    obtain ⟨j, power⟩ : ∃ j : Nat, d.exponent = -(j : Int) := ⟨(-d.exponent).toNat, by omega⟩
    rw [power, neg_neg, Int.toNat_natCast, zpow_neg, zpow_natCast, ← div_eq_mul_inv]
    split
    · rename_i short
      have before : '.' ∉ d.text.take (d.text.length - j) := fun inside => noPoint (List.mem_of_mem_take inside)
      have after : '.' ∉ d.text.drop (d.text.length - j) := fun inside => noPoint (List.mem_of_mem_drop inside)
      rw [Numeral.fixedValue_point before after, List.take_append_drop, digits, List.length_drop,
        Nat.sub_sub_self short.le]
    · rename_i long
      have after : '.' ∉ List.replicate (j - d.text.length) '0' ++ d.text := by simp [noPoint]
      have length : (List.replicate (j - d.text.length) '0' ++ d.text).length = j := by
        rw [List.length_append, List.length_replicate]
        omega
      have none : Digits.value ['0'] = 0 := rfl
      have point := Numeral.fixedValue_point (show '.' ∉ ['0'] by decide) after
      rw [Digits.value_append, Digits.value_append, digits, Digits.value_replicate_zero, none, length] at point
      simpa using point

/-- A numeral with an exponent is its decimal. -/
theorem value_scientific : Numeral.value (n.scientific d) = d.value := by
  have digits : Digits.value d.text = d.digits := Digits.value_toDigits _
  have noPoint := point_not_mem_text d
  have noExponent := exponent_not_mem_text d
  have leading : d.leading = d.exponent + d.text.length - 1 := rfl
  unfold scientific Decimal.value
  simp only [List.append_assoc, List.cons_append]
  match text : d.text with
  | [] => exact absurd text (text_ne_nil d)
  | [digit] =>
    rw [text] at digits noPoint noExponent leading
    rw [Numeral.value_exponent noExponent, Numeral.exponentValue_written, Numeral.fixedValue_whole noPoint, digits,
      leading]
    simp
  | digit :: next :: rest =>
    rw [text] at digits noPoint noExponent leading
    have before : '.' ∉ [digit] := fun inside => noPoint (List.mem_append_left (next :: rest) inside)
    have after : '.' ∉ next :: rest := fun inside => noPoint (List.mem_cons_of_mem _ inside)
    have free : 'e' ∉ [digit] ++ '.' :: next :: rest := by simpa using noExponent
    have mantissa := Numeral.fixedValue_point before after
    rw [List.singleton_append, List.singleton_append, digits] at mantissa
    have power : d.leading = d.exponent + (next :: rest).length := by simp [leading]; omega
    rw [List.singleton_append] at free
    rw [Numeral.value_exponent free, Numeral.exponentValue_written, mantissa, power, zpow_add₀ (by norm_num),
      zpow_natCast]
    field_simp

/-! ## Numerals of doubles -/

variable {x y : Binary64}

/-- The numeral of a double without its sign. -/
def unsigned (x : Binary64) : List Char :=
  if x.isZero then n.positional ⟨0, 0⟩
  else if n.least ≤ x.shortest.leading ∧ x.shortest.leading ≤ n.greatest then n.positional x.shortest
  else n.scientific x.shortest

theorem write_eq (x : Binary64) : n.write x =
    String.ofList (if x.negative && (n.signedZero || !x.isZero) then '-' :: n.unsigned x else n.unsigned x) := rfl

theorem shortest_of_isZero (zero : x.isZero = true) : x.shortest = ⟨0, 0⟩ := by
  simp [Binary64.shortest, zero]

theorem value_unsigned (x : Binary64) : Numeral.value (n.unsigned x) = x.shortest.value := by
  unfold unsigned
  split
  · rename_i zero
    rw [value_positional, shortest_of_isZero zero]
  · split
    · exact value_positional _ _
    · exact value_scientific _ _

/-- A numeral without sign starts with a digit. -/
theorem unsigned_eq (x : Binary64) : ∃ digit rest, n.unsigned x = digit :: rest ∧ digit.isDigit = true ∧
    ∀ c ∈ rest, Numeral.IsPart c := by
  unfold unsigned
  split
  · exact positional_eq _ _
  · split
    · exact positional_eq _ _
    · exact scientific_eq _ _

theorem minus_not_head_unsigned (x : Binary64) (rest : List Char) : n.unsigned x ≠ '-' :: rest := by
  obtain ⟨digit, others, starts, whole, -⟩ := n.unsigned_eq x
  rw [starts]
  rintro ⟨⟩
  simp at whole

/-! ## The canonical style -/

theorem canonical_write (x : Binary64) : canonical.write x =
    String.ofList (if x.negative && !x.isZero then '-' :: canonical.unsigned x else canonical.unsigned x) := rfl

/-- Zero counts as positive. -/
theorem toRat_eq (x : Binary64) : x.toRat = if x.negative && !x.isZero then -x.magnitude else x.magnitude := by
  cases zero : x.isZero with
  | false => simp [Binary64.toRat]
  | true => simp [Binary64.toRat, Binary64.magnitude_eq_zero.mpr zero]

theorem unsigned_congr (same : x.magnitude = y.magnitude) : n.unsigned x = n.unsigned y := by
  obtain ⟨sign, mantissa, exponent, canonical⟩ := x
  obtain ⟨sign', mantissa', exponent', canonical'⟩ := y
  obtain ⟨rfl, rfl⟩ := Binary64.magnitude_inj.mp same
  rfl

/-- Doubles have one canonical numeral if they are one number. -/
theorem canonical_write_eq_iff : canonical.write x = canonical.write y ↔ x.toRat = y.toRat := by
  have whole : canonical.unsigned x = canonical.unsigned y ↔ x.magnitude = y.magnitude := by
    refine ⟨fun same => Binary64.shortest_value_inj ?_, unsigned_congr _⟩
    rw [← value_unsigned, ← value_unsigned, same]
  have apart {x y : Binary64} (less : (x.negative && !x.isZero) = true) : -x.magnitude ≠ y.magnitude := by
    rw [Bool.and_eq_true, Bool.not_eq_true', ← Bool.not_eq_true, ← Binary64.magnitude_eq_zero] at less
    have := lt_of_le_of_ne x.magnitude_nonneg (Ne.symm less.2)
    linarith [y.magnitude_nonneg]
  rw [canonical_write, canonical_write, String.ofList_inj, toRat_eq x, toRat_eq y]
  cases hx : x.negative && !x.isZero <;> cases hy : y.negative && !y.isZero
  · simpa using whole
  · have := apart (y := x) hy
    simpa [minus_not_head_unsigned] using Ne.symm this
  · have := apart (y := y) hx
    simpa [(minus_not_head_unsigned canonical y _).symm] using this
  · simpa using whole

/-! ## Integers -/

/-- The magnitude of an integer is written as its digits. -/
theorem unsigned_nat {m : Nat} (whole : x.magnitude = m) (small : m ≤ 2 * Binary64.normal) :
    canonical.unsigned x = Nat.toDigits 10 m := by
  unfold unsigned
  rcases Nat.eq_zero_or_pos m with rfl | positive
  · rw [if_pos (Binary64.magnitude_eq_zero.mp (by simpa using whole))]
    rfl
  · have nonzero : ¬ x.isZero = true := by
      rw [← Binary64.magnitude_eq_zero, whole, Nat.cast_eq_zero]
      exact positive.ne'
    obtain ⟨value, nonneg⟩ := Binary64.shortest_nat whole positive small
    obtain ⟨j, power⟩ := Int.eq_ofNat_of_zero_le nonneg
    have value : x.shortest.digits * 10 ^ j = m := by
      rw [Decimal.value, power, zpow_natCast] at value
      exact_mod_cast value
    have some : 0 < x.shortest.digits := Nat.pos_of_ne_zero fun none => by simp [none] at value; omega
    have digits : Nat.toDigits 10 m = x.shortest.text ++ List.replicate j '0' :=
      value ▸ Digits.toDigits_mul_pow some j
    have length : (Nat.toDigits 10 m).length ≤ 16 := by
      rw [Nat.length_toDigits_le_iff (by decide) (by decide)]
      exact lt_of_le_of_lt small (by decide)
    have leading : x.shortest.leading = (Nat.toDigits 10 m).length - 1 := by
      rw [Decimal.leading, power, digits, List.length_append, List.length_replicate]
      omega
    have positional : canonical.least ≤ x.shortest.leading ∧ x.shortest.leading ≤ canonical.greatest := by
      have : 0 < (Nat.toDigits 10 m).length := Nat.length_toDigits_pos
      rw [leading]
      exact ⟨by simp only [canonical]; omega, by simp only [canonical]; omega⟩
    rw [if_neg nonzero, if_pos positional, NumeralStyle.positional, if_pos nonneg, power, digits]
    simp [canonical]

/-- An integer is its digits after a sign or none. -/
theorem toString_int (i : Int) : toString i =
    String.ofList (if decide (i < 0) then '-' :: Nat.toDigits 10 i.natAbs else Nat.toDigits 10 i.natAbs) := by
  rw [Int.toString_eq_repr, Int.repr_eq_if]
  by_cases negative : i < 0
  · rw [if_neg (by omega), if_pos (decide_eq_true negative), show (-i).toNat = i.natAbs by omega,
      Nat.repr_eq_ofList_toDigits, ← String.toList_inj]
    simp
  · rw [if_pos (by omega), if_neg (by simpa using negative), show i.toNat = i.natAbs by omega,
      Nat.repr_eq_ofList_toDigits]

/-- An integer up to `2 ^ 53` is written like its double. -/
theorem canonical_write_int {i : Int} (whole : x.toRat = i) (small : i.natAbs ≤ 2 * Binary64.normal) :
    canonical.write x = toString i := by
  have magnitude : x.magnitude = i.natAbs := by rw [← Binary64.abs_toRat, whole, Nat.cast_natAbs, Int.cast_abs]
  have nonneg := x.magnitude_nonneg
  have sign : (x.negative && !x.isZero) = decide (i < 0) := by
    rw [Bool.eq_iff_iff, decide_eq_true_iff, ← Int.cast_lt_zero (R := ℚ), ← whole, toRat_eq]
    split
    · rename_i less
      have some := (Bool.and_eq_true _ _ ▸ less).2
      rw [Bool.not_eq_true', ← Bool.not_eq_true, ← Binary64.magnitude_eq_zero] at some
      simpa [less] using lt_of_le_of_ne nonneg (Ne.symm some)
    · rename_i positive
      simp [positive, nonneg]
  rw [canonical_write, unsigned_nat magnitude small, sign, toString_int]

end NumeralStyle

/-! ## Numbers -/

namespace Number

/-- An integer that is a double, or a double. -/
def IsExact : Number → Prop
  | .int i => i.natAbs ≤ 2 * Binary64.normal
  | .real _ => True

variable {a b : Number}

theorem toRat_int {i : Int} (exact : (int i).IsExact) : (int i).toBinary64.toRat = i := by
  obtain ⟨x, known, whole⟩ := Binary64.ofInt?_exact exact
  rw [toBinary64, known]
  exact whole

/-- A number is written like its double. -/
theorem write_eq_double (exact : a.IsExact) : a.write .canonical = NumeralStyle.canonical.write a.toBinary64 := by
  cases a with
  | int i => exact (NumeralStyle.canonical_write_int (toRat_int exact) exact).symm
  | real x => rfl

/-- A number is compared like its double. -/
theorem compare_eq_iff (exact : a.IsExact) (exact' : b.IsExact) :
    a.compare b = .eq ↔ a.toBinary64.toRat = b.toBinary64.toRat := by
  cases a with
  | real x => exact Binary64.compare_eq_iff
  | int i =>
    cases b with
    | real y => exact Binary64.compare_eq_iff
    | int j =>
      rw [toRat_int exact, toRat_int exact', Int.cast_inj]
      exact Int.compare_eq_eq

/-- Numbers have one canonical numeral if they compare as equal. -/
theorem write_eq_iff (exact : a.IsExact) (exact' : b.IsExact) :
    a.write .canonical = b.write .canonical ↔ a.compare b = .eq := by
  rw [write_eq_double exact, write_eq_double exact', NumeralStyle.canonical_write_eq_iff, compare_eq_iff exact exact']

/-- A numeral starts with a digit or a minus sign. -/
theorem write_eq (a : Number) : ∃ first rest, (a.write .canonical).toList = first :: rest ∧
    (first.isDigit = true ∨ first = '-') ∧ ∀ c ∈ first :: rest, Numeral.IsPart c := by
  -- both kinds of number are digits and more, after a sign or none
  have signed {cs : List Char} (signed : Bool) (starts : ∃ digit rest, cs = digit :: rest ∧ digit.isDigit = true ∧
      ∀ c ∈ rest, Numeral.IsPart c) : ∃ first rest, (if signed then '-' :: cs else cs) = first :: rest ∧
        (first.isDigit = true ∨ first = '-') ∧ ∀ c ∈ first :: rest, Numeral.IsPart c := by
    obtain ⟨digit, rest, rfl, whole, parts⟩ := starts
    have all : ∀ c ∈ digit :: rest, Numeral.IsPart c := List.forall_mem_cons.mpr ⟨.inl whole, parts⟩
    cases signed with
    | true => exact ⟨'-', _, rfl, .inr rfl, List.forall_mem_cons.mpr ⟨.inr (by decide), all⟩⟩
    | false => exact ⟨digit, rest, rfl, .inl whole, all⟩
  cases a with
  | real x =>
    have := signed (x.negative && !x.isZero) (NumeralStyle.canonical.unsigned_eq x)
    rwa [write, NumeralStyle.canonical_write, String.toList_ofList]
  | int i =>
    obtain ⟨digit, rest, digits⟩ := List.exists_cons_of_ne_nil (Nat.toDigits_ne_nil (n := i.natAbs) (b := 10))
    have starts := signed (decide (i < 0)) ⟨digit, rest, digits, Digits.isDigit_of_mem (digits ▸ List.mem_cons_self),
      fun c inside => .inl (Digits.isDigit_of_mem (digits ▸ List.mem_cons_of_mem _ inside))⟩
    rwa [write, NumeralStyle.toString_int, String.toList_ofList]

end Number
end JsonSchema
