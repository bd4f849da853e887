/-!
# Finite binary64 numbers

A finite double is a sign, a mantissa and a power of two, kept in the one canonical form the
interchange format gives it. Every operation is exact integer arithmetic followed by one
rounding to the nearest representable number, ties to the even mantissa, so nothing here rests
on the machine's floating point unit. An operation whose result leaves the finite range answers
`none`.
-/

namespace JsonSchema

/-- The least mantissa of 53 bits. -/
def Binary64.normal : Nat := 0x10000000000000

/-- The canonical forms: a full 53-bit mantissa, or the least exponent. -/
def Binary64.Canonical (mantissa : Nat) (exponent : Int) : Prop :=
  mantissa < 2 * Binary64.normal ∧ -1074 ≤ exponent ∧ exponent ≤ 971 ∧ (mantissa < Binary64.normal → exponent = -1074)

instance (mantissa : Nat) (exponent : Int) : Decidable (Binary64.Canonical mantissa exponent) :=
  inferInstanceAs (Decidable (_ ∧ _ ∧ _ ∧ (_ → _)))

/-- A finite double: `mantissa · 2 ^ exponent`, negated if `negative`. -/
structure Binary64 where
  negative : Bool
  mantissa : Nat
  exponent : Int
  canonical : Binary64.Canonical mantissa exponent
deriving DecidableEq

namespace Binary64

/-- Zero, with either sign. -/
def zero (negative : Bool) : Binary64 := ⟨negative, 0, -1074, by decide⟩

instance : Inhabited Binary64 := ⟨zero false⟩

def isZero (x : Binary64) : Bool := x.mantissa == 0

/-- `num / den` to the nearest integer, ties to the even one. -/
def roundHalfEven (num den : Nat) : Nat :=
  let quotient := num / den
  let twice := 2 * (num % den)
  if twice < den then quotient
  else if den < twice then quotient + 1
  else quotient + quotient % 2

/-- `n · 2 ^ e` as a fraction of naturals. -/
def scale (n : Nat) (e : Int) : Nat × Nat :=
  if 0 ≤ e then (n * Nat.pow 2 e.toNat, 1) else (n, Nat.pow 2 (-e).toNat)

/-- The greatest `e` with `2 ^ e ≤ num / den`, for positive `num` and `den`. -/
def floorLog2 (num den : Nat) : Int :=
  let guess : Int := (Nat.log2 num : Int) - (Nat.log2 den : Int)
  let (up, down) := scale den guess
  if up ≤ num * down then guess else guess - 1

/-- The double nearest to `num / den`; `none` beyond the largest finite double. -/
def ofRatio (negative : Bool) (num den : Nat) : Option Binary64 :=
  if num = 0 then some (zero negative)
  else
    let exponent := max (-1074) (floorLog2 num den - 52)
    let (up, down) := scale den exponent
    let rounded := roundHalfEven (num * down) up
    let (mantissa, exponent) := if rounded = 2 * normal then (normal, exponent + 1) else (rounded, exponent)
    if h : Canonical mantissa exponent then some ⟨negative, mantissa, exponent, h⟩ else none

/-- The double nearest to `digits · 10 ^ exponent`. Exponents far outside the range are settled
by their size alone, so no huge power is formed for them. -/
def ofDecimal (negative : Bool) (digits : Nat) (exponent : Int) : Option Binary64 :=
  if digits = 0 then some (zero negative)
  else
    let magnitude : Int := (Nat.log2 digits : Int) * 30103 / 100000 + exponent
    if 400 < magnitude then none
    else if magnitude < -400 then some (zero negative)
    else if 0 ≤ exponent then ofRatio negative (digits * Nat.pow 10 exponent.toNat) 1
    else ofRatio negative digits (Nat.pow 10 (-exponent).toNat)

/-- The double nearest to an integer. -/
def ofInt? (i : Int) : Option Binary64 := ofRatio (i < 0) i.natAbs 1

/-- The magnitude as a fraction of naturals. -/
def ratio (x : Binary64) : Nat × Nat := scale x.mantissa x.exponent

/-- The number on the grid of step `2 ^ grid`; exact for any `grid` up to the exponent. -/
def onGrid (x : Binary64) (grid : Int) : Int :=
  let magnitude : Int := (x.mantissa * Nat.pow 2 (x.exponent - grid).toNat : Nat)
  if x.negative then -magnitude else magnitude

/-- Order by value; the two zeros are equal. -/
def compare (x y : Binary64) : Ordering :=
  let grid := min x.exponent y.exponent
  Ord.compare (x.onGrid grid) (y.onGrid grid)

/-- Whether the number has no fractional part. -/
def isIntegral (x : Binary64) : Bool :=
  let (num, den) := x.ratio
  num % den == 0

/-- The integer nearest to zero of those at most one away: the fraction is cut off. -/
def truncate (x : Binary64) : Int :=
  let (num, den) := x.ratio
  let magnitude : Int := num / den
  if x.negative then -magnitude else magnitude

/-- The nearest integer, ties away from zero. -/
def round (x : Binary64) : Int :=
  let (num, den) := x.ratio
  let magnitude : Int := (2 * num + den) / (2 * den)
  if x.negative then -magnitude else magnitude

def mul (x y : Binary64) : Option Binary64 :=
  let (xn, xd) := x.ratio
  let (yn, yd) := y.ratio
  ofRatio (x.negative != y.negative) (xn * yn) (xd * yd)

/-- The quotient; `none` also for a zero divisor. -/
def div (x y : Binary64) : Option Binary64 :=
  if y.isZero then none
  else
    let (xn, xd) := x.ratio
    let (yn, yd) := y.ratio
    ofRatio (x.negative != y.negative) (xn * yd) (xd * yn)

/-- One. -/
def one : Binary64 := ⟨false, normal, -52, by decide⟩

/-- `base` to a natural power by repeated squaring, each product rounded. -/
def pow (base : Binary64) (n : Nat) : Option Binary64 :=
  go n base one n
where
  /-- Walks the bits of `n` from the least; the steps are bounded by `n` itself. -/
  go : Nat → Binary64 → Binary64 → Nat → Option Binary64
    | 0, _, result, _ => some result
    | steps + 1, square, result, n => do
      let result ← if n % 2 = 1 then result.mul square else some result
      if n / 2 = 0 then some result else go steps (← square.mul square) result (n / 2)

end Binary64
end JsonSchema
