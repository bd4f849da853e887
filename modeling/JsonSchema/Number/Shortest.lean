import JsonSchema.Number.Binary64

/-!
# Shortest decimals

The shortest decimal of a positive double is the one with the fewest digits among those that
read back as the double, and among these the nearest. A decimal reads back exactly when it lies
in the interval of reals that round to the double; the ends belong to the interval when the
mantissa is even. If the grid of step `10 ^ k` meets the interval, one of the two grid points
around the double lies in it, so two candidates for each digit count are enough.
-/

namespace JsonSchema

/-- A positive decimal: the digits of `digits`, then `exponent` places. -/
structure Decimal where
  digits : Nat
  exponent : Int
deriving DecidableEq, Repr

namespace Decimal

/-- The same number without trailing zeros. -/
def trim (d : Decimal) : Decimal :=
  go d.digits d
where
  go : Nat → Decimal → Decimal
    | 0, d => d
    | fuel + 1, d => if d.digits % 10 = 0 ∧ d.digits ≠ 0 then go fuel ⟨d.digits / 10, d.exponent + 1⟩ else d

/-- The written digits. -/
def text (d : Decimal) : List Char := Nat.toDigits 10 d.digits

/-- The exponent of the leading digit in scientific notation. -/
def leading (d : Decimal) : Int := d.exponent + d.text.length - 1

/-- The number of places after the decimal point. -/
def places (d : Decimal) : Nat := (-d.trim.exponent).toNat

end Decimal

namespace Binary64

/-- The greatest `e` with `10 ^ e ≤ num / den`, for positive `num` and `den`. -/
def floorLog10 (num den : Nat) : Int :=
  if den ≤ num then (Nat.toDigits 10 (num / den)).length - 1
  else
    let length := (Nat.toDigits 10 (den / num)).length
    let down := if den ≤ num * Nat.pow 10 (length - 1) then length - 1 else length
    0 - (down : Int)

/-- `(num / den) / 10 ^ k` as a fraction of naturals. -/
def inTens (num den : Nat) (k : Int) : Nat × Nat :=
  if 0 ≤ k then (num, den * Nat.pow 10 k.toNat) else (num * Nat.pow 10 (-k).toNat, den)

/-- The reals that round to a positive double, in quarters of its last place. -/
structure Interval where
  below : Nat
  above : Nat
  closed : Bool

/-- The lower half-gap shrinks to a quarter where the exponent drops below a power of two. -/
def interval (x : Binary64) : Interval :=
  let gap := if x.mantissa = normal ∧ -1074 < x.exponent then 1 else 2
  ⟨4 * x.mantissa - gap, 4 * x.mantissa + 2, x.mantissa % 2 == 0⟩

/-- Whether `c · 10 ^ k` reads back as `x`. -/
def readsBack (x : Binary64) (c : Nat) (k : Int) : Bool :=
  let i := x.interval
  let (point, unit) := inTens c 1 (-k)
  let (step, den) := scale 1 (x.exponent - 2)
  let point := point * den
  let low := i.below * step * unit
  let high := i.above * step * unit
  if i.closed then low ≤ point && point ≤ high else low < point && point < high

/-- The better of the two candidates with `precision` digits, if one reads back. -/
def candidate? (x : Binary64) (precision : Nat) : Option Decimal :=
  let (num, den) := x.ratio
  let k := floorLog10 num den - precision + 1
  let (up, down) := inTens num den k
  let c := up / down
  let remainder := up % down
  match x.readsBack c k && c != 0, x.readsBack (c + 1) k with
  | true, true => if 2 * remainder ≤ down then some ⟨c, k⟩ else some ⟨c + 1, k⟩
  | true, false => some ⟨c, k⟩
  | false, true => some ⟨c + 1, k⟩
  | false, false => none

/-- The shortest decimal that reads back as the magnitude of `x`; seventeen digits always do. -/
def shortest (x : Binary64) : Decimal :=
  if x.isZero then ⟨0, 0⟩
  else ((List.range 17).findSome? fun n => x.candidate? (n + 1)).getD ⟨0, 0⟩ |>.trim

end Binary64
end JsonSchema
