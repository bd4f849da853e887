import JsonSchema.Number.Numeral

/-!
# JSON numbers

A number is an integer kept exactly or a finite double. Integers are compared exactly with one
another; a pair with a double in it is compared after rounding the integer.
-/

namespace JsonSchema

inductive Number where
  | int (value : Int)
  | real (value : Binary64)
deriving DecidableEq

namespace Number

instance : Inhabited Number := ⟨.int 0⟩

/-- The integers kept exactly: those of a signed or an unsigned 64-bit word. -/
def exactRange (i : Int) : Bool := -0x8000000000000000 ≤ i && i < 0x10000000000000000

/-- The number as a double. -/
def toBinary64 : Number → Binary64
  | .int i => (Binary64.ofInt? i).getD default
  | .real x => x

/-- Order by value. -/
def compare : Number → Number → Ordering
  | .int a, .int b => Ord.compare a b
  | a, b => a.toBinary64.compare b.toBinary64

/-- Whether the number has no fractional part. -/
def isInteger : Number → Bool
  | .int _ => true
  | .real x => x.isIntegral

/-- The number as a limit on lengths and counts: an integral value that is not negative, cut at
the largest unsigned 64-bit word. -/
def limit? : Number → Option Nat
  | .int i => if 0 ≤ i then some i.toNat else none
  | .real x =>
    if x.isIntegral ∧ (x.negative → x.isZero) then some (min x.truncate.toNat 0xFFFFFFFFFFFFFFFF) else none

/-- The number of decimal places in the shortest text. -/
def places : Number → Nat
  | .int _ => 0
  | .real x => x.shortest.places

/-- Integers below this magnitude are exact as doubles. -/
def exactDouble : Int := 0x20000000000000

/-- Whether the double quotient is a finite integer. -/
def hasIntegralQuotient (v d : Binary64) : Bool := ((v.div d).map Binary64.isIntegral).getD false

/-- Whether `v` is a multiple of `d` after shifting both by the decimal places of `d`. A value
with more places than `d` is none; beyond the exact doubles the quotient decides. -/
def isDecimalMultipleOf (value divisor : Number) : Bool :=
  let v := value.toBinary64
  let d := divisor.toBinary64
  if d.isZero || divisor.places < value.places then false
  else
    let scaled := do
      let shift ← ((Binary64.ofInt? 10).getD default).pow divisor.places
      return ((← v.mul shift).round, (← d.mul shift).round)
    match scaled with
    | some (v', d') =>
      if v'.natAbs < exactDouble ∧ d'.natAbs < exactDouble ∧ d' ≠ 0 then v' % d' == 0
      else hasIntegralQuotient v d
    | none => hasIntegralQuotient v d

/-- Whether two integers lie in one 64-bit word type, signed or unsigned. -/
def sameWord (a b : Int) : Bool :=
  (a < 0x8000000000000000 && b < 0x8000000000000000) || (0 ≤ a && 0 ≤ b)

/-- Whether `value` is an integral multiple of `divisor`. Integers of one word type divide
exactly; every other pair goes through decimals. -/
def isMultipleOf (value divisor : Number) : Bool :=
  match value, divisor with
  | .int v, .int d =>
    if sameWord v d then d ≠ 0 && v % d == 0 else isDecimalMultipleOf value divisor
  | _, _ => isDecimalMultipleOf value divisor

/-- The text of a number in a style for doubles; integers are their digits. -/
def write (n : NumeralStyle) : Number → String
  | .int i => toString i
  | .real x => n.write x

end Number
end JsonSchema
