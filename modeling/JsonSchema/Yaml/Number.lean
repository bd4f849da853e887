import JsonSchema.Json.Reader

/-!
# Numbers in plain scalars

Integers are decimal, or have a prefix for base sixteen, eight or two. A decimal with a point or
an exponent is rounded to a double; there are texts for the infinities and for what is no number.
-/

namespace JsonSchema.Yaml

inductive Number where
  | int (value : Int)
  | real (value : Binary64)
  | infinite (negative : Bool)
  | nan
deriving DecidableEq

namespace Number

open Json.Reader (digits decimalValue hexValue? exponentPart)

/-- Equality of keys: by value, except that integers and doubles differ; what is no number equals
itself. -/
def same : Number → Number → Bool
  | .real x, .real y => x.compare y == .eq
  | a, b => a == b

/-- How a number is written in a key. -/
def text : Number → String
  | .int i => toString i
  | .real x => NumeralStyle.key.write x
  | .infinite negative => if negative then "-.inf" else ".inf"
  | .nan => ".nan"

/-! ## Integers -/

/-- The number written by digits of a base. -/
def inBase? (base : Nat) (ds : List Char) : Option Nat :=
  if ds.isEmpty then none
  else ds.foldlM (fun n c => (hexValue? c).bind fun d => if d < base then some (base * n + d) else none) 0

/-- Decimal digits with a superfluous zero in front. -/
def isPadded (ds : List Char) : Bool :=
  match ds with
  | '0' :: _ :: _ => ds.all Json.Reader.isDigit
  | _ => false

/-- A number without its sign. -/
def magnitude? : List Char → Option Nat
  | '0' :: 'x' :: ds => inBase? 16 ds
  | '0' :: 'o' :: ds => inBase? 8 ds
  | '0' :: 'b' :: ds => inBase? 2 ds
  | ds => if isPadded ds then none else inBase? 10 ds

/-- An integer of any size. -/
def integer? : List Char → Option Int
  | '-' :: ds => (magnitude? ds).map fun n => -(n : Int)
  | '+' :: ds => (magnitude? ds).map fun n => (n : Int)
  | ds => (magnitude? ds).map fun n => (n : Int)

/-- The integers of signed and unsigned words of some width. -/
def fitsWord (bits : Nat) (i : Int) : Bool := -(1 <<< (bits - 1) : Nat) ≤ i && i < (1 <<< bits : Nat)

/-! ## Doubles -/

/-- Digits with a point among them or beside them, or without one. -/
def mantissa? (cs : List Char) : Option (List Char × List Char × List Char) :=
  let (whole, rest) := digits cs
  let (fraction, rest) := match rest with
    | '.' :: rest => digits rest
    | rest => ([], rest)
  if whole.isEmpty && fraction.isEmpty then none else some (whole, fraction, rest)

/-- A decimal rounded to a double, unless it is out of range. -/
def decimal? (negative : Bool) (cs : List Char) : Option Binary64 := do
  let (whole, fraction, rest) ← mantissa? cs
  let (exponent, rest) ← exponentPart rest
  if !rest.isEmpty then none
  Binary64.ofDecimal negative (decimalValue (whole ++ fraction)) (exponent.getD 0 - (fraction.length : Int))

/-- The spellings of infinity. -/
def infinities : List String := [".inf", ".Inf", ".INF"]

/-- The spellings of what is no number. -/
def nans : List String := [".nan", ".NaN", ".NAN"]

/-- A double or one of the special texts. -/
def float? (cs : List Char) : Option Number :=
  let (negative, body) := match cs with
    | '-' :: body => (true, body)
    | '+' :: body => (false, body)
    | body => (false, body)
  if infinities.contains (String.ofList body) then some (.infinite negative)
  else if nans.contains (String.ofList cs) then some .nan
  else (decimal? negative body).map .real

end Number
end JsonSchema.Yaml
