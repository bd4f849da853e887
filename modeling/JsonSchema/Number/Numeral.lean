import JsonSchema.Number.Shortest

/-!
# Numerals

A numeral style says which magnitudes are written positionally, how integral values end and what
signs are written. The digits are always the shortest that read back.
-/

namespace JsonSchema

/-- How a double is written. -/
structure NumeralStyle where
  /-- Least scientific exponent written positionally. -/
  least : Int
  /-- Greatest scientific exponent written positionally. -/
  greatest : Int
  /-- Whether an integral value keeps the fraction `.0`. -/
  fraction : Bool
  /-- Whether zero keeps its sign. -/
  signedZero : Bool
  /-- Whether an exponent that is not negative has a plus sign. -/
  plusSign : Bool

namespace NumeralStyle

/-- The style of JSON texts: positional from `10 ^ -5` up to `10 ^ 15`, always a fraction. -/
def plain : NumeralStyle := ⟨-5, 15, true, true, true⟩

/-- The style of canonical JSON: positional from `10 ^ -6` below `10 ^ 21`, no empty fraction. -/
def canonical : NumeralStyle := ⟨-6, 20, false, false, true⟩

/-- The style of numbers as YAML keys: like JSON, but an exponent has no plus sign. -/
def key : NumeralStyle := ⟨-5, 15, true, true, false⟩

/-- The magnitude `d` without an exponent part. -/
def positional (n : NumeralStyle) (d : Decimal) : List Char :=
  let digits := d.text
  if 0 ≤ d.exponent then
    digits ++ List.replicate d.exponent.toNat '0' ++ (if n.fraction then ['.', '0'] else [])
  else
    let places := (-d.exponent).toNat
    if places < digits.length then
      digits.take (digits.length - places) ++ '.' :: digits.drop (digits.length - places)
    else ['0', '.'] ++ List.replicate (places - digits.length) '0' ++ digits

/-- The magnitude `d` with one digit before the point and an exponent part. -/
def scientific (n : NumeralStyle) (d : Decimal) : List Char :=
  let mantissa := match d.text with
    | [] => []
    | [digit] => [digit]
    | digit :: rest => digit :: '.' :: rest
  let sign := if d.leading < 0 then ['-'] else if n.plusSign then ['+'] else []
  mantissa ++ 'e' :: sign ++ Nat.toDigits 10 d.leading.natAbs

/-- The text of a double. -/
def write (n : NumeralStyle) (x : Binary64) : String :=
  let magnitude :=
    if x.isZero then n.positional ⟨0, 0⟩
    else
      let d := x.shortest
      if n.least ≤ d.leading ∧ d.leading ≤ n.greatest then n.positional d else n.scientific d
  let signed := x.negative && (n.signedZero || !x.isZero)
  String.ofList (if signed then '-' :: magnitude else magnitude)

end NumeralStyle
end JsonSchema
