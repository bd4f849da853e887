/-!
# Punycode

Labels outside ASCII are written as their ASCII characters followed by the places and values of
the others, in order of value, as differences in base 36 with an adaptive threshold.
-/

namespace JsonSchema.Punycode

/-- The character of a digit: letters first, then numerals. -/
def digitChar (d : Nat) : Char := if d < 26 then Char.ofNat (0x61 + d) else Char.ofNat (0x30 + (d - 26))

/-- The value of a digit of either case. -/
def digitValue? (c : Char) : Option Nat :=
  let n := c.toNat
  if 0x61 ≤ n ∧ n ≤ 0x7A then some (n - 0x61)
  else if 0x41 ≤ n ∧ n ≤ 0x5A then some (n - 0x41)
  else if 0x30 ≤ n ∧ n ≤ 0x39 then some (n - 0x30 + 26)
  else none

/-- The threshold of the digit at weight `k`. -/
def threshold (k bias : Nat) : Nat := if k ≤ bias then 1 else min 26 (k - bias)

/-- The bias after a difference, for the number of characters then placed. -/
def adapt (delta count : Nat) (first : Bool) : Nat :=
  let delta := if first then delta / 700 else delta / 2
  shrink (delta + 1) (delta + delta / count) 0
where
  shrink : Nat → Nat → Nat → Nat
    | 0, delta, k => k + 36 * delta / (delta + 38)
    | fuel + 1, delta, k =>
      if 455 < delta then shrink fuel (delta / 35) (k + 36) else k + 36 * delta / (delta + 38)

/-- The digits of one difference. -/
def encodeDelta (bias : Nat) : Nat → Nat → Nat → List Char
  | 0, _, _ => []
  | fuel + 1, k, q =>
    let t := threshold k bias
    if q < t then [digitChar q]
    else digitChar (t + (q - t) % (36 - t)) :: encodeDelta bias fuel (k + 36) ((q - t) / (36 - t))

/-- What an encoder carries from one character to the next. -/
structure Progress where
  delta : Nat
  bias : Nat
  /-- Characters placed so far. -/
  placed : Nat
  written : List Char

/-- Places every occurrence of one code point; `basic` is the number of ASCII characters. -/
def placeCode (basic code : Nat) (codes : List Nat) (p : Progress) : Progress :=
  codes.foldl
    (fun p c =>
      if c < code then { p with delta := p.delta + 1 }
      else if c = code then
        ⟨0, adapt p.delta (p.placed + 1) (p.placed == basic), p.placed + 1,
          p.written ++ encodeDelta p.bias (p.delta + 2) 36 p.delta⟩
      else p) p

/-- The encoded form of a label, without the prefix that marks it. -/
def encode (label : List Char) : List Char :=
  let codes := label.map Char.toNat
  let ascii := label.filter fun c => c.toNat < 0x80
  let rare := ((codes.filter (0x80 ≤ ·)).mergeSort (· ≤ ·)).eraseDups
  let head := if ascii.isEmpty then [] else ascii ++ ['-']
  let (result, _) := rare.foldl
    (fun (p, next) code =>
      let p := placeCode ascii.length code codes { p with delta := p.delta + (code - next) * (p.placed + 1) }
      ({ p with delta := p.delta + 1 }, code + 1))
    ((⟨0, 72, ascii.length, []⟩ : Progress), 0x80)
  head ++ result.written

/-- One difference read from digits: the value and the rest. -/
def decodeDelta (bias : Nat) : List Char → Nat → Nat → Nat → Option (Nat × List Char)
  | [], _, _, _ => none
  | c :: rest, k, weight, value => do
    let d ← digitValue? c
    let value := value + d * weight
    let t := threshold k bias
    if value ≥ 0x100000000 then none
    else if d < t then return (value, rest)
    else decodeDelta bias rest (k + 36) (weight * (36 - t)) value

/-- Inserts the characters that the digits describe: the characters placed so far, the last code
point, the bias and the place after the last insertion, which is 0 only at the start. -/
def decodeInto : Nat → List Nat → Nat → Nat → Nat → List Char → Option (List Nat)
  | 0, _, _, _, _, _ => none
  | _, placed, _, _, _, [] => some placed
  | fuel + 1, placed, code, bias, index, cs => do
    let (delta, rest) ← decodeDelta bias cs 36 1 0
    let count := placed.length + 1
    let moved := index + delta
    let code := code + moved / count
    let place := moved % count
    if code > 0x10FFFF ∨ (0xD800 ≤ code ∧ code ≤ 0xDFFF) then none
    else
      decodeInto fuel (placed.take place ++ code :: placed.drop place) code (adapt delta count (index == 0))
        (place + 1) rest

/-- The label of an encoded form. -/
def decode? (cs : List Char) : Option (List Char) := do
  let tail := (cs.reverse.takeWhile (· != '-')).reverse
  let head := cs.take (cs.length - tail.length - 1)
  if head.any fun c => 0x80 ≤ c.toNat then none
  let codes ← decodeInto (cs.length + 1) (head.map Char.toNat) 0x80 72 0 tail
  return codes.map Char.ofNat

end JsonSchema.Punycode
