import JsonSchema.Text.CharSet
import JsonSchema.Uri.Basic
import JsonSchema.Uri.DomainName

/-!
# Hosts

A host of a special scheme is an IPv6 address between brackets, an IPv4 address in any of its
numeric spellings, or a domain name. Other schemes take any text without delimiters.
-/

namespace JsonSchema.Uri

/-! ## IPv4 -/

/-- A digit's value in a base up to 16. -/
def digitIn? (base : Nat) (c : Char) : Option Nat :=
  match Percent.hexValue? c.toNat with
  | some d => if d < base then some d else none
  | none => none

/-- The number written by digits of a base. -/
def numberIn? (base : Nat) (ds : List Char) : Option Nat :=
  ds.foldlM (fun n c => (digitIn? base c).map (base * n + ·)) 0

/-- One part of an IPv4 address: hexadecimal after `0x`, octal after `0`, else decimal. -/
def ipv4Part? (part : List Char) : Option Nat :=
  match part with
  | [] => none
  | '0' :: 'x' :: ds => numberIn? 16 ds
  | '0' :: 'X' :: ds => numberIn? 16 ds
  | '0' :: d :: ds => numberIn? 8 (d :: ds)
  | ds => numberIn? 10 ds

/-- The parts between dots, one empty part at the end left out. -/
def dottedParts (cs : List Char) : List (List Char) :=
  let parts := Text.splitOn '.' cs
  if parts.length > 1 && parts.getLast? == some [] then parts.dropLast else parts

/-- Whether a host can only be an IPv4 address: its last part is a number. -/
def endsInNumber (cs : List Char) : Bool :=
  match (dottedParts cs).getLast? with
  | some part => (!part.isEmpty && part.all Char.isDigit) || (ipv4Part? part).isSome
  | none => false

/-- The address as one number. Every part but the last is a byte; the last fills what is left. -/
def ipv4Value? (cs : List Char) : Option Nat := do
  let parts := dottedParts cs
  if 4 < parts.length then none
  let numbers ← parts.mapM ipv4Part?
  let last ← numbers.getLast?
  let leading := numbers.dropLast
  if leading.any (255 < ·) || Nat.pow 256 (4 - leading.length) ≤ last then none
  else
    let high := leading.foldl (fun n byte => 256 * n + byte) 0
    return high * Nat.pow 256 (4 - leading.length) + last

/-- The dotted text of an IPv4 address. -/
def ipv4Text (n : Nat) : String :=
  ".".intercalate ([n / 0x1000000, n / 0x10000 % 256, n / 256 % 256, n % 256].map toString)

/-! ## IPv6 -/

/-- Up to four hexadecimal digits and what follows them. -/
def hexPiece (cs : List Char) : Nat × Nat × List Char :=
  let ds := (cs.take 4).takeWhile fun c => (digitIn? 16 c).isSome
  ((numberIn? 16 ds).getD 0, ds.length, cs.drop ds.length)

/-- A decimal byte without superfluous zeros. -/
def byte? (ds : List Char) : Option Nat :=
  match ds with
  | [] => none
  | '0' :: _ :: _ => none
  | ds => if 3 < ds.length then none else (numberIn? 10 ds).bind fun n => if n < 256 then some n else none

/-- Four bytes between dots as two pieces. -/
def dottedPieces? (cs : List Char) : Option (Nat × Nat) :=
  match (Text.splitOn '.' cs).mapM byte? with
  | some [a, b, c, d] => some (256 * a + b, 256 * c + d)
  | _ => none

/-- The pieces of an IPv6 address from a place on. `gap` is the number of pieces before the double
colon, once it was read; `reversed` holds the pieces. -/
def ipv6Pieces : Nat → Option Nat → List Nat → List Char → Option (Option Nat × List Nat)
  | 0, _, _, _ => none
  | _, gap, reversed, [] => some (gap, reversed)
  | fuel + 1, gap, reversed, c :: rest =>
    if reversed.length = 8 then none
    else if c = ':' then
      if gap.isSome then none else ipv6Pieces fuel (some reversed.length) reversed rest
    else
      let (value, count, after) := hexPiece (c :: rest)
      match after with
      | '.' :: _ =>
        if count = 0 ∨ 6 < reversed.length then none
        else (dottedPieces? (c :: rest)).map fun (high, low) => (gap, low :: high :: reversed)
      | ':' :: after => if after.isEmpty then none else ipv6Pieces fuel gap (value :: reversed) after
      | [] => some (gap, value :: reversed)
      | _ => none

/-- The eight pieces of an IPv6 address. -/
def ipv6? (cs : List Char) : Option (List Nat) := do
  let start ← match cs with
    | ':' :: ':' :: rest => some (some 0, rest)
    | ':' :: _ => none
    | cs => some (none, cs)
  let (gap, reversed) ← ipv6Pieces (cs.length + 1) start.1 [] start.2
  let pieces := reversed.reverse
  match gap with
  | some before =>
    if pieces.length = 8 then (if before = 8 then none else some pieces)
    else some (pieces.take before ++ List.replicate (8 - pieces.length) 0 ++ pieces.drop before)
  | none => if pieces.length = 8 then some pieces else none

/-- The start and length of the first longest run of zeros. -/
def longestZeros (pieces : List Nat) : Nat × Nat :=
  ((List.range pieces.length).map fun i => (i, ((pieces.drop i).takeWhile (· == 0)).length)).foldl
    (fun best run => if best.2 < run.2 then run else best) (0, 0)

/-- The text of an IPv6 address, the first longest run of two or more zeros left out. -/
def ipv6Text (pieces : List Nat) : String :=
  let hex (ns : List Nat) := ":".intercalate (ns.map fun n => String.ofList (Nat.toDigits 16 n))
  let (start, length) := longestZeros pieces
  if length < 2 then hex pieces
  else hex (pieces.take start) ++ "::" ++ hex (pieces.drop (start + length))

/-! ## Hosts of either kind -/

/-- Characters that no host of a scheme without fixed syntax may hold. -/
def isHostDelimiter (c : Char) : Bool :=
  ['\x00', '\t', '\n', '\r', ' ', '#', '/', ':', '<', '>', '?', '@', '[', '\\', ']', '^', '|'].contains c

/-- An IPv6 address between brackets. -/
def bracketedHost (cs : List Char) : Except Fault String :=
  if cs.getLast? != some ']' then .error .ipv6
  else match ipv6? (cs.drop 1).dropLast with
    | some pieces => .ok ("[" ++ ipv6Text pieces ++ "]")
    | none => .error .ipv6

/-- The host of a special scheme. -/
def specialHost (cs : List Char) : Except Fault String :=
  match cs with
  | '[' :: _ => bracketedHost cs
  | _ =>
    match DomainName.toAscii? (Percent.decodeBytes (Utf8.encode cs)) with
    | none => .error .internationalName
    | some [] => .error .emptyHost
    | some domain =>
      if endsInNumber domain then
        match ipv4Value? domain with
        | some n => .ok (ipv4Text n)
        | none => .error .ipv4
      else .ok (String.ofList domain)

/-- The host of any other scheme. -/
def plainHost (cs : List Char) : Except Fault String :=
  match cs with
  | '[' :: _ => bracketedHost cs
  | cs =>
    if cs.any isHostDelimiter then .error .hostCharacter
    else .ok (String.ofList (Percent.encode escapedControl cs))

end JsonSchema.Uri
