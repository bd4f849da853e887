import JsonSchema.Json.Basic

/-!
# Reading JSON

A reader takes characters from the front of a list and answers the value and the rest, or `none`
for a text that is not JSON. Nesting is limited to 127 levels. A name that occurs twice in an
object keeps its first position and takes its last value.
-/

namespace JsonSchema.Json.Reader

/-- How many containers may be open at once. -/
def maxDepth : Nat := 127

def isBlank (c : Char) : Bool := c = ' ' || c = '\n' || c = '\t' || c = '\r'

def skipBlanks (cs : List Char) : List Char := cs.dropWhile isBlank

/-- The value of a hexadecimal digit. -/
def hexValue? (c : Char) : Option Nat :=
  if '0' ≤ c ∧ c ≤ '9' then some (c.toNat - '0'.toNat)
  else if 'a' ≤ c ∧ c ≤ 'f' then some (c.toNat - 'a'.toNat + 10)
  else if 'A' ≤ c ∧ c ≤ 'F' then some (c.toNat - 'A'.toNat + 10)
  else none

/-- Four hexadecimal digits. -/
def hex4 : List Char → Option (Nat × List Char)
  | a :: b :: c :: d :: rest => do
    let unit := 4096 * (← hexValue? a) + 256 * (← hexValue? b) + 16 * (← hexValue? c) + (← hexValue? d)
    return (unit, rest)
  | _ => none

def isHighSurrogate (unit : Nat) : Bool := 0xD800 ≤ unit && unit < 0xDC00

def isLowSurrogate (unit : Nat) : Bool := 0xDC00 ≤ unit && unit < 0xE000

/-- The character of one `\u` escape, or of two that form a surrogate pair. -/
def unicodeEscape (cs : List Char) : Option (Char × List Char) := do
  let (unit, rest) ← hex4 cs
  if isHighSurrogate unit then
    match rest with
    | '\\' :: 'u' :: rest =>
      let (low, rest) ← hex4 rest
      if isLowSurrogate low then
        return (Char.ofNat (0x10000 + (unit - 0xD800) * 0x400 + (low - 0xDC00)), rest)
      else none
    | _ => none
  else if isLowSurrogate unit then none
  else return (Char.ofNat unit, rest)

/-- The character of a one-letter escape. -/
def simpleEscape? : Char → Option Char
  | '"' => some '"'
  | '\\' => some '\\'
  | '/' => some '/'
  | 'b' => some '\x08'
  | 'f' => some '\x0c'
  | 'n' => some '\n'
  | 'r' => some '\r'
  | 't' => some '\t'
  | _ => none

/-- The rest of a string after its opening quote; `reversed` holds what was read. -/
def stringTail : Nat → List Char → List Char → Option (String × List Char)
  | 0, _, _ => none
  | _, _, [] => none
  | fuel + 1, reversed, c :: rest =>
    if c = '"' then some (String.ofList reversed.reverse, rest)
    else if c.toNat < 0x20 then none
    else if c = '\\' then
      match rest with
      | 'u' :: rest => do
        let (decoded, rest) ← unicodeEscape rest
        stringTail fuel (decoded :: reversed) rest
      | letter :: rest => do stringTail fuel ((← simpleEscape? letter) :: reversed) rest
      | [] => none
    else stringTail fuel (c :: reversed) rest

def string (cs : List Char) : Option (String × List Char) := stringTail (cs.length + 1) [] cs

def isDigit (c : Char) : Bool := '0' ≤ c && c ≤ '9'

/-- A run of decimal digits and what follows it. -/
def digits (cs : List Char) : List Char × List Char := (cs.takeWhile isDigit, cs.dropWhile isDigit)

/-- The number written by decimal digits. -/
def decimalValue (ds : List Char) : Nat := ds.foldl (fun n c => 10 * n + (c.toNat - '0'.toNat)) 0

/-- The integer part: a single zero or digits that start with another one. -/
def integerPart (cs : List Char) : Option (List Char × List Char) :=
  match digits cs with
  | ([], _) => none
  | ('0' :: _ :: _, _) => none
  | parts => some parts

/-- An optional fraction; a point needs a digit after it. -/
def fractionPart : List Char → Option (Option (List Char) × List Char)
  | '.' :: cs =>
    match digits cs with
    | ([], _) => none
    | (ds, rest) => some (some ds, rest)
  | cs => some (none, cs)

/-- An optional exponent; its mark needs a digit after it and its sign. -/
def exponentPart : List Char → Option (Option Int × List Char)
  | c :: cs =>
    if c = 'e' ∨ c = 'E' then
      let (negative, cs) := match cs with
        | '-' :: cs => (true, cs)
        | '+' :: cs => (false, cs)
        | cs => (false, cs)
      match digits cs with
      | ([], _) => none
      | (ds, rest) =>
        let magnitude : Int := decimalValue ds
        some (some (if negative then -magnitude else magnitude), rest)
    else some (none, c :: cs)
  | [] => some (none, [])

/-- The number of a literal. An integer that fits a 64-bit word stays exact, except that minus
zero is a double; every other literal is rounded to a double and fails beyond the finite range. -/
def numberOf (negative : Bool) (whole : List Char) (fraction : Option (List Char)) (exponent : Option Int) :
    Option Number :=
  let rounded := do
    let ds := whole ++ fraction.getD []
    let shift := exponent.getD 0 - ((fraction.getD []).length : Int)
    return Number.real (← Binary64.ofDecimal negative (decimalValue ds) shift)
  match fraction, exponent with
  | none, none =>
    let magnitude : Int := decimalValue whole
    let value := if negative then -magnitude else magnitude
    if Number.exactRange value ∧ ¬(negative ∧ magnitude = 0) then some (.int value) else rounded
  | _, _ => rounded

def number (cs : List Char) : Option (Number × List Char) := do
  let (negative, cs) := match cs with
    | '-' :: cs => (true, cs)
    | cs => (false, cs)
  let (whole, cs) ← integerPart cs
  let (fraction, cs) ← fractionPart cs
  let (exponent, cs) ← exponentPart cs
  return (← numberOf negative whole fraction exponent, cs)

/-- The rest of `cs` after a given word. -/
def word? (word cs : List Char) : Option (List Char) :=
  if word.isPrefixOf cs then some (cs.drop word.length) else none

mutual

/-- One value, after optional blanks. `fuel` bounds the steps, `depth` the open containers left. -/
def value (fuel depth : Nat) (cs : List Char) : Option (Json × List Char) :=
  match fuel with
  | 0 => none
  | fuel + 1 =>
    match skipBlanks cs with
    | [] => none
    | 'n' :: rest => (word? "ull".toList rest).map fun rest => (.null, rest)
    | 't' :: rest => (word? "rue".toList rest).map fun rest => (.bool true, rest)
    | 'f' :: rest => (word? "alse".toList rest).map fun rest => (.bool false, rest)
    | '"' :: rest => (string rest).map fun (s, rest) => (.str s, rest)
    | '[' :: rest =>
      if depth = 0 then none
      else match skipBlanks rest with
        | ']' :: rest => some (.arr [], rest)
        | rest => items fuel (depth - 1) [] rest
    | '{' :: rest =>
      if depth = 0 then none
      else match skipBlanks rest with
        | '}' :: rest => some (.obj [], rest)
        | rest => members fuel (depth - 1) [] rest
    | cs => (number cs).map fun (n, rest) => (.num n, rest)

/-- The items of an array from the next one on; `reversed` holds those read. -/
def items (fuel depth : Nat) (reversed : List Json) (cs : List Char) : Option (Json × List Char) :=
  match fuel with
  | 0 => none
  | fuel + 1 =>
    match value fuel depth cs with
    | none => none
    | some (item, rest) =>
      match skipBlanks rest with
      | ',' :: rest => items fuel depth (item :: reversed) rest
      | ']' :: rest => some (.arr (item :: reversed).reverse, rest)
      | _ => none

/-- The members of an object from the next one on; `read` holds those read. -/
def members (fuel depth : Nat) (read : Members) (cs : List Char) : Option (Json × List Char) :=
  match fuel with
  | 0 => none
  | fuel + 1 =>
    match skipBlanks cs with
    | '"' :: rest =>
      match string rest with
      | none => none
      | some (name, rest) =>
        match skipBlanks rest with
        | ':' :: rest =>
          match value fuel depth rest with
          | none => none
          | some (v, rest) =>
            match skipBlanks rest with
            | ',' :: rest => members fuel depth (read.insert name v) rest
            | '}' :: rest => some (.obj (read.insert name v), rest)
            | _ => none
        | _ => none
    | _ => none

end

end Reader

/-- The value of a JSON text, which holds one value and nothing else but blanks. -/
def parse? (text : String) : Option Json :=
  let cs := text.toList
  match Reader.value (cs.length + 1) Reader.maxDepth cs with
  | some (value, rest) => if (Reader.skipBlanks rest).isEmpty then some value else none
  | none => none

end JsonSchema.Json
