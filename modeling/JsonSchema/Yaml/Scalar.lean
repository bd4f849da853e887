import JsonSchema.Json.Reader
import JsonSchema.Yaml.Spot

/-!
# The text of scalars

A scalar is written plain, between quotes, or as an indented block. Plain and quoted scalars may
go on over several lines: white space with line ends in it is folded. Readers answer the text of
the scalar and what follows it, or `none` if it is not well formed. Their fuel bounds the steps;
the number of characters ahead and one more is enough.
-/

namespace JsonSchema.Yaml

/-- How a scalar is written. -/
inductive ScalarStyle where
  | plain
  | singleQuoted
  | doubleQuoted
  | literal
  | folded
deriving DecidableEq, Repr

/-! ## Folding -/

/-- What line ends stand for: a single line feed is a blank, and of several the first is
dropped. -/
def fold : List Char → List Char
  | ['\n'] => [' ']
  | '\n' :: breaks => breaks
  | breaks => breaks

/-- Whether a stretch of white space has a line end in it. -/
def isBroken (space : List Spot) : Bool := space.any fun spot => isBreak spot.char

/-- The line ends in a stretch of white space. -/
def breaks (space : List Spot) : List Char := (space.map Spot.char).filter isBreak

/-- What a stretch of white space inside a scalar stands for. -/
def foldSpace (space : List Spot) : List Char :=
  if isBroken space then fold (breaks space) else space.map Spot.char

/-- The white space ahead and what follows it. -/
def Ahead.space (ahead : Ahead) : List Spot × Ahead :=
  (ahead.takeWhile fun spot => isSpace spot.char, ahead.dropWhile fun spot => isSpace spot.char)

/-! ## Plain scalars -/

namespace Plain

/-- A character that belongs to the brackets and commas of flow collections. -/
def isFlowIndicator (c : Char) : Bool := c = ',' || c = '[' || c = ']' || c = '\x7b' || c = '\x7d'

/-- The characters up to white space or an indicator that ends the scalar. In a flow collection a
colon right before an indicator is an error. -/
def run? (inFlow : Bool) : Ahead → Option (List Char × Ahead)
  | [] => some ([], [])
  | spot :: rest =>
    let c := spot.char
    let next := Ahead.peek rest 0
    if isGap c then some ([], spot :: rest)
    else if inFlow && c = ':' && (isFlowIndicator next || next = '?') then none
    else if c = ':' && isGap next || inFlow && isFlowIndicator c then some ([], spot :: rest)
    else (run? inFlow rest).map fun (cs, rest) => (c :: cs, rest)

/-- Whether a line is indented by a tab before the column where the scalar's lines start. -/
def hasEarlyTab (indent : Int) (space : List Spot) : Bool :=
  (space.dropWhile fun spot => !isBreak spot.char).any fun spot => spot.char = '\t' && (spot.column : Int) < indent

/-- The rest of a plain scalar after `pending` white space: its text, whether a line end follows
it, and what stands after the white space behind it. -/
def tail? (inFlow : Bool) (indent : Int) : Nat → List Spot → Ahead → Option (List Char × Bool × Ahead)
  | 0, _, _ => none
  | fuel + 1, pending, ahead =>
    if ahead.atDocumentMark || ahead.peek 0 = '#' then some ([], isBroken pending, ahead)
    else
      match run? inFlow ahead with
      | none => none
      | some ([], rest) => some ([], isBroken pending, rest)
      | some (cs, rest) =>
        let (space, rest) := rest.space
        let text := foldSpace pending ++ cs
        if space.isEmpty then some (text, false, rest)
        else if hasEarlyTab indent space then none
        else if !inFlow && (rest.column : Int) < indent then some (text, isBroken space, rest)
        else (tail? inFlow indent fuel space rest).map fun (more, broken, rest) => (text ++ more, broken, rest)

end Plain

/-- A plain scalar whose further lines start at column `indent` or later. -/
def plain? (fuel : Nat) (inFlow : Bool) (indent : Int) (ahead : Ahead) : Option (List Char × Bool × Ahead) :=
  Plain.tail? inFlow indent fuel [] ahead

/-! ## Quoted scalars -/

namespace DoubleQuoted

/-- The character of a one-letter escape. -/
def simpleEscape? : Char → Option Char
  | '0' => some '\x00'
  | 'a' => some '\x07'
  | 'b' => some '\x08'
  | 't' => some '\t'
  | '\t' => some '\t'
  | 'n' => some '\n'
  | 'v' => some '\x0b'
  | 'f' => some '\x0c'
  | 'r' => some '\r'
  | 'e' => some '\x1b'
  | ' ' => some ' '
  | '"' => some '"'
  | '/' => some '/'
  | '\\' => some '\\'
  | 'N' => some '\u0085'
  | '_' => some '\u00a0'
  | 'L' => some '\u2028'
  | 'P' => some '\u2029'
  | _ => none

/-- The number of hexadecimal digits after the letter of an escape. -/
def escapeWidth? : Char → Option Nat
  | 'x' => some 2
  | 'u' => some 4
  | 'U' => some 8
  | _ => none

/-- The character of a code point, unless it is a surrogate or past the last one. -/
def character? (code : Nat) : Option Char :=
  if code < 0xD800 ∨ (0xDFFF < code ∧ code ≤ 0x10FFFF) then some (Char.ofNat code) else none

/-- The number written by hexadecimal digits. -/
def hexNumber? (ds : List Char) : Option Nat :=
  ds.foldlM (fun n c => (Json.Reader.hexValue? c).map (16 * n + ·)) 0

/-- The character of an escape and what follows it; the backslash is behind. -/
def escape? (ahead : Ahead) : Option (Char × Ahead) :=
  let letter := ahead.peek 0
  let rest := ahead.skip 1
  match simpleEscape? letter with
  | some c => some (c, rest)
  | none => do
    let width ← escapeWidth? letter
    let digits := (rest.take width).map Spot.char
    if digits.length < width then none
    else return (← character? (← hexNumber? digits), rest.skip width)

/-- The rest of a scalar between double quotes. -/
def tail? : Nat → Ahead → Option (List Char × Ahead)
  | 0, _ => none
  | fuel + 1, ahead =>
    let c := ahead.peek 0
    let rest := ahead.skip 1
    if c = endMark || ahead.atDocumentMark then none
    else if c = '"' then some ([], rest)
    else if isSpace c then
      let (space, rest) := ahead.space
      (tail? fuel rest).map fun (cs, rest) => (foldSpace space ++ cs, rest)
    else if c = '\\' && isBreak (rest.peek 0) then
      let (space, rest) := (rest.skip 1).space
      (tail? fuel rest).map fun (cs, rest) => (breaks space ++ cs, rest)
    else if c = '\\' then
      (escape? rest).bind fun (c, rest) => (tail? fuel rest).map fun (cs, rest) => (c :: cs, rest)
    else (tail? fuel rest).map fun (cs, rest) => (c :: cs, rest)

end DoubleQuoted

/-- The rest of a scalar between single quotes; two quotes in it stand for one. -/
def SingleQuoted.tail? : Nat → Ahead → Option (List Char × Ahead)
  | 0, _ => none
  | fuel + 1, ahead =>
    let c := ahead.peek 0
    let rest := ahead.skip 1
    if c = endMark || ahead.atDocumentMark then none
    else if c = '\'' then
      if rest.peek 0 = '\'' then (tail? fuel (rest.skip 1)).map fun (cs, rest) => ('\'' :: cs, rest)
      else some ([], rest)
    else if isSpace c then
      let (space, rest) := ahead.space
      (tail? fuel rest).map fun (cs, rest) => (foldSpace space ++ cs, rest)
    else (tail? fuel rest).map fun (cs, rest) => (c :: cs, rest)

/-- A scalar between double quotes, its opening quote ahead. -/
def doubleQuoted? (fuel : Nat) (ahead : Ahead) : Option (List Char × Ahead) :=
  DoubleQuoted.tail? fuel (ahead.skip 1)

/-- A scalar between single quotes, its opening quote ahead. -/
def singleQuoted? (fuel : Nat) (ahead : Ahead) : Option (List Char × Ahead) :=
  SingleQuoted.tail? fuel (ahead.skip 1)

/-! ## Block scalars -/

namespace Block

/-- What becomes of the line ends after the last line. -/
inductive Chomping where
  | strip
  | clip
  | keep
deriving DecidableEq, Repr

/-- What the first line of a block says of the lines below. -/
structure Header where
  chomping : Chomping
  /-- By how many columns the lines are indented more than the block around them. -/
  increment : Option Nat

def chomping? (c : Char) : Option Chomping :=
  if c = '+' then some .keep else if c = '-' then some .strip else none

/-- The digit of an indentation, if one is ahead; zero is an error. -/
def increment? (ahead : Ahead) : Option (Option Nat × Ahead) :=
  let c := ahead.peek 0
  if c = '0' then none
  else if isDigit c then some (some (c.toNat - '0'.toNat), ahead.skip 1)
  else some (none, ahead)

/-- The header after its indicator, up to the next line. -/
def header? (ahead : Ahead) : Option (Header × Ahead) := do
  match chomping? (ahead.peek 0) with
  | some chomping =>
    let (increment, rest) ← increment? (ahead.skip 1)
    return (⟨chomping, increment⟩, ← rest.nextLine?)
  | none =>
    let (increment, rest) ← increment? ahead
    match increment, chomping? (rest.peek 0) with
    | some n, some chomping => return (⟨chomping, some n⟩, ← (rest.skip 1).nextLine?)
    | increment, _ => return (⟨.clip, increment⟩, ← rest.nextLine?)

/-- Skips empty lines and the indentation of the first line that is not: the line ends, the
deepest column reached, and what follows. Without a known indentation every blank is skipped. A
tab inside the indentation is an error. -/
def skipEmpty? (indent : Option Nat) : Ahead → Option (List Char × Nat × Ahead)
  | [] => some ([], 0, [])
  | spot :: rest =>
    let inside := match indent with
      | some n => decide (spot.column < n)
      | none => true
    if inside && spot.char = ' ' then skipEmpty? indent rest
    else if inside && spot.char = '\t' then none
    else if isBreak spot.char then
      (skipEmpty? indent rest).map fun (ends, deepest, rest) => (spot.char :: ends, max spot.column deepest, rest)
    else some ([], spot.column, spot :: rest)

/-- A line of a block, its line end, and the ends of the empty lines below it. -/
structure Line where
  text : List Char
  ending : List Char
  empty : List Char

/-- Whether a line starts with a blank beyond its indentation. -/
def Line.isMoreIndented (line : Line) : Bool := line.text.head?.any isBlank

/-- The lines at an indentation. -/
def lines? (indent : Nat) : Nat → Ahead → Option (List Line × Ahead)
  | 0, _ => none
  | fuel + 1, ahead =>
    if ahead.column ≠ indent || ahead.peek 0 = endMark then some ([], ahead)
    else
      let (text, rest) := ahead.span fun c => !isLineEnd c
      let (ending, rest) := if isBreak (rest.peek 0) then ([rest.peek 0], rest.skip 1) else ([], rest)
      match skipEmpty? (some indent) rest with
      | none => none
      | some (empty, _, rest) => (lines? indent fuel rest).map fun (lines, rest) => (⟨text, ending, empty⟩ :: lines, rest)

/-- What stands between two lines. Folding joins lines that are both indented no further. -/
def joint (folding : Bool) (line next : Line) : List Char :=
  if folding && line.ending == ['\n'] && !line.isMoreIndented && !next.isMoreIndented then
    if line.empty.isEmpty then [' '] else line.empty
  else line.ending ++ line.empty

/-- The text of lines, the last one with the line ends that its chomping leaves. -/
def join (folding : Bool) (chomping : Chomping) : List Line → List Char
  | [] => []
  | [line] =>
    line.text ++ match chomping with
      | .strip => []
      | .clip => line.ending
      | .keep => line.ending ++ line.empty
  | line :: next :: rest => line.text ++ joint folding line next ++ join folding chomping (next :: rest)

end Block

/-- A block scalar inside a block indented by `outer` columns, or `-1` for the outermost; the
indicator is ahead. The first line that is not empty sets the indentation unless the header
does. -/
def blockScalar? (fuel : Nat) (folding : Bool) (outer : Int) (ahead : Ahead) : Option (List Char × Ahead) := do
  let (header, rest) ← Block.header? (ahead.skip 1)
  let given := header.increment.map fun n => (max outer 0).toNat + n
  let (empty, deepest, rest) ← Block.skipEmpty? given rest
  let indent := given.getD (max deepest (max (outer + 1) 1).toNat)
  let (lines, rest) ← Block.lines? indent fuel rest
  let leading := if lines.isEmpty && header.chomping ≠ .keep then [] else empty
  return (leading ++ Block.join folding header.chomping lines, rest)

end JsonSchema.Yaml
