/-!
# Sets and tables of characters

A set of code points is a list of inclusive ranges in increasing order that neither overlap nor
touch. Tables of a character property are texts such as `30-39 5F 61-7A`: hexadecimal ranges
between blanks and line ends. Where characters stand for others, what the first of a range stands
for follows after a colon, as in `41-5A:61`, and a step other than one after another colon, as in
`100-12E:101:2`. A text is split at the characters that satisfy a condition; the pieces, one more
than there are such characters, leave them out and may be empty.
-/

namespace JsonSchema

namespace Text

/-- The pieces of a text between the characters that satisfy `p`. -/
def splitWhere (p : Char → Bool) : List Char → List (List Char)
  | [] => [[]]
  | c :: rest =>
    if p c then [] :: splitWhere p rest
    else match splitWhere p rest with
      | [] => [[c]]
      | piece :: pieces => (c :: piece) :: pieces

/-- The pieces of a text between the occurrences of a character. -/
def splitOn (separator : Char) (cs : List Char) : List (List Char) := splitWhere (· == separator) cs

/-- The stretches of a text without blanks and line ends. -/
def words (cs : List Char) : List (List Char) :=
  (splitWhere (fun c => c == ' ' || c == '\n') cs).filter fun piece => !piece.isEmpty

end Text

/-- A set of code points as increasing, separated, inclusive ranges. -/
structure CharSet where
  ranges : List (Nat × Nat)
deriving DecidableEq, Repr

namespace CharSet

/-- The largest code point. -/
def last : Nat := 0x10FFFF

def empty : CharSet := ⟨[]⟩

/-- Every code point. -/
def all : CharSet := ⟨[(0, last)]⟩

def isEmpty (s : CharSet) : Bool := s.ranges.isEmpty

/-- Whether a code point is in one of the ranges. -/
def containsCode (s : CharSet) (code : Nat) : Bool :=
  go s.ranges
where
  go : List (Nat × Nat) → Bool
    | [] => false
    | (low, high) :: rest => if code < low then false else if code ≤ high then true else go rest

def contains (s : CharSet) (c : Char) : Bool := s.containsCode c.toNat

/-- Joins ranges, in increasing order of their lower ends, that overlap or touch. -/
def joinRanges : List (Nat × Nat) → List (Nat × Nat)
  | [] => []
  | first :: rest => go first rest
where
  go (current : Nat × Nat) : List (Nat × Nat) → List (Nat × Nat)
    | [] => [current]
    | next :: rest =>
      if next.1 ≤ current.2 + 1 then go (current.1, max current.2 next.2) rest
      else current :: go next rest

/-- The set of all code points in some ranges, which may come in any order. -/
def ofRanges (ranges : List (Nat × Nat)) : CharSet :=
  ⟨joinRanges ((ranges.filter fun r => r.1 ≤ r.2).mergeSort fun a b => a.1 ≤ b.1)⟩

def range (low high : Char) : CharSet := ofRanges [(low.toNat, high.toNat)]

def single (c : Char) : CharSet := ⟨[(c.toNat, c.toNat)]⟩

def union (a b : CharSet) : CharSet := ofRanges (a.ranges ++ b.ranges)

/-- The union of several sets. -/
def unions (sets : List CharSet) : CharSet := ofRanges (sets.flatMap ranges)

/-- Every code point outside the set. -/
def complement (s : CharSet) : CharSet :=
  ⟨go 0 s.ranges⟩
where
  go (next : Nat) : List (Nat × Nat) → List (Nat × Nat)
    | [] => if next ≤ last then [(next, last)] else []
    | (low, high) :: rest =>
      if next < low then (next, low - 1) :: go (high + 1) rest else go (high + 1) rest

def inter (a b : CharSet) : CharSet := (a.complement.union b.complement).complement

def difference (a b : CharSet) : CharSet := a.inter b.complement

def symmetricDifference (a b : CharSet) : CharSet := (a.union b).difference (a.inter b)

/-- The value of a hexadecimal text. -/
def hexNumber (digits : List Char) : Nat :=
  digits.foldl
    (fun n c =>
      16 * n + (if c.toNat ≤ '9'.toNat then c.toNat - '0'.toNat else c.toNat - 'A'.toNat + 10)) 0

/-- The ranges of a table text. -/
def parseRanges (table : String) : List (Nat × Nat) :=
  (Text.words table.toList).filterMap fun entry =>
    match Text.splitOn '-' entry with
    | [code] => some (hexNumber code, hexNumber code)
    | [low, high] => some (hexNumber low, hexNumber high)
    | _ => none

/-- The set written in a table text. -/
def ofTable (table : String) : CharSet := ofRanges (parseRanges table)

end CharSet

/-- Code points from `first` to `last` with what they stand for: the first one for `target`, the one
`step` after it for the same with its first code point as far on. Without a step all stand for `target`. -/
structure CodeRun where
  first : Nat
  last : Nat
  target : List Nat
  step : Nat

namespace CodeRun

/-- The code points of a run, each with what it stands for. -/
def entries (run : CodeRun) : List (Nat × List Nat) :=
  let width := run.last - run.first
  match run.step with
  | 0 => (List.range (width + 1)).map fun i => (run.first + i, run.target)
  | step + 1 => (List.range (width / (step + 1) + 1)).map fun i =>
    let moved := i * (step + 1)
    (run.first + moved, run.target.modifyHead (· + moved))

/-- One run of a table. -/
def parse? (entry : List Char) : Option CodeRun :=
  match Text.splitOn ':' entry with
  | range :: target :: more =>
    let target := (Text.splitOn ',' target).map CharSet.hexNumber
    let step := (more.head?.map CharSet.hexNumber).getD 1
    match Text.splitOn '-' range with
    | [low, high] => some ⟨CharSet.hexNumber low, CharSet.hexNumber high, target, step⟩
    | _ => some ⟨CharSet.hexNumber range, CharSet.hexNumber range, target, step⟩
  | _ => none

/-- The code points of all runs of a table. -/
def ofTable (table : String) : List (Nat × List Nat) :=
  ((Text.words table.toList).filterMap parse?).flatMap entries

end CodeRun
end JsonSchema
