import JsonSchema.Text.CharSet
import JsonSchema.Unicode.Category
import JsonSchema.Unicode.Property

/-!
# Regular expressions

An expression moves a set of positions of a text to the set of positions it can reach. Positions
stand between characters, 0 before the first; a set of them is a number whose bit `i` tells
whether position `i` belongs to it. A pattern matches a text when it reaches any position from
any position, so a match may start and end anywhere.
-/

namespace JsonSchema.Pattern

/-- Conditions on a position that consume nothing. -/
inductive Look where
  | textStart
  | textEnd
  /-- After a line feed or at the start. -/
  | lineStart
  /-- Before a line feed or at the end. -/
  | lineEnd
  /-- As `lineStart`, where a line may also end in a carriage return, alone or before a line feed. -/
  | lineStartAny
  | lineEndAny
  /-- Between a character of the set and something else. -/
  | boundary (word : CharSet)
  | notBoundary (word : CharSet)
  /-- Before a character of the set and not after one. -/
  | wordStart (word : CharSet)
  | wordEnd (word : CharSet)
  /-- Not after a character of the set. -/
  | wordStartHalf (word : CharSet)
  /-- Not before a character of the set. -/
  | wordEndHalf (word : CharSet)
deriving DecidableEq, Repr

inductive Expr where
  | empty
  /-- One character of the set. -/
  | set (members : CharSet)
  | look (condition : Look)
  | seq (first second : Expr)
  | either (left right : Expr)
  /-- At least `least` times the body, at most `most` times if that is given. -/
  | repeated (body : Expr) (least : Nat) (most : Option Nat)
deriving Repr

/-- Whether a condition holds between two neighbours, absent at the ends of the text. -/
def Look.holds (condition : Look) (before after : Option Char) : Bool :=
  let inside (word : CharSet) (c : Option Char) := (c.map word.contains).getD false
  match condition with
  | .textStart => before.isNone
  | .textEnd => after.isNone
  | .lineStart => before.isNone || before == some '\n'
  | .lineEnd => after.isNone || after == some '\n'
  | .lineStartAny =>
    before.isNone || before == some '\n' || (before == some '\r' && after != some '\n')
  | .lineEndAny =>
    after.isNone || after == some '\r' || (after == some '\n' && before != some '\r')
  | .boundary word => inside word before != inside word after
  | .notBoundary word => inside word before == inside word after
  | .wordStart word => !inside word before && inside word after
  | .wordEnd word => inside word before && !inside word after
  | .wordStartHalf word => !inside word before
  | .wordEndHalf word => !inside word after

/-- The number whose bit `i` is the `i`-th truth value. -/
def bitmask (bits : List Bool) : Nat := bits.foldr (fun b n => 2 * n + b.toNat) 0

/-- The positions before a character of the set. -/
def charMask (members : CharSet) (text : List Char) : Nat := bitmask (text.map members.contains)

/-- The neighbours of every position from one on, given the character before it. -/
def neighbours (before : Option Char) : List Char → List (Option Char × Option Char)
  | [] => [(before, none)]
  | c :: rest => (before, some c) :: neighbours (some c) rest

/-- The positions where a condition holds. -/
def lookMask (condition : Look) (text : List Char) : Nat :=
  bitmask ((neighbours none text).map fun (before, after) => condition.holds before after)

/-- An expression whose sets and conditions are resolved to positions of one text. -/
inductive Motion where
  | stay
  /-- From the given positions to the next ones. -/
  | advance (mask : Nat)
  /-- Only at the given positions. -/
  | hold (mask : Nat)
  | seq (first second : Motion)
  | either (left right : Motion)
  | repeated (body : Motion) (least : Nat) (most : Option Nat)

/-- The motion of an expression on a text. -/
def Expr.on (text : List Char) : Expr → Motion
  | .empty => .stay
  | .set members => .advance (charMask members text)
  | .look condition => .hold (lookMask condition text)
  | .seq a b => .seq (a.on text) (b.on text)
  | .either a b => .either (a.on text) (b.on text)
  | .repeated body least most => .repeated (body.on text) least most

/-- `positions` moved `n` times; stops early where moving changes nothing more. -/
def moveTimes (move : Nat → Nat) : Nat → Nat → Nat
  | 0, positions => positions
  | n + 1, positions =>
    let next := move positions
    if next = positions then positions else moveTimes move n next

/-- The positions reached in at most `n` moves, given those reached and those reached last. -/
def reach (move : Nat → Nat) : Nat → Nat → Nat → Nat
  | 0, reached, _ => reached
  | n + 1, reached, latest =>
    let all := reached ||| move latest
    if all = reached then reached else reach move n all (all ^^^ reached)

/-- Where a motion leads. `length` is that of the text: a repetition that adds positions in each
round ends after one round for each of them. -/
def Motion.run (length : Nat) : Motion → Nat → Nat
  | .stay, positions => positions
  | .advance mask, positions => (positions &&& mask) <<< 1
  | .hold mask, positions => positions &&& mask
  | .seq a b, positions => b.run length (a.run length positions)
  | .either a b, positions => a.run length positions ||| b.run length positions
  | .repeated body least most, positions =>
    let start := moveTimes (body.run length) least positions
    let rounds := match most with
      | some most => min (most - least) (length + 1)
      | none => length + 1
    reach (body.run length) rounds start start

/-- Whether an expression matches somewhere in a text. -/
def Expr.matchesIn (e : Expr) (text : List Char) : Bool :=
  (e.on text).run text.length (1 <<< (text.length + 1) - 1) != 0

/-- The size of the expression when every repetition is written out, in bytes of a state machine
whose states hold one range each. -/
def Expr.cost : Expr → Nat
  | .empty => 32
  | .set members => 32 + 64 * (members.ranges.length - 1)
  | .look _ => 32
  | .seq a b => a.cost + b.cost
  | .either a b => a.cost + b.cost + 64
  | .repeated body least most => body.cost * max 1 (most.getD least) + 64

/-- The largest cost of an expression that may be used. -/
def maxCost : Nat := 0xA00000

end JsonSchema.Pattern
