/-!
# Characters and where they stand

A text is read as a list of characters, each with its line, its column and its offset. Every kind
of line end counts as one line feed, except the line and the paragraph separator, which stay as
they are. The list ends with a NUL, which no text may contain.
-/

namespace JsonSchema.Yaml

/-- A character and where it stands; an offset counts characters from the start of the text. -/
structure Spot where
  char : Char
  line : Nat
  column : Nat
  offset : Nat

/-- The character that stands after the last one of a text. -/
def endMark : Char := '\x00'

def isBlank (c : Char) : Bool := c = ' ' || c = '\t'

/-- A line end, as spots show it. -/
def isBreak (c : Char) : Bool := c = '\n' || c = '\u2028' || c = '\u2029'

/-- White space: a blank or a line end. -/
def isSpace (c : Char) : Bool := isBlank c || isBreak c

/-- A line end or the end of the text. -/
def isLineEnd (c : Char) : Bool := isBreak c || c = endMark

/-- White space or the end of the text. -/
def isGap (c : Char) : Bool := isBlank c || isLineEnd c

def isDigit (c : Char) : Bool := '0' ≤ c && c ≤ '9'

/-- A character of names: a letter, a digit, an underscore or a hyphen. -/
def isWord (c : Char) : Bool := c.isAlphanum || c = '_' || c = '-'

/-- Whether a text may hold a character: all but controls other than tabs and line ends, and the
two code points at the end of the first plane. -/
def isPermitted (c : Char) : Bool :=
  let n := c.toNat
  n = 0x09 || n = 0x0A || n = 0x0D || (0x20 ≤ n && n ≤ 0x7E) || n = 0x85 || (0xA0 ≤ n && n ≤ 0xFFFD) || 0x10000 ≤ n

namespace Spot

/-- The spots of a text that goes on at a line, a column and an offset. -/
def place (line column offset : Nat) : List Char → List Spot
  | [] => [⟨endMark, line, column, offset⟩]
  | '\r' :: '\n' :: rest => ⟨'\n', line, column, offset⟩ :: place (line + 1) 0 (offset + 2) rest
  | c :: rest =>
    let c := if c = '\r' || c = '\u0085' then '\n' else c
    ⟨c, line, column, offset⟩ ::
      (if isBreak c then place (line + 1) 0 (offset + 1) rest else place line (column + 1) (offset + 1) rest)

/-- The spots of a text, unless it holds a character that it may not. -/
def ofText? (text : String) : Option (List Spot) :=
  let cs := text.toList
  if cs.all isPermitted then some (place 0 0 0 cs) else none

end Spot

/-- The text ahead of a reader. -/
abbrev Ahead := List Spot

namespace Ahead

/-- The character `n` places ahead. -/
def peek (ahead : Ahead) (n : Nat) : Char := (ahead[n]?.map Spot.char).getD endMark

/-- The text ahead without its first `n` characters. -/
def skip (ahead : Ahead) (n : Nat) : Ahead := ahead.drop n

/-- The column of the next character. -/
def column (ahead : Ahead) : Nat := (ahead.head?.map Spot.column).getD 0

/-- The characters that satisfy a condition, up to the first that does not, and what follows. -/
def span (ahead : Ahead) (p : Char → Bool) : List Char × Ahead :=
  ((ahead.takeWhile fun spot => p spot.char).map Spot.char, ahead.dropWhile fun spot => p spot.char)

/-- Whether a line starts here with three given characters and then a gap. -/
def startsWithMark (ahead : Ahead) (c : Char) : Bool :=
  ahead.column == 0 && (ahead.take 3).map Spot.char == [c, c, c] && isGap (ahead.peek 3)

/-- Whether a mark of a document's start or end stands here. -/
def atDocumentMark (ahead : Ahead) : Bool := ahead.startsWithMark '-' || ahead.startsWithMark '.'

/-- The rest after blanks, a comment and the end of the line; nothing else may be left of it. -/
def nextLine? (ahead : Ahead) : Option Ahead :=
  let ahead := (ahead.span isBlank).2
  let ahead := if ahead.peek 0 = '#' then (ahead.span fun c => !isLineEnd c).2 else ahead
  if isBreak (ahead.peek 0) then some (ahead.skip 1)
  else if ahead.peek 0 = endMark then some ahead
  else none

end Ahead
end JsonSchema.Yaml
