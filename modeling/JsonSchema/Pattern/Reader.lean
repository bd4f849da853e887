import JsonSchema.Pattern.Classes

/-!
# Reading patterns

The pattern language has no look-around and no back-references. Reading is one pass from left to
right: flags that are in force decide at once what a character, a class or a condition means, and
they end with the group that set them. A text outside the language gives `none`.
-/

namespace JsonSchema.Pattern

/-- The switches of a pattern. -/
structure Flags where
  ignoreCase : Bool := false
  /-- `^` and `$` hold at the lines of the text. -/
  multiLine : Bool := false
  /-- `.` also matches a line feed. -/
  dotAll : Bool := false
  unicode : Bool := true
  /-- Blanks and comments between the parts of a pattern are skipped. -/
  extended : Bool := false
  /-- A carriage return also ends a line. -/
  crlf : Bool := false

/-- What is left of the pattern, the flags in force, and the group names so far. -/
structure ReadState where
  rest : List Char
  flags : Flags
  names : List (List Char)

abbrev Reading := StateT ReadState Option

/-- How deep groups, classes and repetitions may be nested. -/
def maxNesting : Nat := 250

/-- A part of a pattern with the depth of its nesting. -/
structure Piece where
  expr : Expr
  depth : Nat := 0
  /-- The part only sets flags, so nothing can be repeated. -/
  onlyFlags : Bool := false

namespace Reading

def fail {α : Type} : Reading α := fun _ => none

def peek? : Reading (Option Char) := fun s => some (s.rest.head?, s)

/-- The character after the next one. -/
def peekSecond? : Reading (Option Char) := fun s => some (s.rest[1]?, s)

def flags : Reading Flags := fun s => some (s.flags, s)

def setFlags (flags : Flags) : Reading Unit := fun s => some ((), { s with flags })

def bump : Reading Unit := fun s => some ((), { s with rest := s.rest.tail })

/-- The next character, which must be there. -/
def next : Reading Char := fun s =>
  match s.rest with
  | [] => none
  | c :: rest => some (c, { s with rest })

/-- Takes a given text if it comes next. -/
def take? (text : String) : Reading Bool := fun s =>
  if text.toList.isPrefixOf s.rest then some (true, { s with rest := s.rest.drop text.length })
  else some (false, s)

/-- Takes the first of some texts that comes next. -/
def takeAny? : List String → Reading Bool
  | [] => pure false
  | text :: rest => do if ← take? text then return true else takeAny? rest

/-- The list after blanks and comments; a comment runs from `#` through the end of its line. -/
def dropSpace (fuel : Nat) (cs : List Char) : List Char :=
  match fuel, cs with
  | fuel + 1, c :: rest =>
    if space.contains c then dropSpace fuel rest
    else if c = '#' then dropSpace fuel ((rest.dropWhile (· != '\n')).drop 1)
    else cs
  | _, cs => cs

/-- Skips blanks and comments where the flags say so. -/
def bumpSpace : Reading Unit := fun s =>
  if s.flags.extended then some ((), { s with rest := dropSpace (s.rest.length + 1) s.rest }) else some ((), s)

/-- Goes past a character and the blanks after it. -/
def bumpAndSpace : Reading Unit := do
  bump
  bumpSpace

/-- The next character after blanks and comments, behind the current one. -/
def peekPastSpace? : Reading (Option Char) := fun s =>
  let after := s.rest.tail
  let after := if s.flags.extended then dropSpace (after.length + 1) after else after
  some (after.head?, s)

/-- The characters while a condition holds, blanks skipped after each. -/
def takeWhile (p : Char → Bool) : Nat → Reading (List Char)
  | 0 => pure []
  | fuel + 1 => do
    match ← peek? with
    | some c =>
      if p c then
        bumpAndSpace
        return c :: (← takeWhile p fuel)
      else return []
    | none => return []

def remaining : Reading Nat := fun s => some (s.rest.length, s)

end Reading

open Reading

/-- Characters that stand for themselves after a backslash: the special ones and all other ASCII
characters but letters, digits and angle brackets. -/
def isEscapable (c : Char) : Bool :=
  c.toNat < 0x80 && !(c.isAlphanum || c = '<' || c = '>')

/-- The set with the other case of its letters, if the flags ask for it. -/
def Flags.fold (flags : Flags) (s : CharSet) : CharSet :=
  if !flags.ignoreCase then s
  else if flags.unicode then Unicode.caseClosure s
  else asciiCaseClosure s

/-- A finished class. Without Unicode it may not be complemented, because the complement would
hold parts of characters. -/
def closeSet (flags : Flags) (negated : Bool) (s : CharSet) : Reading CharSet :=
  if !negated then pure (flags.fold s)
  else if flags.unicode then pure (flags.fold s).complement
  else fail

/-- One character, in both cases if the flags say so. -/
def literal (c : Char) : Reading Expr := do
  let flags ← flags
  if flags.unicode || c.toNat < 0x80 then return .set (flags.fold (.single c))
  else return .set (.single c)

/-- A hexadecimal escape after its `x`, `u` or `U`: as many digits as the letter takes, or any
number of them between braces. Answers the character and whether braces were left out. -/
def hexEscape (digits : Nat) : Reading (Char × Bool) := do
  let isHex (c : Char) : Bool := c.isDigit || ('a' ≤ c && c ≤ 'f') || ('A' ≤ c && c ≤ 'F')
  bumpSpace
  let (text, bare) ← match ← peek? with
    | some '\x7b' => do
      bumpAndSpace
      let text ← Reading.takeWhile (· != '\x7d') (← remaining)
      if (← next) != '\x7d' then fail
      bumpSpace
      pure (text, false)
    | _ => pure (← fixed digits, true)
  if text.isEmpty || !text.all isHex then fail
  else
    let code := CharSet.hexNumber (text.map Char.toUpper)
    if h : code.isValidChar then return (Char.ofNatAux code h, bare) else fail
where
  fixed : Nat → Reading (List Char)
    | 0 => pure []
    | n + 1 => do
      let c ← next
      bumpSpace
      return c :: (← fixed n)

/-- A class after `\p` or `\P`: one letter, a name between braces, or a property and its value. -/
def propertyClass (negated : Bool) : Reading CharSet := do
  let flags ← flags
  if !flags.unicode then fail
  bumpSpace
  let (found, flipped) ← match ← peek? with
    | some '\x7b' => do
      bumpAndSpace
      let name ← Reading.takeWhile (· != '\x7d') (← remaining)
      if (← next) != '\x7d' then fail
      pure (named name)
    | some '\\' => fail
    | some c => do
      bumpAndSpace
      pure (classOfName? [c], false)
    | none => fail
  match found with
  | some s => closeSet flags (negated != flipped) s
  | none => fail
where
  /-- The class between braces and whether it says `!=`. -/
  named (name : List Char) : Option CharSet × Bool :=
    match splitAt ['!', '='] name with
    | some (property, value) => (classOfValue? property value, true)
    | none =>
      match splitAt [':'] name <|> splitAt ['='] name with
      | some (property, value) => (classOfValue? property value, false)
      | none => (classOfName? name, false)
  /-- The text before and after the first occurrence of a separator. -/
  splitAt (separator : List Char) : List Char → Option (List Char × List Char)
    | [] => none
    | c :: rest =>
      if separator.isPrefixOf (c :: rest) then some ([], (c :: rest).drop separator.length)
      else (splitAt separator rest).map fun (before, after) => (c :: before, after)

/-- The class of `\d`, `\s`, `\w` or of the upper-case letter, its complement. -/
def shorthand (letter : Char) : Reading CharSet := do
  let flags ← flags
  let base := match letter.toLower with
    | 'd' => if flags.unicode then digit else asciiDigit
    | 's' => if flags.unicode then space else asciiSpace
    | _ => if flags.unicode then word else asciiWord
  if letter.isUpper then
    if flags.unicode then return base.complement else fail
  else return base

/-- What an escape stands for. -/
inductive Escaped where
  /-- A character; `byte` tells whether it was written as the two digits of a byte. -/
  | char (c : Char) (byte : Bool)
  | set (members : CharSet)
  | look (condition : Look)

/-- A condition on a word boundary named between braces after `\b`; braces with anything but a
name are left for a repetition. -/
def namedBoundary (word : CharSet) : Reading Look := do
  let isName (c : Char) : Bool := c.isAlpha || c = '-'
  match ← peek? with
  | some '\x7b' =>
    match ← peekPastSpace? with
    | none => fail
    | some c =>
      if !isName c then return .boundary word
      bumpAndSpace
      let name ← Reading.takeWhile isName (← remaining)
      if (← next) != '\x7d' then fail
      match String.ofList name with
      | "start" => return .wordStart word
      | "end" => return .wordEnd word
      | "start-half" => return .wordStartHalf word
      | "end-half" => return .wordEndHalf word
      | _ => fail
  | _ => return .boundary word

/-- An escape after its backslash. -/
def escape : Reading Escaped := do
  let wordSet := if (← flags).unicode then word else asciiWord
  let c ← next
  match c with
  | 'x' =>
    let (c, bare) ← hexEscape 2
    return .char c bare
  | 'u' => return .char (← hexEscape 4).1 false
  | 'U' => return .char (← hexEscape 8).1 false
  | 'p' => return .set (← propertyClass false)
  | 'P' => return .set (← propertyClass true)
  | 'd' | 's' | 'w' | 'D' | 'S' | 'W' => return .set (← shorthand c)
  | 'a' => return .char '\x07' false
  | 'f' => return .char '\x0c' false
  | 't' => return .char '\t' false
  | 'n' => return .char '\n' false
  | 'r' => return .char '\r' false
  | 'v' => return .char '\x0b' false
  | 'A' => return .look .textStart
  | 'z' => return .look .textEnd
  | 'b' => return .look (← namedBoundary wordSet)
  | 'B' => return .look (.notBoundary wordSet)
  | '<' => return .look (.wordStart wordSet)
  | '>' => return .look (.wordEnd wordSet)
  | c => if isEscapable c then return .char c false else fail

/-! ## Classes between brackets -/

/-- Part of a class: its characters, its depth, and how many items it lists. -/
structure ClassPart where
  members : CharSet
  depth : Nat
  items : Nat

def ClassPart.nothing : ClassPart := ⟨.empty, 0, 0⟩

def ClassPart.add (part : ClassPart) (s : CharSet) (depth : Nat) : ClassPart :=
  ⟨part.members.union s, max part.depth depth, part.items + 1⟩

/-- The depth of a list of items, which is one level more than theirs if there are several. -/
def ClassPart.listDepth (part : ClassPart) : Nat := if part.items ≤ 1 then part.depth else part.depth + 1

inductive SetOperation where
  | intersection | difference | symmetricDifference

def SetOperation.apply : SetOperation → CharSet → CharSet → CharSet
  | .intersection, a, b => a.inter b
  | .difference, a, b => a.difference b
  | .symmetricDifference, a, b => a.symmetricDifference b

/-- An operation whose right side is still to come. -/
abbrev PendingOperation := Option (SetOperation × ClassPart)

/-- Both sides of an operation are taken without regard to case if the flags say so. -/
def finishOperation (flags : Flags) (pending : PendingOperation) (right : ClassPart) : ClassPart :=
  match pending with
  | none => ⟨right.members, right.listDepth, 1⟩
  | some (operation, left) =>
    ⟨operation.apply (flags.fold left.members) (flags.fold right.members),
      max left.depth right.listDepth + 1, 1⟩

/-- One item of a class that can start a range. -/
def classItem : Reading Escaped := do
  match ← next with
  | '\\' => escape
  | c => return .char c false

/-- The character of an item; without Unicode a class holds ASCII characters only. -/
def classChar (item : Escaped) : Reading Char := do
  match item with
  | .char c _ => if (← flags).unicode || c.toNat < 0x80 then return c else fail
  | _ => fail

/-- A single item or a range. -/
def classRange : Reading CharSet := do
  let first ← classItem
  bumpSpace
  match ← peek? with
  | none => fail
  | some c =>
    let after ← peekPastSpace?
    if c != '-' || after == some ']' || after == some '-' then
      match first with
      | .char _ _ => return .single (← classChar first)
      | .set s => return s
      | .look _ => fail
    else
      bumpAndSpace
      let low ← classChar first
      let high ← classChar (← classItem)
      if low ≤ high then return .range low high else fail

/-- A named ASCII class such as `[:alpha:]`, if one comes next. -/
def posix? : Reading (Option CharSet) := fun s =>
  match s.rest with
  | '[' :: ':' :: rest =>
    let (negated, rest) := match rest with
      | '^' :: rest => (true, rest)
      | rest => (false, rest)
    match rest.dropWhile (· != ':') with
    | ':' :: ']' :: after =>
      match posixClass? (String.ofList (rest.takeWhile (· != ':'))) with
      | some found =>
        (closeSet s.flags negated found { s with rest := after }).map fun (set, s) => (some set, s)
      | none => some (none, s)
    | _ => some (none, s)
  | _ => some (none, s)

/-- Literal hyphens at the start of a class. -/
def leadingHyphens : Nat → ClassPart → Reading ClassPart
  | 0, part => pure part
  | fuel + 1, part => do
    match ← peek? with
    | some '-' =>
      bumpAndSpace
      leadingHyphens fuel (part.add (.single '-') 0)
    | none => fail
    | _ => return part

/-- The opening of a class: whether it is complemented, and the literal hyphens and the literal
bracket that may come first. -/
def classOpening : Reading (Bool × ClassPart) := do
  bumpAndSpace
  let negated ← match ← peek? with
    | some '^' => do
      bumpAndSpace
      pure true
    | _ => pure false
  let part ← leadingHyphens ((← remaining) + 1) .nothing
  match ← peek? with
  | some ']' =>
    if part.items = 0 then
      bumpAndSpace
      if (← peek?).isNone then fail
      return (negated, part.add (.single ']') 0)
    else return (negated, part)
  | none => fail
  | _ => return (negated, part)

/-- The rest of a class after its opening, through its closing bracket. -/
def classTail : Nat → Bool → PendingOperation → ClassPart → Reading (CharSet × Nat)
  | 0, _, _, _ => fail
  | fuel + 1, negated, pending, part => do
    bumpSpace
    let operation? ← match ← peek?, ← peekSecond? with
      | some '&', some '&' => pure (some SetOperation.intersection)
      | some '-', some '-' => pure (some SetOperation.difference)
      | some '~', some '~' => pure (some SetOperation.symmetricDifference)
      | _, _ => pure none
    match operation? with
    | some operation =>
      bump
      bump
      classTail fuel negated (some (operation, finishOperation (← flags) pending part)) .nothing
    | none =>
      match ← peek? with
      | none => fail
      | some ']' =>
        bump
        let whole := finishOperation (← flags) pending part
        return (← closeSet (← flags) negated whole.members, whole.depth + 1)
      | some '[' =>
        match ← posix? with
        | some s => classTail fuel negated pending (part.add s 0)
        | none =>
          let (innerNegated, opening) ← classOpening
          let (s, depth) ← classTail fuel innerNegated none opening
          classTail fuel negated pending (part.add s depth)
      | some _ =>
        let s ← classRange
        classTail fuel negated pending (part.add s 0)

/-- A class from its opening bracket on. -/
def bracketed : Reading Piece := do
  let (negated, opening) ← classOpening
  let (s, depth) ← classTail ((← remaining) + 1) negated none opening
  return { expr := .set s, depth }

/-! ## Repetitions -/

/-- Drops a question mark, which only asks for the shortest match. -/
def lazyMark : Reading Unit := do
  if (← peek?) == some '?' then bump

/-- A decimal number with blanks around it; it fits in 32 bits. -/
def decimal? : Reading (Option Nat) := do
  skipBlanks (← remaining)
  let ds ← Reading.takeWhile Char.isDigit (← remaining)
  skipBlanks (← remaining)
  if ds.isEmpty then return none
  else
    let n := ds.foldl (fun n c => 10 * n + (c.toNat - '0'.toNat)) 0
    if n < 0x100000000 then return some n else fail
where
  skipBlanks : Nat → Reading Unit
    | 0 => pure ()
    | fuel + 1 => do
      match ← peek? with
      | some c =>
        if space.contains c then
          bump
          skipBlanks fuel
      | none => pure ()

/-- The bounds of a counted repetition after its opening brace. -/
def counts : Reading (Nat × Option Nat) := do
  bumpSpace
  let least ← decimal?
  let bounds ← match ← peek?, least with
    | some ',', some least => do
      bumpAndSpace
      match ← peek? with
      | some '\x7d' => pure (least, none)
      | _ =>
        match ← decimal? with
        | some most => if least ≤ most then pure (least, some most) else fail
        | none => fail
    | some _, some least => pure (least, some least)
    | _, _ => fail
  if (← next) != '\x7d' then fail
  bumpSpace
  lazyMark
  return bounds

/-- The last piece repeated; there must be one that can be. -/
def repeatLast (pieces : List Piece) (least : Nat) (most : Option Nat) : Reading (List Piece) :=
  match pieces.getLast? with
  | some piece =>
    if piece.onlyFlags then fail
    else pure (pieces.dropLast ++ [{ expr := .repeated piece.expr least most, depth := piece.depth + 1 }])
  | none => fail

/-! ## Groups -/

/-- The flag of a letter set to a value. -/
def Flags.set? (flags : Flags) (letter : Char) (value : Bool) : Option Flags :=
  match letter with
  | 'i' => some { flags with ignoreCase := value }
  | 'm' => some { flags with multiLine := value }
  | 's' => some { flags with dotAll := value }
  | 'U' => some flags
  | 'u' => some { flags with unicode := value }
  | 'R' => some { flags with crlf := value }
  | 'x' => some { flags with extended := value }
  | _ => none

/-- Flag letters through the colon or the closing parenthesis: the new flags, the character at
the end, and whether there was any item. A letter may occur once, and so may the minus sign,
which must be followed by a letter. -/
def flagItems : Nat → Flags → List Char → Reading (Flags × Char × Bool)
  | 0, _, _ => fail
  | fuel + 1, flags, seen => do
    let c ← next
    if c = ':' ∨ c = ')' then
      if seen.head? == some '-' then fail else return (flags, c, !seen.isEmpty)
    else if seen.contains c then fail
    else if c = '-' then flagItems fuel flags (c :: seen)
    else
      match flags.set? c (!seen.contains '-') with
      | some flags => flagItems fuel flags (c :: seen)
      | none => fail

/-- Characters a group name may start with. -/
def isNameStart (c : Char) : Bool := c = '_' || ((Unicode.property? "alphabetic").getD .empty).contains c

/-- Characters a group name may hold after its first. -/
def isNamePart (c : Char) : Bool :=
  isNameStart c || c = '.' || c = '[' || c = ']' || (Unicode.categoryGroup 'N').contains c

/-- A group name through its closing angle bracket, not used before. -/
def groupName : Reading Unit := fun s =>
  let name := s.rest.takeWhile (· != '>')
  let after := s.rest.drop name.length
  match name, after with
  | first :: more, _ :: rest =>
    if isNameStart first && more.all isNamePart && !s.names.contains name then
      some ((), { s with rest, names := name :: s.names })
    else none
  | _, _ => none

/-- What an opening parenthesis begins. -/
inductive GroupHead where
  /-- A group; the flags inside it are in force. -/
  | group
  /-- Flags for the rest of the enclosing group. -/
  | flags

/-- The beginning of a group after its parenthesis. -/
def groupHead : Reading GroupHead := do
  bumpSpace
  if ← takeAny? ["?=", "?!", "?<=", "?<!"] then fail
  if ← takeAny? ["?P<", "?<"] then
    groupName
    return .group
  if ← take? "?" then
    let (flags, last, nonempty) ← flagItems ((← remaining) + 1) (← flags) []
    setFlags flags
    if last = ')' then
      if nonempty then return .flags else fail
    else return .group
  else return .group

/-- The pieces one after another. -/
def sequence (pieces : List Piece) : Piece :=
  match pieces with
  | [] => { expr := .empty }
  | [piece] => { piece with onlyFlags := false }
  | first :: rest =>
    { expr := rest.foldl (fun e piece => .seq e piece.expr) first.expr
      depth := (pieces.map (·.depth)).foldl max 0 + 1 }

/-- The alternatives. -/
def alternatives (branches : List Piece) : Piece :=
  match branches with
  | [] => { expr := .empty }
  | [branch] => branch
  | first :: rest =>
    { expr := rest.foldl (fun e piece => .either e piece.expr) first.expr
      depth := (branches.map (·.depth)).foldl max 0 + 1 }

/-- A dot: any character but the ends of lines, or any at all. -/
def dot : Reading Expr := do
  let flags ← flags
  if !flags.unicode then fail
  else if flags.dotAll then return .set .all
  else if flags.crlf then return .set (CharSet.ofTable "A D").complement
  else return .set (CharSet.ofTable "A").complement

def lineLook (start : Bool) : Reading Expr := do
  let flags ← flags
  return .look <|
    match flags.multiLine, flags.crlf, start with
    | false, _, true => .textStart
    | false, _, false => .textEnd
    | true, false, true => .lineStart
    | true, false, false => .lineEnd
    | true, true, true => .lineStartAny
    | true, true, false => .lineEndAny

/-- An escape outside a class. -/
def escapeExpr : Reading Expr := do
  match ← escape with
  | .char c byte =>
    if !(← flags).unicode && byte && 0x80 ≤ c.toNat then fail else literal c
  | .set s => return .set s
  | .look condition => return .look condition

/-- Alternatives up to the end of the pattern or an unmatched closing parenthesis, which stays. -/
def body : Nat → List Piece → List Piece → Reading Piece
  | 0, _, _ => fail
  | fuel + 1, branches, pieces => do
    bumpSpace
    match ← peek? with
    | none | some ')' => return alternatives (branches ++ [sequence pieces])
    | some c =>
      match c with
      | '|' =>
        bump
        body fuel (branches ++ [sequence pieces]) []
      | '(' =>
        bump
        let outer ← flags
        match ← groupHead with
        | .flags => body fuel branches (pieces ++ [{ expr := .empty, onlyFlags := true }])
        | .group =>
          let inner ← body fuel [] []
          if (← next) != ')' then fail
          setFlags outer
          body fuel branches (pieces ++ [{ inner with depth := inner.depth + 1 }])
      | '[' => body fuel branches (pieces ++ [← bracketed])
      | '?' =>
        bump
        lazyMark
        body fuel branches (← repeatLast pieces 0 (some 1))
      | '*' =>
        bump
        lazyMark
        body fuel branches (← repeatLast pieces 0 none)
      | '+' =>
        bump
        lazyMark
        body fuel branches (← repeatLast pieces 1 none)
      | '\x7b' =>
        bump
        let (least, most) ← counts
        body fuel branches (← repeatLast pieces least most)
      | '\\' =>
        bump
        body fuel branches (pieces ++ [{ expr := ← escapeExpr }])
      | '.' =>
        bump
        body fuel branches (pieces ++ [{ expr := ← dot }])
      | '^' =>
        bump
        body fuel branches (pieces ++ [{ expr := ← lineLook true }])
      | '$' =>
        bump
        body fuel branches (pieces ++ [{ expr := ← lineLook false }])
      | c =>
        bump
        body fuel branches (pieces ++ [{ expr := ← literal c }])

/-- The expression of a pattern text. -/
def read? (text : String) : Option Expr := do
  let cs := text.toList
  let (piece, rest) ← body (cs.length + 1) [] [] ⟨cs, {}, []⟩
  if rest.rest.isEmpty ∧ piece.depth ≤ maxNesting then some piece.expr else none

end JsonSchema.Pattern

namespace JsonSchema

/-- A pattern: its text and the expression it stands for. -/
structure Regex where
  source : String
  expr : Pattern.Expr

namespace Regex

/-- Why a text is no pattern. -/
inductive Fault where
  /-- The text is not in the pattern language. -/
  | malformed
  /-- The expression is too large to be used. -/
  | tooLarge
deriving DecidableEq, Repr

/-- What a message says of a fault; of a malformed text it says no more. -/
def Fault.note : Fault → String
  | .malformed => ""
  | .tooLarge => s!": Compiled regex exceeds size limit of {Pattern.maxCost} bytes."

/-- The pattern of a text in the pattern language. -/
def compile (source : String) : Except Fault Regex :=
  match Pattern.read? source with
  | none => .error .malformed
  | some expr => if expr.cost ≤ Pattern.maxCost then .ok ⟨source, expr⟩ else .error .tooLarge

/-- Whether the pattern matches somewhere in a text. -/
def matchesIn (regex : Regex) (text : String) : Bool := regex.expr.matchesIn text.toList

end Regex
end JsonSchema
