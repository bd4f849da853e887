import JsonSchema.Yaml.Scalar
import JsonSchema.Yaml.Tag

/-!
# Tokens

Reading a text into tokens settles its layout: indentation becomes tokens for the start and the
end of blocks, and a colon after a node on one line makes that node a key. A node that may still
turn out to be a key is remembered as a candidate, one for every open flow collection and one for
the block around them.
-/

namespace JsonSchema.Yaml

inductive Token where
  | version (major minor : Nat)
  | handleAddress (handle : List Char) (address : List Nat)
  | documentStart
  | documentEnd
  | blockSequence
  | blockMapping
  | blockEnd
  | flowSequence
  | flowSequenceEnd
  | flowMapping
  | flowMappingEnd
  | blockEntry
  | flowEntry
  | key
  | value
  | alias (name : List Char)
  | anchor (name : List Char)
  | tag (text : TagText)
  | scalar (style : ScalarStyle) (text : List Char)
deriving DecidableEq, Repr

namespace Token

/-! ## Layout -/

/-- A node that is a key if a colon follows it. -/
structure Candidate where
  /-- The number of tokens before the node. -/
  position : Nat
  line : Nat
  column : Nat
  offset : Nat
  /-- Nothing but a key can stand here. -/
  required : Bool

/-- Where a reader of tokens stands. -/
structure Layout where
  /-- The tokens read, latest first. -/
  tokens : List Token
  /-- The number of tokens read. -/
  count : Nat
  /-- The column of the innermost block; `-1` outside every block. -/
  indent : Int
  /-- The columns of the blocks around it, innermost first. -/
  outer : List Int
  /-- The candidate in the innermost flow collection, or in the block if none is open. -/
  candidate : Option Candidate
  /-- The candidates around it, innermost first: one for each open flow collection. -/
  enclosing : List (Option Candidate)
  /-- Whether a key may start here. -/
  keyAllowed : Bool

namespace Layout

def start : Layout := ⟨[], 0, -1, [], none, [], true⟩

def inFlow (layout : Layout) : Bool := !layout.enclosing.isEmpty

def emit (layout : Layout) (token : Token) : Layout :=
  { layout with tokens := token :: layout.tokens, count := layout.count + 1 }

/-- Puts tokens before those from a position on. -/
def insertAt (layout : Layout) (position : Nat) (inserted : List Token) : Layout :=
  let later := layout.count - position
  { layout with
    tokens := layout.tokens.take later ++ inserted.reverse ++ layout.tokens.drop later
    count := layout.count + inserted.length }

/-- Opens a block at a column deeper than the innermost one: the block's token, if one is due. -/
def indentTo (layout : Layout) (column : Nat) (opening : Token) : Layout × List Token :=
  if !layout.inFlow && layout.indent < column then
    ({ layout with indent := column, outer := layout.indent :: layout.outer }, [opening])
  else (layout, [])

/-- Opens a block here. -/
def openBlock (layout : Layout) (column : Nat) (opening : Token) : Layout :=
  let (layout, opened) := layout.indentTo column opening
  opened.foldl emit layout

/-- Ends the blocks deeper than a column. -/
def closeBlocks (layout : Layout) (column : Int) : Layout :=
  if layout.inFlow then layout else go layout.outer layout
where
  go : List Int → Layout → Layout
    | [], layout => layout
    | around :: outer, layout =>
      if column < layout.indent then go outer { layout.emit .blockEnd with indent := around, outer }
      else layout

/-- Drops the candidate, unless it had to be a key. -/
def dropCandidate? (layout : Layout) : Option Layout :=
  if layout.candidate.any Candidate.required then none else some { layout with candidate := none }

/-- Makes the node that starts at a spot a candidate, where keys are allowed. -/
def propose? (layout : Layout) (spot : Spot) : Option Layout :=
  if !layout.keyAllowed then some layout
  else do
    let layout ← layout.dropCandidate?
    let required := !layout.inFlow && layout.indent == spot.column
    return { layout with candidate := some ⟨layout.count, spot.line, spot.column, spot.offset, required⟩ }

/-- A candidate as long as it can become a key: on its line, and not too far back. -/
def refresh? (spot : Spot) : Option Candidate → Option (Option Candidate)
  | none => some none
  | some candidate =>
    if candidate.line < spot.line || candidate.offset + 1024 < spot.offset then
      if candidate.required then none else some none
    else some (some candidate)

/-- Drops the candidates that can no longer become keys. -/
def refreshAll? (layout : Layout) (spot : Spot) : Option Layout := do
  return { layout with
    candidate := ← refresh? spot layout.candidate
    enclosing := ← layout.enclosing.mapM (refresh? spot) }

def allowKey (layout : Layout) (allowed : Bool) : Layout := { layout with keyAllowed := allowed }

/-- Enters a flow collection. -/
def enterFlow (layout : Layout) : Layout :=
  { layout with candidate := none, enclosing := layout.candidate :: layout.enclosing }

/-- Leaves the innermost flow collection, if one is open. -/
def leaveFlow (layout : Layout) : Layout :=
  match layout.enclosing with
  | [] => layout
  | around :: enclosing => { layout with candidate := around, enclosing }

end Layout

/-! ## White space between tokens -/

/-- Skips blanks, line ends and comments: whether a key may start after them, and what follows.
Tabs do not count as blanks where a key may start in a block. -/
def skipSpace (inFlow : Bool) : Bool → Bool → Ahead → Bool × Ahead
  | keyAllowed, _, [] => (keyAllowed, [])
  | keyAllowed, inComment, spot :: rest =>
    let c := spot.char
    if isBreak c then skipSpace inFlow (keyAllowed || !inFlow) false rest
    else if c = endMark then (keyAllowed, spot :: rest)
    else if inComment || c = '#' then skipSpace inFlow keyAllowed true rest
    else if c = ' ' || c = '\t' && (inFlow || !keyAllowed) || c = '\ufeff' && spot.column = 0 then
      skipSpace inFlow keyAllowed false rest
    else (keyAllowed, spot :: rest)

/-! ## Directives and names -/

/-- A number of a version: one to nine digits. -/
def versionNumber? (ahead : Ahead) : Option (Nat × Ahead) :=
  let (digits, rest) := ahead.span isDigit
  if digits.isEmpty || 9 < digits.length then none else some (Json.Reader.decimalValue digits, rest)

/-- A version after its blanks: two numbers with a point between them. -/
def version? (ahead : Ahead) : Option (Token × Ahead) := do
  let (major, rest) ← versionNumber? (ahead.span isBlank).2
  if rest.peek 0 ≠ '.' then none
  let (minor, rest) ← versionNumber? (rest.skip 1)
  return (.version major minor, rest)

/-- A handle and the address it stands for. -/
def handleToken? (fuel : Nat) (ahead : Ahead) : Option (Token × Ahead) := do
  let (sign, rest) ← TagText.handle? (ahead.span isBlank).2
  if sign ≠ ['!'] && !TagText.isClosed sign || !isBlank (rest.peek 0) then none
  let (address, rest) ← TagText.address? true fuel (rest.span isBlank).2
  if address.isEmpty || !isGap (rest.peek 0) then none
  return (.handleAddress sign address, rest)

/-- A directive, its percent sign ahead, up to the next line. -/
def directive? (fuel : Nat) (ahead : Ahead) : Option (Token × Ahead) := do
  let (name, rest) := (ahead.skip 1).span isWord
  if !isGap (rest.peek 0) then none
  let (token, rest) ← match String.ofList name with
    | "YAML" => version? rest
    | "TAG" => handleToken? fuel rest
    | _ => none
  return (token, ← rest.nextLine?)

/-- The name after the sign of an anchor or an alias. -/
def anchorName? (ahead : Ahead) : Option (List Char × Ahead) :=
  let (name, rest) := (ahead.skip 1).span isWord
  let next := rest.peek 0
  if name.isEmpty || !(isGap next || "?:,]\x7d%@`".toList.contains next) then none else some (name, rest)

/-! ## Reading tokens -/

namespace Layout

/-- A directive or a mark of a document's start or end closes all blocks. -/
def documentToken? (layout : Layout) (token : Token) : Option Layout := do
  return ((← (layout.closeBlocks (-1)).dropCandidate?).allowKey false).emit token

/-- The start of a flow collection. -/
def flowStart? (layout : Layout) (spot : Spot) (token : Token) : Option Layout := do
  return ((← layout.propose? spot).enterFlow.allowKey true).emit token

/-- The end of a flow collection. -/
def flowEnd? (layout : Layout) (token : Token) : Option Layout := do
  return ((← layout.dropCandidate?).leaveFlow.allowKey false).emit token

def flowEntry? (layout : Layout) : Option Layout := do
  return ((← layout.dropCandidate?).allowKey true).emit .flowEntry

def blockEntry? (layout : Layout) (spot : Spot) : Option Layout := do
  if !layout.inFlow && !layout.keyAllowed then none
  let layout ← (layout.openBlock spot.column .blockSequence).dropCandidate?
  return (layout.allowKey true).emit .blockEntry

def key? (layout : Layout) (spot : Spot) : Option Layout := do
  if !layout.inFlow && !layout.keyAllowed then none
  let layout ← (layout.openBlock spot.column .blockMapping).dropCandidate?
  return (layout.allowKey !layout.inFlow).emit .key

/-- A colon: the candidate becomes a key, or the value has no key on its line. -/
def value? (layout : Layout) (spot : Spot) : Option Layout :=
  match layout.candidate with
  | some candidate =>
    let (layout, opened) := layout.indentTo candidate.column .blockMapping
    let layout := layout.insertAt candidate.position (opened ++ [.key])
    some (({ layout with candidate := none }.allowKey false).emit .value)
  | none =>
    if !layout.inFlow && !layout.keyAllowed then none
    else
      let layout := layout.openBlock spot.column .blockMapping
      some ((layout.allowKey !layout.inFlow).emit .value)

/-- The start of a node that may be a key. -/
def node? (layout : Layout) (spot : Spot) (token : Token) : Option Layout := do
  return ((← layout.propose? spot).allowKey false).emit token

/-- A plain scalar; after a line end the next node may be a key. -/
def plain? (fuel : Nat) (layout : Layout) (spot : Spot) (ahead : Ahead) : Option (Layout × Ahead) := do
  let (text, broken, rest) ← Yaml.plain? fuel layout.inFlow (layout.indent + 1) ahead
  return ((← layout.node? spot (.scalar .plain text)).allowKey broken, rest)

/-- A block scalar; it ends with its line, so the next node may be a key. -/
def blockScalar? (fuel : Nat) (layout : Layout) (style : ScalarStyle) (ahead : Ahead) : Option (Layout × Ahead) := do
  let layout ← layout.dropCandidate?
  let (text, rest) ← Yaml.blockScalar? fuel (style == .folded) layout.indent ahead
  return ((layout.allowKey true).emit (.scalar style text), rest)

end Layout

/-- Whether a plain scalar may start here. -/
def startsPlain (inFlow : Bool) (ahead : Ahead) : Bool :=
  let c := ahead.peek 0
  let next := ahead.peek 1
  !(isGap c || "-?:,[]\x7b\x7d#&*!|>'\"%@`".toList.contains c)
    || c = '-' && !isBlank next
    || !inFlow && (c = '?' || c = ':') && !isGap next

/-- The token that starts at a spot, which is the next one ahead. -/
def read? (fuel : Nat) (layout : Layout) (spot : Spot) (ahead : Ahead) : Option (Layout × Ahead) :=
  let after (n : Nat) (layout : Option Layout) := layout.map fun layout => (layout, ahead.skip n)
  let c := spot.char
  let inFlow := layout.inFlow
  let isIndicator := inFlow || isGap (ahead.peek 1)
  if spot.column = 0 && c = '%' then do
    let (token, rest) ← directive? fuel ahead
    return (← layout.documentToken? token, rest)
  else if ahead.startsWithMark '-' then after 3 (layout.documentToken? .documentStart)
  else if ahead.startsWithMark '.' then after 3 (layout.documentToken? .documentEnd)
  else if c = '[' then after 1 (layout.flowStart? spot .flowSequence)
  else if c = '\x7b' then after 1 (layout.flowStart? spot .flowMapping)
  else if c = ']' then after 1 (layout.flowEnd? .flowSequenceEnd)
  else if c = '\x7d' then after 1 (layout.flowEnd? .flowMappingEnd)
  else if c = ',' then after 1 layout.flowEntry?
  else if c = '-' && isGap (ahead.peek 1) then after 1 (layout.blockEntry? spot)
  else if c = '?' && isIndicator then after 1 (layout.key? spot)
  else if c = ':' && isIndicator then after 1 (layout.value? spot)
  else if c = '*' then do
    let (name, rest) ← anchorName? ahead
    return (← layout.node? spot (.alias name), rest)
  else if c = '&' then do
    let (name, rest) ← anchorName? ahead
    return (← layout.node? spot (.anchor name), rest)
  else if c = '!' then do
    let (text, rest) ← TagText.read? fuel inFlow ahead
    return (← layout.node? spot (.tag text), rest)
  else if c = '|' && !inFlow then layout.blockScalar? fuel .literal ahead
  else if c = '>' && !inFlow then layout.blockScalar? fuel .folded ahead
  else if c = '\x27' then do
    let (text, rest) ← singleQuoted? fuel ahead
    return (← layout.node? spot (.scalar .singleQuoted text), rest)
  else if c = '"' then do
    let (text, rest) ← doubleQuoted? fuel ahead
    return (← layout.node? spot (.scalar .doubleQuoted text), rest)
  else if startsPlain inFlow ahead then layout.plain? fuel spot ahead
  else none

/-- The tokens of the text ahead. -/
def readAll? : Nat → Layout → Ahead → Option (List Token)
  | 0, _, _ => none
  | fuel + 1, layout, ahead =>
    let (keyAllowed, ahead) := skipSpace layout.inFlow layout.keyAllowed false ahead
    match ahead with
    | [] => none
    | spot :: _ => do
      let layout ← (layout.allowKey keyAllowed).refreshAll? spot
      let layout := layout.closeBlocks spot.column
      if spot.char = endMark then
        return (← (layout.closeBlocks (-1)).dropCandidate?).tokens.reverse
      else
        let (layout, rest) ← read? (fuel + 1) layout spot ahead
        readAll? fuel layout rest

/-- The tokens of a text. -/
def ofText? (text : String) : Option (List Token) := do
  let spots ← Spot.ofText? text
  readAll? (spots.length + 1) .start spots

end Token
end JsonSchema.Yaml
