import JsonSchema.Yaml.Node
import JsonSchema.Yaml.Token

/-!
# Documents from tokens

A text holds one document at most. Where the grammar lets a node be left out, an empty plain
scalar stands in its place. Readers take tokens from the front and fail where the tokens do not
fit.
-/

namespace JsonSchema.Yaml

namespace Grammar

/-- Where a reader of nodes stands. -/
structure Reading where
  tokens : List Token
  /-- The slots of the anchors met so far. -/
  anchors : List (List Char × Nat)
  handles : Handles

abbrev Reader := StateT Reading Option

/-- The next token. -/
def next : Reader (Option Token) := return (← get).tokens.head?

def advance : Reader Unit := modify fun reading => { reading with tokens := reading.tokens.tail }

/-- Takes a given token. -/
def take (token : Token) : Reader Unit := do
  if (← next) = some token then advance else failure

/-! ## Anchors and tags -/

/-- Gives an anchor a slot: the number of names known before. A name that is known already gets a
new slot, which a later new name then shares. -/
def declare (name : List Char) : Reader Nat := do
  let reading ← get
  let slot := reading.anchors.length
  set { reading with anchors := (name, slot) :: reading.anchors.filter fun anchor => anchor.1 ≠ name }
  return slot

/-- The slot that an alias stands for. -/
def slotOf (name : List Char) : Reader Nat := do
  match (← get).anchors.lookup name with
  | some slot => return slot
  | none => failure

/-- The tag of a written one. -/
def tagOf (text : TagText) : Reader (Option Tag) := do
  match Tag.resolve? (← get).handles text with
  | some bytes => return Tag.ofBytes? bytes
  | none => failure

/-- What may stand before a node. -/
structure Properties where
  anchor : Option Nat
  tag : Option Tag
  /-- Whether an anchor or a tag is there at all. -/
  given : Bool

/-- An anchor and a tag in either order, or one of them, or nothing. -/
def properties : Reader Properties := do
  match ← next with
  | some (.anchor name) =>
    advance
    let slot ← declare name
    match ← next with
    | some (.tag text) =>
      advance
      return ⟨some slot, ← tagOf text, true⟩
    | _ => return ⟨some slot, none, true⟩
  | some (.tag text) =>
    advance
    let tag ← tagOf text
    match ← next with
    | some (.anchor name) =>
      advance
      return ⟨some (← declare name), tag, true⟩
    | _ => return ⟨none, tag, true⟩
  | _ => return ⟨none, none, false⟩

/-! ## Nodes -/

/-- An empty node if one of some tokens is next, else the node that a reader takes. -/
def nodeUnless (ending : List Token) (reader : Reader Node) : Reader Node := do
  match ← next with
  | some token => if ending.contains token then return .empty else reader
  | none => reader

/-- A value after its colon, or an empty node. -/
def valueUnless (ending : List Token) (reader : Reader Node) : Reader Node := do
  if (← next) = some .value then
    advance
    nodeUnless ending reader
  else return .empty

mutual

/-- A node. In a block it may be a block collection; the entries of a sequence may stand right
here in a mapping's key or value. -/
def node (fuel : Nat) (inBlock entriesHere : Bool) : Reader Node :=
  match fuel with
  | 0 => failure
  | fuel + 1 => do
    if let some (.alias name) ← next then
      advance
      return .alias (← slotOf name)
    let p ← properties
    match ← next, inBlock with
    | some (.scalar style text), _ =>
      advance
      return .scalar p.anchor ⟨p.tag, style, String.ofList text⟩
    | some .flowSequence, _ =>
      advance
      return .sequence p.anchor p.tag (← flowItems fuel true)
    | some .flowMapping, _ =>
      advance
      return .mapping p.anchor p.tag (← flowEntries fuel true)
    | some .blockSequence, true =>
      advance
      return .sequence p.anchor p.tag (← blockItems fuel)
    | some .blockMapping, true =>
      advance
      return .mapping p.anchor p.tag (← blockEntries fuel)
    | token, _ =>
      if token = some .blockEntry && entriesHere then
        return .sequence p.anchor p.tag (← bareItems fuel)
      else if p.given then return .scalar p.anchor { Scalar.empty with tag := p.tag }
      else failure

/-- The items of a block sequence up to its end. -/
def blockItems (fuel : Nat) : Reader (List Node) :=
  match fuel with
  | 0 => failure
  | fuel + 1 => do
    if (← next) = some .blockEnd then
      advance
      return []
    take .blockEntry
    let item ← nodeUnless [.blockEntry, .blockEnd] (node fuel true false)
    return item :: (← blockItems fuel)

/-- The items of a sequence that has no block of its own. -/
def bareItems (fuel : Nat) : Reader (List Node) :=
  match fuel with
  | 0 => failure
  | fuel + 1 => do
    if (← next) ≠ some .blockEntry then return []
    advance
    let item ← nodeUnless [.blockEntry, .key, .value, .blockEnd] (node fuel true false)
    return item :: (← bareItems fuel)

/-- The entries of a block mapping up to its end. -/
def blockEntries (fuel : Nat) : Reader (List (Node × Node)) :=
  match fuel with
  | 0 => failure
  | fuel + 1 => do
    if (← next) = some .blockEnd then
      advance
      return []
    take .key
    let key ← nodeUnless [.key, .value, .blockEnd] (node fuel true true)
    let value ← valueUnless [.key, .value, .blockEnd] (node fuel true true)
    return (key, value) :: (← blockEntries fuel)

/-- The items of a flow sequence up to its end. A key makes an item a mapping of one entry. -/
def flowItems (fuel : Nat) (first : Bool) : Reader (List Node) :=
  match fuel with
  | 0 => failure
  | fuel + 1 => do
    if !first && (← next) ≠ some .flowSequenceEnd then take .flowEntry
    match ← next with
    | some .flowSequenceEnd =>
      advance
      return []
    | some .key =>
      advance
      let entry ← pair fuel
      return .mapping none none [entry] :: (← flowItems fuel false)
    | _ =>
      let item ← node fuel false false
      return item :: (← flowItems fuel false)

/-- A key and its value in a flow sequence. A key that is left out takes one token along. -/
def pair (fuel : Nat) : Reader (Node × Node) :=
  match fuel with
  | 0 => failure
  | fuel + 1 => do
    let key ← match ← next with
      | some .value | some .flowEntry | some .flowSequenceEnd =>
        advance
        pure Node.empty
      | _ => node fuel false false
    let value ← valueUnless [.flowEntry, .flowSequenceEnd] (node fuel false false)
    return (key, value)

/-- The entries of a flow mapping up to its end. A node without a key's mark has no value. -/
def flowEntries (fuel : Nat) (first : Bool) : Reader (List (Node × Node)) :=
  match fuel with
  | 0 => failure
  | fuel + 1 => do
    if !first && (← next) ≠ some .flowMappingEnd then take .flowEntry
    match ← next with
    | some .flowMappingEnd =>
      advance
      return []
    | some .key =>
      advance
      let key ← nodeUnless [.value, .flowEntry, .flowMappingEnd] (node fuel false false)
      let value ← valueUnless [.flowEntry, .flowMappingEnd] (node fuel false false)
      return (key, value) :: (← flowEntries fuel false)
    | _ =>
      let key ← node fuel false false
      return (key, .empty) :: (← flowEntries fuel false)

end

/-! ## Documents -/

/-- The directives before a document: one version at most, and no handle twice. -/
def directives (versioned : Bool) (handles : Handles) : List Token → Option (Handles × List Token)
  | .version major minor :: rest =>
    if versioned || major ≠ 1 || !(minor = 1 || minor = 2) then none
    else directives true handles rest
  | .handleAddress handle address :: rest =>
    if (handles.lookup handle).isSome then none
    else directives versioned ((handle, address) :: handles) rest
  | tokens => some (handles, tokens)

/-- Whether a document's content is left out before a token. -/
def endsDocument : Option Token → Bool
  | some (.version ..) | some (.handleAddress ..) | some .documentStart | some .documentEnd | none => true
  | _ => false

/-- The first document: after directives and its start mark, or without them. -/
def document (fuel : Nat) : Reader Node := do
  let reading ← get
  match reading.tokens.head? with
  | some (.version ..) | some (.handleAddress ..) | some .documentStart =>
    match directives false [] reading.tokens with
    | some (handles, .documentStart :: tokens) =>
      set { reading with tokens, handles := handles ++ Handles.standard }
      if endsDocument (← next) then return .empty else node fuel true false
    | _ => failure
  | _ => node fuel true false

end Grammar

/-- The document of some tokens, an empty one if there are none. Only marks of its end may
follow. -/
def Node.ofTokens? (tokens : List Token) : Option Node :=
  if tokens.isEmpty then some .empty
  else
    match (Grammar.document (tokens.length + 1)).run ⟨tokens, [], .standard⟩ with
    | some (node, reading) => if reading.tokens.all (· = .documentEnd) then some node else none
    | none => none

/-- The tree of a text. -/
def Tree.ofText? (text : String) : Option Tree := do
  (← Node.ofTokens? (← Token.ofText? text)).toTree?

end JsonSchema.Yaml
