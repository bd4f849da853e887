import JsonSchema.Json.Reader
import JsonSchema.Text.Encoding
import JsonSchema.Yaml.Spot

/-!
# Tags

A tag names the type of a node. It is written in full between angle brackets, or as a handle and
a suffix, where directives say what each handle stands for. Tags are bytes, because a suffix may
hold percent-encoded ones.
-/

namespace JsonSchema.Yaml

/-- A tag as it is written. -/
structure TagText where
  /-- Empty for a tag in full. -/
  handle : List Char
  suffix : List Nat
deriving DecidableEq, Repr

/-- What a tag says of a node. -/
inductive Tag where
  | bool
  | int
  | float
  | null
  /-- A tag of the document's own, which starts with an exclamation mark. -/
  | own (name : String)
  | other
deriving DecidableEq, Repr

/-- What handles stand for, the latest first. -/
abbrev Handles := List (List Char × List Nat)

namespace Handles

/-- The address that the standard tags start with. -/
def standardAddress : List Char := "tag:yaml.org,2002:".toList

/-- The handles of every document. -/
def standard : Handles := [(['!'], Utf8.encode ['!']), (['!', '!'], Utf8.encode standardAddress)]

end Handles

namespace Tag

/-- The name of a tag of the document's own, without a second exclamation mark. -/
def ownName (cs : List Char) : String :=
  match cs with
  | '!' :: c :: rest => String.ofList (c :: rest)
  | cs => String.ofList cs

/-- The tag that some bytes name. One of the document's own whose bytes are no text says
nothing. -/
def ofBytes? (bytes : List Nat) : Option Tag :=
  let cs := Utf8.decodeLossy bytes
  let standard (name : String) : Bool := cs == Handles.standardAddress ++ name.toList
  if Utf8.encode cs != bytes then
    if cs.head? = some '!' then none else some .other
  else if standard "bool" then some .bool
  else if standard "int" then some .int
  else if standard "float" then some .float
  else if standard "null" then some .null
  else match cs with
    | '!' :: name => some (.own (ownName name))
    | _ => some .other

/-- The bytes of a written tag, unless its handle stands for nothing. -/
def resolve? (handles : Handles) (tag : TagText) : Option (List Nat) :=
  if tag.handle.isEmpty then some tag.suffix
  else (handles.lookup tag.handle).map (· ++ tag.suffix)

end Tag

/-! ## Reading tags -/

namespace TagText

/-- A character of an address; `full` lets in commas and brackets too. -/
def isAddressCharacter (full : Bool) (c : Char) : Bool :=
  isWord c || ";/?:@&=+$.%!~*'()".toList.contains c || full && ",[]".toList.contains c

/-- How many bytes a character has that starts with a given one. -/
def width? (b : Nat) : Option Nat :=
  if b < 0x80 then some 1
  else if 0xC0 ≤ b ∧ b < 0xE0 then some 2
  else if 0xE0 ≤ b ∧ b < 0xF0 then some 3
  else if 0xF0 ≤ b ∧ b < 0xF8 then some 4
  else none

/-- A percent sign and two hexadecimal digits. -/
def triple? (ahead : Ahead) : Option (Nat × Ahead) := do
  if ahead.peek 0 ≠ '%' then none
  let high ← Json.Reader.hexValue? (ahead.peek 1)
  let low ← Json.Reader.hexValue? (ahead.peek 2)
  return (16 * high + low, ahead.skip 3)

/-- The bytes of so many triples that go on a character. -/
def continuation? : Nat → Ahead → Option (List Nat × Ahead)
  | 0, ahead => some ([], ahead)
  | n + 1, ahead => do
    let (b, rest) ← triple? ahead
    if !Utf8.isContinuation b then none
    let (bytes, rest) ← continuation? n rest
    return (b :: bytes, rest)

/-- The bytes of one character written in triples. -/
def encoded? (ahead : Ahead) : Option (List Nat × Ahead) := do
  let (lead, rest) ← triple? ahead
  let (bytes, rest) ← continuation? ((← width? lead) - 1) rest
  return (lead :: bytes, rest)

/-- The bytes of the address characters ahead. -/
def address? (full : Bool) : Nat → Ahead → Option (List Nat × Ahead)
  | 0, _ => none
  | fuel + 1, ahead =>
    let c := ahead.peek 0
    if !isAddressCharacter full c then some ([], ahead)
    else if c = '%' then
      (encoded? ahead).bind fun (bytes, rest) =>
        (address? full fuel rest).map fun (more, rest) => (bytes ++ more, rest)
    else (address? full fuel (ahead.skip 1)).map fun (more, rest) => (c.toNat :: more, rest)

/-- A handle: an exclamation mark, word characters, and a second mark if one follows. -/
def handle? (ahead : Ahead) : Option (List Char × Ahead) :=
  if ahead.peek 0 ≠ '!' then none
  else
    let (word, rest) := (ahead.skip 1).span isWord
    if rest.peek 0 = '!' then some ('!' :: word ++ ['!'], rest.skip 1) else some ('!' :: word, rest)

/-- Whether a handle has a mark at both ends. -/
def isClosed (handle : List Char) : Bool := handle.length > 1 && handle.getLast? = some '!'

/-- A tag in full, its opening `!<` ahead. -/
def inFull? (fuel : Nat) (ahead : Ahead) : Option (TagText × Ahead) := do
  let (suffix, rest) ← address? true fuel (ahead.skip 2)
  if suffix.isEmpty || rest.peek 0 ≠ '>' then none
  return (⟨[], suffix⟩, rest.skip 1)

/-- A tag as a handle and a suffix. Without a second mark the word belongs to the suffix, and the
handle is one mark; a lone mark is a tag in full. -/
def short? (fuel : Nat) (ahead : Ahead) : Option (TagText × Ahead) := do
  let (handle, rest) ← handle? ahead
  let (suffix, rest) ← address? false fuel rest
  if isClosed handle then
    if suffix.isEmpty then none
    return (⟨handle, suffix⟩, rest)
  else
    let suffix := Utf8.encode (handle.drop 1) ++ suffix
    return (if suffix.isEmpty then ⟨[], Utf8.encode ['!']⟩ else ⟨['!'], suffix⟩, rest)

/-- A tag, its exclamation mark ahead. White space has to follow, or a comma inside a flow
collection. -/
def read? (fuel : Nat) (inFlow : Bool) (ahead : Ahead) : Option (TagText × Ahead) := do
  let (tag, rest) ← if ahead.peek 1 = '<' then inFull? fuel ahead else short? fuel ahead
  if isGap (rest.peek 0) || inFlow && rest.peek 0 = ',' then some (tag, rest) else none

end TagText
end JsonSchema.Yaml
