import JsonSchema.Json.Basic
import JsonSchema.Text.CharSet
import JsonSchema.Text.Encoding

/-!
# JSON pointers

A pointer is the list of names and positions on the way from a document's root to a value. Its
text starts with `#` and puts `/` before each segment; inside a segment `~` is written `~0` and
`/` is written `~1`. Reading accepts the text with or without the leading `#`.
-/

namespace JsonSchema

/-- A location inside a JSON document, outermost segment first. -/
structure Pointer where
  segments : List String
deriving DecidableEq, Repr

namespace Pointer

/-- Why a text is no pointer. -/
inductive Fault where
  /-- The text is not empty and does not start with a slash. -/
  | noSlash (text : String)
  /-- A tilde is followed by neither `0` nor `1`. -/
  | danglingTilde (text segment : String)
deriving DecidableEq, Repr

def Fault.message : Fault → String
  | .noSlash text => s!"invalid JSON pointer {Quoted.quote text}: must be empty or start with '/'"
  | .danglingTilde text segment =>
    s!"invalid JSON pointer {Quoted.quote text}: dangling '~' in segment {Quoted.quote segment}"

def root : Pointer := ⟨[]⟩

instance : Inhabited Pointer := ⟨root⟩

def isRoot (p : Pointer) : Bool := p.segments.isEmpty

/-- The pointer to a child. -/
def join (p : Pointer) (segment : String) : Pointer := ⟨p.segments ++ [segment]⟩

/-- The pointer to an array item. -/
def item (p : Pointer) (index : Nat) : Pointer := p.join (toString index)

/-- The pointer to a descendant. -/
def joinAll (p : Pointer) (segments : List String) : Pointer := ⟨p.segments ++ segments⟩

/-- The pointer one level up. -/
def parent? (p : Pointer) : Option Pointer := if p.isRoot then none else some ⟨p.segments.dropLast⟩

def last? (p : Pointer) : Option String := p.segments.getLast?

/-- A segment as it is written. -/
def escape : List Char → List Char
  | [] => []
  | '~' :: rest => '~' :: '0' :: escape rest
  | '/' :: rest => '~' :: '1' :: escape rest
  | c :: rest => c :: escape rest

/-- The segment that a written one stands for, unless it has a dangling tilde. -/
def unescape? : List Char → Option (List Char)
  | [] => some []
  | '~' :: '0' :: rest => (unescape? rest).map ('~' :: ·)
  | '~' :: '1' :: rest => (unescape? rest).map ('/' :: ·)
  | '~' :: _ => none
  | c :: rest => (unescape? rest).map (c :: ·)

/-- The written segments, each after a slash. -/
def pathChars (p : Pointer) : List Char := p.segments.flatMap fun segment => '/' :: escape segment.toList

/-- The text without the leading `#`. -/
def path (p : Pointer) : String := String.ofList p.pathChars

/-- The text with the leading `#`. -/
def text (p : Pointer) : String := String.ofList ('#' :: p.pathChars)

/-- The segments of written ones; the first dangling tilde is the fault. -/
def readSegments (text : String) : List (List Char) → Except Fault (List String)
  | [] => .ok []
  | piece :: rest =>
    match unescape? piece with
    | none => .error (.danglingTilde text (String.ofList piece))
    | some segment => (readSegments text rest).map (String.ofList segment :: ·)

/-- The pointer of a text, which may start with one `#`. -/
def parse (text : String) : Except Fault Pointer :=
  let body := match text.toList with
    | '#' :: rest => rest
    | cs => cs
  match body with
  | [] => .ok root
  | '/' :: rest => (readSegments text (Text.splitOn '/' rest)).map Pointer.mk
  | _ => .error (.noSlash text)

/-- The pointer of a percent-encoded fragment, given without its `#`. -/
def ofFragment (fragment : String) : Except Fault Pointer := parse (Percent.decode fragment)

/-- An array position: decimal digits, after an optional plus sign, of a 64-bit word. -/
def readIndex? (segment : String) : Option Nat :=
  let ds := match segment.toList with
    | '+' :: rest => rest
    | cs => cs
  if ds.isEmpty || ds.any (fun c => c < '0' || '9' < c) then none
  else
    let n := ds.foldl (fun n c => 10 * n + (c.toNat - '0'.toNat)) 0
    if n < 0x10000000000000000 then some n else none

/-- An array position without superfluous leading zeros. -/
def strictIndex? (segment : String) : Option Nat :=
  match segment.toList with
  | '0' :: _ :: _ => none
  | _ => readIndex? segment

/-- The child of a value under a segment. -/
def step? (value : Json) (segment : String) : Option Json :=
  match value with
  | .obj members => members.lookup segment
  | .arr items => (strictIndex? segment).bind (items[·]?)
  | _ => none

/-- The value a pointer leads to. -/
def resolve? (p : Pointer) (value : Json) : Option Json := p.segments.foldlM step? value

end Pointer
end JsonSchema
