import JsonSchema.Text.Encoding
import JsonSchema.Yaml.Node
import JsonSchema.Yaml.Number

/-!
# Values

A plain scalar is null, a boolean, a number or else a string, depending on its text; a tag can
settle what it is. The keys of a mapping are all different.
-/

namespace JsonSchema.Yaml

inductive Value where
  | null
  | bool (value : Bool)
  | num (value : Number)
  | str (value : String)
  | seq (items : List Value)
  | map (entries : List (Value × Value))
  /-- A value under a tag of the document's own. -/
  | tagged (tag : String) (value : Value)

/-! ## Scalars -/

namespace Scalar

/-- The spellings of null. -/
def isNull (text : String) : Bool := ["null", "Null", "NULL", "~"].contains text

def bool? (text : String) : Option Bool :=
  if ["true", "True", "TRUE"].contains text then some true
  else if ["false", "False", "FALSE"].contains text then some false
  else none

/-- The value of an integer; one that fits no 64-bit word is an error. -/
def ofInteger (i : Int) : Option Value := if Number.fitsWord 64 i then some (.num (.int i)) else none

/-- An integer that is read as one: it fits a word of 128 bits. -/
def integer? (text : String) : Option Int := (Number.integer? text.toList).filter (Number.fitsWord 128)

/-- Whether a text is decimal digits after an optional sign, with a superfluous zero in front. -/
def isPadded (text : String) : Bool :=
  match text.toList with
  | '-' :: ds => Number.isPadded ds
  | '+' :: ds => Number.isPadded ds
  | ds => Number.isPadded ds

/-- The value of a plain scalar by its text. -/
def plainValue? (text : String) : Option Value :=
  if text.isEmpty || isNull text then some .null
  else match bool? text, integer? text with
    | some b, _ => some (.bool b)
    | none, some i => ofInteger i
    | none, none =>
      match if isPadded text then none else Number.float? text.toList with
      | some x => some (.num x)
      | none => some (.str text)

/-- The value of a scalar by its text and style alone. -/
def untaggedValue? (s : Scalar) : Option Value :=
  if s.style = .plain then plainValue? s.text else some (.str s.text)

/-- The value of a scalar. A text that does not suit its tag is an error. -/
def value? (s : Scalar) : Option Value :=
  match s.tag with
  | none => s.untaggedValue?
  | some .bool => (bool? s.text).map .bool
  | some .int => (integer? s.text).bind ofInteger
  | some .float => (Number.float? s.text.toList).map .num
  | some .null => if isNull s.text then some .null else none
  | some (.own name) => if name.isEmpty then none else s.untaggedValue?.map (.tagged name)
  | some .other => some (.str s.text)

end Scalar

/-! ## Equality -/

namespace Value

mutual

/-- Equality of values; the order of a mapping's entries does not matter. -/
def same : Value → Value → Bool
  | .null, .null => true
  | .bool a, .bool b => a == b
  | .num a, .num b => a.same b
  | .str a, .str b => a == b
  | .seq a, .seq b => sameItems a b
  | .map a, .map b => a.length == b.length && sameEntries a b
  | .tagged s a, .tagged t b => s == t && same a b
  | _, _ => false

def sameItems : List Value → List Value → Bool
  | [], [] => true
  | a :: as, b :: bs => same a b && sameItems as bs
  | _, _ => false

/-- Whether every entry of the first list is in the second. -/
def sameEntries : List (Value × Value) → List (Value × Value) → Bool
  | [], _ => true
  | (key, value) :: rest, entries =>
    entries.any (fun entry => same key entry.1 && same value entry.2) && sameEntries rest entries

end

/-- Whether no two entries have the same key. -/
def distinctKeys : List (Value × Value) → Bool
  | [] => true
  | (key, _) :: rest => rest.all (fun entry => !key.same entry.1) && distinctKeys rest

/-! ## Values of trees -/

/-- The value under the tag of a collection. -/
def underTag (tag : Option Tag) (value : Value) : Option Value :=
  match tag with
  | some (.own name) => if name.isEmpty then none else some (.tagged name value)
  | _ => some value

mutual

def ofTree? : Tree → Option Value
  | .scalar content => content.value?
  | .sequence tag items => (ofItems? items).bind fun values => underTag tag (.seq values)
  | .mapping tag entries =>
    (ofEntries? entries).bind fun values =>
      if distinctKeys values then underTag tag (.map values) else none

def ofItems? : List Tree → Option (List Value)
  | [] => some []
  | item :: rest => do return (← ofTree? item) :: (← ofItems? rest)

def ofEntries? : List (Tree × Tree) → Option (List (Value × Value))
  | [] => some []
  | (key, value) :: rest => do return (← ofTree? key, ← ofTree? value) :: (← ofEntries? rest)

end

/-! ## Values in messages -/

/-- Texts with commas between them. -/
def listed : List String → String := ", ".intercalate

mutual

/-- A value as messages show it. As a key of a mapping, a boolean, a number or a string stands
without the name of its kind. -/
def describeAs (isKey : Bool) : Value → String
  | .null => "Null"
  | .bool b => if isKey then toString b else s!"Bool({b})"
  | .num n => if isKey then n.text else s!"Number({n.text})"
  | .str s => if isKey then Quoted.quote s else s!"String({Quoted.quote s})"
  | .seq items => "Sequence [" ++ listed (describeItems items) ++ "]"
  | .map entries => "Mapping \x7b" ++ listed (describeEntries entries) ++ "\x7d"
  | .tagged tag value => "TaggedValue \x7b tag: !" ++ tag ++ ", value: " ++ describeAs false value ++ " \x7d"

def describeItems : List Value → List String
  | [] => []
  | item :: rest => describeAs false item :: describeItems rest

def describeEntries : List (Value × Value) → List String
  | [] => []
  | (key, value) :: rest => (describeAs true key ++ ": " ++ describeAs false value) :: describeEntries rest

end

def describe (value : Value) : String := value.describeAs false

end Value
end JsonSchema.Yaml
