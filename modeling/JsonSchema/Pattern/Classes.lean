import JsonSchema.Pattern.Expr
import JsonSchema.Unicode.CaseFolding
import JsonSchema.Unicode.Script

/-!
# Character classes

The named classes of a pattern. Without Unicode a class holds ASCII characters only.
-/

namespace JsonSchema.Pattern

/-- Decimal digits. -/
def digit : CharSet := Unicode.category "Nd"

/-- White space. -/
def space : CharSet := (Unicode.property? "whitespace").getD .empty

/-- Letters, marks, digits, connectors and joiners: the characters of words. -/
def word : CharSet :=
  CharSet.unions [(Unicode.property? "alphabetic").getD .empty, Unicode.categoryGroup 'M',
    Unicode.category "Nd", Unicode.category "Pc", (Unicode.property? "joincontrol").getD .empty]

def asciiDigit : CharSet := .ofTable "30-39"

def asciiSpace : CharSet := .ofTable "9-D 20"

def asciiWord : CharSet := .ofTable "30-39 41-5A 5F 61-7A"

/-- The classes written between `[:` and `:]`. -/
def posixClass? (name : String) : Option CharSet :=
  match name with
  | "alnum" => some (.ofTable "30-39 41-5A 61-7A")
  | "alpha" => some (.ofTable "41-5A 61-7A")
  | "ascii" => some (.ofTable "0-7F")
  | "blank" => some (.ofTable "9 20")
  | "cntrl" => some (.ofTable "0-1F 7F")
  | "digit" => some (.ofTable "30-39")
  | "graph" => some (.ofTable "21-7E")
  | "lower" => some (.ofTable "61-7A")
  | "print" => some (.ofTable "20-7E")
  | "punct" => some (.ofTable "21-2F 3A-40 5B-60 7B-7E")
  | "space" => some (.ofTable "9-D 20")
  | "upper" => some (.ofTable "41-5A")
  | "word" => some (.ofTable "30-39 41-5A 5F 61-7A")
  | "xdigit" => some (.ofTable "30-39 41-46 61-66")
  | _ => none

/-- A property name without case, blanks, hyphens, underscores and non-ASCII characters, and
without a leading `is`; `isc` keeps its prefix, being a name of its own. -/
def normalizeName (name : List Char) : String :=
  let plain (cs : List Char) := cs.filterMap fun c =>
    if c = ' ' ∨ c = '_' ∨ c = '-' then none else if c.toNat < 0x80 then some c.toLower else none
  match name with
  | a :: b :: rest =>
    if (a = 'i' ∨ a = 'I') ∧ (b = 's' ∨ b = 'S') then
      match plain rest with
      | ['c'] => "isc"
      | cs => String.ofList cs
    else String.ofList (plain name)
  | name => String.ofList (plain name)

/-- The class of a lone name: a binary property, a general category or a script. -/
def classOfName? (name : List Char) : Option CharSet :=
  let name := normalizeName name
  let property := if ["cf", "sc", "lc"].contains name then none else Unicode.property? name
  property <|> Unicode.category? name <|> Unicode.script? name

/-- The class of a property and its value. -/
def classOfValue? (property value : List Char) : Option CharSet :=
  let value := normalizeName value
  match normalizeName property with
  | "gc" | "generalcategory" | "category" => Unicode.category? value
  | "sc" | "script" => Unicode.script? value
  | "scx" | "scriptextensions" => Unicode.scriptExtensions? value
  | _ => none

/-- The set with both cases of its ASCII letters. -/
def asciiCaseClosure (s : CharSet) : CharSet :=
  let upper := (s.inter (.ofTable "41-5A")).ranges.map fun r => (r.1 + 0x20, r.2 + 0x20)
  let lower := (s.inter (.ofTable "61-7A")).ranges.map fun r => (r.1 - 0x20, r.2 - 0x20)
  CharSet.ofRanges (s.ranges ++ upper ++ lower)

end JsonSchema.Pattern
