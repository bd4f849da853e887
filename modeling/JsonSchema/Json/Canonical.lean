import JsonSchema.Json.Writer

/-!
# Equal values

Values are compared by their structure: numbers are equal by value, arrays item by item, and objects
member by member whatever the order of their names. Or they are told apart by their canonical texts.
A canonical text has no blanks, writes doubles in their canonical style, and sorts members by the
bytes of the name as it is written, quotes and escapes included.
-/

namespace JsonSchema.Json

/-! ## Structural equality -/

mutual

/-- Structural equality of two values. -/
def equal : Json → Json → Bool
  | .null, .null => true
  | .bool a, .bool b => a == b
  | .num a, .num b => a.compare b == .eq
  | .str a, .str b => a == b
  | .arr as, .arr bs => itemsEqual as bs
  | .obj as, .obj bs => as.length == bs.length && membersEqual as bs
  | _, _ => false

def itemsEqual : List Json → List Json → Bool
  | [], [] => true
  | a :: as, b :: bs => a.equal b && itemsEqual as bs
  | _, _ => false

/-- Every member on the left has an equal one of the same name on the right. -/
def membersEqual : List (String × Json) → List (String × Json) → Bool
  | [], _ => true
  | (name, a) :: as, bs =>
    (match bs.lookup name with
      | some b => a.equal b
      | none => false) && membersEqual as bs

end

/-- The distinct values among `values`, each at its first occurrence. -/
def distinct (values : List Json) : List Json :=
  values.foldl (fun seen value => if seen.any (·.equal value) then seen else seen ++ [value]) []

/-! ## Canonical texts -/

/-- Strict order of the UTF-8 bytes of two texts, which is the order of their code points. -/
def writtenBefore : List Char → List Char → Bool
  | [], [] => false
  | [], _ :: _ => true
  | _ :: _, [] => false
  | a :: as, b :: bs => if a = b then writtenBefore as bs else a.toNat < b.toNat

mutual

/-- The canonical text of a value. -/
def canonicalChars : Json → List Char
  | .null => "null".toList
  | .bool b => (if b then "true" else "false").toList
  | .num n => (n.write .canonical).toList
  | .str s => quote s
  | .arr items => '[' :: joinWith [','] (canonicalItems items) ++ [']']
  | .obj members =>
    let written := (canonicalMembers members).mergeSort fun a b => !writtenBefore b.1 a.1
    '{' :: joinWith [','] (written.map fun member => member.1 ++ ':' :: member.2) ++ ['}']

def canonicalItems : List Json → List (List Char)
  | [] => []
  | item :: rest => canonicalChars item :: canonicalItems rest

/-- Each member as its written name and its canonical value. -/
def canonicalMembers : List (String × Json) → List (List Char × List Char)
  | [] => []
  | (name, value) :: rest => (quote name, canonicalChars value) :: canonicalMembers rest

end

def canonical (value : Json) : String := String.ofList value.canonicalChars

end JsonSchema.Json
