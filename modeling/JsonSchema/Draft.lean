import JsonSchema.Json.Basic
import JsonSchema.Unicode.Property

/-!
# Drafts

The supported drafts of JSON Schema, oldest first, and the rules that differ between them.
-/

namespace JsonSchema

inductive Draft where
  | draft4 | draft6 | draft7 | draft2019 | draft2020
deriving DecidableEq, Repr

namespace Draft

/-- Every draft, oldest first. -/
def all : List Draft := [.draft4, .draft6, .draft7, .draft2019, .draft2020]

/-- The age of a draft, the oldest being 0. -/
def rank : Draft → Nat
  | .draft4 => 0
  | .draft6 => 1
  | .draft7 => 2
  | .draft2019 => 3
  | .draft2020 => 4

/-- Whether a draft is the given one or a later one. -/
def since (draft first : Draft) : Bool := first.rank ≤ draft.rank

/-- The draft of a schema that names none. -/
def latest : Draft := .draft2020

/-- The short name. -/
def name : Draft → String
  | .draft4 => "draft4"
  | .draft6 => "draft6"
  | .draft7 => "draft7"
  | .draft2019 => "2019-09"
  | .draft2020 => "2020-12"

/-- The address of the draft's meta-schema. -/
def metaSchema : Draft → String
  | .draft4 => "http://json-schema.org/draft-04/schema#"
  | .draft6 => "http://json-schema.org/draft-06/schema#"
  | .draft7 => "http://json-schema.org/draft-07/schema#"
  | .draft2019 => "https://json-schema.org/draft/2019-09/schema"
  | .draft2020 => "https://json-schema.org/draft/2020-12/schema"

/-- The address of the meta-schema without scheme and fragment mark. -/
def address : Draft → String
  | .draft4 => "json-schema.org/draft-04/schema"
  | .draft6 => "json-schema.org/draft-06/schema"
  | .draft7 => "json-schema.org/draft-07/schema"
  | .draft2019 => "json-schema.org/draft/2019-09/schema"
  | .draft2020 => "json-schema.org/draft/2020-12/schema"

/-- Unicode white space. -/
def blank : CharSet := (Unicode.property? "whitespace").getD .empty

/-- The list without the elements at its end that satisfy `p`. -/
def dropTrailing (p : Char → Bool) (cs : List Char) : List Char := (cs.reverse.dropWhile p).reverse

/-- The text without white space at its ends and without number signs after that. -/
def trimAddress (text : String) : List Char :=
  dropTrailing (· == '#') (dropTrailing blank.contains (text.toList.dropWhile blank.contains))

/-- An address without its `https://` or `http://`. -/
def dropScheme (cs : List Char) : List Char :=
  let strip (scheme : String) := if scheme.toList.isPrefixOf cs then some (cs.drop scheme.length) else none
  (strip "https://" <|> strip "http://").getD cs

/-- The draft whose meta-schema an address names, whatever its scheme and trailing `#`. -/
def ofAddress? (text : String) : Option Draft :=
  let rest := dropScheme (trimAddress text)
  all.find? fun draft => draft.address.toList == rest

/-- The draft of exactly its short name. -/
def ofName? (text : String) : Option Draft := all.find? fun draft => draft.name == text

/-- The draft of a short name, of one of its variants, or of a meta-schema address. -/
def parse? (text : String) : Option Draft :=
  match text with
  | "4" => some .draft4
  | "6" => some .draft6
  | "7" => some .draft7
  | "draft2019-09" => some .draft2019
  | "draft2020-12" => some .draft2020
  | text => ofName? text <|> ofAddress? text

/-- The message for a text that names no draft. -/
def unknownMessage (text : String) : String := s!"unknown JSON Schema draft: {text}"

/-- The draft that a schema's `$schema` names. -/
def detect? (schema : Json) : Option Draft := (schema.stringMember? "$schema").bind ofAddress?

/-- Whether a reference is merged with the keywords beside it instead of replacing them. -/
def mergesSiblings (draft : Draft) : Bool := draft.since .draft2019

/-- The keyword that identifies a schema resource. -/
def idKeyword (draft : Draft) : String := if draft = .draft4 then "id" else "$id"

/-- Whether `$anchor` names a fragment. -/
def hasAnchor (draft : Draft) : Bool := draft.since .draft2019

/-- Whether `$recursiveRef` and `$recursiveAnchor` are defined. -/
def hasRecursiveRef (draft : Draft) : Bool := draft == .draft2019

/-- Whether `$dynamicRef` and `$dynamicAnchor` are defined. -/
def hasDynamicRef (draft : Draft) : Bool := draft.since .draft2020

/-- Whether `prefixItems` takes the place of the array form of `items`. -/
def hasPrefixItems (draft : Draft) : Bool := draft.since .draft2020

/-- Whether `maximum` and `minimum` read a boolean exclusivity flag. -/
def hasBooleanBounds (draft : Draft) : Bool := draft == .draft4

/-- Whether items that match `contains` count as evaluated. -/
def containsEvaluates (draft : Draft) : Bool := draft.since .draft2020

/-- Whether `minContains` and `maxContains` bound the number of matches. -/
def boundsContains (draft : Draft) : Bool := draft.since .draft2019

end Draft
end JsonSchema
