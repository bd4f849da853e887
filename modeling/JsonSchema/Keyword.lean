import JsonSchema.Draft
import JsonSchema.TypeName

/-!
# Validating keywords

Each keyword has the draft that introduced it and the type of value it constrains, if it is one
type only. Some are checked as a group: `items` stands also for `prefixItems` and
`additionalItems`, `contains` for its bounds, and `if` for its branches.
-/

namespace JsonSchema

inductive Keyword where
  | type | enum | const | format
  | maximum | minimum | exclusiveMaximum | exclusiveMinimum | multipleOf
  | maxLength | minLength | pattern
  | items | contains | minItems | maxItems | uniqueItems
  | properties | patternProperties | additionalProperties | propertyNames | required
  | minProperties | maxProperties | dependencies | dependentRequired | dependentSchemas
  | not | allOf | anyOf | oneOf | conditional
  | unevaluatedItems | unevaluatedProperties
deriving DecidableEq, Repr

namespace Keyword

/-- Every keyword, in the order in which they are checked. -/
def all : List Keyword := [
  .type, .enum, .const, .format,
  .maximum, .minimum, .exclusiveMaximum, .exclusiveMinimum, .multipleOf,
  .maxLength, .minLength, .pattern,
  .items, .contains, .minItems, .maxItems, .uniqueItems,
  .properties, .patternProperties, .additionalProperties, .propertyNames, .required,
  .minProperties, .maxProperties, .dependencies, .dependentRequired, .dependentSchemas,
  .not, .allOf, .anyOf, .oneOf, .conditional,
  .unevaluatedItems, .unevaluatedProperties]

/-- The name in a schema. -/
def name : Keyword → String
  | .type => "type"
  | .enum => "enum"
  | .const => "const"
  | .format => "format"
  | .maximum => "maximum"
  | .minimum => "minimum"
  | .exclusiveMaximum => "exclusiveMaximum"
  | .exclusiveMinimum => "exclusiveMinimum"
  | .multipleOf => "multipleOf"
  | .maxLength => "maxLength"
  | .minLength => "minLength"
  | .pattern => "pattern"
  | .items => "items"
  | .contains => "contains"
  | .minItems => "minItems"
  | .maxItems => "maxItems"
  | .uniqueItems => "uniqueItems"
  | .properties => "properties"
  | .patternProperties => "patternProperties"
  | .additionalProperties => "additionalProperties"
  | .propertyNames => "propertyNames"
  | .required => "required"
  | .minProperties => "minProperties"
  | .maxProperties => "maxProperties"
  | .dependencies => "dependencies"
  | .dependentRequired => "dependentRequired"
  | .dependentSchemas => "dependentSchemas"
  | .not => "not"
  | .allOf => "allOf"
  | .anyOf => "anyOf"
  | .oneOf => "oneOf"
  | .conditional => "if"
  | .unevaluatedItems => "unevaluatedItems"
  | .unevaluatedProperties => "unevaluatedProperties"

/-- The oldest draft that defines the keyword. -/
def introducedIn : Keyword → Draft
  | .const | .contains | .propertyNames | .exclusiveMaximum | .exclusiveMinimum => .draft6
  | .conditional => .draft7
  | .dependentRequired | .dependentSchemas | .unevaluatedItems | .unevaluatedProperties => .draft2019
  | _ => .draft4

/-- The one type of value the keyword constrains, if it is one. -/
def valueType? : Keyword → Option TypeName
  | .maximum | .minimum | .exclusiveMaximum | .exclusiveMinimum | .multipleOf => some .number
  | .maxLength | .minLength | .pattern => some .string
  | .items | .contains | .minItems | .maxItems | .uniqueItems | .unevaluatedItems => some .array
  | .properties | .patternProperties | .additionalProperties | .propertyNames | .required
  | .minProperties | .maxProperties | .dependencies | .dependentRequired | .dependentSchemas
  | .unevaluatedProperties => some .object
  | .type | .enum | .const | .format | .not | .allOf | .anyOf | .oneOf | .conditional => none

/-- Whether the keyword constrains values of a primary type. -/
def constrains (keyword : Keyword) (type : TypeName) : Bool :=
  match keyword.valueType? with
  | none => true
  | some own => own == type

/-- Whether the keyword, or a keyword of its group, stands in a schema object. -/
def isPresent (keyword : Keyword) (draft : Draft) (members : Members) : Bool :=
  match keyword with
  | .items =>
    members.has "items" || members.has "additionalItems" ||
      (draft.hasPrefixItems && members.has "prefixItems")
  | .conditional => members.has "if" && (members.has "then" || members.has "else")
  | .exclusiveMaximum | .exclusiveMinimum => ((members.lookup keyword.name).bind Json.number?).isSome
  | keyword => members.has keyword.name

end Keyword

namespace Draft

/-- The keywords a draft defines, in the order in which they are checked. -/
def keywords (draft : Draft) : List Keyword := Keyword.all.filter fun k => draft.since k.introducedIn

/-- Whether the draft defines a keyword. -/
def knows (draft : Draft) (keyword : Keyword) : Bool := draft.since keyword.introducedIn

/-- The keywords a draft defines for values of a type. -/
def keywordsFor (draft : Draft) (type : TypeName) : List Keyword :=
  let primary := if type = .integer then .number else type
  draft.keywords.filter fun k => k.constrains primary

/-- Whether a draft checks a keyword on values of a type. -/
def applies (draft : Draft) (keyword : Keyword) (type : TypeName) : Bool :=
  (draft.keywordsFor type).contains keyword

end Draft
end JsonSchema
