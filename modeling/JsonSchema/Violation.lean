import JsonSchema.Json.Writer
import JsonSchema.Pointer

/-!
# Violations

A violation says which value breaks which fragment of a schema, and how. Its data name the
details; the violations found below a composed fragment are nested in it.
-/

namespace JsonSchema

/-- The kinds of violation. -/
inductive ViolationCode where
  | type
  | requiredProperty
  | noAdditionalProperties
  | additionalItems
  | unresolvedRef
  | invalidData
  | invalidSchema
  | enum
  | const
  | not
  | format
  | maximum
  | minimum
  | multipleOf
  | maxLength
  | minLength
  | pattern
  | contains
  | containsMin
  | containsMax
  | minItems
  | maxItems
  | uniqueItems
  | unevaluatedItems
  | invalidPropertyName
  | minProperties
  | maxProperties
  | missingDependency
  | unevaluatedProperty
  | allOf
  | anyOf
  | oneOf
  | multipleOneOf
  | missingOneOfDiscriminator
  | oneOfDiscriminator
deriving DecidableEq, Repr

namespace ViolationCode

/-- Every code, those of composed fragments last. -/
def all : List ViolationCode := [
  .type, .requiredProperty, .noAdditionalProperties, .additionalItems, .unresolvedRef, .invalidData,
  .invalidSchema, .enum, .const, .not, .format, .maximum, .minimum, .multipleOf, .maxLength,
  .minLength, .pattern, .contains, .containsMin, .containsMax, .minItems, .maxItems, .uniqueItems,
  .unevaluatedItems, .invalidPropertyName, .minProperties, .maxProperties, .missingDependency,
  .unevaluatedProperty, .allOf, .anyOf, .oneOf, .multipleOneOf, .missingOneOfDiscriminator,
  .oneOfDiscriminator]

/-- The words of a code. -/
def words : ViolationCode → List String
  | .type => ["type"]
  | .requiredProperty => ["required", "property"]
  | .noAdditionalProperties => ["no", "additional", "properties"]
  | .additionalItems => ["additional", "items"]
  | .unresolvedRef => ["unresolved", "ref"]
  | .invalidData => ["invalid", "data"]
  | .invalidSchema => ["invalid", "schema"]
  | .enum => ["enum"]
  | .const => ["const"]
  | .not => ["not"]
  | .format => ["format"]
  | .maximum => ["maximum"]
  | .minimum => ["minimum"]
  | .multipleOf => ["multiple", "of"]
  | .maxLength => ["max", "length"]
  | .minLength => ["min", "length"]
  | .pattern => ["pattern"]
  | .contains => ["contains"]
  | .containsMin => ["contains", "min"]
  | .containsMax => ["contains", "max"]
  | .minItems => ["min", "items"]
  | .maxItems => ["max", "items"]
  | .uniqueItems => ["unique", "items"]
  | .unevaluatedItems => ["unevaluated", "items"]
  | .invalidPropertyName => ["invalid", "property", "name"]
  | .minProperties => ["min", "properties"]
  | .maxProperties => ["max", "properties"]
  | .missingDependency => ["missing", "dependency"]
  | .unevaluatedProperty => ["unevaluated", "property"]
  | .allOf => ["all", "of"]
  | .anyOf => ["any", "of"]
  | .oneOf => ["one", "of"]
  | .multipleOneOf => ["multiple", "one", "of"]
  | .missingOneOfDiscriminator => ["missing", "one", "of", "discriminator"]
  | .oneOfDiscriminator => ["one", "of", "discriminator"]

/-- The text of a code, its words and `error` joined by hyphens. -/
def text (code : ViolationCode) : String := "-".intercalate (code.words ++ ["error"])

/-- The name of a code, each word capitalised. -/
def name (code : ViolationCode) : String := String.join ((code.words ++ ["error"]).map String.capitalize)

def ofText? (text : String) : Option ViolationCode := all.find? fun code => code.text == text

/-- The message for a text that is no code. -/
def unknownMessage (text : String) : String := s!"unknown error code: {text}"

/-- Whether violations of this code come from combining fragments. -/
def isComposition : ViolationCode → Bool
  | .allOf | .anyOf | .oneOf | .multipleOneOf | .missingOneOfDiscriminator | .oneOfDiscriminator => true
  | _ => false

end ViolationCode

/-- One violation: the value at `pointer` breaks `schema`. -/
structure Violation where
  code : ViolationCode
  pointer : Pointer
  schema : Json
  value : Json
  /-- Details by name, in order. -/
  data : Members
  nested : List Violation

namespace Violation

mutual

/-- The record of a violation. Nested ones are the datum `errors`. -/
def toJson : Violation → Json
  | ⟨code, pointer, schema, value, data, nested⟩ =>
    let data := match nested with
      | [] => data
      | nested => data.insert "errors" (.arr (recordsOf nested))
    .obj [("code", .str code.text), ("name", .str code.name), ("pointer", .str pointer.text),
      ("schema", schema), ("value", value), ("data", .obj data)]

def recordsOf : List Violation → List Json
  | [] => []
  | violation :: rest => violation.toJson :: recordsOf rest

end

/-- The data as they follow a code in a text, after a blank. -/
def dataText (violation : Violation) : String :=
  if violation.data.isEmpty then "" else " " ++ (Json.obj violation.data).compact

/-- The text of a violation without the nested ones. -/
def text (violation : Violation) : String :=
  violation.code.text ++ " at " ++ violation.pointer.text ++ violation.dataText

/-- The line of a violation in a report. -/
def reportLine (violation : Violation) : String :=
  let place := if violation.pointer.isRoot then "(root)" else violation.pointer.text
  "  " ++ place ++ ": " ++ violation.code.text ++ violation.dataText

/-- The lines of all violations. -/
def report (violations : List Violation) : String := "\n".intercalate (violations.map reportLine)

mutual

/-- A violation and all those nested in it, outer ones first. -/
def flatten : Violation → List Violation
  | ⟨code, pointer, schema, value, data, nested⟩ =>
    ⟨code, pointer, schema, value, data, nested⟩ :: flattenAll nested

def flattenAll : List Violation → List Violation
  | [] => []
  | violation :: rest => violation.flatten ++ flattenAll rest

end

end Violation
end JsonSchema
