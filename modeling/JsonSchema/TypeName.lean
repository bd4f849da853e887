import JsonSchema.Json.Basic

/-!
# Type names

A value has one primary type. `integer` refines `number`: it names the numbers without a
fractional part, so `1.0` is an integer too.
-/

namespace JsonSchema

inductive TypeName where
  | null | boolean | object | array | number | integer | string
deriving DecidableEq, Repr

namespace TypeName

/-- The primary types, in the order of their keyword lists. -/
def primary : List TypeName := [.null, .boolean, .object, .array, .number, .string]

/-- Every type name. -/
def all : List TypeName := [.null, .boolean, .object, .array, .number, .integer, .string]

def name : TypeName → String
  | .null => "null"
  | .boolean => "boolean"
  | .object => "object"
  | .array => "array"
  | .number => "number"
  | .integer => "integer"
  | .string => "string"

def ofName? (text : String) : Option TypeName := all.find? fun type => type.name == text

/-- The primary type of a value. -/
def of : Json → TypeName
  | .null => .null
  | .bool _ => .boolean
  | .num _ => .number
  | .str _ => .string
  | .arr _ => .array
  | .obj _ => .object

/-- The most specific type of a value. -/
def refined : Json → TypeName
  | .num n => if n.isInteger then .integer else .number
  | value => of value

/-- Whether a value is an instance of the type. -/
def admits (type : TypeName) (value : Json) : Bool :=
  match type, value with
  | .integer, .num n => n.isInteger
  | type, value => type == of value

/-- The position of a type among the primary ones; `integer` shares the place of `number`. -/
def position : TypeName → Nat
  | .null => 0
  | .boolean => 1
  | .object => 2
  | .array => 3
  | .number => 4
  | .integer => 4
  | .string => 5

end TypeName
end JsonSchema
