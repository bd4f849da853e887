import JsonSchema.Json.Basic
import JsonSchema.Yaml.Grammar
import JsonSchema.Yaml.Value

/-!
# JSON values of YAML texts

Tags are dropped, and keys become strings: numbers and booleans are written out. Two keys may
become the same string; the later value then stands in the place of the earlier one. The faults
are collections and nulls as keys, and doubles that are not finite.
-/

namespace JsonSchema.Yaml

namespace Value

/-- Why a value is no JSON value. -/
inductive ConversionFault where
  | key (value : Value)
  | float (text : String)

def ConversionFault.message : ConversionFault → String
  | .key value => s!"unsupported YAML map key: {value.describe}"
  | .float text => s!"cannot represent float {text} in JSON"

/-- The string that a key becomes. -/
def keyText : Value → Except ConversionFault String
  | .str s => .ok s
  | .num n => .ok n.text
  | .bool b => .ok (toString b)
  | value => .error (.key value)

def ofNumber : Number → Except ConversionFault Json
  | .int i => .ok (.num (.int i))
  | .real x => .ok (.num (.real x))
  | .infinite negative => .error (.float (if negative then "-inf" else "inf"))
  | .nan => .error (.float "NaN")

mutual

def toJson : Value → Except ConversionFault Json
  | .null => .ok .null
  | .bool b => .ok (.bool b)
  | .num n => ofNumber n
  | .str s => .ok (.str s)
  | .seq items => (toItems items).map .arr
  | .map entries => (toMembers [] entries).map .obj
  | .tagged _ value => toJson value

def toItems : List Value → Except ConversionFault (List Json)
  | [] => .ok []
  | item :: rest => do return (← toJson item) :: (← toItems rest)

/-- The members after those that were read. -/
def toMembers (read : Members) : List (Value × Value) → Except ConversionFault Members
  | [] => .ok read
  | (key, value) :: rest => do
    let name ← keyText key
    toMembers (read.insert name (← toJson value)) rest

end
end Value

/-- The value of a text that is well formed. -/
def Value.ofText? (text : String) : Option Value := do Value.ofTree? (← Tree.ofText? text)

end JsonSchema.Yaml
