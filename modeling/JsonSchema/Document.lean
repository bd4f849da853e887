import JsonSchema.FileSystem
import JsonSchema.Json.Reader
import JsonSchema.Yaml.Conversion

/-!
# Documents

A document is a file that holds one JSON value, written in JSON or in YAML. The extension of the
path tells which; a file with any other extension is read as JSON.
-/

namespace JsonSchema

/-- How a document is written. -/
inductive DocumentFormat where
  | json
  | yaml
deriving DecidableEq, Repr

/-- The format that a path's extension stands for. -/
def DocumentFormat.ofPath? (path : String) : Option DocumentFormat :=
  match Path.extension? path with
  | some "json" => some .json
  | some "yaml" => some .yaml
  | some "yml" => some .yaml
  | _ => none

/-- Why a file is no document. -/
inductive DocumentFault where
  | unreadable (fault : FileFault)
  | notJson
  | notYaml
  | conversion (fault : Yaml.Value.ConversionFault)

def DocumentFault.reason : DocumentFault → String
  | .unreadable fault => s!"cannot read file: {fault.message}"
  | .notJson => "invalid JSON"
  | .notYaml => "invalid YAML"
  | .conversion fault => s!"YAML-to-JSON conversion failed: {fault.message}"

namespace Document

/-- The message for a file that is no document. -/
def message (path : String) (fault : DocumentFault) : String :=
  s!"document load error for '{path}': {fault.reason}"

/-- The value of a text. -/
def parse (format : DocumentFormat) (text : String) : Except DocumentFault Json :=
  match format with
  | .json =>
    match Json.parse? text with
    | some value => .ok value
    | none => .error .notJson
  | .yaml =>
    match Yaml.Value.ofText? text with
    | some value => value.toJson.mapError .conversion
    | none => .error .notYaml

/-- The value in a file. -/
def load {m : Type → Type} [Monad m] (files : FileSystem m) (path : String) : m (Except DocumentFault Json) := do
  match ← files.read path with
  | .ok text => return parse ((DocumentFormat.ofPath? path).getD .json) text
  | .error fault => return .error (.unreadable fault)

end Document
end JsonSchema
