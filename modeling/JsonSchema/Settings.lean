import JsonSchema.Draft
import JsonSchema.FileSystem
import JsonSchema.Json.Basic
import JsonSchema.Yaml.Grammar
import JsonSchema.Yaml.Value

/-!
# Settings

What holds for every command: the draft, the directory of schemas and the form of the log. A
configuration file gives them in YAML, as a mapping of names or as a sequence in the fixed order.
-/

namespace JsonSchema

structure Settings where
  draft : Option Draft
  schemaDirectory : Option String
  logJson : Bool
deriving DecidableEq, Repr

namespace Settings

/-- The settings where nothing is said. -/
def standard : Settings := ⟨none, none, false⟩

/-- Lays other settings over these. -/
def overriddenBy (settings other : Settings) : Settings :=
  ⟨other.draft <|> settings.draft, other.schemaDirectory <|> settings.schemaDirectory,
    other.logJson || settings.logJson⟩

def toJson (settings : Settings) : Json :=
  .obj [("draft", .ofOption (settings.draft.map fun draft => .str draft.name)),
    ("schema_dir", .ofOption (settings.schemaDirectory.map .str)), ("log_json", .bool settings.logJson)]

/-! ## Configuration files -/

/-- A scalar that may be left out, which a plain null says. -/
def optional {α : Type} (read : Yaml.Scalar → Option α) (s : Yaml.Scalar) : Option (Option α) :=
  if s.style ≠ .plain then (read s).map some
  else match s.tag with
    | some .null => if Yaml.Scalar.isNull s.text then some none else none
    | some _ => (read s).map some
    | none => if s.text.isEmpty || Yaml.Scalar.isNull s.text then some none else (read s).map some

/-- A draft by its name, which may stand as the tag of an empty scalar. -/
def draft? (s : Yaml.Scalar) : Option Draft :=
  match s.tag with
  | some (.own name) =>
    if s.style = .plain && (s.text.isEmpty || Yaml.Scalar.isNull s.text) then Draft.ofName? name else none
  | _ => Draft.ofName? s.text

/-- A boolean: a plain scalar, or a literal block with the tag. -/
def flag? (s : Yaml.Scalar) : Option Bool :=
  if s.style = .plain || s.style = .literal && s.tag = some .bool then Yaml.Scalar.bool? s.text else none

/-- The names of settings, in their order. -/
def names : List String := ["draft", "schema_dir", "log_json"]

/-- The settings with the one of a name read from a scalar. -/
def set? (settings : Settings) (name : String) (s : Yaml.Scalar) : Option Settings :=
  match name with
  | "draft" => (optional draft? s).map fun draft => { settings with draft }
  | "schema_dir" => (optional (fun s => some s.text) s).map fun schemaDirectory => { settings with schemaDirectory }
  | "log_json" => (flag? s).map fun logJson => { settings with logJson }
  | _ => none

/-- The scalar of a tree. -/
def scalar? : Yaml.Tree → Option Yaml.Scalar
  | .scalar s => some s
  | _ => none

/-- Reads values under names, each at most once. -/
def ofEntries? (settings : Settings) (known : List String) : List (String × Yaml.Tree) → Option Settings
  | [] => some settings
  | (name, value) :: rest =>
    if known.contains name then do
      ofEntries? (← settings.set? name (← scalar? value)) (known.erase name) rest
    else none

/-- The settings of a configuration; an empty one says nothing. -/
def ofTree? : Yaml.Tree → Option Settings
  | .mapping _ entries => do
    let named ← entries.mapM fun (key, value) => (scalar? key).map fun s => (s.text, value)
    ofEntries? standard names named
  | .sequence _ items =>
    if items.length ≤ names.length then ofEntries? standard names (names.zip items) else none
  | .scalar s => if s.style = .plain && s.text.isEmpty then some standard else none

/-- The settings of a configuration text. -/
def ofText? (text : String) : Option Settings := do ofTree? (← Yaml.Tree.ofText? text)

/-- Why a configuration file gives no settings. -/
inductive Fault where
  | unreadable (path : String) (fault : FileFault)
  | invalid (path : String)
deriving DecidableEq, Repr

def Fault.message : Fault → String
  | .unreadable path fault => s!"cannot read config file {path}: {fault.message}"
  | .invalid path => s!"invalid config file {path}"

/-- The settings in a configuration file. -/
def load {m : Type → Type} [Monad m] (files : FileSystem m) (path : String) : m (Except Fault Settings) := do
  match ← files.read path with
  | .error fault => return .error (.unreadable path fault)
  | .ok text =>
    match ofText? text with
    | some settings => return .ok settings
    | none => return .error (.invalid path)

end Settings
end JsonSchema
