import JsonSchema.Compiler
import JsonSchema.Document

/-!
# Schema stores

A store holds the schemas of one directory by file name. Every schema of the store is compiled
with all of them as remote documents under their file names, so each can refer to the others.
-/

namespace JsonSchema

/-- The schemas of a directory, in order of their file names. -/
structure Store where
  directory : String
  schemas : List (String × Json)
  draft : Option Draft
  formats : Formats

/-- The outcome of validating data. -/
structure Report where
  /-- The name of the schema. -/
  name : String
  violations : List Violation

namespace Report

def isValid (report : Report) : Bool := report.violations.isEmpty

/-- One line for each violation. -/
def text (report : Report) : String := Violation.report report.violations

def toJson (report : Report) : Json :=
  .obj [("schema_name", .str report.name), ("errors", .arr (report.violations.map Violation.toJson))]

end Report

/-- Why a store does not do what it is asked. -/
inductive StoreFault where
  | unreadable (directory : String) (fault : FileFault)
  /-- A file of the directory is no document. -/
  | badSchema (name path : String) (fault : DocumentFault)
  | unknown (name directory : String)
  | notCompiled (name : String) (fault : SchemaFault)
  | badDocument (path : String) (fault : DocumentFault)
  | invalid (report : Report)

/-- The kinds of faults. -/
inductive StoreFault.Kind where
  | schemaLoad
  | documentLoad
  | compile
  | validation
deriving DecidableEq, Repr

namespace StoreFault

def kind : StoreFault → Kind
  | .unreadable .. => .schemaLoad
  | .badSchema .. => .schemaLoad
  | .unknown .. => .schemaLoad
  | .notCompiled .. => .compile
  | .badDocument .. => .documentLoad
  | .invalid _ => .validation

def message : StoreFault → String
  | .unreadable directory fault =>
    s!"schema load error for '{directory}': cannot read schema directory: {fault.message}"
  | .badSchema name path fault => s!"schema load error for '{name}': {Document.message path fault}"
  | .unknown name directory => s!"schema load error for '{name}': schema not found in {directory}"
  | .notCompiled name fault => s!"schema '{name}' does not compile: {fault.message}"
  | .badDocument path fault => Document.message path fault
  | .invalid report => s!"validation failed against schema '{report.name}':\n{report.text}"

end StoreFault

namespace Store

variable {m : Type → Type} [Monad m]

/-! ## Opening -/

/-- The names of schemas among those of files, in order. -/
def schemaNames (names : List String) : List String :=
  (names.filter fun name => (DocumentFormat.ofPath? name).isSome).mergeSort (· ≤ ·)

/-- The schemas of some files in a directory; the first that cannot be loaded is the fault. -/
def loadAll (files : FileSystem m) (directory : String) : List String → m (Except StoreFault (List (String × Json)))
  | [] => return .ok []
  | name :: rest => do
    let path := Path.join directory name
    match ← Document.load files path with
    | .error fault => return .error (.badSchema name path fault)
    | .ok schema => return (← loadAll files directory rest).map ((name, schema) :: ·)

/-- The store of a directory: its files with an extension of JSON or YAML. -/
def load (files : FileSystem m) (directory : String) (draft : Option Draft) (formats : Formats) :
    m (Except StoreFault Store) := do
  match ← files.files directory with
  | .error fault => return .error (.unreadable directory fault)
  | .ok names =>
    return (← loadAll files directory (schemaNames names)).map fun schemas => ⟨directory, schemas, draft, formats⟩

/-! ## Schemas -/

def names (store : Store) : List String := store.schemas.map Prod.fst

def size (store : Store) : Nat := store.schemas.length

/-- The identifier of a schema: `$id`, or `id` if that is absent. -/
def identifier? (schema : Json) : Option String :=
  ((schema.member? "$id") <|> (schema.member? "id")).bind Json.string?

/-- A schema by file name, or else the first with that identifier. -/
def get? (store : Store) (name : String) : Option Json :=
  store.schemas.lookup name <|> (store.schemas.find? fun entry => identifier? entry.2 == some name).map Prod.snd

/-- The compiler that knows every schema of the store. -/
def compiler (store : Store) : Compiler := ⟨store.draft, store.schemas, store.formats⟩

/-- The root of a schema by name. -/
def compile (store : Store) (name : String) : Except StoreFault Node :=
  match store.get? name with
  | none => .error (.unknown name store.directory)
  | some schema => (store.compiler.compile schema).mapError (.notCompiled name)

/-! ## Validation -/

/-- The report on data against a schema; nothing if the depth of checks does not suffice. -/
def report (store : Store) (data : Json) (name : String) : Option (Except StoreFault Report) :=
  match store.compile name with
  | .error fault => some (.error fault)
  | .ok node => (node.validate data).map fun violations => .ok ⟨name, violations⟩

/-- Whether data satisfy a schema; if they do not, the fault holds the report. -/
def validate (store : Store) (data : Json) (name : String) : Option (Except StoreFault Unit) := do
  match ← store.report data name with
  | .error fault => return .error fault
  | .ok report => return if report.isValid then .ok () else .error (.invalid report)

/-- Whether the document in a file satisfies a schema. -/
def validateFile (files : FileSystem m) (store : Store) (path name : String) :
    m (Option (Except StoreFault Unit)) := do
  match ← Document.load files path with
  | .error fault => return some (.error (.badDocument path fault))
  | .ok data => return store.validate data name

end Store
end JsonSchema
