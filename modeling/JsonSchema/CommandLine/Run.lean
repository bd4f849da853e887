import JsonSchema.CommandLine.Command
import JsonSchema.Json.Writer
import JsonSchema.Store

/-!
# Running commands

A command that runs answers what it prints and whether all data passed. A command that cannot run
has a fault; it then prints nothing else.
-/

namespace JsonSchema

/-- Why a command cannot run. -/
inductive CommandFault where
  | settings (fault : Settings.Fault)
  | badPointer (text : String) (fault : Pointer.Fault)
  /-- The directory of schemas cannot be loaded. -/
  | badStore (directory : String) (fault : StoreFault)
  | inStore (fault : StoreFault)
  | badDocument (path : String) (fault : DocumentFault)
  | badSchema (path : String) (fault : SchemaFault)
  /-- The checks of a schema refer to one another without end. -/
  | tooDeep

namespace CommandFault

/-- The message of a store's fault, and that of its cause once more. The reason why a pattern is
malformed ends the message before that. -/
def storeMessage (fault : StoreFault) : String :=
  match fault with
  | .notCompiled _ (.regex _ _ .malformed) => fault.message
  | .notCompiled _ cause => s!"{fault.message}: {cause.message}"
  | fault => fault.message

def message : CommandFault → String
  | .settings fault => fault.message
  | .badPointer text fault => s!"invalid pointer {Quoted.quote text}: {fault.message}"
  | .badStore directory fault => s!"cannot load schemas from {directory}: {storeMessage fault}"
  | .inStore fault => storeMessage fault
  | .badDocument path fault => Document.message path fault
  | .badSchema path fault => s!"schema {path} does not compile: {fault.message}"
  | .tooDeep => "the checks of the schema are nested too deeply"

/-- What is printed about a fault. -/
def text (fault : CommandFault) : String := s!"error: {fault.message}"

/-- The exit code of a program that cannot run, also for a misused command line. -/
def exitCode : Nat := 2

end CommandFault

/-- What a command that ran leaves. -/
structure Outcome where
  /-- What it prints. -/
  output : String
  /-- Whether all data passed. -/
  passed : Bool
deriving DecidableEq, Repr

def Outcome.exitCode (outcome : Outcome) : Nat := if outcome.passed then 0 else 1

namespace Command

variable {m : Type → Type} [Monad m]

/-! ## Loading -/

def loadDocument (files : FileSystem m) (path : String) : ExceptT CommandFault m Json := do
  match ← (Document.load files path : m _) with
  | .ok value => return value
  | .error fault => throw (.badDocument path fault)

def loadOptional (files : FileSystem m) : Option String → ExceptT CommandFault m (Option Json)
  | none => return none
  | some path => return some (← loadDocument files path)

/-- The root of a schema: of the store in the directory of schemas if one is set, else of the file
at a path. -/
def loadSchema (files : FileSystem m) (settings : Settings) (schema : String) : ExceptT CommandFault m Node := do
  match settings.schemaDirectory with
  | some directory =>
    match ← (Store.load files directory settings.draft .standard : m _) with
    | .error fault => throw (.badStore directory fault)
    | .ok store => ExceptT.mk (pure ((store.compile schema).mapError .inStore))
  | none =>
    let document ← loadDocument files schema
    let compiler : Compiler := { Compiler.standard with draft := settings.draft }
    ExceptT.mk (pure ((compiler.compile document).mapError (.badSchema schema)))

/-- The value of a check, if its depth suffices. -/
def within {α : Type} (value : Option α) : ExceptT CommandFault m α :=
  match value with
  | some value => return value
  | none => throw .tooDeep

/-! ## Output -/

/-- A JSON text on lines of its own. -/
def jsonLines (value : Json) : String := value.pretty ++ "\n"

/-- The lines about a document. -/
def documentText (path : String) (violations : List Violation) : String :=
  if violations.isEmpty then s!"{path}: valid\n"
  else s!"{path}: {violations.length} error(s)\n{Violation.report violations}\n"

def documentRecord (path : String) (violations : List Violation) : Json :=
  .obj [("document", .str path), ("valid", .bool violations.isEmpty),
    ("errors", .arr (violations.map Violation.toJson))]

/-- The report on several documents. -/
def validationText (output : OutputFormat) (reports : List (String × List Violation)) : String :=
  match output with
  | .text => String.join (reports.map fun (path, violations) => documentText path violations)
  | .json => jsonLines (.arr (reports.map fun (path, violations) => documentRecord path violations))

def ofChoice (node : Node) : Json := .ofOption (node.choice.map Json.ofNat)

/-- What is found at a place: a node, nothing, or the violation that forbids it. -/
def navigationOutcome (pointer : Pointer) (result : Except Violation (Option Node)) : Outcome :=
  let place := ("pointer", Json.str pointer.text)
  match result with
  | .ok (some node) =>
    ⟨jsonLines (.obj [place, ("schema", node.fragment.schema), ("location", .str node.fragment.location),
      ("oneOfIndex", ofChoice node)]), true⟩
  | .ok none => ⟨jsonLines (.obj [place, ("schema", .null)]), true⟩
  | .error violation => ⟨jsonLines (.obj [place, ("error", violation.toJson)]), false⟩

/-- A reduced schema, or why there is none and which member of `oneOf` comes closest. -/
def reductionOutcome (result : Except Violation Node) (closest : Option (Nat × Node)) : Outcome :=
  match result with
  | .ok node => ⟨jsonLines (.obj [("schema", node.fragment.schema), ("oneOfIndex", ofChoice node)]), true⟩
  | .error violation =>
    let fit := match closest with
      | some (index, member) =>
        [("closest", .obj [("index", .ofNat index), ("schema", member.fragment.schema)])]
      | none => []
    ⟨jsonLines (.obj (("error", violation.toJson) :: fit)), false⟩

/-! ## The commands -/

/-- Validates documents one after the other. -/
def validateAll (files : FileSystem m) (root : Node) : List String → ExceptT CommandFault m (List (String × List Violation))
  | [] => return []
  | path :: rest => do
    let data ← loadDocument files path
    let violations ← within (root.validate data)
    return (path, violations) :: (← validateAll files root rest)

/-- Runs a command under settings. -/
def run (files : FileSystem m) (settings : Settings) : Command → ExceptT CommandFault m Outcome
  | .validate schema documents output => do
    let root ← loadSchema files settings schema
    let reports ← validateAll files root documents
    return ⟨validationText output reports, reports.all fun report => report.2.isEmpty⟩
  | .navigate schema text data => do
    let pointer ← ExceptT.mk (pure ((Pointer.parse text).mapError (CommandFault.badPointer text)))
    let root ← loadSchema files settings schema
    let data ← loadOptional files data
    return navigationOutcome pointer (← within (root.walk pointer data))
  | .reduce schema path closest => do
    let root ← loadSchema files settings schema
    match ← loadOptional files path with
    | none => return reductionOutcome (← within root.reduceStatic) none
    | some data =>
      let result ← within (root.reduce data)
      let fit ← if closest && !result.toBool then within (root.closest data) else pure none
      return reductionOutcome result fit

end Command

namespace Invocation

variable {m : Type → Type} [Monad m]

/-- The settings in force: those of the configuration file, overridden by options and
environment. -/
def resolve (files : FileSystem m) (invocation : Invocation) : ExceptT CommandFault m Settings := do
  match invocation.config with
  | none => return Settings.standard.overriddenBy invocation.settings
  | some path =>
    match ← (Settings.load files path : m _) with
    | .ok settings => return settings.overriddenBy invocation.settings
    | .error fault => throw (.settings fault)

/-- Runs a command line: the settings in force and the outcome. -/
def run (files : FileSystem m) (invocation : Invocation) : ExceptT CommandFault m (Settings × Outcome) := do
  let settings ← invocation.resolve files
  return (settings, ← invocation.command.run files settings)

end Invocation
end JsonSchema
