import JsonSchema.CommandLine.Argument
import JsonSchema.Settings

/-!
# Commands

A command line names one command. The options that hold for every command may stand before it or
after it; if one stands in both places, the later counts. The environment gives the draft and the
directory of schemas where no option does.
-/

namespace JsonSchema

/-- How the outcome of a validation is written. -/
inductive OutputFormat where
  | text
  | json
deriving DecidableEq, Repr

inductive Command where
  | validate (schema : String) (documents : List String) (output : OutputFormat)
  | navigate (schema pointer : String) (data : Option String)
  | reduce (schema : String) (data : Option String) (closest : Bool)
deriving DecidableEq, Repr

/-- What the environment sets. -/
structure Environment where
  draft : Option String
  schemaDirectory : Option String

/-- A command line. -/
structure Invocation where
  command : Command
  /-- The configuration file. -/
  config : Option String
  /-- The settings of the options and the environment. -/
  settings : Settings
deriving DecidableEq, Repr

namespace Invocation

/-! ## Options -/

/-- The options of every command. -/
def globalOptions : List OptionSpec :=
  [⟨"config", none, true⟩, ⟨"draft", none, true⟩, ⟨"schema-dir", none, true⟩, ⟨"log-json", none, false⟩]

def schemaOption : OptionSpec := ⟨"schema", some 's', true⟩

def dataOption : OptionSpec := ⟨"data", some 'd', true⟩

def pointerOption : OptionSpec := ⟨"pointer", some 'p', true⟩

/-- The options of a command, apart from those of every command. -/
def optionsOf? : String → Option (List OptionSpec)
  | "validate" => some [schemaOption, ⟨"output", none, true⟩]
  | "navigate" => some [schemaOption, pointerOption, dataOption]
  | "reduce" => some [schemaOption, dataOption, ⟨"closest", none, false⟩]
  | _ => none

/-- A value that is there and satisfies a condition, or is not there. -/
def optional? {α : Type} (read : String → Option α) : Option String → Option (Option α)
  | none => some none
  | some text => (read text).map some

/-- A path, which may not be empty. -/
def path? (text : String) : Option String := if text.isEmpty then none else some text

/-! ## Commands -/

def output? : String → Option OutputFormat
  | "text" => some .text
  | "json" => some .json
  | _ => none

/-- The command of a name with its arguments. -/
def command? (name : String) (arguments : List Argument) : Option Command := do
  let words := Argument.words arguments
  let schema ← Argument.value? arguments "schema"
  let data ← optional? path? (Argument.value? arguments "data")
  match name with
  | "validate" =>
    let output ← optional? output? (Argument.value? arguments "output")
    if words.isEmpty || words.contains "" then none
    return .validate schema words (output.getD .text)
  | "navigate" =>
    if !words.isEmpty then none
    return .navigate schema ((Argument.value? arguments "pointer").getD "#") data
  | "reduce" =>
    let closest := Argument.hasOption arguments "closest"
    if !words.isEmpty || closest && data.isNone then none
    return .reduce schema data closest
  | _ => none

/-! ## Global options -/

/-- The value of a global option: the one after the command, or else the one before it, or else
that of the environment. Every value has to be readable, except that the environment's does not
count where both places have one. -/
def globalValue? {α : Type} (read : String → Option α) (outer inner : List Argument) (environment : Option String)
    (name : String) : Option (Option α) := do
  let before ← optional? read (Argument.value? outer name)
  let after ← optional? read (Argument.value? inner name)
  if before.isSome && after.isSome then return after
  let around ← optional? read environment
  return after <|> before <|> around

/-- The command line of some arguments, unless they are misused. -/
def parse? (environment : Environment) (texts : List String) : Option Invocation := do
  let fuel := texts.length + 1
  let (outer, rest) ← Argument.upToWord? globalOptions fuel texts
  match rest with
  | [] => none
  | name :: rest =>
    let options ← optionsOf? name
    let inner ← Argument.all? (options ++ globalOptions) fuel rest
    if !Argument.distinct outer || !Argument.distinct inner then none
    let command ← command? name inner
    let config ← globalValue? path? outer inner none "config"
    let draft ← globalValue? Draft.parse? outer inner environment.draft "draft"
    let schemaDirectory ← globalValue? path? outer inner environment.schemaDirectory "schema-dir"
    let logJson := Argument.hasOption outer "log-json" || Argument.hasOption inner "log-json"
    return ⟨command, config, ⟨draft, schemaDirectory, logJson⟩⟩

end Invocation
end JsonSchema
