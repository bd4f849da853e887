import JsonSchema.Text.CharSet

/-!
# Arguments of a command line

An argument is an option, with a value or without, or a word. The value of an option is in the
same text, or in the next one. After `--` every text is a word.
-/

namespace JsonSchema

/-- An option that a command knows. -/
structure OptionSpec where
  name : String
  /-- The letter that may stand for the name; only options with values have one. -/
  letter : Option Char
  takesValue : Bool

inductive Argument where
  | option (name : String) (value : Option String)
  | word (text : String)
deriving DecidableEq, Repr

namespace Argument

/-- Whether a text can be a value of its own: options cannot, a lone hyphen can. -/
def isValue (text : String) : Bool := text = "-" || text.toList.head? ≠ some '-'

/-- The value in the next text. -/
def nextValue? : List String → Option (String × List String)
  | [] => none
  | text :: rest => if isValue text then some (text, rest) else none

/-- An option with the value attached to it, or else the next text as its value. -/
def withValue? (spec : OptionSpec) (attached : Option String) (rest : List String) : Option (Argument × List String) :=
  match spec.takesValue, attached with
  | true, some value => some (.option spec.name (some value), rest)
  | true, none => (nextValue? rest).map fun (value, rest) => (.option spec.name (some value), rest)
  | false, some _ => none
  | false, none => some (.option spec.name none, rest)

/-- An option by name, after its two hyphens; a value may follow an equals sign. -/
def long? (specs : List OptionSpec) (cs : List Char) (rest : List String) : Option (Argument × List String) := do
  let name := String.ofList (cs.takeWhile (· ≠ '='))
  let spec ← specs.find? fun spec => spec.name == name
  let attached := match cs.dropWhile (· ≠ '=') with
    | [] => none
    | _ :: value => some (String.ofList value)
  withValue? spec attached rest

/-- An option by letter, after its hyphen; a value may follow, after an equals sign or without
one. -/
def short? (specs : List OptionSpec) (letter : Char) (cs : List Char) (rest : List String) :
    Option (Argument × List String) := do
  let spec ← specs.find? fun spec => spec.letter == some letter
  let attached := match cs with
    | [] => none
    | '=' :: value => some (String.ofList value)
    | value => some (String.ofList value)
  withValue? spec attached rest

/-- The argument that starts with a text, and the texts after it. -/
def read? (specs : List OptionSpec) (text : String) (rest : List String) : Option (Argument × List String) :=
  match text.toList with
  | '-' :: '-' :: cs => long? specs cs rest
  | '-' :: letter :: cs => short? specs letter cs rest
  | _ => some (.word text, rest)

/-- The arguments up to the first word, and the texts from it on. -/
def upToWord? (specs : List OptionSpec) : Nat → List String → Option (List Argument × List String)
  | 0, _ => none
  | _, [] => some ([], [])
  | fuel + 1, text :: rest =>
    if text = "--" then none
    else do
      match ← read? specs text rest with
      | (.word _, _) => return ([], text :: rest)
      | (argument, rest) =>
        let (arguments, rest) ← upToWord? specs fuel rest
        return (argument :: arguments, rest)

/-- All arguments. -/
def all? (specs : List OptionSpec) : Nat → List String → Option (List Argument)
  | 0, _ => none
  | _, [] => some []
  | fuel + 1, text :: rest =>
    if text = "--" then some (rest.map .word)
    else do
      let (argument, rest) ← read? specs text rest
      return argument :: (← all? specs fuel rest)

/-! ## Looking up arguments -/

/-- The words among arguments. -/
def words (arguments : List Argument) : List String :=
  arguments.filterMap fun argument =>
    match argument with
    | .word text => some text
    | .option .. => none

/-- The names of the options among arguments. -/
def optionNames (arguments : List Argument) : List String :=
  arguments.filterMap fun argument =>
    match argument with
    | .word _ => none
    | .option name _ => some name

/-- Whether an option is among arguments. -/
def hasOption (arguments : List Argument) (name : String) : Bool := (optionNames arguments).contains name

/-- The value of an option. -/
def value? (arguments : List Argument) (name : String) : Option String :=
  arguments.findSome? fun argument =>
    match argument with
    | .option other value => if other = name then value else none
    | .word _ => none

/-- Whether no option is repeated. -/
def distinct (arguments : List Argument) : Bool := go (optionNames arguments)
where
  go : List String → Bool
    | [] => true
    | name :: rest => !rest.contains name && go rest

end Argument
end JsonSchema
