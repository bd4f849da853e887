import JsonSchema.CommandLine.Run

/-!
The command line of the library. Options not given are taken from the environment variables
`JSON_SCHEMA_DRAFT` and `JSON_SCHEMA_DIR`.
-/

open JsonSchema

namespace JsonSchema.Main

/-- The fault behind an error of the system. -/
def faultOf (error : IO.Error) : FileFault :=
  match error with
  | .noFileOrDirectory .. => .missing
  | .resourceExhausted (some _) 36 _ => .nameTooLong
  | error => .other (toString error)

/-- A directory's path as the system takes it. -/
def directoryPath (directory : String) := (IO.FS.DirEntry.mk ⟨directory⟩ "").root

def read (path : String) : IO (Except FileFault String) := do
  try
    if ← (directoryPath path).isDir then return .error .isDirectory
    return .ok (← IO.FS.readFile ⟨path⟩)
  catch error => return .error (faultOf error)

def files (directory : String) : IO (Except FileFault (List String)) := do
  try
    let path := directoryPath directory
    if (← path.pathExists) && !(← path.isDir) then return .error .notDirectory
    let entries ← path.readDir
    let regular ← entries.toList.filterM fun entry => return !(← entry.path.isDir)
    return .ok (regular.map IO.FS.DirEntry.fileName)
  catch error => return .error (faultOf error)

/-- The file system of the machine. -/
def fileSystem : FileSystem IO := ⟨read, files⟩

def usage : String :=
  "usage: json-schema [--config FILE] [--draft DRAFT] [--schema-dir DIR] [--log-json] COMMAND

commands:
  validate --schema SCHEMA [--output text|json] DOCUMENT...
  navigate --schema SCHEMA [--pointer POINTER] [--data FILE]
  reduce --schema SCHEMA [--data FILE [--closest]]"

/-- Runs a command line and answers the exit code. -/
def run (texts : List String) : IO Nat := do
  let environment : Environment := ⟨← IO.getEnv "JSON_SCHEMA_DRAFT", ← IO.getEnv "JSON_SCHEMA_DIR"⟩
  match Invocation.parse? environment texts with
  | none =>
    IO.eprintln usage
    return CommandFault.exitCode
  | some invocation =>
    match ← (invocation.run fileSystem).run with
    | .ok (_, outcome) =>
      IO.print outcome.output
      return outcome.exitCode
    | .error fault =>
      IO.eprintln fault.text
      return CommandFault.exitCode

end JsonSchema.Main

def main (texts : List String) : IO UInt32 := do
  return UInt32.ofNat (← JsonSchema.Main.run texts)
