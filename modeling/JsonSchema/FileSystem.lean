import JsonSchema.Text.CharSet

/-!
# File systems

What the library needs of a file system: to read a file, and to list the regular files of a
directory. Paths are texts with slashes between their components.
-/

namespace JsonSchema

/-- Why a file or a directory cannot be read. -/
inductive FileFault where
  | missing
  | notDirectory
  | isDirectory
  | nameTooLong
  /-- The path holds a NUL. -/
  | nulInPath
  | other (message : String)
deriving DecidableEq, Repr

def FileFault.message : FileFault → String
  | .missing => "No such file or directory (os error 2)"
  | .notDirectory => "Not a directory (os error 20)"
  | .isDirectory => "Is a directory (os error 21)"
  | .nameTooLong => "File name too long (os error 36)"
  | .nulInPath => "file name contained an unexpected NUL byte"
  | .other message => message

/-- A file system as a computation in `m` sees it. -/
structure FileSystem (m : Type → Type) where
  /-- The text of a file. -/
  read : String → m (Except FileFault String)
  /-- The names of the regular files right in a directory, in any order. -/
  files : String → m (Except FileFault (List String))

namespace Path

/-- The components of a path, without empty ones and those that stand for their directory. -/
def components (path : String) : List String :=
  ((Text.splitOn '/' path.toList).map String.ofList).filter fun component => component ≠ "" && component ≠ "."

/-- The name of the file that a path leads to. -/
def fileName? (path : String) : Option String := (components path).getLast?.filter (· ≠ "..")

/-- What follows the last point of a file name, unless the point starts the name. -/
def extensionOf? (name : String) : Option String :=
  match Text.splitOn '.' name.toList with
  | [_] => none
  | [[], _] => none
  | pieces => pieces.getLast?.map String.ofList

/-- The extension of the file that a path leads to. -/
def extension? (path : String) : Option String := (fileName? path).bind extensionOf?

/-- The path of a file in a directory. -/
def join (directory name : String) : String :=
  if directory.toList.getLast? = some '/' then directory ++ name else directory ++ "/" ++ name

end Path
end JsonSchema
