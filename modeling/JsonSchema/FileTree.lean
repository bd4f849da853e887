import JsonSchema.FileSystem
import JsonSchema.Text.Encoding

/-!
# Files in memory

A file tree lists files and directories by their paths below one working directory. It is a file
system that needs no effects; every path is relative to the working directory.
-/

namespace JsonSchema

/-- Files with their texts, and directories, by the components of their paths. A directory is
there too if anything is in it. -/
structure FileTree where
  entries : List (List String × Option String)

namespace FileTree

/-- What is found at a path. -/
inductive Entry where
  | file (text : String)
  | directory

/-- The tree of some paths, with the text of each file and nothing for a directory. -/
def ofPaths (paths : List (String × Option String)) : FileTree :=
  ⟨paths.map fun (path, text) => (Path.components path, text)⟩

/-- What is found at some components. -/
def entry? (tree : FileTree) (path : List String) : Option Entry :=
  match tree.entries.lookup path with
  | some (some text) => some (.file text)
  | some none => some .directory
  | none =>
    if path.isEmpty || tree.entries.any (fun entry => path.isPrefixOf entry.1) then some .directory else none

/-- The most bytes that a component of a path may have. -/
def maxNameLength : Nat := 255

/-- The most bytes that a path may have. -/
def maxPathLength : Nat := 4095

/-- Goes on from a directory by one component. -/
def step (tree : FileTree) (here : List String) (component : String) : Except FileFault (List String) :=
  match tree.entry? here with
  | none => .error .missing
  | some (.file _) => .error .notDirectory
  | some .directory =>
    if component = "" ∨ component = "." then .ok here
    else if component = ".." then .ok here.dropLast
    else if maxNameLength < Utf8.byteLength component then .error .nameTooLong
    else .ok (here ++ [component])

/-- What a path leads to. -/
def find (tree : FileTree) (path : String) : Except FileFault (List String × Entry) := do
  if path.contains '\x00' then throw .nulInPath
  if maxPathLength < Utf8.byteLength path then throw .nameTooLong
  if path.isEmpty || path.startsWith "/" then throw .missing
  let components := (Text.splitOn '/' path.toList).map String.ofList
  let place ← components.foldlM tree.step []
  match tree.entry? place with
  | some entry => return (place, entry)
  | none => throw .missing

def read (tree : FileTree) (path : String) : Except FileFault String := do
  match ← tree.find path with
  | (_, .file text) => return text
  | (_, .directory) => throw .isDirectory

def files (tree : FileTree) (directory : String) : Except FileFault (List String) := do
  match ← tree.find directory with
  | (_, .file _) => throw .notDirectory
  | (place, .directory) =>
    return tree.entries.filterMap fun (path, text) =>
      if text.isSome && path.dropLast == place then path.getLast? else none

def fileSystem (tree : FileTree) : FileSystem Id := ⟨tree.read, tree.files⟩

end FileTree
end JsonSchema
