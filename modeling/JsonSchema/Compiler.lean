import JsonSchema.Node

/-!
# Compiling schemas

A schema is compiled together with the remote documents it may refer to, all of them for one
draft: the one asked for, or the one that the schema names, or the latest. Documents that declare
no address of their own stand under the default address.
-/

namespace JsonSchema

/-- What a schema is compiled with. -/
structure Compiler where
  draft : Option Draft
  /-- Remote documents by address, in order; a later one replaces an earlier one. -/
  remotes : List (String × Json)
  formats : Formats

namespace Compiler

/-- The compiler that detects the draft and knows the standard formats. -/
def standard : Compiler := ⟨none, [], .standard⟩

/-- The draft that a schema is compiled for. -/
def draftFor (compiler : Compiler) (schema : Json) : Draft :=
  (compiler.draft <|> Draft.detect? schema).getD .latest

/-- The address that a remote document is registered under. -/
def remoteBase (address : String) : Except SchemaFault Uri :=
  match Uri.default.join address with
  | .ok uri => .ok uri.withoutFragment
  | .error fault => .error (.address address fault)

/-- Compiles a document and adds it to an index. -/
def addDocument (draft : Draft) (index : Index) (position : Nat) (base : Uri) (schema : Json) :
    Except SchemaFault (Index × Fragment) := do
  let root ← Fragment.compile draft (.document position) (.ofDocument base) schema
  return (index.add draft base root, root)

/-- Compiles the remote documents in their order. -/
def addRemotes (draft : Draft) (index : Index) (position : Nat) :
    List (String × Json) → Except SchemaFault (Index × Nat)
  | [] => .ok (index, position)
  | (address, schema) :: rest => do
    let base ← remoteBase address
    let (index, _) ← addDocument draft index position base schema
    addRemotes draft index (position + 1) rest

/-- Compiles a schema after the remote documents. -/
def compile (compiler : Compiler) (schema : Json) : Except SchemaFault Node := do
  let draft := compiler.draftFor schema
  let (index, position) ← addRemotes draft .empty 0 compiler.remotes
  let (index, root) ← addDocument draft index position .default schema
  return .reach ⟨draft, compiler.formats, index⟩ root []

end Compiler
end JsonSchema
