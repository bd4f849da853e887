import JsonSchema.Format.Basic
import JsonSchema.Schema.Compilation

/-!
# The index of a compiled schema

The index finds documents by their address and fragments by their location, by an anchor of
either kind, or by the recursive anchor of their resource. Of two entries for one key the later
one counts; entries are kept latest first.
-/

namespace JsonSchema

structure Index where
  /-- The JSON of every resource, by address. -/
  documents : List (String × Json)
  /-- Fragments by location and by plain name. -/
  locations : List (String × Fragment)
  /-- Fragments by `$dynamicAnchor`. -/
  dynamicAnchors : List (String × Fragment)
  /-- Resource roots with `$recursiveAnchor`, by address. -/
  recursiveAnchors : List (String × Fragment)

namespace Index

def empty : Index := ⟨[], [], [], []⟩

/-- The key of a plain name in a resource. -/
def anchorKey (base : Uri) (name : String) : String := base.text ++ "#" ++ name

/-- Whether a fragment opens a resource other than the one it was compiled for. -/
def opensResource (outer : Site) (f : Fragment) : Bool := outer.base ≠ f.site.base

/-- The keys of a fragment: where it was compiled, the root of the resource it opens, and the
plain names it declares. -/
def keysOf (outer : Site) (f : Fragment) : List String :=
  outer.location :: (if opensResource outer f then [f.location] else []) ++
    f.anchors.map (anchorKey f.site.base)

/-- The dynamic anchor of a fragment. -/
def dynamicKey? (draft : Draft) (f : Fragment) : Option String :=
  if draft.hasDynamicRef then (f.schema.stringMember? "$dynamicAnchor").map (anchorKey f.site.base) else none

/-- The recursive anchor of a fragment, which has to be the root of its resource. -/
def recursiveKey? (draft : Draft) (f : Fragment) : Option String :=
  if draft.hasRecursiveRef && ((f.keyword? "$recursiveAnchor").any (·.isBool true)) && f.site.within.isRoot then
    some f.site.base.text
  else none

/-- Adds a document and all its fragments. -/
def add (draft : Draft) (index : Index) (base : Uri) (root : Fragment) : Index :=
  let outer := Site.ofDocument base
  let opened := (root.outermostFirst outer).filter fun (site, f) => opensResource site f
  let fragments := root.innermostFirst outer
  let resources := (base.text, root.schema) :: opened.map fun (_, f) => (f.site.base.text, f.schema)
  let locations := fragments.flatMap fun (site, f) => (keysOf site f).map (·, f)
  let dynamic := fragments.filterMap fun (_, f) => (dynamicKey? draft f).map (·, f)
  let recursive := fragments.filterMap fun (_, f) => (recursiveKey? draft f).map (·, f)
  ⟨resources.reverse ++ index.documents, locations.reverse ++ index.locations,
    dynamic.reverse ++ index.dynamicAnchors, recursive.reverse ++ index.recursiveAnchors⟩

/-- The number of compiled locations and of all values in documents. -/
def capacity (index : Index) : Nat :=
  index.documents.foldr (fun entry rest => entry.2.size + rest) index.locations.length

/-- The number of entries for fragments. -/
def entryCount (index : Index) : Nat :=
  index.locations.length + index.dynamicAnchors.length + index.recursiveAnchors.length

/-- A number no smaller than that of the addresses with the text of a document's address. Each part of
an address is made of characters of its text. -/
def addressLimit (index : Index) : Nat :=
  index.documents.foldr (fun entry rest => Nat.pow (Nat.pow 2 entry.1.length + 1) 7 + rest) 0

/-- A number no smaller than that of the locations to which one chain of references can come. A target
is in the index, or it is a value of a document that some address and identifier name. Identifiers are
those of the first reference of the chain and of the references, as written or made absolute, of what
can be a target. -/
def chainLimit (index : Index) : Nat :=
  index.entryCount + index.addressLimit * (6 * (index.entryCount + index.addressLimit * index.capacity) + 1)

end Index

/-- What the fragments of one compiled schema share. -/
structure Context where
  draft : Draft
  formats : Formats
  index : Index

namespace Context

/-- The fragment of a location, unless a later one took its place. -/
def located? (context : Context) (key : String) : Option Fragment := context.index.locations.lookup key

/-- The fragment that a fragment identifier names in a resource. An identifier that starts with a
slash, plain or encoded, is a pointer; where it leads into a document but to no compiled fragment,
the value there is compiled. -/
def lookup? (context : Context) (resource : Uri) (identifier : String) : Option Fragment :=
  let base := resource.text
  if identifier.isEmpty then context.located? (base ++ "#")
  else if ¬ (['/'].isPrefixOf identifier.toList ∨ ['%', '2', 'F'].isPrefixOf identifier.toList) then
    context.located? (base ++ "#" ++ identifier)
  else
    match Pointer.ofFragment identifier with
    | .error _ => none
    | .ok pointer =>
      match context.located? (base ++ "#" ++ pointer.path) with
      | some fragment => some fragment
      | none => do
        let document ← context.index.documents.lookup base
        let schema ← pointer.resolve? document
        (Fragment.derive context.draft ⟨resource, pointer, pointer⟩ schema).toOption

/-- The fragment that declares a dynamic anchor in a resource. -/
def dynamicAnchor? (context : Context) (base : Uri) (name : String) : Option Fragment :=
  context.index.dynamicAnchors.lookup (Index.anchorKey base name)

/-- The root of a resource that declares a recursive anchor. -/
def recursiveAnchor? (context : Context) (base : Uri) : Option Fragment :=
  context.index.recursiveAnchors.lookup base.text

end Context
end JsonSchema
