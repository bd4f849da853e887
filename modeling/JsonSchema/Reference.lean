import JsonSchema.Merge
import JsonSchema.Schema.Index

/-!
# References

A fragment with a reference stands for the target of the reference. In older drafts the target
replaces it; from 2019-09 on the keywords beside the reference are merged into the target, whose
own references are made absolute first so that they keep their meaning. Chains of references are
followed to their end. A chain that comes to a target twice, or to a target that cannot be found,
is unresolved. The scope tells the way: it is the chain of fragments to the one at hand, innermost
first, and its frames that stand for a check of data also keep the place of the data.
-/

namespace JsonSchema

/-! ## Scopes -/

/-- One fragment on the way, with the place of the data it was checked against, if any. -/
structure Frame where
  fragment : Fragment
  instance? : Option Pointer

/-- Frames, innermost first. -/
abbrev Scope := List Frame

namespace Scope

/-- The scope inside a fragment. -/
def enter (scope : Scope) (fragment : Fragment) : Scope := ⟨fragment, none⟩ :: scope

/-- The scope inside a fragment that is checked against data at a place. -/
def enterAt (scope : Scope) (fragment : Fragment) (pointer : Pointer) : Scope :=
  ⟨fragment, some pointer⟩ :: scope

/-- The fragments, outermost first. -/
def outermostFirst (scope : Scope) : List Fragment := (scope.map Frame.fragment).reverse

/-- The locations, outermost first. -/
def locations (scope : Scope) : List String := scope.outermostFirst.map Fragment.location

/-- Whether a location is already being checked against the data at a place. -/
def isChecking (scope : Scope) (location : String) (pointer : Pointer) : Bool :=
  scope.any fun frame => frame.instance? = some pointer && frame.fragment.location == location

end Scope

/-! ## Absolute references -/

/-- The address a reference denotes, or the reference itself where it denotes none. -/
def absolute (base : Uri) (reference : String) : String :=
  match base.join reference with
  | .ok address => address.text
  | .error _ => reference

/-- Keywords whose values are data and no schemas. -/
def dataKeywords : List String := ["enum", "const", "default", "examples"]

/-- The base that an object's members have: the one its identifier denotes. -/
def ownBase (base : Uri) (members : Members) : Uri :=
  match members.lookup "$id" <|> members.lookup "id" with
  | some (.str id) => (base.join id).toOption.getD base
  | _ => base

mutual

/-- A schema with its references and identifiers made absolute. -/
def rebase (base : Uri) : Json → Json
  | .obj members => .obj (rebaseMembers base (ownBase base members) members)
  | .arr items => .arr (rebaseItems base items)
  | value => value

def rebaseItems (base : Uri) : List Json → List Json
  | [] => []
  | item :: rest => rebase base item :: rebaseItems base rest

/-- The members of an object: identifiers against the base around it, all else against its own. -/
def rebaseMembers (base own : Uri) : List (String × Json) → List (String × Json)
  | [] => []
  | (name, value) :: rest =>
    (name,
      if name = "$id" ∨ name = "id" then
        match value with
        | .str id => .str (absolute base id)
        | value => rebase own value
      else if name = "$ref" ∨ name = "$recursiveRef" ∨ name = "$dynamicRef" then
        match value with
        | .str reference => .str (absolute own reference)
        | value => rebase own value
      else if dataKeywords.contains name then value
      else rebase own value) :: rebaseMembers base own rest

end

/-! ## Keywords beside a reference -/

/-- Keywords that stay behind when the siblings of a reference are merged into its target. -/
def strippedSiblings : List String := [
  "$ref", "$recursiveRef", "$dynamicRef", "$schema", "$id", "id", "$anchor", "$dynamicAnchor",
  "$recursiveAnchor", "$defs", "definitions"]

/-- Keywords that alone make no merge necessary. -/
def trivialSiblings : List String :=
  strippedSiblings ++ ["$comment", "$vocabulary", "title", "description", "examples", "default"]

/-- Whether keywords stand beside a reference that have to be merged. -/
def hasSiblings (schema : Json) : Bool :=
  match schema with
  | .obj members => members.any fun member => !trivialSiblings.contains member.1
  | _ => false

/-- The keywords beside a reference as a schema. -/
def siblings (schema : Json) : Json :=
  match schema with
  | .obj members => .obj (Members.without members strippedSiblings.contains)
  | _ => .empty

/-- A target as it is merged. The schema `true` is the one without keywords. -/
def mergeTarget (target : Fragment) : Json :=
  if target.isBool true then .empty else rebase target.site.base target.schema

/-! ## Resolution -/

/-- What becomes of a fragment's reference. -/
inductive Resolution where
  /-- The fragment has none. -/
  | plain
  /-- The fragment it stands for, and the scope with every target on the way. -/
  | resolved (fragment : Fragment) (scope : Scope)
  /-- The reference, as it is written, that leads nowhere. -/
  | unresolved (reference : String)

/-- The resource and the fragment identifier of a reference. -/
def splitReference (base : Uri) (reference : String) : Option (Uri × String) :=
  match base.join reference with
  | .ok address => some (address.withoutFragment, address.fragment.getD "")
  | .error _ => none

namespace Context

/-- The target of one reference. A dynamic reference that ends at a fragment with the matching
anchor goes on to the outermost resource in scope with that anchor. -/
def target? (context : Context) (source : Fragment) (keyword : ReferenceKeyword) (reference : String)
    (scope : Scope) : Option Fragment := do
  let (resource, identifier) ← splitReference source.site.base reference
  let target ← context.lookup? resource identifier
  let outermost (find : Fragment → Option Fragment) := (scope.outermostFirst.findSome? find).getD target
  match keyword with
  | .static => return target
  | .recursive =>
    if (target.keyword? "$recursiveAnchor").any (·.isBool true) then
      return outermost fun frame => context.recursiveAnchor? frame.site.base
    else return target
  | .dynamic =>
    if !identifier.isEmpty && target.schema.stringMember? "$dynamicAnchor" == some identifier then
      return outermost fun frame => context.dynamicAnchor? frame.site.base identifier
    else return target

/-- What a fragment with a reference to `target` stands for. -/
def follow? (context : Context) (source target : Fragment) : Option Fragment :=
  if context.draft.mergesSiblings && hasSiblings source.schema then
    let merged := merge (mergeTarget target) (siblings source.schema)
    (Fragment.derive context.draft source.site merged).toOption
  else some target

/-- Follows a chain of references that has come to the locations in `seen`. -/
def followChain (context : Context) : Nat → List String → Fragment → Scope → Resolution
  | fuel, seen, current, scope =>
    match current.reference? context.draft with
    | none => .resolved current scope
    | some (keyword, reference) =>
      match context.target? current keyword reference scope with
      | none => .unresolved reference
      | some target =>
        if seen.contains target.location then .unresolved reference
        else
          match fuel, context.follow? current target with
          | fuel + 1, some next =>
            followChain context fuel (target.location :: seen) next (scope.enter target)
          | _, _ => .unresolved reference

/-- Resolves the reference of a fragment. The targets of a chain are at different locations, of which
there are no more than the index allows for, so the chain is followed to its end. -/
def resolve (context : Context) (fragment : Fragment) (scope : Scope) : Resolution :=
  if (fragment.reference? context.draft).isNone then .plain
  else context.followChain (context.index.chainLimit + 1) [] fragment scope

/-- A fragment with its reference followed, or the fragment itself. -/
def settle (context : Context) (fragment : Fragment) (scope : Scope) : Fragment :=
  match context.resolve fragment scope with
  | .resolved target _ => target
  | _ => fragment

end Context
end JsonSchema
