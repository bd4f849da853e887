import JsonSchema.Check.Judgement

/-!
# Nodes

A node is a fragment of a compiled schema together with the scope it was reached through. From a
node one comes to others: by a key of the data, along a pointer, by reduction, by its reference,
to its parent, or to the member of `oneOf` that fits best. Answers are `none` where the depth
allowed for nested checks does not suffice.
-/

namespace JsonSchema

structure Node where
  context : Context
  fragment : Fragment
  scope : Scope
  /-- The member of `oneOf` that was selected when the node was reduced. -/
  choice : Option Nat

/-! ## Parents -/

/-- Whether two fragments come from one compilation. -/
def Origin.same : Origin → Origin → Bool
  | .document a, .document b => a == b
  | .derived a, .derived b => a.equal b
  | _, _ => false

/-- The fragment in a tree that has the child at a site. -/
def Fragment.parentOf? (tree : Fragment) (site : Site) : Option Fragment :=
  ((tree.outermostFirst tree.site).find? fun entry =>
    entry.2.children.any fun child => child.2.site = site).map Prod.snd

namespace Node

/-- The node of a fragment reached through a scope. -/
def reach (context : Context) (fragment : Fragment) (scope : Scope) : Node := ⟨context, fragment, scope, none⟩

/-- The keywords that are checked, in their order. -/
def keywords (node : Node) : List Keyword := node.fragment.keywords node.context.draft

/-- The trees that can be reached from a node: those in its scope and in the index. -/
def trees (node : Node) : List Fragment :=
  node.scope.map Frame.fragment ++ node.context.index.locations.map Prod.snd ++
    node.context.index.dynamicAnchors.map Prod.snd ++ node.context.index.recursiveAnchors.map Prod.snd

/-- The parent of a fragment, as long as a tree with it can be reached; the scope stays. -/
def parent? (node : Node) : Option Node :=
  let candidates := node.trees.filter fun tree => tree.origin.same node.fragment.origin
  (candidates.findSome? (·.parentOf? node.fragment.site)).map fun fragment =>
    reach node.context fragment node.scope

/-! ## Checks and reductions -/

/-- The violations by data at a place. -/
def validateAt (node : Node) (data : Json) (pointer : Pointer) : Option (List Violation) :=
  node.context.validate node.fragment data pointer node.scope

/-- The violations by data. -/
def validate (node : Node) (data : Json) : Option (List Violation) := node.validateAt data .root

/-- Whether data satisfy the node. -/
def accepts (node : Node) (data : Json) : Option Bool := (node.validate data).map List.isEmpty

/-- The node of a reduced fragment. -/
def ofReduced (context : Context) (reduced : Reduced) : Node :=
  ⟨context, reduced.fragment, reduced.scope, reduced.choice⟩

/-- The node without composition for data at a place, or without data. -/
def settle (node : Node) (data : Option Json) (pointer : Pointer) : Option (Except Violation Node) := do
  match ← node.context.reduce node.fragment data pointer node.scope with
  | .ok reduced => return .ok (ofReduced node.context reduced)
  | .error violation => return .error violation

/-- The node reduced for data at a place. -/
def reduceAt (node : Node) (data : Json) (pointer : Pointer) : Option (Except Violation Node) :=
  node.settle (some data) pointer

/-- The node reduced for data. -/
def reduce (node : Node) (data : Json) : Option (Except Violation Node) := node.reduceAt data .root

/-- The node with `allOf` folded and all other composition kept. -/
def reduceStatic (node : Node) : Option (Except Violation Node) := node.settle none .root

/-! ## References -/

/-- What becomes of a node's reference. -/
inductive Target where
  | plain
  | resolved (node : Node)
  | unresolved (reference : String)

/-- The node that a reference stands for. -/
def resolve (node : Node) : Target :=
  match node.context.resolve node.fragment (node.scope.enter node.fragment) with
  | .plain => .plain
  | .resolved fragment scope => .resolved (reach node.context fragment scope)
  | .unresolved reference => .unresolved reference

/-! ## Navigation -/

/-- The part of a value under a key: a member, or the item at a position. -/
def part? (value : Json) (key : String) : Option Json :=
  match value with
  | .obj members => members.lookup key
  | .arr items => (Pointer.readIndex? key).bind (items[·]?)
  | _ => none

/-- The violation by a key that a schema forbids. -/
def rejection (code : ViolationCode) (schema : Json) (pointer : Pointer) (key : String) (data : Option Json)
    (details : Members) : Violation :=
  ⟨code, pointer.join key, schema, .ofOption (data.bind (part? · key)), details, []⟩

/-- The schema of a property: its own, that of the first pattern that matches, or the one for
additional properties unless that is `false`. -/
def propertySchema? (f : Fragment) (key : String) : Option Fragment :=
  f.property? key
    <|> ((f.patternProperties.find? fun entry => entry.1.matchesIn key).map Prod.snd)
    <|> (f.additionalProperties?.filter fun schema => !(schema.isBool false) && !f.declares key)

/-- The schema of a position; a `false` schema for the rest is an error. -/
def itemSchema? (f : Fragment) (index : Nat) : Except Fragment (Option Fragment) :=
  match f.tupleItems[index]?, f.restItems? with
  | some schema, _ => .ok (some schema)
  | none, some rest => if rest.isBool false then .error rest else .ok (some rest)
  | none, none => .ok none

/-- The schema that a reduced fragment has for a key, if it has one and does not forbid the key. -/
def schemaFor (f : Fragment) (key : String) (data : Option Json) (pointer : Pointer) :
    Except Violation (Option Fragment) :=
  match propertySchema? f key with
  | some schema => .ok (some schema)
  | none =>
    let item := match Pointer.readIndex? key with
      | some index => (itemSchema? f index).mapError fun (rest : Fragment) =>
        rejection .additionalItems rest.schema pointer key data [("index", .ofNat index)]
      | none => .ok none
    match item with
    | .error violation => .error violation
    | .ok (some schema) => .ok (some schema)
    | .ok none =>
      if (f.additionalProperties?.any fun schema => schema.isBool false) && !f.declares key then
        .error (rejection .noAdditionalProperties f.schema pointer key data [("property", .str key)])
      else .ok none

/-- The node that applies to a key of data at a place, or of any data. -/
def getAt (node : Node) (key : String) (data : Option Json) (pointer : Pointer) :
    Option (Except Violation (Option Node)) := do
  match ← node.context.reduce node.fragment data pointer node.scope with
  | .error violation => return .error violation
  | .ok reduced =>
    return (schemaFor reduced.fragment key data pointer).map fun schema =>
      schema.map fun schema => reach node.context schema reduced.scope

/-- The node that applies to a key of data, or of any data. -/
def get (node : Node) (key : String) (data : Option Json) : Option (Except Violation (Option Node)) :=
  node.getAt key data .root

/-- Walks along segments from a place in the data, and reduces the last node. -/
def walkFrom (node : Node) (data : Option Json) (pointer : Pointer) : List String → Option (Except Violation (Option Node))
  | [] => do
    match ← node.settle data pointer with
    | .ok node => return .ok (some node)
    | .error violation => return .error violation
  | segment :: rest => do
    match ← node.getAt segment data pointer with
    | .error violation => return .error violation
    | .ok none => return .ok none
    | .ok (some next) => next.walkFrom (data.bind (part? · segment)) (pointer.join segment) rest

/-- The reduced node that applies to the value a pointer leads to. -/
def walk (node : Node) (pointer : Pointer) (data : Option Json) : Option (Except Violation (Option Node)) :=
  node.walkFrom data .root pointer.segments

/-! ## The closest member of `oneOf` -/

/-- How many properties of a fragment are present in the data and satisfied. -/
def score (context : Context) (fragment : Fragment) (data : Json) (scope : Scope) : Option Nat :=
  match data with
  | .obj members => do
    let verdicts ← (context.settle fragment scope).properties.mapM fun (name, schema) =>
      match members.lookup name with
      | some value => (context.validate schema value (Pointer.root.join name) scope).map List.isEmpty
      | none => some false
    return verdicts.countP id
  | _ => some 0

/-- The position of the first greatest number. -/
def firstGreatest (scores : List Nat) : Option Nat :=
  scores.max?.map scores.idxOf

/-- The member of `oneOf` with the highest score, the first of several, and its position. -/
def closest (node : Node) (data : Json) : Option (Option (Nat × Node)) :=
  let scope := node.scope.enter node.fragment
  let inside := match node.context.resolve node.fragment scope with
    | .plain => some (node.fragment, scope)
    | .resolved fragment scope => some (fragment, scope)
    | .unresolved _ => none
  match inside with
  | none => some none
  | some (fragment, scope) => do
    let scope := scope.enter fragment
    let members := fragment.members .oneOf
    let scores ← members.mapM fun member => score node.context member data scope
    return do
      let index ← firstGreatest scores
      let member ← members[index]?
      return (index, reach node.context member scope)

end Node
end JsonSchema
