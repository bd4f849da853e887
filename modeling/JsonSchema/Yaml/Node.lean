import JsonSchema.Yaml.Scalar
import JsonSchema.Yaml.Tag

/-!
# Nodes

A document is a tree of scalars, sequences and mappings. A node with an anchor takes a slot, and
an alias stands for the node in its slot. Replacing the aliases gives a tree without them; there
are limits on how deep that tree is and how many replacements it takes.
-/

namespace JsonSchema.Yaml

structure Scalar where
  tag : Option Tag
  style : ScalarStyle
  text : String
deriving DecidableEq, Repr

/-- The scalar that stands where a node is left out. -/
def Scalar.empty : Scalar := ⟨none, .plain, ""⟩

/-- A node as it is written; an anchor is its slot. -/
inductive Node where
  | alias (slot : Nat)
  | scalar (anchor : Option Nat) (content : Scalar)
  | sequence (anchor : Option Nat) (tag : Option Tag) (items : List Node)
  | mapping (anchor : Option Nat) (tag : Option Tag) (entries : List (Node × Node))

/-- A node without aliases. -/
inductive Tree where
  | scalar (content : Scalar)
  | sequence (tag : Option Tag) (items : List Tree)
  | mapping (tag : Option Tag) (entries : List (Tree × Tree))

namespace Node

instance : Inhabited Node := ⟨.alias 0⟩

/-- The node where one is left out. -/
def empty : Node := .scalar none .empty

mutual

/-- The number of scalars, aliases, and starts and ends of collections. -/
def events : Node → Nat
  | .sequence _ _ items => itemEvents items + 2
  | .mapping _ _ entries => entryEvents entries + 2
  | _ => 1

def itemEvents : List Node → Nat
  | [] => 0
  | item :: rest => item.events + itemEvents rest

def entryEvents : List (Node × Node) → Nat
  | [] => 0
  | (key, value) :: rest => key.events + value.events + entryEvents rest

end

/-- The slot of a node with an anchor. -/
def slot? : Node → Option Nat
  | .alias _ => none
  | .scalar anchor _ => anchor
  | .sequence anchor _ _ => anchor
  | .mapping anchor _ _ => anchor

/-- A slot and the node that takes it. -/
def ownSlot (node : Node) : List (Nat × Node) :=
  match node.slot? with
  | some slot => [(slot, node)]
  | none => []

mutual

/-- The nodes with anchors and their slots, in the order in which they start. -/
def slots : Node → List (Nat × Node)
  | .sequence anchor tag items => ownSlot (.sequence anchor tag items) ++ itemSlots items
  | .mapping anchor tag entries => ownSlot (.mapping anchor tag entries) ++ entrySlots entries
  | node => ownSlot node

def itemSlots : List Node → List (Nat × Node)
  | [] => []
  | item :: rest => item.slots ++ itemSlots rest

def entrySlots : List (Node × Node) → List (Nat × Node)
  | [] => []
  | (key, value) :: rest => key.slots ++ value.slots ++ entrySlots rest

end

/-! ## Replacing aliases -/

/-- How deep collections may be nested. -/
def maxDepth : Nat := 128

/-- How many aliases may be replaced, for each of a document's events. -/
def replacementsPerEvent : Nat := 100

/-- A computation that spends replacements and fails when none are left. -/
abbrev Replacing := StateT Nat Option

/-- The node itself, or for an alias the last node to take its slot. -/
def target (table : List (Nat × Node)) : Node → Replacing Node
  | .alias slot => do
    let left ← get
    if left = 0 then failure
    set (left - 1)
    match table.lookup slot with
    | some node => return node
    | none => failure
  | node => return node

/-- The tree of a node, at most `depth` collections deep. -/
def replace (table : List (Nat × Node)) (depth : Nat) (node : Node) : Replacing Tree := do
  match ← target table node, depth with
  | .scalar _ content, _ => return .scalar content
  | .sequence _ tag items, depth + 1 => return .sequence tag (← items.mapM (replace table depth))
  | .mapping _ tag entries, depth + 1 =>
    return .mapping tag (← entries.mapM fun entry => do
      return (← replace table depth entry.1, ← replace table depth entry.2))
  | _, _ => failure
termination_by structural depth

/-- The tree of a document. -/
def toTree? (document : Node) : Option Tree :=
  ((replace document.slots.reverse maxDepth document).run (replacementsPerEvent * document.events)).map Prod.fst

end Node
end JsonSchema.Yaml
