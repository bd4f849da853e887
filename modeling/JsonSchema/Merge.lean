import JsonSchema.Json.Canonical

/-!
# Merging schemas

Two schemas are merged keyword by keyword. Of two plain values the right one stays, a boolean
beside an object leaves the left one, and an array wins over everything else. Lists of required
names are joined, lists of item schemas are merged position by position where the types agree,
and in all other lists objects at one position are merged while other values stand one after the
other. Lists but those of items keep equal values once.
-/

namespace JsonSchema

/-- Whether both values are objects. -/
def bothObjects : Json → Json → Bool
  | .obj _, .obj _ => true
  | _, _ => false

/-- Whether two schemas name the same type or both name none. -/
def sameType (a b : Json) : Bool :=
  match a.member? "type", b.member? "type" with
  | some a, some b => a.equal b
  | none, none => true
  | _, _ => false

mutual

/-- Merges two values that stand under a keyword. -/
def mergeUnder (keyword : Option String) : Json → Json → Json
  | .obj left, .obj right =>
    .obj (mergeMembers left right ++ right.filter fun member => !Members.has left member.1)
  | .arr left, .arr right =>
    match keyword with
    | some "required" => .arr (Json.distinct (left ++ right))
    | some "items" => .arr (mergeTuples left right)
    | _ => .arr (Json.distinct (mergeSlots left right))
  | .arr left, _ => .arr left
  | _, .arr right => .arr right
  | .obj left, .bool _ => .obj left
  | .bool left, .obj _ => .bool left
  | _, right => right
termination_by structural a => a

/-- The members on the left, merged with those of the same name on the right. -/
def mergeMembers : List (String × Json) → List (String × Json) → List (String × Json)
  | [], _ => []
  | (name, a) :: rest, right =>
    (name, match right.lookup name with
      | some b => mergeUnder (some name) a b
      | none => a) :: mergeMembers rest right
termination_by structural a => a

/-- Item schemas position by position: merged if they agree on the type, else the right one. -/
def mergeTuples : List Json → List Json → List Json
  | [], right => right
  | left, [] => left
  | a :: left, b :: right =>
    (if bothObjects a b && sameType a b then mergeUnder none a b else b) :: mergeTuples left right
termination_by structural a => a

/-- Other lists position by position: objects merged, other values one after the other. -/
def mergeSlots : List Json → List Json → List Json
  | [], right => right
  | left, [] => left
  | a :: left, b :: right =>
    (if bothObjects a b then [mergeUnder none a b] else [a, b]) ++ mergeSlots left right
termination_by structural a => a

end

/-- Merges two schemas; plain values of the right one win. -/
def merge (a b : Json) : Json := mergeUnder none a b

/-- Merges two results; the first failure wins. -/
def mergeResults {Failure : Type} (a b : Except Failure Json) : Except Failure Json := do
  let a ← a
  let b ← b
  return merge a b

end JsonSchema
