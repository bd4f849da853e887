import JsonSchema.Number.Basic

/-!
# JSON values

An object is its list of members in order. The operations below keep every name at its first
position; a later value for the same name replaces the earlier one there.
-/

namespace JsonSchema

inductive Json where
  | null
  | bool (value : Bool)
  | num (value : Number)
  | str (value : String)
  | arr (items : List Json)
  | obj (members : List (String × Json))

/-- The members of an object, in order. -/
abbrev Members := List (String × Json)

mutual

/-- Values are compared as they are written: neither the order of members nor the kind of a number is disregarded. -/
def Json.decEq : (a b : Json) → Decidable (a = b)
  | .null, .null => .isTrue rfl
  | .bool a, .bool b => decidable_of_iff (a = b) (Json.bool.injEq a b ▸ Iff.rfl)
  | .num a, .num b => decidable_of_iff (a = b) (Json.num.injEq a b ▸ Iff.rfl)
  | .str a, .str b => decidable_of_iff (a = b) (Json.str.injEq a b ▸ Iff.rfl)
  | .arr a, .arr b =>
    have := itemsDecEq a b
    decidable_of_iff (a = b) (Json.arr.injEq a b ▸ Iff.rfl)
  | .obj a, .obj b =>
    have := membersDecEq a b
    decidable_of_iff (a = b) (Json.obj.injEq a b ▸ Iff.rfl)
  | .null, .bool _ | .null, .num _ | .null, .str _ | .null, .arr _ | .null, .obj _
  | .bool _, .null | .bool _, .num _ | .bool _, .str _ | .bool _, .arr _ | .bool _, .obj _
  | .num _, .null | .num _, .bool _ | .num _, .str _ | .num _, .arr _ | .num _, .obj _
  | .str _, .null | .str _, .bool _ | .str _, .num _ | .str _, .arr _ | .str _, .obj _
  | .arr _, .null | .arr _, .bool _ | .arr _, .num _ | .arr _, .str _ | .arr _, .obj _
  | .obj _, .null | .obj _, .bool _ | .obj _, .num _ | .obj _, .str _ | .obj _, .arr _ => .isFalse nofun

def itemsDecEq : (a b : List Json) → Decidable (a = b)
  | [], [] => .isTrue rfl
  | [], _ :: _ | _ :: _, [] => .isFalse nofun
  | x :: xs, y :: ys =>
    have := x.decEq y
    have := itemsDecEq xs ys
    decidable_of_iff (x = y ∧ xs = ys) (List.cons.injEq x xs y ys ▸ Iff.rfl)

def membersDecEq : (a b : Members) → Decidable (a = b)
  | [], [] => .isTrue rfl
  | [], _ :: _ | _ :: _, [] => .isFalse nofun
  | (name, x) :: xs, (name', y) :: ys =>
    have := x.decEq y
    have := membersDecEq xs ys
    decidable_of_iff (name = name' ∧ x = y ∧ xs = ys) (by rw [List.cons.injEq, Prod.mk.injEq, and_assoc])

end

instance : DecidableEq Json := Json.decEq

namespace Members

/-- Whether a member of that name is present. -/
def has (members : Members) (name : String) : Bool := (members.lookup name).isSome

/-- Replaces the value of a present name in its place, or appends a new member. -/
def insert (members : Members) (name : String) (value : Json) : Members :=
  match members with
  | [] => [(name, value)]
  | (key, old) :: rest =>
    if key = name then (key, value) :: rest else (key, old) :: insert rest name value

/-- The members left after dropping those whose name satisfies `dropped`. -/
def without (members : Members) (dropped : String → Bool) : Members :=
  members.filter fun member => !dropped member.1

/-- The names, in order. -/
def names (members : Members) : List String := members.map Prod.fst

end Members

namespace Json

instance : Inhabited Json := ⟨.null⟩

/-- The empty object. -/
def empty : Json := .obj []

def ofNat (n : Nat) : Json := .num (.int n)

/-- An array of strings. -/
def ofStrings (texts : List String) : Json := .arr (texts.map .str)

def ofOption (value : Option Json) : Json := value.getD .null

/-- The value of an object member. -/
def member? : Json → String → Option Json
  | .obj members, name => members.lookup name
  | _, _ => none

def string? : Json → Option String
  | .str s => some s
  | _ => none

def number? : Json → Option Number
  | .num n => some n
  | _ => none

def items? : Json → Option (List Json)
  | .arr items => some items
  | _ => none

def members? : Json → Option Members
  | .obj members => some members
  | _ => none

/-- The value is the boolean `b`. -/
def isBool (b : Bool) : Json → Bool
  | .bool c => b == c
  | _ => false

/-- A string-valued object member. -/
def stringMember? (value : Json) (name : String) : Option String :=
  (value.member? name).bind string?

mutual

/-- How deep arrays and objects are nested. -/
def depth : Json → Nat
  | .arr items => itemsDepth items + 1
  | .obj members => membersDepth members + 1
  | _ => 0

def itemsDepth : List Json → Nat
  | [] => 0
  | item :: rest => max item.depth (itemsDepth rest)

def membersDepth : List (String × Json) → Nat
  | [] => 0
  | (_, value) :: rest => max value.depth (membersDepth rest)

end

mutual

/-- The number of values in a tree, the tree itself included. -/
def size : Json → Nat
  | .arr items => itemsSize items + 1
  | .obj members => membersSize members + 1
  | _ => 1

def itemsSize : List Json → Nat
  | [] => 0
  | item :: rest => item.size + itemsSize rest

def membersSize : List (String × Json) → Nat
  | [] => 0
  | (_, value) :: rest => value.size + membersSize rest

end

end Json
end JsonSchema
