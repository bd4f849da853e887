import JsonSchema.Json.Basic
import JsonSchema.Pointer
import Mathlib.Data.Set.Finite.Lattice

/-!
# Places in a value

A place is given by the names and positions on the way down. The parts of a value are the values
at all its places; they are finitely many, and all but the value itself are less deep.
-/

namespace JsonSchema

/-- What is found under a key stands there. -/
theorem mem_of_lookup {α : Type} {entries : List (String × α)} {key : String} {value : α}
    (found : entries.lookup key = some value) : (key, value) ∈ entries := by
  induction entries with
  | nil => simp at found
  | cons head rest ih =>
    rw [List.lookup_cons] at found
    split at found
    · rename_i same
      rw [beq_iff_eq] at same
      cases found
      simp [same]
    · exact List.mem_cons_of_mem _ (ih found)

theorem mem_filterMap_string? {names : List Json} {name : String} :
    name ∈ names.filterMap Json.string? ↔ .str name ∈ names := by
  rw [List.mem_filterMap]
  refine ⟨?_, fun inside => ⟨_, inside, rfl⟩⟩
  rintro ⟨value, inside, text⟩
  cases value <;> cases text
  exact inside

namespace Json

/-! ## Depth -/

theorem depth_lt_of_mem_items {item : Json} {items : List Json} (member : item ∈ items) :
    item.depth < (Json.arr items).depth := by
  have below : item.depth ≤ itemsDepth items := by
    induction items with
    | nil => simp at member
    | cons head rest ih =>
      rw [itemsDepth]
      rcases List.mem_cons.mp member with rfl | later
      · exact Nat.le_max_left _ _
      · exact Nat.le_trans (ih later) (Nat.le_max_right _ _)
  rw [depth]
  exact Nat.lt_succ_of_le below

theorem depth_lt_of_mem_members {entry : String × Json} {members : Members} (member : entry ∈ members) :
    entry.2.depth < (Json.obj members).depth := by
  have below : entry.2.depth ≤ membersDepth members := by
    induction members with
    | nil => simp at member
    | cons head rest ih =>
      rw [membersDepth]
      rcases List.mem_cons.mp member with rfl | later
      · exact Nat.le_max_left _ _
      · exact Nat.le_trans (ih later) (Nat.le_max_right _ _)
  rw [depth]
  exact Nat.lt_succ_of_le below

theorem depth_lt_of_member? {value part : Json} {name : String} (found : value.member? name = some part) :
    part.depth < value.depth := by
  cases value with
  | obj members => exact depth_lt_of_mem_members (mem_of_lookup found)
  | _ => simp [member?] at found

/-- A list is at most as deep as a bound just if its items are less deep. -/
theorem depth_arr_le_iff {items : List Json} {bound : Nat} :
    (arr items).depth ≤ bound + 1 ↔ ∀ item ∈ items, item.depth ≤ bound := by
  refine ⟨fun shallow item inside => ?_, fun each => ?_⟩
  · exact Nat.le_of_lt_succ (Nat.lt_of_lt_of_le (depth_lt_of_mem_items inside) shallow)
  · rw [depth, Nat.succ_le_succ_iff]
    induction items with
    | nil => exact Nat.zero_le _
    | cons item rest ih =>
      rw [List.forall_mem_cons] at each
      exact Nat.max_le.mpr ⟨each.1, ih each.2⟩

theorem depth_obj_le_iff {members : Members} {bound : Nat} :
    (obj members).depth ≤ bound + 1 ↔ ∀ key value, (key, value) ∈ members → value.depth ≤ bound := by
  refine ⟨fun shallow key value inside => ?_, fun each => ?_⟩
  · exact Nat.le_of_lt_succ (Nat.lt_of_lt_of_le (depth_lt_of_mem_members inside) shallow)
  · rw [depth, Nat.succ_le_succ_iff]
    induction members with
    | nil => exact Nat.zero_le _
    | cons entry rest ih =>
      obtain ⟨key, value⟩ := entry
      exact Nat.max_le.mpr ⟨each key value List.mem_cons_self,
        ih fun key value inside => each key value (List.mem_cons_of_mem _ inside)⟩

/-- An object is no deeper without some of its members. -/
theorem depth_without_le (members : Members) (dropped : String → Bool) :
    (obj (members.without dropped)).depth ≤ (obj members).depth := by
  refine depth_obj_le_iff.mpr fun key value inside => ?_
  exact depth_obj_le_iff.mp Nat.le.refl key value (List.mem_of_mem_filter inside)

mutual

theorem depth_le_size : ∀ value : Json, value.depth ≤ value.size
  | arr items => Nat.succ_le_succ (itemsDepth_le_size items)
  | obj members => Nat.succ_le_succ (membersDepth_le_size members)
  | null | bool _ | num _ | str _ => Nat.zero_le _

theorem itemsDepth_le_size : ∀ items : List Json, itemsDepth items ≤ itemsSize items
  | [] => Nat.le_refl 0
  | item :: rest => Nat.max_le.mpr ⟨Nat.le_trans item.depth_le_size (Nat.le_add_right _ _),
      Nat.le_trans (itemsDepth_le_size rest) (Nat.le_add_left _ _)⟩

theorem membersDepth_le_size : ∀ members : Members, membersDepth members ≤ membersSize members
  | [] => Nat.le_refl 0
  | (_, value) :: rest => Nat.max_le.mpr ⟨Nat.le_trans value.depth_le_size (Nat.le_add_right _ _),
      Nat.le_trans (membersDepth_le_size rest) (Nat.le_add_left _ _)⟩

end

/-! ## Places -/

/-- The value at a place below another one. -/
inductive At : Json → List String → Json → Prop where
  | here {value : Json} : At value [] value
  | member {members : Members} {name : String} {child part : Json} {segments : List String}
      (inside : (name, child) ∈ members) (rest : At child segments part) :
      At (.obj members) (name :: segments) part
  | item {items : List Json} {index : Nat} {child part : Json} {segments : List String}
      (inside : items[index]? = some child) (rest : At child segments part) :
      At (.arr items) (toString index :: segments) part

theorem At.trans {value middle part : Json} {outer inner : List String} (upper : At value outer middle)
    (lower : At middle inner part) : At value (outer ++ inner) part := by
  induction upper with
  | here => exact lower
  | member inside _ ih => exact .member inside (ih lower)
  | item inside _ ih => exact .item inside (ih lower)

theorem at_of_lookup {members : Members} {name : String} {child : Json}
    (found : members.lookup name = some child) : At (.obj members) [name] child :=
  .member (mem_of_lookup found) .here

/-- A part is less deep unless it is the value itself. -/
theorem At.depth_lt {value part : Json} {segments : List String} (place : At value segments part)
    (proper : segments ≠ []) : part.depth < value.depth := by
  induction place with
  | here => exact absurd rfl proper
  | @member members name child part segments inside rest ih =>
    have smaller := depth_lt_of_mem_members inside
    cases segments with
    | nil =>
      cases rest
      exact smaller
    | cons segment segments => exact (ih (by simp)).trans smaller
  | @item items index child part segments inside rest ih =>
    have smaller := depth_lt_of_mem_items (List.mem_of_getElem? inside)
    cases segments with
    | nil =>
      cases rest
      exact smaller
    | cons segment segments => exact (ih (by simp)).trans smaller

/-- The values at all places. -/
def parts (value : Json) : Set Json := {part | ∃ segments, At value segments part}

theorem self_mem_parts (value : Json) : value ∈ value.parts := ⟨[], .here⟩

theorem parts_trans {value middle part : Json} (upper : middle ∈ value.parts) (lower : part ∈ middle.parts) :
    part ∈ value.parts := by
  obtain ⟨outer, upper⟩ := upper
  obtain ⟨inner, lower⟩ := lower
  exact ⟨outer ++ inner, upper.trans lower⟩

theorem depth_le_of_mem_parts {value part : Json} (inside : part ∈ value.parts) : part.depth ≤ value.depth := by
  obtain ⟨segments, place⟩ := inside
  by_cases proper : segments = []
  · subst proper
    cases place
    exact Nat.le_refl _
  · exact Nat.le_of_lt (place.depth_lt proper)

/-- A pointer leads to a part. -/
theorem mem_parts_of_resolve? {pointer : Pointer} {value part : Json}
    (found : pointer.resolve? value = some part) : part ∈ value.parts := by
  obtain ⟨segments⟩ := pointer
  unfold Pointer.resolve? at found
  induction segments generalizing value with
  | nil =>
    cases found
    exact self_mem_parts _
  | cons segment rest ih =>
    rw [List.foldlM_cons] at found
    obtain ⟨child, step, later⟩ := Option.bind_eq_some_iff.mp found
    refine parts_trans ?_ (ih later)
    cases value with
    | obj members => exact ⟨_, at_of_lookup step⟩
    | arr items =>
      obtain ⟨index, -, item⟩ := Option.bind_eq_some_iff.mp step
      exact ⟨_, .item item .here⟩
    | _ => cases step

/-! ## Counting values -/

mutual

/-- The values in a value, itself first. -/
def values : Json → List Json
  | .arr items => .arr items :: itemsValues items
  | .obj members => .obj members :: membersValues members
  | value => [value]

def itemsValues : List Json → List Json
  | [] => []
  | item :: rest => item.values ++ itemsValues rest

def membersValues : List (String × Json) → List Json
  | [] => []
  | (_, value) :: rest => value.values ++ membersValues rest

end

mutual

theorem length_values : ∀ value : Json, value.values.length = value.size
  | .arr items => congrArg Nat.succ (length_itemsValues items)
  | .obj members => congrArg Nat.succ (length_membersValues members)
  | .null | .bool _ | .num _ | .str _ => rfl

theorem length_itemsValues : ∀ items : List Json, (itemsValues items).length = itemsSize items
  | [] => rfl
  | item :: rest => by
    rw [itemsValues, itemsSize, List.length_append, length_values item, length_itemsValues rest]

theorem length_membersValues : ∀ members : List (String × Json), (membersValues members).length = membersSize members
  | [] => rfl
  | (name, value) :: rest => by
    rw [membersValues, membersSize, List.length_append, length_values value, length_membersValues rest]

end

theorem self_mem_values (value : Json) : value ∈ value.values := by
  cases value <;> simp [values]

theorem mem_itemsValues {item part : Json} {items : List Json} (inside : item ∈ items) (below : part ∈ item.values) :
    part ∈ itemsValues items := by
  induction items with
  | nil => cases inside
  | cons head rest ih =>
    rcases List.mem_cons.mp inside with rfl | later
    · exact List.mem_append_left _ below
    · exact List.mem_append_right _ (ih later)

theorem mem_membersValues {entry : String × Json} {part : Json} {members : Members} (inside : entry ∈ members)
    (below : part ∈ entry.2.values) : part ∈ membersValues members := by
  induction members with
  | nil => cases inside
  | cons head rest ih =>
    rcases List.mem_cons.mp inside with rfl | later
    · exact List.mem_append_left _ below
    · exact List.mem_append_right _ (ih later)

/-- Every part is listed. -/
theorem mem_values {value part : Json} (inside : part ∈ value.parts) : part ∈ value.values := by
  obtain ⟨segments, place⟩ := inside
  induction place with
  | here => exact self_mem_values _
  | member inside _ ih => exact List.mem_cons_of_mem _ (mem_membersValues inside ih)
  | item inside _ ih => exact List.mem_cons_of_mem _ (mem_itemsValues (List.mem_of_getElem? inside) ih)

theorem finite_parts (value : Json) : value.parts.Finite :=
  (List.finite_toSet value.values).subset fun _ inside => mem_values inside

/-! ## Counting places -/

mutual

/-- The ways to the values in a value, one for each of them. -/
def ways : Json → List (List String)
  | .arr items => [] :: itemsWays 0 items
  | .obj members => [] :: membersWays members
  | _ => [[]]

def itemsWays (first : Nat) : List Json → List (List String)
  | [] => []
  | item :: rest => item.ways.map (toString first :: ·) ++ itemsWays (first + 1) rest

def membersWays : List (String × Json) → List (List String)
  | [] => []
  | (name, value) :: rest => value.ways.map (name :: ·) ++ membersWays rest

end

mutual

theorem length_ways : ∀ value : Json, value.ways.length = value.size
  | .arr items => congrArg Nat.succ (length_itemsWays 0 items)
  | .obj members => congrArg Nat.succ (length_membersWays members)
  | .null | .bool _ | .num _ | .str _ => rfl

theorem length_itemsWays : ∀ (first : Nat) (items : List Json), (itemsWays first items).length = itemsSize items
  | _, [] => rfl
  | first, item :: rest => by
    rw [itemsWays, itemsSize, List.length_append, List.length_map, length_ways item, length_itemsWays (first + 1) rest]

theorem length_membersWays : ∀ members : List (String × Json), (membersWays members).length = membersSize members
  | [] => rfl
  | (name, value) :: rest => by
    rw [membersWays, membersSize, List.length_append, List.length_map, length_ways value, length_membersWays rest]

end

theorem mem_membersWays {members : Members} {name : String} {child : Json} {way : List String}
    (inside : (name, child) ∈ members) (below : way ∈ child.ways) : name :: way ∈ membersWays members := by
  induction members with
  | nil => cases inside
  | cons first rest ih =>
    rw [membersWays, List.mem_append]
    rcases List.mem_cons.mp inside with rfl | later
    · exact .inl (List.mem_map_of_mem below)
    · exact .inr (ih later)

theorem mem_itemsWays {items : List Json} (first : Nat) {index : Nat} {child : Json} {way : List String}
    (inside : items[index]? = some child) (below : way ∈ child.ways) :
    toString (first + index) :: way ∈ itemsWays first items := by
  induction items generalizing first index with
  | nil => cases inside
  | cons item rest ih =>
    rw [itemsWays, List.mem_append]
    cases index with
    | zero =>
      cases inside
      exact .inl (List.mem_map_of_mem below)
    | succ index =>
      rw [Nat.add_succ, ← Nat.succ_add]
      exact .inr (ih (first + 1) inside)

/-- Every place is one of the ways. -/
theorem At.mem_ways {value part : Json} {way : List String} (place : At value way part) : way ∈ value.ways := by
  induction place with
  | @here value => cases value <;> simp [ways]
  | member inside _ ih => exact List.mem_cons_of_mem _ (mem_membersWays inside ih)
  | @item _ index _ _ _ inside _ ih =>
    have listed := mem_itemsWays 0 inside ih
    rw [Nat.zero_add] at listed
    exact List.mem_cons_of_mem _ listed

end Json

/-! ## Places below a place -/

instance : Append Pointer := ⟨fun p q => p.joinAll q.segments⟩

namespace Pointer

variable (p q r : Pointer)

@[simp]
theorem append_root : p ++ root = p := congrArg mk (List.append_nil _)

@[simp]
theorem append_join (name : String) : (p ++ q).join name = p ++ q.join name := congrArg mk (List.append_assoc ..)

@[simp]
theorem append_item (index : Nat) : (p ++ q).item index = p ++ q.item index := append_join p q _

theorem append_right_injective : Function.Injective (p ++ ·) := fun _ _ same =>
  congrArg mk (List.append_cancel_left (congrArg segments same))

end Pointer

end JsonSchema
