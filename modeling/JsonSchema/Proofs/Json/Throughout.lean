import JsonSchema.Proofs.Json.Place

/-!
# Properties of a value and all its parts

A property holds throughout a value if it holds of the value and of everything in it. A value is
well formed if no object in it has two members of one name and the positions of every array fit a
64-bit word.
-/

namespace JsonSchema.Json

/-- A property holds of a value and of all its parts. -/
def Throughout (p : Json → Prop) (value : Json) : Prop := ∀ part ∈ value.parts, p part

namespace Throughout

variable {p : Json → Prop} {value part item : Json} {items : List Json} {members : Members} {entry : String × Json}

theorem self (all : value.Throughout p) : p value := all value (self_mem_parts value)

theorem of_mem_parts (all : value.Throughout p) (inside : part ∈ value.parts) : part.Throughout p :=
  fun _ deeper => all _ (parts_trans inside deeper)

theorem of_mem_items (all : (arr items).Throughout p) (inside : item ∈ items) : item.Throughout p := by
  obtain ⟨index, found⟩ := List.mem_iff_getElem?.mp inside
  exact all.of_mem_parts ⟨_, .item found .here⟩

theorem of_mem_members (all : (obj members).Throughout p) (inside : entry ∈ members) : entry.2.Throughout p :=
  all.of_mem_parts ⟨[entry.1], .member inside .here⟩

end Throughout

section
variable {p : Json → Prop} {value : Json} {items : List Json} {members : Members}

@[simp]
theorem throughout_arr_iff : (arr items).Throughout p ↔ p (arr items) ∧ ∀ item ∈ items, item.Throughout p := by
  refine ⟨fun all => ⟨all.self, fun item inside => all.of_mem_items inside⟩, ?_⟩
  rintro ⟨own, each⟩ part ⟨segments, place⟩
  cases place with
  | here => exact own
  | item inside rest => exact each _ (List.mem_of_getElem? inside) part ⟨_, rest⟩

@[simp]
theorem throughout_obj_iff :
    (obj members).Throughout p ↔ p (obj members) ∧ ∀ entry ∈ members, entry.2.Throughout p := by
  refine ⟨fun all => ⟨all.self, fun entry inside => all.of_mem_members inside⟩, ?_⟩
  rintro ⟨own, each⟩ part ⟨segments, place⟩
  cases place with
  | here => exact own
  | member inside rest => exact each (_, _) inside part ⟨_, rest⟩

/-- A value without parts of its own. -/
theorem throughout_iff_self (noItems : ∀ items, value ≠ arr items) (noMembers : ∀ members, value ≠ obj members) :
    value.Throughout p ↔ p value := by
  refine ⟨Throughout.self, ?_⟩
  rintro own part ⟨segments, place⟩
  cases place with
  | here => exact own
  | item => exact absurd rfl (noItems _)
  | member => exact absurd rfl (noMembers _)

@[simp]
theorem throughout_null_iff : null.Throughout p ↔ p null := throughout_iff_self (by simp) (by simp)

@[simp]
theorem throughout_bool_iff (b : Bool) : (bool b).Throughout p ↔ p (bool b) :=
  throughout_iff_self (by simp) (by simp)

@[simp]
theorem throughout_num_iff (n : Number) : (num n).Throughout p ↔ p (num n) :=
  throughout_iff_self (by simp) (by simp)

@[simp]
theorem throughout_str_iff (s : String) : (str s).Throughout p ↔ p (str s) :=
  throughout_iff_self (by simp) (by simp)

end

/-! ## Well-formed values -/

/-- The names of members differ, and positions fit a 64-bit word. -/
def Storable : Json → Prop
  | arr items => items.length ≤ 0x10000000000000000
  | obj members => (members.map Prod.fst).Nodup
  | _ => True

/-- A value as it is kept: all its parts are storable. -/
def WellFormed : Json → Prop := Throughout Storable

/-- No object in a value has two members of one name. -/
def NamesDiffer : Json → Prop := Throughout fun part => ∀ members, part = obj members → (members.map Prod.fst).Nodup

theorem NamesDiffer.nodup {members : Members} (named : (obj members).NamesDiffer) : (members.map Prod.fst).Nodup :=
  Throughout.self named members rfl

theorem WellFormed.namesDiffer {value : Json} (formed : value.WellFormed) : value.NamesDiffer := by
  rintro part inside members rfl
  exact formed _ inside

theorem WellFormed.nodup {members : Members} (formed : (obj members).WellFormed) : (members.map Prod.fst).Nodup :=
  Throughout.self formed

theorem WellFormed.length_le {items : List Json} (formed : (arr items).WellFormed) :
    items.length ≤ 0x10000000000000000 := Throughout.self formed

end JsonSchema.Json
