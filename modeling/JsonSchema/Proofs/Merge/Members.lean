import JsonSchema.Merge
import JsonSchema.Proofs.Json.Place

/-!
# Members of merged objects

A merged object has the members of both sides; those of the same name are merged.
-/

namespace JsonSchema

/-- The members of two objects, merged. -/
def mergedMembers (a b : Members) : Members := mergeMembers a b ++ b.filter fun member => !Members.has a member.1

variable {a b : Members} {name : String}

theorem mergeUnder_obj (keyword : Option String) (a b : Members) :
    mergeUnder keyword (.obj a) (.obj b) = .obj (mergedMembers a b) := rfl

@[simp]
theorem merge_obj (a b : Members) : merge (.obj a) (.obj b) = .obj (mergedMembers a b) := mergeUnder_obj none a b

@[simp]
theorem merge_bools (x y : Bool) : merge (.bool x) (.bool y) = .bool y := rfl

@[simp]
theorem merge_obj_bool (a : Members) (y : Bool) : merge (.obj a) (.bool y) = .obj a := rfl

@[simp]
theorem merge_bool_obj (x : Bool) (b : Members) : merge (.bool x) (.obj b) = .bool x := rfl

theorem mergeMembers_cons (key : String) (x : Json) : mergeMembers ((key, x) :: a) b =
    (key, (b.lookup key).elim x (mergeUnder (some key) x)) :: mergeMembers a b := by
  rw [mergeMembers]
  cases b.lookup key <;> rfl

theorem lookup_mergeMembers : (mergeMembers a b).lookup name =
    (a.lookup name).map fun x => (b.lookup name).elim x (mergeUnder (some name) x) := by
  induction a with
  | nil => rfl
  | cons first rest ih =>
    obtain ⟨key, x⟩ := first
    rw [mergeMembers_cons, List.lookup_cons, List.lookup_cons]
    by_cases same : name = key
    · subst same
      rw [beq_self_eq_true]
      rfl
    · rw [beq_false_of_ne same, ih]

theorem lookup_filter_names {p : String → Bool} (kept : p name = true) :
    (a.filter fun member => p member.1).lookup name = a.lookup name := by
  induction a with
  | nil => rfl
  | cons first rest ih =>
    obtain ⟨key, x⟩ := first
    by_cases same : name = key
    · subst same
      simp [kept]
    · rw [List.filter_cons, List.lookup_cons, beq_false_of_ne same]
      split
      · rw [List.lookup_cons, beq_false_of_ne same, ih]
      · exact ih

/-- What is left under a name when some names are taken out. -/
theorem lookup_without (dropped : String → Bool) :
    (Members.without a dropped).lookup name = if dropped name then none else a.lookup name := by
  split
  · rename_i gone
    rw [List.lookup_eq_none_iff]
    intro member inside
    have kept := (List.mem_filter.mp inside).2
    rw [bne_iff_ne]
    rintro rfl
    rw [gone] at kept
    cases kept
  · rename_i kept
    exact lookup_filter_names (p := fun name => !dropped name) (by simpa using kept)

/-- What a merged object has under a name. -/
theorem lookup_mergedMembers : (mergedMembers a b).lookup name =
    match a.lookup name, b.lookup name with
    | some x, some y => some (mergeUnder (some name) x y)
    | some x, none => some x
    | none, other => other := by
  rw [mergedMembers, List.lookup_append, lookup_mergeMembers]
  cases found : a.lookup name with
  | none =>
    have absent : (!Members.has a name) = true := by simp [Members.has, found]
    rw [lookup_filter_names (p := fun name => !Members.has a name) absent]
    cases b.lookup name <;> rfl
  | some x => cases b.lookup name <;> rfl

/-- What a merge has, one of its sides has. -/
theorem has_mergedMembers : (mergedMembers a b).has name = (a.has name || b.has name) := by
  rw [Members.has, lookup_mergedMembers, Members.has, Members.has]
  cases a.lookup name <;> cases b.lookup name <;> rfl

theorem lookup_mergedMembers_left (absent : b.lookup name = none) :
    (mergedMembers a b).lookup name = a.lookup name := by
  rw [lookup_mergedMembers, absent]
  cases a.lookup name <;> rfl

theorem lookup_mergedMembers_right (absent : a.lookup name = none) :
    (mergedMembers a b).lookup name = b.lookup name := by
  rw [lookup_mergedMembers, absent]

theorem lookup_mergedMembers_obj {xs ys : Members} (left : a.lookup name = some (.obj xs))
    (right : b.lookup name = some (.obj ys)) : (mergedMembers a b).lookup name = some (.obj (mergedMembers xs ys)) := by
  simp only [lookup_mergedMembers, left, right, mergeUnder_obj]

theorem lookup_mergedMembers_required {xs ys : List Json} (left : a.lookup "required" = some (.arr xs))
    (right : b.lookup "required" = some (.arr ys)) :
    (mergedMembers a b).lookup "required" = some (.arr (Json.distinct (xs ++ ys))) := by
  rw [lookup_mergedMembers, left, right]
  rfl

/-- Two lists are joined, merged position by position, or merged slot by slot. -/
theorem mergeUnder_arr (keyword : Option String) (xs ys : List Json) : mergeUnder keyword (.arr xs) (.arr ys) =
    .arr (if keyword = some "required" then Json.distinct (xs ++ ys)
      else if keyword = some "items" then mergeTuples xs ys else Json.distinct (mergeSlots xs ys)) := by
  unfold mergeUnder
  split
  · rfl
  · rfl
  · rename_i other other'
    rw [if_neg other, if_neg other']

theorem lookup_mergedMembers_arr {xs ys : List Json} (left : a.lookup name = some (.arr xs))
    (right : b.lookup name = some (.arr ys)) (apart : name ∉ ["required", "items"]) :
    (mergedMembers a b).lookup name = some (.arr (Json.distinct (mergeSlots xs ys))) := by
  simp only [List.mem_cons, List.not_mem_nil, or_false, not_or] at apart
  simp [lookup_mergedMembers, left, right, mergeUnder_arr, apart]

/-- Two objects or two arrays are merged; of all other values one stays. -/
theorem mergeUnder_cases (keyword : Option String) (x y : Json) :
    (∃ left right, x = .obj left ∧ y = .obj right) ∨ (∃ left right, x = .arr left ∧ y = .arr right) ∨
      mergeUnder keyword x y = x ∨ mergeUnder keyword x y = y := by
  cases x <;> cases y <;>
    first
    | exact .inr (.inr (.inl rfl))
    | exact .inr (.inr (.inr rfl))
    | exact .inl ⟨_, _, rfl, rfl⟩
    | exact .inr (.inl ⟨_, _, rfl, rfl⟩)

/-- A list stays as it is beside any other value. -/
theorem mergeUnder_arr_left {keyword : Option String} {xs : List Json} {y : Json} (other : ∀ ys, y ≠ .arr ys) :
    mergeUnder keyword (.arr xs) y = .arr xs := by
  cases y with
  | arr ys => exact absurd rfl (other ys)
  | _ => rfl

theorem mergeUnder_arr_right {keyword : Option String} {x : Json} {ys : List Json} (other : ∀ xs, x ≠ .arr xs) :
    mergeUnder keyword x (.arr ys) = .arr ys := by
  cases x with
  | arr xs => exact absurd rfl (other xs)
  | _ => rfl

/-- Merging makes no text that neither side has. -/
theorem string?_mergeUnder {keyword : Option String} {x y : Json} (left : x.string? = none)
    (right : y.string? = none) : (mergeUnder keyword x y).string? = none := by
  rcases mergeUnder_cases keyword x y with ⟨_, _, rfl, rfl⟩ | ⟨_, _, rfl, rfl⟩ | same | same
  · rfl
  · rw [mergeUnder_arr]
    rfl
  · rwa [same]
  · rwa [same]

theorem stringMember?_mergedMembers (left : (Json.obj a).stringMember? name = none)
    (right : (Json.obj b).stringMember? name = none) : (Json.obj (mergedMembers a b)).stringMember? name = none := by
  simp only [Json.stringMember?, Json.member?, lookup_mergedMembers] at left right ⊢
  cases found : a.lookup name with
  | none => simpa using right
  | some x =>
    rw [found] at left
    cases found' : b.lookup name with
    | none => exact left
    | some y =>
      rw [found'] at right
      exact string?_mergeUnder left right

/-! ## Maps of schemas -/

/-- The entries of a merged map: those of one side, and those of both sides merged. -/
theorem mem_mergedMembers {key : String} {sub : Json} : (key, sub) ∈ mergedMembers a b ↔
    (∃ x, (key, x) ∈ a ∧ sub = (b.lookup key).elim x (mergeUnder (some key) x)) ∨
      (key, sub) ∈ b ∧ a.lookup key = none := by
  have left : (key, sub) ∈ mergeMembers a b ↔
      ∃ x, (key, x) ∈ a ∧ sub = (b.lookup key).elim x (mergeUnder (some key) x) := by
    induction a with
    | nil => exact ⟨fun inside => (List.not_mem_nil inside).elim, fun ⟨_, inside, _⟩ => (List.not_mem_nil inside).elim⟩
    | cons first rest ih =>
      obtain ⟨own, x⟩ := first
      rw [mergeMembers_cons, List.mem_cons, ih, Prod.mk.injEq]
      constructor
      · rintro (⟨rfl, rfl⟩ | ⟨y, inside, same⟩)
        · exact ⟨x, List.mem_cons_self, rfl⟩
        · exact ⟨y, List.mem_cons_of_mem _ inside, same⟩
      · rintro ⟨y, inside, rfl⟩
        rcases List.mem_cons.mp inside with same | later
        · cases same
          exact .inl ⟨rfl, rfl⟩
        · exact .inr ⟨y, later, rfl⟩
  rw [mergedMembers, List.mem_append, left, List.mem_filter]
  simp [Members.has]

theorem lookup_of_nodup {entries : Members} (distinct : (entries.map Prod.fst).Nodup) {key : String} {value : Json}
    (inside : (key, value) ∈ entries) : entries.lookup key = some value := by
  induction entries with
  | nil => cases inside
  | cons first rest ih =>
    obtain ⟨own, other⟩ := first
    rw [List.map_cons, List.nodup_cons] at distinct
    rcases List.mem_cons.mp inside with same | later
    · cases same
      rw [List.lookup_cons, beq_self_eq_true]
    · have apart : key ≠ own := fun same => distinct.1 (List.mem_map.mpr ⟨(key, value), later, same⟩)
      rw [List.lookup_cons, beq_false_of_ne apart]
      exact ih distinct.2 later

/-- What holds of all entries of both sides, and of those of both sides merged, holds of a merged map. -/
theorem forall_mem_mergedMembers {P : String → Json → Prop} (left : ∀ key x, (key, x) ∈ a → P key x)
    (right : ∀ key y, (key, y) ∈ b → P key y)
    (both : ∀ key x y, (key, x) ∈ a → b.lookup key = some y → P key (mergeUnder (some key) x y)) :
    ∀ key z, (key, z) ∈ mergedMembers a b → P key z := by
  intro key z inside
  rcases mem_mergedMembers.mp inside with ⟨x, member, rfl⟩ | ⟨member, -⟩
  · cases found : b.lookup key with
    | none => exact left key x member
    | some y => exact both key x y member found
  · exact right key z member

/-- If what holds of two entries merged holds of both, what holds of a merged map holds of both sides. -/
theorem of_forall_mem_mergedMembers (distinct : (b.map Prod.fst).Nodup) {P : String → Json → Prop}
    (both : ∀ key x y, (key, x) ∈ a → b.lookup key = some y → P key (mergeUnder (some key) x y) → P key x ∧ P key y)
    (all : ∀ key z, (key, z) ∈ mergedMembers a b → P key z) :
    (∀ key x, (key, x) ∈ a → P key x) ∧ ∀ key y, (key, y) ∈ b → P key y := by
  have merged {key : String} {x : Json} (inside : (key, x) ∈ a) :=
    all key _ (mem_mergedMembers.mpr (.inl ⟨x, inside, rfl⟩))
  refine ⟨fun key x inside => ?_, fun key y inside => ?_⟩
  · have kept := merged inside
    cases found : b.lookup key with
    | none => rwa [found] at kept
    | some y =>
      rw [found] at kept
      exact (both key x y inside found kept).1
  · have found := lookup_of_nodup distinct inside
    cases other : a.lookup key with
    | none => exact all key y (mem_mergedMembers.mpr (.inr ⟨inside, other⟩))
    | some x =>
      have kept := merged (mem_of_lookup other)
      rw [found] at kept
      exact (both key x y (mem_of_lookup other) found kept).2

/-! ## Lists of schemas -/

section
variable {xs ys : List Json} {P : Json → Prop}

theorem mergeSlots_cons (x y : Json) (xs ys : List Json) : mergeSlots (x :: xs) (y :: ys) =
    (if bothObjects x y = true then [merge x y] else [x, y]) ++ mergeSlots xs ys := rfl

/-- What holds of all schemas of both sides, and of the objects merged, holds of a merged list. -/
theorem forall_mem_mergeSlots (left : ∀ x ∈ xs, P x) (right : ∀ y ∈ ys, P y)
    (both : ∀ (index : Nat) (x y : Json), xs[index]? = some x → ys[index]? = some y → bothObjects x y = true → P (merge x y)) :
    ∀ z ∈ mergeSlots xs ys, P z := by
  induction xs generalizing ys with
  | nil => exact right
  | cons x xs ih =>
    cases ys with
    | nil => exact left
    | cons y ys =>
      rw [List.forall_mem_cons] at left right
      have rest := ih left.2 right.2 fun index => both (index + 1)
      intro z inside
      rw [mergeSlots_cons] at inside
      rcases List.mem_append.mp inside with first | later
      · split at first
        · rename_i objects
          rw [List.mem_singleton.mp first]
          exact both 0 x y rfl rfl objects
        · simp only [List.mem_cons, List.not_mem_nil, or_false] at first
          rcases first with rfl | rfl
          · exact left.1
          · exact right.1
      · exact rest z later

/-- If what holds of two objects merged holds of both, what holds of a merged list holds of both sides. -/
theorem of_forall_mem_mergeSlots (both : ∀ (index : Nat) (x y : Json), xs[index]? = some x → ys[index]? = some y →
      bothObjects x y = true → P (merge x y) → P x ∧ P y) (all : ∀ z ∈ mergeSlots xs ys, P z) :
    (∀ x ∈ xs, P x) ∧ ∀ y ∈ ys, P y := by
  induction xs generalizing ys with
  | nil => exact ⟨fun _ inside => absurd inside List.not_mem_nil, all⟩
  | cons x xs ih =>
    cases ys with
    | nil => exact ⟨all, fun _ inside => absurd inside List.not_mem_nil⟩
    | cons y ys =>
      rw [mergeSlots_cons, List.forall_mem_append] at all
      have first : P x ∧ P y := by
        by_cases objects : bothObjects x y = true
        · rw [if_pos objects, List.forall_mem_singleton] at all
          exact both 0 x y rfl rfl objects all.1
        · rw [if_neg objects] at all
          exact ⟨all.1 x (by simp), all.1 y (by simp)⟩
      obtain ⟨left, right⟩ := ih (fun index => both (index + 1)) all.2
      exact ⟨List.forall_mem_cons.mpr ⟨first.1, left⟩, List.forall_mem_cons.mpr ⟨first.2, right⟩⟩

end

/-! ## Distinct values -/

private theorem mem_distinct_step {values seen : List Json} {value : Json} :
    value ∈ values.foldl (fun seen value => if seen.any (·.equal value) then seen else seen ++ [value]) seen →
      value ∈ seen ∨ value ∈ values := by
  induction values generalizing seen with
  | nil => exact .inl
  | cons first rest ih =>
    intro inside
    rw [List.foldl_cons] at inside
    rcases ih inside with known | later
    · split at known
      · exact .inl known
      · rcases List.mem_append.mp known with old | new
        · exact .inl old
        · exact .inr (List.mem_singleton.mp new ▸ List.mem_cons_self)
    · exact .inr (List.mem_cons_of_mem _ later)

theorem mem_of_mem_distinct {values : List Json} {value : Json} (inside : value ∈ Json.distinct values) :
    value ∈ values := (mem_distinct_step inside).resolve_left (List.not_mem_nil)

private theorem str_mem_distinct_step {values seen : List Json} {text : String}
    (inside : .str text ∈ seen ∨ .str text ∈ values) :
    .str text ∈ values.foldl (fun seen value => if seen.any (·.equal value) then seen else seen ++ [value]) seen := by
  induction values generalizing seen with
  | nil => exact inside.resolve_right List.not_mem_nil
  | cons first rest ih =>
    rw [List.foldl_cons]
    apply ih
    rcases inside with known | listed
    · left
      split
      · exact known
      · exact List.mem_append_left _ known
    · rcases List.mem_cons.mp listed with rfl | later
      · left
        split
        · rename_i repeated
          obtain ⟨value, known, same⟩ := List.any_eq_true.mp repeated
          cases value with
          | str other => rwa [← eq_of_beq (a := other) same]
          | _ => cases same
        · exact List.mem_append_right _ (List.mem_singleton_self _)
      · exact .inr later

/-- No text is lost where equal values are dropped. -/
theorem str_mem_distinct {values : List Json} {text : String} :
    .str text ∈ Json.distinct values ↔ .str text ∈ values :=
  ⟨mem_of_mem_distinct, fun inside => str_mem_distinct_step (.inr inside)⟩

end JsonSchema
