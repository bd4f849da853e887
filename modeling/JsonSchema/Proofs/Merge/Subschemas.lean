import JsonSchema.Proofs.Compilation.Sound
import JsonSchema.Proofs.Json.Throughout
import JsonSchema.Proofs.Merge.Members

/-!
# Subschemas of merged schemas

What a merged object compiles is a subschema of one side, or it was merged from two that both sides have
in one slot. The schema of the remaining items alone can be something else: one side can make the other
one's value a schema that was an array there, or that nothing read.
-/

namespace JsonSchema

/-! ## Values -/

section
variable {x y : Json} {name : String} {a b : Members}

theorem Json.IsSchema.mergeUnder_eq (left : x.IsSchema) (right : y.IsSchema) (keyword : Option String) :
    mergeUnder keyword x y = merge x y := by
  rcases left with ⟨_, rfl⟩ | ⟨_, rfl⟩ <;> rcases right with ⟨_, rfl⟩ | ⟨_, rfl⟩ <;> rfl

theorem Json.IsSchema.merge (left : x.IsSchema) (right : y.IsSchema) : (merge x y).IsSchema := by
  rcases left with ⟨_, rfl⟩ | ⟨_, rfl⟩ <;> rcases right with ⟨_, rfl⟩ | ⟨_, rfl⟩ <;>
    first | exact .inl ⟨_, rfl⟩ | exact .inr ⟨_, rfl⟩

/-- What a merged object has under a name is what one side has, or it is merged. -/
theorem lookup_mergedMembers_cases {z : Json} (found : (mergedMembers a b).lookup name = some z) :
    a.lookup name = some z ∧ b.lookup name = none ∨ a.lookup name = none ∧ b.lookup name = some z ∨
      ∃ x y, a.lookup name = some x ∧ b.lookup name = some y ∧ z = mergeUnder (some name) x y := by
  rw [lookup_mergedMembers] at found
  cases left : a.lookup name with
  | none =>
    rw [left] at found
    exact .inr (.inl ⟨rfl, found⟩)
  | some x =>
    cases right : b.lookup name with
    | none =>
      rw [left, right] at found
      exact .inl ⟨found, rfl⟩
    | some y =>
      rw [left, right] at found
      exact .inr (.inr ⟨x, y, rfl, rfl, (Option.some.inj found).symm⟩)

end

/-- What holds of all schemas of both sides, and of the objects merged, holds of merged tuples. -/
theorem forall_mem_mergeTuples {xs ys : List Json} {P : Json → Prop} (left : ∀ x ∈ xs, P x) (right : ∀ y ∈ ys, P y)
    (both : ∀ (index : Nat) (x y : Json), xs[index]? = some x → ys[index]? = some y → bothObjects x y = true →
      P (merge x y)) : ∀ z ∈ mergeTuples xs ys, P z := by
  induction xs generalizing ys with
  | nil => exact right
  | cons x xs ih =>
    cases ys with
    | nil => exact left
    | cons y ys =>
      rw [List.forall_mem_cons] at left right
      refine List.forall_mem_cons.mpr ⟨?_, ih left.2 right.2 fun index => both (index + 1)⟩
      split
      · rename_i objects
        exact both 0 x y rfl rfl (Bool.and_eq_true_iff.mp objects).1
      · exact right.1

/-- What holds of all elements of two lists, and of the objects among them merged, holds of the lists merged under
any keyword. -/
theorem forall_mem_mergeUnder_arr {keyword : Option String} {xs ys zs : List Json} {P : Json → Prop}
    (merged : mergeUnder keyword (.arr xs) (.arr ys) = .arr zs) (left : ∀ x ∈ xs, P x) (right : ∀ y ∈ ys, P y)
    (both : ∀ (index : Nat) (x y : Json), xs[index]? = some x → ys[index]? = some y → bothObjects x y = true →
      P (merge x y)) : ∀ z ∈ zs, P z := by
  rw [mergeUnder_arr, Json.arr.injEq] at merged
  subst merged
  split
  · exact fun z inside => (List.mem_append.mp (mem_of_mem_distinct inside)).elim (left z) (right z)
  · split
    · exact forall_mem_mergeTuples left right both
    · exact fun z inside => forall_mem_mergeSlots left right both z (mem_of_mem_distinct inside)

namespace Part

variable {draft : Draft} {part : Part} {a b : Members} {name : String} {keyword : Keyword} {slot : Slot}

/-- A part has a schema on one side, or it has two in one slot that are merged to it. -/
inductive Merges (part : Part) (a b : Members) : Json → Prop where
  | left {slot : Slot} {x : Json} (step : .child slot x ∈ part.steps .root a) : Merges part a b x
  | right {slot : Slot} {y : Json} (step : .child slot y ∈ part.steps .root b) : Merges part a b y
  | both {slot : Slot} {x y : Json} (first : .child slot x ∈ part.steps .root a)
      (second : .child slot y ∈ part.steps .root b) : Merges part a b (merge x y)

/-! ## Keywords with one schema -/

theorem sound_merges_whole (steps : part.steps = fun _ members => stepOne members name slot)
    (left : part.Sound Json.IsSchema a) (right : part.Sound Json.IsSchema b) :
    part.Sound (part.Merges a b) (mergedMembers a b) := by
  have mem {members : Members} {x : Json} := @mem_steps_whole part members name slot steps x
  intro step inside
  rw [steps] at inside
  obtain ⟨z, found, rfl⟩ := List.mem_map.mp inside
  refine ⟨slot, z, rfl, ?_⟩
  rcases lookup_mergedMembers_cases (Option.mem_toList.mp found) with ⟨own, -⟩ | ⟨-, own⟩ | ⟨x, y, first, second, rfl⟩
  · exact .left (mem own)
  · exact .right (mem own)
  · rw [(left.of_mem (mem first)).mergeUnder_eq (right.of_mem (mem second))]
    exact .both (mem first) (mem second)

theorem sound_merges_one (left : (one draft keyword name slot).Sound Json.IsSchema a)
    (right : (one draft keyword name slot).Sound Json.IsSchema b) :
    (one draft keyword name slot).Sound ((one draft keyword name slot).Merges a b) (mergedMembers a b) :=
  sound_one fun steps => sound_merges_whole steps left right

/-! ## Maps and lists -/

theorem sound_merges_entries {step : Pointer → String → Json → Step} (slots : SlotsByKey step)
    (left : (entries name step).Sound Json.IsSchema a) (right : (entries name step).Sound Json.IsSchema b) :
    (entries name step).Sound ((entries name step).Merges a b) (mergedMembers a b) := by
  cases merged : (mergedMembers a b).lookup name with
  | none =>
    intro step inside
    simp [entries, stepMembers, merged] at inside
  | some z =>
    rcases lookup_mergedMembers_cases merged with ⟨own, -⟩ | ⟨-, own⟩ | ⟨x, y, first, second, -⟩
    · obtain ⟨xs, rfl⟩ := left.exists_entries own
      refine (sound_entries_iff slots merged).mpr fun key x inside => ?_
      obtain ⟨slot, made, -⟩ := (sound_entries_iff slots own).mp left key x inside
      exact ⟨slot, made, .left (mem_steps_entries own inside made)⟩
    · obtain ⟨ys, rfl⟩ := right.exists_entries own
      refine (sound_entries_iff slots merged).mpr fun key y inside => ?_
      obtain ⟨slot, made, -⟩ := (sound_entries_iff slots own).mp right key y inside
      exact ⟨slot, made, .right (mem_steps_entries own inside made)⟩
    · obtain ⟨xs, rfl⟩ := left.exists_entries first
      obtain ⟨ys, rfl⟩ := right.exists_entries second
      have sound := (sound_entries_iff slots first).mp left
      have sound' := (sound_entries_iff slots second).mp right
      refine (sound_entries_iff slots (lookup_mergedMembers_obj first second)).mpr
        (forall_mem_mergedMembers (fun key x inside => ?_) (fun key y inside => ?_) fun key x y inside found => ?_)
      · obtain ⟨slot, made, -⟩ := sound key x inside
        exact ⟨slot, made, .left (mem_steps_entries first inside made)⟩
      · obtain ⟨slot, made, -⟩ := sound' key y inside
        exact ⟨slot, made, .right (mem_steps_entries second inside made)⟩
      · obtain ⟨slot, made, schema⟩ := sound key x inside
        obtain ⟨_, _, schema'⟩ := sound' key y (mem_of_lookup found)
        have made' {z : Json} : step .root key z = .child slot z := (slots key x slot x _ made).2
        rw [schema.mergeUnder_eq schema']
        exact ⟨slot, made',
          .both (mem_steps_entries first inside made) (mem_steps_entries second (mem_of_lookup found) made')⟩

theorem sound_merges_items (apart : keyword.name ∉ ["required", "items"]) (left : (items keyword).Sound Json.IsSchema a)
    (right : (items keyword).Sound Json.IsSchema b) :
    (items keyword).Sound ((items keyword).Merges a b) (mergedMembers a b) := by
  cases merged : (mergedMembers a b).lookup keyword.name with
  | none =>
    intro step inside
    simp [items, stepItems, merged] at inside
  | some z =>
    rcases lookup_mergedMembers_cases merged with ⟨own, -⟩ | ⟨-, own⟩ | ⟨x, y, first, second, -⟩
    · obtain ⟨xs, rfl⟩ := left.exists_items own
      refine (sound_items_iff merged).mpr fun x inside => ?_
      obtain ⟨index, place⟩ := List.mem_iff_getElem?.mp inside
      exact .left (mem_steps_items own place)
    · obtain ⟨ys, rfl⟩ := right.exists_items own
      refine (sound_items_iff merged).mpr fun y inside => ?_
      obtain ⟨index, place⟩ := List.mem_iff_getElem?.mp inside
      exact .right (mem_steps_items own place)
    · obtain ⟨xs, rfl⟩ := left.exists_items first
      obtain ⟨ys, rfl⟩ := right.exists_items second
      refine (sound_items_iff (lookup_mergedMembers_arr first second apart)).mpr fun z inside => ?_
      refine forall_mem_mergeSlots (fun x inside => ?_) (fun y inside => ?_) (fun index x y place other _ => ?_) z
        (mem_of_mem_distinct inside)
      · obtain ⟨index, place⟩ := List.mem_iff_getElem?.mp inside
        exact .left (mem_steps_items first place)
      · obtain ⟨index, place⟩ := List.mem_iff_getElem?.mp inside
        exact .right (mem_steps_items second place)
      · exact .both (mem_steps_items first place) (mem_steps_items second other)

/-! ## Dependencies -/

/-- A list of names wins over a schema, and two lists make one. -/
theorem TakesDependency.merged {x y : Json} {kind : Json → Prop} (left : TakesDependency keyword Json.IsSchema x)
    (right : TakesDependency keyword Json.IsSchema y) (key : Option String)
    (both : x.IsSchema → y.IsSchema → keyword ≠ .dependentRequired → kind (merge x y)) :
    TakesDependency keyword kind (mergeUnder key x y) := by
  rcases left with ⟨names, rfl, apart, texts⟩ | ⟨schema, apart, -⟩
  · rcases right with ⟨names', rfl, -, texts'⟩ | ⟨schema', -, -⟩
    · refine .inl ⟨_, mergeUnder_arr _ _ _, apart, forall_mem_mergeUnder_arr (mergeUnder_arr key _ _) texts texts' ?_⟩
      intro index x y place _ objects
      obtain ⟨text, same⟩ := Option.isSome_iff_exists.mp (texts x (List.mem_of_getElem? place))
      cases x with
      | str text => simp [bothObjects] at objects
      | _ => cases same
    · exact .inl ⟨names, mergeUnder_arr_left schema'.ne_arr, apart, texts⟩
  · rcases right with ⟨names', rfl, apart', texts'⟩ | ⟨schema', -, -⟩
    · exact .inl ⟨names', mergeUnder_arr_right schema.ne_arr, apart', texts'⟩
    · rw [schema.mergeUnder_eq schema']
      exact .inr ⟨schema.merge schema', apart, both schema schema' apart⟩

theorem sound_merges_dependencies (left : (dependencies keyword).Sound Json.IsSchema a)
    (right : (dependencies keyword).Sound Json.IsSchema b) :
    (dependencies keyword).Sound ((dependencies keyword).Merges a b) (mergedMembers a b) := by
  cases merged : (mergedMembers a b).lookup keyword.name with
  | none =>
    intro step inside
    simp [dependencies, stepDependencies, merged] at inside
  | some z =>
    rcases lookup_mergedMembers_cases merged with ⟨own, -⟩ | ⟨-, own⟩ | ⟨x, y, first, second, -⟩
    · obtain ⟨xs, rfl⟩ := left.exists_dependencies own
      refine (sound_dependencies_iff merged).mpr fun key x inside => ?_
      exact ((sound_dependencies_iff own).mp left key x inside).mono
        fun schema apart _ => .left (mem_steps_dependencies own inside schema apart)
    · obtain ⟨ys, rfl⟩ := right.exists_dependencies own
      refine (sound_dependencies_iff merged).mpr fun key y inside => ?_
      exact ((sound_dependencies_iff own).mp right key y inside).mono
        fun schema apart _ => .right (mem_steps_dependencies own inside schema apart)
    · obtain ⟨xs, rfl⟩ := left.exists_dependencies first
      obtain ⟨ys, rfl⟩ := right.exists_dependencies second
      have takes := (sound_dependencies_iff first).mp left
      have takes' := (sound_dependencies_iff second).mp right
      refine (sound_dependencies_iff (lookup_mergedMembers_obj first second)).mpr
        (forall_mem_mergedMembers (fun key x inside => ?_) (fun key y inside => ?_) fun key x y inside found => ?_)
      · exact (takes key x inside).mono fun schema apart _ => .left (mem_steps_dependencies first inside schema apart)
      · exact (takes' key y inside).mono fun schema apart _ => .right (mem_steps_dependencies second inside schema apart)
      · have inside' := mem_of_lookup found
        exact (takes key x inside).merged (takes' key y inside') _ fun schema schema' apart =>
          .both (mem_steps_dependencies first inside schema apart) (mem_steps_dependencies second inside' schema' apart)

end Part

/-! ## Items -/

section
variable {draft : Draft} {a b : Members} {name : String}

/-- What stands under a keyword, if anything does, is read as the schema of all items or of the remaining ones. -/
def Members.ReadsItems (draft : Draft) (members : Members) (name : String) : Prop :=
  ∀ value, members.lookup name = some value → ArrayStep draft members (.restItems name) value

/-- A value becomes the schema of the remaining items where it stands in the merge, though one side did not read
what it has there as such a schema. -/
structure Exposes (draft : Draft) (a b : Members) (name : String) (value : Json) : Prop where
  found : (mergedMembers a b).lookup name = some value
  read : ArrayStep draft (mergedMembers a b) (.restItems name) value
  unread : ¬ (a.ReadsItems draft name ∧ b.ReadsItems draft name)

/-- The names of some members are names of others. -/
def Members.NamesIn (members others : Members) : Prop := ∀ name, members.has name = true → others.has name = true

theorem namesIn_merged_left : a.NamesIn (mergedMembers a b) := by
  intro name has
  rw [has_mergedMembers, has, Bool.true_or]

theorem namesIn_merged_right : b.NamesIn (mergedMembers a b) := by
  intro name has
  rw [has_mergedMembers, has, Bool.or_true]

section
variable {members others : Members}

/-- The keyword of the tuple is the same for more members, if it stands among the fewer. -/
theorem tupleName_of_namesIn {value : Json} (names : members.NamesIn others)
    (found : members.lookup (tupleName draft others) = some value) : tupleName draft members = tupleName draft others := by
  have own : members.has (tupleName draft others) = true := by rw [Members.has, found]; rfl
  unfold tupleName at own ⊢
  cases known : draft.hasPrefixItems with
  | false => simp
  | true =>
    rw [known] at own
    simp only [Bool.true_and] at own ⊢
    cases other : others.has "prefixItems" with
    | true =>
      rw [other, if_pos rfl] at own
      rw [own]
    | false =>
      cases has : members.has "prefixItems" with
      | true =>
        rw [names _ has] at other
        cases other
      | false => rfl

theorem stepArray_of_position (names : members.NamesIn others) {items : List Json} {index : Nat} {x : Json}
    (found : members.lookup (tupleName draft others) = some (.arr items)) (place : items[index]? = some x) :
    .child (.tupleItem (tupleName draft others) index) x ∈ stepArray draft members := by
  have same := tupleName_of_namesIn names found
  rw [← same] at found ⊢
  exact Part.stepArray_of_arrayStep (.position found place)

theorem stepArray_of_all (names : members.NamesIn others) {x : Json}
    (found : members.lookup (tupleName draft others) = some x) (noArray : ∀ items, x ≠ .arr items) :
    .child (.restItems "items") x ∈ stepArray draft members := by
  rw [← tupleName_of_namesIn names found] at found
  exact Part.stepArray_of_arrayStep (.all found noArray)

end

namespace Part

/-- The schemas of a merged tuple. -/
theorem merges_of_tuple (left : (array draft).Sound Json.IsSchema a) (right : (array draft).Sound Json.IsSchema b)
    {items : List Json} (found : (mergedMembers a b).lookup (tupleName draft (mergedMembers a b)) = some (.arr items)) :
    ∀ sub ∈ items, (array draft).Merges a b sub := by
  have first {xs : List Json} (own : a.lookup (tupleName draft (mergedMembers a b)) = some (.arr xs)) (x : Json)
      (inside : x ∈ xs) : (array draft).Merges a b x := by
    obtain ⟨index, place⟩ := List.mem_iff_getElem?.mp inside
    exact .left (stepArray_of_position namesIn_merged_left own place)
  have second {ys : List Json} (own : b.lookup (tupleName draft (mergedMembers a b)) = some (.arr ys)) (y : Json)
      (inside : y ∈ ys) : (array draft).Merges a b y := by
    obtain ⟨index, place⟩ := List.mem_iff_getElem?.mp inside
    exact .right (stepArray_of_position namesIn_merged_right own place)
  rcases lookup_mergedMembers_cases found with ⟨own, -⟩ | ⟨-, own⟩ | ⟨x, y, own, own', merged⟩
  · exact first own
  · exact second own
  · by_cases list : ∃ xs, x = .arr xs
    · obtain ⟨xs, rfl⟩ := list
      by_cases list' : ∃ ys, y = .arr ys
      · obtain ⟨ys, rfl⟩ := list'
        exact forall_mem_mergeUnder_arr merged.symm (first own) (second own') fun index x y place place' _ =>
          .both (stepArray_of_position namesIn_merged_left own place)
            (stepArray_of_position namesIn_merged_right own' place')
      · rw [mergeUnder_arr_left fun ys same => list' ⟨ys, same⟩] at merged
        cases merged
        exact first own
    · by_cases list' : ∃ ys, y = .arr ys
      · obtain ⟨ys, rfl⟩ := list'
        rw [mergeUnder_arr_right fun xs same => list ⟨xs, same⟩] at merged
        cases merged
        exact second own'
      · have schema := left.of_mem (stepArray_of_all namesIn_merged_left own fun xs same => list ⟨xs, same⟩)
        have schema' := right.of_mem (stepArray_of_all namesIn_merged_right own' fun ys same => list' ⟨ys, same⟩)
        rw [schema.mergeUnder_eq schema'] at merged
        exact absurd merged.symm ((schema.merge schema').ne_arr items)

/-- The schema of all items. -/
theorem merges_of_all (left : (array draft).Sound Json.IsSchema a) (right : (array draft).Sound Json.IsSchema b)
    {sub : Json} (found : (mergedMembers a b).lookup (tupleName draft (mergedMembers a b)) = some sub)
    (noArray : ∀ items, sub ≠ .arr items) : (array draft).Merges a b sub := by
  rcases lookup_mergedMembers_cases found with ⟨own, -⟩ | ⟨-, own⟩ | ⟨x, y, own, own', rfl⟩
  · exact .left (stepArray_of_all namesIn_merged_left own noArray)
  · exact .right (stepArray_of_all namesIn_merged_right own noArray)
  · -- a list on either side would win, or make one with the other list
    have plain (xs : List Json) : x ≠ .arr xs := by
      rintro rfl
      by_cases list : ∃ ys, y = .arr ys
      · obtain ⟨ys, rfl⟩ := list
        exact noArray _ (mergeUnder_arr _ _ _)
      · exact noArray _ (mergeUnder_arr_left fun ys same => list ⟨ys, same⟩)
    have plain' (ys : List Json) : y ≠ .arr ys := by
      rintro rfl
      exact noArray _ (mergeUnder_arr_right plain)
    have first := stepArray_of_all namesIn_merged_left own plain
    have second := stepArray_of_all namesIn_merged_right own' plain'
    rw [(left.of_mem first).mergeUnder_eq (right.of_mem second)]
    exact .both first second

/-- A schema of the remaining items that both sides read as one of items, as far as they have it. -/
theorem merges_of_reads (left : (array draft).Sound Json.IsSchema a) (right : (array draft).Sound Json.IsSchema b)
    {sub : Json} (reads : a.ReadsItems draft name) (reads' : b.ReadsItems draft name)
    (found : (mergedMembers a b).lookup name = some sub) : (array draft).Merges a b sub := by
  rcases lookup_mergedMembers_cases found with ⟨own, -⟩ | ⟨-, own⟩ | ⟨x, y, own, own', rfl⟩
  · exact .left (stepArray_of_arrayStep (reads _ own))
  · exact .right (stepArray_of_arrayStep (reads' _ own))
  · have first := stepArray_of_arrayStep (reads _ own)
    have second := stepArray_of_arrayStep (reads' _ own')
    rw [(left.of_mem first).mergeUnder_eq (right.of_mem second)]
    exact .both first second

theorem sound_merges_array (left : (array draft).Sound Json.IsSchema a) (right : (array draft).Sound Json.IsSchema b) :
    (array draft).Sound (fun sub => (array draft).Merges a b sub ∨ ∃ name, Exposes draft a b name sub)
      (mergedMembers a b) := by
  rw [sound_array_iff]
  intro slot sub step
  cases step with
  | position found inside => exact .inl (merges_of_tuple left right found sub (List.mem_of_getElem? inside))
  | rest found other =>
    by_cases reads : a.ReadsItems draft (restName draft (mergedMembers a b)) ∧
        b.ReadsItems draft (restName draft (mergedMembers a b))
    · exact .inl (merges_of_reads left right reads.1 reads.2 other)
    · exact .inr ⟨_, other, .rest found other, reads⟩
  | all found noArray => exact .inl (merges_of_all left right found noArray)

end Part

/-! ## All parts -/

theorem Part.sound_merges {part : Part} (listed : part ∈ parts draft) (left : part.Sound Json.IsSchema a)
    (right : part.Sound Json.IsSchema b) :
    part.Sound (fun sub => part.Merges a b sub ∨ ∃ name, Exposes draft a b name sub) (mergedMembers a b) := by
  have kept (sound : part.Sound (part.Merges a b) (mergedMembers a b)) :
      part.Sound (fun sub => part.Merges a b sub ∨ ∃ name, Exposes draft a b name sub) (mergedMembers a b) :=
    sound.mono fun _ => .inl
  simp only [parts, List.mem_append, List.mem_cons, List.mem_map, List.not_mem_nil, or_false] at listed
  rcases listed with ((rfl | rfl | rfl | rfl | rfl) | ⟨keyword, -, rfl⟩) | (rfl | rfl | rfl | rfl | rfl | rfl | rfl | rfl |
    rfl | rfl | rfl | rfl)
  · exact kept (sound_merges_entries (slotsByKey_child _) left right)
  · exact kept (sound_merges_entries slotsByKey_pattern left right)
  · exact kept (sound_merges_whole rfl left right)
  · exact kept (sound_merges_one left right)
  · exact kept (sound_merges_one left right)
  · exact kept (sound_merges_dependencies left right)
  · exact sound_merges_array left right
  · exact kept (sound_merges_one left right)
  · exact kept (sound_merges_one left right)
  · exact kept (sound_merges_one left right)
  · exact kept (sound_merges_items (by decide) left right)
  · exact kept (sound_merges_items (by decide) left right)
  · exact kept (sound_merges_items (by decide) left right)
  · exact kept (sound_merges_one left right)
  · exact kept (sound_merges_one left right)
  · exact kept (sound_merges_one left right)
  · exact kept (sound_merges_entries (slotsByKey_child _) left right)
  · exact kept (sound_merges_entries (slotsByKey_child _) left right)

end

/-! ## What holds throughout both sides -/

/-- What lists and merged objects may have throughout, a merge has if both sides have it. -/
theorem Json.Throughout.mergeUnder {p : Json → Prop} (lists : ∀ items, p (arr items))
    (objects : ∀ a b, p (obj a) → p (obj b) → p (obj (mergedMembers a b))) (left : x.Throughout p)
    (right : y.Throughout p) (keyword : Option String) : (mergeUnder keyword x y).Throughout p := by
  induction depth : x.depth using Nat.strong_induction_on generalizing x y keyword with
  | _ depth ih =>
  rcases mergeUnder_cases keyword x y with ⟨l, r, rfl, rfl⟩ | ⟨l, r, rfl, rfl⟩ | same | same
  · rw [mergeUnder_obj, throughout_obj_iff]
    refine ⟨objects l r left.self right.self, ?_⟩
    rintro ⟨key, value⟩ inside
    refine forall_mem_mergedMembers (P := fun _ value => value.Throughout p)
      (fun key x inside => left.of_mem_members inside) (fun key y inside => right.of_mem_members inside)
      (fun key x y inside found => ?_) key value inside
    have below := depth_lt_of_mem_members inside
    exact ih _ (depth ▸ below) (left.of_mem_members inside) (right.of_mem_members (mem_of_lookup found)) _ rfl
  · have merged := mergeUnder_arr keyword l r
    rw [merged, throughout_arr_iff]
    refine ⟨lists _, forall_mem_mergeUnder_arr merged (fun x inside => left.of_mem_items inside)
      (fun y inside => right.of_mem_items inside) fun index x y found found' _ => ?_⟩
    have inside := List.mem_of_getElem? found
    have below := depth_lt_of_mem_items inside
    exact ih _ (depth ▸ below) (left.of_mem_items inside) (right.of_mem_items (List.mem_of_getElem? found')) _ rfl
  · rwa [same]
  · rwa [same]

/-- A merge comes no deeper than the deeper side, as it goes down in both at once. -/
theorem Json.depth_mergeUnder_le {keyword : Option String} {bound : Nat} (left : x.depth ≤ bound) (right : y.depth ≤ bound) :
    (JsonSchema.mergeUnder keyword x y).depth ≤ bound := by
  induction bound generalizing keyword x y with
  | zero =>
    rcases mergeUnder_cases keyword x y with ⟨_, _, rfl, rfl⟩ | ⟨_, _, rfl, rfl⟩ | same | same
    · cases left
    · cases left
    · rwa [same]
    · rwa [same]
  | succ bound ih =>
    rcases mergeUnder_cases keyword x y with ⟨a, b, rfl, rfl⟩ | ⟨xs, ys, rfl, rfl⟩ | same | same
    · rw [depth_obj_le_iff] at left right
      rw [mergeUnder_obj, depth_obj_le_iff]
      exact forall_mem_mergedMembers left right fun key x y inside found =>
        ih (left key x inside) (right key y (mem_of_lookup found))
    · rw [depth_arr_le_iff] at left right
      rw [mergeUnder_arr, depth_arr_le_iff]
      exact forall_mem_mergeUnder_arr (mergeUnder_arr keyword xs ys) left right fun index x y first second _ =>
        ih (left x (List.mem_of_getElem? first)) (right y (List.mem_of_getElem? second))
    · rwa [same]
    · rwa [same]

end JsonSchema
