import JsonSchema.Proofs.Compilation.Parts

/-!
# Sound parts

A part of a schema is sound if it refuses nothing and all that it compiles is of a kind. What that asks of
the value of a keyword depends on the shape that the keyword has: one schema, a map, a list, or the
schemas of items.
-/

namespace JsonSchema

/-- A boolean or an object. -/
def Json.IsSchema (schema : Json) : Prop := (∃ b, schema = .bool b) ∨ ∃ members, schema = .obj members

theorem Json.IsSchema.ne_arr {schema : Json} (is : schema.IsSchema) (items : List Json) : schema ≠ .arr items := by
  rcases is with ⟨_, rfl⟩ | ⟨_, rfl⟩ <;> simp

namespace Part

/-- All steps of a part compile subschemas of a kind. -/
def Sound (part : Part) (kind : Json → Prop) (members : Members) : Prop :=
  ∀ step ∈ part.steps .root members, ∃ slot sub, step = .child slot sub ∧ kind sub

/-- The slot of an entry depends on its key alone. -/
def SlotsByKey (step : Pointer → String → Json → Step) : Prop :=
  ∀ key x slot sub z, step .root key x = .child slot sub → sub = x ∧ step .root key z = .child slot z

variable {draft : Draft} {part : Part} {kind other : Json → Prop} {members a b : Members} {name : String}
  {keyword : Keyword}

theorem Sound.congr (listed : part ∈ parts draft) (sound : part.Sound kind a)
    (same : ∀ name ∈ part.names, b.lookup name = a.lookup name) : part.Sound kind b := by
  intro step inside
  rw [(local_of_parts listed).reads .root b a same] at inside
  exact sound step inside

theorem Sound.mono (sound : part.Sound kind members) (weaker : ∀ sub, kind sub → other sub) :
    part.Sound other members := by
  intro step inside
  obtain ⟨slot, sub, same, held⟩ := sound step inside
  exact ⟨slot, sub, same, weaker sub held⟩

theorem Sound.of_mem (sound : part.Sound kind members) {slot : Slot} {sub : Json}
    (inside : .child slot sub ∈ part.steps .root members) : kind sub := by
  obtain ⟨_, _, same, held⟩ := sound _ inside
  cases same
  exact held

/-! ## One schema -/

section
variable {slot : Slot}

theorem mem_steps_whole (steps : part.steps = fun _ members => stepOne members name slot) {sub : Json}
    (found : members.lookup name = some sub) : .child slot sub ∈ part.steps .root members := by
  rw [steps]
  exact mem_stepOne.mpr ⟨rfl, found⟩

/-- A keyword that the draft does not know compiles nothing. -/
theorem sound_one (known : (one draft keyword name slot).steps = (fun _ members => stepOne members name slot) →
    (one draft keyword name slot).Sound kind members) : (one draft keyword name slot).Sound kind members := by
  cases knows : draft.knows keyword with
  | true => exact known (by simp only [one, knows, ↓reduceIte])
  | false =>
    intro step inside
    simp [one, knows] at inside

end

/-! ## Maps -/

theorem slotsByKey_child (slot : String → Slot) : SlotsByKey fun _ name schema => .child (slot name) schema := by
  intro key x slot sub z made
  cases made
  exact ⟨rfl, rfl⟩

theorem slotsByKey_pattern : SlotsByKey stepPattern := by
  intro key x slot sub z made
  unfold stepPattern at made ⊢
  split at made <;> cases made
  exact ⟨rfl, rfl⟩

section
variable {step : Pointer → String → Json → Step} {entries : Members}

theorem steps_entries (found : members.lookup name = some (.obj entries)) :
    (Part.entries name step).steps .root members = entries.map fun entry => step .root entry.1 entry.2 := by
  simp [Part.entries, stepMembers, found]

theorem mem_steps_entries (found : members.lookup name = some (.obj entries)) {key : String} {slot : Slot} {sub : Json}
    (inside : (key, sub) ∈ entries) (made : step .root key sub = .child slot sub) :
    .child slot sub ∈ (Part.entries name step).steps .root members := by
  rw [steps_entries found]
  exact List.mem_map.mpr ⟨(key, sub), inside, made⟩

/-- The steps of a map are sound if its entries are of the kind and their keys name slots. -/
theorem sound_entries_iff (slots : SlotsByKey step) (found : members.lookup name = some (.obj entries)) :
    (Part.entries name step).Sound kind members ↔
      ∀ key sub, (key, sub) ∈ entries → ∃ slot, step .root key sub = .child slot sub ∧ kind sub := by
  rw [Sound, steps_entries found, List.forall_mem_map]
  constructor
  · intro sound key sub inside
    obtain ⟨slot, other, made, held⟩ := sound (key, sub) inside
    obtain ⟨rfl, -⟩ := slots key sub slot other sub made
    exact ⟨slot, made, held⟩
  · rintro sound ⟨key, sub⟩ inside
    obtain ⟨slot, made, held⟩ := sound key sub inside
    exact ⟨slot, sub, made, held⟩

/-- What is no map is refused. -/
theorem Sound.exists_entries (sound : (Part.entries name step).Sound kind members) {value : Json}
    (found : members.lookup name = some value) : ∃ entries, value = .obj entries := by
  cases value with
  | obj entries => exact ⟨entries, rfl⟩
  | _ =>
    obtain ⟨_, _, refused, -⟩ := sound (.refuse (.objectExpected name .root)) (by simp [Part.entries, stepMembers, found])
    cases refused

end

/-! ## Lists -/

theorem steps_items {items : List Json} (found : members.lookup keyword.name = some (.arr items)) :
    (Part.items keyword).steps .root members = items.zipIdx.map fun entry => .child (.member keyword entry.2) entry.1 := by
  simp [Part.items, stepItems, found]

theorem mem_steps_items {items : List Json} (found : members.lookup keyword.name = some (.arr items)) {index : Nat}
    {sub : Json} (place : items[index]? = some sub) :
    .child (.member keyword index) sub ∈ (Part.items keyword).steps .root members := by
  rw [steps_items found]
  exact List.mem_map.mpr ⟨(sub, index), List.mk_mem_zipIdx_iff_getElem?.mpr place, rfl⟩

theorem sound_items_iff {items : List Json} (found : members.lookup keyword.name = some (.arr items)) :
    (Part.items keyword).Sound kind members ↔ ∀ sub ∈ items, kind sub := by
  rw [Sound, steps_items found, List.forall_mem_map]
  constructor
  · intro sound sub inside
    obtain ⟨index, place⟩ := List.mem_iff_getElem?.mp inside
    obtain ⟨slot, other, made, held⟩ := sound (sub, index) (List.mk_mem_zipIdx_iff_getElem?.mpr place)
    cases made
    exact held
  · rintro sound ⟨sub, index⟩ listed
    exact ⟨_, _, rfl, sound sub (List.mem_of_getElem? (List.mk_mem_zipIdx_iff_getElem?.mp listed))⟩

/-- What is no list is refused. -/
theorem Sound.exists_items (sound : (Part.items keyword).Sound kind members) {value : Json}
    (found : members.lookup keyword.name = some value) : ∃ items, value = .arr items := by
  cases value with
  | arr items => exact ⟨items, rfl⟩
  | _ =>
    obtain ⟨_, _, refused, -⟩ :=
      sound (.refuse (.schemasExpected keyword.name .root)) (by simp [Part.items, stepItems, found])
    cases refused

/-! ## Dependencies -/

/-- What a dependency keyword takes for a property: a list of names, or a schema of a kind. -/
def TakesDependency (keyword : Keyword) (kind : Json → Prop) (value : Json) : Prop :=
  (∃ names, value = .arr names ∧ keyword ≠ .dependentSchemas ∧ ∀ name ∈ names, name.string?.isSome = true) ∨
    value.IsSchema ∧ keyword ≠ .dependentRequired ∧ kind value

theorem TakesDependency.mono {value : Json} (takes : TakesDependency keyword kind value)
    (weaker : value.IsSchema → keyword ≠ .dependentRequired → kind value → other value) :
    TakesDependency keyword other value := by
  rcases takes with names | ⟨schema, apart, held⟩
  · exact .inl names
  · exact .inr ⟨schema, apart, weaker schema apart held⟩

theorem takesDependency_iff {key : String} {value : Json} : TakesDependency keyword kind value ↔
    ∀ step ∈ stepDependency .root keyword key value, ∃ slot sub, step = .child slot sub ∧ kind sub := by
  have schema {value : Json} (is : value.IsSchema) : stepDependency .root keyword key value =
      if keyword ≠ .dependentRequired then [.child (.dependency keyword key) value]
      else [.refuse (.dependency key .root)] := by
    rcases is with ⟨_, rfl⟩ | ⟨_, rfl⟩ <;> rfl
  have known (is : value.IsSchema) : TakesDependency keyword kind value ↔
      ∀ step ∈ stepDependency .root keyword key value, ∃ slot sub, step = .child slot sub ∧ kind sub := by
    rw [schema is]
    by_cases apart : keyword ≠ .dependentRequired
    · simp [TakesDependency, is, apart, is.ne_arr]
    · simp [TakesDependency, apart, is.ne_arr]
  cases value with
  | bool b => exact known (.inl ⟨b, rfl⟩)
  | obj members => exact known (.inr ⟨members, rfl⟩)
  | arr names =>
    have shape : stepDependency .root keyword key (.arr names) =
        if keyword ≠ .dependentSchemas ∧ ∀ name ∈ names, name.string?.isSome = true then []
        else [.refuse (.dependency key .root)] := by
      simp [stepDependency]
    rw [shape]
    split
    · rename_i lists
      exact iff_of_true (.inl ⟨names, rfl, lists⟩) fun step inside => absurd inside List.not_mem_nil
    · rename_i lists
      refine iff_of_false ?_ fun sound => ?_
      · rintro (⟨_, same, own⟩ | ⟨schema, -⟩)
        · cases same
          exact lists own
        · exact schema.ne_arr names rfl
      · obtain ⟨_, _, refused, -⟩ := sound _ (List.mem_singleton_self _)
        cases refused
  | _ => simp [TakesDependency, stepDependency, Json.IsSchema]

theorem steps_dependencies {entries : Members} (found : members.lookup keyword.name = some (.obj entries)) :
    (dependencies keyword).steps .root members =
      entries.flatMap fun entry => stepDependency .root keyword entry.1 entry.2 := by
  simp [dependencies, stepDependencies, found]

theorem mem_steps_dependencies {entries : Members} (found : members.lookup keyword.name = some (.obj entries))
    {key : String} {sub : Json} (inside : (key, sub) ∈ entries) (schema : sub.IsSchema) (apart : keyword ≠ .dependentRequired) :
    .child (.dependency keyword key) sub ∈ (dependencies keyword).steps .root members := by
  rw [steps_dependencies found]
  refine List.mem_flatMap.mpr ⟨(key, sub), inside, ?_⟩
  rcases schema with ⟨_, rfl⟩ | ⟨_, rfl⟩ <;> simp [stepDependency, apart]

theorem sound_dependencies_iff {entries : Members} (found : members.lookup keyword.name = some (.obj entries)) :
    (dependencies keyword).Sound kind members ↔
      ∀ key value, (key, value) ∈ entries → TakesDependency keyword kind value := by
  rw [Sound, steps_dependencies found]
  constructor
  · intro sound key value inside
    exact takesDependency_iff.mpr fun step made => sound step (List.mem_flatMap.mpr ⟨(key, value), inside, made⟩)
  · intro takes step made
    obtain ⟨⟨key, value⟩, inside, made⟩ := List.mem_flatMap.mp made
    exact takesDependency_iff.mp (takes key value inside) step made

/-- What is no map is refused. -/
theorem Sound.exists_dependencies (sound : (dependencies keyword).Sound kind members) {value : Json}
    (found : members.lookup keyword.name = some value) : ∃ entries, value = .obj entries := by
  cases value with
  | obj entries => exact ⟨entries, rfl⟩
  | _ =>
    obtain ⟨_, _, refused, -⟩ :=
      sound (.refuse (.objectExpected keyword.name .root)) (by simp [dependencies, stepDependencies, found])
    cases refused

/-! ## Items -/

theorem stepArray_of_arr {items : List Json} (found : members.lookup (tupleName draft members) = some (.arr items)) :
    stepArray draft members =
      (items.zipIdx.map fun entry => .child (.tupleItem (tupleName draft members) entry.2) entry.1) ++
        stepOne members (restName draft members) (.restItems (restName draft members)) := by
  unfold tupleName at found
  unfold stepArray restName tupleName
  dsimp only
  rw [found]

theorem stepArray_of_ne_arr {schema : Json} (found : members.lookup (tupleName draft members) = some schema)
    (noArray : ∀ items, schema ≠ .arr items) : stepArray draft members = [.child (.restItems "items") schema] := by
  unfold tupleName at found
  unfold stepArray
  dsimp only
  rw [found]
  cases schema with
  | arr items => exact absurd rfl (noArray items)
  | _ => rfl

theorem stepArray_of_arrayStep {slot : Slot} {sub : Json} (step : ArrayStep draft members slot sub) :
    .child slot sub ∈ stepArray draft members := by
  cases step with
  | position found inside =>
    rw [stepArray_of_arr found]
    exact List.mem_append_left _ (List.mem_map.mpr ⟨_, List.mk_mem_zipIdx_iff_getElem?.mpr inside, rfl⟩)
  | rest found other =>
    rw [stepArray_of_arr found]
    exact List.mem_append_right _ (mem_stepOne.mpr ⟨rfl, other⟩)
  | all found noArray =>
    rw [stepArray_of_ne_arr found noArray]
    exact List.mem_singleton_self _

/-- The schemas of items are refused nowhere else than where they are compiled. -/
theorem sound_array_iff : (array draft).Sound kind members ↔ ∀ slot sub, ArrayStep draft members slot sub → kind sub := by
  constructor
  · intro sound slot sub step
    exact sound.of_mem (stepArray_of_arrayStep step)
  · intro all step inside
    have child : ∃ slot sub, step = .child slot sub := by
      simp only [array, stepArray] at inside
      split at inside
      · cases inside
      · rcases List.mem_append.mp inside with item | rest
        · obtain ⟨_, _, rfl⟩ := List.mem_map.mp item
          exact ⟨_, _, rfl⟩
        · obtain ⟨_, _, rfl⟩ := List.mem_map.mp rest
          exact ⟨_, _, rfl⟩
      · exact ⟨_, _, List.mem_singleton.mp inside⟩
    obtain ⟨slot, sub, rfl⟩ := child
    exact ⟨slot, sub, rfl, all slot sub (arrayStep_of_stepArray inside)⟩

end Part
end JsonSchema
