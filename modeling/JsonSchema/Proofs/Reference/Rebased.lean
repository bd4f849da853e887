import JsonSchema.Proofs.Compilation.Sound
import JsonSchema.Proofs.Compilation.Unidentified
import JsonSchema.Proofs.Reference.Rebase

/-!
# Rebased schemas compile

Making references absolute leaves the shape of a schema as it is: what is compiled under a keyword is what was
compiled there, rebased itself unless it stands under the name of a keyword with data. So without identifiers a
rebased schema compiles where the schema does.
-/

namespace JsonSchema

open Fragment

variable {draft : Draft} {part : Part} {members : Members} {base own : Uri} {name : String} {keyword : Keyword}
  {slot : Slot}

/-- Keywords whose values rebasing treats in a way of its own. -/
def rebasedKeywords : List String := ["$id", "id", "$ref", "$recursiveRef", "$dynamicRef"] ++ dataKeywords

theorem lookup_rebaseMembers_of_plain (plain : name ∉ rebasedKeywords) :
    (rebaseMembers base own members).lookup name = (members.lookup name).map (rebase own) := by
  simp only [rebasedKeywords, List.cons_append, List.nil_append, List.mem_cons, not_or] at plain
  obtain ⟨id, id', reference, recursive, dynamic, noData⟩ := plain
  have member (value : Json) : rebasedMember base own name value = rebase own value := by
    simp [rebasedMember, id, id', reference, recursive, dynamic, noData]
  rw [lookup_rebaseMembers]
  cases members.lookup name with
  | none => rfl
  | some value => rw [Option.map_some, Option.map_some, member]

theorem plain_of_parts (listed : part ∈ parts draft) : ∀ name ∈ part.names, name ∉ rebasedKeywords := by
  have all : ∀ part ∈ parts draft, ∀ name ∈ part.names, name ∉ rebasedKeywords := by cases draft <;> decide +kernel
  exact all part listed

theorem rebase_eq_arr {value : Json} {items : List Json} (same : rebase base value = .arr items) :
    ∃ own, value = .arr own ∧ items = own.map (rebase base) := by
  cases value with
  | arr own =>
    rw [rebase, rebaseItems_eq, Json.arr.injEq] at same
    exact ⟨own, rfl, same.symm⟩
  | _ => cases same

theorem rebase_arr (items : List Json) : rebase base (.arr items) = .arr (items.map (rebase base)) := by
  rw [rebase, rebaseItems_eq]

theorem rebase_obj (members : Members) : rebase base (.obj members) =
    .obj (members.map fun (name, value) => (name, rebasedMember base (ownBase base members) name value)) := by
  rw [rebase, rebaseMembers_eq]

namespace Part

/-- A part has a schema as it is, or the schema that it is rebased from. -/
inductive Rebases (part : Part) (members : Members) : Json → Prop where
  | kept {slot : Slot} {x : Json} (step : .child slot x ∈ part.steps .root members) : Rebases part members x
  | rebased {slot : Slot} {x : Json} (base : Uri) (step : .child slot x ∈ part.steps .root members) :
      Rebases part members (rebase base x)

/-- An entry of a map is kept or rebased. -/
theorem rebases_entry {x : Json} (schema : x.IsSchema) (key : String) (step : .child slot x ∈ part.steps .root members) :
    part.Rebases members (rebasedMember base own key x) := by
  have noText (text : String) : x ≠ .str text := by
    rcases schema with ⟨_, rfl⟩ | ⟨_, rfl⟩ <;> simp
  rw [rebasedMember_of_not_str noText]
  split
  · exact .kept step
  · exact .rebased own step

theorem sound_rebases_whole (plain : name ∉ rebasedKeywords)
    (steps : part.steps = fun _ members => stepOne members name slot) :
    part.Sound (part.Rebases members) (rebaseMembers base own members) := by
  intro step inside
  rw [steps] at inside
  obtain ⟨z, found, rfl⟩ := List.mem_map.mp inside
  rw [Option.mem_toList, lookup_rebaseMembers_of_plain plain] at found
  obtain ⟨x, known, rfl⟩ := Option.map_eq_some_iff.mp found
  exact ⟨slot, _, rfl, .rebased own (mem_steps_whole steps known)⟩

theorem sound_rebases_one (plain : name ∉ rebasedKeywords) :
    (one draft keyword name slot).Sound ((one draft keyword name slot).Rebases members) (rebaseMembers base own members) :=
  sound_one fun steps => sound_rebases_whole plain steps

theorem sound_rebases_entries {step : Pointer → String → Json → Step} (slots : SlotsByKey step)
    (plain : name ∉ rebasedKeywords) (sound : (entries name step).Sound Json.IsSchema members) :
    (entries name step).Sound ((entries name step).Rebases members) (rebaseMembers base own members) := by
  have rebased := @lookup_rebaseMembers_of_plain members base own name plain
  cases found : members.lookup name with
  | none =>
    intro step inside
    simp [entries, stepMembers, rebased, found] at inside
  | some value =>
    obtain ⟨xs, rfl⟩ := sound.exists_entries found
    rw [found, Option.map_some, rebase_obj] at rebased
    refine (sound_entries_iff slots rebased).mpr fun key sub inside => ?_
    obtain ⟨⟨key, x⟩, listed, same⟩ := List.mem_map.mp inside
    cases same
    obtain ⟨slot, made, schema⟩ := (sound_entries_iff slots found).mp sound key x listed
    exact ⟨slot, (slots key x slot x _ made).2, rebases_entry schema key (mem_steps_entries found listed made)⟩

theorem sound_rebases_items (plain : keyword.name ∉ rebasedKeywords)
    (sound : (items keyword).Sound Json.IsSchema members) :
    (items keyword).Sound ((items keyword).Rebases members) (rebaseMembers base own members) := by
  have rebased := @lookup_rebaseMembers_of_plain members base own keyword.name plain
  cases found : members.lookup keyword.name with
  | none =>
    intro step inside
    simp [items, stepItems, rebased, found] at inside
  | some value =>
    obtain ⟨xs, rfl⟩ := sound.exists_items found
    rw [found, Option.map_some, rebase_arr] at rebased
    refine (sound_items_iff rebased).mpr fun sub inside => ?_
    obtain ⟨x, listed, rfl⟩ := List.mem_map.mp inside
    obtain ⟨index, place⟩ := List.mem_iff_getElem?.mp listed
    exact .rebased own (mem_steps_items found place)

theorem sound_rebases_dependencies (plain : keyword.name ∉ rebasedKeywords)
    (sound : (dependencies keyword).Sound Json.IsSchema members) :
    (dependencies keyword).Sound ((dependencies keyword).Rebases members) (rebaseMembers base own members) := by
  have rebased := @lookup_rebaseMembers_of_plain members base own keyword.name plain
  cases found : members.lookup keyword.name with
  | none =>
    intro step inside
    simp [dependencies, stepDependencies, rebased, found] at inside
  | some value =>
    obtain ⟨xs, rfl⟩ := sound.exists_dependencies found
    rw [found, Option.map_some, rebase_obj] at rebased
    refine (sound_dependencies_iff rebased).mpr fun key sub inside => ?_
    obtain ⟨⟨key, x⟩, listed, same⟩ := List.mem_map.mp inside
    cases same
    rcases (sound_dependencies_iff found).mp sound key x listed with ⟨names, rfl, apart, texts⟩ | ⟨schema, apart, -⟩
    · left
      rw [rebasedMember_of_not_str (by simp)]
      split
      · exact ⟨names, rfl, apart, texts⟩
      · refine ⟨_, rebase_arr names, apart, fun name inside => ?_⟩
        obtain ⟨text, named, rfl⟩ := List.mem_map.mp inside
        rw [string?_rebase]
        exact texts text named
    · refine .inr ⟨?_, apart, rebases_entry schema key (mem_steps_dependencies found listed schema apart)⟩
      rw [rebasedMember_of_not_str (by rcases schema with ⟨_, rfl⟩ | ⟨_, rfl⟩ <;> simp)]
      split
      · exact schema
      · rcases schema with ⟨_, rfl⟩ | ⟨_, rfl⟩
        · exact .inl ⟨_, rfl⟩
        · exact .inr ⟨_, rfl⟩

theorem sound_rebases_array (plain : ∀ name ∈ arrayNames, name ∉ rebasedKeywords) :
    (array draft).Sound ((array draft).Rebases members) (rebaseMembers base own members) := by
  have rebased (name : String) (listed : name ∈ arrayNames) :=
    @lookup_rebaseMembers_of_plain members base own name (plain name listed)
  have tuple : tupleName draft (rebaseMembers base own members) = tupleName draft members := by
    rw [tupleName, tupleName, Members.has, rebased "prefixItems" (by simp [arrayNames]), Option.isSome_map, Members.has]
  have rest : restName draft (rebaseMembers base own members) = restName draft members := by rw [restName, restName, tuple]
  have tupleListed : tupleName draft members ∈ arrayNames := by
    unfold tupleName
    split <;> simp [arrayNames]
  have restListed : restName draft members ∈ arrayNames := by
    unfold restName
    split <;> simp [arrayNames]
  rw [sound_array_iff]
  intro slot sub step
  cases step with
  | position found inside =>
    rw [tuple, rebased _ tupleListed] at found
    obtain ⟨value, known, same⟩ := Option.map_eq_some_iff.mp found
    obtain ⟨items, rfl, rfl⟩ := rebase_eq_arr same
    rw [List.getElem?_map] at inside
    obtain ⟨x, place, rfl⟩ := Option.map_eq_some_iff.mp inside
    exact .rebased own (stepArray_of_arrayStep (.position known place))
  | rest found other =>
    rw [tuple, rebased _ tupleListed] at found
    rw [rest, rebased _ restListed] at other
    obtain ⟨value, known, same⟩ := Option.map_eq_some_iff.mp found
    obtain ⟨items, rfl, rfl⟩ := rebase_eq_arr same
    obtain ⟨x, known', rfl⟩ := Option.map_eq_some_iff.mp other
    exact .rebased own (stepArray_of_arrayStep (.rest known known'))
  | all found noArray =>
    rw [tuple, rebased _ tupleListed] at found
    obtain ⟨x, known, rfl⟩ := Option.map_eq_some_iff.mp found
    refine .rebased own (stepArray_of_arrayStep (.all known ?_))
    rintro items rfl
    exact noArray _ (rebase_arr items)

/-- What is compiled under a keyword after rebasing was compiled there before. -/
theorem sound_rebases (listed : part ∈ parts draft) (sound : part.Sound Json.IsSchema members) :
    part.Sound (part.Rebases members) (rebaseMembers base own members) := by
  have plain := plain_of_parts listed
  have alone {name : String} (named : part.names = [name]) : name ∉ rebasedKeywords :=
    plain name (named ▸ List.mem_singleton_self _)
  simp only [parts, List.mem_append, List.mem_cons, List.mem_map, List.not_mem_nil, or_false] at listed
  rcases listed with ((rfl | rfl | rfl | rfl | rfl) | ⟨keyword, -, rfl⟩) | (rfl | rfl | rfl | rfl | rfl | rfl | rfl | rfl |
    rfl | rfl | rfl | rfl)
  · exact sound_rebases_entries (slotsByKey_child _) (alone rfl) sound
  · exact sound_rebases_entries slotsByKey_pattern (alone rfl) sound
  · exact sound_rebases_whole (alone rfl) rfl
  · exact sound_rebases_one (alone rfl)
  · exact sound_rebases_one (alone rfl)
  · exact sound_rebases_dependencies (alone rfl) sound
  · exact sound_rebases_array plain
  · exact sound_rebases_one (alone rfl)
  · exact sound_rebases_one (alone rfl)
  · exact sound_rebases_one (alone rfl)
  · exact sound_rebases_items (alone rfl) sound
  · exact sound_rebases_items (alone rfl) sound
  · exact sound_rebases_items (alone rfl) sound
  · exact sound_rebases_one (alone rfl)
  · exact sound_rebases_one (alone rfl)
  · exact sound_rebases_one (alone rfl)
  · exact sound_rebases_entries (slotsByKey_child _) (alone rfl) sound
  · exact sound_rebases_entries (slotsByKey_child _) (alone rfl) sound

end Part

/-! ## Whole schemas -/

theorem checkTypes_rebaseMembers (typed : checkTypes .root members = .ok ()) :
    checkTypes .root (rebaseMembers base own members) = .ok () := by
  rw [checkTypes_eq_ok] at typed ⊢
  intro value found
  rw [lookup_rebaseMembers_of_plain (by decide)] at found
  obtain ⟨value, known, rfl⟩ := Option.map_eq_some_iff.mp found
  rcases typed value known with ⟨values, rfl, each⟩ | ⟨name, rfl, names⟩
  · refine .inl ⟨_, rebase_arr values, fun other inside => ?_⟩
    obtain ⟨value, listed, rfl⟩ := List.mem_map.mp inside
    obtain ⟨name, rfl, names⟩ := each value listed
    exact ⟨name, rfl, names⟩
  · exact .inr ⟨name, rfl, names⟩

theorem patternOf_rebaseMembers : patternOf .root (rebaseMembers base own members) = patternOf .root members := by
  unfold patternOf
  rw [lookup_rebaseMembers_of_plain (by decide)]
  cases members.lookup "pattern" with
  | none => rfl
  | some value => cases value <;> rfl

theorem stringMember?_rebaseMembers_idKeyword (unidentified : (Json.obj members).stringMember? draft.idKeyword = none) :
    (Json.obj (rebaseMembers base own members)).stringMember? draft.idKeyword = none := by
  have noData : draft.idKeyword ∉ dataKeywords := by cases draft <;> decide
  simp only [Json.stringMember?, Json.member?, lookup_rebaseMembers] at unidentified ⊢
  cases found : members.lookup draft.idKeyword with
  | none => rfl
  | some value =>
    rw [found] at unidentified
    have noText : ∀ text, value ≠ .str text := by
      rintro text rfl
      cases unidentified
    rw [Option.map_some, rebasedMember_of_not_str noText, if_neg noData]
    exact (string?_rebase value).trans unidentified

/-- A schema without identifiers has none and compiles in the same resources after rebasing. -/
theorem compilesIn_rebase {resource : Uri} {schema : Json} (unidentified : schema.Unidentified draft)
    (compiles : CompilesIn draft resource schema) (base : Uri) :
    (rebase base schema).Unidentified draft ∧ CompilesIn draft resource (rebase base schema) := by
  induction unidentified generalizing base with
  | bool b => exact ⟨.bool b, compiles⟩
  | @obj members own below ih =>
    have built := (compilesIn_obj own).mp compiles
    have own' := @stringMember?_rebaseMembers_idKeyword draft members base (ownBase base members) own
    -- every subschema is one that was there before, or one of those rebased
    have step {step : Step} (inside : step ∈ steps draft .root (rebaseMembers base (ownBase base members) members)) :
        ∃ slot sub, step = .child slot sub ∧ sub.Unidentified draft ∧ CompilesIn draft resource sub := by
      rw [steps_eq_parts] at inside
      obtain ⟨part, listed, inside⟩ := List.mem_flatMap.mp inside
      have sound := (built.sound listed).mono fun _ => CompilesIn.isSchema
      have held {slot : Slot} {x : Json} (step : .child slot x ∈ part.steps .root members) :
          (slot, x) ∈ subschemas draft members ∧ CompilesIn draft resource x :=
        ⟨mem_subschemas_of_part listed step, (built.sound listed).of_mem step⟩
      obtain ⟨slot, sub, rfl, rebases⟩ := Part.sound_rebases listed sound step inside
      refine ⟨slot, sub, rfl, ?_⟩
      cases rebases with
      | kept step => exact ⟨below _ (held step).1, (held step).2⟩
      | rebased base step => exact ih _ (held step).1 (held step).2 base
    rw [rebase]
    refine ⟨.obj own' fun entry inside => ?_, (compilesIn_obj own').mpr ⟨?_, ?_, fun other inside => ?_⟩⟩
    · obtain ⟨slot, sub⟩ := entry
      obtain ⟨_, _, same, unidentified, -⟩ := step (mem_subschemas.mp inside)
      cases same
      exact unidentified
    · exact checkTypes_rebaseMembers built.typed
    · rw [patternOf_rebaseMembers]
      exact built.pattern
    · obtain ⟨slot, sub, same, -, compiles⟩ := step inside
      exact ⟨slot, sub, same, compiles⟩

end JsonSchema
