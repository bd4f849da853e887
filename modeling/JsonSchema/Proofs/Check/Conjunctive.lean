import JsonSchema.Proofs.Check.Composition
import JsonSchema.Proofs.Check.Keywords

/-!
# Keywords that ask subschemas for all

Some keywords hold if all their subschemas accept the values they are asked about. Which values
these are, the slot of a subschema tells.
-/

namespace JsonSchema

/-- The values that a keyword asks the subschema in a slot to accept. -/
def Slot.subjects (keyword : Keyword) (data : Json) (slot : Slot) : List Json :=
  match keyword, slot with
  | .properties, .property name => (data.member? name).toList
  | .patternProperties, .patternProperty regex =>
    ((data.members?.getD []).filter fun member => regex.matchesIn member.1).map Prod.snd
  | .allOf, .member .allOf _ => [data]
  | _, _ => []

/-- The keywords that hold if all their subschemas accept the values they are asked about. -/
def conjunctive : List Keyword := [.properties, .patternProperties, .allOf]

theorem Slot.within_of_subjects {keyword : Keyword} {data value : Json} {slot : Slot}
    (asked : value ∈ slot.subjects keyword data) : slot.within [keyword.name] = true := by
  unfold Slot.subjects at asked
  split at asked
  · rfl
  · rfl
  · rfl
  · cases asked

namespace Visit

variable {visit : Visit} {accepts : Fragment → Json → Prop}

private theorem checkProperties_eq_nil
    (judged : ∀ entry ∈ visit.fragment.children, ∀ value pointer,
      visit.validate entry.2 value pointer = some [] ↔ accepts entry.2 value) :
    visit.checkProperties = some [] ↔ ∀ entry ∈ visit.fragment.children,
      ∀ value ∈ entry.1.subjects .properties visit.data, accepts entry.2 value := by
  unfold checkProperties
  cases data : visit.data with
  | obj own =>
    dsimp only
    rw [gather_eq_nil]
    constructor
    · rintro checked ⟨slot, child⟩ inside value asked
      cases slot with
      | property name =>
        have found : own.lookup name = some value := Option.mem_toList.mp asked
        have accepted := checked (name, child) (Fragment.mem_properties.mpr inside)
        simp only [found] at accepted
        exact (judged _ inside value _).mp accepted
      | _ => cases asked
    · rintro accepted ⟨name, child⟩ inside
      dsimp only
      cases found : own.lookup name with
      | none => rfl
      | some value =>
        have asked : value ∈ (Slot.property name).subjects .properties (.obj own) := Option.mem_toList.mpr found
        have member := Fragment.mem_properties.mp inside
        exact (judged _ member value _).mpr (accepted _ member value asked)
  | _ =>
    refine ⟨fun _ entry _ value asked => ?_, fun _ => rfl⟩
    cases slot : entry.1 <;> simp [slot, Slot.subjects, Json.member?] at asked

private theorem checkPatternProperties_eq_nil
    (judged : ∀ entry ∈ visit.fragment.children, ∀ value pointer,
      visit.validate entry.2 value pointer = some [] ↔ accepts entry.2 value) :
    visit.checkPatternProperties = some [] ↔ ∀ entry ∈ visit.fragment.children,
      ∀ value ∈ entry.1.subjects .patternProperties visit.data, accepts entry.2 value := by
  unfold checkPatternProperties
  cases data : visit.data with
  | obj own =>
    dsimp only
    simp only [gather_eq_nil]
    constructor
    · rintro checked ⟨slot, child⟩ inside value asked
      cases slot with
      | patternProperty regex =>
        obtain ⟨⟨name, _⟩, taken, rfl⟩ := List.mem_map.mp asked
        obtain ⟨member, matched⟩ := List.mem_filter.mp taken
        have accepted := checked (name, _) member (regex, child) (Fragment.mem_patternProperties.mpr inside)
        simp only [matched, ↓reduceIte] at accepted
        exact (judged _ inside _ _).mp accepted
      | _ => cases asked
    · rintro accepted ⟨name, value⟩ member ⟨regex, child⟩ inside
      dsimp only
      split
      · rename_i matched
        have asked : value ∈ (Slot.patternProperty regex).subjects .patternProperties (.obj own) :=
          List.mem_map.mpr ⟨(name, value), List.mem_filter.mpr ⟨member, matched⟩, rfl⟩
        have child' := Fragment.mem_patternProperties.mp inside
        exact (judged _ child' value _).mpr (accepted _ child' value asked)
      · rfl
  | _ =>
    refine ⟨fun _ entry _ value asked => ?_, fun _ => rfl⟩
    cases slot : entry.1 <;> simp [slot, Slot.subjects, Json.members?] at asked

private theorem checkAllOf_eq_nil
    (judged : ∀ entry ∈ visit.fragment.children, ∀ value pointer,
      visit.validate entry.2 value pointer = some [] ↔ accepts entry.2 value) :
    visit.checkAllOf = some [] ↔ ∀ entry ∈ visit.fragment.children,
      ∀ value ∈ entry.1.subjects .allOf visit.data, accepts entry.2 value := by
  rw [checkAllOf_eq_nil_iff]
  constructor
  · rintro checked ⟨slot, child⟩ inside value asked
    obtain ⟨index, rfl, rfl⟩ : ∃ index, slot = .member .allOf index ∧ value = visit.data := by
      unfold Slot.subjects at asked
      split at asked <;> simp_all
    exact (judged _ inside _ _).mp (checked child (Fragment.mem_members.mpr ⟨index, inside⟩))
  · intro accepted child inside
    obtain ⟨index, member⟩ := Fragment.mem_members.mp inside
    exact (judged _ member _ _).mpr (accepted _ member _ (List.mem_singleton_self _))

/-- The check of a conjunctive keyword finds nothing if every child accepts what it is asked about. -/
theorem check_eq_nil {keyword : Keyword} (conjoins : keyword ∈ conjunctive)
    (judged : ∀ entry ∈ visit.fragment.children, ∀ value pointer,
      visit.validate entry.2 value pointer = some [] ↔ accepts entry.2 value) :
    visit.check keyword = some [] ↔ ∀ entry ∈ visit.fragment.children,
      ∀ value ∈ entry.1.subjects keyword visit.data, accepts entry.2 value := by
  simp only [conjunctive, List.mem_cons, List.not_mem_nil, or_false] at conjoins
  rcases conjoins with rfl | rfl | rfl
  · exact checkProperties_eq_nil judged
  · exact checkPatternProperties_eq_nil judged
  · exact checkAllOf_eq_nil judged

end Visit

namespace Context

open Fragment

variable {context : Context} {depth : Nat} {data : Json} {members : Members} {keyword : Keyword}

/-- There are no subschemas under a keyword that is not there. -/
theorem subschemas_within_of_none {draft : Draft} {name : String} (absent : members.lookup name = none) :
    (subschemas draft members).filter (fun entry => entry.1.within [name]) = [] := by
  have none : subschemas draft [] = [] := by cases draft <;> rfl
  have same : ∀ other ∈ [name], members.lookup other = List.lookup other [] := fun other known => by
    rw [List.mem_singleton.mp known, absent]
    rfl
  rw [subschemas_filter_congr same, none, List.filter_nil]

/-- No subschema is asked under a keyword that is not there. -/
theorem subjects_eq_nil {draft : Draft} (absent : members.lookup keyword.name = none) {entry : Slot × Json}
    (inside : entry ∈ subschemas draft members) : entry.1.subjects keyword data = [] := by
  refine List.eq_nil_iff_forall_not_mem.mpr fun value asked => ?_
  have listed : entry ∈ (subschemas draft members).filter fun entry => entry.1.within [keyword.name] :=
    List.mem_filter.mpr ⟨inside, Slot.within_of_subjects asked⟩
  rw [subschemas_within_of_none absent] at listed
  cases listed

/-- A conjunctive keyword holds if the subschemas under it accept what they are asked about. -/
theorem holds_iff_subjects (byValue : context.formats.ByValue)
    (schema : (Json.obj members).PlainSchema context.draft) (conjoins : keyword ∈ conjunctive) :
    context.Holds depth keyword members data ↔ ∀ entry ∈ subschemas context.draft members,
      ∀ value ∈ entry.1.subjects keyword data, context.Meets depth entry.2 value := by
  obtain ⟨f, compiled⟩ := schema.compiles (.document 0) (.ofDocument .default)
  have related := (compiled_obj.mp compiled).subschemas
  rw [holds_iff_check byValue schema schema.plain (fun _ _ => rfl) compiled]
  have present : keyword.isPresent context.draft members = true ↔ (members.lookup keyword.name).isSome := by
    simp only [conjunctive, List.mem_cons, List.not_mem_nil, or_false] at conjoins
    rcases conjoins with rfl | rfl | rfl <;> rfl
  cases found : members.lookup keyword.name with
  | none =>
    simp only [found, Option.isSome_none, Bool.false_eq_true, iff_false] at present
    refine ⟨fun _ entry inside value asked => ?_, fun _ there => absurd there present⟩
    rw [subjects_eq_nil found inside] at asked
    cases asked
  | some value =>
    rw [forall_prop_of_true (present.mpr (by rw [found]; rfl)),
      @Visit.check_eq_nil _ (fun child value => context.Meets depth child.schema value) _ conjoins]
    · constructor
      · intro accepted entry inside value asked
        obtain ⟨child, member, slot, compiled⟩ := exists_right related inside
        rw [← compiled.schema_eq]
        exact accepted child member value (slot ▸ asked)
      · intro accepted child member value asked
        obtain ⟨entry, inside, slot, compiled⟩ := exists_left related member
        rw [compiled.schema_eq]
        exact accepted entry inside value (slot ▸ asked)
    · intro child member value pointer
      obtain ⟨entry, inside, slot, sub⟩ := exists_left related member
      have free := (Scope.freeAt_nil f).enterAt schema.plain compiled .root
      rw [sub.schema_eq]
      exact (meets_iff (schema.below inside).plain sub (free.freeAt (.single ⟨child.1, member⟩)) pointer).symm

/-! ## Under the keyword itself -/

/-- The subschemas under a keyword are those of the schema that has nothing else. -/
theorem subschemas_within_of_lookup {draft : Draft} {name : String} {value : Json}
    (found : members.lookup name = some value) :
    (subschemas draft members).filter (fun entry => entry.1.within [name]) =
      (subschemas draft [(name, value)]).filter fun entry => entry.1.within [name] := by
  refine subschemas_filter_congr fun other known => ?_
  rw [List.mem_singleton.mp known, found]
  simp

/-- Asking all subschemas is asking those under the keyword. -/
theorem holds_iff_alone (byValue : context.formats.ByValue)
    (schema : (Json.obj members).PlainSchema context.draft) (conjoins : keyword ∈ conjunctive) {value : Json}
    (found : members.lookup keyword.name = some value) :
    context.Holds depth keyword members data ↔ ∀ entry ∈ subschemas context.draft [(keyword.name, value)],
      ∀ value ∈ entry.1.subjects keyword data, context.Meets depth entry.2 value := by
  rw [holds_iff_subjects byValue schema conjoins]
  have inside (members : Members) (entry : Slot × Json) {value : Json} (asked : value ∈ entry.1.subjects keyword data) :
      entry ∈ subschemas context.draft members ↔
        entry ∈ (subschemas context.draft members).filter fun entry => entry.1.within [keyword.name] := by
    rw [List.mem_filter, Slot.within_of_subjects asked]
    exact (and_iff_left rfl).symm
  constructor
  · intro accepted entry listed value asked
    rw [inside _ _ asked, ← subschemas_within_of_lookup found, ← inside _ _ asked] at listed
    exact accepted entry listed value asked
  · intro accepted entry listed value asked
    rw [inside _ _ asked, subschemas_within_of_lookup found, ← inside _ _ asked] at listed
    exact accepted entry listed value asked

end Context

/-- The slot that a key of a map of schemas names. -/
def Slot.ofKey? : Keyword → String → Option Slot
  | .properties, key => some (.property key)
  | .patternProperties, key => (Regex.compile key).toOption.map .patternProperty
  | _, _ => none

private theorem child?_of_stepPattern {pointer : Pointer} {key : String} {value sub : Json} {slot : Slot} :
    (stepPattern pointer key value).child? = some (slot, sub) ↔
      value = sub ∧ Slot.ofKey? .patternProperties key = some slot := by
  unfold stepPattern readPattern Slot.ofKey?
  cases compiled : Regex.compile key with
  | ok regex => simp [compiled, Step.child?, Except.toOption, and_comm]
  | error fault => simp [compiled, Step.child?, Except.toOption]

/-- The subschemas of a map stand in the slots that its keys name. -/
theorem mem_subschemas_entries {draft : Draft} {keyword : Keyword} {entries : Members} {slot : Slot} {sub : Json}
    (mapped : keyword ∈ [Keyword.properties, .patternProperties]) :
    (slot, sub) ∈ subschemas draft [(keyword.name, .obj entries)] ↔
      ∃ key, (key, sub) ∈ entries ∧ Slot.ofKey? keyword key = some slot := by
  simp only [List.mem_cons, List.not_mem_nil, or_false] at mapped
  rcases mapped with rfl | rfl
  · simp (disch := decide) [subschemas, steps, stepMembers, stepOne, stepItems, stepArray, List.lookup_cons, List.lookup_nil, Members.has,
      Keyword.name, stepDependencies_singleton, Slot.ofKey?, Step.child?]
  · simp (disch := decide) [subschemas, steps, stepMembers, stepOne, stepItems, stepArray, List.lookup_cons, List.lookup_nil, Members.has,
      Keyword.name, stepDependencies_singleton, child?_of_stepPattern]

theorem Slot.within_of_ofKey? {keyword : Keyword} {key : String} {slot : Slot} (named : Slot.ofKey? keyword key = some slot) :
    slot.within [keyword.name] = true := by
  unfold ofKey? at named
  split at named
  · cases named
    rfl
  · obtain ⟨regex, -, rfl⟩ := Option.map_eq_some_iff.mp named
    rfl
  · cases named

/-- The subschemas in the slots of a map are the entries of the map, if there is one. -/
theorem mem_subschemas_within {draft : Draft} {members : Members} {keyword : Keyword} {slot : Slot} {sub : Json}
    (mapped : keyword ∈ [Keyword.properties, .patternProperties]) (within : slot.within [keyword.name] = true) :
    (slot, sub) ∈ subschemas draft members ↔ ∃ entries, members.lookup keyword.name = some (.obj entries) ∧
      ∃ key, (key, sub) ∈ entries ∧ Slot.ofKey? keyword key = some slot := by
  have own (members : Members) : (slot, sub) ∈ subschemas draft members ↔
      (slot, sub) ∈ (subschemas draft members).filter fun entry => entry.1.within [keyword.name] := by
    rw [List.mem_filter]
    exact (and_iff_left within).symm
  cases found : members.lookup keyword.name with
  | none =>
    rw [own, Context.subschemas_within_of_none found]
    simp
  | some value =>
    rw [own, Context.subschemas_within_of_lookup found, ← own]
    cases value with
    | obj entries => simp [mem_subschemas_entries mapped]
    | _ =>
      simp only [List.mem_cons, List.not_mem_nil, or_false] at mapped
      rcases mapped with rfl | rfl <;>
        simp (disch := decide) [subschemas, steps, stepMembers, stepOne, stepItems, stepArray, List.lookup_cons, List.lookup_nil, Members.has,
          Keyword.name, stepDependencies_singleton, Step.child?]

theorem subschemas_allOf {draft : Draft} {items : List Json} : subschemas draft [("allOf", .arr items)] =
    items.zipIdx.map fun entry => (.member .allOf entry.2, entry.1) := by
  simp (disch := decide) [subschemas, steps, stepMembers, stepOne, stepItems, stepArray, List.lookup_cons, List.lookup_nil, Members.has,
    Keyword.name, stepDependencies_singleton, Step.child?, Function.comp_def]

namespace Context

open Fragment

variable {context : Context} {depth : Nat} {data : Json} {members : Members} {keyword : Keyword}

/-- A map of schemas holds if its entries accept what they are asked about. -/
theorem holds_iff_entries (byValue : context.formats.ByValue)
    (schema : (Json.obj members).PlainSchema context.draft) (mapped : keyword ∈ [Keyword.properties, .patternProperties])
    {entries : Members} (found : members.lookup keyword.name = some (.obj entries)) :
    context.Holds depth keyword members data ↔ ∀ key sub, (key, sub) ∈ entries → ∀ slot, Slot.ofKey? keyword key = some slot →
      ∀ value ∈ slot.subjects keyword data, context.Meets depth sub value := by
  have conjoins : keyword ∈ conjunctive := by
    simp only [List.mem_cons, List.not_mem_nil, or_false] at mapped
    rcases mapped with rfl | rfl <;> decide
  rw [holds_iff_alone byValue schema conjoins found]
  constructor
  · exact fun accepted key sub inside slot named =>
      accepted (slot, sub) ((mem_subschemas_entries mapped).mpr ⟨key, inside, named⟩)
  · rintro accepted ⟨slot, sub⟩ listed
    obtain ⟨key, inside, named⟩ := (mem_subschemas_entries mapped).mp listed
    exact accepted key sub inside slot named

/-- `allOf` holds if all its members accept the value. -/
theorem holds_allOf_iff (byValue : context.formats.ByValue)
    (schema : (Json.obj members).PlainSchema context.draft) {items : List Json}
    (found : members.lookup "allOf" = some (.arr items)) :
    context.Holds depth .allOf members data ↔ ∀ sub ∈ items, context.Meets depth sub data := by
  rw [@holds_iff_alone _ _ _ _ .allOf byValue schema (by decide) _ found]
  simp only [Keyword.name, subschemas_allOf, List.forall_mem_map]
  constructor
  · intro accepted sub inside
    obtain ⟨index, place⟩ := List.mem_iff_getElem?.mp inside
    exact accepted (sub, index) (List.mk_mem_zipIdx_iff_getElem?.mpr place) data (List.mem_singleton_self _)
  · rintro accepted ⟨sub, index⟩ listed value asked
    rw [List.mem_singleton.mp asked]
    exact accepted sub (List.mem_of_getElem? (List.mk_mem_zipIdx_iff_getElem?.mp listed))

end Context
end JsonSchema
