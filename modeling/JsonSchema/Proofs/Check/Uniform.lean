import JsonSchema.Proofs.Check.Conjunctive

/-!
# Keywords that ask one subschema of all parts

Where no tuple and no named properties stand beside them, `items`, `additionalProperties` and
`propertyNames` ask every item, value or name of the data to satisfy their one subschema. Beside named
properties, `additionalProperties` asks it of the members that nothing declares.
-/

namespace JsonSchema

/-- The keywords that ask one subschema of all parts of the data. -/
def uniform : List Keyword := [.items, .additionalProperties, .propertyNames]

/-- The parts that such a keyword asks its subschema of. -/
def Keyword.partsOf (keyword : Keyword) (data : Json) : List Json :=
  match keyword, data with
  | .items, .arr values => values
  | .additionalProperties, .obj own => own.map Prod.snd
  | .propertyNames, .obj own => own.map fun member => .str member.1
  | _, _ => []

/-- The slot of its subschema. -/
def Keyword.uniformSlot : Keyword → Slot
  | .items => .restItems "items"
  | .additionalProperties => .additionalProperties
  | _ => .propertyNames

/-- A schema has one subschema under a keyword, and nothing else that the check of the keyword reads. -/
structure Members.Single (members : Members) (keyword : Keyword) (sub : Json) : Prop where
  found : members.lookup keyword.name = some sub
  schema : sub.items? = none
  others : ∀ name ∈ keyword.reads, name ≠ keyword.name → members.lookup name = none

variable {draft : Draft} {members : Members} {keyword : Keyword} {sub : Json}

theorem Members.Single.lookup (single : members.Single keyword sub) :
    ∀ name ∈ keyword.reads, members.lookup name = List.lookup name [(keyword.name, sub)] := by
  intro name read
  by_cases own : name = keyword.name
  · subst own
    rw [single.found]
    simp
  · rw [single.others name read own, List.lookup_cons, beq_false_of_ne own]
    rfl

theorem stepArray_single (schema : sub.items? = none) :
    stepArray draft [("items", sub)] = [.child (.restItems "items") sub] := by
  cases sub with
  | arr items => cases schema
  | _ => cases draft <;> rfl

/-- Compiling a schema that has nothing but such a keyword compiles its subschema. -/
theorem steps_sole (listed : keyword ∈ uniform) (schema : keyword = .items → sub.items? = none) :
    steps draft .root [(keyword.name, sub)] = if draft.knows keyword then [.child keyword.uniformSlot sub] else [] := by
  simp only [uniform, List.mem_cons, List.not_mem_nil, or_false] at listed
  rcases listed with rfl | rfl | rfl
  · have known : draft.knows .items = true := by cases draft <;> rfl
    simp (disch := decide) [steps, stepMembers, stepOne, stepItems, stepArray_single (schema rfl), List.lookup_cons, List.lookup_nil,
      Keyword.name, stepDependencies_singleton, known, Keyword.uniformSlot]
  · have known : draft.knows .additionalProperties = true := by cases draft <;> rfl
    simp (disch := decide) [steps, stepMembers, stepOne, stepItems, stepArray, List.lookup_cons, List.lookup_nil, Members.has,
      Keyword.name, stepDependencies_singleton, known, Keyword.uniformSlot]
  · by_cases known : draft.knows .propertyNames = true <;>
      simp (disch := decide) [steps, stepMembers, stepOne, stepItems, stepArray, List.lookup_cons, List.lookup_nil, Members.has,
        Keyword.name, stepDependencies_singleton, known, Keyword.uniformSlot]

/-- The subschema of such a keyword is the only one of a schema that has nothing else. -/
theorem subschemas_sole (listed : keyword ∈ uniform) (known : draft.knows keyword = true)
    (schema : keyword = .items → sub.items? = none) :
    subschemas draft [(keyword.name, sub)] = [(keyword.uniformSlot, sub)] := by
  rw [subschemas, steps_sole listed schema, if_pos known]
  rfl

/-- The subschemas that the check of the keyword reads are the one. -/
theorem Members.Single.subschemas (single : members.Single keyword sub) (listed : keyword ∈ uniform)
    (known : draft.knows keyword = true) :
    (JsonSchema.subschemas draft members).filter (fun entry => entry.1.within keyword.reads) =
      [(keyword.uniformSlot, sub)] := by
  rw [subschemas_filter_congr single.lookup, subschemas_sole listed known fun _ => single.schema]
  simp only [uniform, List.mem_cons, List.not_mem_nil, or_false] at listed
  rcases listed with rfl | rfl | rfl <;> rfl

theorem subschemas_within_of_found (listed : keyword ∈ [Keyword.additionalProperties, .propertyNames])
    (known : draft.knows keyword = true) (found : members.lookup keyword.name = some sub) :
    (subschemas draft members).filter (fun entry => entry.1.within [keyword.name]) = [(keyword.uniformSlot, sub)] := by
  rw [Context.subschemas_within_of_lookup found, subschemas_sole (List.mem_cons_of_mem _ listed) known]
  · simp only [List.mem_cons, List.not_mem_nil, or_false] at listed
    rcases listed with rfl | rfl <;> rfl
  · rintro rfl
    simp at listed

/-! ## Names that are declared -/

/-- A slot of `properties` or `patternProperties` covers a name. -/
def Slot.declares (name : String) : Slot → Bool
  | .property own => own == name
  | .patternProperty regex => regex.matchesIn name
  | _ => false

/-- An entry of `properties` or `patternProperties` covers a name. -/
def Members.Declares (members : Members) (name : String) : Prop :=
  ∃ keyword ∈ [Keyword.properties, .patternProperties], ∃ entries, members.lookup keyword.name = some (.obj entries) ∧
    ∃ key sub slot, (key, sub) ∈ entries ∧ Slot.ofKey? keyword key = some slot ∧ slot.declares name = true

theorem Fragment.declares_iff {f : Fragment} {name : String} :
    f.declares name = true ↔ ∃ entry ∈ f.children, entry.1.declares name = true := by
  unfold Fragment.declares
  rw [Bool.or_eq_true, List.any_eq_true]
  constructor
  · rintro (own | ⟨⟨regex, child⟩, inside, matched⟩)
    · obtain ⟨child, found⟩ := Option.isSome_iff_exists.mp own
      exact ⟨_, mem_properties.mp (mem_of_lookup found), by simp [Slot.declares]⟩
    · exact ⟨_, mem_patternProperties.mp inside, matched⟩
  · rintro ⟨⟨slot, child⟩, inside, covers⟩
    cases slot with
    | property own =>
      obtain rfl : own = name := eq_of_beq covers
      left
      rw [property?, List.lookup_isSome_iff]
      exact ⟨(own, child), mem_properties.mpr inside, by simp⟩
    | patternProperty regex => exact .inr ⟨(regex, child), mem_patternProperties.mpr inside, covers⟩
    | _ => cases covers

namespace Context

open Fragment

variable {context : Context} {depth : Nat} {data : Json} {f c : Fragment}

/-- The names that a fragment declares are those that its schema does. -/
theorem declares_iff_declares {source : Origin} {outer : Site} (compiled : Compiled draft source outer (.obj members) f)
    {name : String} : f.declares name = true ↔ members.Declares name := by
  have related := (compiled_obj.mp compiled).subschemas
  rw [Fragment.declares_iff]
  constructor
  · rintro ⟨⟨_, child⟩, member, covers⟩
    obtain ⟨⟨slot, sub⟩, inside, rfl, -⟩ := exists_left related member
    have under (keyword : Keyword) (mapped : keyword ∈ [Keyword.properties, .patternProperties])
        (within : slot.within [keyword.name] = true) : members.Declares name := by
      obtain ⟨entries, found, key, entry, named⟩ := (mem_subschemas_within mapped within).mp inside
      exact ⟨keyword, mapped, entries, found, key, sub, slot, entry, named, covers⟩
    cases slot with
    | property own => exact under .properties (by decide) rfl
    | patternProperty regex => exact under .patternProperties (by decide) rfl
    | _ => cases covers
  · rintro ⟨keyword, mapped, entries, found, key, sub, slot, inside, named, covers⟩
    have listed : (slot, sub) ∈ subschemas draft members :=
      (mem_subschemas_within mapped (Slot.within_of_ofKey? named)).mpr ⟨entries, found, key, inside, named⟩
    obtain ⟨child, member, same, -⟩ := exists_right related listed
    exact ⟨child, member, same ▸ covers⟩

/-- A fragment has one child where its schema has one subschema. -/
theorem sole_child {source : Origin} {outer : Site} {names : List String} {slot : Slot}
    (sole : (subschemas draft members).filter (fun entry => entry.1.within names) = [(slot, sub)])
    (compiled : Compiled draft source outer (.obj members) f) :
    ∃ c outer', Compiled draft source outer' sub c ∧ f.childrenWithin names = [(slot, c)] := by
  have related := (compiled_obj.mp compiled).childrenWithin names
  rw [sole] at related
  generalize f.childrenWithin names = entries at related
  cases related with
  | cons first rest =>
    rename_i entry entries
    obtain ⟨slot, c⟩ := entry
    obtain ⟨rfl, compiled⟩ := first
    cases rest
    exact ⟨c, _, compiled, rfl⟩

/-- A fragment of a schema with one subschema, whose only child accepts what the subschema accepts. The schema
that refuses everything is reported by itself. -/
theorem exists_sole (depth : Nat) (schema : (Json.obj members).PlainSchema context.draft) {names : List String} {slot : Slot}
    (sole : (subschemas context.draft members).filter (fun entry => entry.1.within names) = [(slot, sub)]) :
    ∃ source outer f c, Compiled context.draft source outer (.obj members) f ∧ f.childrenWithin names = [(slot, c)] ∧
      ∀ data value pointer,
        ((context.visit depth f data).validate c value pointer = some [] ↔ context.Meets depth sub value) ∧
        ∀ violation, (if c.isBool false = true then some [violation]
          else (context.visit depth f data).validate c value pointer) = some [] ↔ context.Meets depth sub value := by
  obtain ⟨f, compiled⟩ := schema.compiles (.document 0) (.ofDocument .default)
  obtain ⟨c, outer, child, within⟩ := sole_child sole compiled
  have inside : (slot, c) ∈ f.childrenWithin names := by
    rw [within]
    exact List.mem_singleton_self _
  have listed : (slot, sub) ∈ (subschemas context.draft members).filter fun entry => entry.1.within names := by
    rw [sole]
    exact List.mem_singleton_self _
  have plain : sub.Plain context.draft := (schema.below (List.mem_of_mem_filter listed)).plain
  have free : Scope.FreeAt (Scope.enterAt [] f .root) c :=
    ((Scope.freeAt_nil f).enterAt schema.plain compiled .root).freeAt (.single ⟨_, List.mem_of_mem_filter inside⟩)
  refine ⟨_, _, f, c, compiled, within, fun data value pointer => ?_⟩
  have judged : (context.visit depth f data).validate c value pointer = some [] ↔ context.Meets depth sub value :=
    (meets_iff plain child free pointer).symm
  refine ⟨judged, fun violation => ?_⟩
  split
  · rename_i refused
    have refusing : sub = .bool false := child.schema_eq ▸ schema_of_isBool refused
    rw [refusing]
    exact iff_of_false nofun not_meets_refusing
  · exact judged

/-- Where there is no tuple, `items` asks its subschema of every item. -/
theorem holds_items_iff (byValue : context.formats.ByValue) (schema : (Json.obj members).PlainSchema context.draft)
    (single : members.Single .items sub) : context.Holds depth .items members data ↔
      ∀ values, data = .arr values → ∀ value ∈ values, context.Meets depth sub value := by
  have known : context.draft.knows .items = true := by cases context.draft <;> rfl
  obtain ⟨_, _, f, c, compiled, within, judged⟩ := exists_sole depth schema (single.subschemas (by decide) known)
  have present : Keyword.items.isPresent context.draft members = true := by
    have found : members.lookup "items" = some sub := single.found
    simp [Keyword.isPresent, Members.has, found]
  have tuple : f.tupleItems = [] := by
    rw [tupleItems, @select_eq_within arrayNames]
    · rw [show f.childrenWithin arrayNames = _ from within]
      rfl
    · intro slot picked
      cases slot <;> first | rfl | cases picked
  have rest : f.restItems? = some c := by
    rw [restItems?, @child?_eq_within arrayNames]
    · rw [show f.childrenWithin arrayNames = _ from within]
      rfl
    · intro slot picked
      cases slot <;> first | rfl | cases picked
  rw [holds_iff_check byValue schema schema.plain (fun _ _ => rfl) compiled, forall_prop_of_true present]
  cases data with
  | arr values =>
    have each (item : Json) (index : Nat) :
        (context.visit depth f (.arr values)).checkItem item index = some [] ↔ context.Meets depth sub item := by
      rw [Visit.checkItem]
      simp only [visit, tuple, rest, List.getElem?_nil]
      exact (judged (.arr values) item _).2 _
    change gather values.zipIdx (fun entry => (context.visit depth f (.arr values)).checkItem entry.1 entry.2) = some [] ↔ _
    rw [gather_eq_nil]
    simp only [each, Json.arr.injEq, forall_eq']
    constructor
    · intro accepted value listed
      obtain ⟨index, place⟩ := List.mem_iff_getElem?.mp listed
      exact accepted (value, index) (List.mk_mem_zipIdx_iff_getElem?.mpr place)
    · exact fun accepted entry listed =>
        accepted entry.1 (List.mem_of_getElem? (List.mk_mem_zipIdx_iff_getElem?.mp listed))
  | _ => exact iff_of_true rfl fun _ same => by cases same

/-- `additionalProperties` asks its subschema of the members that nothing declares. -/
theorem holds_additionalProperties_iff (byValue : context.formats.ByValue)
    (schema : (Json.obj members).PlainSchema context.draft) (found : members.lookup "additionalProperties" = some sub) :
    context.Holds depth .additionalProperties members data ↔ ∀ own, data = .obj own →
      ∀ name value, (name, value) ∈ own → ¬ members.Declares name → context.Meets depth sub value := by
  have known : context.draft.knows .additionalProperties = true := by cases context.draft <;> rfl
  obtain ⟨_, _, f, c, compiled, within, judged⟩ :=
    exists_sole depth schema (subschemas_within_of_found (by decide) known found)
  have present : Keyword.additionalProperties.isPresent context.draft members = true := by
    simp [Keyword.isPresent, Members.has, Keyword.name, found]
  have rest : f.additionalProperties? = some c := by
    rw [additionalProperties?, @child?_eq_within [Keyword.additionalProperties.name], within]
    · rfl
    · intro slot picked
      cases slot <;> first | rfl | cases picked
  rw [holds_iff_check byValue schema schema.plain (fun _ _ => rfl) compiled, forall_prop_of_true present]
  cases data with
  | obj own =>
    change (context.visit depth f (.obj own)).checkAdditionalProperties = some [] ↔ _
    simp only [Visit.checkAdditionalProperties, visit, rest, Visit.checkUncovered, gather_eq_nil, Json.obj.injEq, forall_eq',
      Prod.forall, ← declares_iff_declares compiled]
    refine forall₃_congr fun name value inside => ?_
    cases f.declares name with
    | true => simp
    | false =>
      simp only [Bool.false_eq_true, ↓reduceIte, not_false_eq_true, forall_const]
      exact (judged (.obj own) value _).2 _
  | _ => exact iff_of_true rfl fun _ same => by cases same

/-- `propertyNames` asks its subschema of every name. -/
theorem holds_propertyNames_iff (byValue : context.formats.ByValue) (known : context.draft.knows .propertyNames = true)
    (schema : (Json.obj members).PlainSchema context.draft) (found : members.lookup "propertyNames" = some sub) :
    context.Holds depth .propertyNames members data ↔ ∀ own, data = .obj own →
      ∀ name value, (name, value) ∈ own → context.Meets depth sub (.str name) := by
  obtain ⟨_, _, f, c, compiled, within, judged⟩ :=
    exists_sole depth schema (subschemas_within_of_found (by decide) known found)
  have present : Keyword.propertyNames.isPresent context.draft members = true := by
    simp [Keyword.isPresent, Members.has, Keyword.name, found]
  have rest : f.propertyNames? = some c := by
    rw [propertyNames?, @child?_eq_within [Keyword.propertyNames.name], within]
    · rfl
    · intro slot picked
      cases slot <;> first | rfl | cases picked
  rw [holds_iff_check byValue schema schema.plain (fun _ _ => rfl) compiled, forall_prop_of_true present]
  cases data with
  | obj own =>
    have nested (answer : Option (List Violation)) (wrap : List Violation → Violation) :
        (do let failures ← answer; return if failures.isEmpty then [] else [wrap failures]) = some [] ↔ answer = some [] := by
      cases answer with
      | none => simp
      | some found => cases found <;> simp [pure]
    change (context.visit depth f (.obj own)).checkPropertyNames = some [] ↔ _
    simp only [Visit.checkPropertyNames, visit, rest, gather_eq_nil, Json.obj.injEq, forall_eq', Prod.forall]
    refine forall₃_congr fun name value inside => ?_
    exact (nested _ _).trans (judged (.obj own) (.str name) _).1
  | _ => exact iff_of_true rfl fun _ same => by cases same

/-- The keyword holds if the subschema accepts every part that it is asked of. -/
theorem holds_single_iff (byValue : context.formats.ByValue)
    (schema : (Json.obj members).PlainSchema context.draft) (listed : keyword ∈ uniform)
    (known : context.draft.knows keyword = true) (single : members.Single keyword sub) :
    context.Holds depth keyword members data ↔ ∀ value ∈ keyword.partsOf data, context.Meets depth sub value := by
  simp only [uniform, List.mem_cons, List.not_mem_nil, or_false] at listed
  rcases listed with rfl | rfl | rfl
  · rw [holds_items_iff byValue schema single]
    cases data <;> simp [Keyword.partsOf]
  · have undeclared (name : String) : ¬ members.Declares name := by
      rintro ⟨keyword, mapped, entries, found, -⟩
      simp only [List.mem_cons, List.not_mem_nil, or_false] at mapped
      have absent : members.lookup keyword.name = none := by
        rcases mapped with rfl | rfl <;> exact single.others _ (by decide) (by decide)
      rw [absent] at found
      cases found
    rw [holds_additionalProperties_iff byValue schema single.found]
    cases data with
    | obj own =>
      simp only [Keyword.partsOf, Json.obj.injEq, forall_eq', undeclared, not_false_eq_true, forall_const, List.forall_mem_map,
        Prod.forall]
    | _ => simp [Keyword.partsOf]
  · rw [holds_propertyNames_iff byValue known schema single.found]
    cases data with
    | obj own => simp only [Keyword.partsOf, Json.obj.injEq, forall_eq', List.forall_mem_map, Prod.forall]
    | _ => simp [Keyword.partsOf]

end Context
end JsonSchema
