import JsonSchema.Proofs.Compilation.Plain
import JsonSchema.Proofs.Direct.Interpreter

/-!
# Subschemas where they stand

The children of a compiled schema object, by what they are to it, are the schemas that stand in its
JSON: the members of maps, the items of lists, and the values of keywords, in the same order.
-/

namespace JsonSchema

/-! ## The part of a keyword -/

/-- The slots and subschemas of one part. -/
def Part.subschemas (part : Part) (members : Members) : List (Slot × Json) :=
  (part.steps .root members).filterMap Step.child?

variable {draft : Draft} {members : Members}

/-- The subschemas in the slots of some keywords are those of the part that reads these keywords. -/
theorem subschemas_filter_names (names : List String) :
    (subschemas draft members).filter (fun entry => entry.1.names = names) =
      ((parts draft).filter fun part => part.names = names).flatMap fun part => part.subschemas members := by
  rw [subschemas, steps_eq_parts, List.filterMap_flatMap, List.filter_flatMap]
  have own : ∀ part ∈ parts draft, ∀ entry ∈ part.subschemas members, entry.1.names = part.names := by
    intro part listed entry inside
    obtain ⟨step, stepped, made⟩ := List.mem_filterMap.mp inside
    cases step with
    | refuse fault => cases made
    | child slot schema =>
      cases made
      exact (local_of_parts listed).slots _ _ _ _ stepped
  generalize parts draft = all at own
  induction all with
  | nil => rfl
  | cons part rest ih =>
    have later := ih fun part listed => own part (List.mem_cons_of_mem _ listed)
    have first := own part List.mem_cons_self
    rw [List.flatMap_cons, later]
    by_cases same : part.names = names
    · rw [List.filter_cons_of_pos (by simpa using same), List.flatMap_cons]
      congr 1
      exact List.filter_eq_self.mpr fun entry inside => by simpa using (first entry inside).trans same
    · rw [List.filter_cons_of_neg (by simpa using same)]
      have none : (part.subschemas members).filter (fun entry => entry.1.names = names) = [] :=
        List.filter_eq_nil_iff.mpr fun entry inside held => same (first entry inside ▸ by simpa using held)
      exact congrArg (· ++ _) none

/-- Where one part alone reads some keywords, the subschemas in their slots are those of the part. -/
theorem subschemas_under {names : List String} {part : Part}
    (sole : (parts draft).filter (fun part => part.names = names) = [part]) :
    (subschemas draft members).filter (fun entry => entry.1.names = names) = part.subschemas members := by
  rw [subschemas_filter_names, sole, List.flatMap_singleton]

/-- The members of a map of schemas. -/
theorem subschemas_entries (name : String) (make : String → Slot) :
    (Part.entries name fun _ key schema => .child (make key) schema).subschemas members =
      (members.entries name).map fun entry => (make entry.1, entry.2) := by
  simp only [Part.subschemas, Part.entries, stepMembers, Members.entries]
  cases members.lookup name with
  | none => rfl
  | some value =>
    cases value with
    | obj entries => simp [Json.members?, Step.child?, Function.comp_def]
    | _ => rfl

/-- The members of a map with patterns for names. -/
theorem subschemas_patterns : (Part.entries "patternProperties" stepPattern).subschemas members =
    (members.entries "patternProperties").filterMap fun entry =>
      (Regex.compile entry.1).toOption.map fun regex => (.patternProperty regex, entry.2) := by
  have read (key : String) (schema : Json) : (stepPattern .root key schema).child? =
      (Regex.compile key).toOption.map fun regex => (.patternProperty regex, schema) := by
    unfold stepPattern readPattern
    cases Regex.compile key <;> rfl
  simp only [Part.subschemas, Part.entries, stepMembers, Members.entries]
  cases members.lookup "patternProperties" with
  | none => rfl
  | some value =>
    cases value with
    | obj entries => simp [Json.members?, read]
    | _ => rfl

/-- The value of a keyword, if it is known. -/
theorem subschemas_one (known : Bool) (name : String) (slot : Slot) (names : List String) :
    Part.subschemas ⟨names, fun _ members => if known then stepOne members name slot else []⟩ members =
      (if known then members.lookup name else none).toList.map fun schema => (slot, schema) := by
  cases known
  · rfl
  · simp [Part.subschemas, stepOne, Step.child?, Function.comp_def]

/-- The items of a list of schemas. -/
theorem subschemas_items (keyword : Keyword) : (Part.items keyword).subschemas members =
    (members.elements keyword.name).zipIdx.map fun entry => (.member keyword entry.2, entry.1) := by
  simp only [Part.subschemas, Part.items, stepItems, Members.elements]
  cases members.lookup keyword.name with
  | none => rfl
  | some value =>
    cases value with
    | arr items => simp [Json.items?, Step.child?, Function.comp_def]
    | _ => rfl

/-! ## Items -/

/-- The latest draft has `prefixItems`. -/
theorem Draft.hasPrefixItems_iff : draft.hasPrefixItems = true ↔ draft = .draft2020 := by
  cases draft <;> decide

/-- The tuple stands under `prefixItems` where that is known and present, and under `items` else. -/
theorem tupleName_cases (draft : Draft) (members : Members) :
    (draft.hasPrefixItems = true ∧ members.has "prefixItems" = true) ∧ tupleName draft members = "prefixItems" ∧
        restName draft members = "items" ∨
      ¬ (draft.hasPrefixItems = true ∧ members.has "prefixItems" = true) ∧ tupleName draft members = "items" ∧
        restName draft members = "additionalItems" := by
  unfold restName tupleName
  rw [← Bool.and_eq_true]
  by_cases newer : (draft.hasPrefixItems && members.has "prefixItems") = true
  · simp only [newer, if_true, true_and, not_true, false_and, or_false]
  · simp [newer]

/-- The schemas of the first items, and the one for the rest, as a fragment is compiled. -/
def itemParts (draft : Draft) (members : Members) : List Json × Option Json :=
  match members.lookup (tupleName draft members) with
  | none => ([], none)
  | some (.arr items) => (items, members.lookup (restName draft members))
  | some schema => ([], some schema)

/-- The schemas of the first items, then the one for the rest. -/
theorem subschemas_array (draft : Draft) (members : Members) : ∃ tuple rest,
    (Part.array draft).subschemas members =
      ((itemParts draft members).1.zipIdx.map fun entry => (.tupleItem tuple entry.2, entry.1)) ++
        (itemParts draft members).2.toList.map fun schema => (.restItems rest, schema) := by
  unfold itemParts
  cases found : members.lookup (tupleName draft members) with
  | none =>
    unfold tupleName at found
    simp only [Part.subschemas, Part.array, stepArray, found]
    exact ⟨"", "", rfl⟩
  | some value =>
    unfold tupleName at found
    simp only [Part.subschemas, Part.array, stepArray, found]
    cases value with
    | arr items =>
      refine ⟨tupleName draft members, restName draft members, ?_⟩
      simp [stepOne, Step.child?, Function.comp_def, tupleName, restName]
    | _ => exact ⟨"", "items", rfl⟩

/-- The schemas of items have the shapes that their drafts give them: in the latest one `prefixItems` is an array, and
`items` is none. -/
structure Members.HasItemShapes (draft : Draft) (members : Members) : Prop where
  rest : draft = .draft2020 → ∀ tuple, members.lookup "items" ≠ some (.arr tuple)
  tuple : draft = .draft2020 → ∀ schema, members.lookup "prefixItems" = some schema → ∃ items, schema = .arr items

/-- Schemas of such shapes are compiled as their drafts say. -/
theorem itemParts_eq (shaped : members.HasItemShapes draft) : itemParts draft members = Dialect.itemSchemas members draft := by
  unfold itemParts Dialect.itemSchemas
  have names := tupleName_cases draft members
  rw [Draft.hasPrefixItems_iff] at names
  rcases names with ⟨⟨newer, has⟩, tuple, rest⟩ | ⟨other, tuple, rest⟩ <;> rw [tuple, rest]
  · obtain ⟨schema, found⟩ := Option.isSome_iff_exists.mp has
    obtain ⟨items, rfl⟩ := shaped.tuple newer schema found
    simp [newer, Members.elements, found, Json.items?]
  · by_cases newer : draft = .draft2020
    · have absent : members.lookup "prefixItems" = none :=
        Option.not_isSome_iff_eq_none.mp fun has => other ⟨newer, has⟩
      cases found : members.lookup "items" with
      | none => simp [newer, Members.elements, absent]
      | some schema =>
        cases schema with
        | arr items => exact absurd found (shaped.rest newer items)
        | _ => simp [newer, Members.elements, absent]
    · cases found : members.lookup "items" with
      | none => simp [newer]
      | some schema => cases schema <;> simp [newer]

namespace Fragment.FromObject

variable {source : Origin} {outer : Site} {f : Fragment}
  (made : FromObject draft source outer members (Compiled draft source) f)
include made

/-! ## Children by what they are -/

theorem schemas_eq : f.children.map (fun entry => (entry.1, entry.2.schema)) = JsonSchema.subschemas draft members := by
  have related := made.subschemas
  generalize JsonSchema.subschemas draft members = parts at related
  generalize f.children = own at related
  induction related with
  | nil => rfl
  | cons first _ ih => rw [List.map_cons, ih, ← first.1, first.2.schema_eq]

/-- The children in the slots that are picked. -/
theorem select_schemas {α : Type} {pick : Slot → Option α} {names : List String} {part : Part}
    (named : ∀ slot a, pick slot = some a → slot.names = names)
    (sole : (parts draft).filter (fun part => part.names = names) = [part]) :
    (f.select pick).map (fun entry => (entry.1, entry.2.schema)) =
      (part.subschemas members).filterMap fun entry => (pick entry.1).map (·, entry.2) := by
  rw [← subschemas_under sole, ← made.schemas_eq, select, List.map_filterMap, List.filterMap_filter, List.filterMap_map]
  refine List.filterMap_congr fun entry _ => ?_
  cases picked : pick entry.1 with
  | none => simp [picked]
  | some a => simp [picked, named entry.1 a picked]

/-- The first child in a slot of some kind. -/
theorem child?_schema {p : Slot → Bool} {names : List String} {part : Part}
    (named : ∀ slot, p slot = true → slot.names = names)
    (sole : (parts draft).filter (fun part => part.names = names) = [part]) :
    (f.child? p).map Fragment.schema = ((part.subschemas members).find? fun entry => p entry.1).map Prod.snd := by
  rw [← subschemas_under sole, ← made.schemas_eq, child?, List.find?_filter, List.find?_map, Option.map_map, Option.map_map]
  have same : (fun entry : Slot × Fragment => p entry.1) =
      (fun entry : Slot × Json => decide (decide (entry.1.names = names) = true ∧ p entry.1 = true)) ∘
        fun entry : Slot × Fragment => (entry.1, entry.2.schema) := by
    funext entry
    cases picked : p entry.1 with
    | false => simp [picked]
    | true => simp [picked, named entry.1 picked]
  rw [← same]
  rfl

theorem properties_schemas :
    f.properties.map (fun entry => (entry.1, entry.2.schema)) = members.entries "properties" := by
  have sole : (parts draft).filter (fun part => part.names = ["properties"]) =
      [.entries "properties" fun _ name schema => .child (.property name) schema] := by cases draft <;> rfl
  rw [properties, made.select_schemas (fun slot a picked => ?_) sole, subschemas_entries, List.filterMap_map]
  · simp
  · cases slot <;> first | rfl | cases picked

theorem patternProperties_schemas : f.patternProperties.map (fun entry => (entry.1, entry.2.schema)) =
    (members.entries "patternProperties").filterMap fun entry =>
      (Regex.compile entry.1).toOption.map fun regex => (regex, entry.2) := by
  have sole : (parts draft).filter (fun part => part.names = ["patternProperties"]) =
      [.entries "patternProperties" stepPattern] := by cases draft <;> rfl
  rw [patternProperties, made.select_schemas (fun slot a picked => ?_) sole, subschemas_patterns, List.filterMap_filterMap]
  · refine List.filterMap_congr fun entry _ => ?_
    cases (Regex.compile entry.1).toOption <;> rfl
  · cases slot <;> first | rfl | cases picked

/-! ## Keywords whose value is one schema -/

theorem one_schema {p : Slot → Bool} (known : Bool) {name : String} (slot : Slot)
    (named : ∀ slot, p slot = true → slot.names = [name])
    (sole : (parts draft).filter (fun part => part.names = [name]) =
      [⟨[name], fun _ members => if known then stepOne members name slot else []⟩]) (own : p slot = true) :
    (f.child? p).map Fragment.schema = if known then members.lookup name else none := by
  rw [made.child?_schema named sole, subschemas_one]
  cases (if known then members.lookup name else none) <;> simp [own]

theorem additionalProperties?_schema :
    f.additionalProperties?.map Fragment.schema = members.lookup "additionalProperties" := by
  refine made.one_schema true .additionalProperties (fun slot is => ?_) ?_ rfl
  · cases slot <;> first | rfl | cases is
  · cases draft <;> rfl

theorem propertyNames?_schema : f.propertyNames?.map Fragment.schema =
    if draft.knows .propertyNames then members.lookup "propertyNames" else none := by
  refine made.one_schema _ .propertyNames (fun slot is => ?_) ?_ rfl
  · cases slot <;> first | rfl | cases is
  · cases draft <;> rfl

theorem contains?_schema : f.contains?.map Fragment.schema =
    if draft.knows .contains then members.lookup "contains" else none := by
  refine made.one_schema _ .contains (fun slot is => ?_) ?_ rfl
  · cases slot <;> first | rfl | cases is
  · cases draft <;> rfl

theorem not?_schema : f.not?.map Fragment.schema = if draft.knows .not then members.lookup "not" else none := by
  refine made.one_schema _ .not (fun slot is => ?_) ?_ rfl
  · cases slot <;> first | rfl | cases is
  · cases draft <;> rfl

theorem condition?_schema : f.condition?.map Fragment.schema =
    if draft.knows .conditional then members.lookup "if" else none := by
  refine made.one_schema _ .condition (fun slot is => ?_) ?_ rfl
  · cases slot <;> first | rfl | cases is
  · cases draft <;> rfl

theorem consequence?_schema : f.consequence?.map Fragment.schema =
    if draft.knows .conditional then members.lookup "then" else none := by
  refine made.one_schema _ .consequence (fun slot is => ?_) ?_ rfl
  · cases slot <;> first | rfl | cases is
  · cases draft <;> rfl

theorem alternative?_schema : f.alternative?.map Fragment.schema =
    if draft.knows .conditional then members.lookup "else" else none := by
  refine made.one_schema _ .alternative (fun slot is => ?_) ?_ rfl
  · cases slot <;> first | rfl | cases is
  · cases draft <;> rfl

/-! ## Lists of schemas -/

omit made in
/-- The schemas of some children, with and without their slots. -/
theorem map_schemas {α : Type} (entries : List (α × Fragment)) :
    (entries.map Prod.snd).map Fragment.schema = (entries.map fun entry => (entry.1, entry.2.schema)).map Prod.snd := by
  induction entries with
  | nil => rfl
  | cons entry rest ih => exact congrArg (entry.2.schema :: ·) ih

theorem members_schemas {keyword : Keyword} (listed : keyword ∈ [Keyword.allOf, .anyOf, .oneOf]) :
    (f.members keyword).map Fragment.schema = members.elements keyword.name := by
  have sole : (parts draft).filter (fun part => part.names = [keyword.name]) = [.items keyword] := by
    simp only [List.mem_cons, List.not_mem_nil, or_false] at listed
    rcases listed with rfl | rfl | rfl <;> cases draft <;> rfl
  refine (map_schemas _).trans ?_
  rw [made.select_schemas (fun slot a picked => ?_) sole, subschemas_items, List.filterMap_map]
  · simp [Function.comp_def]
  · cases slot with
    | member own index =>
      by_cases same : own = keyword
      · rw [same]; rfl
      · simp [same] at picked
    | _ => cases picked

theorem tupleItems_schemas : f.tupleItems.map Fragment.schema = (itemParts draft members).1 := by
  have sole : (parts draft).filter (fun part => part.names = arrayNames) = [.array draft] := by cases draft <;> rfl
  refine (map_schemas _).trans ?_
  obtain ⟨tuple, rest, listed⟩ := subschemas_array draft members
  rw [made.select_schemas (fun slot a picked => ?_) sole, listed, List.filterMap_append, List.filterMap_map,
    List.filterMap_map]
  · simp [Function.comp_def]
  · cases slot <;> first | rfl | cases picked

theorem restItems?_schema : f.restItems?.map Fragment.schema = (itemParts draft members).2 := by
  have sole : (parts draft).filter (fun part => part.names = arrayNames) = [.array draft] := by cases draft <;> rfl
  obtain ⟨tuple, rest, listed⟩ := subschemas_array draft members
  rw [restItems?, made.child?_schema (fun slot is => ?_) sole, listed, List.find?_append, List.find?_eq_none.mpr,
    Option.none_or]
  · cases (itemParts draft members).2 <;> rfl
  · intro entry inside
    obtain ⟨own, -, rfl⟩ := List.mem_map.mp inside
    exact Bool.false_ne_true
  · cases slot <;> first | rfl | cases is

end Fragment.FromObject

/-! ## Dependencies -/

/-- Picking from all elements of a list. -/
theorem forall₂_filterMap {α β : Type} {related : α → β → Prop} {pick : α → Option β} {xs : List α}
    (each : ∀ x ∈ xs, ∃ y, pick x = some y ∧ related x y) : List.Forall₂ related xs (xs.filterMap pick) := by
  induction xs with
  | nil => exact .nil
  | cons x xs ih =>
    obtain ⟨y, picked, first⟩ := each x List.mem_cons_self
    rw [List.filterMap_cons_some picked]
    exact .cons first (ih fun x inside => each x (List.mem_cons_of_mem _ inside))

/-- What a property asks for is what its entry says. -/
def Dependency.Reads (dependency : Dependency) (f : Fragment) (entry : String × Json) : Prop :=
  dependency.property = entry.1 ∧
    match entry.2 with
    | .arr names => dependency.demand = .names (Members.texts names)
    | schema => ∃ child, dependency.demand = .schema child ∧ f.HasChild child ∧ child.schema = schema

/-- The schemas that properties ask for are entries of the keyword. -/
theorem mem_subschemas_dependencies {keyword : Keyword} {slot : Slot} {sub : Json}
    (inside : (slot, sub) ∈ (Part.dependencies keyword).subschemas members) :
    ∃ property, slot = .dependency keyword property ∧ (property, sub) ∈ members.entries keyword.name := by
  obtain ⟨step, stepped, made⟩ := List.mem_filterMap.mp inside
  cases step with
  | refuse fault => cases made
  | child =>
    cases made
    obtain ⟨entries, property, found, listed, rfl⟩ := mem_stepDependencies stepped
    exact ⟨property, rfl, by simpa [Members.entries, found, Json.members?] using listed⟩

/-- An entry that is no list of names has a step. -/
theorem stepDependency_of_schema (keyword : Keyword) (property : String) {schema : Json}
    (apart : ∀ names, schema ≠ .arr names) :
    (∃ fault, .refuse fault ∈ stepDependency .root keyword property schema) ∨
      .child (.dependency keyword property) schema ∈ stepDependency .root keyword property schema := by
  cases schema with
  | arr names => exact absurd rfl (apart names)
  | obj | bool =>
    simp only [stepDependency]
    split
    · exact .inr (List.mem_singleton_self _)
    · exact .inl ⟨_, List.mem_singleton_self _⟩
  | _ => exact .inl ⟨_, List.mem_singleton_self _⟩

theorem parts_dependencies {keyword : Keyword} (known : keyword ∈ Fragment.dependencyKeywords.filter draft.knows) :
    (parts draft).filter (fun part => part.names = [keyword.name]) = [.dependencies keyword] := by
  obtain ⟨listed, known⟩ := List.mem_filter.mp known
  simp only [Fragment.dependencyKeywords, List.mem_cons, List.not_mem_nil, or_false] at listed
  rcases listed with rfl | rfl | rfl <;> cases draft <;> first | rfl | exact absurd known (by decide)

namespace Fragment.FromObject

variable {source : Origin} {outer : Site} {f : Fragment}
  (made : FromObject draft source outer members (Compiled draft source) f)
include made

/-- A schema that an entry asks for is the child in the slot of the entry. -/
theorem dependency_child {keyword : Keyword} (known : keyword ∈ Fragment.dependencyKeywords.filter draft.knows)
    (nodup : ((members.entries keyword.name).map Prod.fst).Nodup) {property : String} {schema : Json}
    (inside : (property, schema) ∈ members.entries keyword.name) (apart : ∀ names, schema ≠ .arr names) :
    ∃ child, f.child? (Fragment.isDependency keyword property) = some child ∧ f.HasChild child ∧
      child.schema = schema := by
  have under := @subschemas_under _ members _ _ (parts_dependencies known)
  -- the entry has a child
  obtain ⟨entries, found, listed⟩ :
      ∃ entries, members.lookup keyword.name = some (.obj entries) ∧ (property, schema) ∈ entries := by
    unfold Members.entries at inside
    cases found : members.lookup keyword.name with
    | none => simp [found] at inside
    | some value => cases value <;> simp_all [Json.members?]
  have stepped (step : Step) (taken : step ∈ stepDependency .root keyword property schema) :
      step ∈ JsonSchema.steps draft .root members := by
    rw [steps_eq_parts]
    have part : Part.dependencies keyword ∈ parts draft :=
      (List.mem_filter.mp (parts_dependencies known ▸ List.mem_singleton_self _)).1
    refine List.mem_flatMap.mpr ⟨_, part, ?_⟩
    simp only [Part.dependencies, stepDependencies, found]
    exact List.mem_flatMap.mpr ⟨_, listed, taken⟩
  have own : (.dependency keyword property, schema) ∈ JsonSchema.subschemas draft members := by
    rcases stepDependency_of_schema keyword property apart with ⟨fault, refused⟩ | child
    · obtain ⟨slot, sub, g, same, -⟩ := made.step_root (stepped _ refused)
      cases same
    · exact List.mem_filterMap.mpr ⟨_, stepped _ child, rfl⟩
  rw [← made.schemas_eq] at own
  obtain ⟨⟨slot, child⟩, placed, same⟩ := List.mem_map.mp own
  cases same
  -- and it is the only one in its slot
  obtain ⟨slot, other, first, placed', picked⟩ := Fragment.exists_child? placed (Fragment.isDependency_iff.mpr rfl)
  obtain rfl := Fragment.isDependency_iff.mp picked
  refine ⟨other, first, ⟨_, placed'⟩, ?_⟩
  have other' : (.dependency keyword property, other.schema) ∈ (Part.dependencies keyword).subschemas members := by
    rw [← under, ← made.schemas_eq]
    exact List.mem_filter.mpr ⟨List.mem_map.mpr ⟨_, placed', rfl⟩, by simp [Slot.names]⟩
  obtain ⟨property', same, entry⟩ := mem_subschemas_dependencies other'
  cases same
  exact congrArg Prod.snd (List.inj_on_of_nodup_map nodup entry inside rfl)

/-- The dependencies of a keyword are its entries. -/
theorem dependencies_read {keyword : Keyword} (known : keyword ∈ Fragment.dependencyKeywords.filter draft.knows)
    (nodup : ((members.entries keyword.name).map Prod.fst).Nodup) :
    List.Forall₂ (fun entry dependency => dependency.Reads f entry) (members.entries keyword.name)
      (f.dependenciesOf keyword) := by
  have entries : ((f.keyword? keyword.name).bind Json.members?).getD [] = members.entries keyword.name := by
    rw [Fragment.keyword?, made.schema]
    rfl
  rw [dependenciesOf, entries]
  refine forall₂_filterMap fun ⟨property, value⟩ inside => ?_
  have schema (apart : ∀ names, value ≠ .arr names) := made.dependency_child known nodup inside apart
  cases value with
  | arr names => exact ⟨_, rfl, rfl, rfl⟩
  | _ =>
    obtain ⟨child, found, below, same⟩ := schema nofun
    let demanded (child : Fragment) : Dependency := ⟨property, keyword, .schema child⟩
    exact ⟨demanded child, congrArg (Option.map demanded) found, rfl, child, rfl, below, same⟩

end Fragment.FromObject
end JsonSchema
