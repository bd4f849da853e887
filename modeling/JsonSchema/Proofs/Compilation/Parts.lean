import JsonSchema.Proofs.Compilation.Children

/-!
# The parts of a schema

The steps of compiling a schema come in parts, each for one keyword or for the keywords of items.
A part reads its own keywords alone, and all its slots tell that they belong to it. So schemas
that agree on some keywords agree on the subschemas that stand under them.
-/

namespace JsonSchema

/-- The slot and the subschema of a step that compiles one. -/
def Step.child? : Step → Option (Slot × Json)
  | .refuse _ => none
  | .child slot schema => some (slot, schema)

/-- The subschemas of a schema object with their slots. -/
def subschemas (draft : Draft) (members : Members) : List (Slot × Json) :=
  (steps draft .root members).filterMap Step.child?

/-- The keywords under which items have schemas. -/
def arrayNames : List String := ["items", "prefixItems", "additionalItems"]

/-- The keywords that decide which subschema is in a slot. -/
def Slot.names : Slot → List String
  | .property _ => ["properties"]
  | .patternProperty _ => ["patternProperties"]
  | .additionalProperties => ["additionalProperties"]
  | .propertyNames => ["propertyNames"]
  | .unevaluatedProperties => ["unevaluatedProperties"]
  | .dependency keyword _ => [keyword.name]
  | .tupleItem _ _ => arrayNames
  | .restItems _ => arrayNames
  | .contains => ["contains"]
  | .unevaluatedItems => ["unevaluatedItems"]
  | .not => ["not"]
  | .member keyword _ => [keyword.name]
  | .condition => ["if"]
  | .consequence => ["then"]
  | .alternative => ["else"]
  | .definition keyword _ => [keyword]

/-- Whether a slot belongs to some keywords. -/
def Slot.within (names : List String) (slot : Slot) : Bool := slot.names.all names.contains

/-- Steps that read the same keywords. -/
structure Part where
  names : List String
  steps : Pointer → Members → List Step

namespace Part

/-- The part of a keyword whose value is one schema. -/
def one (draft : Draft) (keyword : Keyword) (name : String) (slot : Slot) : Part :=
  ⟨[name], fun _ members => if draft.knows keyword then stepOne members name slot else []⟩

/-- The part of a keyword whose value is a map of schemas. -/
def entries (name : String) (step : Pointer → String → Json → Step) : Part :=
  ⟨[name], fun pointer members => stepMembers pointer members name (step pointer)⟩

/-- The part of a keyword whose value is a list of schemas. -/
def items (keyword : Keyword) : Part := ⟨[keyword.name], fun pointer members => stepItems pointer members keyword⟩

def dependencies (keyword : Keyword) : Part :=
  ⟨[keyword.name], fun pointer members => stepDependencies pointer members keyword⟩

def array (draft : Draft) : Part := ⟨arrayNames, fun _ members => stepArray draft members⟩

/-- A part reads its keywords alone, its slots belong to it, and only its faults depend on where the
schema stands. -/
structure Local (part : Part) : Prop where
  reads : ∀ (pointer : Pointer) (a b : Members), (∀ name ∈ part.names, a.lookup name = b.lookup name) →
    part.steps pointer a = part.steps pointer b
  slots : ∀ (pointer : Pointer) (members : Members) (slot : Slot) (sub : Json),
    .child slot sub ∈ part.steps pointer members → slot.names = part.names
  placed : ∀ (p q : Pointer) (members : Members),
    (part.steps p members).map Step.child? = (part.steps q members).map Step.child?

theorem local_one {draft : Draft} {keyword : Keyword} {name : String} {slot : Slot} (own : slot.names = [name]) :
    (one draft keyword name slot).Local where
  reads pointer a b same := by simp [one, stepOne, same name (by simp [one])]
  slots pointer members other sub step := by
    simp only [one] at step
    split at step
    · exact (mem_stepOne.mp step).1 ▸ own
    · cases step
  placed _ _ _ := rfl

theorem local_entries {name : String} {step : Pointer → String → Json → Step}
    (own : ∀ pointer key value slot sub, step pointer key value = .child slot sub → slot.names = [name])
    (placed : ∀ p q key value, (step p key value).child? = (step q key value).child?) :
    (entries name step).Local where
  reads pointer a b same := by simp [entries, stepMembers, same name (by simp [entries])]
  slots pointer members slot sub inside := by
    obtain ⟨_, key, value, -, -, made⟩ := mem_stepMembers inside
    exact own pointer key value slot sub made
  placed p q members := by
    simp only [entries, stepMembers]
    cases members.lookup name with
    | none => rfl
    | some value =>
      cases value with
      | obj entries => simp [Function.comp_def, placed p q]
      | _ => rfl

theorem local_items (keyword : Keyword) : (items keyword).Local where
  reads pointer a b same := by simp [items, stepItems, same keyword.name (by simp [items])]
  slots pointer members slot sub inside := by
    obtain ⟨_, index, -, -, rfl⟩ := mem_stepItems inside
    rfl
  placed p q members := by
    simp only [items, stepItems]
    cases members.lookup keyword.name with
    | none => rfl
    | some value => cases value <;> rfl

private theorem child?_of_stepDependency (p q : Pointer) (keyword : Keyword) (property : String) (value : Json) :
    (stepDependency p keyword property value).map Step.child? =
      (stepDependency q keyword property value).map Step.child? := by
  cases value with
  | arr | obj | bool =>
    simp only [stepDependency]
    split <;> rfl
  | _ => rfl

theorem local_dependencies (keyword : Keyword) : (dependencies keyword).Local where
  reads pointer a b same := by
    simp [dependencies, stepDependencies, same keyword.name (by simp [dependencies])]
  slots pointer members slot sub inside := by
    obtain ⟨_, key, -, -, rfl⟩ := mem_stepDependencies inside
    rfl
  placed p q members := by
    simp only [dependencies, stepDependencies]
    cases members.lookup keyword.name with
    | none => rfl
    | some value =>
      cases value with
      | obj entries => simp only [List.map_flatMap, child?_of_stepDependency p q]
      | _ => rfl

theorem local_array (draft : Draft) : (array draft).Local where
  reads pointer a b same := by
    have items := same "items" (by simp [array, arrayNames])
    have prefixItems := same "prefixItems" (by simp [array, arrayNames])
    have additionalItems := same "additionalItems" (by simp [array, arrayNames])
    have tuple : a.has "prefixItems" = b.has "prefixItems" := by rw [Members.has, Members.has, prefixItems]
    simp only [array, stepArray, stepOne, tuple]
    by_cases both : (draft.hasPrefixItems && b.has "prefixItems") = true
    · simp only [both, ↓reduceIte, items, prefixItems]
    · have other : ("items" = "prefixItems") = False := by simp
      simp only [both, Bool.false_eq_true, ↓reduceIte, other, items, additionalItems]
  slots pointer members slot sub inside := by
    cases arrayStep_of_stepArray inside <;> rfl
  placed _ _ _ := rfl

end Part

/-- The parts of a schema object, in the order in which they are compiled. -/
def parts (draft : Draft) : List Part := [
  .entries "properties" fun _ name schema => .child (.property name) schema,
  .entries "patternProperties" stepPattern,
  ⟨["additionalProperties"], fun _ members => stepOne members "additionalProperties" .additionalProperties⟩,
  .one draft .propertyNames "propertyNames" .propertyNames,
  .one draft .unevaluatedProperties "unevaluatedProperties" .unevaluatedProperties] ++
  (Fragment.dependencyKeywords.filter draft.knows).map .dependencies ++ [
  .array draft,
  .one draft .contains "contains" .contains,
  .one draft .unevaluatedItems "unevaluatedItems" .unevaluatedItems,
  .one draft .not "not" .not,
  .items .allOf,
  .items .anyOf,
  .items .oneOf,
  .one draft .conditional "if" .condition,
  .one draft .conditional "then" .consequence,
  .one draft .conditional "else" .alternative,
  .entries "definitions" fun _ name schema => .child (.definition "definitions" name) schema,
  .entries "$defs" fun _ name schema => .child (.definition "$defs" name) schema]

theorem steps_eq_parts (draft : Draft) (pointer : Pointer) (members : Members) :
    steps draft pointer members = (parts draft).flatMap fun part => part.steps pointer members := by
  simp only [steps, parts, List.flatMap_append, List.flatMap_cons, List.flatMap_nil, List.flatMap_map,
    Part.entries, Part.one, Part.items, Part.dependencies, Part.array, List.append_nil, List.append_assoc]

/-! ## What schemas agree on -/

section
variable {draft : Draft} {pointer : Pointer} {members : Members}

theorem local_of_parts {part : Part} (listed : part ∈ parts draft) : part.Local := by
  simp only [parts, List.mem_append, List.mem_cons, List.mem_map, List.not_mem_nil, or_false] at listed
  have whole {name : String} {slot : Slot} (own : slot.names = [name]) :
      Part.Local ⟨[name], fun _ members => stepOne members name slot⟩ :=
    ⟨fun _ _ _ same => by simp [stepOne, same name (by simp)], fun _ _ _ _ step => (mem_stepOne.mp step).1 ▸ own,
      fun _ _ _ => rfl⟩
  have named {name : String} {make : String → Slot} (own : ∀ key, (make key).names = [name]) :
      (Part.entries name fun _ key schema => .child (make key) schema).Local :=
    Part.local_entries (fun _ key _ _ _ made => by cases made; exact own key) fun _ _ _ _ => rfl
  have patterns : (Part.entries "patternProperties" stepPattern).Local := by
    refine Part.local_entries (fun pointer key value slot sub made => ?_) fun p q key value => ?_
    · unfold stepPattern at made
      split at made <;> cases made
      rfl
    · unfold stepPattern readPattern
      cases Regex.compile key <;> rfl
  rcases listed with ((rfl | rfl | rfl | rfl | rfl) | ⟨keyword, -, rfl⟩) | (rfl | rfl | rfl | rfl | rfl | rfl | rfl | rfl |
    rfl | rfl | rfl | rfl)
  · exact named fun _ => rfl
  · exact patterns
  · exact whole rfl
  · exact Part.local_one rfl
  · exact Part.local_one rfl
  · exact Part.local_dependencies keyword
  · exact Part.local_array draft
  · exact Part.local_one rfl
  · exact Part.local_one rfl
  · exact Part.local_one rfl
  · exact Part.local_items _
  · exact Part.local_items _
  · exact Part.local_items _
  · exact Part.local_one rfl
  · exact Part.local_one rfl
  · exact Part.local_one rfl
  · exact named fun _ => rfl
  · exact named fun _ => rfl

/-- Where a schema stands changes the faults of its steps only. -/
theorem steps_child? (p q : Pointer) :
    (steps draft p members).map Step.child? = (steps draft q members).map Step.child? := by
  rw [steps_eq_parts, steps_eq_parts, List.map_flatMap, List.map_flatMap]
  exact List.flatMap_congr fun part listed => (local_of_parts listed).placed p q members

theorem subschemas_eq : subschemas draft members = (steps draft pointer members).filterMap Step.child? := by
  have same : ((steps draft .root members).map Step.child?).filterMap id =
      ((steps draft pointer members).map Step.child?).filterMap id := by rw [steps_child?]
  rwa [List.filterMap_map, List.filterMap_map] at same

/-- Schemas that agree on some keywords agree on the subschemas under them. -/
theorem subschemas_filter_congr {names : List String} {a b : Members}
    (same : ∀ name ∈ names, a.lookup name = b.lookup name) :
    (subschemas draft a).filter (fun entry => entry.1.within names) =
      (subschemas draft b).filter fun entry => entry.1.within names := by
  simp only [subschemas, steps_eq_parts, List.filterMap_flatMap, List.filter_flatMap]
  refine List.flatMap_congr fun part listed => ?_
  have own := local_of_parts listed
  by_cases inside : ∀ name ∈ part.names, name ∈ names
  · rw [own.reads .root a b fun name member => same name (inside name member)]
  · have none (members : Members) :
        ((part.steps .root members).filterMap Step.child?).filter (fun entry => entry.1.within names) = [] := by
      refine List.filter_eq_nil_iff.mpr fun ⟨slot, sub⟩ member within => inside fun name named => ?_
      obtain ⟨step, stepped, made⟩ := List.mem_filterMap.mp member
      cases step with
      | refuse fault => cases made
      | child =>
        cases made
        rw [← own.slots .root members slot sub stepped] at named
        simpa using List.all_eq_true.mp within name named
    rw [none, none]

end

end JsonSchema
