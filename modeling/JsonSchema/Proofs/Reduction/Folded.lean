import JsonSchema.Proofs.Compilation.Plain
import JsonSchema.Proofs.Merge.Members
import JsonSchema.Proofs.Reference.Rebase
import JsonSchema.Check.Reduction

/-!
# Folded schemas

A fragment rests if it makes no reference and has nothing to fold. Whether it does is seen from the
members of its schema: the keywords of references have no text, lists of members and maps of
dependencies are empty, and there is no conditional. Merging and making references absolute keep
this.
-/

namespace JsonSchema

/-- The fragment makes no reference and has no composition. -/
def Fragment.Rests (draft : Draft) (f : Fragment) : Prop :=
  f.reference? draft = none ∧ f.reducers draft = []

/-- The members of a schema object that makes no reference and has no composition. -/
structure Members.Folded (draft : Draft) (members : Members) : Prop where
  unreferring : ∀ keyword : ReferenceKeyword, draft.hasReference keyword = true →
    (Json.obj members).stringMember? keyword.name = none
  memberless : ∀ keyword ∈ [Keyword.allOf, .anyOf, .oneOf], ∀ value,
    members.lookup keyword.name = some value → value = .arr []
  independent : ∀ keyword ∈ Fragment.dependencyKeywords, draft.knows keyword = true → ∀ value,
    members.lookup keyword.name = some value → value = .obj []
  unconditional : draft.knows .conditional = true → ∀ name ∈ ["if", "then", "else"], members.lookup name = none

/-! ## Resting fragments -/

namespace Fragment

variable {draft : Draft} {source : Origin} {outer : Site} {members : Members} {f : Fragment}

theorem reference?_eq_none_iff : f.reference? draft = none ↔ ∀ keyword : ReferenceKeyword,
    draft.hasReference keyword = true → f.schema.stringMember? keyword.name = none := by
  unfold reference?
  rw [List.findSome?_eq_none_iff]
  constructor
  · intro none keyword known
    have own := none keyword (by cases keyword <;> simp)
    rwa [if_pos known, Option.map_eq_none_iff] at own
  · intro none keyword _
    split
    · rename_i known
      rw [none keyword known]
      rfl
    · rfl

theorem rests_bool {b : Bool} (compiled : Compiled draft source outer (.bool b) f) : f.Rests draft := by
  obtain rfl := compiled_bool.mp compiled
  refine ⟨reference?_eq_none_iff.mpr fun _ _ => rfl, ?_⟩
  unfold reducers
  rw [List.filter_eq_nil_iff]
  intro reducer _
  cases reducer <;> simp [has, Fragment.members, select, condition?, consequence?, alternative?, child?, dependencies,
    dependenciesOf, keyword?, Json.member?]

/-- No step of a compiled object was refused. -/
theorem FromObject.not_refused (made : FromObject draft source outer members (Compiled draft source) f)
    {fault : SchemaFault} : Step.refuse fault ∉ steps draft f.site.pointer members := by
  intro refused
  obtain ⟨slot, sub, g, same, -⟩ := made.step refused
  cases same

/-- A list of schemas has members unless it is empty. -/
theorem members_eq_nil_iff (made : FromObject draft source outer members (Compiled draft source) f)
    {keyword : Keyword} (listed : keyword ∈ [Keyword.allOf, .anyOf, .oneOf]) :
    f.members keyword = [] ↔ ∀ value, members.lookup keyword.name = some value → value = .arr [] := by
  have taken (step : Step) (own : step ∈ stepItems f.site.pointer members keyword) :
      step ∈ steps draft f.site.pointer members := by
    simp only [List.mem_cons, List.not_mem_nil, or_false] at listed
    rcases listed with rfl | rfl | rfl <;> simp [steps, own]
  constructor
  · intro none value found
    cases value with
    | arr items =>
      cases items with
      | nil => rfl
      | cons first rest =>
        have own : Step.child (.member keyword 0) first ∈ stepItems f.site.pointer members keyword := by
          simp [stepItems, found]
        obtain ⟨slot, sub, g, same, inside, -⟩ := made.step (taken _ own)
        cases same
        have member := mem_members.mpr ⟨0, inside⟩
        rw [none] at member
        cases member
    | _ =>
      have own : Step.refuse (.schemasExpected keyword.name f.site.pointer) ∈
          stepItems f.site.pointer members keyword := by
        simp [stepItems, found]
      exact absurd (taken _ own) made.not_refused
  · intro empty
    refine List.eq_nil_iff_forall_not_mem.mpr fun child member => ?_
    obtain ⟨index, inside⟩ := mem_members.mp member
    obtain ⟨step, stepped, sub, rfl, -⟩ := exists_left made.children inside
    obtain ⟨segments, fills⟩ := fills_of_steps stepped
    cases fills with
    | whole _ _ place => rcases place with place | ⟨place, -⟩ <;> cases place
    | entry _ _ _ _ named => cases named
    | item _ found there place =>
      simp only [Slot.segments, List.cons.injEq] at place
      rw [← place.1] at found
      cases empty _ found
      cases there

/-- Every entry of a map of dependencies is a list of names, or is compiled or refused. -/
theorem stepDependency_cases (pointer : Pointer) (keyword : Keyword) (property : String) (value : Json) :
    (∃ names, value = .arr names) ∨
      Step.child (.dependency keyword property) value ∈ stepDependency pointer keyword property value ∨
      ∃ fault, Step.refuse fault ∈ stepDependency pointer keyword property value := by
  cases value with
  | arr names => exact .inl ⟨names, rfl⟩
  | obj | bool =>
    right
    simp only [stepDependency]
    split
    · exact .inl (List.mem_singleton_self _)
    · exact .inr ⟨_, List.mem_singleton_self _⟩
  | _ => exact .inr (.inr ⟨_, List.mem_singleton_self _⟩)

/-- Every entry of a map of dependencies is one. -/
theorem exists_dependency (made : FromObject draft source outer members (Compiled draft source) f)
    {keyword : Keyword} (listed : keyword ∈ dependencyKeywords) (known : draft.knows keyword = true)
    {entries : Members} (found : members.lookup keyword.name = some (.obj entries)) {property : String} {value : Json}
    (entry : (property, value) ∈ entries) : ∃ dependency ∈ f.dependenciesOf keyword, dependency.property = property := by
  have entries? : (f.keyword? keyword.name).bind Json.members? = some entries := by
    simp only [keyword?, made.schema, Json.member?, found, Option.bind_some, Json.members?]
  have stepped (step : Step) (own : step ∈ stepDependency f.site.pointer keyword property value) :
      step ∈ steps draft f.site.pointer members := by
    have inside : step ∈ (dependencyKeywords.filter draft.knows).flatMap (stepDependencies f.site.pointer members) := by
      refine List.mem_flatMap.mpr ⟨keyword, List.mem_filter.mpr ⟨listed, known⟩, ?_⟩
      simp only [stepDependencies, found]
      exact List.mem_flatMap.mpr ⟨_, entry, own⟩
    simp only [steps, List.mem_append, inside, or_true, true_or]
  unfold dependenciesOf
  rw [entries?, Option.getD_some]
  rcases stepDependency_cases f.site.pointer keyword property value with ⟨names, rfl⟩ | child | ⟨fault, refused⟩
  · exact ⟨_, List.mem_filterMap.mpr ⟨_, entry, rfl⟩, rfl⟩
  · obtain ⟨slot, sub, g, same, inside, -⟩ := made.step (stepped _ child)
    cases same
    obtain ⟨slot', c, first, -⟩ := exists_child? inside (isDependency_iff.mpr rfl)
    cases value with
    | arr names => exact ⟨_, List.mem_filterMap.mpr ⟨_, entry, rfl⟩, rfl⟩
    | _ => exact ⟨⟨property, keyword, .schema c⟩, List.mem_filterMap.mpr ⟨_, entry,
      Option.map_eq_some_iff.mpr ⟨c, first, rfl⟩⟩, rfl⟩
  · exact absurd (stepped _ refused) made.not_refused

/-- A map of dependencies has some unless it is empty. -/
theorem dependenciesOf_eq_nil_iff (made : FromObject draft source outer members (Compiled draft source) f)
    {keyword : Keyword} (listed : keyword ∈ dependencyKeywords) (known : draft.knows keyword = true) :
    f.dependenciesOf keyword = [] ↔ ∀ value, members.lookup keyword.name = some value → value = .obj [] := by
  constructor
  · intro none value found
    cases value with
    | obj entries =>
      cases entries with
      | nil => rfl
      | cons first rest =>
        obtain ⟨dependency, member, -⟩ := exists_dependency made listed known found (List.mem_cons_self (a := first))
        rw [none] at member
        cases member
    | _ =>
      have own : Step.refuse (.objectExpected keyword.name f.site.pointer) ∈
          (dependencyKeywords.filter draft.knows).flatMap (stepDependencies f.site.pointer members) :=
        List.mem_flatMap.mpr ⟨keyword, List.mem_filter.mpr ⟨listed, known⟩, by simp [stepDependencies, found]⟩
      have refused : Step.refuse (.objectExpected keyword.name f.site.pointer) ∈ steps draft f.site.pointer members := by
        simp only [steps, List.mem_append, own, or_true, true_or]
      exact absurd refused made.not_refused
  · intro empty
    have value? : f.keyword? keyword.name = members.lookup keyword.name := by rw [keyword?, made.schema]; rfl
    rw [dependenciesOf, value?]
    cases found : members.lookup keyword.name with
    | none => rfl
    | some value =>
      rw [empty value found]
      rfl

/-- The slots of a conditional and the keywords they are filled from. -/
inductive Branch : Slot → String → Prop where
  | condition : Branch .condition "if"
  | consequence : Branch .consequence "then"
  | alternative : Branch .alternative "else"

private theorem part_of_branch {slot : Slot} {name : String} (branch : Branch slot name) {part : Part}
    (listed : part ∈ parts draft) (own : part.names = [name]) : part = .one draft .conditional name slot := by
  have apart : ∀ keyword ∈ dependencyKeywords, keyword.name ≠ name := by cases branch <;> decide
  simp only [parts, List.mem_append, List.mem_cons, List.mem_map, List.not_mem_nil, or_false] at listed
  rcases listed with ((rfl | rfl | rfl | rfl | rfl) | ⟨keyword, known, rfl⟩) | (rfl | rfl | rfl | rfl | rfl | rfl |
    rfl | rfl | rfl | rfl | rfl | rfl)
  case inl.inr => exact absurd (List.cons.inj own).1 (apart keyword (List.mem_of_mem_filter known))
  all_goals
    cases branch <;> first | rfl | simp [Part.entries, Part.one, Part.items, Part.array, arrayNames, Keyword.name] at own

/-- The parts of a conditional are compiled in the drafts that define it. -/
theorem mem_steps_of_branch {pointer : Pointer} {slot : Slot} {name : String} (branch : Branch slot name) {sub : Json} :
    .child slot sub ∈ steps draft pointer members ↔
      draft.knows .conditional = true ∧ members.lookup name = some sub := by
  constructor
  · intro step
    rw [steps_eq_parts] at step
    obtain ⟨part, listed, taken⟩ := List.mem_flatMap.mp step
    have own := (local_of_parts listed).slots pointer members slot sub taken
    have named : slot.names = [name] := by cases branch <;> rfl
    rw [part_of_branch branch listed (own ▸ named)] at taken
    simp only [Part.one, stepOne] at taken
    split at taken
    · rename_i known
      obtain ⟨value, found, same⟩ := List.mem_map.mp taken
      cases same
      exact ⟨known, Option.mem_toList.mp found⟩
    · cases taken
  · rintro ⟨known, found⟩
    cases branch <;> simp [steps, stepOne, known, found]

/-- A slot of a conditional is empty unless its keyword stands in the schema. -/
theorem branch_empty_iff (made : FromObject draft source outer members (Compiled draft source) f) {slot : Slot}
    {name : String} (branch : Branch slot name) : (∀ g, (slot, g) ∉ f.children) ↔
      (draft.knows .conditional = true → members.lookup name = none) := by
  constructor
  · intro empty known
    cases found : members.lookup name with
    | none => rfl
    | some sub =>
      obtain ⟨slot', sub', g, same, inside, -⟩ := made.step ((mem_steps_of_branch branch).mpr ⟨known, found⟩)
      cases same
      exact absurd inside (empty g)
  · intro absent g inside
    obtain ⟨step, stepped, sub, rfl, -⟩ := exists_left made.children inside
    obtain ⟨known, found⟩ := (mem_steps_of_branch branch).mp stepped
    rw [absent known] at found
    cases found

/-- A conditional occurs if one of its slots is filled. -/
theorem has_conditional_eq_false_iff :
    f.has draft .conditional = false ↔ ∀ slot name, Branch slot name → ∀ g, (slot, g) ∉ f.children := by
  have empty {p : Slot → Bool} {slot : Slot} (own : ∀ other, p other = true ↔ other = slot) :
      f.child? p = none ↔ ∀ g, (slot, g) ∉ f.children := by
    rw [child?, Option.map_eq_none_iff, List.find?_eq_none]
    exact ⟨fun none g inside => none _ inside ((own _).mpr rfl),
      fun absent entry inside picked => absent entry.2 ((own entry.1).mp picked ▸ inside)⟩
  have condition : f.condition? = none ↔ ∀ g, (.condition, g) ∉ f.children :=
    empty fun other => by cases other <;> simp
  have consequence : f.consequence? = none ↔ ∀ g, (.consequence, g) ∉ f.children :=
    empty fun other => by cases other <;> simp
  have alternative : f.alternative? = none ↔ ∀ g, (.alternative, g) ∉ f.children :=
    empty fun other => by cases other <;> simp
  simp only [has, Bool.or_eq_false_iff, Option.isSome_eq_false_iff, Option.isNone_iff_eq_none]
  constructor
  · rintro ⟨⟨first, second⟩, third⟩ slot name branch
    cases branch with
    | condition => exact condition.mp first
    | consequence => exact consequence.mp second
    | alternative => exact alternative.mp third
  · intro absent
    exact ⟨⟨condition.mpr (absent _ _ .condition), consequence.mpr (absent _ _ .consequence)⟩,
      alternative.mpr (absent _ _ .alternative)⟩

/-- A compiled object rests exactly if its members are folded. -/
theorem rests_iff_folded (made : FromObject draft source outer members (Compiled draft source) f) :
    f.Rests draft ↔ members.Folded draft := by
  have reducers : f.reducers draft = [] ↔ ∀ reducer, f.has draft reducer = false := by
    unfold Fragment.reducers
    rw [List.filter_eq_nil_iff]
    constructor
    · exact fun none reducer => by simpa using none reducer (by cases reducer <;> simp)
    · exact fun none reducer _ => by simp [none reducer]
  have listed {reducer : Reducer} {keyword : Keyword} (own : f.has draft reducer = !(f.members keyword).isEmpty) :
      f.has draft reducer = false ↔ f.members keyword = [] := by
    rw [own, Bool.not_eq_false', List.isEmpty_iff]
  have dependencies : f.has draft .dependencies = false ↔
      ∀ keyword ∈ dependencyKeywords, draft.knows keyword = true → f.dependenciesOf keyword = [] := by
    simp [has, Fragment.dependencies, List.flatMap_eq_nil_iff]
  have conditional : f.has draft .conditional = false ↔
      (draft.knows .conditional = true → ∀ name ∈ ["if", "then", "else"], members.lookup name = none) := by
    rw [has_conditional_eq_false_iff]
    constructor
    · intro empty known name inside
      simp only [List.mem_cons, List.not_mem_nil, or_false] at inside
      rcases inside with rfl | rfl | rfl
      · exact (branch_empty_iff made .condition).mp (empty _ _ .condition) known
      · exact (branch_empty_iff made .consequence).mp (empty _ _ .consequence) known
      · exact (branch_empty_iff made .alternative).mp (empty _ _ .alternative) known
    · exact fun absent slot name branch => (branch_empty_iff made branch).mpr fun known =>
        absent known name (by cases branch <;> decide)
  unfold Rests
  rw [reference?_eq_none_iff, made.schema, reducers]
  constructor
  · rintro ⟨unreferring, none⟩
    refine ⟨unreferring, fun keyword inside => ?_, fun keyword inside known => ?_, conditional.mp (none _)⟩
    · refine (members_eq_nil_iff made inside).mp ?_
      simp only [List.mem_cons, List.not_mem_nil, or_false] at inside
      rcases inside with rfl | rfl | rfl
      · exact (@listed .allOf _ rfl).mp (none _)
      · exact (@listed .anyOf _ rfl).mp (none _)
      · exact (@listed .oneOf _ rfl).mp (none _)
    · exact (dependenciesOf_eq_nil_iff made inside known).mp (dependencies.mp (none _) keyword inside known)
  · intro folded
    refine ⟨folded.unreferring, fun reducer => ?_⟩
    have memberless {keyword : Keyword} (inside : keyword ∈ [Keyword.allOf, .anyOf, .oneOf]) : f.members keyword = [] :=
      (members_eq_nil_iff made inside).mpr (folded.memberless keyword inside)
    cases reducer with
    | allOf => exact (listed rfl).mpr (memberless (by decide))
    | anyOf => exact (listed rfl).mpr (memberless (by decide))
    | oneOf => exact (listed rfl).mpr (memberless (by decide))
    | dependencies =>
      exact dependencies.mpr fun keyword inside known =>
        (dependenciesOf_eq_nil_iff made inside known).mpr (folded.independent keyword inside known)
    | conditional => exact conditional.mpr folded.unconditional

end Fragment

/-! ## Merging folded schemas -/

namespace Members.Folded

variable {draft : Draft} {a b members : Members}

theorem merged (left : a.Folded draft) (right : b.Folded draft) : (mergedMembers a b).Folded draft := by
  refine ⟨fun keyword known => stringMember?_mergedMembers (left.unreferring keyword known) (right.unreferring keyword known),
    fun keyword listed value found => ?_, fun keyword listed known value found => ?_, fun known name listed => ?_⟩
  · have apart : keyword.name ∉ ["required", "items"] := by
      simp only [List.mem_cons, List.not_mem_nil, or_false] at listed
      rcases listed with rfl | rfl | rfl <;> decide
    cases first : a.lookup keyword.name with
    | none => exact right.memberless keyword listed value (by rwa [lookup_mergedMembers_right first] at found)
    | some x =>
      cases second : b.lookup keyword.name with
      | none => exact left.memberless keyword listed value (by rwa [lookup_mergedMembers_left second] at found)
      | some y =>
        rw [left.memberless keyword listed x first] at first
        rw [right.memberless keyword listed y second] at second
        rw [lookup_mergedMembers_arr first second apart] at found
        cases found
        rfl
  · cases first : a.lookup keyword.name with
    | none => exact right.independent keyword listed known value (by rwa [lookup_mergedMembers_right first] at found)
    | some x =>
      cases second : b.lookup keyword.name with
      | none => exact left.independent keyword listed known value (by rwa [lookup_mergedMembers_left second] at found)
      | some y =>
        rw [left.independent keyword listed known x first] at first
        rw [right.independent keyword listed known y second] at second
        rw [lookup_mergedMembers_obj first second] at found
        cases found
        rfl
  · rw [lookup_mergedMembers_left (right.unconditional known name listed)]
    exact left.unconditional known name listed

/-- Making references absolute folds nothing and unfolds nothing. -/
theorem rebased (folded : members.Folded draft) (base own : Uri) :
    Members.Folded draft (rebaseMembers base own members) := by
  have absent {name : String} (missing : members.lookup name = none) :
      (rebaseMembers base own members).lookup name = none := by
    rw [lookup_rebaseMembers, missing]
    rfl
  have whole {name : String} {value empty : Json} (data : name ∉ dataKeywords) (noText : ∀ text, empty ≠ .str text)
      (fixed : rebase own empty = empty) (found : (rebaseMembers base own members).lookup name = some value)
      (only : ∀ value, members.lookup name = some value → value = empty) : value = empty := by
    rw [lookup_rebaseMembers] at found
    obtain ⟨before, was, rfl⟩ := Option.map_eq_some_iff.mp found
    rw [only before was, rebasedMember_of_not_str noText, if_neg data, fixed]
  refine ⟨fun keyword known => ?_, fun keyword listed value found => ?_, fun keyword listed known value found => ?_,
    fun known name listed => absent (folded.unconditional known name listed)⟩
  · have before := folded.unreferring keyword known
    simp only [Json.stringMember?, Json.member?, lookup_rebaseMembers] at before ⊢
    cases found : members.lookup keyword.name with
    | none => rfl
    | some value =>
      rw [found] at before
      have noText : ∀ text, value ≠ .str text := fun text same => by rw [same] at before; cases before
      have data : keyword.name ∉ dataKeywords := by cases keyword <;> decide
      rw [Option.map_some, Option.bind_some, rebasedMember_of_not_str noText, if_neg data]
      cases value with
      | str text => exact absurd rfl (noText text)
      | _ => rfl
  · refine whole ?_ (by simp) rfl found (folded.memberless keyword listed)
    simp only [List.mem_cons, List.not_mem_nil, or_false] at listed
    rcases listed with rfl | rfl | rfl <;> decide
  · refine whole ?_ (by simp) rfl found (folded.independent keyword listed known)
    simp only [Fragment.dependencyKeywords, List.mem_cons, List.not_mem_nil, or_false] at listed
    rcases listed with rfl | rfl | rfl <;> decide

/-- Without the keywords that are folded for data, a schema without reference is folded. -/
theorem static {task : Reduction} (given : task.data.isSome = true)
    (unreferring : ∀ keyword : ReferenceKeyword, draft.hasReference keyword = true →
      (Json.obj members).stringMember? keyword.name = none) :
    (Members.without members task.isDynamic).Folded draft := by
  have gone {name : String} (dynamic : dynamicKeywords.contains name = true) :
      (Members.without members task.isDynamic).lookup name = none := by
    rw [lookup_without, Reduction.isDynamic, if_pos given, dynamic]
    rfl
  refine ⟨fun keyword known => ?_, fun keyword listed value found => ?_, fun keyword listed _ value found => ?_,
    fun _ name listed => ?_⟩
  · have stays : task.isDynamic keyword.name = false := by
      rw [Reduction.isDynamic, if_pos given]
      cases keyword <;> decide
    rw [Json.stringMember?, Json.member?, lookup_without, stays]
    exact unreferring keyword known
  · simp only [List.mem_cons, List.not_mem_nil, or_false] at listed
    rcases listed with rfl | rfl | rfl <;> (rw [gone (by decide)] at found; cases found)
  · simp only [Fragment.dependencyKeywords, List.mem_cons, List.not_mem_nil, or_false] at listed
    rcases listed with rfl | rfl | rfl <;> (rw [gone (by decide)] at found; cases found)
  · simp only [List.mem_cons, List.not_mem_nil, or_false] at listed
    rcases listed with rfl | rfl | rfl <;> exact gone (by decide)

theorem required (names : Json) : Members.Folded draft [("required", names)] := by
  have absent {name : String} (other : name ≠ "required") : List.lookup name [("required", names)] = none := by
    rw [List.lookup_cons, beq_false_of_ne other]
    rfl
  refine ⟨fun keyword _ => ?_, fun keyword listed value found => ?_, fun keyword listed _ value found => ?_,
    fun _ name listed => absent ?_⟩
  · rw [Json.stringMember?, Json.member?, absent (by cases keyword <;> decide)]
    rfl
  · simp only [List.mem_cons, List.not_mem_nil, or_false] at listed
    rcases listed with rfl | rfl | rfl <;> (rw [absent (by decide)] at found; cases found)
  · simp only [Fragment.dependencyKeywords, List.mem_cons, List.not_mem_nil, or_false] at listed
    rcases listed with rfl | rfl | rfl <;> (rw [absent (by decide)] at found; cases found)
  · simp only [List.mem_cons, List.not_mem_nil, or_false] at listed
    rcases listed with rfl | rfl | rfl <;> decide

end Members.Folded
end JsonSchema
