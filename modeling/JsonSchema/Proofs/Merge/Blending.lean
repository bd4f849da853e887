import JsonSchema.Proofs.Check.Uniform
import JsonSchema.Proofs.Compilation.Sound
import JsonSchema.Proofs.Merge.Members

/-!
# Schemas that blend

A merged schema takes what both sides take, unless the merge makes something new of what the two say
under a keyword. Mostly what one side says stays as it is. Lists of names and of values are joined,
and where subschemas are merged, these have to blend themselves.
-/

namespace JsonSchema

/-- Two schemas that a merge of the objects around them merges. -/
inductive Paired (a b : Members) (x y : Json) : Prop where
  | entry {keyword : Keyword} {xs ys : Members} {key : String} (mapped : keyword ∈ [Keyword.properties, .patternProperties])
      (left : a.lookup keyword.name = some (.obj xs)) (right : b.lookup keyword.name = some (.obj ys))
      (inside : (key, x) ∈ xs) (found : ys.lookup key = some y) : Paired a b x y
  | member {xs ys : List Json} {index : Nat} (left : a.lookup "allOf" = some (.arr xs))
      (right : b.lookup "allOf" = some (.arr ys)) (first : xs[index]? = some x) (second : ys[index]? = some y)
      (objects : bothObjects x y = true) : Paired a b x y

/-- Two schemas that a merge merges in a map, in `allOf`, or under a keyword that asks one subschema of all parts,
unless one of the two stays as it is. -/
inductive Meeting (draft : Draft) (a b : Members) (x y : Json) : Prop where
  | paired (pair : Paired a b x y)
  | sole {keyword : Keyword} (listed : keyword ∈ uniform) (known : draft.knows keyword = true)
      (left : a.Single keyword x) (right : b.Single keyword y)
      (new : mergeUnder (some keyword.name) x y ≠ x ∧ mergeUnder (some keyword.name) x y ≠ y) : Meeting draft a b x y

/-- What both sides take by a keyword, their merge takes by it, if it does so for the schemas it merges under it. -/
inductive Blends (draft : Draft) (a b : Members) (keyword : Keyword) : Prop where
  | left (kept : ∀ name ∈ keyword.readsIn draft, (mergedMembers a b).lookup name = a.lookup name)
  | right (kept : ∀ name ∈ keyword.readsIn draft, (mergedMembers a b).lookup name = b.lookup name)
  | required {xs ys : List Json} (own : keyword = .required) (left : a.lookup keyword.name = some (.arr xs))
      (right : b.lookup keyword.name = some (.arr ys))
  /-- No value that the left side lists is lost. -/
  | choices {xs ys : List Json} (own : keyword = .enum) (left : a.lookup keyword.name = some (.arr xs))
      (right : b.lookup keyword.name = some (.arr ys)) (kept : xs ⊆ Json.distinct (mergeSlots xs ys))
  | entries {xs ys : Members} (mapped : keyword ∈ [Keyword.properties, .patternProperties])
      (left : a.lookup keyword.name = some (.obj xs)) (right : b.lookup keyword.name = some (.obj ys))
  | members {xs ys : List Json} (own : keyword = .allOf) (left : a.lookup keyword.name = some (.arr xs))
      (right : b.lookup keyword.name = some (.arr ys))
  | sole {x y : Json} (listed : keyword ∈ uniform) (left : a.Single keyword x) (right : b.Single keyword y)
  /-- One side at most asks something of members that it does not declare, and all it declares stays declared. -/
  | covered (own : keyword = .additionalProperties) (alone : a.lookup keyword.name = none ∨ b.lookup keyword.name = none)
      (declared : ∀ side ∈ [a, b], side.lookup keyword.name ≠ none → ∀ name, side.Declares name →
        (mergedMembers a b).Declares name)

/-- What both schemas take, their merge takes. -/
inductive Blendable (draft : Draft) : Json → Json → Prop where
  | objectLeft (a : Members) (y : Bool) : Blendable draft (.obj a) (.bool y)
  | objectRight (x : Bool) (b : Members) : Blendable draft (.bool x) (.obj b)
  | bools (x y : Bool) : Blendable draft (.bool x) (.bool y)
  | objects {a b : Members} (blends : ∀ keyword, Blends draft a b keyword)
      (definitions : ∀ name ∈ ["definitions", "$defs"],
        (mergedMembers a b).lookup name = a.lookup name ∨ (mergedMembers a b).lookup name = b.lookup name)
      (meeting : ∀ x y, Meeting draft a b x y → Blendable draft x y) : Blendable draft (.obj a) (.obj b)

variable {draft : Draft} {a b : Members} {keyword : Keyword} {x y : Json}

theorem Blends.left_of_lacks (lacks : b.Lacks (keyword.readsIn draft)) : Blends draft a b keyword :=
  .left fun name inside => lookup_mergedMembers_left (lacks name inside)

theorem Blends.right_of_lacks (lacks : a.Lacks (keyword.readsIn draft)) : Blends draft a b keyword :=
  .right fun name inside => lookup_mergedMembers_right (lacks name inside)

/-- Where no keyword is read on both sides, nothing is paired. -/
theorem not_paired_of_lacks (lacks : ∀ keyword : Keyword, a.Lacks keyword.reads ∨ b.Lacks keyword.reads) :
    ¬ Paired a b x y := by
  have apart {keyword : Keyword} {left right : Json} (own : keyword.name ∈ keyword.reads)
      (first : a.lookup keyword.name = some left) (second : b.lookup keyword.name = some right) : False := by
    rcases lacks keyword with absent | absent
    · rw [absent _ own] at first
      cases first
    · rw [absent _ own] at second
      cases second
  intro pair
  cases pair with
  | entry mapped left right =>
    simp only [List.mem_cons, List.not_mem_nil, or_false] at mapped
    rcases mapped with rfl | rfl
    · exact apart (by decide) left right
    · exact apart (by decide) left right
  | member left right => exact @apart .allOf _ _ (by decide) left right

/-- Schemas without a keyword in common blend. -/
theorem Blendable.of_lacks
    (lacks : ∀ keyword : Keyword, a.Lacks (keyword.readsIn draft) ∨ b.Lacks (keyword.readsIn draft))
    (definitions : ∀ name ∈ ["definitions", "$defs"], a.lookup name = none ∨ b.lookup name = none) :
    Blendable draft (.obj a) (.obj b) := by
  have lacks' (keyword : Keyword) : a.Lacks keyword.reads ∨ b.Lacks keyword.reads :=
    (lacks keyword).imp (fun lacks name read => lacks name (keyword.reads_subset draft read))
      (fun lacks name read => lacks name (keyword.reads_subset draft read))
  refine .objects (fun keyword => (lacks keyword).elim .right_of_lacks .left_of_lacks) (fun name inside => ?_)
    fun x y meeting => ?_
  · exact (definitions name inside).symm.imp lookup_mergedMembers_left lookup_mergedMembers_right
  · cases meeting with
    | paired pair => exact absurd pair (not_paired_of_lacks lacks')
    | @sole keyword listed _ left right =>
      have own : keyword.name ∈ keyword.reads := by cases keyword <;> decide
      rcases lacks' keyword with absent | absent
      · cases (absent _ own).symm.trans left.found
      · cases (absent _ own).symm.trans right.found

/-- Schemas that blend are merged alike under every keyword. -/
theorem Blendable.mergeUnder_eq (blendable : Blendable draft x y) (name : Option String) :
    mergeUnder name x y = merge x y := by
  cases blendable <;> rw [merge, mergeUnder, mergeUnder]
  all_goals simp

/-- What holds of two schemas holds of their merge, if it does so in case neither of them stays. -/
theorem of_stays {name : Option String} {P : Json → Prop} (left : P x) (right : P y)
    (new : mergeUnder name x y ≠ x ∧ mergeUnder name x y ≠ y → P (mergeUnder name x y)) : P (mergeUnder name x y) := by
  by_cases first : mergeUnder name x y = x
  · rwa [first]
  · by_cases second : mergeUnder name x y = y
    · rwa [second]
    · exact new ⟨first, second⟩

/-- Merged sole subschemas are the sole subschema of the merge. -/
theorem Members.Single.merged (left : a.Single keyword x) (right : b.Single keyword y) :
    (mergedMembers a b).Single keyword (mergeUnder (some keyword.name) x y) where
  found := by rw [lookup_mergedMembers, left.found, right.found]
  schema := by
    rcases mergeUnder_cases (some keyword.name) x y with ⟨_, _, rfl, rfl⟩ | ⟨_, _, rfl, rfl⟩ | same | same
    · rw [mergeUnder]
      rfl
    · cases left.schema
    · rw [same, left.schema]
    · rw [same, right.schema]
  others name read other := by rw [lookup_mergedMembers_right (left.others name read other), right.others name read other]

/-- A keyword under which nothing is merged says in the merge what it says on one side, or asks the merge of
two sole subschemas. -/
theorem Blends.agrees (blends : Blends draft a b keyword) (apart : keyword ∉ Keyword.required :: .enum :: conjunctive)
    {names : List String} (reads : ∀ name ∈ names, name ∈ keyword.reads)
    (own : keyword = .additionalProperties → names = [keyword.name]) :
    (∀ name ∈ names, (mergedMembers a b).lookup name = a.lookup name) ∨
      (∀ name ∈ names, (mergedMembers a b).lookup name = b.lookup name) ∨
      keyword ∈ uniform ∧ ∃ x y, a.Single keyword x ∧ b.Single keyword y := by
  have read {name : String} (inside : name ∈ names) := keyword.reads_subset draft (reads name inside)
  cases blends with
  | left kept => exact .inl fun name inside => kept name (read inside)
  | right kept => exact .inr (.inl fun name inside => kept name (read inside))
  | required own => exact absurd (own ▸ List.mem_cons_self) apart
  | choices own => exact absurd (own ▸ List.mem_cons_of_mem _ List.mem_cons_self) apart
  | entries mapped =>
    simp only [List.mem_cons, List.not_mem_nil, or_false] at mapped
    rcases mapped with rfl | rfl <;> exact absurd (by decide) apart
  | members own => exact absurd (own ▸ by decide) apart
  | sole listed left right => exact .inr (.inr ⟨listed, _, _, left, right⟩)
  | covered additional alone =>
    rw [own additional]
    simp only [List.forall_mem_singleton]
    exact alone.elim (fun absent => .inr (.inl (lookup_mergedMembers_right absent)))
      fun absent => .inl (lookup_mergedMembers_left absent)

/-! ## Merged schemas compile -/

section
variable {part : Part} {members : Members}

theorem part_of_mapped (mapped : keyword ∈ [Keyword.properties, .patternProperties]) :
    ∃ step, .entries keyword.name step ∈ parts draft ∧ Part.SlotsByKey step := by
  simp only [List.mem_cons, List.not_mem_nil, or_false] at mapped
  rcases mapped with rfl | rfl
  · exact ⟨_, List.mem_append_left _ (List.mem_append_left _ List.mem_cons_self), Part.slotsByKey_child _⟩
  · exact ⟨_, List.mem_append_left _ (List.mem_append_left _ (List.mem_cons_of_mem _ List.mem_cons_self)),
      Part.slotsByKey_pattern⟩

/-- A part of a schema belongs to a keyword under which nothing is merged, it is one of definitions, or it
belongs to a keyword whose subschemas are merged. -/
theorem keyword_of_parts (listed : part ∈ parts draft) :
    (∃ keyword, (∀ name ∈ part.names, name ∈ keyword.reads) ∧ keyword ∉ Keyword.required :: .enum :: conjunctive ∧
      (keyword = .additionalProperties → part.names = [keyword.name])) ∨
    (∃ name ∈ ["definitions", "$defs"], part.names = [name]) ∨
    (∃ keyword ∈ [Keyword.properties, .patternProperties], ∃ step, part = .entries keyword.name step ∧ Part.SlotsByKey step) ∨
    part = .items .allOf := by
  have own (keyword : Keyword) (names : part.names = [keyword.name])
      (known : [keyword.name].all keyword.reads.contains = true) (apart : keyword ∉ Keyword.required :: .enum :: conjunctive) :
      ∃ keyword : Keyword, (∀ name ∈ part.names, name ∈ keyword.reads) ∧ keyword ∉ Keyword.required :: .enum :: conjunctive ∧
        (keyword = .additionalProperties → part.names = [keyword.name]) :=
    ⟨keyword, by rw [names]; simpa using known, apart, fun _ => names⟩
  simp only [parts, List.mem_append, List.mem_cons, List.mem_map, List.not_mem_nil, or_false] at listed
  rcases listed with ((rfl | rfl | rfl | rfl | rfl) | ⟨keyword, known, rfl⟩) | (rfl | rfl | rfl | rfl | rfl | rfl | rfl | rfl |
    rfl | rfl | rfl | rfl)
  · exact .inr (.inr (.inl ⟨.properties, by decide, _, rfl, Part.slotsByKey_child _⟩))
  · exact .inr (.inr (.inl ⟨.patternProperties, by decide, _, rfl, Part.slotsByKey_pattern⟩))
  · exact .inl (own .additionalProperties rfl (by decide) (by decide))
  · exact .inl (own .propertyNames rfl (by decide) (by decide))
  · exact .inl (own .unevaluatedProperties rfl (by decide) (by decide))
  · refine .inl (own keyword rfl ?_ ?_)
    all_goals
      have listed := List.mem_of_mem_filter known
      simp only [Fragment.dependencyKeywords, List.mem_cons, List.not_mem_nil, or_false] at listed
      rcases listed with rfl | rfl | rfl <;> decide
  · exact .inl ⟨.items, fun _ inside => inside, by decide, fun same => by cases same⟩
  · exact .inl (own .contains rfl (by decide) (by decide))
  · exact .inl (own .unevaluatedItems rfl (by decide) (by decide))
  · exact .inl (own .not rfl (by decide) (by decide))
  · exact .inr (.inr (.inr rfl))
  · exact .inl (own .anyOf rfl (by decide) (by decide))
  · exact .inl (own .oneOf rfl (by decide) (by decide))
  · exact .inl (own .conditional rfl (by decide) (by decide))
  · exact .inl ⟨.conditional, by simp [Part.one, Keyword.reads], by decide, fun same => by cases same⟩
  · exact .inl ⟨.conditional, by simp [Part.one, Keyword.reads], by decide, fun same => by cases same⟩
  · exact .inr (.inl ⟨"definitions", by decide, rfl⟩)
  · exact .inr (.inl ⟨"$defs", by decide, rfl⟩)

theorem sound_of_plainSchema (listed : part ∈ parts draft) (schema : (Json.obj members).PlainSchema draft) :
    part.Sound (Json.PlainSchema draft) members := by
  intro step inside
  refine schema.step ?_
  rw [steps_eq_parts]
  exact List.mem_flatMap.mpr ⟨part, listed, inside⟩

theorem sound_allOf_iff {items : List Json} {kind : Json → Prop} (found : members.lookup "allOf" = some (.arr items)) :
    (Part.items .allOf).Sound kind members ↔ ∀ sub ∈ items, kind sub := Part.sound_items_iff found

theorem allOf_mem_parts : .items .allOf ∈ parts draft := List.mem_append_right _ (by simp)

/-- The schemas that are merged are plain where those around them are. -/
theorem Paired.plainSchema (pair : Paired a b x y) (left : (Json.obj a).PlainSchema draft)
    (right : (Json.obj b).PlainSchema draft) : x.PlainSchema draft ∧ y.PlainSchema draft := by
  cases pair with
  | entry mapped found found' inside other =>
    obtain ⟨step, listed, slots⟩ := @part_of_mapped draft _ mapped
    obtain ⟨-, -, plain⟩ := (Part.sound_entries_iff slots found).mp (sound_of_plainSchema listed left) _ _ inside
    obtain ⟨-, -, plain'⟩ :=
      (Part.sound_entries_iff slots found').mp (sound_of_plainSchema listed right) _ _ (mem_of_lookup other)
    exact ⟨plain, plain'⟩
  | member found found' first second =>
    exact ⟨(sound_allOf_iff found).mp (sound_of_plainSchema allOf_mem_parts left) x (List.mem_of_getElem? first),
      (sound_allOf_iff found').mp (sound_of_plainSchema allOf_mem_parts right) y (List.mem_of_getElem? second)⟩

/-- The steps of a keyword that asks one plain subschema of all parts are sound. -/
theorem Members.Single.sound (single : members.Single keyword x) (asks : keyword ∈ uniform)
    (schema : draft.knows keyword = true → x.PlainSchema draft) (listed : part ∈ parts draft)
    (reads : ∀ name ∈ part.names, name ∈ keyword.reads) :
    part.Sound (Json.PlainSchema draft) members := by
  intro step inside
  rw [(local_of_parts listed).reads .root members _ fun name known => single.lookup name (reads name known)] at inside
  have step : step ∈ steps draft .root [(keyword.name, x)] := by
    rw [steps_eq_parts]
    exact List.mem_flatMap.mpr ⟨part, listed, inside⟩
  rw [steps_sole asks fun _ => single.schema] at step
  split at step
  · rename_i known
    exact ⟨_, x, List.mem_singleton.mp step, schema known⟩
  · cases step

theorem Members.Single.plainSchema (single : members.Single keyword x) (asks : keyword ∈ uniform)
    (known : draft.knows keyword = true) (schema : (Json.obj members).PlainSchema draft) : x.PlainSchema draft := by
  have inside : (keyword.uniformSlot, x) ∈
      (JsonSchema.subschemas draft members).filter fun entry => entry.1.within keyword.reads := by
    rw [single.subschemas asks known]
    exact List.mem_singleton_self _
  exact schema.below (List.mem_of_mem_filter inside)

/-- The schemas that are merged are plain where those around them are. -/
theorem Meeting.plainSchema (meeting : Meeting draft a b x y) (left : (Json.obj a).PlainSchema draft)
    (right : (Json.obj b).PlainSchema draft) : x.PlainSchema draft ∧ y.PlainSchema draft := by
  cases meeting with
  | paired pair => exact pair.plainSchema left right
  | sole listed known first second => exact ⟨first.plainSchema listed known left, second.plainSchema listed known right⟩

/-- The steps of merged schemas compile plain schemas, if those of the schemas that are merged do. -/
theorem Blends.sound (listed : part ∈ parts draft) (blends : ∀ keyword, Blends draft a b keyword)
    (definitions : ∀ name ∈ ["definitions", "$defs"],
      (mergedMembers a b).lookup name = a.lookup name ∨ (mergedMembers a b).lookup name = b.lookup name)
    (left : (Json.obj a).PlainSchema draft) (right : (Json.obj b).PlainSchema draft)
    (meeting : ∀ x y, Meeting draft a b x y → ∀ name, (mergeUnder name x y).PlainSchema draft) :
    part.Sound (Json.PlainSchema draft) (mergedMembers a b) := by
  have agree {names : List String} (own : part.names = names)
      (same : (∀ name ∈ names, (mergedMembers a b).lookup name = a.lookup name) ∨
        ∀ name ∈ names, (mergedMembers a b).lookup name = b.lookup name) : part.Sound (Json.PlainSchema draft) (mergedMembers a b) := by
    subst own
    exact same.elim ((sound_of_plainSchema listed left).congr listed) ((sound_of_plainSchema listed right).congr listed)
  rcases keyword_of_parts listed with ⟨keyword, reads, apart, own⟩ | ⟨name, known, own⟩ |
    ⟨keyword, mapped, step, rfl, slots⟩ | rfl
  · rcases (blends keyword).agrees apart reads own with same | same | ⟨asks, x, y, first, second⟩
    · exact agree rfl (.inl same)
    · exact agree rfl (.inr same)
    · refine (first.merged second).sound asks (fun known => ?_) listed reads
      exact of_stays (first.plainSchema asks known left) (second.plainSchema asks known right)
        fun new => meeting x y (.sole asks known first second new) _
  · refine agree own ((definitions name known).imp (fun same other inside => ?_) fun same other inside => ?_)
    · rwa [List.mem_singleton.mp inside]
    · rwa [List.mem_singleton.mp inside]
  · have reads (name : String) (inside : name ∈ (Part.entries keyword.name step).names) : name ∈ keyword.readsIn draft := by
      rw [List.mem_singleton.mp inside]
      refine keyword.reads_subset draft ?_
      simp only [List.mem_cons, List.not_mem_nil, or_false] at mapped
      rcases mapped with rfl | rfl <;> exact List.mem_singleton_self _
    cases blends keyword with
    | left kept => exact agree rfl (.inl fun name inside => kept name (reads name inside))
    | right kept => exact agree rfl (.inr fun name inside => kept name (reads name inside))
    | required own | choices own | members own | covered own =>
      subst own
      simp at mapped
    | sole asks =>
      simp only [List.mem_cons, List.not_mem_nil, or_false] at mapped
      rcases mapped with rfl | rfl <;> simp [uniform] at asks
    | entries mapped found found' =>
      have sound := (Part.sound_entries_iff slots found).mp (sound_of_plainSchema listed left)
      have sound' := (Part.sound_entries_iff slots found').mp (sound_of_plainSchema listed right)
      refine (Part.sound_entries_iff slots (lookup_mergedMembers_obj found found')).mpr
        (forall_mem_mergedMembers sound sound' fun key x y inside other => ?_)
      obtain ⟨slot, made, -⟩ := sound key x inside
      exact ⟨slot, (slots key x slot x _ made).2, meeting x y (.paired (.entry mapped found found' inside other)) _⟩
  · cases blends .allOf with
    | left kept => exact agree rfl (.inl fun name inside => kept name (Keyword.reads_subset _ _ inside))
    | right kept => exact agree rfl (.inr fun name inside => kept name (Keyword.reads_subset _ _ inside))
    | required own | choices own | covered own => cases own
    | entries mapped => simp at mapped
    | sole asks => simp [uniform] at asks
    | members own found found' =>
      rw [sound_allOf_iff (lookup_mergedMembers_arr found found' (by decide))]
      have merged := forall_mem_mergeSlots ((sound_allOf_iff found).mp (sound_of_plainSchema listed left))
        ((sound_allOf_iff found').mp (sound_of_plainSchema listed right)) fun index x y first second objects =>
        meeting x y (.paired (.member found found' first second objects)) none
      exact fun sub inside => merged sub (mem_of_mem_distinct inside)

end

/-- Plain schemas that blend merge into a plain schema. -/
theorem Blendable.plainSchema (blendable : Blendable draft x y) (left : x.PlainSchema draft)
    (right : y.PlainSchema draft) : (merge x y).PlainSchema draft := by
  induction blendable with
  | objectLeft a y => rwa [merge_obj_bool]
  | objectRight x b => rwa [merge_bool_obj]
  | bools x y => rwa [merge_bools]
  | @objects a b blends definitions meeting ih =>
    rw [merge_obj]
    cases plain : left.plain with
    | obj unreferring unidentified evaluated =>
      cases plain' : right.plain with
      | obj unreferring' unidentified' evaluated' =>
        have agrees (keyword : Keyword) (apart : keyword ∉ Keyword.required :: .enum :: conjunctive ++ uniform)
            (alone : keyword.reads = [keyword.name]) :
            (mergedMembers a b).lookup keyword.name = a.lookup keyword.name ∨
              (mergedMembers a b).lookup keyword.name = b.lookup keyword.name := by
          have own : ∀ name ∈ [keyword.name], name ∈ keyword.reads := fun name inside => alone ▸ inside
          rcases (blends keyword).agrees (fun inside => apart (List.mem_append_left _ inside)) own fun _ => rfl with
            same | same | ⟨asks, -⟩
          · exact .inl (same _ (List.mem_singleton_self _))
          · exact .inr (same _ (List.mem_singleton_self _))
          · exact absurd (List.mem_append_right _ asks) apart
        refine .of_steps (fun keyword known => ?_) ?_ (fun name known => ?_) ?_ ?_ fun step inside => ?_
        · exact stringMember?_mergedMembers (unreferring keyword known) (unreferring' keyword known)
        · exact stringMember?_mergedMembers unidentified unidentified'
        · rw [lookup_mergedMembers_right (evaluated name known), evaluated' name known]
        · have typed := left.buildable.typed
          have typed' := right.buildable.typed
          simp only [checkTypes] at typed typed' ⊢
          rcases agrees .type (by decide) rfl with same | same <;> rw [Keyword.name] at same
          · rwa [same]
          · rwa [same]
        · have read := left.buildable.pattern
          have read' := right.buildable.pattern
          simp only [Fragment.patternOf] at read read' ⊢
          rcases agrees .pattern (by decide) rfl with same | same <;> rw [Keyword.name] at same
          · rwa [same]
          · rwa [same]
        · rw [steps_eq_parts] at inside
          obtain ⟨part, listed, inside⟩ := List.mem_flatMap.mp inside
          refine Blends.sound listed blends definitions left right (fun x y met name => ?_) step inside
          obtain ⟨plain, plain'⟩ := met.plainSchema left right
          rw [(meeting x y met).mergeUnder_eq]
          exact ih x y met plain plain'

/-! ## Merged schemas take what both sides take -/

namespace Context

variable {context : Context} {depth : Nat} {data : Json} {members : Members}

/-- Required names are required wherever they are listed. -/
theorem holds_required_iff (byValue : context.formats.ByValue)
    (schema : (Json.obj members).PlainSchema context.draft) {names : List Json}
    (found : members.lookup "required" = some (.arr names)) : context.Holds depth .required members data ↔
      ∀ own, data = .obj own → ∀ name, .str name ∈ names → Members.has own name = true := by
  obtain ⟨f, compiled⟩ := schema.compiles (.document 0) (.ofDocument .default)
  rw [holds_iff_check byValue schema schema.plain (fun _ _ => rfl) compiled]
  have present : Keyword.required.isPresent context.draft members = true := by
    simp [Keyword.isPresent, Members.has, Keyword.name, found]
  have value : f.keyword? "required" = some (.arr names) := by
    rw [Fragment.keyword?, compiled.schema_eq]
    exact found
  simp only [present, forall_const, Visit.check, Option.some_inj, Visit.checkRequired, visit, Visit.keyword?, value]
  cases data with
  | obj own =>
    simp only [List.map_eq_nil_iff, List.filter_eq_nil_iff, mem_filterMap_string?, Json.obj.injEq, forall_eq']
    simp
  | _ => simp

/-- A list of values to choose from holds of those that it lists. -/
theorem holds_enum_iff (byValue : context.formats.ByValue) (schema : (Json.obj members).PlainSchema context.draft)
    {values : List Json} (found : members.lookup "enum" = some (.arr values)) :
    context.Holds depth .enum members data ↔ ∃ value ∈ values, value.equal data = true := by
  obtain ⟨f, compiled⟩ := schema.compiles (.document 0) (.ofDocument .default)
  rw [holds_iff_check byValue schema schema.plain (fun _ _ => rfl) compiled]
  have present : Keyword.enum.isPresent context.draft members = true := by
    simp [Keyword.isPresent, Members.has, Keyword.name, found]
  have value : f.keyword? "enum" = some (.arr values) := by
    rw [Fragment.keyword?, compiled.schema_eq]
    exact found
  simp only [present, forall_const, Visit.check, Option.some_inj, Visit.checkEnum, visit, Visit.keyword?, value,
    ← List.any_eq_true]
  by_cases chosen : (values.any fun value => value.equal data) = true <;> simp [chosen]

/-- The merge takes by a keyword what both sides take by it. -/
theorem holds_of_blends (byValue : context.formats.ByValue) (known : context.draft.knows keyword = true)
    (blends : Blends context.draft a b keyword) (left : (Json.obj a).PlainSchema context.draft)
    (right : (Json.obj b).PlainSchema context.draft) (merged : (Json.obj (mergedMembers a b)).PlainSchema context.draft)
    (meeting : ∀ x y, Meeting context.draft a b x y → ∀ name data, context.Meets depth x data → context.Meets depth y data →
      context.Meets depth (mergeUnder name x y) data)
    (first : context.Holds depth keyword a data) (second : context.Holds depth keyword b data) :
    context.Holds depth keyword (mergedMembers a b) data := by
  cases blends with
  | left kept => exact (holds_congr byValue merged left kept).mpr first
  | right kept => exact (holds_congr byValue merged right kept).mpr second
  | required own found found' =>
    subst own
    rw [holds_required_iff byValue left found] at first
    rw [holds_required_iff byValue right found'] at second
    rw [holds_required_iff byValue merged (lookup_mergedMembers_required found found')]
    intro members object name inside
    exact (List.mem_append.mp (mem_of_mem_distinct inside)).elim (first members object name) (second members object name)
  | choices own found found' kept =>
    subst own
    obtain ⟨value, inside, same⟩ := (holds_enum_iff byValue left found).mp first
    rw [holds_enum_iff byValue merged (lookup_mergedMembers_arr found found' (by decide))]
    exact ⟨value, kept inside, same⟩
  | entries mapped found found' =>
    rw [holds_iff_entries byValue left mapped found] at first
    rw [holds_iff_entries byValue right mapped found'] at second
    rw [holds_iff_entries byValue merged mapped (lookup_mergedMembers_obj found found')]
    refine forall_mem_mergedMembers first second fun key x y inside other slot named value asked => ?_
    exact meeting x y (.paired (.entry mapped found found' inside other)) _ value (first key x inside slot named value asked)
      (second key y (mem_of_lookup other) slot named value asked)
  | members own found found' =>
    subst own
    rw [holds_allOf_iff byValue left found] at first
    rw [holds_allOf_iff byValue right found'] at second
    rw [holds_allOf_iff byValue merged (lookup_mergedMembers_arr found found' (by decide))]
    have all := forall_mem_mergeSlots first second fun index x y own other objects =>
      meeting x y (.paired (.member found found' own other objects)) none data (first x (List.mem_of_getElem? own))
        (second y (List.mem_of_getElem? other))
    exact fun sub inside => all sub (mem_of_mem_distinct inside)
  | sole listed found found' =>
    rw [holds_single_iff byValue left listed known found] at first
    rw [holds_single_iff byValue right listed known found'] at second
    rw [holds_single_iff byValue merged listed known (found.merged found')]
    exact fun value part => of_stays (P := fun sub => context.Meets depth sub value) (first value part) (second value part)
      fun new => meeting _ _ (.sole listed known found found' new) _ value (first value part) (second value part)
  | covered own alone declared =>
    subst own
    have additional {side : Members} (schema : (Json.obj side).PlainSchema context.draft) (inside : side ∈ [a, b])
        (same : (mergedMembers a b).lookup "additionalProperties" = side.lookup "additionalProperties")
        (holds : context.Holds depth .additionalProperties side data) :
        context.Holds depth .additionalProperties (mergedMembers a b) data := by
      cases found : side.lookup "additionalProperties" with
      | none =>
        intro present
        simp [Keyword.isPresent, Members.has, Keyword.name, same, found] at present
      | some sub =>
        rw [holds_additionalProperties_iff byValue schema found] at holds
        rw [holds_additionalProperties_iff byValue merged (same.trans found)]
        intro own object name value member undeclared
        refine holds own object name value member fun covers => undeclared ?_
        exact declared side inside (by simp [Keyword.name, found]) name covers
    rcases alone with absent | absent
    · exact additional right (by simp) (lookup_mergedMembers_right absent) second
    · exact additional left (by simp) (lookup_mergedMembers_left absent) first

end Context

/-- What two plain schemas that blend both take, their merge takes. -/
theorem Blendable.meets {context : Context} (byValue : context.formats.ByValue) (blendable : Blendable context.draft x y)
    (left : x.PlainSchema context.draft) (right : y.PlainSchema context.draft) {depth : Nat} {data : Json}
    (first : context.Meets depth x data) (second : context.Meets depth y data) : context.Meets depth (merge x y) data := by
  induction blendable generalizing depth data with
  | objectLeft a y => rwa [merge_obj_bool]
  | objectRight x b => rwa [merge_bool_obj]
  | bools x y => rwa [merge_bools]
  | @objects a b blends definitions meeting ih =>
    have merged := (Blendable.objects blends definitions meeting).plainSchema left right
    rw [merge_obj] at merged ⊢
    cases depth with
    | zero => exact absurd first (Context.not_meets_zero left)
    | succ depth =>
      rw [Context.meets_obj byValue left] at first
      rw [Context.meets_obj byValue right] at second
      rw [Context.meets_obj byValue merged]
      intro keyword known applies
      refine Context.holds_of_blends byValue (List.mem_filter.mp known).2 (blends keyword) left right merged
        (fun x y met name data own other => ?_) (first keyword known applies) (second keyword known applies)
      rw [(meeting x y met).mergeUnder_eq]
      exact ih x y met (met.plainSchema left right).1 (met.plainSchema left right).2 own other

end JsonSchema
