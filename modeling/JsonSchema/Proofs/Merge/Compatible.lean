import JsonSchema.Proofs.Merge.Blending

/-!
# Compatible schemas

A merged schema asks for what both sides ask for unless a keyword on one side displaces the same
keyword on the other. Schemas are compatible if none does: a keyword stands on one side alone, or
the value that stays covers the one that goes, or the keyword is one that asks subschemas for all
and those that are merged are compatible themselves.
-/

namespace JsonSchema

/-- A merge keeps what both sides ask for by a keyword, if it keeps it for the schemas it merges under it. -/
inductive Joins (context : Context) (a b : Members) (keyword : Keyword) : Prop where
  /-- What the left side says stays, and covers what the right side says. -/
  | left (kept : ∀ name ∈ keyword.reads, (mergedMembers a b).lookup name = a.lookup name)
      (covers : ∀ depth data, context.Holds depth keyword a data → context.Holds depth keyword b data) :
      Joins context a b keyword
  /-- What the right side says stays, and covers what the left side says. -/
  | right (kept : ∀ name ∈ keyword.reads, (mergedMembers a b).lookup name = b.lookup name)
      (covers : ∀ depth data, context.Holds depth keyword b data → context.Holds depth keyword a data) :
      Joins context a b keyword
  /-- No side has anything to say about properties that are not covered. -/
  | uncovered (own : keyword = .additionalProperties) (left : a.lookup keyword.name = none)
      (right : b.lookup keyword.name = none) : Joins context a b keyword
  | required {xs ys : List Json} (own : keyword = .required) (left : a.lookup keyword.name = some (.arr xs))
      (right : b.lookup keyword.name = some (.arr ys)) : Joins context a b keyword
  | entries {xs ys : Members} (mapped : keyword ∈ [Keyword.properties, .patternProperties])
      (left : a.lookup keyword.name = some (.obj xs)) (right : b.lookup keyword.name = some (.obj ys))
      (distinct : (ys.map Prod.fst).Nodup) : Joins context a b keyword
  /-- Schemas that are dropped as equal to others are the same. -/
  | members {xs ys : List Json} (own : keyword = .allOf) (left : a.lookup keyword.name = some (.arr xs))
      (right : b.lookup keyword.name = some (.arr ys)) (kept : mergeSlots xs ys ⊆ Json.distinct (mergeSlots xs ys)) :
      Joins context a b keyword

/-- Merging two schemas displaces nothing that either of them asks for. -/
inductive Compatible (context : Context) : Json → Json → Prop where
  | accepting (a : Members) : Compatible context (.obj a) (.bool true)
  | refusing (b : Members) : Compatible context (.bool false) (.obj b)
  | bools {x y : Bool} (covers : y = true → x = true) : Compatible context (.bool x) (.bool y)
  | objects {a b : Members} (joins : ∀ keyword, Joins context a b keyword)
      (definitions : ∀ name ∈ ["definitions", "$defs"], a.lookup name = none ∨ b.lookup name = none)
      (paired : ∀ x y, Paired a b x y → Compatible context x y) : Compatible context (.obj a) (.obj b)

variable {context : Context} {a b : Members} {keyword : Keyword} {x y : Json}

theorem Joins.left_of_lacks (lacks : b.Lacks keyword.reads) : Joins context a b keyword :=
  .left (fun name inside => lookup_mergedMembers_left (lacks name inside)) fun _ _ _ => Context.holds_of_lacks lacks

theorem Joins.right_of_lacks (lacks : a.Lacks keyword.reads) : Joins context a b keyword :=
  .right (fun name inside => lookup_mergedMembers_right (lacks name inside)) fun _ _ _ => Context.holds_of_lacks lacks

/-- Schemas without a keyword in common are compatible. -/
theorem Compatible.of_lacks (lacks : ∀ keyword : Keyword, a.Lacks keyword.reads ∨ b.Lacks keyword.reads)
    (definitions : ∀ name ∈ ["definitions", "$defs"], a.lookup name = none ∨ b.lookup name = none) :
    Compatible context (.obj a) (.obj b) := by
  exact .objects (fun keyword => (lacks keyword).elim Joins.right_of_lacks Joins.left_of_lacks) definitions
    fun x y pair => absurd pair (not_paired_of_lacks lacks)

/-- A merge that keeps what both sides ask for takes what both sides take. -/
theorem Joins.blends (merges : context.draft.mergesSiblings = true) (joins : Joins context a b keyword) :
    Blends context.draft a b keyword := by
  cases joins with
  | left kept => exact .left (Keyword.readsIn_eq_reads merges ▸ kept)
  | right kept => exact .right (Keyword.readsIn_eq_reads merges ▸ kept)
  | uncovered own left right =>
    refine .covered own (.inl left) fun side inside asks => absurd ?_ asks
    simp only [List.mem_cons, List.not_mem_nil, or_false] at inside
    rcases inside with rfl | rfl
    · exact left
    · exact right
  | required own left right => exact .required own left right
  | entries mapped left right => exact .entries mapped left right
  | members own left right => exact .members own left right

/-- Of two sole subschemas one stays. -/
theorem Joins.stays (joins : Joins context a b keyword) (listed : keyword ∈ uniform) (left : a.Single keyword x)
    (right : b.Single keyword y) :
    mergeUnder (some keyword.name) x y = x ∨ mergeUnder (some keyword.name) x y = y := by
  have own : keyword.name ∈ keyword.reads := by
    simp only [uniform, List.mem_cons, List.not_mem_nil, or_false] at listed
    rcases listed with rfl | rfl | rfl <;> decide
  have found := (left.merged right).found
  cases joins with
  | left kept => exact .inl (Option.some.inj (found.symm.trans ((kept _ own).trans left.found)))
  | right kept => exact .inr (Option.some.inj (found.symm.trans ((kept _ own).trans right.found)))
  | uncovered _ absent =>
    rw [left.found] at absent
    cases absent
  | required same | members same => exact absurd (same ▸ listed) (by decide)
  | entries mapped =>
    simp only [List.mem_cons, List.not_mem_nil, or_false] at mapped
    rcases mapped with rfl | rfl <;> exact absurd listed (by decide)

theorem Compatible.blendable (merges : context.draft.mergesSiblings = true) (compatible : Compatible context x y) :
    Blendable context.draft x y := by
  induction compatible with
  | accepting a => exact .objectLeft a true
  | refusing b => exact .objectRight false b
  | bools => exact .bools _ _
  | objects joins definitions paired ih =>
    refine .objects (fun keyword => (joins keyword).blends merges) (fun name known => ?_) fun x y meeting => ?_
    · exact (definitions name known).symm.imp lookup_mergedMembers_left lookup_mergedMembers_right
    · cases meeting with
      | paired pair => exact ih x y pair
      | sole listed _ left right new =>
        rcases (joins _).stays listed left right with same | same
        · exact absurd same new.1
        · exact absurd same new.2

/-- Compatible plain schemas merge into a plain schema. -/
theorem Compatible.plainSchema (merges : context.draft.mergesSiblings = true) (compatible : Compatible context x y)
    (left : x.PlainSchema context.draft) (right : y.PlainSchema context.draft) : (merge x y).PlainSchema context.draft :=
  (compatible.blendable merges).plainSchema left right

/-! ## Merged schemas ask for what both sides ask for -/

namespace Context

variable {depth : Nat} {data : Json}

/-- What a keyword asks for on one side, the merge asks for. -/
theorem holds_of_joins (merges : context.draft.mergesSiblings = true) (byValue : context.formats.ByValue)
    (joins : Joins context a b keyword) (left : (Json.obj a).PlainSchema context.draft)
    (right : (Json.obj b).PlainSchema context.draft) (merged : (Json.obj (mergedMembers a b)).PlainSchema context.draft)
    (paired : ∀ x y, Paired a b x y → ∀ name data,
      context.Meets depth (mergeUnder name x y) data → context.Meets depth x data ∧ context.Meets depth y data)
    (holds : context.Holds depth keyword (mergedMembers a b) data) :
    context.Holds depth keyword a data ∧ context.Holds depth keyword b data := by
  have reads : keyword.readsIn context.draft = keyword.reads := Keyword.readsIn_eq_reads merges
  cases joins with
  | left kept covers =>
    rw [holds_congr byValue merged left (reads ▸ kept)] at holds
    exact ⟨holds, covers depth data holds⟩
  | right kept covers =>
    rw [holds_congr byValue merged right (reads ▸ kept)] at holds
    exact ⟨covers depth data holds, holds⟩
  | uncovered own found found' =>
    subst own
    have idle {members : Members} (absent : members.lookup "additionalProperties" = none) :
        context.Holds depth .additionalProperties members data := by
      intro present
      simp [Keyword.isPresent, Members.has, Keyword.name, absent] at present
    exact ⟨idle found, idle found'⟩
  | required own found found' =>
    subst own
    rw [holds_required_iff byValue merged (lookup_mergedMembers_required found found')] at holds
    rw [holds_required_iff byValue left found, holds_required_iff byValue right found']
    simp only [str_mem_distinct, List.mem_append] at holds
    exact ⟨fun own same name inside => holds own same name (.inl inside),
      fun own same name inside => holds own same name (.inr inside)⟩
  | entries mapped found found' distinct =>
    rw [holds_iff_entries byValue merged mapped (lookup_mergedMembers_obj found found')] at holds
    rw [holds_iff_entries byValue left mapped found, holds_iff_entries byValue right mapped found']
    refine of_forall_mem_mergedMembers distinct (fun key x y inside other all => ?_) holds
    have each := fun slot named value asked =>
      paired x y (.entry mapped found found' inside other) _ value (all slot named value asked)
    exact ⟨fun slot named value asked => (each slot named value asked).1,
      fun slot named value asked => (each slot named value asked).2⟩
  | @members xs ys own found found' kept =>
    subst own
    rw [holds_allOf_iff byValue merged (lookup_mergedMembers_arr found found' (by decide))] at holds
    rw [holds_allOf_iff byValue left found, holds_allOf_iff byValue right found']
    exact of_forall_mem_mergeSlots (fun index x y first second objects =>
      paired x y (.member found found' first second objects) none data) fun sub inside => holds sub (kept inside)

end Context

/-- A merge of compatible plain schemas accepts what both of them accept. -/
theorem Compatible.meets_iff (merges : context.draft.mergesSiblings = true) (byValue : context.formats.ByValue)
    (compatible : Compatible context x y) (left : x.PlainSchema context.draft) (right : y.PlainSchema context.draft)
    (depth : Nat) (data : Json) :
    context.Meets depth (merge x y) data ↔ context.Meets depth x data ∧ context.Meets depth y data := by
  refine ⟨fun meets => ?_, fun both => (compatible.blendable merges).meets byValue left right both.1 both.2⟩
  induction compatible generalizing depth data with
  | accepting a =>
    rw [merge_obj_bool] at meets
    cases depth with
    | zero => exact absurd meets (Context.not_meets_zero left)
    | succ depth => exact ⟨meets, (Context.meets_bool true).mpr rfl⟩
  | refusing b =>
    rw [merge_bool_obj] at meets
    exact absurd meets Context.not_meets_refusing
  | bools covers =>
    rw [merge_bools] at meets
    cases depth with
    | zero => exact absurd meets (Context.not_meets_zero right)
    | succ depth => exact ⟨(Context.meets_bool _).mpr (covers ((Context.meets_bool _).mp meets)), meets⟩
  | @objects a b joins definitions paired ih =>
    have merged := (Compatible.objects joins definitions paired).plainSchema merges left right
    rw [merge_obj] at merged meets
    cases depth with
    | zero => exact absurd meets (Context.not_meets_zero merged)
    | succ depth =>
      rw [Context.meets_obj byValue merged] at meets
      rw [Context.meets_obj byValue left, Context.meets_obj byValue right]
      have joined (keyword : Keyword) := @Context.holds_of_joins _ _ _ _ depth data merges byValue (joins keyword)
        left right merged fun x y pair name data meets => by
          rw [((paired x y pair).blendable merges).mergeUnder_eq] at meets
          exact ih x y pair (pair.plainSchema left right).1 (pair.plainSchema left right).2 depth data meets
      exact ⟨fun keyword known applies => (joined keyword (meets keyword known applies)).1,
        fun keyword known applies => (joined keyword (meets keyword known applies)).2⟩

end JsonSchema
