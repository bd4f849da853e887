import JsonSchema.Proofs.Merge.Blending
import JsonSchema.Proofs.Reference.Rebase

/-!
# Additive schemas

A schema that sets bounds, lists required names and has schemas of this kind for properties and in
`allOf` says nothing that a merge could take away. Such schemas blend, and their merge is one of them.
-/

namespace JsonSchema

/-- The keywords whose check reads one plain value. -/
def bounding : List Keyword := [
  .type, .const, .format, .maximum, .minimum, .multipleOf, .maxLength, .minLength, .pattern, .minItems, .maxItems,
  .uniqueItems, .minProperties, .maxProperties]

/-- The keywords under which names and schemas are collected. -/
def collecting : List Keyword := [.required, .properties, .patternProperties, .allOf]

/-- All that an additive schema may have something under. -/
def additive : List Keyword := collecting ++ bounding

/-- A value without parts. -/
def Json.isScalar : Json → Bool
  | .arr _ | .obj _ => false
  | _ => true

/-- What an additive schema has under a keyword. -/
inductive AdditiveMember (keyword : Keyword) : Json → Prop where
  | bound {value : Json} (own : keyword ∈ bounding) (scalar : value.isScalar = true) : AdditiveMember keyword value
  | names {names : List Json} (own : keyword = .required) (texts : ∀ name ∈ names, ∃ text, name = .str text) :
      AdditiveMember keyword (.arr names)
  | entries (own : keyword ∈ [Keyword.properties, .patternProperties]) (entries : Members) :
      AdditiveMember keyword (.obj entries)
  | members (own : keyword = .allOf) (items : List Json) : AdditiveMember keyword (.arr items)

/-- A schema with bounds, required names, and additive schemas for properties and in `allOf`. -/
inductive Json.Additive : Json → Prop where
  | bool (b : Bool) : Additive (.bool b)
  | obj {members : Members}
      (own : ∀ name value, (name, value) ∈ members → ∃ keyword : Keyword, name = keyword.name ∧ AdditiveMember keyword value)
      (entries : ∀ name xs, (name, .obj xs) ∈ members → ∀ key sub, (key, sub) ∈ xs → Additive sub)
      (items : ∀ xs, (Keyword.allOf.name, .arr xs) ∈ members → ∀ sub ∈ xs, Additive sub) : Additive (.obj members)

/-- Whether a schema is additive, if its subschemas are nested no deeper than a number. -/
def Json.isAdditive : Nat → Json → Bool
  | _, .bool _ => true
  | depth + 1, .obj members => members.all fun (name, value) =>
    match value with
    | .obj entries => (name == "properties" || name == "patternProperties") && entries.all fun entry => entry.2.isAdditive depth
    | .arr items =>
      (name == "required" && items.all fun item => item.string?.isSome) || (name == "allOf" && items.all (isAdditive depth))
    | _ => bounding.any fun keyword => name == keyword.name
  | _, _ => false

theorem Json.additive_of_isAdditive {depth : Nat} {schema : Json} (is : schema.isAdditive depth = true) : schema.Additive := by
  induction depth generalizing schema with
  | zero =>
    cases schema with
    | bool b => exact .bool b
    | _ => cases is
  | succ depth ih =>
    cases schema with
    | bool b => exact .bool b
    | obj members =>
      rw [isAdditive, List.all_eq_true] at is
      have scalar {name : String} {value : Json} (scalar : value.isScalar = true)
          (known : (bounding.any fun keyword => name == keyword.name) = true) :
          ∃ keyword : Keyword, name = keyword.name ∧ AdditiveMember keyword value := by
        obtain ⟨keyword, own, same⟩ := List.any_eq_true.mp known
        exact ⟨keyword, beq_iff_eq.mp same, .bound own scalar⟩
      refine .obj (fun name value inside => ?_) (fun name entries inside key sub listed => ?_) fun items inside sub listed => ?_
      · have known := is _ inside
        cases value with
        | obj entries =>
          simp only [Bool.and_eq_true, Bool.or_eq_true, beq_iff_eq] at known
          rcases known.1 with rfl | rfl
          · exact ⟨.properties, rfl, .entries (by decide) entries⟩
          · exact ⟨.patternProperties, rfl, .entries (by decide) entries⟩
        | arr items =>
          simp only [Bool.and_eq_true, Bool.or_eq_true, beq_iff_eq, List.all_eq_true] at known
          rcases known with ⟨rfl, texts⟩ | ⟨rfl, -⟩
          · refine ⟨.required, rfl, .names rfl fun item listed => ?_⟩
            have isText := texts item listed
            cases item with
            | str text => exact ⟨text, rfl⟩
            | _ => cases isText
          · exact ⟨.allOf, rfl, .members rfl items⟩
        | _ => exact scalar rfl known
      · have known := is _ inside
        simp only [Bool.and_eq_true, List.all_eq_true] at known
        exact ih (known.2 _ listed)
      · have known := is _ inside
        have apart : (Keyword.allOf.name == "required") = false := by decide
        simp only [apart, Bool.false_and, Bool.false_or, Bool.and_eq_true, List.all_eq_true] at known
        exact ih (known.2 _ listed)
    | _ => cases is

theorem Keyword.name_injective : Function.Injective Keyword.name := by
  intro a b same
  cases a <;> cases b <;> first | rfl | simp [name] at same

namespace AdditiveMember

variable {keyword : Keyword} {x y : Json}

theorem scalar (member : AdditiveMember keyword x) (own : keyword ∈ bounding) : x.isScalar = true := by
  cases member with
  | bound _ scalar => exact scalar
  | names other | members other =>
    subst other
    exact absurd own (by decide)
  | entries other =>
    simp only [List.mem_cons, List.not_mem_nil, or_false] at other
    rcases other with rfl | rfl <;> exact absurd own (by decide)

theorem exists_names (member : AdditiveMember .required x) :
    ∃ names, x = .arr names ∧ ∀ name ∈ names, ∃ text, name = .str text := by
  cases member with
  | bound own => exact absurd own (by decide)
  | names _ texts => exact ⟨_, rfl, texts⟩
  | entries own => exact absurd own (by decide)
  | members own => cases own

theorem exists_entries (member : AdditiveMember keyword x) (mapped : keyword ∈ [Keyword.properties, .patternProperties]) :
    ∃ entries, x = .obj entries := by
  cases member with
  | bound own =>
    simp only [List.mem_cons, List.not_mem_nil, or_false] at mapped
    rcases mapped with rfl | rfl <;> exact absurd own (by decide)
  | names own | members own =>
    subst own
    exact absurd mapped (by decide)
  | entries => exact ⟨_, rfl⟩

theorem exists_items (member : AdditiveMember .allOf x) : ∃ items, x = .arr items := by
  cases member with
  | bound own => exact absurd own (by decide)
  | names own => cases own
  | entries own => exact absurd own (by decide)
  | members => exact ⟨_, rfl⟩

theorem listed (member : AdditiveMember keyword x) : keyword ∈ additive := by
  cases member with
  | bound own => exact List.mem_append_right _ own
  | names own | members own =>
    subst own
    decide
  | entries own => exact List.mem_cons_of_mem _ (List.mem_append_left (Keyword.allOf :: bounding) own)

/-- Of two plain values the right one stays. -/
theorem mergeUnder_of_scalar {name : Option String} (left : x.isScalar = true) (right : y.isScalar = true) :
    mergeUnder name x y = y := by
  cases x <;> cases y <;> simp [mergeUnder, Json.isScalar] at left right ⊢

theorem merged (left : AdditiveMember keyword x) (right : AdditiveMember keyword y) :
    AdditiveMember keyword (mergeUnder (some keyword.name) x y) := by
  cases left with
  | bound own scalar =>
    have scalar' := right.scalar own
    rw [mergeUnder_of_scalar scalar scalar']
    exact .bound own scalar'
  | names own texts =>
    subst own
    obtain ⟨names', rfl, texts'⟩ := right.exists_names
    exact .names rfl fun name inside => (List.mem_append.mp (mem_of_mem_distinct inside)).elim (texts name) (texts' name)
  | entries own =>
    obtain ⟨entries', rfl⟩ := right.exists_entries own
    rw [mergeUnder]
    exact .entries own _
  | members own =>
    subst own
    obtain ⟨items', rfl⟩ := right.exists_items
    exact .members rfl _

end AdditiveMember

namespace Json.Additive

variable {a b : Members} {x y : Json}

theorem member (additive : (Json.obj a).Additive) {keyword : Keyword} (inside : (keyword.name, x) ∈ a) :
    AdditiveMember keyword x := by
  cases additive with
  | obj own =>
    obtain ⟨other, same, member⟩ := own _ _ inside
    rwa [Keyword.name_injective same]

/-- Additive schemas are merged alike under every name. -/
theorem mergeUnder_eq (left : x.Additive) (right : y.Additive) (name : Option String) : mergeUnder name x y = merge x y := by
  cases left <;> cases right <;> rw [merge, mergeUnder, mergeUnder]
  all_goals simp

/-- Additive schemas are merged to one. -/
theorem merged (left : x.Additive) (right : y.Additive) : (merge x y).Additive := by
  induction left generalizing y with
  | bool b => cases right <;> exact .bool _
  | @obj a own entries items ihEntries ihItems =>
    have whole : (Json.obj a).Additive := .obj own entries items
    cases right with
    | bool => exact whole
    | @obj b own' entries' items' =>
      have whole' : (Json.obj b).Additive := .obj own' entries' items'
      rw [merge_obj]
      refine .obj ?_ ?_ ?_
      · refine forall_mem_mergedMembers own own' fun name x y inside found => ?_
        obtain ⟨keyword, rfl, member⟩ := own name x inside
        exact ⟨keyword, rfl, member.merged (whole'.member (mem_of_lookup found))⟩
      · intro name zs inside
        refine forall_mem_mergedMembers (P := fun _ z => ∀ zs, z = .obj zs → ∀ key sub, (key, sub) ∈ zs → sub.Additive)
          (fun name x inside xs same => entries name xs (same ▸ inside))
          (fun name y inside ys same => entries' name ys (same ▸ inside)) (fun name x y inside found zs same => ?_)
          name _ inside zs rfl
        rcases mergeUnder_cases (some name) x y with ⟨xs, ys, rfl, rfl⟩ | ⟨xs, ys, rfl, rfl⟩ | stays | stays
        · rw [mergeUnder] at same
          cases same
          refine forall_mem_mergedMembers (entries name xs inside) (entries' name ys (mem_of_lookup found)) ?_
          intro key u v inside' found'
          have below := entries' name ys (mem_of_lookup found) key v (mem_of_lookup found')
          rw [mergeUnder_eq (entries name xs inside key u inside') below]
          exact ihEntries name xs inside key u inside' below
        · unfold mergeUnder at same
          split at same <;> cases same
        · exact entries name zs (stays.symm.trans same ▸ inside)
        · exact entries' name zs (stays.symm.trans same ▸ mem_of_lookup found)
      · intro zs inside
        refine forall_mem_mergedMembers
          (P := fun name z => name = Keyword.allOf.name → ∀ zs, z = .arr zs → ∀ sub ∈ zs, sub.Additive)
          (fun name x inside own xs same => items xs (own ▸ same ▸ inside))
          (fun name y inside own ys same => items' ys (own ▸ same ▸ inside)) (fun name x y inside found own zs same => ?_)
          _ _ inside rfl zs rfl
        subst own
        obtain ⟨xs, rfl⟩ := (whole.member inside).exists_items
        obtain ⟨ys, rfl⟩ := (whole'.member (mem_of_lookup found)).exists_items
        cases same
        refine fun sub listed => forall_mem_mergeSlots (items xs inside) (items' ys (mem_of_lookup found)) ?_ sub
          (mem_of_mem_distinct listed)
        exact fun index u v first second _ => ihItems xs inside u (List.mem_of_getElem? first)
          (items' ys (mem_of_lookup found) v (List.mem_of_getElem? second))

/-- Rebasing changes nothing, as there are no references. -/
theorem rebase_eq (additive : x.Additive) (base : Uri) : rebase base x = x := by
  induction additive generalizing base with
  | bool => rfl
  | @obj members own entries items ihEntries ihItems =>
    rw [rebase, rebaseMembers_eq]
    congr 1
    conv_rhs => rw [← List.map_id members]
    refine List.map_congr_left fun entry inside => ?_
    obtain ⟨name, value⟩ := entry
    obtain ⟨keyword, rfl, member⟩ := own name value inside
    refine Prod.ext rfl ?_
    have kept (base : Uri) : rebase base value = value := by
      cases member with
      | bound _ scalar => cases value <;> first | rfl | cases scalar
      | names _ texts =>
        rw [rebase, rebaseItems_eq, List.map_congr_left, List.map_id]
        intro item listed
        obtain ⟨text, rfl⟩ := texts item listed
        rfl
      | entries _ xs =>
        rw [rebase, rebaseMembers_eq]
        congr 1
        conv_rhs => rw [← List.map_id xs]
        refine List.map_congr_left fun entry listed => Prod.ext rfl ?_
        obtain ⟨key, sub⟩ := entry
        have schema := entries _ xs inside key sub listed
        change rebasedMember _ _ key sub = sub
        rw [rebasedMember_of_not_str (by rintro text rfl; cases schema), ihEntries _ xs inside key sub listed, ite_self]
      | members own xs =>
        subst own
        rw [rebase, rebaseItems_eq, List.map_congr_left, List.map_id]
        exact fun item listed => ihItems xs inside item listed base
    have apart : ∀ keyword ∈ JsonSchema.additive,
        keyword.name ∉ ["$id", "id", "$ref", "$recursiveRef", "$dynamicRef"] := by decide
    have named := apart keyword member.listed
    simp only [List.mem_cons, List.not_mem_nil, or_false, not_or] at named
    change rebasedMember base _ keyword.name value = value
    simp [rebasedMember, named, kept]

/-- A list of names is additive. -/
theorem required (names : List String) : (Json.obj [("required", .ofStrings names)]).Additive := by
  refine .obj (fun name value inside => ?_) (fun name xs inside => ?_) fun xs inside => ?_
  · cases List.mem_singleton.mp inside
    exact ⟨.required, rfl, .names rfl fun name listed => have ⟨text, _, same⟩ := List.mem_map.mp listed; ⟨text, same.symm⟩⟩
  · cases List.mem_singleton.mp inside
  · exact absurd (Prod.mk.inj (List.mem_singleton.mp inside)).1 (by decide)

/-- So is a single bound. -/
theorem bound {keyword : Keyword} {value : Json} (own : keyword ∈ bounding) (scalar : value.isScalar = true) :
    (Json.obj [(keyword.name, value)]).Additive := by
  refine .obj (fun name other inside => ?_) (fun name xs inside => ?_) fun xs inside => ?_
  · cases List.mem_singleton.mp inside
    exact ⟨keyword, rfl, .bound own scalar⟩
  · cases (Prod.mk.inj (List.mem_singleton.mp inside)).2
    cases scalar
  · cases (Prod.mk.inj (List.mem_singleton.mp inside)).2
    cases scalar

/-- What no additive schema has a member for it has none for. -/
theorem lookup_eq_none (additive : (Json.obj a).Additive) {name : String}
    (unknown : name ∉ JsonSchema.additive.map Keyword.name) : a.lookup name = none := by
  cases additive with
  | obj own =>
    cases found : a.lookup name with
    | none => rfl
    | some value =>
      obtain ⟨keyword, rfl, member⟩ := own name value (mem_of_lookup found)
      exact absurd (List.mem_map_of_mem member.listed) unknown

/-- Of two bounds the right one stays. -/
private theorem blends_of_bounding {draft : Draft} (left : (Json.obj a).Additive) (right : (Json.obj b).Additive)
    {keyword : Keyword} (bounds : keyword ∈ bounding) : Blends draft a b keyword := by
  have others : ∀ keyword ∈ bounding, ∀ name ∈ keyword.readsIn draft, name ≠ keyword.name →
      name ∉ JsonSchema.additive.map Keyword.name := by cases draft <;> decide
  have unknown {name : String} (read : name ∈ keyword.readsIn draft) (other : name ≠ keyword.name) :=
    others keyword bounds name read other
  cases found : b.lookup keyword.name with
  | none =>
    refine .left fun name read => lookup_mergedMembers_left ?_
    by_cases own : name = keyword.name
    · exact own ▸ found
    · exact right.lookup_eq_none (unknown read own)
  | some y =>
    refine .right fun name read => ?_
    by_cases own : name = keyword.name
    · subst own
      cases found' : a.lookup keyword.name with
      | none => exact lookup_mergedMembers_right found'
      | some x =>
        have scalar := (left.member (mem_of_lookup found')).scalar bounds
        have scalar' := (right.member (mem_of_lookup found)).scalar bounds
        rw [lookup_mergedMembers, found', found]
        exact congrArg some (AdditiveMember.mergeUnder_of_scalar scalar scalar')
    · exact lookup_mergedMembers_right (left.lookup_eq_none (unknown read own))

/-- Names are joined, and the schemas of maps and lists are merged. -/
private theorem blends_of_collecting {draft : Draft} (left : (Json.obj a).Additive) (right : (Json.obj b).Additive)
    {keyword : Keyword} (collects : keyword ∈ collecting) : Blends draft a b keyword := by
  have alone : ∀ keyword ∈ collecting, ∀ name ∈ keyword.readsIn draft, name = keyword.name := by
    cases draft <;> decide
  cases found : a.lookup keyword.name with
  | none => exact .right_of_lacks fun name read => alone keyword collects name read ▸ found
  | some x =>
    cases found' : b.lookup keyword.name with
    | none => exact .left_of_lacks fun name read => alone keyword collects name read ▸ found'
    | some y =>
      have member := left.member (mem_of_lookup found)
      have member' := right.member (mem_of_lookup found')
      by_cases mapped : keyword ∈ [Keyword.properties, .patternProperties]
      · obtain ⟨xs, rfl⟩ := member.exists_entries mapped
        obtain ⟨ys, rfl⟩ := member'.exists_entries mapped
        exact .entries mapped found found'
      · rcases List.mem_cons.mp collects with rfl | other
        · obtain ⟨xs, rfl, -⟩ := member.exists_names
          obtain ⟨ys, rfl, -⟩ := member'.exists_names
          exact .required rfl found found'
        · obtain rfl : keyword = .allOf := by
            revert mapped other
            cases keyword <;> decide
          obtain ⟨xs, rfl⟩ := member.exists_items
          obtain ⟨ys, rfl⟩ := member'.exists_items
          exact .members rfl found found'

/-- What both sides say under a keyword blends. -/
theorem blends {draft : Draft} (left : (Json.obj a).Additive) (right : (Json.obj b).Additive) (keyword : Keyword) :
    Blends draft a b keyword := by
  by_cases bounds : keyword ∈ bounding
  · exact blends_of_bounding left right bounds
  · by_cases collects : keyword ∈ collecting
    · exact blends_of_collecting left right collects
    · by_cases additional : keyword = .additionalProperties
      · -- its check reads what is declared, but there is no schema for all other members
        subst additional
        have absent : "additionalProperties" ∉ JsonSchema.additive.map Keyword.name := by decide
        refine .covered rfl (.inl (left.lookup_eq_none absent)) fun side listed some => ?_
        simp only [List.mem_cons, List.not_mem_nil, or_false] at listed
        rcases listed with rfl | rfl
        · exact absurd (left.lookup_eq_none absent) some
        · exact absurd (right.lookup_eq_none absent) some
      · have apart : ∀ keyword : Keyword, keyword ∉ bounding → keyword ∉ collecting → keyword ≠ .additionalProperties →
            ∀ name ∈ keyword.readsIn draft, name ∉ JsonSchema.additive.map Keyword.name := by
          intro keyword
          cases draft <;> cases keyword <;> decide
        exact .left_of_lacks fun name read => right.lookup_eq_none (apart keyword bounds collects additional name read)

/-- Additive schemas blend. -/
theorem blendable {draft : Draft} (left : x.Additive) (right : y.Additive) : Blendable draft x y := by
  induction left generalizing y with
  | bool b => cases right <;> constructor
  | @obj a own entries items ihEntries ihItems =>
    have whole : (Json.obj a).Additive := .obj own entries items
    cases right with
    | bool => exact .objectLeft a _
    | @obj b own' entries' items' =>
      have whole' : (Json.obj b).Additive := .obj own' entries' items'
      refine .objects (whole.blends whole') (fun name listed => .inl (lookup_mergedMembers_left ?_)) ?_
      · refine whole'.lookup_eq_none ?_
        simp only [List.mem_cons, List.not_mem_nil, or_false] at listed
        rcases listed with rfl | rfl <;> decide
      · rintro u v (pair | @⟨keyword, listed, -, single, -, -⟩)
        · cases pair with
          | entry _ found found' inside other =>
            exact ihEntries _ _ (mem_of_lookup found) _ u inside
              (entries' _ _ (mem_of_lookup found') _ v (mem_of_lookup other))
          | member found found' first second =>
            exact ihItems _ (mem_of_lookup found) u (List.mem_of_getElem? first)
              (items' _ (mem_of_lookup found') v (List.mem_of_getElem? second))
        · have unknown : ∀ keyword ∈ uniform, keyword.name ∉ JsonSchema.additive.map Keyword.name := by decide
          have absent := whole.lookup_eq_none (unknown keyword listed)
          rw [single.found] at absent
          cases absent

end Json.Additive
end JsonSchema
