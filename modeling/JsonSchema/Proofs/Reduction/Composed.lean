import JsonSchema.Proofs.Check.Composition
import JsonSchema.Proofs.Check.Dispatch
import JsonSchema.Proofs.Node.Handle
import JsonSchema.Proofs.Reduction.Folded

/-!
# What the validator has checked before reduction

Reduction folds members that the validator has checked too: each composition that occurs in a
compiled fragment belongs to a keyword that is run for the data at hand.
-/

namespace JsonSchema

theorem Draft.mem_keywords {draft : Draft} {keyword : Keyword} : keyword ∈ draft.keywords ↔ draft.knows keyword = true := by
  unfold keywords knows
  rw [List.mem_filter]
  exact ⟨And.right, fun known => ⟨by cases keyword <;> decide, known⟩⟩

/-- Every draft knows the keywords of the oldest one. -/
theorem Draft.knows_of_oldest (draft : Draft) {keyword : Keyword} (oldest : keyword.introducedIn = .draft4) :
    draft.knows keyword = true := by
  rw [knows, oldest]
  cases draft <;> rfl

/-- A keyword of the draft that is present in the schema is one of the fragment. -/
theorem Fragment.mem_keywords {draft : Draft} {f : Fragment} {members : Members} (schema : f.schema = .obj members)
    {keyword : Keyword} (known : draft.knows keyword = true) (present : keyword.isPresent draft members = true) :
    keyword ∈ f.keywords draft := by
  unfold keywords
  rw [schema]
  exact List.mem_filter.mpr ⟨Draft.mem_keywords.mpr known, present⟩

namespace Context

open Fragment

variable {context : Context} {judge : Judge} {source : Origin} {outer : Site} {members : Members} {target : Fragment}
  {data : Json} {pointer : Pointer} {scope : Scope}

/-- The keywords of an object that accepts data find nothing. -/
theorem check_of_accepted (schema : target.schema = .obj members)
    (accepted : context.validateSettled judge target data pointer scope = some []) {keyword : Keyword}
    (known : context.draft.knows keyword = true) (present : keyword.isPresent context.draft members = true) :
    (Visit.mk context judge target data pointer scope).check keyword = some [] := by
  rw [← context.validateByAll_eq] at accepted
  unfold validateByAll at accepted
  simp only [schema] at accepted
  exact gather_eq_nil.mp accepted keyword (Fragment.mem_keywords schema known present)

end Context

namespace Visit

/-- Everything in a fragment that a reduction for the data of a visit can fold has been checked. -/
structure Composed (visit : Visit) : Prop where
  allOf : ∀ member ∈ visit.fragment.members .allOf, visit.validateHere member = some []
  oneOf : visit.fragment.members .oneOf ≠ [] → ∃ selected, visit.selectOneOf = some (.ok selected) ∧
    ∀ member, (visit.fragment.members .oneOf)[selected.index]? = some member → visit.validateHere member = some []
  dependency : ∀ dependency ∈ visit.fragment.dependencies visit.context.draft,
    (visit.data.member? dependency.property).isSome = true → visit.Supplies dependency.demand
  branch : ∀ condition branch, visit.fragment.condition? = some condition →
    (visit.fragment.consequence? = some branch ∨ visit.fragment.alternative? = some branch) →
    ∃ holds, visit.accepts condition = some holds ∧
      ∀ branch, (if holds then visit.fragment.consequence? else visit.fragment.alternative?) = some branch →
        visit.validateHere branch = some []
  required : ∀ own names name, visit.data = .obj own → visit.keyword? "required" = some (.arr names) →
    .str name ∈ names → Members.has own name = true

open Fragment

variable {context : Context} {judge : Judge} {target : Fragment} {data : Json} {pointer : Pointer} {scope : Scope}

/-- A boolean has no composition. -/
private theorem composed_of_bool {source : Origin} {outer : Site} {b : Bool}
    (compiled : Compiled context.draft source outer (.bool b) target) :
    (Visit.mk context judge target data pointer scope).Composed := by
  obtain rfl := compiled_bool.mp compiled
  constructor
  · intro member inside
    cases inside
  · intro some
    exact absurd rfl some
  · intro dependency inside
    obtain ⟨keyword, -, inside⟩ := List.mem_flatMap.mp inside
    cases inside
  · intro condition branch conditional
    cases conditional
  · intro own names name _ required
    cases required

/-- A child in the slot of a conditional stands under its keyword. -/
private theorem present_of_branch {source : Origin} {outer : Site} {members : Members}
    (made : FromObject context.draft source outer members (Compiled context.draft source) target) {slot : Slot}
    {name : String} (branch : Branch slot name) {p : Slot → Bool} (own : ∀ other, p other = true → other = slot)
    {child : Fragment} (taken : target.child? p = some child) :
    context.draft.knows .conditional = true ∧ Members.has members name = true := by
  obtain ⟨entry, first, rfl⟩ := Option.map_eq_some_iff.mp taken
  have inside := List.mem_of_find?_eq_some first
  have picked : p entry.1 = true := by simpa using List.find?_some first
  have there : (slot, entry.2) ∈ target.children := own entry.1 picked ▸ inside
  have filled : ¬ (context.draft.knows .conditional = true → members.lookup name = none) :=
    fun empty => (branch_empty_iff made branch).mpr empty _ there
  obtain ⟨known, found⟩ := Classical.not_imp.mp filled
  exact ⟨known, Option.isSome_iff_ne_none.mpr found⟩

/-- What accepts data has been checked. -/
theorem composed_of_accepted (compiled : target.IsCompiled context.draft)
    (accepted : context.validateSettled judge target data pointer scope = some []) :
    (Visit.mk context judge target data pointer scope).Composed := by
  obtain ⟨source, outer, compiled⟩ := compiled
  rcases compiled.bool_or_obj with ⟨b, schema⟩ | ⟨members, schema⟩
  · rw [schema] at compiled
    exact composed_of_bool compiled
  rw [schema] at compiled
  have made := compiled_obj.mp compiled
  have has {name : String} {value : Json} (found : members.lookup name = some value) : Members.has members name = true := by
    rw [Members.has, found]
    rfl
  have listed {keyword : Keyword} (inside : keyword ∈ [Keyword.allOf, .anyOf, .oneOf])
      (some : target.members keyword ≠ []) : Members.has members keyword.name = true := by
    by_contra absent
    exact some ((members_eq_nil_iff made inside).mpr fun value found => absurd (has found) absent)
  have oldest {keyword : Keyword} := @context.draft.knows_of_oldest keyword
  have checked (keyword : Keyword) :=
    @context.check_of_accepted judge members target data pointer scope schema accepted keyword
  constructor
  · intro member inside
    have found := checked .allOf (oldest rfl) (@listed .allOf (by decide) (List.ne_nil_of_mem inside))
    exact checkAllOf_eq_nil_iff.mp found member inside
  · intro some
    exact exists_selected (checked .oneOf (oldest rfl) (@listed .oneOf (by decide) some))
  · intro dependency inside present
    obtain ⟨keyword, known, inside⟩ := List.mem_flatMap.mp inside
    obtain ⟨depends, known⟩ := List.mem_filter.mp known
    have stands : Members.has members keyword.name = true := by
      by_contra absent
      have none : members.lookup keyword.name = none := Option.not_isSome_iff_eq_none.mp absent
      simp [dependenciesOf, Fragment.keyword?, schema, Json.member?, none] at inside
    refine supplies_of_checkDependencies ?_ inside present
    simp only [dependencyKeywords, List.mem_cons, List.not_mem_nil, or_false] at depends
    rcases depends with rfl | rfl | rfl
    · exact checked .dependencies known stands
    · exact checked .dependentRequired known stands
    · exact checked .dependentSchemas known stands
  · intro condition branch conditional taken
    obtain ⟨known, when'⟩ := present_of_branch made .condition (fun other own => by cases other <;> simp_all) conditional
    have stands : Keyword.conditional.isPresent context.draft members = true := by
      rcases taken with taken | taken
      · obtain ⟨-, then'⟩ := present_of_branch made .consequence (fun other own => by cases other <;> simp_all) taken
        simp [Keyword.isPresent, when', then']
      · obtain ⟨-, else'⟩ := present_of_branch made .alternative (fun other own => by cases other <;> simp_all) taken
        simp [Keyword.isPresent, when', else']
    exact exists_decided (checked .conditional known stands) conditional
  · intro own names name object required inside
    have found : members.lookup "required" = some (.arr names) := by
      simpa [Visit.keyword?, Fragment.keyword?, schema, Json.member?] using required
    have finds := checked .required (oldest rfl) (has found)
    exact present_of_checkRequired object (Option.some.inj finds) required inside

end Visit
end JsonSchema
