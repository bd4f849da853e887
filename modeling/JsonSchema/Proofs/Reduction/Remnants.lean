import JsonSchema.Proofs.Reduction.FixedPoint
import JsonSchema.Proofs.Reduction.Kinds

/-!
# Composition that is left

Reduction for data takes the keywords of composition out of every fragment that has something to fold. From a
fragment that has nothing to fold nothing is taken out: an empty list of members or map of dependencies stays
there, and so does what the draft does not define. These are all the keywords of composition that a reduced
fragment has.
-/

namespace JsonSchema

/-- What may be left under a keyword of composition: an empty list or map, or something that the draft does
not define. -/
inductive Remnant (draft : Draft) : String → Json → Prop where
  | members {keyword : Keyword} (listed : keyword ∈ [Keyword.allOf, .anyOf, .oneOf]) : Remnant draft keyword.name (.arr [])
  | dependencies {keyword : Keyword} (listed : keyword ∈ Fragment.dependencyKeywords) :
      Remnant draft keyword.name (.obj [])
  | unknownDependencies {keyword : Keyword} (listed : keyword ∈ Fragment.dependencyKeywords)
      (unknown : draft.knows keyword = false) (value : Json) : Remnant draft keyword.name value
  | unknownConditional {name : String} (listed : name ∈ ["if", "then", "else"])
      (unknown : draft.knows .conditional = false) (value : Json) : Remnant draft name value

/-- A keyword of composition lists members, maps properties to what depends on them, or belongs to a conditional. -/
theorem composition_cases {name : String} (dynamic : name ∈ dynamicKeywords) :
    (∃ keyword ∈ [Keyword.allOf, .anyOf, .oneOf], keyword.name = name) ∨
      (∃ keyword ∈ Fragment.dependencyKeywords, keyword.name = name) ∨ name ∈ ["if", "then", "else"] := by
  simp only [dynamicKeywords, List.mem_cons, List.not_mem_nil, or_false] at dynamic
  rcases dynamic with rfl | rfl | rfl | rfl | rfl | rfl | rfl | rfl | rfl <;> decide

/-- In a folded object a keyword of composition has a remnant only. -/
theorem Members.Folded.remnant {draft : Draft} {members : Members} (folded : members.Folded draft) {name : String}
    (dynamic : name ∈ dynamicKeywords) {value : Json} (found : members.lookup name = some value) :
    Remnant draft name value := by
  rcases composition_cases dynamic with ⟨keyword, listed, rfl⟩ | ⟨keyword, listed, rfl⟩ | listed
  · obtain rfl := folded.memberless keyword listed value found
    exact .members listed
  · cases known : draft.knows keyword with
    | true =>
      obtain rfl := folded.independent keyword listed known value found
      exact .dependencies listed
    | false => exact .unknownDependencies listed known value
  · cases known : draft.knows .conditional with
    | true =>
      rw [folded.unconditional known name listed] at found
      cases found
    | false => exact .unknownConditional listed known value

/-! ## Where remnants come from -/

/-- A schema has something under a keyword. -/
def Json.Has (name : String) (schema : Json) : Prop := (schema.member? name).isSome = true

theorem has_rebase_iff {name : String} {base : Uri} {members : Members} :
    (rebase base (.obj members)).Has name ↔ (Json.obj members).Has name := by
  simp only [Json.Has, rebase, Json.member?, lookup_rebaseMembers, Option.isSome_map]

theorem has_mergedMembers_iff {name : String} {a b : Members} :
    (Json.obj (mergedMembers a b)).Has name ↔ (Json.obj a).Has name ∨ (Json.obj b).Has name := by
  change (mergedMembers a b).has name = true ↔ a.has name = true ∨ b.has name = true
  rw [has_mergedMembers, Bool.or_eq_true]

/-- To lack a keyword is kept by all merges. -/
theorem keptKinds_lacks (name : String) : KeptKinds fun own _ => own ≠ name := ⟨fun _ _ _ left _ => left, fun _ _ _ _ own => own⟩

theorem Json.ofKinds_lacks_iff {name : String} {schema : Json} :
    schema.OfKinds (fun own _ => own ≠ name) ↔ schema.IsSchema ∧ ¬ schema.Has name := by
  refine and_congr_right fun _ => ⟨fun own has => ?_, fun lacks other value found same => lacks ?_⟩
  · obtain ⟨value, found⟩ := Option.isSome_iff_exists.mp has
    exact own name value found rfl
  · rw [Has, ← same, found]
    rfl

/-- What a schema has, its merges have. -/
theorem lasting_has {R : Json → Json → Prop} (name : String) : Context.Lasting R (Json.Has name) where
  left members b schema _ has := by
    rcases schema with ⟨y, rfl⟩ | ⟨other, rfl⟩
    · exact has
    · rw [merge_obj, has_mergedMembers_iff]
      exact .inl has
  right members b schema _ has := by
    rcases schema with ⟨y, rfl⟩ | ⟨other, rfl⟩
    · cases has
    · rw [merge_obj, has_mergedMembers_iff]
      exact .inr has
  rebased base schema has := by
    cases schema with
    | obj members => rwa [has_rebase_iff]
    | _ => cases has

namespace Context

variable {context : Context} {task : Reduction} {fragment target : Fragment} {scope : Scope}

/-- Beside its composition a fragment has no keyword of composition. -/
theorem not_has_staticPart {name : String} (given : task.data.isSome = true) (dynamic : name ∈ dynamicKeywords)
    (schema : Json) : ¬ (task.staticPart schema).Has name := by
  cases schema with
  | obj members =>
    simp [Json.Has, Reduction.staticPart, Json.member?, lookup_without, Reduction.isDynamic, given, dynamic]
  | _ => simp [Json.Has, Reduction.staticPart, Json.member?]

/-- A keyword of composition is left in the reduced schema exactly if it stands in a fragment with nothing to fold. -/
theorem reduced_has_iff (known : context.index.WellCompiled context.draft) (compiled : fragment.IsCompiled context.draft)
    (entered : scope.IsCompiled context.draft) (given : task.data.isSome = true) {depth : Nat} {reduced : Reduced}
    (answer : (context.judge depth).reduce task fragment scope = some (.ok reduced)) {name : String}
    (dynamic : name ∈ dynamicKeywords) : reduced.fragment.schema.Has name ↔ ∃ target,
      context.Gathered task fragment scope target ∧ target.reducers context.draft = [] ∧ target.schema.Has name := by
  have idle_iff (target : Fragment) : task.hasWork context.draft target = false ↔ target.reducers context.draft = [] := by
    simp [Reduction.hasWork, given]
  have all (target : Fragment) (gathered : context.Gathered task fragment scope target) :
      (task.ownPart context.draft target).OfKinds fun _ _ => True :=
    ofKinds_ownPart ⟨isSchema_of_compiled (gathered.isCompiled known compiled entered), fun _ _ _ => trivial⟩
  constructor
  · intro has
    by_contra none
    have gathering : context.Gathering task fragment scope (Json.OfKinds fun own _ => own ≠ name) := by
      refine gathering_ofKinds (fun target gathered => Json.ofKinds_lacks_iff.mpr ⟨?_, fun own => ?_⟩) fun _ same => ?_
      · exact (all target gathered).1
      · unfold Reduction.ownPart at own
        split at own
        · exact not_has_staticPart given dynamic _ own
        · rename_i idle
          exact none ⟨target, gathered, (idle_iff target).mp (by simpa using idle), own⟩
      · subst same
        revert dynamic
        decide
    exact (Json.ofKinds_lacks_iff.mp (gathering.reduced (keptKinds_lacks name).stable known compiled entered answer)).2 has
  · rintro ⟨target, gathered, idle, has⟩
    refine reduced_has known (lasting_has name)
      ((gathering_ofKinds all fun _ => trivial).unites known (KeptKinds.stable ⟨fun _ _ _ _ _ => trivial, fun _ _ _ _ _ => trivial⟩)
        compiled entered) compiled entered gathered ?_
      (Judge.answer_reduction.mp ((limit_answer_eq_some context).mpr ⟨depth, Judge.answer_reduction.mpr answer⟩))
    rwa [Reduction.ownPart, (idle_iff target).mpr idle, if_neg Bool.false_ne_true]

end Context

/-- What a handle is reduced to for data has a keyword of composition exactly if a fragment that is folded for them
has it and has nothing to fold; and it has a remnant there. -/
theorem composition_of_reduced {compiler : Compiler} {schema data : Json} {node reduced : Node}
    (handle : node.IsHandle compiler schema) (answer : node.reduce data = some (.ok reduced)) {name : String}
    (dynamic : name ∈ dynamicKeywords) :
    (reduced.fragment.schema.Has name ↔ ∃ target,
      node.context.Gathered ⟨some data, .root, []⟩ node.fragment node.scope target ∧
        target.reducers node.context.draft = [] ∧ target.schema.Has name) ∧
      ∀ value, reduced.fragment.schema.member? name = some value → Remnant node.context.draft name value := by
  obtain ⟨result, reduces, rfl⟩ := Node.settle_eq_ok answer
  have sound := handle.sound
  refine ⟨Context.reduced_has_iff sound.index sound.fragment sound.scope rfl reduces dynamic, fun value found => ?_⟩
  have rests := Context.rests_of_reduce sound.index rfl sound.fragment sound.scope reduces
  have compiled := (Context.isCompiled_of_reduce sound.index sound.fragment sound.scope reduces).1
  rcases compiled.rests_iff.mp rests with ⟨b, same⟩ | ⟨members, same, folded⟩
  · change result.fragment.schema.member? name = some value at found
    rw [same] at found
    cases found
  · change result.fragment.schema.member? name = some value at found
    rw [same] at found
    exact folded.remnant dynamic found

/-- An empty list of members inside another list of members. -/
def emptyMember : Json := .obj [("allOf", .arr [.obj [("allOf", .arr [])]])]

/-- The empty list of the inner member stays in what the schema is reduced to. -/
theorem emptyMember_reduces : ∃ root reduced, Compiler.standard.compile emptyMember = .ok root ∧
    root.reduce (.ofNat 1) = some (.ok reduced) ∧ reduced.fragment.schema.Has "allOf" := by
  have computed : ((rootAndReduced? emptyMember (.ofNat 1)).bind fun found => found.2.fragment.schema.member? "allOf").isSome =
      true := by decide +kernel
  obtain ⟨remnant, known⟩ := Option.isSome_iff_exists.mp computed
  simp only [rootAndReduced?, Option.bind_eq_bind, Option.bind_eq_some_iff] at known
  obtain ⟨_, ⟨root, compiled, answer, reduces, reduced, answered, same⟩, found⟩ := known
  cases same
  exact ⟨root, reduced, ok_of_toOption compiled, ok_of_toOption answered ▸ reduces, by rw [Json.Has, found]; rfl⟩

/-- It comes from a member with nothing to fold. -/
theorem emptyMember_composition_of_reduced : ∃ root reduced, Compiler.standard.compile emptyMember = .ok root ∧
    root.reduce (.ofNat 1) = some (.ok reduced) ∧ ∃ target,
      root.context.Gathered ⟨some (.ofNat 1), .root, []⟩ root.fragment root.scope target ∧
        target.reducers root.context.draft = [] ∧ target.schema.Has "allOf" := by
  obtain ⟨root, reduced, compiled, reduces, has⟩ := emptyMember_reduces
  obtain ⟨left, -⟩ := composition_of_reduced ⟨root, compiled, .refl⟩ reduces (show "allOf" ∈ dynamicKeywords by decide)
  exact ⟨root, reduced, compiled, reduces, left.mp has⟩

/-- A schema that was reduced for data can have a keyword of composition. -/
theorem reduced_has_composition : ∃ root reduced, Compiler.standard.compile emptyMember = .ok root ∧
    root.reduce (.ofNat 1) = some (.ok reduced) ∧ ¬ ∀ name ∈ dynamicKeywords, reduced.fragment.schema.member? name = none := by
  obtain ⟨root, reduced, compiled, reduces, has⟩ := emptyMember_reduces
  refine ⟨root, reduced, compiled, reduces, fun none => ?_⟩
  rw [Json.Has, none "allOf" (by decide)] at has
  cases has

end JsonSchema
