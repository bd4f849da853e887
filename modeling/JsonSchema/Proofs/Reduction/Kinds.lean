import JsonSchema.Proofs.Merge.Members
import JsonSchema.Proofs.Reduction.Gathered
import JsonSchema.Proofs.Reference.Rebase

/-!
# Values of their kinds

Where all that stands under a keyword is of the kind that belongs to the keyword, and merging and making references
absolute keep the kind, the reduced schema and all that is merged on the way have nothing else under it.
-/

namespace JsonSchema

variable {kinds : String → Json → Prop}

/-- A boolean, or an object in which all that stands under a keyword is of its kind. -/
def Json.OfKinds (kinds : String → Json → Prop) (schema : Json) : Prop :=
  schema.IsSchema ∧ ∀ name value, schema.member? name = some value → kinds name value

/-- What is merged or made absolute is of the same kind. -/
structure KeptKinds (kinds : String → Json → Prop) : Prop where
  merged : ∀ name x y, kinds name x → kinds name y → kinds name (mergeUnder (some name) x y)
  rebased : ∀ base own name x, kinds name x → kinds name (rebasedMember base own name x)

theorem Json.ofKinds_bool (b : Bool) : (Json.bool b).OfKinds kinds :=
  ⟨.inl ⟨b, rfl⟩, fun name value found => by cases found⟩

theorem Json.ofKinds_empty : Json.empty.OfKinds kinds := ⟨.inr ⟨[], rfl⟩, fun name value found => by cases found⟩

theorem Json.OfKinds.without {members : Members} {dropped : String → Bool} (own : (Json.obj members).OfKinds kinds) :
    (Json.obj (members.without dropped)).OfKinds kinds := by
  refine ⟨.inr ⟨_, rfl⟩, fun name value found => own.2 name value ?_⟩
  rw [Json.member?, lookup_without] at found
  split at found
  · cases found
  · exact found

theorem KeptKinds.stable (kept : KeptKinds kinds) : Context.Stable (Json.OfKinds kinds) where
  merged a b left right := by
    obtain ⟨⟨x, rfl⟩ | ⟨first, rfl⟩, own⟩ := id left
    · obtain ⟨⟨y, rfl⟩ | ⟨second, rfl⟩, -⟩ := right <;> exact Json.ofKinds_bool _
    · obtain ⟨⟨y, rfl⟩ | ⟨second, rfl⟩, own'⟩ := right
      · exact left
      · refine ⟨.inr ⟨_, merge_obj first second⟩, fun name value found => ?_⟩
        rw [merge_obj, Json.member?, lookup_mergedMembers] at found
        cases here : first.lookup name with
        | none =>
          rw [here] at found
          exact own' name value found
        | some x =>
          cases there : second.lookup name with
          | none =>
            rw [here, there] at found
            exact own name value (here.trans found)
          | some y =>
            rw [here, there] at found
            exact Option.some.inj found ▸ kept.merged name x y (own name x here) (own' name y there)
  rebased base schema own := by
    obtain ⟨⟨b, rfl⟩ | ⟨members, rfl⟩, own⟩ := own
    · exact Json.ofKinds_bool b
    · refine ⟨.inr ⟨_, rfl⟩, fun name value found => ?_⟩
      rw [rebase, Json.member?, lookup_rebaseMembers, Option.map_eq_some_iff] at found
      obtain ⟨x, here, rfl⟩ := found
      exact kept.rebased _ _ name x (own name x here)

namespace Context

variable {context : Context} {task : Reduction} {fragment target : Fragment} {scope : Scope}

theorem ofKinds_ownPart (own : target.schema.OfKinds kinds) : (task.ownPart context.draft target).OfKinds kinds := by
  unfold Reduction.ownPart
  split
  · obtain ⟨⟨b, same⟩ | ⟨members, same⟩, -⟩ := id own
    · rw [same]
      exact Json.ofKinds_bool b
    · rw [same] at own ⊢
      exact own.without
  · exact own

theorem ofKinds_siblings (own : fragment.schema.OfKinds kinds) : (siblings fragment.schema).OfKinds kinds := by
  unfold siblings
  split
  · rename_i members same
    rw [same] at own
    exact own.without
  · exact Json.ofKinds_empty

theorem ofKinds_mergeTarget (kept : KeptKinds kinds) (own : fragment.schema.OfKinds kinds) :
    (mergeTarget fragment).OfKinds kinds := by
  unfold mergeTarget
  split
  · exact Json.ofKinds_empty
  · exact kept.stable.rebased _ _ own

/-- Lists of names that are required have to be of their kind too. -/
theorem gathering_ofKinds
    (own : ∀ target, context.Gathered task fragment scope target → (task.ownPart context.draft target).OfKinds kinds)
    (names : ∀ names : List String, kinds "required" (.ofStrings names)) :
    context.Gathering task fragment scope (Json.OfKinds kinds) where
  own
  names _ required := by
    refine ⟨.inr ⟨_, rfl⟩, fun name value found => ?_⟩
    rw [Json.member?, List.lookup_cons] at found
    split at found
    · rename_i same
      cases found
      exact beq_iff_eq.mp same ▸ names required
    · cases found

end Context
end JsonSchema
