import JsonSchema.Proofs.Reduction.FixedPoint
import JsonSchema.Proofs.Reduction.Kinds
import JsonSchema.Proofs.Reduction.Static
import JsonSchema.Proofs.Reference.Static

/-!
# Reduced fragments have nothing to fold

Reduction for data leaves no reference and no composition. Without data it leaves no reference and no
member of `allOf`. So a second reduction, for the same data or again without, finds nothing to do.
-/

namespace JsonSchema

/-- What stands in a schema that is settled without data: no text of a reference, and no member of `allOf`. -/
def StaticKind (draft : Draft) (name : String) (value : Json) : Prop :=
  (∀ keyword : ReferenceKeyword, draft.hasReference keyword = true → name = keyword.name → value.string? = none) ∧
    (name = "allOf" → value = .arr [])

theorem keptKinds_static (draft : Draft) : KeptKinds (StaticKind draft) where
  merged name x y left right := by
    refine ⟨fun keyword known same => string?_mergeUnder (left.1 keyword known same) (right.1 keyword known same), ?_⟩
    rintro rfl
    rw [left.2 rfl, right.2 rfl]
    rfl
  rebased base own name x kind := by
    refine ⟨fun keyword known same => ?_, ?_⟩
    · have none := kind.1 keyword known same
      rcases Json.rebasedMember_cases base own name x with ⟨text, text', rfl, -⟩ | ⟨-, same | same⟩
      · cases none
      · rwa [same]
      · rw [same, string?_rebase, none]
    · rintro rfl
      rw [kind.2 rfl]
      rfl

/-- A compiled fragment is settled without data exactly if nothing else stands in its schema. -/
theorem Fragment.IsCompiled.settledFor_none_iff {draft : Draft} {f : Fragment} (compiled : f.IsCompiled draft) :
    f.SettledFor draft none ↔ f.schema.OfKinds (StaticKind draft) := by
  obtain ⟨source, outer, compiled⟩ := compiled
  rw [SettledFor, reference?_eq_none_iff, Context.hasWork_of_unknown rfl, Bool.not_eq_false', List.isEmpty_iff]
  rcases compiled.bool_or_obj with ⟨b, same⟩ | ⟨members, same⟩
  · rw [same] at compiled
    rw [compiled_bool.mp compiled]
    exact ⟨fun _ => Json.ofKinds_bool b, fun _ => ⟨fun _ _ => rfl, rfl⟩⟩
  · rw [same] at compiled
    rw [same, members_eq_nil_iff (compiled_obj.mp compiled) (by decide)]
    constructor
    · rintro ⟨none, memberless⟩
      refine ⟨.inr ⟨members, rfl⟩, fun name value found => ⟨fun keyword known own => ?_, fun own => ?_⟩⟩
      · have text := none keyword known
        rwa [Json.stringMember?, ← own, found] at text
      · subst own
        exact memberless value found
    · rintro ⟨-, kinds⟩
      refine ⟨fun keyword known => ?_, fun value found => (kinds _ value found).2 rfl⟩
      cases found : (Json.obj members).member? keyword.name with
      | none => rw [Json.stringMember?, found]; rfl
      | some value =>
        rw [Json.stringMember?, found]
        exact (kinds _ value found).1 keyword known rfl

namespace Context

variable {context : Context} {fragment : Fragment} {scope : Scope} {task : Reduction}

/-- All that a reduction without data gathers is settled without data. -/
theorem gathering_static (known : context.index.WellCompiled context.draft) (unknown : task.data = none)
    (compiled : fragment.IsCompiled context.draft) (entered : scope.IsCompiled context.draft) :
    context.Gathering task fragment scope (Json.OfKinds (StaticKind context.draft)) where
  own target gathered := by
    have found := gathered.isCompiled known compiled entered
    obtain ⟨-, inside⟩ := gathered
    have unreferring := (chain_of_inside? inside).settled
    unfold Reduction.ownPart
    split
    · rw [Fragment.reference?_eq_none_iff] at unreferring
      rcases isSchema_of_compiled found with ⟨b, same⟩ | ⟨members, same⟩
      · rw [same]
        exact Json.ofKinds_bool b
      · rw [same] at unreferring
        rw [same, staticPart_of_unknown unknown]
        refine ⟨.inr ⟨_, rfl⟩, fun name value here => ?_⟩
        rw [Json.member?, lookup_without] at here
        split at here
        · cases here
        · rename_i kept
          refine ⟨fun keyword known own => ?_, fun own => absurd (beq_iff_eq.mpr own) kept⟩
          have text := unreferring keyword known
          rwa [Json.stringMember?, Json.member?, ← own, here] at text
    · rename_i idle
      refine found.settledFor_none_iff.mp ⟨unreferring, ?_⟩
      rw [hasWork_of_unknown unknown] at idle
      rw [hasWork_of_unknown rfl]
      exact Bool.eq_false_iff.mpr idle
  names given := by
    rw [unknown] at given
    cases given

/-- A reduction leaves nothing to a second one for the same data. -/
theorem settled_of_reduce (known : context.index.WellCompiled context.draft) (compiled : fragment.IsCompiled context.draft)
    (entered : scope.IsCompiled context.draft) {depth : Nat} {reduced : Reduced}
    (answer : (context.judge depth).reduce task fragment scope = some (.ok reduced)) :
    reduced.fragment.SettledFor context.draft task.data := by
  cases given : task.data with
  | some data =>
    exact (rests_of_reduce known (by rw [given]; rfl) compiled entered answer).settledFor (some data)
  | none =>
    have folded := (gathering_static known given compiled entered).reduced (keptKinds_static _).stable known compiled
      entered answer
    exact (isCompiled_of_reduce known compiled entered answer).1.settledFor_none_iff.mpr folded

end Context
end JsonSchema
