import JsonSchema.Check.Reduction
import JsonSchema.Proofs.Merge.Members
import JsonSchema.Proofs.Reference.Rebase

/-!
# Required names

A dependency applies if its property is present or listed under `required`. Folding lists no names
but those that one of the merged schemas lists.
-/

namespace JsonSchema

/-- A schema lists a name under `required`. -/
def Json.Requires (schema : Json) (name : String) : Prop :=
  ∃ names, schema.member? "required" = some (.arr names) ∧ .str name ∈ names

theorem Reduction.isTriggered_iff {data accumulated : Json} {name : String} :
    isTriggered data accumulated name = true ↔ (data.member? name).isSome = true ∨ accumulated.Requires name := by
  have listed (names : List Json) :
      (names.any fun required => required.string? == some name) = true ↔ .str name ∈ names := by
    rw [List.any_eq_true]
    constructor
    · rintro ⟨value, inside, same⟩
      cases value with
      | str text =>
        obtain rfl : text = name := by simpa [Json.string?] using same
        exact inside
      | _ => cases same
    · exact fun inside => ⟨_, inside, by simp [Json.string?]⟩
  unfold isTriggered Json.Requires
  rw [Bool.or_eq_true]
  cases accumulated.member? "required" with
  | none => simp
  | some value =>
    cases value with
    | arr names => simp [Json.items?, listed]
    | _ => simp [Json.items?]

namespace Json.Requires

variable {a b schema : Json} {name : String}

theorem of_obj {members other : Members} (same : members.lookup "required" = other.lookup "required")
    (requires : (Json.obj members).Requires name) : (Json.obj other).Requires name := by
  obtain ⟨names, found, inside⟩ := requires
  exact ⟨names, same.symm.trans found, inside⟩

/-- A merged list of required names has the names of both lists. -/
private theorem str_mem_of_mergeUnder {x y : Json} {names : List Json}
    (same : mergeUnder (some "required") x y = .arr names) (inside : .str name ∈ names) :
    (∃ xs, x = .arr xs ∧ .str name ∈ xs) ∨ ∃ ys, y = .arr ys ∧ .str name ∈ ys := by
  rcases mergeUnder_cases (some "required") x y with ⟨_, _, rfl, rfl⟩ | ⟨xs, ys, rfl, rfl⟩ | left | right
  · rw [mergeUnder] at same
    cases same
  · rw [mergeUnder] at same
    cases same
    rcases List.mem_append.mp (str_mem_distinct.mp inside) with first | second
    · exact .inl ⟨xs, rfl, first⟩
    · exact .inr ⟨ys, rfl, second⟩
  · exact .inl ⟨names, left.symm.trans same, inside⟩
  · exact .inr ⟨names, right.symm.trans same, inside⟩

/-- A merged schema requires what one of the two requires. -/
theorem of_merge (requires : (merge a b).Requires name) : a.Requires name ∨ b.Requires name := by
  rcases mergeUnder_cases none a b with ⟨left, right, rfl, rfl⟩ | ⟨left, right, rfl, rfl⟩ | same | same
  · rw [merge_obj] at requires
    cases first : left.lookup "required" with
    | none => exact .inr (requires.of_obj (lookup_mergedMembers_right first))
    | some x =>
      cases second : right.lookup "required" with
      | none => exact .inl (requires.of_obj (lookup_mergedMembers_left second))
      | some y =>
        obtain ⟨names, found, inside⟩ := requires
        rw [Json.member?, lookup_mergedMembers, first, second] at found
        rcases str_mem_of_mergeUnder (Option.some.inj found) inside with ⟨xs, rfl, own⟩ | ⟨ys, rfl, own⟩
        · exact .inl ⟨xs, first, own⟩
        · exact .inr ⟨ys, second, own⟩
  · obtain ⟨names, found, -⟩ := requires
    simp [merge, mergeUnder, Json.member?] at found
  · rw [merge, same] at requires
    exact .inl requires
  · rw [merge, same] at requires
    exact .inr requires

/-- Rebasing leaves the names. -/
theorem of_rebase {base : Uri} (requires : (rebase base schema).Requires name) : schema.Requires name := by
  cases schema with
  | obj members =>
    obtain ⟨names, found, inside⟩ := requires
    rw [rebase, Json.member?, lookup_rebaseMembers] at found
    obtain ⟨value, own, same⟩ := Option.map_eq_some_iff.mp found
    cases value with
    | arr items =>
      rw [rebasedMember_of_not_str (by simp), if_neg (by decide), rebase, rebaseItems_eq] at same
      cases same
      obtain ⟨item, listed, same⟩ := List.mem_map.mp inside
      refine ⟨items, own, ?_⟩
      cases item with
      | str text =>
        cases same
        exact listed
      | _ => cases same
    | _ => cases same
  | arr items =>
    obtain ⟨names, found, -⟩ := requires
    cases found
  | _ => exact requires

/-- The static part requires the same. -/
theorem of_staticPart {task : Reduction} (requires : (task.staticPart schema).Requires name) : schema.Requires name := by
  cases schema with
  | obj members =>
    refine requires.of_obj ?_
    rw [lookup_without, if_neg]
    unfold Reduction.isDynamic dynamicKeywords
    split <;> simp
  | _ => exact requires

theorem of_names {names : List String} (requires : (Json.obj [("required", .ofStrings names)]).Requires name) :
    name ∈ names := by
  obtain ⟨listed, found, inside⟩ := requires
  cases found
  simpa using inside

end Json.Requires
end JsonSchema
