import JsonSchema.Proofs.Json.Equivalence

/-!
# Distinct values

Where equal values are dropped, a value stays unless an equal one was kept before it. As equality is not
transitive, a value may stay although an equal one stands before it, if that one was dropped itself. Over
numbers that no double confuses just the first occurrences stay.
-/

namespace JsonSchema.Json

variable {values kept : List Json} {value : Json}

theorem distinct_concat (values : List Json) (value : Json) : distinct (values ++ [value]) =
    if (distinct values).any (·.equal value) then distinct values else distinct values ++ [value] := by
  rw [distinct, List.foldl_append]
  rfl

/-! ## First occurrences -/

/-- The values that no value before them equals. -/
def firsts (values : List Json) : List Json :=
  values.zipIdx.filterMap fun entry => if (values.take entry.2).any (·.equal entry.1) then none else some entry.1

theorem firsts_concat (values : List Json) (value : Json) :
    firsts (values ++ [value]) = firsts values ++ if values.any (·.equal value) then [] else [value] := by
  rw [firsts, List.zipIdx_append, List.filterMap_append]
  congr 1
  · refine List.filterMap_congr fun entry inside => ?_
    have below : entry.2 ≤ values.length := by
      have bound := (List.mem_zipIdx inside).2.1
      omega
    rw [List.take_append_of_le_length below]
  · simp only [List.zipIdx_cons, List.zipIdx_nil, Nat.zero_add, List.filterMap_cons, List.filterMap_nil]
    rw [List.take_append_of_le_length le_rfl, List.take_length]
    cases values.any (·.equal value) <;> rfl

/-! ## What is kept -/

/-- A list keeps the values of another one up to equality, each where it occurs first. -/
structure Keeps (values kept : List Json) : Prop where
  /-- No value is added, none is moved. -/
  sublist : kept.Sublist values
  /-- No two values that are kept are equal. -/
  distinct : kept.Pairwise fun x y => x.equal y = false ∧ y.equal x = false
  /-- For every value an equal one is kept that stands no later. -/
  covered : ∀ before, before <+: values → ∀ value ∈ before,
    ∃ x ∈ kept, x ∈ before ∧ x.equal value = true ∧ value.equal x = true
  /-- A value that equals none before it is kept. -/
  firsts : (firsts values).Sublist kept

namespace Keeps

/-- A value is dropped if an equal one was kept. -/
theorem drop (keeps : Keeps values kept) {x : Json} (known : x ∈ kept) (same : x.equal value = true)
    (same' : value.equal x = true) : Keeps (values ++ [value]) kept where
  sublist := keeps.sublist.trans (List.sublist_append_left values [value])
  distinct := keeps.distinct
  covered before early v inside := by
    rcases List.prefix_concat_iff.mp early with rfl | early
    · rcases List.mem_append.mp inside with old | new
      · obtain ⟨y, known, listed, equal⟩ := keeps.covered values List.prefix_rfl v old
        exact ⟨y, known, List.mem_append_left _ listed, equal⟩
      · rw [List.mem_singleton.mp new]
        exact ⟨x, known, List.mem_append_left _ (keeps.sublist.subset known), same, same'⟩
    · exact keeps.covered before early v inside
  firsts := by
    have repeated : values.any (·.equal value) = true :=
      List.any_eq_true.mpr ⟨x, keeps.sublist.subset known, same⟩
    rw [firsts_concat, if_pos repeated, List.append_nil]
    exact keeps.firsts

/-- A value is kept if it equals none that was kept. -/
theorem keep (keeps : Keeps values kept) (named : value.NamesDiffer)
    (new : ∀ x ∈ kept, x.equal value = false ∧ value.equal x = false) :
    Keeps (values ++ [value]) (kept ++ [value]) where
  sublist := keeps.sublist.append (List.Sublist.refl _)
  distinct := by
    refine List.pairwise_append.mpr ⟨keeps.distinct, List.pairwise_singleton _ _, fun x known y own => ?_⟩
    rw [List.mem_singleton.mp own]
    exact new x known
  covered before early v inside := by
    have earlier {before : List Json} (early : before <+: values) (inside : v ∈ before) :
        ∃ x ∈ kept ++ [value], x ∈ before ∧ x.equal v = true ∧ v.equal x = true := by
      obtain ⟨y, known, listed⟩ := keeps.covered before early v inside
      exact ⟨y, List.mem_append_left _ known, listed⟩
    rcases List.prefix_concat_iff.mp early with rfl | early
    · rcases List.mem_append.mp inside with old | own
      · obtain ⟨y, known, listed, equal⟩ := earlier List.prefix_rfl old
        exact ⟨y, known, List.mem_append_left _ listed, equal⟩
      · rw [List.mem_singleton.mp own]
        exact ⟨value, by simp, by simp, equal_refl named, equal_refl named⟩
    · exact earlier early inside
  firsts := by
    rw [firsts_concat]
    refine keeps.firsts.append ?_
    split
    · exact List.nil_sublist _
    · exact List.Sublist.refl _

end Keeps

/-- What is distinct among values keeps all of them. -/
theorem distinct_keeps (named : ∀ value ∈ values, value.NamesDiffer) : Keeps values (distinct values) := by
  induction values using List.reverseRecOn with
  | nil =>
    refine ⟨List.Sublist.refl _, .nil, fun before early v inside => ?_, List.Sublist.refl _⟩
    rw [List.prefix_nil.mp early] at inside
    cases inside
  | append_singleton values value ih =>
    rw [List.forall_mem_append, List.forall_mem_singleton] at named
    have keeps := ih named.1
    have symm {x : Json} (known : x ∈ distinct values) : x.equal value = value.equal x := by
      have named' := named.1 x (keeps.sublist.subset known)
      exact Bool.eq_iff_iff.mpr ⟨equal_symm named' named.2, equal_symm named.2 named'⟩
    rw [distinct_concat]
    split
    · rename_i repeated
      obtain ⟨x, known, same⟩ := List.any_eq_true.mp repeated
      exact keeps.drop known same (symm known ▸ same)
    · rename_i new
      rw [Bool.not_eq_true, List.any_eq_false] at new
      refine keeps.keep named.2 fun x known => ?_
      have other : x.equal value = false := Bool.eq_false_iff.mpr (new x known)
      exact ⟨other, symm known ▸ other⟩

/-- Over numbers that no double confuses the distinct values are the first occurrences. -/
theorem distinct_eq_firsts {numbers : Set Number} (separate : Number.Separate numbers)
    (named : ∀ value ∈ values, value.NamesDiffer) (within : ∀ value ∈ values, value.Over numbers) :
    distinct values = firsts values := by
  induction values using List.reverseRecOn with
  | nil => rfl
  | append_singleton values value ih =>
    rw [List.forall_mem_append, List.forall_mem_singleton] at named within
    have keeps := distinct_keeps named.1
    have repeated : (distinct values).any (·.equal value) = values.any (·.equal value) := by
      rw [Bool.eq_iff_iff, List.any_eq_true, List.any_eq_true]
      constructor
      · rintro ⟨x, known, same⟩
        exact ⟨x, keeps.sublist.subset known, same⟩
      · rintro ⟨x, listed, same⟩
        obtain ⟨y, known, listed', same', -⟩ := keeps.covered values List.prefix_rfl x listed
        exact ⟨y, known, equal_trans separate (within.1 y listed') (within.1 x listed) within.2 same' same⟩
    rw [distinct_concat, firsts_concat, repeated, ih named.1 within.1]
    split <;> simp

end JsonSchema.Json
