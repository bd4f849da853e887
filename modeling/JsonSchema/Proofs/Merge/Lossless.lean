import JsonSchema.Proofs.Json.Distinct
import JsonSchema.Proofs.Merge.Subschemas

/-!
# Merging loses and duplicates nothing

A merged object has the members of both sides in their order, and what only one side has is left as it is.
A list under a common name keeps what both lists give position by position; required names are joined. Equal
values are kept once, where they occur first.
-/

namespace JsonSchema

variable {a b : Members} {x y : Json} {xs ys : List Json} {name : String}

/-! ## Names -/

theorem names_mergeMembers (a b : Members) : (mergeMembers a b).map Prod.fst = a.map Prod.fst := by
  induction a with
  | nil => rfl
  | cons first rest ih => rw [mergeMembers_cons, List.map_cons, List.map_cons, ih]

/-- The names of the left side come first, those that only the right side has after them. -/
theorem names_mergedMembers (a b : Members) : (mergedMembers a b).map Prod.fst =
    a.map Prod.fst ++ (b.map Prod.fst).filter fun name => !Members.has a name := by
  rw [mergedMembers, List.map_append, names_mergeMembers, List.filter_map]
  rfl

theorem nodup_mergedMembers (left : (a.map Prod.fst).Nodup) (right : (b.map Prod.fst).Nodup) :
    ((mergedMembers a b).map Prod.fst).Nodup := by
  rw [names_mergedMembers]
  refine left.append (right.filter _) fun name listed new => ?_
  obtain ⟨entry, inside, rfl⟩ := List.mem_map.mp listed
  have found : a.lookup entry.1 = some entry.2 := lookup_of_nodup left inside
  have absent := (List.mem_filter.mp new).2
  simp [Members.has, found] at absent

/-! ## What holds throughout both sides -/

namespace Json

theorem NamesDiffer.merge (left : x.NamesDiffer) (right : y.NamesDiffer) : (merge x y).NamesDiffer := by
  refine Throughout.mergeUnder (fun items members same => ?_) (fun a b first second members same => ?_) left right none
  · cases same
  · cases same
    exact nodup_mergedMembers (first a rfl) (second b rfl)

theorem Over.merge {numbers : Set Number} (left : x.Over numbers) (right : y.Over numbers) :
    (merge x y).Over numbers := by
  refine Throughout.mergeUnder (fun items n same => ?_) (fun a b first second n same => ?_) left right none
  · cases same
  · cases same

end Json

/-! ## Lists -/

/-- What two lists give at one position: two objects merged, or else the values they have there. -/
def contribution : Option Json → Option Json → List Json
  | some (.obj a), some (.obj b) => [merge (.obj a) (.obj b)]
  | x, y => x.toList ++ y.toList

theorem contribution_some (x y : Json) :
    contribution (some x) (some y) = if bothObjects x y = true then [merge x y] else [x, y] := by
  cases x <;> cases y <;> rfl

/-- Lists are merged position by position. -/
theorem mergeSlots_eq (xs ys : List Json) : mergeSlots xs ys =
    (List.range (max xs.length ys.length)).flatMap fun index => contribution xs[index]? ys[index]? := by
  have single (values : List Json) : values = (List.range values.length).flatMap fun index : Nat => values[index]?.toList := by
    induction values with
    | nil => rfl
    | cons value rest ih =>
      rw [List.length_cons, List.range_succ_eq_map, List.flatMap_cons, List.flatMap_map]
      exact congrArg (value :: ·) ih
  induction xs generalizing ys with
  | nil =>
    rw [List.length_nil, Nat.zero_max]
    exact single ys
  | cons x xs ih =>
    cases ys with
    | nil =>
      rw [List.length_nil, Nat.max_zero]
      refine (single (x :: xs)).trans (List.flatMap_congr fun index _ => ?_)
      cases (x :: xs)[index]? with
      | none => rfl
      | some value => cases value <;> rfl
    | cons y ys =>
      rw [mergeSlots_cons, ih, List.length_cons, List.length_cons, Nat.succ_max_succ, List.range_succ_eq_map,
        List.flatMap_cons, List.flatMap_map, List.getElem?_cons_zero, List.getElem?_cons_zero, contribution_some]
      rfl

/-- The values that two lists give under a name, in their order. -/
def offered (name : String) (xs ys : List Json) : List Json :=
  if name = "required" then xs ++ ys
  else (List.range (max xs.length ys.length)).flatMap fun index => contribution xs[index]? ys[index]?

theorem offered_others (other : name ≠ "required") (xs ys : List Json) : offered name xs ys = mergeSlots xs ys := by
  rw [offered, if_neg other, mergeSlots_eq]

theorem mem_offered {value : Json} (other : name ≠ "required") :
    value ∈ offered name xs ys ↔ ∃ index : Nat, value ∈ contribution xs[index]? ys[index]? := by
  rw [offered, if_neg other, List.mem_flatMap]
  constructor
  · rintro ⟨index, -, given⟩
    exact ⟨index, given⟩
  · rintro ⟨index, given⟩
    refine ⟨index, List.mem_range.mpr ?_, given⟩
    by_contra outside
    rw [Nat.not_lt, max_le_iff] at outside
    rw [List.getElem?_eq_none outside.1, List.getElem?_eq_none outside.2] at given
    cases given

/-- What holds of the elements of both lists and of two of them merged holds of what they give. -/
theorem forall_mem_offered {P : Json → Prop} (each : ∀ value ∈ xs ++ ys, P value)
    (both : ∀ x y, P x → P y → P (merge x y)) : ∀ value ∈ offered name xs ys, P value := by
  by_cases own : name = "required"
  · rwa [offered, if_pos own]
  · rw [offered_others own]
    rw [List.forall_mem_append] at each
    refine forall_mem_mergeSlots each.1 each.2 fun index x y found found' _ => ?_
    exact both x y (each.1 x (List.mem_of_getElem? found)) (each.2 y (List.mem_of_getElem? found'))

theorem lookup_mergedMembers_offered (left : a.lookup name = some (.arr xs)) (right : b.lookup name = some (.arr ys))
    (apart : name ≠ "items") : (mergedMembers a b).lookup name = some (.arr (Json.distinct (offered name xs ys))) := by
  by_cases own : name = "required"
  · subst own
    exact lookup_mergedMembers_required left right
  · rw [offered_others own]
    exact lookup_mergedMembers_arr left right (by simp [own, apart])

/-! ## Objects -/

/-- Merging two objects keeps the names of both in their order and what only one of them has. A list that both have
under a name, but for lists of items, keeps all values that they give, each once and where it occurs first; these
are just the first occurrences if no double among the numbers confuses two integers. -/
theorem merge_is_lossless (named : (Json.obj a).NamesDiffer) (named' : (Json.obj b).NamesDiffer) :
    ∃ merged : Members, merge (.obj a) (.obj b) = .obj merged ∧
      merged.map Prod.fst = a.map Prod.fst ++ ((b.map Prod.fst).filter fun name => !Members.has a name) ∧
      (∀ name, b.has name = false → merged.lookup name = a.lookup name) ∧
      (∀ name, a.has name = false → merged.lookup name = b.lookup name) ∧
      ∀ name xs ys, a.lookup name = some (.arr xs) → b.lookup name = some (.arr ys) → name ≠ "items" →
        ∃ kept, merged.lookup name = some (.arr kept) ∧ Json.Keeps (offered name xs ys) kept ∧
          (name ≠ "required" →
            (∀ index : Nat, ∀ value ∈ contribution xs[index]? ys[index]?, ∃ x ∈ kept, x.equal value = true) ∧
            ∀ x ∈ kept, ∃ index : Nat, x ∈ contribution xs[index]? ys[index]?) ∧
          ∀ numbers : Set Number, Number.Separate numbers → (∀ value ∈ xs ++ ys, value.Over numbers) →
            kept = Json.firsts (offered name xs ys) := by
  refine ⟨mergedMembers a b, merge_obj a b, names_mergedMembers a b, fun name absent => ?_, fun name absent => ?_, ?_⟩
  · exact lookup_mergedMembers_left (by simpa [Members.has] using absent)
  · exact lookup_mergedMembers_right (by simpa [Members.has] using absent)
  · intro name xs ys left right apart
    have each : ∀ value ∈ xs ++ ys, value.NamesDiffer := by
      rw [List.forall_mem_append]
      exact ⟨fun x inside => (named.of_mem_members (mem_of_lookup left)).of_mem_items inside,
        fun y inside => (named'.of_mem_members (mem_of_lookup right)).of_mem_items inside⟩
    have given : ∀ value ∈ offered name xs ys, value.NamesDiffer :=
      forall_mem_offered each fun x y left right => left.merge right
    have keeps := Json.distinct_keeps given
    refine ⟨_, lookup_mergedMembers_offered left right apart, keeps, fun other => ⟨fun index value inside => ?_, ?_⟩, ?_⟩
    · have listed := (mem_offered other).mpr ⟨index, inside⟩
      obtain ⟨x, known, -, same, -⟩ := keeps.covered _ List.prefix_rfl value listed
      exact ⟨x, known, same⟩
    · intro x known
      exact (mem_offered other).mp (keeps.sublist.subset known)
    · intro numbers separate within
      exact Json.distinct_eq_firsts separate given (forall_mem_offered within fun x y left right => left.merge right)

/-- Two objects that share a list of names, a list of schemas and a list of examples. -/
def mergedLeft : Members := [("required", .arr [.str "b", .ofNat 1]), ("title", .str "t"),
  ("allOf", .arr [.obj [("minimum", .ofNat 1)], .bool true]), ("examples", .arr [.ofNat 1, .ofNat 2])]
def mergedRight : Members := [("allOf", .arr [.obj [("maximum", .ofNat 9)]]), ("minimum", .ofNat 0),
  ("required", .arr [Json.realOne, .str "a", .str "b"]), ("examples", .arr [Json.realOne, .ofNat 3])]

theorem merge_of_shared_lists :
    (∃ kept, (mergedMembers mergedLeft mergedRight).lookup "required" = some (.arr kept) ∧
      kept = Json.firsts [.str "b", .ofNat 1, Json.realOne, .str "a", .str "b"]) ∧
    ∃ kept, (mergedMembers mergedLeft mergedRight).lookup "examples" = some (.arr kept) ∧
      kept = Json.firsts [.ofNat 1, Json.realOne, .ofNat 2, .ofNat 3] := by
  have named : (Json.obj mergedLeft).NamesDiffer := by
    simp [Json.NamesDiffer, mergedLeft, Json.ofNat]
  have named' : (Json.obj mergedRight).NamesDiffer := by
    simp [Json.NamesDiffer, mergedRight, Json.ofNat, Json.realOne]
  obtain ⟨merged, same, -, -, -, lists⟩ := merge_is_lossless named named'
  obtain rfl : mergedMembers mergedLeft mergedRight = merged := by simpa using same
  have exact (value : Json) (listed : value ∈ [.str "b", .ofNat 1, Json.realOne, .str "a", .ofNat 2, .ofNat 3]) :
      value.Over {n | n.IsExact} := by
    simp only [List.mem_cons, List.not_mem_nil, or_false] at listed
    rcases listed with rfl | rfl | rfl | rfl | rfl | rfl <;>
      simp [Json.Over, Json.ofNat, Json.realOne, Number.IsExact, Binary64.normal]
  have required := lists "required" _ _ rfl rfl (by decide)
  have examples := lists "examples" _ _ rfl rfl (by decide)
  obtain ⟨kept, found, -, -, firsts⟩ := required
  obtain ⟨kept', found', -, -, firsts'⟩ := examples
  refine ⟨⟨kept, found, firsts _ Number.separate_exact fun value listed => exact value ?_⟩,
    kept', found', firsts' _ Number.separate_exact fun value listed => exact value ?_⟩
  · revert value
    simp
  · revert value
    simp

/-- Under `required` a value may be kept although an equal one stands before it: the double `2 ^ 53` equals the
integer before it and the one after it, which are not equal. -/
theorem merged_required_beside_double :
    merge (.obj [("required", .arr [.ofNat (2 ^ 53), Json.twoPow53])])
        (.obj [("required", .arr [.ofNat (2 ^ 53 + 1)])]) =
      .obj [("required", .arr [.ofNat (2 ^ 53), .ofNat (2 ^ 53 + 1)])] ∧
    Json.firsts ([.ofNat (2 ^ 53), Json.twoPow53] ++ [.ofNat (2 ^ 53 + 1)]) = [.ofNat (2 ^ 53)] :=
  ⟨rfl, rfl⟩

end JsonSchema
