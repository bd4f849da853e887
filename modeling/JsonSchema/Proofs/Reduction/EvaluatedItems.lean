import JsonSchema.Proofs.Compilation.Separation
import JsonSchema.Proofs.Direct.Subschemas
import JsonSchema.Proofs.Reduction.EvaluatedProperties

/-!
# Items that are evaluated

What `unevaluatedItems` is asked of is told by the reduced fragment: all items past its tuple, unless it has a schema
for the rest. Tuples under `items` are merged position by position. Those under `prefixItems` are merged as any other
list, which keeps equal values once, so that a merge can be shorter than the lists it is made of; and an array displaces
a schema for all items. As long as neither happens, the keyword reports no item that a fragment evaluates to which the
reduction comes.
-/

namespace JsonSchema

/-! ## Items that a schema reaches -/

/-- The keywords under which a tuple can stand. -/
def Draft.tupleNames (draft : Draft) : List String := if draft.hasPrefixItems then ["prefixItems", "items"] else ["items"]

/-- A position is one of the tuple, or there is a schema for the rest or for all items. -/
def Members.Reaches (draft : Draft) (index : Nat) (members : Members) : Prop :=
  ∃ value, members.lookup (tupleName draft members) = some value ∧
    ∀ items, value = .arr items → index < items.length ∨ members.has (restName draft members) = true

/-- A schema evaluates the item of arrays at a position. -/
def Json.Reaches (draft : Draft) (index : Nat) (schema : Json) : Prop :=
  ∃ members : Members, schema = .obj members ∧ members.Reaches draft index

/-- What is a tuple in the end was one before, and has not lost a position. -/
def Members.Grows (name : String) (before after : Members) : Prop :=
  ∀ value, before.lookup name = some value → ∃ value', after.lookup name = some value' ∧
    ∀ items', value' = .arr items' → ∃ items, value = .arr items ∧ items.length ≤ items'.length

/-- Two schemas whose merge keeps the positions of both. -/
structure Members.Aligned (draft : Draft) (a b : Members) : Prop where
  /-- An array does not meet another schema. -/
  alike : ∀ name ∈ draft.tupleNames, ∀ x y, a.lookup name = some x → b.lookup name = some y → (x.items? = none ↔ y.items? = none)
  /-- Where schemas at several positions are equal and put together, others make up for them. -/
  kept : draft.hasPrefixItems = true → ∀ xs ys, a.lookup "prefixItems" = some (.arr xs) → b.lookup "prefixItems" = some (.arr ys) →
    max xs.length ys.length ≤ (Json.distinct (mergeSlots xs ys)).length

/-- There is a schema for all items past a tuple. -/
def Members.HasRest (draft : Draft) (members : Members) : Prop :=
  (draft.hasPrefixItems = true ∧ members.has "prefixItems" = true) ∧ members.has "items" = true

/-- Objects whose merge loses no position, or takes all items in any case; nothing is lost where one of the two is a
boolean. -/
def Json.Aligned (draft : Draft) (a b : Json) : Prop :=
  ∀ first second : Members, a = .obj first → b = .obj second →
    (mergedMembers first second).HasRest draft ∨ first.Aligned draft second

namespace Members

variable {draft : Draft} {index : Nat} {a b : Members} {name : String}

theorem Grows.has (grows : Grows name a b) (has : a.has name = true) : b.has name = true := by
  obtain ⟨value, found⟩ := Option.isSome_iff_exists.mp has
  obtain ⟨value', found', -⟩ := grows value found
  rw [Members.has, found']
  rfl

/-- A keyword that stays as it is. -/
theorem Grows.of_lookup (same : b.lookup name = a.lookup name) : Grows name a b :=
  fun value found => ⟨value, same.trans found, fun items' tuple => ⟨items', tuple, Nat.le_refl _⟩⟩

/-- What a fragment is compiled from reaches its tuple, and all items with a schema for the rest. -/
theorem reaches_iff : a.Reaches draft index ↔
    (itemParts draft a).2.isSome = true ∨ index < (itemParts draft a).1.length := by
  unfold Reaches itemParts
  cases found : a.lookup (tupleName draft a) with
  | none => simp
  | some value =>
    cases value with
    | arr items => simp [Members.has, or_comm]
    | _ => simp

theorem tupleNames_subset (draft : Draft) : draft.tupleNames ⊆ arrayNames := by cases draft <;> decide

theorem items_mem_tupleNames (draft : Draft) : "items" ∈ draft.tupleNames := by cases draft <;> decide

/-- A schema for the rest reaches all items. -/
theorem HasRest.reaches (rest : a.HasRest draft) : a.Reaches draft index := by
  rcases tupleName_cases draft a with ⟨-, tuple, other⟩ | ⟨older, -⟩
  · obtain ⟨value, found⟩ := Option.isSome_iff_exists.mp rest.1.2
    rw [Reaches, tuple, other]
    exact ⟨value, found, fun _ _ => .inr rest.2⟩
  · exact absurd rest.1 older

/-- Where no tuple loses a position and no schema for the rest goes, what was reached is. -/
theorem Reaches.mono (grows : ∀ name ∈ draft.tupleNames, Grows name a b)
    (additional : a.has "additionalItems" = true → b.has "additionalItems" = true) (reaches : a.Reaches draft index) :
    b.Reaches draft index := by
  obtain ⟨value, found, bound⟩ := reaches
  have items := (grows "items" (items_mem_tupleNames draft)).has
  have along {name rest : String} (listed : name ∈ draft.tupleNames) (found : a.lookup name = some value)
      (bound : ∀ items, value = .arr items → index < items.length ∨ a.has rest = true)
      (kept : a.has rest = true → b.has rest = true) : ∃ value', b.lookup name = some value' ∧
        ∀ items', value' = .arr items' → index < items'.length ∨ b.has rest = true := by
    obtain ⟨value', found', shape⟩ := grows name listed value found
    refine ⟨value', found', fun items' same => ?_⟩
    obtain ⟨items, rfl, longer⟩ := shape items' same
    exact (bound items rfl).imp (·.trans_le longer) kept
  rcases tupleName_cases draft a with ⟨newer, tuple, rest⟩ | ⟨-, tuple, rest⟩
  · rw [tuple] at found
    rw [rest] at bound
    have listed : "prefixItems" ∈ draft.tupleNames := by
      rw [Draft.tupleNames, if_pos newer.1]
      decide
    rcases tupleName_cases draft b with ⟨-, tuple', rest'⟩ | ⟨older, -⟩
    · rw [Reaches, tuple', rest']
      exact along listed found bound items
    · exact absurd ⟨newer.1, (grows _ listed).has newer.2⟩ older
  · rw [tuple] at found
    rw [rest] at bound
    rcases tupleName_cases draft b with ⟨newer, tuple', rest'⟩ | ⟨-, tuple', rest'⟩
    · -- what stood under `items` comes after the tuple now
      exact HasRest.reaches ⟨newer, items (by rw [Members.has, found]; rfl)⟩
    · rw [Reaches, tuple', rest']
      exact along (items_mem_tupleNames draft) found bound additional

end Members

/-! ## Merged tuples -/

theorem eq_arr_of_items? {x : Json} {items : List Json} (tuple : x.items? = some items) : x = .arr items := by
  cases x with
  | arr => cases tuple; rfl
  | _ => cases tuple

theorem length_mergeTuples (xs ys : List Json) : (mergeTuples xs ys).length = max xs.length ys.length := by
  induction xs generalizing ys with
  | nil => simp [mergeTuples]
  | cons x xs ih =>
    cases ys with
    | nil => simp [mergeTuples]
    | cons y ys => simp [mergeTuples, ih, Nat.succ_max_succ]

namespace Members

variable {draft : Draft} {index : Nat} {a b : Members} {name : String}

/-- What is merged with something of its kind is no tuple or has all positions of the two. -/
theorem Aligned.merged (aligned : a.Aligned draft b) (listed : name ∈ draft.tupleNames) {x y : Json}
    (left : a.lookup name = some x) (right : b.lookup name = some y) : ∀ items', mergeUnder (some name) x y = .arr items' →
      ∃ xs ys, x = .arr xs ∧ y = .arr ys ∧ max xs.length ys.length ≤ items'.length := by
  intro items' same
  have alike := aligned.alike name listed x y left right
  cases tuple : x.items? with
  | some xs =>
    obtain rfl := eq_arr_of_items? tuple
    cases tuple' : y.items? with
    | none => cases (alike.mpr tuple').symm.trans tuple
    | some ys =>
      obtain rfl := eq_arr_of_items? tuple'
      refine ⟨xs, ys, rfl, rfl, ?_⟩
      by_cases newer : name = "prefixItems"
      · subst newer
        have known : draft.hasPrefixItems = true := by
          revert listed
          cases draft <;> decide
        cases same
        exact aligned.kept known xs ys left right
      · obtain rfl : name = "items" := by
          revert listed
          unfold Draft.tupleNames
          split <;> simp [newer]
        cases same
        exact (length_mergeTuples xs ys).ge
  | none =>
    -- of two schemas that are no arrays none is made
    have tuple' := alike.mp tuple
    rcases mergeUnder_cases (some name) x y with ⟨_, _, rfl, rfl⟩ | ⟨xs, _, rfl, -⟩ | stays | stays
    · rw [mergeUnder_obj] at same
      cases same
    · cases tuple
    · rw [stays.symm.trans same] at tuple
      cases tuple
    · rw [stays.symm.trans same] at tuple'
      cases tuple'

theorem Aligned.grows_left (aligned : a.Aligned draft b) (listed : name ∈ draft.tupleNames) :
    Grows name a (mergedMembers a b) := by
  intro x left
  cases right : b.lookup name with
  | none => exact Grows.of_lookup (lookup_mergedMembers_left right) x left
  | some y =>
    refine ⟨mergeUnder (some name) x y, by rw [lookup_mergedMembers, left, right], fun items' same => ?_⟩
    obtain ⟨xs, ys, rfl, -, longer⟩ := aligned.merged listed left right items' same
    exact ⟨xs, rfl, (Nat.le_max_left _ _).trans longer⟩

theorem Aligned.grows_right (aligned : a.Aligned draft b) (listed : name ∈ draft.tupleNames) :
    Grows name b (mergedMembers a b) := by
  intro y right
  cases left : a.lookup name with
  | none => exact Grows.of_lookup (lookup_mergedMembers_right left) y right
  | some x =>
    refine ⟨mergeUnder (some name) x y, by rw [lookup_mergedMembers, left, right], fun items' same => ?_⟩
    obtain ⟨xs, ys, -, rfl, longer⟩ := aligned.merged listed left right items' same
    exact ⟨ys, rfl, (Nat.le_max_right _ _).trans longer⟩

/-- Making references absolute moves no position. -/
theorem grows_rebaseMembers (base own : Uri) (members : Members) (name : String) :
    Grows name members (rebaseMembers base own members) := by
  intro value found
  refine ⟨_, by rw [lookup_rebaseMembers, found]; rfl, fun items' same => ?_⟩
  cases value with
  | arr items =>
    rw [rebasedMember_of_not_str (by simp)] at same
    refine ⟨items, rfl, ?_⟩
    split at same
    · cases same
      exact Nat.le_refl _
    · rw [rebase, rebaseItems_eq] at same
      cases same
      rw [List.length_map]
  | str text =>
    unfold rebasedMember at same
    split at same
    · cases same
    · split at same
      · cases same
      · split at same <;> cases same
  | _ =>
    rw [rebasedMember_of_not_str (by simp)] at same
    split at same <;> cases same

theorem Reaches.without {members : Members} {dropped : String → Bool}
    (kept : ∀ name ∈ arrayNames, dropped name = false) (reaches : members.Reaches draft index) :
    Members.Reaches draft index (members.without dropped) := by
  have same {name : String} (listed : name ∈ arrayNames) : (members.without dropped).lookup name = members.lookup name := by
    rw [lookup_without, kept name listed, if_neg Bool.false_ne_true]
  refine reaches.mono (fun name listed => .of_lookup (same (tupleNames_subset draft listed))) fun has => ?_
  rw [Members.has, same (by decide)]
  exact has

end Members

/-- What a schema reaches, its merges reach where the two are aligned. -/
theorem lasting_reaches (draft : Draft) (index : Nat) : Context.Lasting (Json.Aligned draft) (Json.Reaches draft index) where
  left members b schema aligned reaches := by
    obtain ⟨_, same, reaches⟩ := reaches
    cases same
    rcases schema with ⟨y, rfl⟩ | ⟨other, rfl⟩
    · exact ⟨members, rfl, reaches⟩
    · refine ⟨_, merge_obj members other, ?_⟩
      rcases aligned _ _ rfl rfl with rest | aligned
      · exact rest.reaches
      · exact reaches.mono (fun name => aligned.grows_left) fun has => has_mergedMembers_iff.mpr (.inl has)
  right members b _ aligned reaches := by
    obtain ⟨other, rfl, reaches⟩ := reaches
    refine ⟨_, merge_obj members other, ?_⟩
    rcases aligned _ _ rfl rfl with rest | aligned
    · exact rest.reaches
    · exact reaches.mono (fun name => aligned.grows_right) fun has => has_mergedMembers_iff.mpr (.inr has)
  rebased base schema reaches := by
    obtain ⟨members, rfl, reaches⟩ := reaches
    exact ⟨_, rfl, reaches.mono (fun name _ => Members.grows_rebaseMembers base _ members name)
      fun has => has_rebase_iff.mpr has⟩

theorem Json.Reaches.without {draft : Draft} {index : Nat} {members : Members} {dropped : String → Bool}
    (kept : ∀ name ∈ arrayNames, dropped name = false) (reaches : (Json.obj members).Reaches draft index) :
    (Json.obj (members.without dropped)).Reaches draft index := by
  obtain ⟨_, same, reaches⟩ := reaches
  cases same
  exact ⟨_, rfl, reaches.without kept⟩

/-- A keyword that reaches items belongs to no reference. -/
theorem beside_reaches (draft : Draft) (index : Nat) : Context.Beside (Json.Reaches draft index) where
  object b reaches := by
    obtain ⟨_, same, -⟩ := reaches
    cases same
  kept schema reaches := by
    obtain ⟨members, rfl, value, found, -⟩ := id reaches
    refine ⟨?_, reaches.without (by decide)⟩
    have other : ∀ name ∈ arrayNames, (!trivialSiblings.contains name) = true := by decide
    exact List.any_eq_true.mpr ⟨_, mem_of_lookup found, other _ Part.tupleName_mem⟩

/-- Composition reaches nothing. -/
theorem Context.reaches_staticPart {draft : Draft} {index : Nat} {task : Reduction} {schema : Json}
    (reaches : schema.Reaches draft index) : (task.staticPart schema).Reaches draft index := by
  obtain ⟨members, rfl, -⟩ := id reaches
  have static : ∀ name ∈ arrayNames, name ∉ dynamicKeywords := by decide
  exact reaches.without fun name listed => Reduction.isDynamic_eq_false (static name listed)

/-- What a fragment reaches is told by its schema. -/
theorem Context.reaches_iff {context : Context} {fragment : Fragment} {index : Nat} (compiled : fragment.IsCompiled context.draft) :
    fragment.restItems?.isSome = true ∨ index < fragment.tupleItems.length ↔ fragment.schema.Reaches context.draft index := by
  obtain ⟨source, outer, compiled⟩ := compiled
  rcases compiled.bool_or_obj with ⟨b, shape⟩ | ⟨members, shape⟩
  · rw [shape] at compiled ⊢
    rw [Fragment.compiled_bool.mp compiled]
    refine ⟨fun reaches => ?_, fun reaches => absurd reaches ((beside_reaches _ _).object b)⟩
    rcases reaches with reaches | reaches
    · cases reaches
    · exact absurd reaches (Nat.not_lt_zero _)
  · rw [shape] at compiled ⊢
    have made := Fragment.compiled_obj.mp compiled
    rw [← Option.isSome_map, made.restItems?_schema, ← List.length_map Fragment.schema, made.tupleItems_schemas,
      ← Members.reaches_iff]
    exact ⟨fun reaches => ⟨members, rfl, reaches⟩, fun ⟨_, same, reaches⟩ => by cases same; exact reaches⟩

/-! ## Reductions that lose no position -/

/-- All that a reduction merges is aligned: what is folded, and what stands beside references with what they lead to. -/
structure Context.Aligns (context : Context) (task : Reduction) (fragment : Fragment) (scope : Scope) : Prop where
  folded : context.Unites task fragment scope (Json.Aligned context.draft)
  referred : ∀ part deeper, context.Gathers task fragment scope part deeper → ∀ source target,
    context.Refers part (deeper.enter part) source target → (mergeTarget target).Aligned context.draft (siblings source.schema)

/-- All items are tuples. -/
def TupleKinds (name : String) (value : Json) : Prop := name = "items" → ∃ items, value = .arr items

/-- A merge of tuples is a tuple, and so is one in which references were made absolute. -/
theorem keptKinds_tuple : KeptKinds TupleKinds where
  merged name x y left right same := by
    obtain ⟨xs, rfl⟩ := left same
    obtain ⟨ys, rfl⟩ := right same
    subst same
    exact ⟨_, rfl⟩
  rebased base own name x tuple same := by
    obtain ⟨items, rfl⟩ := tuple same
    subst same
    rw [rebasedMember_of_not_str (by simp), if_neg (by decide), rebase]
    exact ⟨_, rfl⟩

/-- A fragment refers to nothing, and its items, if there are some, are a tuple. -/
def Fragment.isTuple (draft : Draft) (f : Fragment) : Bool :=
  (f.reference? draft).isNone && (f.schema.member? "items").all (·.items?.isSome)

namespace Context

variable {context : Context} {task : Reduction} {fragment part : Fragment} {scope deeper : Scope}

/-- In the drafts without `prefixItems` tuples are merged position by position. -/
theorem aligned_of_tuples {draft : Draft} (older : draft.hasPrefixItems = false) {a b : Json} (left : a.OfKinds TupleKinds)
    (right : b.OfKinds TupleKinds) : a.Aligned draft b := by
  rintro first second rfl rfl
  refine .inr ⟨fun name listed x y own other => ?_, fun newer => ?_⟩
  · rw [Draft.tupleNames, older, if_neg Bool.false_ne_true, List.mem_singleton] at listed
    obtain ⟨xs, rfl⟩ := left.2 name x own listed
    obtain ⟨ys, rfl⟩ := right.2 name y other listed
    exact ⟨nofun, nofun⟩
  · rw [older] at newer
    cases newer

/-- Where all items are tuples, a reduction in such a draft loses no position. -/
theorem aligns_of_tuples (older : context.draft.hasPrefixItems = false) (known : context.index.WellCompiled context.draft)
    (compiled : fragment.IsCompiled context.draft) (entered : scope.IsCompiled context.draft)
    (gathered : ∀ target, context.Gathered task fragment scope target → target.schema.OfKinds TupleKinds)
    (referred : ∀ part deeper, context.Gathers task fragment scope part deeper → ∀ source target,
      context.Refers part (deeper.enter part) source target →
      source.schema.OfKinds TupleKinds ∧ target.schema.OfKinds TupleKinds) : context.Aligns task fragment scope where
  folded :=
    have gathering := gathering_ofKinds (fun target own => ofKinds_ownPart (gathered target own)) (by simp [TupleKinds])
    (gathering.unites known keptKinds_tuple.stable compiled entered).mono fun _ _ both => aligned_of_tuples older both.1 both.2
  referred part deeper gathers source target refers :=
    have ⟨source, target⟩ := referred part deeper gathers source target refers
    aligned_of_tuples older (ofKinds_mergeTarget keptKinds_tuple target) (ofKinds_siblings source)

/-- Where nothing refers and no child has composition, a reduction comes to the children only. -/
theorem Gathers.eq_or_hasChild (settled : fragment.reference? context.draft = none) (given : task.data.isSome = true)
    (idle : ∀ child, fragment.HasChild child → child.reference? context.draft = none ∧ child.reducers context.draft = [])
    (gathers : context.Gathers task fragment scope part deeper) : part = fragment ∨ fragment.HasChild part := by
  cases gathers with
  | refl => exact .inl rfl
  | step inside _ _ folds below =>
    rw [inside?_of_settled settled] at inside
    cases inside
    cases below with
    | refl => exact .inr folds.hasChild
    | step inside work =>
      obtain ⟨settled', idle⟩ := idle _ folds.hasChild
      rw [inside?_of_settled settled'] at inside
      cases inside
      simp [Reduction.hasWork, folding, given, idle] at work

theorem tuple_of_isTuple {f : Fragment} (compiled : f.IsCompiled context.draft) (tuple : f.isTuple context.draft = true) :
    f.reference? context.draft = none ∧ f.schema.OfKinds TupleKinds := by
  unfold Fragment.isTuple at tuple
  rw [Bool.and_eq_true, Option.isNone_iff_eq_none] at tuple
  refine ⟨tuple.1, isSchema_of_compiled compiled, fun name value found same => ?_⟩
  subst same
  have array := tuple.2
  rw [found, Option.all_some] at array
  obtain ⟨items, array⟩ := Option.isSome_iff_exists.mp array
  exact ⟨items, eq_arr_of_items? array⟩

/-- A fragment with tuples in it and in its children, which have no composition. -/
theorem aligns_of_children (older : context.draft.hasPrefixItems = false) (known : context.index.WellCompiled context.draft)
    (compiled : fragment.IsCompiled context.draft) (entered : scope.IsCompiled context.draft) (given : task.data.isSome = true)
    (own : fragment.isTuple context.draft = true)
    (children : ∀ child, fragment.HasChild child → child.isTuple context.draft = true ∧ child.reducers context.draft = []) :
    context.Aligns task fragment scope := by
  have settled := tuple_of_isTuple compiled own
  have below (child : Fragment) (has : fragment.HasChild child) := tuple_of_isTuple (compiled.child has) (children child has).1
  have all {part : Fragment} {deeper : Scope} (gathers : context.Gathers task fragment scope part deeper) :
      part.reference? context.draft = none ∧ part.schema.OfKinds TupleKinds := by
    have idle child has := And.intro (below child has).1 (children child has).2
    rcases gathers.eq_or_hasChild settled.1 given idle with rfl | has
    · exact settled
    · exact below part has
  refine aligns_of_tuples older known compiled entered (fun target gathered => ?_) fun part deeper gathers source target refers => ?_
  · obtain ⟨gathers, inside⟩ := gathered
    rw [inside?_of_settled (all gathers).1] at inside
    cases inside
    exact (all gathers).2
  · exact absurd refers (not_refers_of_settled (all gathers).1)

end Context

/-! ## Checks -/

namespace Visit

variable {visit : Visit} {depth : Nat}

/-- A fragment to which the reduction comes evaluates an item. -/
def EvaluatesItem (visit : Visit) (index : Nat) : Prop :=
  visit.context.Comes visit.evaluation visit.fragment visit.scope (Json.Reaches visit.context.draft index)

/-- The check of an item reports nothing of another one. -/
theorem spares_checkUnevaluatedItem (judged : visit.judge = visit.context.judge depth) (schema : Fragment)
    (containing : Option Fragment) (item : Json) {index other : Nat} (apart : index ≠ other) :
    Finds (Violation.Spares (visit.pointer.item other)) (visit.checkUnevaluatedItem schema containing item index) := by
  refine finds_checkUnevaluatedItem_of containing ((Violation.allUnder_of_single rfl).spares_item apart) ?_
  intro found answer v inside
  rw [Visit.validate, judged] at answer
  exact (visit.context.finds_allUnder depth _ _ _ _ found answer v inside).spares_item apart

end Visit

/-- The items past the first ones have later positions. -/
theorem le_of_mem_drop_zipIdx {α : Type} {items : List α} {count index : Nat} {item : α}
    (inside : (item, index) ∈ items.zipIdx.drop count) : count ≤ index ∧ index < items.length := by
  obtain ⟨place, found⟩ := List.mem_iff_getElem?.mp inside
  rw [List.getElem?_drop, List.getElem?_zipIdx, Option.map_eq_some_iff] at found
  obtain ⟨_, found, same⟩ := found
  have bound := (List.getElem?_eq_some_iff.mp found).1
  cases same
  omega

/-- Of an item that is evaluated by a fragment to which the reduction comes nothing is reported as unevaluated, as long
as no merge on the way loses a position; where all items are evaluated so, nothing is reported at all. -/
theorem evaluated_items_spared {visit : Visit} {depth : Nat} (judged : visit.judge = visit.context.judge depth)
    (merges : visit.context.draft.mergesSiblings = true) (known : visit.context.index.WellCompiled visit.context.draft)
    (compiled : visit.fragment.IsCompiled visit.context.draft) (entered : visit.scope.IsCompiled visit.context.draft)
    (aligns : visit.context.Aligns visit.evaluation visit.fragment visit.scope) {items : List Json}
    (array : visit.data = .arr items) {reduced : Reduced}
    (answer : visit.judge.reduce visit.evaluation visit.fragment visit.scope = some (.ok reduced)) :
    (∀ index, visit.EvaluatesItem index →
        Finds (Violation.Spares (visit.pointer.item index)) visit.checkUnevaluatedItems) ∧
      ((∀ index < items.length, visit.EvaluatesItem index) → visit.checkUnevaluatedItems = some []) := by
  have reaches {index : Nat} (evaluates : visit.EvaluatesItem index) :
      reduced.fragment.restItems?.isSome = true ∨ index < reduced.fragment.tupleItems.length := by
    rw [judged] at answer
    rw [Context.reaches_iff (Context.isCompiled_of_reduce known compiled entered answer).1]
    exact Context.reduced_has_of_comes (lasting_reaches _ index) (beside_reaches _ index)
      (fun _ => Context.reaches_staticPart) merges known aligns.folded aligns.referred compiled entered evaluates answer
  have shape := Visit.evaluatedShape_of_reduce answer
  unfold Visit.checkUnevaluatedItems
  rw [array]
  cases asks : visit.fragment.unevaluatedItems? with
  | none => exact ⟨fun _ _ => .nil, fun _ => rfl⟩
  | some schema =>
    dsimp only
    rw [shape, Option.bind_eq_bind, Option.bind_some]
    by_cases whole : reduced.fragment.restItems?.isSome = true
    · simp only [whole, if_true]
      exact ⟨fun _ _ => .nil, fun _ => rfl⟩
    · simp only [whole, Bool.false_eq_true, if_false]
      refine ⟨fun index evaluates => .gather fun ⟨item, later⟩ inside => ?_, fun all => gather_eq_nil.mpr fun ⟨item, index⟩ inside => ?_⟩
      · have early := (reaches evaluates).resolve_left whole
        have late := (le_of_mem_drop_zipIdx inside).1
        exact Visit.spares_checkUnevaluatedItem judged schema _ item (early.trans_le late).ne'
      · -- no item is left to check
        obtain ⟨late, bound⟩ := le_of_mem_drop_zipIdx inside
        exact absurd ((reaches (all index bound)).resolve_left whole) (Nat.not_lt.mpr late)

/-- A tuple of one item, and a member with one of two. -/
def longerMember : Json := .obj [
  ("items", .arr [.bool true]),
  ("allOf", .arr [.obj [("items", .arr [.obj [("type", .str "integer")], .bool true])]]),
  ("unevaluatedItems", .bool false)]

/-- The compiler for schemas that name no draft and are of the one before the latest. -/
def elderCompiler : Compiler := { Compiler.standard with draft := some .draft2019 }

/-- The root of a schema with the first member of its `allOf`. -/
def rootWithMember? (compiler : Compiler) (schema : Json) : Option (Node × Fragment) := do
  let root ← (compiler.compile schema).toOption
  let member ← (root.fragment.members .allOf)[0]?
  return (root, member)

/-- Both items are spared, the second of which is in the tuple of the member only. -/
theorem longerMember_items_spared : ∃ root, elderCompiler.compile longerMember = .ok root ∧
    Finds (Violation.Spares (Pointer.root.item 1)) (root.visit (.arr [.ofNat 1, .str "x"])).checkUnevaluatedItems ∧
    (root.visit (.arr [.ofNat 1, .str "x"])).checkUnevaluatedItems = some [] := by
  have computed : (rootWithMember? elderCompiler longerMember).map (fun (root, member) =>
      root.context.draft.mergesSiblings && !root.context.draft.hasPrefixItems &&
      root.fragment.isTuple root.context.draft && !(root.fragment.reducers root.context.draft).isEmpty &&
      root.fragment.children.all (fun entry => entry.2.isTuple root.context.draft &&
        (entry.2.reducers root.context.draft).isEmpty) &&
      decide (member.tupleItems.length = 2) &&
      ((root.reduce (.arr [.ofNat 1, .str "x"])).bind Except.toOption).isSome) = some true := by
    decide +kernel
  obtain ⟨⟨root, member⟩, known, holds⟩ := Option.map_eq_some_iff.mp computed
  simp only [Bool.and_eq_true, decide_eq_true_eq, Bool.not_eq_true', List.all_eq_true, List.isEmpty_iff,
    Option.isSome_iff_exists, Option.bind_eq_some_iff] at holds
  obtain ⟨⟨⟨⟨⟨⟨merges, older⟩, tuple⟩, work⟩, children⟩, length⟩, reduced, answer, reduces, answered⟩ := holds
  simp only [rootWithMember?, Option.bind_eq_bind, Option.bind_eq_some_iff] at known
  obtain ⟨_, compiled, _, listed, same⟩ := known
  cases same
  obtain ⟨result, reduces, -⟩ := Node.settle_eq_ok (ok_of_toOption answered ▸ reduces)
  have compiled := ok_of_toOption compiled
  have sound := Node.sound_of_compile compiled
  have listed := List.mem_of_getElem? listed
  have below := Fragment.hasChild_of_members listed
  have compiled' := sound.fragment.child below
  have children (child : Fragment) : root.fragment.HasChild child → child.isTuple root.context.draft = true ∧
      child.reducers root.context.draft = [] := fun ⟨slot, inside⟩ => children (slot, child) inside
  have settled := (Context.tuple_of_isTuple sound.fragment tuple).1
  have settled' := (Context.tuple_of_isTuple compiled' (children member below).1).1
  have aligns := @Context.aligns_of_children _ (root.visit (.arr [.ofNat 1, .str "x"])).evaluation _ _ older sound.index
    sound.fragment sound.scope rfl tuple children
  have evaluates (index : Nat) (bound : index < 2) : (root.visit (.arr [.ofNat 1, .str "x"])).EvaluatesItem index := by
    refine .stands ⟨.step (Context.inside?_of_settled settled) ?_ List.not_mem_nil (.selected (.inr rfl) (.allOf listed))
      (.refl _ _ _), Context.inside?_of_settled settled'⟩ ((Context.reaches_iff compiled').mp (.inr (length ▸ bound)))
    simpa [Reduction.hasWork, Visit.evaluation, Node.visit] using work
  obtain ⟨spared, none⟩ := @evaluated_items_spared (root.visit (.arr [.ofNat 1, .str "x"])) _ rfl merges sound.index
    sound.fragment sound.scope aligns _ rfl _ reduces
  exact ⟨root, compiled, spared 1 (evaluates 1 (by decide)), none evaluates⟩

/-! ## Positions that are lost -/

/-- A tuple of two items, and a member with one of one; all their schemas are equal. -/
def equalItems : Json := .obj [
  ("prefixItems", .arr [.obj [], .obj []]),
  ("allOf", .arr [.obj [("prefixItems", .arr [.obj []])]]),
  ("unevaluatedItems", .bool false)]

/-- The two tuples are merged to one of one item; so the second item is reported, though the fragment has a schema for
it and the reduction succeeds. -/
theorem item_of_merged_tuple_reported : ∃ root reduced found, Compiler.standard.compile equalItems = .ok root ∧
    root.fragment.tupleItems.length = 2 ∧ root.reduce (.arr [.ofNat 1, .ofNat 2]) = some (.ok reduced) ∧
    root.validate (.arr [.ofNat 1, .ofNat 2]) = some found ∧
    found.map (fun violation => (violation.code, violation.pointer)) = [(.unevaluatedItems, Pointer.root.item 1)] := by
  have computed : (Compiler.standard.compile equalItems).toOption.map (fun root =>
      decide (root.fragment.tupleItems.length = 2) &&
      ((root.reduce (.arr [.ofNat 1, .ofNat 2])).bind Except.toOption).isSome &&
      decide ((root.validate (.arr [.ofNat 1, .ofNat 2])).map
        (List.map fun violation => (violation.code, violation.pointer)) =
          some [(.unevaluatedItems, Pointer.root.item 1)])) = some true := by
    decide +kernel
  obtain ⟨root, compiled, holds⟩ := Option.map_eq_some_iff.mp computed
  simp only [Bool.and_eq_true, decide_eq_true_eq, Option.isSome_iff_exists, Option.bind_eq_some_iff,
    Option.map_eq_some_iff] at holds
  obtain ⟨⟨length, reduced, _, reduces, answered⟩, found, validates, listed⟩ := holds
  exact ⟨root, reduced, found, ok_of_toOption compiled, length, ok_of_toOption answered ▸ reduces, validates, listed⟩

end JsonSchema
