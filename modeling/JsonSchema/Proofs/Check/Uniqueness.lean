import JsonSchema.Check.Applicator
import JsonSchema.Proofs.Json.Canonical
import Mathlib.Data.Set.Card

/-!
# Items that are not repeated

Repeated items are found in one pass over their canonical texts, with a table of the first position
of each text. The table makes no difference: what is reported are the items that have an equal one
before them, each with the first of its equals. `enum`, `const` and merging compare values pair by
pair instead. Both ways decide alike: there is no violation just if no two items are equal.
-/

namespace JsonSchema

namespace Visit

/-! ## One pass -/

/-- The table has the first position of every text so far, and of no other. -/
def Seen (before : List String) (seen : List (String × Nat)) : Prop :=
  ∀ text, seen.lookup text = if text ∈ before then some (before.idxOf text) else none

theorem Seen.nil : Seen [] [] := by
  intro text
  simp

variable {before : List String} {seen : List (String × Nat)} {text : String}

/-- A text that was met before changes nothing. -/
theorem Seen.known (invariant : Seen before seen) (met : text ∈ before) : Seen (before ++ [text]) seen := by
  intro other
  rw [invariant other]
  by_cases here : other ∈ before
  · rw [if_pos here, if_pos (List.mem_append_left _ here), List.idxOf_append_of_mem here]
  · have differs : other ≠ text := by
      rintro rfl
      exact here met
    rw [if_neg here, if_neg (by simp [here, differs])]

/-- A text that is met for the first time is entered with its position. -/
theorem Seen.enter (invariant : Seen before seen) (unmet : text ∉ before) :
    Seen (before ++ [text]) ((text, before.length) :: seen) := by
  intro other
  rw [List.lookup_cons]
  by_cases same : other = text
  · subst same
    simp [List.idxOf_append_of_notMem unmet]
  · rw [beq_false_of_ne same, invariant other]
    by_cases here : other ∈ before
    · rw [if_pos here, if_pos (List.mem_append_left _ here), List.idxOf_append_of_mem here]
    · rw [if_neg here, if_neg (by simp [here, same])]

theorem firstEqualsFrom_eq (invariant : Seen before seen) (texts : List String) :
    firstEqualsFrom before.length seen texts =
      (texts.zipIdx before.length).map fun (text, index) => (index, (before ++ texts).idxOf text) := by
  induction texts generalizing before seen with
  | nil => rfl
  | cons text texts ih =>
    have join : before ++ text :: texts = (before ++ [text]) ++ texts := by simp
    have length : (before ++ [text]).length = before.length + 1 := by simp
    rw [firstEqualsFrom, invariant text, List.zipIdx_cons, List.map_cons]
    by_cases met : text ∈ before
    · have rest := ih (invariant.known met)
      rw [length] at rest
      simp only [if_pos met, rest, join]
      rw [List.append_assoc, List.idxOf_append_of_mem met]
    · have rest := ih (invariant.enter met)
      rw [length] at rest
      simp only [if_neg met, rest, join]
      rw [List.append_assoc, List.idxOf_append_of_notMem met]
      simp

/-- The pass finds what a search of the whole list for each text would find. -/
theorem firstEquals_eq (texts : List String) :
    firstEquals texts = texts.zipIdx.map fun (text, index) => (index, texts.idxOf text) := by
  rw [firstEquals, ← List.length_nil, firstEqualsFrom_eq Seen.nil, List.nil_append]

end Visit

/-! ## Repeated items -/

/-- An item that has an equal one before it. -/
structure Repeat where
  index : Nat
  first : Nat
  item : Json

namespace Repeat

/-- Items are equal if their canonical texts have the same bytes. -/
def SameBytes (a b : Json) : Prop := a.canonical.toUTF8 = b.canonical.toUTF8

theorem sameBytes_iff {a b : Json} : SameBytes a b ↔ a.canonical = b.canonical := by
  rw [SameBytes, String.toUTF8_eq_toByteArray, String.toUTF8_eq_toByteArray, String.toByteArray_inj]

/-- The item stands at its index, and `first` is the least index of an equal item and before it. -/
structure Among (items : List Json) (found : Repeat) : Prop where
  placed : items[found.index]? = some found.item
  earlier : found.first < found.index
  least : IsLeast {index | ∃ item, items[index]? = some item ∧ SameBytes item found.item} found.first

/-- The items that are not the first of their equals, in order. -/
def all (items : List Json) : List Repeat :=
  items.zipIdx.filterMap fun (item, index) =>
    let first := (items.map Json.canonical).idxOf item.canonical
    if first = index then none else some ⟨index, first, item⟩

variable {items : List Json}

/-- The position at which the text of an item is found is the least one of an equal item. -/
theorem isLeast_idxOf {item : Json} (inside : item ∈ items) :
    IsLeast {index | ∃ other, items[index]? = some other ∧ SameBytes other item}
      ((items.map Json.canonical).idxOf item.canonical) := by
  have listed : item.canonical ∈ items.map Json.canonical := List.mem_map_of_mem inside
  constructor
  · have found := List.getElem?_idxOf listed
    rw [List.getElem?_map, Option.map_eq_some_iff] at found
    obtain ⟨other, placed, same⟩ := found
    exact ⟨other, placed, sameBytes_iff.mpr same⟩
  · rintro index ⟨other, placed, same⟩
    have text : (items.map Json.canonical)[index]? = some item.canonical := by
      rw [List.getElem?_map, placed, Option.map_some, sameBytes_iff.mp same]
    obtain ⟨within, here⟩ := List.getElem?_eq_some_iff.mp text
    by_contra before
    have differs := List.not_of_lt_findIdx (Nat.lt_of_not_le before)
    simp [here] at differs

theorem mem_all {found : Repeat} : found ∈ all items ↔ found.Among items := by
  have entry : found ∈ all items ↔ items[found.index]? = some found.item ∧
      (items.map Json.canonical).idxOf found.item.canonical = found.first ∧ found.first ≠ found.index := by
    obtain ⟨index, first, item⟩ := found
    simp only [all, List.mem_filterMap, Prod.exists, List.mk_mem_zipIdx_iff_getElem?]
    constructor
    · rintro ⟨other, place, placed, made⟩
      split at made
      · cases made
      · rename_i differs
        cases made
        exact ⟨placed, rfl, differs⟩
    · rintro ⟨placed, rfl, differs⟩
      exact ⟨item, index, placed, by rw [if_neg differs]⟩
  rw [entry]
  constructor
  · rintro ⟨placed, first, differs⟩
    have least := isLeast_idxOf (List.mem_of_getElem? placed)
    rw [first] at least
    have bound : found.first ≤ found.index := least.2 ⟨found.item, placed, rfl⟩
    exact ⟨placed, by omega, least⟩
  · rintro ⟨placed, earlier, least⟩
    exact ⟨placed, (isLeast_idxOf (List.mem_of_getElem? placed)).unique least, by omega⟩

/-- An item is listed just if one before it is equal to it. -/
theorem exists_among_iff {index : Nat} {item : Json} (placed : items[index]? = some item) :
    (∃ found : Repeat, found.Among items ∧ found.index = index) ↔
      ∃ place < index, ∃ other, items[place]? = some other ∧ SameBytes other item := by
  constructor
  · rintro ⟨found, among, rfl⟩
    obtain ⟨other, there, same⟩ := among.least.1
    have item_eq : found.item = item := by simpa [among.placed] using placed
    exact ⟨found.first, among.earlier, other, there, item_eq ▸ same⟩
  · rintro ⟨place, before, other, there, same⟩
    have least := isLeast_idxOf (List.mem_of_getElem? placed)
    have bound := least.2 ⟨other, there, same⟩
    exact ⟨⟨index, _, item⟩, ⟨placed, Nat.lt_of_le_of_lt bound before, least⟩, rfl⟩

/-- The items are listed from the first to the last, each of them once. -/
theorem pairwise_all : (all items).Pairwise fun a b => a.index < b.index := by
  rw [all, List.pairwise_filterMap]
  have order : items.zipIdx.Pairwise fun a b => a.2 < b.2 := by
    rw [← List.pairwise_map (f := Prod.snd), List.zipIdx_map_snd]
    exact List.pairwise_lt_range'
  refine order.imp ?_
  rintro ⟨item, index⟩ ⟨item', index'⟩ before a made b made'
  simp only at before made made'
  split at made
  · cases made
  · split at made'
    · cases made'
    · cases made
      cases made'
      exact before

theorem ncard_of_nodup {α : Type} {l : List α} (distinct : l.Nodup) : {a | a ∈ l}.ncard = l.length := by
  classical
  rw [← List.coe_toFinset, Set.ncard_coe_finset, List.toFinset_card_of_nodup distinct]

/-- The items that are listed and the first ones of each kind are all items. -/
theorem length_all :
    (all items).length + {bytes | ∃ item ∈ items, item.canonical.toUTF8 = bytes}.ncard = items.length := by
  let isFirst : Json × Nat → Bool := fun entry => (items.map Json.canonical).idxOf entry.1.canonical = entry.2
  have listed : (all items).length = (items.zipIdx.filter fun entry => !isFirst entry).length := by
    rw [all, ← List.countP_eq_length_filter, List.length_filterMap_eq_countP]
    refine List.countP_congr fun entry _ => ?_
    by_cases first : (items.map Json.canonical).idxOf entry.1.canonical = entry.2 <;> simp [isFirst, first]
  -- the items that are not listed stand for the distinct texts
  have distinct : ((items.zipIdx.filter isFirst).map fun entry => entry.1.canonical.toUTF8).Nodup := by
    have positions : (items.zipIdx.map Prod.snd).Nodup := by
      rw [List.zipIdx_map_snd]
      exact List.nodup_range'
    refine List.Nodup.map_on ?_ ((positions.of_map _).filter _)
    rintro ⟨item, index⟩ inside ⟨item', index'⟩ inside' same
    have text : item.canonical = item'.canonical := sameBytes_iff.mp same
    obtain ⟨placed, first⟩ := List.mem_filter.mp inside
    obtain ⟨placed', first'⟩ := List.mem_filter.mp inside'
    rw [List.mk_mem_zipIdx_iff_getElem?] at placed placed'
    simp only [isFirst, decide_eq_true_eq, text] at first first'
    obtain rfl : index = index' := first.symm.trans first'
    simpa [placed] using placed'
  have every : {bytes | ∃ item ∈ items, item.canonical.toUTF8 = bytes} =
      {bytes | bytes ∈ (items.zipIdx.filter isFirst).map fun entry => entry.1.canonical.toUTF8} := by
    ext bytes
    simp only [Set.mem_ofPred_eq, List.mem_map]
    constructor
    · rintro ⟨item, inside, rfl⟩
      obtain ⟨other, placed, same⟩ := (isLeast_idxOf inside).1
      refine ⟨(other, _), List.mem_filter.mpr ⟨List.mk_mem_zipIdx_iff_getElem?.mpr placed, ?_⟩, same⟩
      simp [isFirst, sameBytes_iff.mp same]
    · rintro ⟨⟨item, index⟩, inside, rfl⟩
      have placed := List.mk_mem_zipIdx_iff_getElem?.mp (List.mem_filter.mp inside).1
      exact ⟨item, List.mem_of_getElem? placed, rfl⟩
  rw [every, ncard_of_nodup distinct, List.length_map, listed, Nat.add_comm, ← List.length_eq_length_filter_add,
    List.length_zipIdx]

/-- No item is listed just if no two are equal. -/
theorem all_eq_nil_iff : all items = [] ↔ items.Pairwise fun a b => ¬SameBytes a b := by
  rw [List.eq_nil_iff_forall_not_mem, List.pairwise_iff_getElem]
  constructor
  · intro none place index within within' before same
    have repeated := (exists_among_iff (List.getElem?_eq_getElem within')).mpr
      ⟨place, before, _, List.getElem?_eq_getElem within, same⟩
    obtain ⟨found, among, -⟩ := repeated
    exact none found (mem_all.mpr among)
  · intro differ found listed
    have among := mem_all.mp listed
    obtain ⟨place, before, other, there, same⟩ := (exists_among_iff among.placed).mp ⟨found, among, rfl⟩
    obtain ⟨within, rfl⟩ := List.getElem?_eq_some_iff.mp there
    obtain ⟨within', placed⟩ := List.getElem?_eq_some_iff.mp among.placed
    exact differ place found.index within within' before (placed ▸ same)

end Repeat

namespace Visit

variable {visit : Visit} {items : List Json}

/-- What a repeated item is reported with. -/
def repeated (visit : Visit) (found : Repeat) : Violation :=
  visit.violationAt .uniqueItems (visit.pointer.item found.index) found.item
    [("duplicate", .ofNat found.index), ("first", .ofNat found.first)]

theorem repeated_injective : Function.Injective visit.repeated := by
  rintro ⟨index, first, item⟩ ⟨index', first', item'⟩ same
  simp only [repeated, violationAt, Json.ofNat, Violation.mk.injEq, List.cons.injEq, Prod.mk.injEq] at same
  simp_all

/-- The repeated items are reported, and nothing else. -/
theorem checkUniqueItems_eq (data : visit.data = .arr items)
    (asked : visit.keyword? "uniqueItems" = some (.bool true)) :
    visit.checkUniqueItems = (Repeat.all items).map visit.repeated := by
  have pairs : items.zip (firstEquals (items.map Json.canonical)) =
      items.zipIdx.map fun (item, index) => (item, index, (items.map Json.canonical).idxOf item.canonical) := by
    apply List.ext_getElem <;> simp [firstEquals_eq]
  rw [checkUniqueItems, data, asked, Repeat.all, List.map_filterMap]
  simp only [pairs, List.filterMap_map]
  refine List.filterMap_congr fun ⟨item, index⟩ _ => ?_
  simp only [Function.comp]
  split <;> rfl

/-- There is no violation just if no text is repeated. -/
theorem checkUniqueItems_eq_nil_iff (data : visit.data = .arr items)
    (asked : visit.keyword? "uniqueItems" = some (.bool true)) :
    visit.checkUniqueItems = [] ↔ (items.map Json.canonical).Nodup := by
  rw [checkUniqueItems_eq data asked, List.map_eq_nil_iff, Repeat.all_eq_nil_iff, List.Nodup, List.pairwise_map]
  simp only [Repeat.sameBytes_iff, ne_eq]

/-- Unique items report the repeats: from the first to the last, each item that has an equal one before
it, at its place and with the first of its equals. So there are as many violations as items less the
distinct ones, and none just if all items are different. -/
theorem uniqueItems_reports_repeats (data : visit.data = .arr items)
    (asked : visit.keyword? "uniqueItems" = some (.bool true)) :
    ∃ repeats : List Repeat,
      visit.check .uniqueItems = some (repeats.map visit.repeated) ∧
      repeats.Pairwise (fun a b => a.index < b.index) ∧
      (∀ found, found ∈ repeats ↔ found.Among items) ∧
      (∀ index item, items[index]? = some item →
        ((∃ found ∈ repeats, found.index = index) ↔
          ∃ place < index, ∃ other, items[place]? = some other ∧ Repeat.SameBytes other item)) ∧
      repeats.length + {bytes | ∃ item ∈ items, item.canonical.toUTF8 = bytes}.ncard = items.length ∧
      (visit.check .uniqueItems = some [] ↔ items.Pairwise fun a b => ¬Repeat.SameBytes a b) := by
  have report : visit.check .uniqueItems = some ((Repeat.all items).map visit.repeated) :=
    congrArg some (checkUniqueItems_eq data asked)
  refine ⟨Repeat.all items, report, Repeat.pairwise_all, fun found => Repeat.mem_all, ?_, Repeat.length_all, ?_⟩
  · intro index item placed
    simp only [Repeat.mem_all]
    exact Repeat.exists_among_iff placed
  · rw [report, Option.some_inj, List.map_eq_nil_iff]
    exact Repeat.all_eq_nil_iff

/-- A visit of an array by a schema that asks for unique items. -/
def ofUnique (items : List Json) : Visit where
  context := ⟨.draft2020, ⟨[]⟩, .empty⟩
  judge := ⟨fun _ _ _ _ => none, fun _ _ _ => none⟩
  fragment := ⟨.ofDocument .default, .document 0, .obj [("uniqueItems", .bool true)], [], none, []⟩
  data := .arr items
  pointer := .root
  scope := []

/-- Two kinds of equal items in turns, and an item of its own. -/
def inTurns : List Json :=
  [.obj [("a", .arr [.ofNat 1])], .ofNat 1, .obj [("a", .arr [Json.realOne])], Json.realOne, .str "1", .ofNat 1]

theorem inTurns_reports_repeats :
    ∃ repeats : List Repeat, (ofUnique inTurns).check .uniqueItems = some (repeats.map (ofUnique inTurns).repeated) ∧
      repeats.map (fun found => (found.index, found.first)) = [(2, 0), (3, 1), (5, 1)] := by
  obtain ⟨repeats, report, -⟩ := @uniqueItems_reports_repeats (ofUnique inTurns) _ rfl rfl
  refine ⟨repeats, report, ?_⟩
  have all : repeats = Repeat.all inTurns := by
    refine (List.map_injective_iff.mpr repeated_injective) (Option.some_inj.mp (report.symm.trans ?_))
    exact congrArg some (checkUniqueItems_eq rfl rfl)
  rw [all]
  decide +kernel

end Visit

end JsonSchema
