import JsonSchema.Json.Canonical
import JsonSchema.Proofs.Json.Canonical

/-!
# Equality as an equivalence

Equality of values is reflexive and symmetric, as the names in an object differ. It is transitive
between numbers of one kind, but a double is equal to every integer that rounds to it, and integers
are equal only to themselves; so transitivity holds over the sets of numbers in which no double
stands between two integers, and over no others.
-/

namespace JsonSchema

namespace Number

variable {a b c : Number}

/-- No double of the set is equal to two integers of it. -/
def Separate (numbers : Set Number) : Prop :=
  ∀ i j x, .int i ∈ numbers → .int j ∈ numbers → .real x ∈ numbers →
    (int i).compare (.real x) = .eq → (real x).compare (.int j) = .eq → i = j

theorem compare_int_eq_iff {i j : Int} : (int i).compare (.int j) = .eq ↔ i = j := Int.compare_eq_eq

/-- Numbers that compare as equal are one number as doubles. -/
theorem toRat_eq_of_compare_eq (same : a.compare b = .eq) : a.toBinary64.toRat = b.toBinary64.toRat := by
  cases a with
  | int i =>
    cases b with
    | int j => rw [compare_int_eq_iff.mp same]
    | real y => exact Binary64.compare_eq_iff.mp same
  | real x => exact Binary64.compare_eq_iff.mp same

theorem compare_eq_refl (a : Number) : a.compare a = .eq := by
  cases a with
  | int i => exact compare_int_eq_iff.mpr rfl
  | real x => exact Binary64.compare_eq_iff.mpr rfl

theorem compare_eq_symm (same : a.compare b = .eq) : b.compare a = .eq := by
  have rounded := (toRat_eq_of_compare_eq same).symm
  cases b with
  | int j =>
    cases a with
    | int i => exact compare_int_eq_iff.mpr (compare_int_eq_iff.mp same).symm
    | real x => exact Binary64.compare_eq_iff.mpr rounded
  | real y => exact Binary64.compare_eq_iff.mpr rounded

/-- Rounding links all numbers but two integers, which a double between them may confuse. -/
theorem Separate.compare_eq_trans {numbers : Set Number} (separate : Separate numbers) (inside : a ∈ numbers)
    (inside' : b ∈ numbers) (inside'' : c ∈ numbers) (first : a.compare b = .eq) (second : b.compare c = .eq) :
    a.compare c = .eq := by
  have rounded := (toRat_eq_of_compare_eq first).trans (toRat_eq_of_compare_eq second)
  cases a with
  | real x => exact Binary64.compare_eq_iff.mpr rounded
  | int i =>
    cases c with
    | real z => exact Binary64.compare_eq_iff.mpr rounded
    | int k =>
      cases b with
      | int j => exact compare_int_eq_iff.mpr ((compare_int_eq_iff.mp first).trans (compare_int_eq_iff.mp second))
      | real y => exact compare_int_eq_iff.mpr (separate i k y inside inside'' inside' first second)

/-- Integers up to `2 ^ 53` are doubles, so no double stands between two of them. -/
theorem separate_exact : Separate {n | n.IsExact} := by
  intro i j x exact exact' _ first second
  have rounded := (toRat_eq_of_compare_eq first).trans (toRat_eq_of_compare_eq second)
  rw [toRat_int exact, toRat_int exact'] at rounded
  exact_mod_cast rounded

end Number

namespace Json

/-- The numbers in a value belong to a set. -/
def Over (numbers : Set Number) : Json → Prop := Throughout fun part => ∀ n, part = num n → n ∈ numbers

/-! ## Equal parts -/

/-- Values of one kind with equal parts; the members of objects are matched by their names. -/
inductive Matched : Json → Json → Prop where
  | null : Matched null null
  | bool (b : Bool) : Matched (bool b) (bool b)
  | num {m n : Number} (same : m.compare n = .eq) : Matched (num m) (num n)
  | str (s : String) : Matched (str s) (str s)
  | arr {as bs : List Json} (items : List.Forall₂ (fun a b => a.equal b = true) as bs) : Matched (arr as) (arr bs)
  | obj {as bs : Members} (length : as.length = bs.length)
      (members : ∀ entry ∈ as, ∃ b, bs.lookup entry.1 = some b ∧ entry.2.equal b = true) : Matched (obj as) (obj bs)

theorem itemsEqual_iff_forall₂ {as bs : List Json} :
    itemsEqual as bs = true ↔ List.Forall₂ (fun a b => a.equal b = true) as bs := by
  induction as generalizing bs with
  | nil => cases bs <;> simp [itemsEqual]
  | cons a as ih => cases bs <;> simp [itemsEqual, ih]

theorem equal_iff_matched {a b : Json} : a.equal b = true ↔ Matched a b := by
  constructor
  · intro same
    cases a <;> cases b <;> simp only [equal, Bool.false_eq_true, beq_iff_eq] at same
    case null.null => exact .null
    case bool.bool => exact same ▸ .bool _
    case num.num => exact .num same
    case str.str => exact same ▸ .str _
    case arr.arr => exact .arr (itemsEqual_iff_forall₂.mp same)
    case obj.obj =>
      rw [Bool.and_eq_true, beq_iff_eq, membersEqual_iff] at same
      exact .obj same.1 same.2
  · intro matched
    cases matched with
    | null => rfl
    | bool b => exact beq_self_eq_true b
    | num same => exact beq_iff_eq.mpr same
    | str s => exact beq_self_eq_true s
    | arr items => exact itemsEqual_iff_forall₂.mpr items
    | obj length members =>
      rw [equal, Bool.and_eq_true, beq_iff_eq, membersEqual_iff]
      exact ⟨length, members⟩

/-- Where every name of an object occurs in one of the same size, the names are the same. -/
theorem perm_names {as bs : Members} (nodup : (as.map Prod.fst).Nodup) (length : as.length = bs.length)
    (found : ∀ entry ∈ as, ∃ b, bs.lookup entry.1 = some b) : (as.map Prod.fst).Perm (bs.map Prod.fst) := by
  have sub : as.map Prod.fst ⊆ bs.map Prod.fst := by
    intro name inside
    obtain ⟨entry, listed, rfl⟩ := List.mem_map.mp inside
    obtain ⟨b, found⟩ := found entry listed
    exact List.mem_map.mpr ⟨_, mem_of_lookup found, rfl⟩
  exact (nodup.subperm sub).perm_of_length_le (by simp [length])

/-! ## The laws -/

/-- Every value equals itself. -/
theorem equal_refl {a : Json} (named : a.NamesDiffer) : a.equal a = true := by
  induction depth : a.depth using Nat.strong_induction_on generalizing a with
  | _ depth ih =>
  rw [equal_iff_matched]
  cases a with
  | null => exact .null
  | bool b => exact .bool b
  | num n => exact .num n.compare_eq_refl
  | str s => exact .str s
  | arr items =>
    refine .arr (List.forall₂_same.mpr fun item inside => ?_)
    exact ih _ (depth ▸ depth_lt_of_mem_items inside) (named.of_mem_items inside) rfl
  | obj members =>
    refine .obj rfl fun entry inside => ⟨entry.2, lookup_of_nodup named.nodup inside, ?_⟩
    exact ih _ (depth ▸ depth_lt_of_mem_members inside) (named.of_mem_members inside) rfl

/-- Equality does not depend on the sides. -/
theorem equal_symm {a b : Json} (named : a.NamesDiffer) (named' : b.NamesDiffer) (same : a.equal b = true) :
    b.equal a = true := by
  induction depth : a.depth using Nat.strong_induction_on generalizing a b with
  | _ depth ih =>
  rw [equal_iff_matched] at same ⊢
  cases same with
  | null => exact .null
  | bool b => exact .bool b
  | num same => exact .num (Number.compare_eq_symm same)
  | str s => exact .str s
  | @arr as bs items =>
    refine .arr (List.forall₂_iff_zip.mpr ⟨items.length_eq.symm, fun {b a} pair => ?_⟩)
    have pair : (a, b) ∈ as.zip bs := by
      rw [← List.zip_swap]
      exact List.mem_map.mpr ⟨_, pair, rfl⟩
    have inside := (List.of_mem_zip pair).1
    have inside' := (List.of_mem_zip pair).2
    exact ih _ (depth ▸ depth_lt_of_mem_items inside) (named.of_mem_items inside) (named'.of_mem_items inside')
      ((List.forall₂_iff_zip.mp items).2 pair) rfl
  | @obj as bs length members =>
    have names := perm_names named.nodup length fun entry inside => (members entry inside).imp fun _ found => found.1
    refine .obj length.symm fun ⟨name, b⟩ inside' => ?_
    obtain ⟨⟨name, a⟩, inside, rfl⟩ := List.mem_map.mp (names.mem_iff.mpr (List.mem_map.mpr ⟨_, inside', rfl⟩))
    obtain ⟨b', found, same⟩ := members _ inside
    obtain rfl := Option.some.inj (found.symm.trans (lookup_of_nodup named'.nodup inside'))
    refine ⟨a, lookup_of_nodup named.nodup inside, ?_⟩
    exact ih _ (depth ▸ depth_lt_of_mem_members inside) (named.of_mem_members inside)
      (named'.of_mem_members inside') same rfl

/-- Values over numbers that no double confuses are equal if both equal a third one. -/
theorem equal_trans {numbers : Set Number} (separate : Number.Separate numbers) {a b c : Json}
    (covered : a.Over numbers) (covered' : b.Over numbers) (covered'' : c.Over numbers) (first : a.equal b = true)
    (second : b.equal c = true) : a.equal c = true := by
  induction depth : a.depth using Nat.strong_induction_on generalizing a b c with
  | _ depth ih =>
  rw [equal_iff_matched] at first second ⊢
  cases first with
  | null => exact second
  | bool b => exact second
  | str s => exact second
  | num same =>
    cases second with
    | num same' =>
      exact .num (separate.compare_eq_trans (covered.self _ rfl) (covered'.self _ rfl) (covered''.self _ rfl) same same')
  | @arr as bs items =>
    cases second with
    | @arr _ cs items' =>
      refine .arr (List.forall₂_iff_get.mpr ⟨items.length_eq.trans items'.length_eq, fun i low high => ?_⟩)
      have middle : i < bs.length := items.length_eq ▸ low
      have inside := as.getElem_mem low
      exact ih _ (depth ▸ depth_lt_of_mem_items inside) (covered.of_mem_items inside)
        (covered'.of_mem_items (bs.getElem_mem middle)) (covered''.of_mem_items (cs.getElem_mem high))
        (items.get low middle) (items'.get middle high) rfl
  | @obj as bs length members =>
    cases second with
    | @obj _ cs length' members' =>
      refine .obj (length.trans length') fun entry inside => ?_
      obtain ⟨b, found, same⟩ := members entry inside
      obtain ⟨c, found', same'⟩ := members' _ (mem_of_lookup found)
      refine ⟨c, found', ?_⟩
      exact ih _ (depth ▸ depth_lt_of_mem_members inside) (covered.of_mem_members inside)
        (covered'.of_mem_members (mem_of_lookup found)) (covered''.of_mem_members (mem_of_lookup found')) same same' rfl

/-- Equality of well-formed values is reflexive and symmetric; and it is transitive on the values over
a set of numbers exactly if no double of the set is equal to two of its integers. -/
theorem equality_laws (numbers : Set Number) :
    (∀ a : Json, a.WellFormed → a.equal a = true) ∧
    (∀ a b : Json, a.WellFormed → b.WellFormed → a.equal b = b.equal a) ∧
    (Number.Separate numbers ↔
      ∀ a b c : Json, a.WellFormed → b.WellFormed → c.WellFormed → a.Over numbers → b.Over numbers → c.Over numbers →
        a.equal b = true → b.equal c = true → a.equal c = true) := by
  refine ⟨fun a formed => equal_refl formed.namesDiffer, fun a b formed formed' => ?_, ?_, ?_⟩
  · have named := formed.namesDiffer
    have named' := formed'.namesDiffer
    exact Bool.eq_iff_iff.mpr ⟨equal_symm named named', equal_symm named' named⟩
  · intro separate a b c _ _ _ covered covered' covered''
    exact equal_trans separate covered covered' covered''
  · intro transitive i j x inside inside' inside'' first second
    have formed (n : Number) : (num n).WellFormed := by simp [WellFormed, Storable]
    have covered {n : Number} (inside : n ∈ numbers) : (num n).Over numbers := by simpa [Over] using inside
    have same := transitive (num (.int i)) (num (.real x)) (num (.int j)) (formed _) (formed _) (formed _)
      (covered inside) (covered inside'') (covered inside') (beq_iff_eq.mpr first) (beq_iff_eq.mpr second)
    exact Number.compare_int_eq_iff.mp (beq_iff_eq.mp same)

/-- Three spellings of one object. -/
def spelledWhole : Json := obj [("a", arr [ofNat 1, null]), ("b", ofNat 0)]
def spelledMixed : Json := obj [("b", minusZero), ("a", arr [realOne, null])]
def spelledDouble : Json := obj [("a", arr [realOne, null]), ("b", num (.real (.zero false)))]

theorem spellings_are_equal :
    spelledMixed.equal spelledWhole = spelledWhole.equal spelledMixed ∧ spelledWhole.equal spelledDouble = true := by
  have formed : spelledWhole.WellFormed := by simp [WellFormed, Storable, spelledWhole, ofNat]
  have formed' : spelledMixed.WellFormed := by simp [WellFormed, Storable, spelledMixed, realOne, minusZero]
  have formed'' : spelledDouble.WellFormed := by simp [WellFormed, Storable, spelledDouble, realOne]
  have small : spelledWhole.Exact := by simp [Exact, spelledWhole, ofNat, Number.IsExact, Binary64.normal]
  have small' : spelledMixed.Exact := by simp [Exact, spelledMixed, realOne, minusZero, Number.IsExact]
  have small'' : spelledDouble.Exact := by simp [Exact, spelledDouble, realOne, Number.IsExact]
  obtain ⟨-, symmetric, transitive⟩ := equality_laws {n | n.IsExact}
  refine ⟨symmetric _ _ formed' formed, ?_⟩
  exact transitive.mp Number.separate_exact _ spelledMixed _ formed formed' formed'' small small' small''
    (by decide +kernel) (by decide +kernel)

/-- The double `2 ^ 53`. -/
def twoPow53 : Json := num (.real ⟨false, Binary64.normal, 1, by decide⟩)

/-- The double `2 ^ 53` is equal to the integer `2 ^ 53` and to the next one. -/
theorem equality_not_transitive :
    (ofNat (2 ^ 53 + 1)).equal twoPow53 = true ∧ twoPow53.equal (ofNat (2 ^ 53)) = true ∧
      (ofNat (2 ^ 53 + 1)).equal (ofNat (2 ^ 53)) = false := by
  decide +kernel

end Json
end JsonSchema
