import JsonSchema.Proofs.Json.Equivalence
import JsonSchema.TypeName

/-!
# Values whose members stand in another order

Two values differ in the order of members only: their objects have the same names, and the values of
each name differ in the order of members in turn. Well-formed values that do so have the same kind,
the same depth and one canonical text, are equal to the same values, and their parts correspond.
-/

namespace JsonSchema

/-- Lists with the same entries up to a relation, once the first one is put in the order of the second. -/
def Corresponds {α : Type} (related : α → α → Prop) (as bs : List (String × α)) : Prop :=
  ∃ cs, as.Perm cs ∧ List.Forall₂ (fun x y => x.1 = y.1 ∧ related x.2 y.2) cs bs

namespace Json

/-- Two values that differ in the order of members, at any depth. -/
inductive Reordered : Json → Json → Prop where
  | null : Reordered null null
  | bool (b : Bool) : Reordered (bool b) (bool b)
  | num (n : Number) : Reordered (num n) (num n)
  | str (s : String) : Reordered (str s) (str s)
  | arr {as bs : List Json} (length : as.length = bs.length)
      (items : ∀ (index : Nat) a b, as[index]? = some a → bs[index]? = some b → Reordered a b) :
      Reordered (arr as) (arr bs)
  | obj {as bs : Members} (names : (as.map Prod.fst).Perm (bs.map Prod.fst))
      (members : ∀ name a b, as.lookup name = some a → bs.lookup name = some b → Reordered a b) :
      Reordered (obj as) (obj bs)

theorem Reordered.refl (a : Json) : a.Reordered a := by
  induction depth : a.depth using Nat.strong_induction_on generalizing a with
  | _ depth ih =>
  cases a with
  | null => exact .null
  | bool b => exact .bool b
  | num n => exact .num n
  | str s => exact .str s
  | arr items =>
    refine .arr rfl fun index a b found found' => ?_
    obtain rfl := Option.some.inj (found.symm.trans found')
    exact ih _ (depth ▸ depth_lt_of_mem_items (List.mem_of_getElem? found)) a rfl
  | obj members =>
    refine .obj (List.Perm.refl _) fun name a b found found' => ?_
    obtain rfl := Option.some.inj (found.symm.trans found')
    exact ih _ (depth ▸ depth_lt_of_mem_members (mem_of_lookup found)) a rfl

/-- Objects with the same members in another order. -/
theorem reordered_of_perm {as bs : Members} (nodup : (as.map Prod.fst).Nodup) (perm : as.Perm bs) :
    (obj as).Reordered (obj bs) := by
  have names := perm.map Prod.fst
  refine .obj names fun name a b found found' => ?_
  have other := lookup_of_nodup (names.nodup_iff.mp nodup) (perm.mem_iff.mp (mem_of_lookup found))
  obtain rfl := Option.some.inj (other.symm.trans found')
  exact .refl a

/-- A well-formed value, and one that differs from it in the order of members. -/
structure Shuffled (a b : Json) : Prop where
  formed : a.WellFormed
  reordered : a.Reordered b

namespace Shuffled

variable {a b : Json} {as bs : Members}

theorem refl (formed : a.WellFormed) : a.Shuffled a := ⟨formed, .refl a⟩

/-! ## Parts -/

theorem items {as bs : List Json} (shuffled : (arr as).Shuffled (arr bs)) : List.Forall₂ Shuffled as bs := by
  obtain ⟨formed, reordered⟩ := shuffled
  cases reordered with
  | arr length each =>
    refine List.forall₂_iff_get.mpr ⟨length, fun index low high => ?_⟩
    exact ⟨formed.of_mem_items (List.get_mem _ _),
      each index _ _ (List.getElem?_eq_getElem low) (List.getElem?_eq_getElem high)⟩

theorem perm_names (shuffled : (obj as).Shuffled (obj bs)) : (as.map Prod.fst).Perm (bs.map Prod.fst) := by
  cases shuffled.reordered with
  | obj names => exact names

theorem nodup_right (shuffled : (obj as).Shuffled (obj bs)) : (bs.map Prod.fst).Nodup :=
  shuffled.perm_names.nodup_iff.mp shuffled.formed.nodup

theorem lookup (shuffled : (obj as).Shuffled (obj bs)) (name : String) :
    Option.Rel Shuffled (as.lookup name) (bs.lookup name) := by
  obtain ⟨formed, reordered⟩ := shuffled
  cases reordered with
  | obj names each =>
    have present : (as.lookup name).isSome ↔ (bs.lookup name).isSome := by
      simp only [List.lookup_isSome_iff, beq_iff_eq]
      have same := names.mem_iff (a := name)
      simp only [List.mem_map] at same
      simpa [eq_comm] using same
    cases left : as.lookup name with
    | none =>
      rw [left] at present
      cases right : bs.lookup name with
      | none => exact .none
      | some b => simp [right] at present
    | some a =>
      rw [left] at present
      cases right : bs.lookup name with
      | none => simp [right] at present
      | some b => exact .some ⟨formed.of_mem_members (mem_of_lookup left), each name a b left right⟩

theorem has_eq (shuffled : (obj as).Shuffled (obj bs)) (name : String) : Members.has as name = Members.has bs name := by
  have found := shuffled.lookup name
  unfold Members.has
  generalize as.lookup name = a, bs.lookup name = b at found
  cases found <;> rfl

/-- The members of one object, put in the order of the other. -/
theorem members (shuffled : (obj as).Shuffled (obj bs)) : Corresponds Shuffled as bs := by
  let own (name : String) : String × Json := (name, (as.lookup name).getD .null)
  have whole : (as.map Prod.fst).map own = as := by
    rw [List.map_map]
    refine (List.map_congr_left fun entry inside => ?_).trans (List.map_id as)
    simp [own, lookup_of_nodup shuffled.formed.nodup inside]
  refine ⟨(bs.map Prod.fst).map own, ?_, ?_⟩
  · conv_lhs => rw [← whole]
    exact shuffled.perm_names.map own
  · rw [List.map_map, List.forall₂_map_left_iff, List.forall₂_same]
    intro entry inside
    have found := shuffled.lookup entry.1
    rw [lookup_of_nodup shuffled.nodup_right inside] at found
    refine ⟨rfl, ?_⟩
    simp only [own, Function.comp_apply]
    cases left : as.lookup entry.1 with
    | none =>
      rw [left] at found
      cases found
    | some a =>
      rw [left] at found
      cases found with
      | some related => exact related

theorem member? (shuffled : a.Shuffled b) (name : String) : Option.Rel Shuffled (a.member? name) (b.member? name) := by
  obtain ⟨formed, reordered⟩ := shuffled
  cases reordered with
  | obj names members => exact lookup ⟨formed, .obj names members⟩ name
  | _ => exact .none

/-- What holds of scalars, and of containers if it holds of the parts that correspond, holds of all values
that differ in the order of members. -/
theorem induct {motive : Json → Json → Prop}
    (scalar : ∀ a, (∀ items, a ≠ arr items) → (∀ members, a ≠ obj members) → motive a a)
    (items : ∀ as bs, (arr as).Shuffled (arr bs) → List.Forall₂ motive as bs → motive (arr as) (arr bs))
    (members : ∀ as bs, (obj as).Shuffled (obj bs) → Corresponds motive as bs →
      (∀ name, Option.Rel motive (as.lookup name) (bs.lookup name)) → motive (obj as) (obj bs))
    (shuffled : a.Shuffled b) : motive a b := by
  induction depth : a.depth using Nat.strong_induction_on generalizing a b with
  | _ depth ih =>
  cases shuffled.reordered with
  | @arr as bs =>
    have smaller := (List.forall₂_and_left _ _).mpr ⟨fun a inside => depth_lt_of_mem_items inside, shuffled.items⟩
    exact items as bs shuffled (smaller.imp fun a b part => ih _ (depth ▸ part.1) part.2 rfl)
  | @obj as bs =>
    refine members as bs shuffled ?_ fun name => ?_
    · obtain ⟨cs, perm, each⟩ := shuffled.members
      have smaller := (List.forall₂_and_left _ _).mpr
        ⟨fun entry inside => depth_lt_of_mem_members (perm.mem_iff.mpr inside), each⟩
      exact ⟨cs, perm, smaller.imp fun x y part => ⟨part.2.1, ih _ (depth ▸ part.1) part.2.2 rfl⟩⟩
    · have found := shuffled.lookup name
      have smaller (a : Json) (left : as.lookup name = some a) := depth_lt_of_mem_members (mem_of_lookup left)
      generalize as.lookup name = left, bs.lookup name = right at found smaller
      cases found with
      | none => exact .none
      | some related => exact .some (ih _ (depth ▸ smaller _ rfl) related rfl)
  | _ => exact scalar _ (by simp) (by simp)

/-! ## What stays the same -/

theorem of_eq (shuffled : a.Shuffled b) : TypeName.of a = TypeName.of b := by
  cases shuffled.reordered <;> rfl

theorem admits (shuffled : a.Shuffled b) (type : TypeName) : type.admits a = type.admits b := by
  cases shuffled.reordered with
  | arr | obj => cases type <;> rfl
  | _ => rfl

theorem itemsDepth_eq {as bs : List Json} (each : List.Forall₂ (fun a b => a.depth = b.depth) as bs) :
    itemsDepth as = itemsDepth bs := by
  induction each with
  | nil => rfl
  | cons first _ ih => rw [itemsDepth, itemsDepth, first, ih]

theorem membersDepth_eq (corresponds : Corresponds (fun a b => a.depth = b.depth) as bs) :
    membersDepth as = membersDepth bs := by
  obtain ⟨cs, perm, each⟩ := corresponds
  have mixed : membersDepth as = membersDepth cs := by
    clear each
    induction perm with
    | nil => rfl
    | cons entry _ ih => rw [membersDepth, membersDepth, ih]
    | swap entry entry' rest => rw [membersDepth, membersDepth, membersDepth, membersDepth, Nat.max_left_comm]
    | trans _ _ ih ih' => exact ih.trans ih'
  rw [mixed]
  clear mixed perm
  induction each with
  | nil => rfl
  | cons first _ ih => rw [membersDepth, membersDepth, first.2, ih]

theorem depth_eq (shuffled : a.Shuffled b) : a.depth = b.depth := by
  refine shuffled.induct (motive := fun a b => a.depth = b.depth) (fun _ _ _ => rfl) (fun as bs _ items => ?_)
    fun as bs _ members _ => ?_
  · rw [depth, depth, itemsDepth_eq items]
  · rw [depth, depth, membersDepth_eq members]

theorem itemsEqual_eq {as bs : List Json} (each : List.Forall₂ (fun a b => ∀ x : Json, x.equal a = x.equal b) as bs)
    (xs : List Json) : itemsEqual xs as = itemsEqual xs bs := by
  induction each generalizing xs with
  | nil => rfl
  | cons first _ ih =>
    cases xs with
    | nil => rfl
    | cons x xs => rw [itemsEqual, itemsEqual, first x, ih xs]

theorem membersEqual_eq
    (each : ∀ name, Option.Rel (fun a b => ∀ x : Json, x.equal a = x.equal b) (as.lookup name) (bs.lookup name))
    (xs : Members) : membersEqual xs as = membersEqual xs bs := by
  induction xs with
  | nil => rfl
  | cons entry rest ih =>
    obtain ⟨name, x⟩ := entry
    rw [membersEqual, membersEqual, ih]
    have found := each name
    generalize as.lookup name = left, bs.lookup name = right at found
    cases found with
    | none => rfl
    | some same => simp only [same x]

/-- Both values are equal to the same ones. -/
theorem equal_eq (shuffled : a.Shuffled b) (x : Json) : x.equal a = x.equal b := by
  refine shuffled.induct (motive := fun a b => ∀ x : Json, x.equal a = x.equal b) (fun _ _ _ _ => rfl)
    (fun as bs _ items x => ?_) (fun as bs shuffled _ members x => ?_) x
  · cases x with
    | arr xs => exact itemsEqual_eq items xs
    | _ => rfl
  · cases x with
    | obj xs =>
      have length : as.length = bs.length := by simpa using shuffled.perm_names.length_eq
      rw [equal, equal, length, membersEqual_eq members]
    | _ => rfl

/-- Both values have one canonical text. -/
theorem canonicalChars_eq (shuffled : a.Shuffled b) : a.canonicalChars = b.canonicalChars := by
  refine shuffled.induct (motive := fun a b => a.canonicalChars = b.canonicalChars) (fun _ _ _ => rfl)
    (fun as bs _ items => ?_) fun as bs shuffled members _ => ?_
  · rw [canonicalChars_arr_iff, ← List.forall₂_eq_eq_eq, List.forall₂_map_left_iff, List.forall₂_map_right_iff]
    exact items
  · obtain ⟨cs, perm, each⟩ := members
    have same : canonicalMembers cs = canonicalMembers bs := by
      rw [canonicalMembers_eq, canonicalMembers_eq, ← List.forall₂_eq_eq_eq, List.forall₂_map_left_iff,
        List.forall₂_map_right_iff]
      exact each.imp fun x y part => by rw [part.1, part.2]
    rw [canonicalChars_obj_iff shuffled.formed.nodup, ← same, canonicalMembers_eq, canonicalMembers_eq]
    exact perm.map _

theorem canonical_eq (shuffled : a.Shuffled b) : a.canonical = b.canonical :=
  congrArg String.ofList shuffled.canonicalChars_eq

end Shuffled
end Json
end JsonSchema
