import JsonSchema.Json.Canonical
import JsonSchema.Proofs.Json.Text
import JsonSchema.Proofs.Json.Throughout
import JsonSchema.Proofs.Merge.Members
import JsonSchema.Proofs.Number.Numeral
import Mathlib.Data.Char
import Mathlib.Data.List.Lex

/-!
# Canonical texts decide equality

A canonical text tells its value up to the order of members and the spelling of numbers: strings
are read back from their escapes, containers fall apart into their parts in one way, numerals stand
for one number, and sorting forgets the order of members, whose names differ. So values are equal
just if their canonical texts have the same bytes.
-/

namespace JsonSchema.Json

/-! ## Texts of containers -/

theorem canonicalItems_eq (items : List Json) : canonicalItems items = items.map canonicalChars := by
  induction items with
  | nil => rfl
  | cons item rest ih => exact congrArg (item.canonicalChars :: ·) ih

theorem canonicalMembers_eq (members : Members) :
    canonicalMembers members = members.map fun member => (quote member.1, member.2.canonicalChars) := by
  induction members with
  | nil => rfl
  | cons member rest ih => exact congrArg ((quote member.1, member.2.canonicalChars) :: ·) ih

/-- The members of an object as they are written, in the order in which they are. -/
def written (members : Members) : List (List Char × List Char) :=
  (canonicalMembers members).mergeSort fun a b => !writtenBefore b.1 a.1

/-- The text of a written member. -/
def memberText (member : List Char × List Char) : List Char := member.1 ++ ':' :: member.2

theorem canonicalChars_arr (items : List Json) :
    (arr items).canonicalChars = '[' :: (joinWith [','] (items.map canonicalChars) ++ [']']) := by
  change '[' :: joinWith [','] (canonicalItems items) ++ [']'] = _
  rw [canonicalItems_eq, List.cons_append]

theorem canonicalChars_obj (members : Members) :
    (obj members).canonicalChars = '\x7b' :: (joinWith [','] ((written members).map memberText) ++ ['\x7d']) := rfl

theorem written_perm (members : Members) : (written members).Perm (canonicalMembers members) :=
  List.mergeSort_perm _ _

theorem mem_written {members : Members} {entry : List Char × List Char} :
    entry ∈ written members ↔ ∃ member ∈ members, (quote member.1, member.2.canonicalChars) = entry := by
  rw [written, List.mem_mergeSort, canonicalMembers_eq, List.mem_map]

/-! ## Where texts start and end -/

/-- The kind of value that a first character announces. -/
def announced (c : Char) : Char :=
  if c.isDigit || c == '-' then '0' else if c == 't' || c == 'f' then 'b' else c

/-- What the first character of a canonical text announces. -/
def opening : Json → Char
  | .null => 'n'
  | .bool _ => 'b'
  | .num _ => '0'
  | .str _ => '"'
  | .arr _ => '['
  | .obj _ => '\x7b'

theorem canonicalChars_starts (value : Json) :
    ∃ c rest, value.canonicalChars = c :: rest ∧ announced c = value.opening := by
  cases value with
  | null => exact ⟨'n', _, rfl, rfl⟩
  | bool b =>
    cases b with
    | true => exact ⟨'t', _, rfl, rfl⟩
    | false => exact ⟨'f', _, rfl, rfl⟩
  | num n =>
    obtain ⟨first, rest, written, starts, -⟩ := n.write_eq
    refine ⟨first, rest, written, ?_⟩
    rcases starts with digit | rfl
    · simp [announced, digit, opening]
    · rfl
  | str s => exact ⟨'"', _, List.cons_append, rfl⟩
  | arr items => exact ⟨'[', _, canonicalChars_arr items, rfl⟩
  | obj members => exact ⟨'\x7b', _, canonicalChars_obj members, rfl⟩

/-- Texts that agree at the front announce one kind of value. -/
theorem opening_eq {a b : Json} {rest rest' : List Char} (same : a.canonicalChars ++ rest = b.canonicalChars ++ rest') :
    a.opening = b.opening := by
  obtain ⟨c, cs, starts, announces⟩ := a.canonicalChars_starts
  obtain ⟨c', cs', starts', announces'⟩ := b.canonicalChars_starts
  rw [starts, starts'] at same
  rw [← announces, ← announces', (List.cons.inj same).1]

theorem starts_canonicalChars (value : Json) : Starts value.canonicalChars := by
  intro bound
  obtain ⟨c, rest, starts, announces⟩ := value.canonicalChars_starts
  have closing : Closes value.opening := by
    have closes := bound c rest starts
    simp only [Closes, List.mem_cons, List.not_mem_nil, or_false] at closes
    rw [← announces]
    rcases closes with rfl | rfl | rfl <;> decide
  cases value <;> simp [opening, Closes] at closing

/-- Texts without characters that close tell where they end. -/
theorem delimits_of_open {text text' : List Char} (opened : ∀ c ∈ text, ¬ Closes c)
    (opened' : ∀ c ∈ text', ¬ Closes c) : Delimits id text text' := by
  intro rest rest' bound bound' same
  induction text generalizing text' with
  | nil =>
    cases text' with
    | nil => exact ⟨rfl, same⟩
    | cons c' cs' => exact absurd (bound _ _ same) (opened' c' List.mem_cons_self)
  | cons c cs ih =>
    cases text' with
    | nil => exact absurd (bound' _ _ same.symm) (opened c List.mem_cons_self)
    | cons c' cs' =>
      obtain ⟨rfl, later⟩ := List.cons.inj same
      obtain ⟨rfl, ends⟩ := ih (fun a inside => opened a (List.mem_cons_of_mem _ inside))
        (fun a inside => opened' a (List.mem_cons_of_mem _ inside)) later
      exact ⟨rfl, ends⟩

theorem open_null : ∀ c ∈ null.canonicalChars, ¬ Closes c := by
  change ∀ c ∈ "null".toList, ¬ Closes c
  simp [Closes]

theorem open_bool (b : Bool) : ∀ c ∈ (bool b).canonicalChars, ¬ Closes c := by
  change ∀ c ∈ (if b then "true" else "false").toList, ¬ Closes c
  cases b <;> simp [Closes]

theorem open_num (n : Number) : ∀ c ∈ (num n).canonicalChars, ¬ Closes c := by
  obtain ⟨first, rest, written, -, parts⟩ := n.write_eq
  change ∀ c ∈ (n.write .canonical).toList, ¬ Closes c
  rw [written]
  intro c inside closing
  simp only [Closes, List.mem_cons, List.not_mem_nil, or_false] at closing
  rcases parts c inside with digit | sign
  · rcases closing with rfl | rfl | rfl <;> simp at digit
  · rcases closing with rfl | rfl | rfl <;> simp at sign

/-- Written members tell where they end if their values do. -/
theorem delimits_memberText {name name' : String} {text text' : List Char} (delimits : Delimits id text text') :
    Delimits memberText (quote name, text) (quote name', text') := by
  intro rest rest' bound bound' same
  simp only [memberText, List.append_assoc, List.cons_append] at same ⊢
  obtain ⟨rfl, value⟩ := quote_append_inj same
  obtain ⟨rfl, ends⟩ := delimits rest rest' bound bound' (List.cons.inj value).2
  exact ⟨rfl, ends⟩

theorem starts_memberText (name : String) (text : List Char) : Starts (memberText (quote name, text)) := by
  intro bound
  have closing := bound '"' (name.toList.flatMap escape ++ ['"'] ++ ':' :: text) (by simp [memberText, quote])
  revert closing
  decide

/-- The items of an array can be told from its text. -/
theorem items_inj {items items' : List Json} {rest rest' : List Char}
    (delimits : ∀ a ∈ items, ∀ b ∈ items', Delimits id a.canonicalChars b.canonicalChars)
    (same : (arr items).canonicalChars ++ rest = (arr items').canonicalChars ++ rest') :
    items.map canonicalChars = items'.map canonicalChars ∧ rest = rest' := by
  have starts (items : List Json) : ∀ part ∈ items.map canonicalChars, Starts (id part) := by
    simpa using fun item _ => starts_canonicalChars item
  rw [canonicalChars_arr, canonicalChars_arr] at same
  simp only [List.cons_append, List.append_assoc, List.cons.injEq, true_and] at same
  refine joinWith_append_inj (by decide : Closes ']') (by decide) (starts items) (starts items') ?_ (by simpa using same)
  simpa only [List.forall_mem_map] using delimits

/-- The written members of an object can be told from its text. -/
theorem written_inj {members members' : Members} {rest rest' : List Char}
    (delimits : ∀ a ∈ members, ∀ b ∈ members', Delimits id a.2.canonicalChars b.2.canonicalChars)
    (same : (obj members).canonicalChars ++ rest = (obj members').canonicalChars ++ rest') :
    written members = written members' ∧ rest = rest' := by
  have starts (members : Members) : ∀ part ∈ written members, Starts (memberText part) := by
    intro part inside
    obtain ⟨member, -, rfl⟩ := mem_written.mp inside
    exact starts_memberText _ _
  rw [canonicalChars_obj, canonicalChars_obj] at same
  simp only [List.cons_append, List.append_assoc, List.cons.injEq, true_and] at same
  refine joinWith_append_inj (by decide : Closes '\x7d') (by decide) (starts members) (starts members') ?_
    (by simpa using same)
  intro entry listed entry' listed'
  obtain ⟨member, inside, rfl⟩ := mem_written.mp listed
  obtain ⟨member', inside', rfl⟩ := mem_written.mp listed'
  exact delimits_memberText (delimits member inside member' inside')

/-- Every canonical text tells where it ends. -/
theorem delimits_canonicalChars (a b : Json) : Delimits id a.canonicalChars b.canonicalChars := by
  induction depth : a.depth using Nat.strong_induction_on generalizing a b with
  | _ depth ih =>
  intro rest rest' bound bound' same
  have kinds := opening_eq same
  cases a with
  | null =>
    cases b with
    | null => exact delimits_of_open open_null open_null rest rest' bound bound' same
    | _ => simp [opening] at kinds
  | bool x =>
    cases b with
    | bool y => exact delimits_of_open (open_bool x) (open_bool y) rest rest' bound bound' same
    | _ => simp [opening] at kinds
  | num m =>
    cases b with
    | num n => exact delimits_of_open (open_num m) (open_num n) rest rest' bound bound' same
    | _ => simp [opening] at kinds
  | str s =>
    cases b with
    | str t =>
      obtain ⟨rfl, ends⟩ := quote_append_inj same
      exact ⟨rfl, ends⟩
    | _ => simp [opening] at kinds
  | arr items =>
    cases b with
    | arr items' =>
      obtain ⟨parts, ends⟩ :=
        items_inj (fun a inside b _ => ih _ (depth ▸ depth_lt_of_mem_items inside) a b rfl) same
      exact ⟨by rw [canonicalChars_arr, canonicalChars_arr, parts], ends⟩
    | _ => simp [opening] at kinds
  | obj members =>
    cases b with
    | obj members' =>
      obtain ⟨parts, ends⟩ :=
        written_inj (fun a inside b _ => ih _ (depth ▸ depth_lt_of_mem_members inside) a.2 b.2 rfl) same
      exact ⟨by rw [canonicalChars_obj, canonicalChars_obj, parts], ends⟩
    | _ => simp [opening] at kinds

/-! ## The order of members -/

/-- Written names are in the order of their characters. -/
theorem writtenBefore_iff (as bs : List Char) : writtenBefore as bs = true ↔ as < bs := by
  induction as generalizing bs with
  | nil => cases bs <;> simp [writtenBefore]
  | cons a as ih =>
    cases bs with
    | nil => simp [writtenBefore]
    | cons b bs =>
      rw [writtenBefore, List.cons_lt_cons_iff]
      by_cases same : a = b
      · simp [same, ih]
      · have order : a.toNat < b.toNat ↔ a < b := UInt32.lt_iff_toNat_lt.symm
        simp [same, order]

theorem quote_inj {s t : String} (same : quote s = quote t) : s = t :=
  (quote_append_inj (congrArg (· ++ []) same)).1

/-- The names of members that are written differ if those of the members do. -/
theorem nodup_canonicalMembers {members : Members} (nodup : (members.map Prod.fst).Nodup) :
    ((canonicalMembers members).map Prod.fst).Nodup := by
  rw [canonicalMembers_eq, List.map_map]
  have names : Prod.fst ∘ (fun member : String × Json => (quote member.1, member.2.canonicalChars)) =
      quote ∘ Prod.fst := rfl
  rw [names, ← List.map_map]
  exact nodup.map fun s t => quote_inj

/-- Sorting by name forgets the order of members, as their names differ. -/
theorem written_eq_of_perm {members members' : Members} (nodup : (members.map Prod.fst).Nodup)
    (perm : (canonicalMembers members).Perm (canonicalMembers members')) : written members = written members' := by
  have order (p q : List Char × List Char) : (!writtenBefore q.1 p.1) = true ↔ p.1 ≤ q.1 := by
    rw [Bool.not_eq_true', ← Bool.not_eq_true, writtenBefore_iff, not_lt]
  have sorted (members : Members) : (written members).Pairwise fun p q => (!writtenBefore q.1 p.1) = true := by
    refine List.pairwise_mergeSort (fun p q r first second => ?_) (fun p q => ?_) _
    · rw [order] at first second ⊢
      exact le_trans first second
    · rw [Bool.or_eq_true, order, order]
      exact le_total _ _
  have mixed : (written members).Perm (written members') :=
    (written_perm members).trans (perm.trans (written_perm members').symm)
  refine List.Perm.eq_of_pairwise (fun p q inside inside' before after => ?_) (sorted members) (sorted members') mixed
  rw [order] at before after
  refine List.inj_on_of_nodup_map (nodup_canonicalMembers nodup) ?_ ?_ (le_antisymm before after)
  · exact (written_perm members).mem_iff.mp inside
  · exact perm.mem_iff.mpr ((written_perm members').mem_iff.mp inside')

/-! ## Equality -/

/-- The integers in a value have a magnitude of at most `2 ^ 53`. -/
def Exact : Json → Prop := Throughout fun part => ∀ n, part = num n → n.IsExact

theorem itemsEqual_iff {items items' : List Json}
    (each : ∀ a ∈ items, ∀ b ∈ items', a.equal b = true ↔ a.canonicalChars = b.canonicalChars) :
    itemsEqual items items' = true ↔ items.map canonicalChars = items'.map canonicalChars := by
  induction items generalizing items' with
  | nil => cases items' <;> simp [itemsEqual]
  | cons a as ih =>
    cases items' with
    | nil => simp [itemsEqual]
    | cons b bs =>
      have first := each a List.mem_cons_self b List.mem_cons_self
      have later := ih fun a inside b inside' =>
        each a (List.mem_cons_of_mem _ inside) b (List.mem_cons_of_mem _ inside')
      rw [itemsEqual, Bool.and_eq_true, first, later, List.map_cons, List.map_cons, List.cons.injEq]

theorem membersEqual_iff {as bs : Members} :
    membersEqual as bs = true ↔ ∀ entry ∈ as, ∃ b, bs.lookup entry.1 = some b ∧ entry.2.equal b = true := by
  induction as with
  | nil => simp [membersEqual]
  | cons entry rest ih =>
    obtain ⟨name, a⟩ := entry
    rw [membersEqual, Bool.and_eq_true, ih, List.forall_mem_cons]
    cases bs.lookup name <;> simp

/-- Objects are equal if their members are written alike, in some order. -/
theorem perm_canonicalMembers_iff {as bs : Members} (nodup : (as.map Prod.fst).Nodup) (nodup' : (bs.map Prod.fst).Nodup)
    (each : ∀ a ∈ as, ∀ b ∈ bs, a.2.equal b.2 = true ↔ a.2.canonicalChars = b.2.canonicalChars) :
    (as.length == bs.length && membersEqual as bs) = true ↔ (canonicalMembers as).Perm (canonicalMembers bs) := by
  rw [Bool.and_eq_true, beq_iff_eq, membersEqual_iff]
  constructor
  · rintro ⟨length, matched⟩
    have sub : canonicalMembers as ⊆ canonicalMembers bs := by
      rw [canonicalMembers_eq, canonicalMembers_eq]
      intro entry inside
      obtain ⟨⟨name, a⟩, listed, rfl⟩ := List.mem_map.mp inside
      obtain ⟨b, found, equal⟩ := matched (name, a) listed
      have other := mem_of_lookup found
      exact List.mem_map.mpr ⟨(name, b), other, by rw [(each _ listed _ other).mp equal]⟩
    refine (List.Nodup.subperm (nodup_canonicalMembers nodup).of_map sub).perm_of_length_le ?_
    simp [canonicalMembers_eq, length]
  · intro perm
    refine ⟨by simpa [canonicalMembers_eq] using perm.length_eq, fun ⟨name, a⟩ listed => ?_⟩
    have inside : (quote name, a.canonicalChars) ∈ canonicalMembers as := by
      rw [canonicalMembers_eq]
      exact List.mem_map.mpr ⟨_, listed, rfl⟩
    have inside := perm.mem_iff.mp inside
    rw [canonicalMembers_eq] at inside
    obtain ⟨⟨name', b⟩, other, same⟩ := List.mem_map.mp inside
    obtain ⟨names, texts⟩ := Prod.mk.inj same
    obtain rfl := quote_inj names
    exact ⟨b, lookup_of_nodup nodup' other, (each _ listed _ other).mpr texts.symm⟩

/-- Objects have one canonical text if their members are written alike, in some order. -/
theorem canonicalChars_obj_iff {as bs : Members} (nodup : (as.map Prod.fst).Nodup) :
    (obj as).canonicalChars = (obj bs).canonicalChars ↔ (canonicalMembers as).Perm (canonicalMembers bs) := by
  constructor
  · intro same
    have parts := (written_inj (fun a _ b _ => delimits_canonicalChars a.2 b.2) (congrArg (· ++ []) same)).1
    exact (written_perm as).symm.trans (parts ▸ written_perm bs)
  · intro perm
    rw [canonicalChars_obj, canonicalChars_obj, written_eq_of_perm nodup perm]

theorem canonicalChars_arr_iff {items items' : List Json} :
    (arr items).canonicalChars = (arr items').canonicalChars ↔ items.map canonicalChars = items'.map canonicalChars := by
  constructor
  · intro same
    exact (items_inj (fun a _ b _ => delimits_canonicalChars a b) (congrArg (· ++ []) same)).1
  · intro same
    rw [canonicalChars_arr, canonicalChars_arr, same]

/-- Values are equal if their canonical texts are, where names differ and integers are doubles. -/
theorem equal_iff_canonicalChars {a b : Json} (formed : a.WellFormed) (formed' : b.WellFormed) (exact : a.Exact)
    (exact' : b.Exact) : a.equal b = true ↔ a.canonicalChars = b.canonicalChars := by
  induction depth : a.depth using Nat.strong_induction_on generalizing a b with
  | _ depth ih =>
  by_cases kinds : a.opening = b.opening
  · cases a with
    | null =>
      cases b with
      | null => exact iff_of_true rfl rfl
      | _ => simp [opening] at kinds
    | bool x =>
      cases b with
      | bool y => cases x <;> cases y <;> decide
      | _ => simp [opening] at kinds
    | num m =>
      cases b with
      | num n =>
        rw [equal, beq_iff_eq, ← Number.write_eq_iff (exact.self m rfl) (exact'.self n rfl), canonicalChars,
          canonicalChars, String.toList_inj]
      | _ => simp [opening] at kinds
    | str s =>
      cases b with
      | str t =>
        rw [equal, beq_iff_eq]
        exact ⟨fun same => by rw [same], quote_inj⟩
      | _ => simp [opening] at kinds
    | arr items =>
      cases b with
      | arr items' =>
        rw [equal, canonicalChars_arr_iff]
        exact itemsEqual_iff fun a inside b inside' => ih _ (depth ▸ depth_lt_of_mem_items inside)
          (formed.of_mem_items inside) (formed'.of_mem_items inside') (exact.of_mem_items inside)
          (exact'.of_mem_items inside') rfl
      | _ => simp [opening] at kinds
    | obj members =>
      cases b with
      | obj members' =>
        rw [equal, canonicalChars_obj_iff formed.nodup]
        exact perm_canonicalMembers_iff formed.nodup formed'.nodup fun a inside b inside' =>
          ih _ (depth ▸ depth_lt_of_mem_members inside) (formed.of_mem_members inside)
            (formed'.of_mem_members inside') (exact.of_mem_members inside) (exact'.of_mem_members inside') rfl
      | _ => simp [opening] at kinds
  · have texts : a.canonicalChars ≠ b.canonicalChars := fun same => kinds (opening_eq (congrArg (· ++ []) same))
    refine iff_of_false (fun same => ?_) texts
    cases a <;> cases b <;> simp [equal, opening] at same kinds

/-- Two values in which no object repeats a name and integers have a magnitude of at most `2 ^ 53` are
equal if and only if their canonical texts have the same bytes. -/
theorem canonical_bytes_decide_equality {a b : Json} (formed : a.WellFormed) (formed' : b.WellFormed) (exact : a.Exact)
    (exact' : b.Exact) : a.equal b = true ↔ a.canonical.toUTF8 = b.canonical.toUTF8 := by
  rw [String.toUTF8_eq_toByteArray, String.toUTF8_eq_toByteArray, String.toByteArray_inj, canonical, canonical,
    String.ofList_inj]
  exact equal_iff_canonicalChars formed formed' exact exact'

/-- One, as a double. -/
def realOne : Json := .num (.real .one)

/-- Minus zero. -/
def minusZero : Json := .num (.real (.zero true))

theorem spellings_have_equal_bytes :
    (obj [("\n", realOne), ("a", .arr [minusZero])]).canonical.toUTF8 =
      (obj [("a", .arr [.ofNat 0]), ("\n", .ofNat 1)]).canonical.toUTF8 := by
  have formed : (obj [("\n", realOne), ("a", .arr [minusZero])]).WellFormed := by
    simp [WellFormed, Storable, realOne, minusZero]
  have formed' : (obj [("a", .arr [.ofNat 0]), ("\n", .ofNat 1)]).WellFormed := by
    simp [WellFormed, Storable, ofNat]
  have exact : (obj [("\n", realOne), ("a", .arr [minusZero])]).Exact := by
    simp [Exact, realOne, minusZero, Number.IsExact]
  have exact' : (obj [("a", .arr [.ofNat 0]), ("\n", .ofNat 1)]).Exact := by
    simp [Exact, ofNat, Number.IsExact, Binary64.normal]
  exact (canonical_bytes_decide_equality formed formed' exact exact').mp (by decide +kernel)

end JsonSchema.Json
