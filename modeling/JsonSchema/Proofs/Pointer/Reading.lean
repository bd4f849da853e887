import JsonSchema.Proofs.Json.Throughout
import JsonSchema.Proofs.Merge.Members
import JsonSchema.Proofs.Number.Digits

/-!
# Reading pointers

A pointer is read back from its text, whatever characters its segments have, and a position from
its digits. So the pointer to a member or an item of a value leads there, also when it is written
and read again.
-/

namespace JsonSchema.Pointer

/-! ## Segments -/

/-- An escaped segment has no slash. -/
theorem slash_not_mem_escape (cs : List Char) : '/' ∉ escape cs := by
  fun_induction escape cs with
  | case1 => simp
  | case2 rest ih => simpa using ih
  | case3 rest ih => simpa using ih
  | case4 c rest noTilde noSlash ih =>
    have other : '/' ≠ c := fun same => noSlash same.symm
    simpa [other] using ih

theorem unescape?_escape (cs : List Char) : unescape? (escape cs) = some cs := by
  fun_induction escape cs with
  | case1 => rfl
  | case2 rest ih => simp [unescape?, ih]
  | case3 rest ih => simp [unescape?, ih]
  | case4 c rest noTilde noSlash ih =>
    rw [unescape?, ih]
    · rfl
    all_goals grind

/-- Cutting at slashes gives back what stands between them. -/
theorem splitOn_append {piece rest : List Char} (whole : '/' ∉ piece) :
    Text.splitOn '/' (piece ++ '/' :: rest) = piece :: Text.splitOn '/' rest := by
  induction piece with
  | nil => simp [Text.splitOn, Text.splitWhere]
  | cons c cs ih =>
    have other : c ≠ '/' := fun same => whole (by simp [same])
    have later : '/' ∉ cs := fun inside => whole (by simp [inside])
    have split := ih later
    simp only [Text.splitOn] at split ⊢
    simp [Text.splitWhere, other, split]

theorem splitOn_single {piece : List Char} (whole : '/' ∉ piece) : Text.splitOn '/' piece = [piece] := by
  induction piece with
  | nil => rfl
  | cons c cs ih =>
    have other : c ≠ '/' := fun same => whole (by simp [same])
    have later : '/' ∉ cs := fun inside => whole (by simp [inside])
    have split := ih later
    simp only [Text.splitOn] at split ⊢
    simp [Text.splitWhere, other, split]

/-- The text after the first slash falls apart into the escaped segments. -/
theorem splitOn_pathChars (segment : String) (segments : List String) :
    Text.splitOn '/' (escape segment.toList ++ (⟨segments⟩ : Pointer).pathChars) =
      (segment :: segments).map fun segment => escape segment.toList := by
  induction segments generalizing segment with
  | nil => simpa [pathChars] using splitOn_single (slash_not_mem_escape _)
  | cons next rest ih =>
    have split := @splitOn_append (escape segment.toList) (escape next.toList ++ (⟨rest⟩ : Pointer).pathChars)
      (slash_not_mem_escape _)
    rw [ih] at split
    simpa [pathChars] using split

theorem readSegments_escape (text : String) (segments : List String) :
    readSegments text (segments.map fun segment => escape segment.toList) = .ok segments := by
  induction segments with
  | nil => rfl
  | cons segment rest ih => simp [readSegments, unescape?_escape, ih, Except.map]

/-- What is written is read back, whatever the segments are. -/
theorem parse_text (p : Pointer) : parse p.text = .ok p := by
  obtain ⟨segments⟩ := p
  cases segments with
  | nil => rfl
  | cons segment rest =>
    have split := splitOn_pathChars segment rest
    have body : (⟨segment :: rest⟩ : Pointer).pathChars =
        '/' :: (escape segment.toList ++ (⟨rest⟩ : Pointer).pathChars) := by simp [pathChars]
    simp only [parse, text, String.toList_ofList, body, split, readSegments_escape]
    rfl

/-! ## Positions -/

/-- A position is read back from its digits. -/
theorem strictIndex?_toString {index : Nat} (fits : index < 0x10000000000000000) :
    strictIndex? (toString index) = some index := by
  have text : (toString index).toList = Nat.toDigits 10 index := by simp
  have noPlus (rest : List Char) : Nat.toDigits 10 index ≠ '+' :: rest := by
    intro starts
    have digit : '+'.isDigit = true := Digits.isDigit_of_mem (n := index) (by simp [starts])
    simp at digit
  have noOther : (Nat.toDigits 10 index).any (fun c => c < '0' || '9' < c) = false := by
    rw [List.any_eq_false]
    intro c inside
    have digit := Digits.isDigit_iff.mp (Digits.isDigit_of_mem inside)
    simpa [Char.not_lt] using digit
  have value : (Nat.toDigits 10 index).foldl (fun n c => 10 * n + (c.toNat - '0'.toNat)) 0 = index :=
    Digits.value_toDigits index
  have read : readIndex? (toString index) = some index := by
    unfold readIndex?
    rw [text]
    split
    · rename_i rest starts
      exact absurd starts (noPlus rest)
    · simp only [noOther, value, fits]
      simp
  unfold strictIndex?
  rw [text, read]
  split
  · rename_i c rest starts
    -- only zero itself starts with a zero
    rcases Nat.eq_zero_or_pos index with rfl | positive
    · simp [Nat.toDigits_of_lt_base] at starts
    · exact absurd (by simp [starts]) (Digits.head?_toDigits positive)
  · rfl

/-! ## Below a pointer -/

variable {p : Pointer} {root : Json}

theorem resolve?_join (name : String) : (p.join name).resolve? root = (p.resolve? root).bind (step? · name) := by
  simp [resolve?, join, List.foldlM_append]

/-- The pointer to a member leads to its value. -/
theorem resolve?_member {members : Members} {name : String} {value : Json}
    (found : p.resolve? root = some (.obj members)) (formed : (Json.obj members).WellFormed)
    (inside : (name, value) ∈ members) : (p.join name).resolve? root = some value := by
  rw [resolve?_join, found]
  exact lookup_of_nodup formed.nodup inside

/-- The pointer to an item leads to it. -/
theorem resolve?_item {items : List Json} {index : Nat} {item : Json}
    (found : p.resolve? root = some (.arr items)) (formed : (Json.arr items).WellFormed)
    (inside : items[index]? = some item) : (p.item index).resolve? root = some item := by
  obtain ⟨within, -⟩ := List.getElem?_eq_some_iff.mp inside
  have fits : index < 0x10000000000000000 := Nat.lt_of_lt_of_le within formed.length_le
  rw [Pointer.item, resolve?_join, found, Option.bind_some]
  simp only [step?, strictIndex?_toString fits, Option.bind_some, inside]

end JsonSchema.Pointer
