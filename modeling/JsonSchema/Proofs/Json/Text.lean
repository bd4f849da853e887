import JsonSchema.Json.Reader
import JsonSchema.Json.Writer
import Mathlib.Tactic.IntervalCases

/-!
# Texts that tell where they end

A string is read back from between its quotes, whatever characters it has and whatever follows. A
text whose parts tell where they end falls apart into its parts in one way only.
-/

namespace JsonSchema.Json

/-! ## Strings -/

theorem hexValue?_hexDigit {n : Nat} (small : n < 16) : Reader.hexValue? (hexDigit n) = some n := by
  interval_cases n <;> decide

/-- A control character is read back from its code point. -/
theorem unicodeEscape_control {c : Char} (control : c.toNat < 0x20) (rest : List Char) :
    Reader.unicodeEscape ('0' :: '0' :: hexDigit (c.toNat / 16) :: hexDigit (c.toNat % 16) :: rest) =
      some (c, rest) := by
  have zero : Reader.hexValue? '0' = some 0 := by decide
  have upper := hexValue?_hexDigit (n := c.toNat / 16) (by omega)
  have lower := hexValue?_hexDigit (n := c.toNat % 16) (by omega)
  have unit : 16 * (c.toNat / 16) + c.toNat % 16 = c.toNat := Nat.div_add_mod _ _
  have high : Reader.isHighSurrogate c.toNat = false := by simp [Reader.isHighSurrogate]; omega
  have low : Reader.isLowSurrogate c.toNat = false := by simp [Reader.isLowSurrogate]; omega
  simp [Reader.unicodeEscape, Reader.hex4, zero, upper, lower, unit, high, low]

/-- One escaped character is read back. -/
theorem stringTail_escape (fuel : Nat) (reversed : List Char) (c : Char) (rest : List Char) :
    Reader.stringTail (fuel + 1) reversed (escape c ++ rest) = Reader.stringTail fuel (c :: reversed) rest := by
  have backslash : ('\\' : Char) ≠ '"' ∧ ¬ ('\\' : Char).toNat < 0x20 := by decide
  -- an escape of one letter
  have letter {l : Char} (other : l ≠ 'u') (decoded : Reader.simpleEscape? l = some c) :
      Reader.stringTail (fuel + 1) reversed ('\\' :: l :: rest) = Reader.stringTail fuel (c :: reversed) rest := by
    simp [Reader.stringTail, backslash, decoded]
  unfold escape
  split_ifs with quote slash back feed line carriage tab control
  · exact letter (by decide) (by rw [quote]; rfl)
  · exact letter (by decide) (by rw [slash]; rfl)
  · exact letter (by decide) (by rw [back]; rfl)
  · exact letter (by decide) (by rw [feed]; rfl)
  · exact letter (by decide) (by rw [line]; rfl)
  · exact letter (by decide) (by rw [carriage]; rfl)
  · exact letter (by decide) (by rw [tab]; rfl)
  · simp [Reader.stringTail, backslash, unicodeEscape_control control]
  · simp [Reader.stringTail, quote, slash, control]

theorem stringTail_flatMap {fuel : Nat} {cs : List Char} (enough : cs.length < fuel) (reversed rest : List Char) :
    Reader.stringTail fuel reversed (cs.flatMap escape ++ '"' :: rest) =
      some (String.ofList (reversed.reverse ++ cs), rest) := by
  induction cs generalizing fuel reversed with
  | nil =>
    obtain ⟨fuel, rfl⟩ : ∃ less, fuel = less + 1 := ⟨fuel - 1, by simp at enough; omega⟩
    simp [Reader.stringTail]
  | cons c cs ih =>
    obtain ⟨fuel, rfl⟩ : ∃ less, fuel = less + 1 := ⟨fuel - 1, by simp at enough; omega⟩
    rw [List.flatMap_cons, List.append_assoc, stringTail_escape, ih (by simpa using enough)]
    simp

theorem length_le_flatMap_escape (cs : List Char) : cs.length ≤ (cs.flatMap escape).length := by
  induction cs with
  | nil => simp
  | cons c cs ih =>
    have some : 0 < (escape c).length := by
      unfold escape
      split_ifs <;> simp
    rw [List.flatMap_cons, List.length_append, List.length_cons]
    omega

/-- A string is read back from the text after its opening quote. -/
theorem string_quote (s : String) (rest : List Char) :
    Reader.string (s.toList.flatMap escape ++ '"' :: rest) = some (s, rest) := by
  have enough : s.toList.length < (s.toList.flatMap escape ++ '"' :: rest).length + 1 := by
    have := length_le_flatMap_escape s.toList
    rw [List.length_append]
    omega
  rw [Reader.string, stringTail_flatMap enough]
  simp

/-- Quoted strings tell where they end. -/
theorem quote_append_inj {s t : String} {rest rest' : List Char} (same : quote s ++ rest = quote t ++ rest') :
    s = t ∧ rest = rest' := by
  have body (s : String) (rest : List Char) : quote s ++ rest = '"' :: (s.toList.flatMap escape ++ '"' :: rest) := by
    simp [quote]
  rw [body, body, List.cons.injEq] at same
  have read := string_quote t rest'
  rw [← same.2, string_quote] at read
  simpa using read

/-! ## Parts between separators -/

/-- A separator or a closing bracket. -/
def Closes (c : Char) : Prop := c ∈ [',', ']', '\x7d']

instance (c : Char) : Decidable (Closes c) := inferInstanceAs (Decidable (c ∈ [',', ']', '\x7d']))

/-- A value may be over here: the text ends, or a separator or a closing bracket follows. -/
def Boundary (cs : List Char) : Prop := ∀ c rest, cs = c :: rest → Closes c

/-- The texts of two things, if they agree at the front and may end there, are the text of one thing. -/
def Delimits {α : Type} (text : α → List Char) (x y : α) : Prop :=
  ∀ rest rest', Boundary rest → Boundary rest' → text x ++ rest = text y ++ rest' → x = y ∧ rest = rest'

/-- A text that is there, and that does not start as if a value were over. -/
def Starts (text : List Char) : Prop := ¬ Boundary text

theorem boundary_cons {c : Char} (rest : List Char) (closing : Closes c) : Boundary (c :: rest) := by
  rintro _ _ ⟨⟩
  exact closing

/-- What follows the first of joined parts. -/
theorem joinWith_cons_append (part : List Char) (parts : List (List Char)) (rest : List Char) :
    joinWith [','] (part :: parts) ++ rest =
      part ++ (if parts.isEmpty then rest else ',' :: (joinWith [','] parts ++ rest)) := by
  cases parts <;> simp [joinWith]

/-- Texts joined by commas fall apart in one way. -/
theorem joinWith_append_inj {α : Type} {text : α → List Char} {close : Char} (closing : Closes close) (noComma : close ≠ ',')
    {parts parts' : List α} (starts : ∀ part ∈ parts, Starts (text part)) (starts' : ∀ part ∈ parts', Starts (text part))
    (delimits : ∀ part ∈ parts, ∀ part' ∈ parts', Delimits text part part') {rest rest' : List Char}
    (same : joinWith [','] (parts.map text) ++ close :: rest = joinWith [','] (parts'.map text) ++ close :: rest') :
    parts = parts' ∧ rest = rest' := by
  have bound (rest : List Char) : Boundary (close :: rest) := boundary_cons rest closing
  have apart {part : List Char} (starts : Starts part) (rest rest' : List Char) : close :: rest ≠ part ++ rest' := by
    intro same
    refine starts fun c others starts => ?_
    rw [starts] at same
    cases same
    exact closing
  induction parts generalizing parts' with
  | nil =>
    cases parts' with
    | nil => simpa [joinWith] using same
    | cons part' parts' =>
      rw [List.map_cons, joinWith_cons_append] at same
      exact absurd same (apart (starts' part' List.mem_cons_self) _ _)
  | cons part parts ih =>
    cases parts' with
    | nil =>
      rw [List.map_cons, joinWith_cons_append] at same
      exact absurd same.symm (apart (starts part List.mem_cons_self) _ _)
    | cons part' parts' =>
      rw [List.map_cons, List.map_cons, joinWith_cons_append, joinWith_cons_append] at same
      have follow (parts : List (List Char)) (rest : List Char) :
          Boundary (if parts.isEmpty then close :: rest else ',' :: (joinWith [','] parts ++ close :: rest)) := by
        split
        · exact bound _
        · exact boundary_cons _ (by decide)
      obtain ⟨rfl, continued⟩ :=
        delimits part List.mem_cons_self part' List.mem_cons_self _ _ (follow _ _) (follow _ _) same
      cases parts with
      | nil =>
        cases parts' with
        | nil => exact ⟨rfl, by simpa using continued⟩
        | cons next' others' => exact absurd (List.cons.inj continued).1 noComma
      | cons next others =>
        cases parts' with
        | nil => exact absurd (List.cons.inj continued).1.symm noComma
        | cons next' others' =>
          obtain ⟨later, ends⟩ := ih (fun p inside => starts p (List.mem_cons_of_mem _ inside))
            (fun p inside => starts' p (List.mem_cons_of_mem _ inside))
            (fun p inside p' inside' => delimits p (List.mem_cons_of_mem _ inside) p' (List.mem_cons_of_mem _ inside'))
            (List.cons.inj continued).2
          exact ⟨by rw [later], ends⟩

end JsonSchema.Json
