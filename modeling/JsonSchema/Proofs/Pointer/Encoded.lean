import JsonSchema.Proofs.Pointer.Written

/-!
# Encoded pointers

Percent encoding may write any byte of a pointer as a triple. What decodes to a pointer's text is empty, or
starts with a slash or with the triple of one, whose last digit has either case.
-/

namespace JsonSchema

/-! ## Decoding bytes -/

namespace Utf8

/-- A character that is begun but not completed is no ASCII character, whatever bytes complete it. -/
structure Pending.Wide (p : Pending) : Prop where
  needed : 1 ≤ p.needed
  low : 0x80 ≤ p.low
  high : p.high ≤ 0xBF
  value : 0x80 ≤ 64 ^ (p.needed - 1) * (64 * p.bits + (p.low - 0x80))

/-- What a leading byte contributes is small only where the bounds of the next byte are narrow. -/
theorem leadBits?_eq_some {b needed bits : Nat} (lead : leadBits? b = some (needed, bits)) :
    needed = 1 ∧ 2 ≤ bits ∨ needed = 2 ∧ (1 ≤ bits ∨ b = 0xE0) ∨ needed = 3 ∧ (1 ≤ bits ∨ b = 0xF0) := by
  unfold leadBits? at lead
  split_ifs at lead <;> simp only [Option.some.injEq, Prod.mk.injEq] at lead <;> omega

theorem secondBounds_between (b : Nat) : 0x80 ≤ (secondBounds b).1 ∧ (secondBounds b).2 ≤ 0xBF ∧
    (b = 0xE0 → (secondBounds b).1 = 0xA0) ∧ (b = 0xF0 → (secondBounds b).1 = 0x90) := by
  unfold secondBounds
  split_ifs <;> simp_all

theorem wide_of_begin {b : Nat} {out : List Char} {p : Pending} (begun : begin b = (out, some p)) :
    out = [] ∧ p.Wide := by
  unfold begin at begun
  split at begun
  · cases begun
  · split at begun
    · rename_i needed bits lead
      simp only [Prod.mk.injEq, Option.some.injEq] at begun
      obtain ⟨rfl, rfl⟩ := begun
      obtain ⟨low, high, three, four⟩ := secondBounds_between b
      rcases leadBits?_eq_some lead with ⟨rfl, more⟩ | ⟨rfl, more⟩ | ⟨rfl, more⟩
      · exact ⟨rfl, by simp, low, high, by simp; omega⟩
      · exact ⟨rfl, by simp, low, high, by simp; omega⟩
      · exact ⟨rfl, by simp, low, high, by simp; omega⟩
    · cases begun

theorem toNat_ofNat_of_eq {n : Nat} {c : Char} (same : Char.ofNat n = c) (some : c.toNat ≠ 0) : n = c.toNat := by
  by_cases valid : n.isValidChar
  · rw [← same, Char.ofNat, dif_pos valid]
    rfl
  · rw [← same, Char.ofNat, dif_neg valid] at some
    exact absurd rfl some

theorem ofNat_ne_slash {n : Nat} (wide : 0x80 ≤ n) : Char.ofNat n ≠ '/' := by
  intro same
  have value : n = 0x2F := toNat_ofNat_of_eq same (by decide)
  omega

/-- What is decoded from inside a character is not empty and does not start with a slash. -/
theorem decodeFrom_wide {p : Pending} (wide : p.Wide) (bytes : List Nat) :
    ∃ c rest, decodeFrom (some p) bytes = c :: rest ∧ c ≠ '/' := by
  induction bytes generalizing p with
  | nil => exact ⟨replacement, [], rfl, by decide⟩
  | cons b bytes ih =>
    by_cases inside : p.low ≤ b ∧ b ≤ p.high
    · obtain ⟨needed, low, high, value⟩ := wide
      have least : 64 * p.bits + (p.low - 0x80) ≤ p.bits * 0x40 + b % 0x40 := by omega
      by_cases last : p.needed = 1
      · refine ⟨Char.ofNat (p.bits * 0x40 + b % 0x40), decodeFrom none bytes, ?_, ofNat_ne_slash ?_⟩
        · simp [decodeFrom, step, inside, last]
        · rw [last] at value
          omega
      · have further : Pending.Wide ⟨p.needed - 1, p.bits * 0x40 + b % 0x40, 0x80, 0xBF⟩ := by
          refine ⟨by simp; omega, by simp, by simp, ?_⟩
          have power : 64 ^ (p.needed - 1) = 64 ^ (p.needed - 1 - 1) * 64 := by
            rw [← pow_succ]
            congr 1
            omega
          calc 0x80 ≤ 64 ^ (p.needed - 1) * (64 * p.bits + (p.low - 0x80)) := value
            _ ≤ 64 ^ (p.needed - 1) * (p.bits * 0x40 + b % 0x40) := Nat.mul_le_mul_left _ least
            _ = _ := by rw [power]; simp [Nat.mul_assoc]
        obtain ⟨c, rest, decoded, other⟩ := ih further
        exact ⟨c, rest, by simp [decodeFrom, step, inside, last, decoded], other⟩
    · exact ⟨replacement, (begin b).1 ++ decodeFrom (begin b).2 bytes, by simp [decodeFrom, step, inside], by decide⟩

/-- A decoded text is empty only for no bytes, and starts with a slash only for the byte of a slash. -/
theorem decodeLossy_cons (b : Nat) (bytes : List Nat) :
    ∃ c rest, decodeLossy (b :: bytes) = c :: rest ∧ (c = '/' → b = 0x2F) := by
  unfold decodeLossy
  rw [decodeFrom, step]
  cases begun : begin b with
  | mk out next =>
    cases next with
    | some p =>
      obtain ⟨rfl, wide⟩ := wide_of_begin begun
      obtain ⟨c, rest, decoded, other⟩ := decodeFrom_wide wide bytes
      exact ⟨c, rest, decoded, fun same => absurd same other⟩
    | none =>
      unfold begin at begun
      split at begun
      · cases begun
        exact ⟨Char.ofNat b, _, rfl, fun same => toNat_ofNat_of_eq same (by decide)⟩
      · split at begun
        · cases begun
        · cases begun
          exact ⟨replacement, _, rfl, fun same => absurd same (by decide)⟩

/-- The bytes of a character are one, its own number, or start with a large one. -/
theorem encodeChar_eq (c : Char) :
    encodeChar c = [c.toNat] ∧ c.toNat < 0x80 ∨ ∃ b rest, encodeChar c = b :: rest ∧ 0xC0 ≤ b := by
  unfold encodeChar
  dsimp only
  split_ifs with one two three
  · exact .inl ⟨rfl, one⟩
  · exact .inr ⟨_, _, rfl, by omega⟩
  · exact .inr ⟨_, _, rfl, by omega⟩
  · exact .inr ⟨_, _, rfl, by omega⟩

/-- A small first byte is that of the first character. -/
theorem encode_eq_cons {cs : List Char} {b : Nat} {bytes : List Nat} (bytesOf : encode cs = b :: bytes)
    (small : b < 0x80) : ∃ rest, cs = Char.ofNat b :: rest ∧ bytes = encode rest := by
  cases cs with
  | nil => cases bytesOf
  | cons c rest =>
    rw [encode, List.flatMap_cons] at bytesOf
    rcases encodeChar_eq c with ⟨own, -⟩ | ⟨first, more, own, large⟩
    · rw [own] at bytesOf
      obtain ⟨rfl, rfl⟩ := List.cons_eq_cons.mp bytesOf
      exact ⟨rest, by rw [Char.ofNat_toNat], rfl⟩
    · rw [own] at bytesOf
      obtain ⟨rfl, -⟩ := List.cons_eq_cons.mp bytesOf
      omega

end Utf8

/-! ## Encoded slashes -/

namespace Percent

theorem hexValue?_eq_two {n : Nat} (value : hexValue? n = some 2) : n = 0x32 := by
  unfold hexValue? at value
  split_ifs at value <;> simp only [Option.some.injEq] at value <;> omega

theorem hexValue?_eq_fifteen {n : Nat} (value : hexValue? n = some 15) : n = 0x46 ∨ n = 0x66 := by
  unfold hexValue? at value
  split_ifs at value <;> simp only [Option.some.injEq] at value <;> omega

theorem hexValue?_lt {n value : Nat} (found : hexValue? n = some value) : value < 16 := by
  unfold hexValue? at found
  split_ifs at found <;> simp only [Option.some.injEq] at found <;> omega

/-- The first of the decoded bytes is that of a slash where there is one, or a triple of one. -/
theorem decodeBytes_slash {bytes rest : List Nat} (decoded : decodeBytes bytes = 0x2F :: rest) :
    (∃ more, bytes = 0x2F :: more) ∨ ∃ b more, bytes = 0x25 :: 0x32 :: b :: more ∧ (b = 0x46 ∨ b = 0x66) := by
  fun_cases decodeBytes bytes with
  | case1 a b more high low second first =>
    have lead : 16 * high + low = 0x2F := by simpa [decodeBytes, first, second] using congrArg List.head? decoded
    have bound := hexValue?_lt second
    obtain rfl : high = 2 := by omega
    obtain rfl : low = 15 := by omega
    exact .inr ⟨b, more, by rw [hexValue?_eq_two first], hexValue?_eq_fifteen second⟩
  | case2 a b more none =>
    rw [decodeBytes] at decoded
    split at decoded
    · simp_all
    · simp at decoded
  | case3 b more other =>
    rw [decodeBytes] at decoded
    · exact .inl ⟨more, by rw [(List.cons_eq_cons.mp decoded).1]⟩
    · exact other
  | case4 => cases decoded

theorem decodeBytes_eq_nil {bytes : List Nat} (decoded : decodeBytes bytes = []) : bytes = [] := by
  fun_cases decodeBytes bytes with
  | case1 a b more high low first second => simp [decodeBytes, first, second] at decoded
  | case2 a b more none =>
    rw [decodeBytes] at decoded
    split at decoded <;> cases decoded
  | case3 b more other =>
    rw [decodeBytes] at decoded
    · cases decoded
    · exact other
  | case4 => rfl

/-- Only the empty text decodes to it. -/
theorem eq_empty_of_decode {identifier : String} (decoded : decode identifier = "") : identifier = "" := by
  have chars : Utf8.decodeLossy (decodeBytes (Utf8.encode identifier.toList)) = [] := by
    simpa [decode] using decoded
  cases bytes : decodeBytes (Utf8.encode identifier.toList) with
  | cons b more =>
    obtain ⟨c, rest, some, -⟩ := Utf8.decodeLossy_cons b more
    rw [bytes, some] at chars
    cases chars
  | nil =>
    have none := decodeBytes_eq_nil bytes
    cases cs : identifier.toList with
    | nil => exact String.toList_inj.mp cs
    | cons c rest =>
      rw [cs, Utf8.encode, List.flatMap_cons] at none
      rcases Utf8.encodeChar_eq c with ⟨own, -⟩ | ⟨_, _, own, -⟩ <;> simp [own] at none

/-- What decodes to a text with a slash in front starts with a slash or a triple of one. -/
theorem starts_of_decode {identifier : String} {rest : List Char} (decoded : (decode identifier).toList = '/' :: rest) :
    (∃ more, identifier.toList = '/' :: more) ∨ ∃ c more, identifier.toList = '%' :: '2' :: c :: more ∧ (c = 'F' ∨ c = 'f') := by
  have chars : Utf8.decodeLossy (decodeBytes (Utf8.encode identifier.toList)) = '/' :: rest := by
    simpa [decode] using decoded
  cases bytes : decodeBytes (Utf8.encode identifier.toList) with
  | nil =>
    rw [bytes] at chars
    cases chars
  | cons b more =>
    obtain ⟨c, others, first, slash⟩ := Utf8.decodeLossy_cons b more
    rw [bytes, first] at chars
    obtain ⟨rfl, -⟩ := List.cons_eq_cons.mp chars
    rw [slash rfl] at bytes
    rcases decodeBytes_slash bytes with ⟨more, plain⟩ | ⟨digit, more, triple, digits⟩
    · obtain ⟨tail, same, -⟩ := Utf8.encode_eq_cons plain (by decide)
      exact .inl ⟨tail, same⟩
    · obtain ⟨tail, same, later⟩ := Utf8.encode_eq_cons triple (by decide)
      obtain ⟨tail', same', later'⟩ := Utf8.encode_eq_cons later.symm (by decide)
      obtain ⟨tail'', same'', -⟩ := Utf8.encode_eq_cons later'.symm (by rcases digits with rfl | rfl <;> decide)
      refine .inr ⟨Char.ofNat digit, tail'', ?_, ?_⟩
      · rw [same, same', same'']
      · rcases digits with rfl | rfl
        · exact .inl rfl
        · exact .inr rfl

end Percent

/-! ## Pointers -/

namespace Pointer

/-- The text without the mark in front is read back too. -/
theorem parse_path (p : Pointer) : parse p.path = .ok p := by
  rcases p with ⟨_ | ⟨segment, rest⟩⟩
  · rfl
  · have body : bodyChars (⟨segment :: rest⟩ : Pointer).path =
        '/' :: (escape segment.toList ++ (⟨rest⟩ : Pointer).pathChars) := by simp [bodyChars, path, pathChars]
    rw [parse_eq, body]
    simp only [splitOn_pathChars, readSegments_escape]
    rfl

end Pointer
end JsonSchema
