import JsonSchema.Uri.Host
import Mathlib.Tactic.IntervalCases

/-!
# Hosts without number signs

A number sign in an address starts the fragment. It belongs neither to what is escaped with
percent signs nor to a host of any kind.
-/

namespace JsonSchema

/-- No number sign occurs. -/
def Unmarked (cs : List Char) : Prop := '#' ∉ cs

namespace Unmarked

variable {cs ds : List Char}

theorem of_subset (clean : Unmarked ds) (subset : cs ⊆ ds) : Unmarked cs := fun inside => clean (subset inside)

theorem append (left : Unmarked cs) (right : Unmarked ds) : Unmarked (cs ++ ds) := fun inside =>
  (List.mem_append.mp inside).elim left right

theorem cons {c : Char} (other : c ≠ '#') (clean : Unmarked cs) : Unmarked (c :: cs) := fun inside =>
  (List.mem_cons.mp inside).elim (fun same => other same.symm) clean

/-- Pieces put together with a separator that is no number sign. -/
theorem intercalate {separator : Char} (other : separator ≠ '#') {pieces : List (List Char)}
    (clean : ∀ piece ∈ pieces, Unmarked piece) : Unmarked (List.intercalate [separator] pieces) := by
  have each : ∀ piece ∈ pieces.intersperse [separator], Unmarked piece := by
    induction pieces with
    | nil => simp
    | cons first rest ih =>
      cases rest with
      | nil => simpa using clean
      | cons second rest =>
        rw [List.intersperse_cons_cons]
        rintro piece inside
        rcases List.mem_cons.mp inside with rfl | inside
        · exact clean _ (by simp)
        · rcases List.mem_cons.mp inside with rfl | inside
          · exact .cons other (by simp [Unmarked])
          · exact ih (fun piece later => clean piece (by simp [later])) piece inside
  rintro inside
  obtain ⟨piece, listed, marked⟩ := List.mem_flatten.mp inside
  exact each piece listed marked

end Unmarked

/-! ## Characters that are written -/

/-- A numeral beyond the last digit is written as a star. -/
theorem digitChar_eq_star {n : Nat} (large : 16 ≤ n) : Nat.digitChar n = '*' := by
  unfold Nat.digitChar
  repeat rw [if_neg (by omega)]

theorem digitChar_ne_mark (n : Nat) : Nat.digitChar n ≠ '#' := by
  rcases Nat.lt_or_ge n 16 with small | large
  · interval_cases n <;> decide
  · rw [digitChar_eq_star large]
    decide

/-- A digit of a byte is hexadecimal and large. -/
theorem hexDigit_mem (n : Nat) : Percent.hexDigit n ∈ '*' :: "0123456789ABCDEF".toList := by
  unfold Percent.hexDigit
  rcases Nat.lt_or_ge n 16 with small | large
  · interval_cases n <;> decide
  · rw [digitChar_eq_star large]
    decide

private theorem unmarked_toDigitsCore {base fuel n : Nat} {ds : List Char} (clean : Unmarked ds) :
    Unmarked (Nat.toDigitsCore base fuel n ds) := by
  induction fuel generalizing n ds with
  | zero => exact clean
  | succ fuel ih =>
    have digit : Unmarked (Nat.digitChar (n % base) :: ds) := .cons (digitChar_ne_mark _) clean
    simp only [Nat.toDigitsCore]
    split
    · exact digit
    · exact ih digit

theorem unmarked_toDigits (base n : Nat) : Unmarked (Nat.toDigits base n) :=
  unmarked_toDigitsCore (by simp [Unmarked])

theorem toLower_ne_mark {c : Char} (other : c ≠ '#') : c.toLower ≠ '#' := by
  unfold Char.toLower
  split
  · rename_i upper
    intro same
    have value : (c.val + 32).toNat = 35 := congrArg (fun c => c.val.toNat) same
    have least : 65 ≤ c.val.toNat := UInt32.le_iff_toNat_le.mp upper.1
    have most : c.val.toNat ≤ 90 := UInt32.le_iff_toNat_le.mp upper.2
    have sum : (c.val + 32).toNat = (c.val.toNat + 32) % 2 ^ 32 := UInt32.toNat_add _ _
    omega
  · exact other

/-- What is escaped is written with percent signs and digits. -/
theorem mem_encode {escaped : Char → Bool} {cs : List Char} {c : Char} (inside : c ∈ Percent.encode escaped cs) :
    c ∈ '%' :: '*' :: "0123456789ABCDEF".toList ∨ c ∈ cs ∧ escaped c = false := by
  obtain ⟨own, member, written⟩ := List.mem_flatMap.mp inside
  unfold Percent.encodeChar at written
  split at written
  · obtain ⟨byte, -, digit⟩ := List.mem_flatMap.mp written
    simp only [Percent.encodeByte, List.mem_cons, List.not_mem_nil, or_false] at digit
    refine .inl ?_
    rcases digit with rfl | rfl | rfl
    · exact List.mem_cons_self
    · exact List.mem_cons_of_mem _ (hexDigit_mem _)
    · exact List.mem_cons_of_mem _ (hexDigit_mem _)
  · rename_i plain
    obtain rfl := List.mem_singleton.mp written
    exact .inr ⟨member, Bool.not_eq_true _ ▸ plain⟩

theorem unmarked_encode {escaped : Char → Bool} {cs : List Char} (clean : escaped '#' = true ∨ Unmarked cs) :
    Unmarked (Percent.encode escaped cs) := by
  intro inside
  rcases mem_encode inside with digit | ⟨member, plain⟩
  · exact absurd digit (by decide)
  · exact clean.elim (fun marked => Bool.false_ne_true (plain.symm.trans marked)) fun clean => clean member

theorem mem_of_mem_splitWhere {p : Char → Bool} {cs piece : List Char} {c : Char}
    (listed : piece ∈ Text.splitWhere p cs) (inside : c ∈ piece) : c ∈ cs := by
  induction cs generalizing piece with
  | nil => simp_all [Text.splitWhere]
  | cons first rest ih =>
    rw [Text.splitWhere] at listed
    split at listed
    · rcases List.mem_cons.mp listed with rfl | later
      · cases inside
      · exact List.mem_cons_of_mem _ (ih later inside)
    · split at listed
      · simp_all
      · rename_i piece' pieces split
        rw [split] at ih
        rcases List.mem_cons.mp listed with rfl | later
        · rcases List.mem_cons.mp inside with rfl | inside
          · exact List.mem_cons_self
          · exact List.mem_cons_of_mem _ (ih List.mem_cons_self inside)
        · exact List.mem_cons_of_mem _ (ih (List.mem_cons_of_mem _ later) inside)

/-! ## Hosts -/

theorem exists_of_mapM_eq_some {α β : Type} {f : α → Option β} {xs : List α} {ys : List β} (all : xs.mapM f = some ys)
    {y : β} (inside : y ∈ ys) : ∃ x ∈ xs, f x = some y := by
  induction xs generalizing ys with
  | nil =>
    cases all
    cases inside
  | cons x rest ih =>
    rw [List.mapM_cons] at all
    obtain ⟨first, made, all⟩ := Option.bind_eq_some_iff.mp all
    obtain ⟨others, later, same⟩ := Option.bind_eq_some_iff.mp all
    cases same
    rcases List.mem_cons.mp inside with rfl | inside
    · exact ⟨x, List.mem_cons_self, made⟩
    · obtain ⟨x', member, made⟩ := ih later inside
      exact ⟨x', List.mem_cons_of_mem _ member, made⟩

theorem ofNat_ne_mark {n : Nat} (other : n ≠ 0x23) : Char.ofNat n ≠ '#' := by
  intro same
  have value : (Char.ofNat n).toNat = 0x23 := by rw [same]; rfl
  by_cases valid : n.isValidChar
  · rw [Char.ofNat, dif_pos valid] at value
    exact other value
  · rw [Char.ofNat, dif_neg valid] at value
    cases value

namespace Punycode

theorem digitChar_ne_mark (d : Nat) : digitChar d ≠ '#' := by
  unfold digitChar
  split <;> exact ofNat_ne_mark (by omega)

theorem unmarked_encodeDelta (bias fuel k q : Nat) : Unmarked (encodeDelta bias fuel k q) := by
  induction fuel generalizing k q with
  | zero => simp [encodeDelta, Unmarked]
  | succ fuel ih =>
    simp only [encodeDelta]
    split
    · exact .cons (digitChar_ne_mark _) (by simp [Unmarked])
    · exact .cons (digitChar_ne_mark _) (ih _ _)

theorem unmarked_placeCode {basic code : Nat} {codes : List Nat} {p : Progress} (clean : Unmarked p.written) :
    Unmarked (placeCode basic code codes p).written := by
  unfold placeCode
  induction codes generalizing p with
  | nil => exact clean
  | cons c rest ih =>
    rw [List.foldl_cons]
    apply ih
    split
    · exact clean
    · split
      · exact clean.append (unmarked_encodeDelta _ _ _ _)
      · exact clean

theorem unmarked_encode {label : List Char} (clean : Unmarked label) : Unmarked (encode label) := by
  have ascii : Unmarked (label.filter fun c => c.toNat < 0x80) :=
    clean.of_subset fun _ inside => (List.mem_filter.mp inside).1
  refine Unmarked.append ?_
    (List.foldlRecOn (motive := fun state : Progress × Nat => Unmarked state.1.written) _ _ (by simp [Unmarked]) ?_)
  · split
    · simp [Unmarked]
    · exact ascii.append (by simp [Unmarked])
  · exact fun state known code _ => unmarked_placeCode known

end Punycode

namespace DomainName

theorem unmarked_label? {source : List Char} {label : Label} (clean : Unmarked source)
    (read : label? source = some label) : Unmarked label.ascii := by
  unfold label? at read
  split at read
  · obtain ⟨shown, -, kept⟩ := Option.bind_eq_some_iff.mp read
    split at kept <;> cases kept
    exact clean
  · split at read <;> cases read
    · exact clean
    · exact .append (by simp [mark, Unmarked]) (Punycode.unmarked_encode clean)

theorem unmarked_toAscii? {bytes : List Nat} {ascii : List Char} (written : toAscii? bytes = some ascii) :
    Unmarked ascii := by
  obtain ⟨text, -, written⟩ := Option.bind_eq_some_iff.mp written
  have allowed : (mapText text).any isDenied = false := by
    by_contra denied
    rw [Bool.not_eq_false] at denied
    simp only [denied, ↓reduceIte] at written
    cases written
  have clean : Unmarked (mapText text) := fun inside => by
    have := List.any_eq_false.mp allowed _ inside
    exact this (by decide)
  simp only [allowed, Bool.false_eq_true, ↓reduceIte] at written
  obtain ⟨labels, each, same⟩ := Option.bind_eq_some_iff.mp written
  split at same <;> cases same
  refine .intercalate (by decide) fun ascii listed => ?_
  obtain ⟨label, member, rfl⟩ := List.mem_map.mp listed
  obtain ⟨source, inside, made⟩ := exists_of_mapM_eq_some each member
  exact unmarked_label? (fun marked => clean (mem_of_mem_splitWhere inside marked)) made

end DomainName

namespace Uri

theorem unmarked_ipv4Text (n : Nat) : Unmarked (ipv4Text n).toList := by
  unfold ipv4Text
  rw [String.toList_intercalate]
  refine .intercalate (by decide) fun piece listed => ?_
  simp only [List.mem_map] at listed
  obtain ⟨_, ⟨byte, -, rfl⟩, rfl⟩ := listed
  simpa using unmarked_toDigits 10 byte

theorem unmarked_ipv6Text (pieces : List Nat) : Unmarked (ipv6Text pieces).toList := by
  have hex (ns : List Nat) :
      Unmarked (":".intercalate (ns.map fun n => String.ofList (Nat.toDigits 16 n))).toList := by
    rw [String.toList_intercalate]
    refine .intercalate (by decide) fun piece listed => ?_
    simp only [List.mem_map] at listed
    obtain ⟨_, ⟨n, -, rfl⟩, rfl⟩ := listed
    simpa using unmarked_toDigits 16 n
  unfold ipv6Text
  simp only
  split
  · exact hex _
  · simp only [String.toList_append]
    exact ((hex _).append (by simp [Unmarked])).append (hex _)

theorem unmarked_bracketedHost {cs : List Char} {host : String} (read : bracketedHost cs = .ok host) :
    Unmarked host.toList := by
  unfold bracketedHost at read
  split at read
  · cases read
  · split at read
    · cases read
      simp only [String.toList_append]
      exact (Unmarked.append (by simp [Unmarked]) (unmarked_ipv6Text _)).append (by simp [Unmarked])
    · cases read

theorem unmarked_specialHost {cs : List Char} {host : String} (read : specialHost cs = .ok host) :
    Unmarked host.toList := by
  unfold specialHost at read
  split at read
  · exact unmarked_bracketedHost read
  · split at read
    · cases read
    · cases read
    · rename_i domain _ ascii
      split at read
      · split at read
        · cases read
          exact unmarked_ipv4Text _
        · cases read
      · cases read
        simpa using DomainName.unmarked_toAscii? ascii

theorem unmarked_plainHost {cs : List Char} {host : String} (read : plainHost cs = .ok host) :
    Unmarked host.toList := by
  unfold plainHost at read
  split at read
  · exact unmarked_bracketedHost read
  · split at read
    · cases read
    · rename_i allowed
      cases read
      have clean : Unmarked cs := fun inside => allowed (List.any_eq_true.mpr ⟨_, inside, by decide⟩)
      simpa using unmarked_encode (.inr clean)

end Uri
end JsonSchema
