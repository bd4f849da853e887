import JsonSchema.Proofs.Uri.Escaped

/-!
# The fragment of a reference

A reference is read from its start on, and every part ends before a number sign. So the fragment of
what it denotes is what it says after its first number sign, whatever the base is.
-/

namespace JsonSchema.Uri

/-- The fragment that a text has after its first number sign. -/
def fragmentOf (cs : List Char) : Option String :=
  match cs.dropWhile (· ≠ '#') with
  | '#' :: rest => some (String.ofList (Percent.encode escapedInFragment rest))
  | _ => none

variable {scheme : String} {cs rest : List Char} {base : Uri}

/-! ## Parts without a number sign -/

/-- What stands before a number sign makes no difference. -/
theorem fragmentOf_append {before : List Char} (unmarked : Unmarked before) :
    fragmentOf (before ++ rest) = fragmentOf rest := by
  unfold fragmentOf
  rw [List.dropWhile_append_of_pos]
  intro c inside
  rw [decide_eq_true_eq]
  rintro rfl
  exact unmarked inside

theorem fragmentOf_of_unmarked (unmarked : Unmarked cs) : fragmentOf cs = none := by
  rw [← List.append_nil cs, fragmentOf_append unmarked]
  rfl

theorem fragmentOf_cons {c : Char} (other : c ≠ '#') : fragmentOf (c :: rest) = fragmentOf rest :=
  @fragmentOf_append rest [c] (by simpa [Unmarked] using other.symm)

theorem fragmentOf_drop {n : Nat} (unmarked : Unmarked (cs.take n)) : fragmentOf (cs.drop n) = fragmentOf cs := by
  rw [← fragmentOf_append unmarked, List.take_append_drop]

section
variable {p : Char → Bool} (stops : p '#' = false)
include stops

theorem unmarked_takeWhile : Unmarked (cs.takeWhile p) := by
  intro inside
  have holds := List.all_eq_true.mp List.all_takeWhile _ inside
  rw [stops] at holds
  cases holds

/-- Parts of what stops before a number sign make no difference. -/
theorem fragmentOf_drop_of_le {n : Nat} (inner : n ≤ (cs.takeWhile p).length) : fragmentOf (cs.drop n) = fragmentOf cs := by
  have first : cs.take n = (cs.takeWhile p).take n := by
    conv_lhs => rw [← List.takeWhile_append_dropWhile (p := p) (l := cs)]
    exact List.take_append_of_le_length inner
  apply fragmentOf_drop
  rw [first]
  exact (unmarked_takeWhile stops).of_subset fun c inside => List.mem_of_mem_take inside

theorem fragmentOf_dropWhile : fragmentOf (cs.dropWhile p) = fragmentOf cs := by
  rw [← @fragmentOf_append (cs.dropWhile p) _ (unmarked_takeWhile stops), List.takeWhile_append_dropWhile]

end

/-! ## Paths and authorities -/

theorem fragmentOf_readPath (scheme : String) (before : List (List Char)) (cs : List Char) :
    fragmentOf (readPath scheme before cs).2 = fragmentOf cs := fragmentOf_dropWhile (by decide)

theorem fragmentOf_pathAfterAuthority : fragmentOf (pathAfterAuthority scheme cs).2 = fragmentOf cs := by
  unfold pathAfterAuthority
  split
  · rfl
  · rename_i c rest
    split
    · rename_i slash
      rw [fragmentOf_readPath, fragmentOf_cons]
      rintro rfl
      simp [isSlash] at slash
    · split
      · rfl
      · exact fragmentOf_readPath ..

theorem fragmentOf_splitUser {special : Bool} : fragmentOf (splitUser special cs).2 = fragmentOf cs := by
  unfold splitUser
  extract_lets authority host
  split
  · rfl
  · rename_i longer
    have shorter : host.length ≤ authority.length := by
      simp only [host, List.length_reverse]
      exact (List.takeWhile_sublist _).length_le.trans (by simp)
    have inner : (authority.take (authority.length - host.length - 1)).length + 1 ≤ authority.length := by
      rw [List.length_take]
      omega
    exact fragmentOf_drop_of_le (by simp) inner

theorem unmarked_hostLength (special inBrackets : Bool) (cs : List Char) :
    Unmarked (cs.take (hostLength special inBrackets cs)) := by
  induction cs generalizing inBrackets with
  | nil => simp [Unmarked]
  | cons c rest ih =>
    unfold hostLength
    split
    · simp [Unmarked]
    · rename_i inner
      rw [List.take_succ_cons]
      have other : c ≠ '#' := by
        rintro rfl
        simp at inner
      simpa [Unmarked, other.symm] using ih _

theorem fragmentOf_of_readPort {port : Option Nat} (read : readPort cs = .ok (port, rest)) :
    fragmentOf rest = fragmentOf cs := by
  unfold readPort at read
  extract_lets ds after ends number at read
  split at read
  · cases read
  · obtain ⟨-, rfl⟩ := Prod.mk.inj (Except.ok.inj read)
    exact fragmentOf_dropWhile (by decide)

/-- What is read has the fragment that is written. -/
abbrev ReadsFragment (cs : List Char) (x : Except Fault Uri) : Prop := Reads (fun uri => uri.fragment = fragmentOf cs) x

theorem ReadsFragment.of_eq {x : Except Fault Uri} (reads : ReadsFragment rest x) (same : fragmentOf rest = fragmentOf cs) :
    ReadsFragment cs x := fun uri read => (reads uri read).trans same

theorem readsFragment_finish {authority : Option Authority} {path : String} (same : fragmentOf rest = fragmentOf cs) :
    ReadsFragment cs (.ok (finish scheme authority path rest)) := .ok same

theorem readsFragment_readAuthority (scheme : String) (cs : List Char) : ReadsFragment cs (readAuthority scheme cs) := by
  have host : fragmentOf ((splitUser (isSpecial scheme) cs).2.drop
      (hostLength (isSpecial scheme) false (splitUser (isSpecial scheme) cs).2)) = fragmentOf cs :=
    (fragmentOf_drop (unmarked_hostLength _ _ _)).trans fragmentOf_splitUser
  have served {authority : Option Authority} {tail : List Char} (same : fragmentOf tail = fragmentOf cs) :
      ReadsFragment cs (.ok (finish scheme authority (pathAfterAuthority scheme tail).1 (pathAfterAuthority scheme tail).2)) :=
    readsFragment_finish (fragmentOf_pathAfterAuthority.trans same)
  unfold readAuthority
  simp only [pure_bind]
  split
  on_goal 1 => split
  on_goal 1 => refine .guarded ?_
  all_goals
    refine .guarded ?_
    split
    all_goals
      refine .bind fun name _ => .guarded ?_
      split
      · rename_i rest written
        rw [written, fragmentOf_cons (by decide)] at host
        exact .bind fun port read => served ((fragmentOf_of_readPort read).trans host)
      · exact served host

theorem readsFragment_readFileHost (cs : List Char) : ReadsFragment cs (readFileHost cs) := by
  unfold readFileHost
  extract_lets isEnd name
  simp only [pure_bind]
  split
  · exact readsFragment_finish (fragmentOf_readPath ..)
  · have rest : fragmentOf (cs.drop name.length) = fragmentOf cs := fragmentOf_drop_of_le (by simp [isEnd]) (Nat.le_refl _)
    split
    · exact readsFragment_finish (fragmentOf_pathAfterAuthority.trans rest)
    · exact .bind fun host _ => readsFragment_finish (fragmentOf_pathAfterAuthority.trans rest)

/-! ## References -/

theorem fragment_readRelativePath : (base.readRelativePath cs).fragment = fragmentOf cs := by
  unfold readRelativePath
  split
  · rfl
  · rfl
  · rfl
  · split
    · exact fragmentOf_readPath "file" [] cs
    · exact fragmentOf_readPath base.scheme base.parentSegments cs

theorem readsFragment_readFile (base : Option Uri) (cs : List Char) : ReadsFragment cs (readFile base cs) := by
  unfold readFile
  simp only
  split
  · rename_i c rest
    split
    · rename_i slash
      have own : fragmentOf rest = fragmentOf (c :: rest) := by
        rw [fragmentOf_cons]
        rintro rfl
        simp [isSlash] at slash
      split
      · rename_i double
        refine (readsFragment_readFileHost _).of_eq ?_
        cases rest with
        | nil => cases double
        | cons second rest =>
          rw [← own, List.drop_one, List.tail_cons, fragmentOf_cons]
          rintro rfl
          simp [isSlash] at double
      · exact readsFragment_finish ((fragmentOf_readPath ..).trans own)
    · split
      · exact .ok fragment_readRelativePath
      · exact readsFragment_finish (fragmentOf_readPath ..)
  · split
    · exact .ok fragment_readRelativePath
    · exact readsFragment_finish rfl

theorem readsFragment_readRelative (base : Uri) (cs : List Char) : ReadsFragment cs (readRelative base cs) := by
  unfold readRelative
  split
  · rename_i c rest
    simp only
    split
    · rename_i slash
      have own : fragmentOf rest = fragmentOf (c :: rest) := by
        rw [fragmentOf_cons]
        rintro rfl
        simp at slash
      split
      · rename_i several
        refine (readsFragment_readAuthority _ _).of_eq ?_
        split
        · exact fragmentOf_drop_of_le (p := fun c => c = '/' || c = '\\') (by decide) several
        · exact fragmentOf_drop_of_le (p := fun c => c = '/' || c = '\\') (by decide) (Nat.le_refl _)
      · exact readsFragment_finish ((fragmentOf_readPath ..).trans own)
    · exact .ok fragment_readRelativePath
  · exact .ok fragment_readRelativePath

theorem readsFragment_readOther (scheme : String) (cs : List Char) : ReadsFragment cs (readOther scheme cs) := by
  unfold readOther
  split
  · refine (readsFragment_readAuthority _ _).of_eq ?_
    rw [fragmentOf_cons (by decide), fragmentOf_cons (by decide)]
  · exact readsFragment_finish ((fragmentOf_readPath scheme [] _).trans (fragmentOf_cons (by decide)).symm)
  · exact readsFragment_finish (fragmentOf_dropWhile (by decide))

theorem readsFragment_readAfterScheme (base : Option Uri) (scheme : String) (cs : List Char) :
    ReadsFragment cs (readAfterScheme base scheme cs) := by
  have dropped : fragmentOf (cs.drop (cs.takeWhile (isSlash true)).length) = fragmentOf cs :=
    fragmentOf_drop_of_le (by decide) (Nat.le_refl _)
  have authority : ReadsFragment cs (readAuthority scheme (cs.drop (cs.takeWhile (isSlash true)).length)) :=
    (readsFragment_readAuthority _ _).of_eq dropped
  unfold readAfterScheme
  simp only
  split
  · exact readsFragment_readFile _ cs
  · split
    · split
      · split
        · exact readsFragment_readRelative _ cs
        · exact authority
      · exact authority
    · exact readsFragment_readOther scheme cs

theorem fragmentOf_of_scheme? (found : scheme? cs = some (scheme, rest)) : fragmentOf rest = fragmentOf cs := by
  unfold scheme? at found
  extract_lets inScheme at found
  split at found
  · rename_i first rest' _ after
    split at found
    · obtain ⟨-, rfl⟩ := Prod.mk.inj (Option.some.inj found)
      rw [← fragmentOf_cons (c := ':') (by decide), ← after]
      exact fragmentOf_dropWhile (by decide)
    · cases found
  · cases found

/-- The fragment of what a text denotes follows from the text alone. -/
theorem fragment_of_join {uri : Uri} {text : String} (joined : base.join text = .ok uri) :
    uri.fragment = fragmentOf (tidy text) := by
  have reads : ReadsFragment (tidy text) (base.join text) := by
    unfold join read
    simp only
    split
    · rename_i scheme rest found
      exact (readsFragment_readAfterScheme _ _ _).of_eq (fragmentOf_of_scheme? found)
    · split
      · rename_i rest written
        refine .ok ?_
        rw [written]
        rfl
      · split
        · exact .error
        · split
          · exact readsFragment_readFile _ _
          · exact readsFragment_readRelative _ _
  exact reads uri joined

end JsonSchema.Uri
