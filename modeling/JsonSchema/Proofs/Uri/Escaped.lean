import JsonSchema.Proofs.Uri.Host
import JsonSchema.Uri.Reader

/-!
# Addresses without number signs

Whatever an address is read from, a number sign in it starts the fragment and is escaped in all other
parts. So the text of a resource has none.
-/

namespace JsonSchema

/-- No part of an authority has a number sign. -/
structure Authority.Escaped (authority : Authority) : Prop where
  user : Unmarked authority.user.toList
  host : Unmarked authority.host.toList

namespace Uri

/-! ## Paths -/

section
variable {file final : Bool} {reversed segments : List (List Char)}

theorem unmarked_addSegment {segment : List Char} (before : ∀ s ∈ reversed, Unmarked s) (clean : Unmarked segment) :
    ∀ s ∈ addSegment file final reversed segment, Unmarked s := by
  have close {segments : List (List Char)} (known : ∀ s ∈ segments, Unmarked s) :
      ∀ s ∈ if final then [] :: segments else segments, Unmarked s := by
    split
    · exact List.forall_mem_cons.mpr ⟨by simp [Unmarked], known⟩
    · exact known
  have dropped : ∀ s ∈ dropSegment reversed, Unmarked s := by
    unfold dropSegment
    split
    · split
      · exact before
      · exact fun s later => before s (List.mem_cons_of_mem _ later)
    · exact before
  unfold addSegment
  simp only
  split
  · exact close dropped
  · split
    · exact close before
    · split
      · rename_i drive
        refine List.forall_mem_cons.mpr ⟨.cons ?_ (by simp [Unmarked]), before⟩
        cases segment with
        | nil => decide
        | cons c rest => exact fun same => clean (same ▸ List.mem_cons_self)
      · exact List.forall_mem_cons.mpr ⟨clean, before⟩

theorem unmarked_addSegments (before : ∀ s ∈ reversed, Unmarked s) (clean : ∀ s ∈ segments, Unmarked s) :
    ∀ s ∈ addSegments file reversed segments, Unmarked s := by
  induction segments generalizing reversed with
  | nil => exact before
  | cons segment rest ih =>
    obtain ⟨first, others⟩ := List.forall_mem_cons.mp clean
    cases rest with
    | nil => exact unmarked_addSegment before first
    | cons next rest => exact ih (unmarked_addSegment before first) others

theorem unmarked_writeSegments (clean : ∀ s ∈ segments, Unmarked s) : Unmarked (writeSegments file segments).toList := by
  have written : ∀ s ∈ if file then segments.dropWhile List.isEmpty else segments, Unmarked s := by
    split
    · exact fun s inside => clean s ((List.dropWhile_sublist _).subset inside)
    · exact clean
  unfold writeSegments
  rw [String.toList_ofList]
  exact .cons (by decide) (.intercalate (by decide) written)

/-- A path has no number sign if the segments that it continues have none. -/
theorem unmarked_readPath {scheme : String} {before : List (List Char)} (clean : ∀ s ∈ before, Unmarked s)
    (cs : List Char) : Unmarked (readPath scheme before cs).1.toList := by
  unfold readPath
  simp only
  refine unmarked_writeSegments fun s inside => ?_
  refine unmarked_addSegments (fun s inside => clean s (List.mem_reverse.mp inside)) (fun s inside => ?_) s
    (List.mem_reverse.mp inside)
  obtain ⟨raw, -, rfl⟩ := List.mem_map.mp inside
  exact unmarked_encode (.inl (by decide))

theorem unmarked_pathSegments {path : String} (clean : Unmarked path.toList) :
    ∀ s ∈ pathSegments path, Unmarked s := by
  unfold pathSegments
  split
  · rename_i rest slash
    exact fun s inside marked => clean (slash ▸ List.mem_cons_of_mem _ (mem_of_mem_splitWhere inside marked))
  · simp

theorem unmarked_pathAfterAuthority (scheme : String) (cs : List Char) :
    Unmarked (pathAfterAuthority scheme cs).1.toList := by
  have whole (cs : List Char) : Unmarked (readPath scheme [] cs).1.toList := unmarked_readPath (by simp) cs
  unfold pathAfterAuthority
  split
  · simp only
    split <;> simp [Unmarked]
  · split
    · exact whole _
    · split
      · simp [Unmarked]
      · exact whole _

end

/-! ## Addresses -/

/-- No part of an address but the fragment has a number sign. -/
structure Escaped (uri : Uri) : Prop where
  scheme : Unmarked uri.scheme.toList
  authority : ∀ authority ∈ uri.authority, authority.Escaped
  path : Unmarked uri.path.toList
  query : ∀ query ∈ uri.query, Unmarked query.toList

theorem escaped_finish {scheme path : String} {authority : Option Authority} (named : Unmarked scheme.toList)
    (served : ∀ a ∈ authority, a.Escaped) (placed : Unmarked path.toList) (tail : List Char) :
    (finish scheme authority path tail).Escaped := by
  refine ⟨named, served, placed, fun query asked => ?_⟩
  simp only [finish, readTail] at asked
  split at asked
  · cases asked
    rw [String.toList_ofList]
    refine unmarked_encode (.inl ?_)
    simp [escapedInQuery]
  · cases asked

theorem unmarked_writeUser (user : List Char) : Unmarked (writeUser user).toList := by
  have part (cs : List Char) : Unmarked (Percent.encode escapedInUser cs) := unmarked_encode (.inl (by decide))
  unfold writeUser
  simp only
  split
  · simpa using part _
  · simpa using (part _).append (.cons (by decide) (part _))
  · simpa using part _

/-- A property of whatever is read. -/
def Reads (holds : Uri → Prop) (x : Except Fault Uri) : Prop := ∀ uri, x = .ok uri → holds uri

namespace Reads

variable {holds : Uri → Prop}

theorem ok {uri : Uri} (own : holds uri) : Reads holds (.ok uri) := fun _ same => Except.ok.inj same ▸ own

theorem error {fault : Fault} : Reads holds (.error fault) := fun _ same => nomatch same

theorem bind {α : Type} {x : Except Fault α} {next : α → Except Fault Uri}
    (later : ∀ a, x = .ok a → Reads holds (next a)) : Reads holds (x >>= next) := by
  cases first : x with
  | error fault => exact error
  | ok a => exact later a first

theorem guarded {refused : Prop} [Decidable refused] {fault : Fault} {next : PUnit → Except Fault Uri}
    (later : Reads holds (next ⟨⟩)) : Reads holds (if refused then throw fault >>= next else next ⟨⟩) := by
  split
  · exact error
  · exact later

end Reads

variable {scheme : String} {base : Uri}

theorem reads_readAuthority (named : Unmarked scheme.toList) (cs : List Char) : Reads Escaped (readAuthority scheme cs) := by
  have served {user : List Char} {host : String} {port : Option Nat} (known : Unmarked host.toList) (rest : List Char) :
      Reads Escaped (.ok (finish scheme (some ⟨writeUser user, host, port⟩) (pathAfterAuthority scheme rest).1
        (pathAfterAuthority scheme rest).2)) := by
    refine .ok (escaped_finish named ?_ (unmarked_pathAfterAuthority scheme rest) _)
    rintro _ ⟨⟩
    exact ⟨unmarked_writeUser user, known⟩
  unfold readAuthority
  simp only [pure_bind]
  split
  on_goal 1 => split
  on_goal 1 => refine .guarded ?_
  all_goals
    refine .guarded ?_
    split
    on_goal 1 => refine .bind fun host read => have known := unmarked_specialHost read; .guarded ?_
    on_goal 2 => refine .bind fun host read => have known := unmarked_plainHost read; .guarded ?_
    all_goals
      split
      · exact .bind fun port _ => served known _
      · exact served known _

theorem escaped_localFile {host : String} (known : Unmarked host.toList) :
    ∀ authority ∈ some { localFile with host }, authority.Escaped := by
  rintro _ ⟨⟩
  exact ⟨by simp [localFile, Unmarked], known⟩

theorem reads_readFileHost (cs : List Char) : Reads Escaped (readFileHost cs) := by
  have named : Unmarked "file".toList := by simp [Unmarked]
  have none : Unmarked "".toList := by simp [Unmarked]
  unfold readFileHost
  extract_lets isEnd name
  simp only [pure_bind]
  split
  · exact .ok (escaped_finish named (escaped_localFile none) (unmarked_readPath (by simp) _) _)
  · have served {host : String} (known : Unmarked host.toList) : Reads Escaped (.ok (finish "file"
        (some { localFile with
          host := if (pathSegments (pathAfterAuthority "file" (cs.drop name.length)).1).head?.any isWrittenDrive then ""
            else if host = "localhost" then "" else host })
        (pathAfterAuthority "file" (cs.drop name.length)).1 (pathAfterAuthority "file" (cs.drop name.length)).2)) := by
      refine .ok (escaped_finish named (escaped_localFile ?_) (unmarked_pathAfterAuthority _ _) _)
      split
      · exact none
      · split
        · exact none
        · exact known
    split
    · exact served none
    · exact .bind fun host read => served (unmarked_specialHost read)

/-! ## References -/

theorem unmarked_parentSegments (escaped : base.Escaped) : ∀ s ∈ base.parentSegments, Unmarked s := by
  have all := unmarked_pathSegments escaped.path
  unfold parentSegments
  simp only
  split
  · rename_i last rest reversed
    have known : ∀ s ∈ last :: rest, Unmarked s := by
      rw [← reversed]
      exact fun s inside => all s (List.mem_reverse.mp inside)
    split
    · exact fun s inside => all s (by simpa using inside)
    · exact fun s inside => known s (List.mem_cons_of_mem _ (List.mem_reverse.mp inside))
  · simp

theorem escaped_readRelativePath (escaped : base.Escaped) (cs : List Char) : (base.readRelativePath cs).Escaped := by
  have named : Unmarked "file".toList := by simp [Unmarked]
  unfold readRelativePath
  split
  · exact ⟨escaped.scheme, escaped.authority, escaped.path, escaped.query⟩
  · exact ⟨escaped.scheme, escaped.authority, escaped.path, escaped.query⟩
  · exact escaped_finish escaped.scheme escaped.authority escaped.path _
  · split
    · exact escaped_finish named (escaped_localFile (by simp [Unmarked])) (unmarked_readPath (by simp) _) _
    · exact escaped_finish escaped.scheme escaped.authority (unmarked_readPath (unmarked_parentSegments escaped) _) _

theorem reads_readFile {base : Option Uri} (escaped : ∀ uri ∈ base, uri.Escaped) (cs : List Char) :
    Reads Escaped (readFile base cs) := by
  have named : Unmarked "file".toList := by simp [Unmarked]
  have none : Unmarked "".toList := by simp [Unmarked]
  have file {host : String} {before : List (List Char)} (known : Unmarked host.toList)
      (clean : ∀ s ∈ before, Unmarked s) (cs : List Char) :
      Reads Escaped (.ok (finish "file" (some { localFile with host }) (readPath "file" before cs).1
        (readPath "file" before cs).2)) :=
    .ok (escaped_finish named (escaped_localFile known) (unmarked_readPath clean _) _)
  unfold readFile
  simp only
  split
  · split
    · split
      · exact reads_readFileHost _
      · split
        · rename_i own
          have base := escaped own rfl
          have first : Unmarked ((pathSegments own.path).headD []) := by
            have all := unmarked_pathSegments base.path
            cases segments : pathSegments own.path with
            | nil => simp [Unmarked]
            | cons segment rest => exact all segment (segments ▸ List.mem_cons_self)
          split
          · exact file none (by simp) _
          · split
            · exact file none (by simpa using first) _
            · refine file ?_ (by simp) _
              cases known : own.authority with
              | none => exact none
              | some authority => exact (base.authority authority known).host
        · exact file none (by simp) _
    · split
      · exact .ok (escaped_readRelativePath (escaped _ rfl) _)
      · exact file none (by simp) _
  · split
    · exact .ok (escaped_readRelativePath (escaped _ rfl) _)
    · exact .ok (escaped_finish named (escaped_localFile none) (by simp [Unmarked]) _)

theorem reads_readRelative (escaped : base.Escaped) (cs : List Char) : Reads Escaped (readRelative base cs) := by
  unfold readRelative
  split
  · simp only
    split
    · split
      · exact reads_readAuthority escaped.scheme _
      · exact .ok (escaped_finish escaped.scheme escaped.authority (unmarked_readPath (by simp) _) _)
    · exact .ok (escaped_readRelativePath escaped _)
  · exact .ok (escaped_readRelativePath escaped _)

theorem reads_readOther (named : Unmarked scheme.toList) (cs : List Char) : Reads Escaped (readOther scheme cs) := by
  unfold readOther
  split
  · exact reads_readAuthority named _
  · exact .ok (escaped_finish named (by simp) (unmarked_readPath (by simp) _) _)
  · refine .ok (escaped_finish named (by simp) ?_ _)
    rw [String.toList_ofList]
    refine unmarked_encode (.inr fun inside => ?_)
    simpa using List.all_eq_true.mp List.all_takeWhile _ inside

theorem reads_readAfterScheme {base : Option Uri} (escaped : ∀ uri ∈ base, uri.Escaped)
    (named : Unmarked scheme.toList) (cs : List Char) : Reads Escaped (readAfterScheme base scheme cs) := by
  have same : ∀ uri ∈ base.filter fun base => base.scheme = scheme, uri.Escaped := fun uri inside =>
    escaped uri (Option.eq_some_of_filter_eq_some inside)
  unfold readAfterScheme
  simp only
  split
  · exact reads_readFile same cs
  · split
    · split
      · rename_i uri own
        split
        · exact reads_readRelative (same uri own) cs
        · exact reads_readAuthority named _
      · exact reads_readAuthority named _
    · exact reads_readOther named cs

theorem unmarked_scheme? {cs rest : List Char} (found : scheme? cs = some (scheme, rest)) : Unmarked scheme.toList := by
  unfold scheme? at found
  simp only at found
  split at found
  · split at found
    · cases found
      rw [String.toList_ofList]
      intro inside
      obtain ⟨c, member, lower⟩ := List.mem_map.mp inside
      have allowed := List.all_eq_true.mp List.all_takeWhile _ member
      refine toLower_ne_mark ?_ lower
      rintro rfl
      revert allowed
      decide
    · cases found
  · cases found

/-- What a text denotes against an escaped address is escaped. -/
theorem escaped_of_join {uri : Uri} {text : String} (escaped : base.Escaped) (joined : base.join text = .ok uri) :
    uri.Escaped := by
  have reads : Reads Escaped (base.join text) := by
    unfold join read
    simp only
    split
    · rename_i found
      refine reads_readAfterScheme ?_ (unmarked_scheme? found) _
      rintro _ ⟨⟩
      exact escaped
    · split
      · exact .ok ⟨escaped.scheme, escaped.authority, escaped.path, escaped.query⟩
      · split
        · exact .error
        · split
          · refine reads_readFile ?_ _
            rintro _ ⟨⟩
            exact escaped
          · exact reads_readRelative escaped _
  exact reads uri joined

theorem escaped_default : default.Escaped := by
  constructor <;> simp [default, Unmarked]
  constructor <;> simp [Unmarked]

theorem Escaped.withoutFragment {uri : Uri} (escaped : uri.Escaped) : uri.withoutFragment.Escaped := by
  refine ⟨escaped.scheme, escaped.authority, ?_, escaped.query⟩
  unfold Uri.withoutFragment
  simp only
  split
  · rw [String.toList_ofList]
    refine escaped.path.of_subset fun c inside => ?_
    have kept := (List.dropWhile_sublist _).subset (List.mem_reverse.mp inside)
    exact List.mem_reverse.mp kept
  · exact escaped.path

/-- The address of a resource is written without a number sign. -/
theorem Escaped.unmarked_text {uri : Uri} (escaped : uri.Escaped) (whole : uri.fragment = none) :
    Unmarked uri.text.toList := by
  have served : Unmarked uri.authorityText.toList := by
    unfold authorityText
    cases known : uri.authority with
    | none => simp [Unmarked]
    | some authority =>
      obtain ⟨user, host⟩ := escaped.authority authority known
      simp only [String.toList_append]
      refine .append (.append (.append (by simp [Unmarked]) ?_) host) ?_
      · split
        · simp [Unmarked]
        · rw [String.toList_append]
          exact user.append (by simp [Unmarked])
      · split
        · rw [String.toList_append]
          exact .append (by simp [Unmarked]) (by simpa using unmarked_toDigits 10 _)
        · simp [Unmarked]
  have placed : Unmarked uri.pathText.toList := by
    unfold pathText
    split
    · rw [String.toList_append]
      exact .append (by simp [Unmarked]) escaped.path
    · exact escaped.path
  unfold text resourceText
  rw [whole]
  simp only [String.toList_append]
  refine .append (.append (.append (.append escaped.scheme (by simp [Unmarked])) served) placed) ?_
  split
  · rename_i query asked
    rw [String.toList_append]
    exact .append (by simp [Unmarked]) (escaped.query query asked)
  · simp [Unmarked]

end Uri
end JsonSchema
