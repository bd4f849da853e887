import JsonSchema.Compiler
import JsonSchema.Proofs.Pointer.Reading
import JsonSchema.Proofs.Uri.Identifier

/-!
# Names of files as references

A name without slashes is one segment of a path. So the documents that are registered by such names are all at the top
of one hierarchy, and a name denotes the same whichever of them it stands in.
-/

namespace JsonSchema.Uri

variable {base uri : Uri} {text : String} {cs : List Char}

/-- A base in the default hierarchy with no more than one segment in its path. -/
structure IsTop (base : Uri) : Prop where
  scheme : base.scheme = default.scheme
  authority : base.authority = default.authority
  flat : base.parentSegments = []

theorem isTop_default : default.IsTop := ⟨rfl, rfl, rfl⟩

/-- A text is read as a path: neither a scheme nor a host starts it. -/
structure ReadsAsPath (text : String) : Prop where
  scheme : scheme? (tidy text) = none
  host : ((tidy text).takeWhile fun c => c = '/' || c = '\\').length < 2

theorem isOpaque_default : default.isOpaque = false := rfl

theorem IsTop.isOpaque (top : base.IsTop) : base.isOpaque = false := by
  rw [Uri.isOpaque, top.authority]
  rfl

theorem IsTop.congr {other : Uri} (top : base.IsTop) (scheme : other.scheme = base.scheme)
    (authority : other.authority = base.authority) (path : other.path = base.path) : other.IsTop := by
  refine ⟨scheme.trans top.scheme, authority.trans top.authority, ?_⟩
  have flat := top.flat
  unfold parentSegments at flat ⊢
  rwa [path, scheme]

theorem IsTop.withoutFragment (top : base.IsTop) : base.withoutFragment.IsTop :=
  top.congr rfl rfl (by simp [Uri.withoutFragment, top.isOpaque])

/-! ## Joining to a top -/

/-- A path continues all tops alike. -/
theorem IsTop.readRelativePath (top : base.IsTop) (start : cs.head? ∉ [none, some '#', some '?']) :
    base.readRelativePath cs = default.readRelativePath cs := by
  unfold Uri.readRelativePath
  split
  · simp at start
  · simp at start
  · simp at start
  · rw [top.scheme, top.authority, top.flat, isTop_default.flat]

theorem IsTop.readRelative (top : base.IsTop) (start : cs.head? ∉ [none, some '#', some '?']) :
    Uri.readRelative base cs = Uri.readRelative default cs := by
  unfold Uri.readRelative
  split
  · rw [top.scheme, top.authority, top.readRelativePath start]
  · simp at start

/-- After a scheme all tops are alike, as theirs has no fixed syntax. -/
theorem IsTop.readAfterScheme (top : base.IsTop) (scheme : String) :
    Uri.readAfterScheme (some base) scheme cs = Uri.readAfterScheme (some default) scheme cs := by
  unfold Uri.readAfterScheme
  by_cases own : default.scheme = scheme
  · subst own
    rfl
  · have unlike {base : Uri} (other : base.scheme ≠ scheme) :
        (some base).filter (fun base => base.scheme = scheme) = none := by simp [other]
    rw [unlike own, unlike (top.scheme ▸ own)]

/-- What a text denotes is the same for all tops, unless it is empty, a query or a fragment. -/
theorem IsTop.join_eq (top : base.IsTop) (start : (tidy text).head? ∉ [none, some '#', some '?']) :
    base.join text = default.join text := by
  unfold join read
  simp only
  split
  · exact top.readAfterScheme _
  · split
    · rename_i rest marked
      simp [marked] at start
    · rw [top.isOpaque, isOpaque_default, top.scheme, top.readRelative start]
      rfl

/-! ## What is at the top -/

theorem tidy_subset (text : String) : tidy text ⊆ text.toList := by
  intro c inside
  unfold tidy at inside
  have kept := List.mem_reverse.mp (List.mem_filter.mp inside).1
  have trimmed := List.mem_reverse.mp ((List.dropWhile_sublist _).subset kept)
  exact (List.dropWhile_sublist _).subset trimmed

theorem slash_not_mem_encode {escaped : Char → Bool} (whole : '/' ∉ cs) : '/' ∉ Percent.encode escaped cs := by
  intro inside
  rcases mem_encode inside with digit | ⟨member, -⟩
  · exact absurd digit (by decide)
  · exact whole member

/-- The only segment of a path stays one, be it dots or not. -/
theorem addSegment_only (whole : '/' ∉ cs) : ∃ segment, addSegment false true [] cs = [segment] ∧ '/' ∉ segment := by
  unfold addSegment
  simp only [Bool.false_and, Bool.false_eq_true, if_true, if_false, dropSegment]
  split
  · exact ⟨[], rfl, by simp⟩
  · split
    · exact ⟨[], rfl, by simp⟩
    · exact ⟨cs, rfl, whole⟩

theorem pathSegments_writeSegments (whole : '/' ∉ cs) : pathSegments (writeSegments false [cs]) = [cs] := by
  have chars : (writeSegments false [cs]).toList = '/' :: cs := by simp [writeSegments]
  rw [pathSegments, chars]
  exact Pointer.splitOn_single whole

/-- What has no slash is a path of one segment. -/
theorem pathSegments_readPath (whole : '/' ∉ cs) :
    ∃ segment, pathSegments (readPath default.scheme [] cs).1 = [segment] := by
  let raw := cs.takeWhile fun c => c ≠ '?' && c ≠ '#'
  have clean : '/' ∉ raw := fun inside => whole ((List.takeWhile_sublist _).subset inside)
  have slashes : isSlash (isSpecial default.scheme) = (· == '/') := by
    funext c
    simp [isSlash, default, show isSpecial "json-schema" = false from rfl, Bool.beq_eq_decide_eq]
  have segments : rawSegments (isSpecial default.scheme) cs = [raw] := by
    rw [rawSegments, slashes]
    exact Pointer.splitOn_single clean
  have path : (readPath default.scheme [] cs).1 =
      writeSegments false (addSegment false true [] (Percent.encode escapedInPath raw)).reverse := by
    have notFile : decide (default.scheme = "file") = false := rfl
    unfold readPath
    simp only [segments, notFile, Bool.false_and, Bool.false_eq_true, if_false]
    rfl
  obtain ⟨segment, added, own⟩ := addSegment_only (slash_not_mem_encode clean)
  rw [path, added]
  exact ⟨segment, pathSegments_writeSegments own⟩

theorem isTop_finish {path : String} {tail : List Char} (single : ∃ segment, pathSegments path = [segment]) :
    (finish default.scheme default.authority path tail).IsTop := by
  obtain ⟨segment, same⟩ := single
  refine ⟨rfl, rfl, ?_⟩
  have path : (finish default.scheme default.authority path tail).path = path := rfl
  rw [parentSegments, path, same]
  rfl

theorem isTop_readRelativePath (whole : '/' ∉ cs) : (default.readRelativePath cs).IsTop := by
  unfold readRelativePath
  split
  · exact isTop_default
  · exact isTop_default.congr rfl rfl rfl
  · exact isTop_finish ⟨[], rfl⟩
  · exact isTop_finish (pathSegments_readPath whole)

/-- What a name without slashes denotes in the default hierarchy is at its top. -/
theorem isTop_of_join (whole : '/' ∉ text.toList) (named : ReadsAsPath text) (joined : default.join text = .ok uri) :
    uri.IsTop := by
  have whole : '/' ∉ tidy text := fun inside => whole (tidy_subset text inside)
  unfold join read at joined
  simp only [named.scheme] at joined
  split at joined
  · cases joined
    exact isTop_default.congr rfl rfl rfl
  · replace joined : readRelative default (tidy text) = .ok uri := joined
    unfold readRelative at joined
    split at joined
    · rename_i c rest chars
      split at joined
      · rw [if_neg] at joined
        · cases joined
          exact isTop_finish (pathSegments_readPath fun inside => whole (chars ▸ List.mem_cons_of_mem _ inside))
        · exact Nat.not_le.mpr (chars ▸ named.host)
      · cases joined
        exact isTop_readRelativePath (chars ▸ whole)
    · cases joined
      exact isTop_default

end JsonSchema.Uri
