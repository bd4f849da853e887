import JsonSchema.Proofs.Reduction.Selection

/-!
# The same verdict on `oneOf`

Validation and reduction decide on `oneOf` alike: both fail with one violation, or validation finds none
and reduction records the member that the value selects. A member at the location of the fragment itself
would be asked in another way, and so would what it negates.
-/

namespace JsonSchema

open Fragment

namespace Keyword

variable {keyword : Keyword} {code : ViolationCode}

/-- The violations that `oneOf` reports of the value are its own. -/
theorem eq_oneOf_of_codes (own : code ∈ keyword.codes) (listed : code ∈ Keyword.oneOf.codes) : keyword = .oneOf := by
  have apart : ∀ code ∈ Keyword.oneOf.codes, code ∈ keyword.codes → keyword = .oneOf := by cases keyword <;> decide
  exact apart code listed own

theorem eq_oneOf_of_passesTo? (passes : keyword.passesTo? = some .oneOf) : keyword = .oneOf := by
  cases keyword <;> first | rfl | cases passes

end Keyword

namespace Context

variable {context : Context} {fragment : Fragment} {data : Json} {p : Pointer} {scope : Scope} {depth : Nat}
  {found : List Violation}

/-- A fragment without composition reports at the place of the value what is its own. -/
theorem schema_of_rests (rests : fragment.Rests context.draft)
    (checked : (context.judge depth).validate fragment data p scope = some found) {v : Violation} (inside : v ∈ found)
    (here : v.pointer = p) : v.code = .invalidData ∨ v.schema = fragment.schema := by
  cases depth with
  | zero => cases checked
  | succ depth =>
    have checked : context.validateStep (context.judge depth) fragment data p scope = some found := checked
    by_cases free : scope.isChecking fragment.location p = true
    · rw [validateStep, if_pos free] at checked
      cases checked
      cases inside
    · rw [validateStep_of_inside? (by simpa using free) (inside?_of_settled rests.1)] at checked
      rcases context.reported_here checked inside here with invalid | ⟨keyword, own, -, -, ⟨own, -⟩ | ⟨reducer, -, has⟩⟩
      · exact .inl invalid
      · exact .inr own
      · rw [rests.not_has reducer] at has
        cases has

/-- Where a member of `oneOf` is selected, nothing is reported for lack of one. -/
theorem no_violation_of_oneOf (compiled : fragment.IsCompiled context.draft)
    (only : fragment.reducers context.draft = [.oneOf]) (members : ∀ member ∈ fragment.members .oneOf, member.Rests context.draft)
    {choice : Choice}
    (chosen : (Visit.mk context (context.judge depth) fragment data p scope).selectOneOf = some (.ok choice))
    (checked : context.validateSettled (context.judge depth) fragment data p scope = some found) {v : Violation}
    (inside : v ∈ found) (here : v.pointer = p) (own : v.schema = fragment.schema) : v.code ∉ Keyword.oneOf.codes := by
  intro listed
  rcases context.reported_here checked inside here with invalid | ⟨keyword, reported, checks, inside, source⟩
  · rw [invalid] at listed
    revert listed
    decide
  · obtain rfl : keyword = .oneOf := by
      rcases source with ⟨-, code⟩ | ⟨reducer, passes, has⟩
      · exact Keyword.eq_oneOf_of_codes code listed
      · have : reducer ∈ fragment.reducers context.draft :=
          List.mem_filter.mpr ⟨by cases reducer <;> decide, has⟩
        rw [only, List.mem_singleton] at this
        exact Keyword.eq_oneOf_of_passesTo? (this ▸ passes)
    have checks : (Visit.mk context (context.judge depth) fragment data p scope).checkOneOf = some reported := checks
    rw [Visit.checkOneOf, chosen] at checks
    cases checks
    obtain ⟨member, there⟩ := (Visit.selects_of_selectOneOf chosen).exists_member
    have among := List.mem_of_getElem? there
    rcases schema_of_rests (members member among) (Visit.validateHere_of_selectOneOf chosen there) inside here with
      invalid | same
    · rw [invalid] at listed
      revert listed
      decide
    · have less := compiled.depth_lt (hasChild_of_members among)
      rw [← same, own] at less
      exact Nat.lt_irrefl _ less

/-- Where `oneOf` has members, its check is part of that of the fragment. -/
theorem exists_check_oneOf {judge : Judge} (compiled : fragment.IsCompiled context.draft)
    (only : fragment.reducers context.draft = [.oneOf])
    (checked : context.validateSettled judge fragment data p scope = some found) :
    ∃ own, (Visit.mk context judge fragment data p scope).checkOneOf = some own ∧ ∀ v ∈ own, v ∈ found := by
  have some : fragment.members .oneOf ≠ [] := by
    have has : Reducer.oneOf ∈ fragment.reducers context.draft := by simp [only]
    simpa [Fragment.has] using (List.mem_filter.mp has).2
  obtain ⟨source, outer, compiled⟩ := compiled
  rcases compiled.bool_or_obj with ⟨b, same⟩ | ⟨members, same⟩
  · rw [same] at compiled
    rw [compiled_bool.mp compiled] at some
    exact absurd rfl some
  · rw [same] at compiled
    refine context.exists_check same checked .oneOf (context.draft.knows_of_oldest rfl) ?_
    by_contra absent
    refine some ((members_eq_nil_iff (compiled_obj.mp compiled) (by decide)).mpr fun value present => ?_)
    exact absurd (by simp [Keyword.isPresent, Members.has, present]) absent

theorem one_lt_depthFor (context : Context) (data : Json) : 1 < context.depthFor data := by
  have locations : 0 < (context.index.capacity + 16) * (context.index.capacity + 16) := by positivity
  calc 1 < data.depth + 2 := by omega
    _ ≤ context.depthFor data := Nat.le_mul_of_pos_left _ locations

/-- Reducing a fragment with `oneOf` alone selects the member that checking it selects. -/
theorem reduce_eq_map_selectOneOf (unreferring : fragment.reference? context.draft = none)
    (only : fragment.reducers context.draft = [.oneOf])
    (members : ∀ member ∈ fragment.members .oneOf, member.Apart context.draft fragment.location) (idle : scope.Idle) :
    context.reduce fragment (some data) p scope =
      (Visit.mk context (context.judge (context.depthFor data - 1)) fragment data p (scope.enterAt fragment p)).selectOneOf.map
        fun selected => do
          let choice ← selected
          let task : Reduction := ⟨some data, p, []⟩
          let folded ← task.compile context.draft fragment
            (fragment.withMember (task.staticPart fragment.schema) choice.index)
          return ⟨folded, scope.enter fragment, some choice.index⟩ := by
  obtain ⟨depth, enough⟩ := Nat.exists_eq_add_one_of_ne_zero (context.depthFor_pos data).ne'
  have deep := context.one_lt_depthFor data
  have known : context.depthFor (.ofOption (some data)) = depth + 1 := enough
  rw [← selectOneOf_apart members idle, reduce, known, enough, Nat.add_sub_cancel]
  exact reduce_oneOf unreferring only (fun member listed => (members member listed).rests) (by omega)

/-- Where checking decides on `oneOf`, reduction ends: it fails as the selection does, or because what is merged is
no schema, or it records the position that is selected. -/
theorem exists_reduce_of_selected (unreferring : fragment.reference? context.draft = none)
    (only : fragment.reducers context.draft = [.oneOf])
    (members : ∀ member ∈ fragment.members .oneOf, member.Apart context.draft fragment.location) (idle : scope.Idle)
    {selected : Except Violation Choice}
    (chosen : (Visit.mk context (context.judge (context.depthFor data - 1)) fragment data p
      (scope.enterAt fragment p)).selectOneOf = some selected) :
    ∃ result, context.reduce fragment (some data) p scope = some result ∧
      (∀ reduced, result = .ok reduced → ∃ choice, selected = .ok choice ∧ reduced.choice = some choice.index) ∧
      ∀ violation, result = .error violation → selected = .error violation ∨ violation.code = .invalidSchema := by
  rw [reduce_eq_map_selectOneOf unreferring only members idle, chosen]
  refine ⟨_, rfl, ?_⟩
  cases selected with
  | error violation =>
    refine ⟨nofun, ?_⟩
    rintro _ ⟨⟩
    exact .inl rfl
  | ok choice =>
    simp only [bind, Except.bind]
    split
    · rename_i refused
      refine ⟨nofun, ?_⟩
      rintro _ ⟨⟩
      exact .inr (Reduction.code_of_compile refused)
    · refine ⟨?_, nofun⟩
      rintro _ ⟨⟩
      exact ⟨choice, rfl, rfl⟩

end Context

namespace Node

variable {node : Node}

/-- The visit in which a node without reference is checked. -/
def visitAt (node : Node) (data : Json) (pointer : Pointer) : Visit :=
  ⟨node.context, node.context.judge (node.context.depthFor data - 1), node.fragment, data, pointer,
    node.scope.enterAt node.fragment pointer⟩

/-- Where `oneOf` is the only composition, its members have none and no reference, and neither a member nor
what it negates stands at the location of the fragment, reduction decides on `oneOf` as validation does.
If it succeeds, validation reports no violation of `oneOf`, and what is recorded is the member that is
selected. If it fails for lack of a member, validation reports that very violation. -/
theorem oneOf_decided_alike {compiler : Compiler} {schema : Json} (handle : node.IsHandle compiler schema)
    (unreferring : node.fragment.reference? node.context.draft = none)
    (only : node.fragment.reducers node.context.draft = [.oneOf])
    (members : ∀ member ∈ node.fragment.members .oneOf, member.Apart node.context.draft node.fragment.location)
    {data : Json} {pointer : Pointer} {found : List Violation} (checked : node.validateAt data pointer = some found) :
    ∃ answer, node.reduceAt data pointer = some answer ∧
      (∀ reduced, answer = .ok reduced →
        (∀ v ∈ found, v.pointer = pointer → v.schema = node.fragment.schema → v.code ∉ Keyword.oneOf.codes) ∧
          ∃ index, reduced.choice = some index ∧ (node.visitAt data pointer).Selects index) ∧
      ∀ violation, answer = .error violation → violation.code ∈ Keyword.oneOf.codes → violation ∈ found := by
  have sound := handle.sound
  have resting (member : Fragment) (listed : member ∈ node.fragment.members .oneOf) := (members member listed).rests
  rw [validateAt, Context.validate_of_settled unreferring sound.idle] at checked
  obtain ⟨own, checks, reported⟩ := Context.exists_check_oneOf sound.fragment only checked
  obtain ⟨selected, chosen, checks⟩ := Option.bind_eq_some_iff.mp checks
  obtain ⟨result, reduces, decided, failed⟩ :=
    Context.exists_reduce_of_selected unreferring only members sound.idle chosen
  refine ⟨result.map (ofReduced node.context), by rw [reduceAt, settle_eq_map, reduces, Option.map_some], ?_⟩
  cases result with
  | ok reduced =>
    refine ⟨?_, nofun⟩
    rintro _ ⟨⟩
    obtain ⟨choice, rfl, recorded⟩ := decided reduced rfl
    exact ⟨fun v inside here own => Context.no_violation_of_oneOf sound.fragment only resting chosen checked inside here own,
      choice.index, recorded, Visit.selects_of_selectOneOf chosen⟩
  | error violation =>
    refine ⟨nofun, ?_⟩
    rintro _ ⟨⟩ listed
    rcases failed violation rfl with rfl | invalid
    · cases checks
      exact reported violation (List.mem_singleton_self _)
    · rw [invalid] at listed
      exact absurd listed (by decide)

/-- A shape whose kind decides on what else it must have. -/
def kindedShape : Json := .obj [
  ("oneOfProperty", .str "kind"),
  ("oneOf", .arr [
    .obj [("properties", .obj [("kind", .obj [("const", .str "dot")])])],
    .obj [("properties", .obj [("kind", .obj [("const", .str "disc")])]), ("required", .arr [.str "radius"])]])]

/-- A shape that lacks what its kind demands. -/
def boundlessDisc : Json := .obj [("kind", .str "disc")]

/-- The node of a schema, what it finds in data, and what it is reduced to for them. -/
def foundAndReduced? (schema data : Json) : Option (Node × List Violation × Node) := do
  let node ← (Compiler.standard.compile schema).toOption
  return (node, ← node.validate data, ← (← node.reduce data).toOption)

theorem kind_of_disc_decided_alike : ∃ root found reduced,
    Compiler.standard.compile kindedShape = .ok root ∧ root.validateAt boundlessDisc .root = some found ∧
      found.map (·.code) = [.requiredProperty] ∧ root.reduceAt boundlessDisc .root = some (.ok reduced) ∧
      ∃ index, reduced.choice = some index ∧ (root.visitAt boundlessDisc .root).Selects index := by
  have computed : (foundAndReduced? kindedShape boundlessDisc).map (fun result =>
      ((result.1.fragment.reference? result.1.context.draft).isNone &&
        decide (result.1.fragment.reducers result.1.context.draft = [.oneOf]) &&
        (result.1.fragment.members .oneOf).all (fun member => (member.reference? result.1.context.draft).isNone &&
          (member.reducers result.1.context.draft).isEmpty && decide (member.location ≠ result.1.fragment.location) &&
          member.not?.isNone),
        result.2.1.map (·.code))) = some (true, [.requiredProperty]) := by
    decide +kernel
  obtain ⟨⟨root, found, reduced⟩, known, facts⟩ := Option.map_eq_some_iff.mp computed
  simp only [foundAndReduced?, Option.bind_eq_bind, Option.bind_eq_some_iff] at known
  obtain ⟨_, compiled, _, validates, answer, reduces, _, answered, same⟩ := known
  cases same
  have compiled := ok_of_toOption compiled
  have reduces : root.reduceAt boundlessDisc .root = some (.ok reduced) := ok_of_toOption answered ▸ reduces
  simp only [Prod.mk.injEq, Bool.and_eq_true, Option.isNone_iff_eq_none, decide_eq_true_eq, List.all_eq_true,
    List.isEmpty_iff] at facts
  obtain ⟨⟨⟨unreferring, only⟩, members⟩, listed⟩ := facts
  have apart (member : Fragment) (inside : member ∈ root.fragment.members .oneOf) :
      member.Apart root.context.draft root.fragment.location := by
    obtain ⟨⟨⟨settled, plain⟩, elsewhere⟩, nothing⟩ := members member inside
    refine .intro ⟨settled, plain⟩ elsewhere fun c negated => ?_
    rw [nothing] at negated
    cases negated
  obtain ⟨answer, reduces', decided, -⟩ := oneOf_decided_alike ⟨root, compiled, .refl⟩ unreferring only apart validates
  rw [reduces] at reduces'
  cases reduces'
  exact ⟨root, found, reduced, compiled, validates, listed, reduces, (decided reduced rfl).2⟩

/-- A schema that no member can satisfy, as there is none. -/
def noChoice : Json := .obj [("oneOf", .arr [])]

/-- Where `oneOf` is empty, reduction does not miss the member that validation misses. -/
theorem empty_oneOf_decided_differently : ∃ root v reduced,
    Compiler.standard.compile noChoice = .ok root ∧ root.validate .null = some [v] ∧ v.code = .oneOf ∧
      v.pointer = .root ∧ v.schema = root.fragment.schema ∧ root.reduce .null = some (.ok reduced) ∧
      reduced.choice = none := by
  have computed : (foundAndReduced? noChoice .null).map (fun result =>
      ((result.1.fragment.reference? result.1.context.draft).isNone &&
        (result.1.fragment.reducers result.1.context.draft).isEmpty,
        result.2.1.map (fun v => (v.code, v.pointer)), result.2.2.choice)) = some (true, [(.oneOf, .root)], none) := by
    decide +kernel
  obtain ⟨⟨root, found, reduced⟩, known, facts⟩ := Option.map_eq_some_iff.mp computed
  simp only [foundAndReduced?, Option.bind_eq_bind, Option.bind_eq_some_iff] at known
  obtain ⟨_, compiled, _, validates, answer, reduces, _, answered, same⟩ := known
  cases same
  simp only [Prod.mk.injEq, Bool.and_eq_true, Option.isNone_iff_eq_none, List.isEmpty_iff] at facts
  obtain ⟨rests, listed, unchosen⟩ := facts
  obtain ⟨v, rfl⟩ := List.length_eq_one_iff.mp (by simpa using congrArg List.length listed)
  obtain ⟨code, place⟩ : v.code = .oneOf ∧ v.pointer = .root := by simpa using listed
  have own : v.schema = root.fragment.schema := by
    rcases Context.schema_of_rests rests validates (List.mem_singleton_self v) place with invalid | own
    · rw [code] at invalid
      cases invalid
    · exact own
  exact ⟨root, v, reduced, ok_of_toOption compiled, validates, code, place, own, ok_of_toOption answered ▸ reduces, unchosen⟩

end Node
end JsonSchema
