import JsonSchema.Proofs.Attempt
import JsonSchema.Proofs.Compilation.Remainder
import JsonSchema.Proofs.Merge.Compatible
import JsonSchema.Proofs.Reference.Indexed

/-!
# Keywords beside a reference

The keywords beside a reference are merged into its target. If the merge displaces nothing, the
fragment with the reference accepts what both the target and the keywords by themselves accept.
Otherwise a keyword beside the reference can loosen the target.
-/

namespace JsonSchema

/-! ## The keywords by themselves -/

section
variable {members : Members} {name : String}

theorem lookup_siblings (kept : strippedSiblings.contains name = false) :
    (Members.without members strippedSiblings.contains).lookup name = members.lookup name := by
  rw [lookup_without, kept]
  rfl

/-- What checks read neither stays behind nor is an annotation. -/
theorem not_trivial_of_reads {keyword : Keyword} (read : name ∈ keyword.reads) : trivialSiblings.contains name = false := by
  have all : ∀ name ∈ keyword.reads, trivialSiblings.contains name = false := by cases keyword <;> decide
  exact all name read

theorem not_stripped_of_reads {keyword : Keyword} (read : name ∈ keyword.reads) : strippedSiblings.contains name = false := by
  have all : ∀ name ∈ keyword.reads, strippedSiblings.contains name = false := by cases keyword <;> decide
  exact all name read

end

open Fragment

variable {draft : Draft} {source : Origin} {outer : Site} {host target : Fragment}

theorem detaches_stripped (draft : Draft) : draft.Detaches strippedSiblings.contains := by
  unfold Draft.Detaches
  cases draft <;> decide +kernel

/-- The keywords beside a reference compile wherever they stand alone. -/
theorem plainSchema_siblings {members : Members} (compiled : Compiled draft source outer (.obj members) host)
    (plain : (siblings (.obj members)).Plain draft) : (siblings (.obj members)).PlainSchema draft :=
  compiled.plainSchema_without plain (detaches_stripped draft) (by decide) (by decide)

namespace Context

variable {context : Context} {depth : Nat} {data : Json}

/-- A schema without anything that a check reads accepts everything. -/
theorem meets_of_lacks {members : Members} (byValue : context.formats.ByValue)
    (schema : (Json.obj members).PlainSchema context.draft) (lacks : ∀ keyword : Keyword, members.Lacks keyword.reads) :
    context.Meets (depth + 1) (.obj members) data :=
  (meets_obj byValue schema).mpr fun keyword _ _ => holds_of_lacks (lacks keyword)

/-- Without keywords to merge, those beside a reference accept everything. -/
theorem meets_siblings {members : Members} (byValue : context.formats.ByValue)
    (schema : (siblings (.obj members)).PlainSchema context.draft)
    (annotates : hasSiblings (.obj members) = false) : context.Meets (depth + 1) (siblings (.obj members)) data := by
  refine meets_of_lacks byValue schema fun keyword name read => ?_
  rw [lookup_siblings (not_stripped_of_reads read), List.lookup_eq_none_iff]
  intro member inside
  have annotation := List.any_eq_false.mp annotates member inside
  rw [bne_iff_ne]
  rintro rfl
  rw [not_trivial_of_reads read] at annotation
  exact annotation rfl

/-- The target as it is merged accepts what the target accepts. -/
theorem meets_mergeTarget (byValue : context.formats.ByValue)
    (fixed : rebase target.site.base target.schema = target.schema) (schema : target.schema.PlainSchema context.draft) :
    (mergeTarget target).PlainSchema context.draft ∧ ∀ depth data,
      context.Meets depth (mergeTarget target) data ↔ context.Meets depth target.schema data := by
  unfold mergeTarget
  split
  · rename_i accepting
    have accepts : target.schema = .bool true := schema_of_isBool accepting
    have empty : (Json.obj []).PlainSchema context.draft := by
      refine .of_steps (fun _ _ => rfl) rfl (fun _ _ => rfl) rfl ⟨none, rfl⟩ fun step inside => ?_
      rw [steps_nil] at inside
      cases inside
    refine ⟨empty, fun depth data => ?_⟩
    cases depth with
    | zero => exact iff_of_false (not_meets_zero empty) (not_meets_zero schema)
    | succ depth =>
      rw [accepts, meets_bool]
      exact iff_of_true (meets_of_lacks byValue empty fun _ _ _ => rfl) rfl
  · rw [fixed]
    exact ⟨schema, fun _ _ => .rfl⟩

/-! ## Following the reference -/

variable {reference : String} {next : Fragment} {scope : Scope} {pointer : Pointer}

/-- A reference to a fragment that is merged or taken as it is, and has no reference itself. -/
theorem resolve_eq_resolved (refers : host.reference? context.draft = some (.static, reference))
    (found : context.target? host .static reference [] = some target) (followed : context.follow? host target = some next)
    (ends : next.reference? context.draft = none) :
    context.resolve host scope = .resolved next (scope.enter target) := by
  have found' : context.target? host .static reference scope = some target := found
  unfold resolve followChain
  simp only [refers, found', followed, Option.isNone_some]
  unfold followChain
  simp [ends]

/-- A fragment that stands for another one accepts what that one accepts from the inside. -/
theorem validate_succ_eq (free : scope.isChecking host.location pointer = false) (outside : ∀ scope,
      context.resolve host scope = .resolved next (scope.enter target)) :
    (context.judge (depth + 1)).validate host data pointer scope =
      context.validateSettled (context.judge depth) next data pointer ((scope.enterAt host pointer).enter target) := by
  change context.validateStep _ host data pointer scope = _
  simp [validateStep, free, outside]

/-- What a fragment with a reference accepts is what the merged schema or the target accepts. -/
theorem validate_iff_meets {schema : Json} {outer : Site} {source : Origin}
    (plain : schema.Plain context.draft) (compiled : Compiled context.draft source outer schema next)
    (idle : scope.Idle) (outside : ∀ scope, context.resolve host scope = .resolved next (scope.enter target))
    (apart : ∀ d, next.IsAbove d → host.location ≠ d.location) :
    (context.judge (depth + 1)).validate host data pointer scope = some [] ↔ context.Meets (depth + 1) schema data := by
  have free : Scope.FreeBelow ((scope.enterAt host pointer).enter target) next := by
    intro frame inside checked d above
    simp only [Scope.enter, Scope.enterAt, List.mem_cons] at inside
    rcases inside with rfl | rfl | outer
    · exact absurd rfl checked
    · exact apart d above
    · exact absurd (idle frame outer) checked
  rw [validate_succ_eq ((idle.freeAt host).not_isChecking pointer) outside,
    meets_iff_settled plain compiled free pointer]

end Context

/-- In drafts that merge, a fragment with a reference beside other keywords accepts what both the target
and these keywords by themselves accept, to any depth of nested checks, if merging the two displaces
nothing and neither has references or identifiers. -/
theorem siblings_validate_iff {compiler : Compiler} {schema : Json} {node : Node}
    (compiled : compiler.compile schema = .ok node) (merges : node.context.draft.mergesSiblings = true)
    (byValue : node.context.formats.ByValue) {source : Origin} {outer : Site} {host target : Fragment}
    (known : Fragment.compile node.context.draft source outer host.schema = .ok host) {reference : String}
    (refers : host.reference? node.context.draft = some (.static, reference))
    (found : node.context.target? host .static reference [] = some target)
    (plain : target.schema.Plain node.context.draft) (fixed : rebase target.site.base target.schema = target.schema)
    (alone : (siblings host.schema).Plain node.context.draft)
    (apart : hasSiblings host.schema = false → ∀ d, target.IsAbove d → host.location ≠ d.location)
    (compatible : Compatible node.context (mergeTarget target) (siblings host.schema)) :
    ∃ sole, Fragment.derive node.context.draft host.site (siblings host.schema) = .ok sole ∧
      ∀ (depth : Nat) (data : Json) (pointer : Pointer) (scope : Scope), scope.Idle →
        ((node.context.judge depth).validate host data pointer scope = some [] ↔
          (node.context.judge depth).validate target data pointer scope = some [] ∧
            (node.context.judge depth).validate sole data pointer scope = some []) := by
  have compiledHost := Fragment.compile_eq_ok.mp known
  obtain ⟨members, shape⟩ : ∃ members, host.schema = .obj members := by
    rcases compiledHost.bool_or_obj with ⟨b, shape⟩ | shape
    · rw [shape] at compiledHost
      rw [(Json.Plain.bool b).reference?_eq_none compiledHost] at refers
      cases refers
    · exact shape
  rw [shape] at compiledHost alone apart compatible ⊢
  obtain ⟨source', outer', compiledTarget⟩ :=
    node.context.compiled_of_target? (Compiler.wellCompiled_of_compile compiled) found
  have targetSchema : target.schema.PlainSchema node.context.draft := ⟨plain, plain.compiles compiledTarget⟩
  have soleSchema := plainSchema_siblings compiledHost alone
  obtain ⟨sole, compiledSole⟩ := soleSchema.compiles (.derived (siblings (.obj members))) host.site
  refine ⟨sole, Fragment.compile_eq_ok.mpr compiledSole, fun depth data pointer scope idle => ?_⟩
  obtain ⟨mergedTarget, sameTarget⟩ := node.context.meets_mergeTarget byValue fixed targetSchema
  cases depth with
  | zero => exact iff_of_false nofun fun both => nomatch both.1
  | succ depth =>
    rw [← node.context.meets_iff plain compiledTarget (idle.freeAt target) pointer,
      ← node.context.meets_iff alone compiledSole (idle.freeAt sole) pointer]
    cases beside : hasSiblings (.obj members) with
    | false =>
      have followed : node.context.follow? host target = some target := by
        simp [Context.follow?, shape, beside]
      have outside (scope : Scope) := @Context.resolve_eq_resolved _ _ _ _ _ scope refers found followed
        (plain.reference?_eq_none compiledTarget)
      rw [Context.validate_iff_meets plain compiledTarget idle outside (apart beside)]
      exact (and_iff_left (Context.meets_siblings byValue soleSchema beside)).symm
    | true =>
      have mergedSchema := compatible.plainSchema merges mergedTarget soleSchema
      obtain ⟨next, compiledNext⟩ := mergedSchema.compiles
        (.derived (merge (mergeTarget target) (siblings (.obj members)))) host.site
      have followed : node.context.follow? host target = some next := by
        simp [Context.follow?, merges, shape, beside, Fragment.derive, Fragment.compile_eq_ok.mpr compiledNext,
          Except.toOption]
      have outside (scope : Scope) := @Context.resolve_eq_resolved _ _ _ _ _ scope refers found followed
        (mergedSchema.plain.reference?_eq_none compiledNext)
      have below (d : Fragment) (above : next.IsAbove d) : host.location ≠ d.location := by
        have longer := mergedSchema.plain.location_lt compiledNext above
        rw [Fragment.location, mergedSchema.plain.site_eq compiledNext] at longer
        exact fun same => Nat.lt_irrefl _ (same ▸ longer)
      rw [Context.validate_iff_meets mergedSchema.plain compiledNext idle outside below,
        compatible.meets_iff merges byValue mergedTarget soleSchema, sameTarget]

/-! ## Bounds beside a reference -/

/-- A reference to a lower bound of five, with another bound beside it. -/
def boundedBy (name : String) (bound : Nat) : Json := .obj [
  ("$defs", .obj [("low", .obj [("minimum", .ofNat 5)])]), ("$ref", .str "#/$defs/low"), (name, .ofNat bound)]

/-- Whether the reference leads to the lower bound, and what the host, its target, and the bound beside the
reference say of a number. -/
def boundVerdicts (name : String) (bound value : Nat) : Option (Bool × List (Option Bool)) := do
  let node ← (Compiler.standard.compile (boundedBy name bound)).toOption
  let target ← node.context.target? node.fragment .static "#/$defs/low" []
  let sole ← (Fragment.derive node.context.draft node.fragment.site (siblings node.fragment.schema)).toOption
  return (decide (target.schema = .obj [("minimum", .ofNat 5)]), [node.fragment, target, sole].map fun f =>
    verdict (node.context.validate f (.ofNat value) .root []))

/-- A lower bound beside the reference takes the place of that of the target. -/
theorem lower_bound_of_target_displaced : ∃ node target sole,
    Compiler.standard.compile (boundedBy "minimum" 1) = .ok node ∧
    node.context.target? node.fragment .static "#/$defs/low" [] = some target ∧
    Fragment.derive node.context.draft node.fragment.site (siblings node.fragment.schema) = .ok sole ∧
    node.context.validate node.fragment (.ofNat 3) .root [] = some [] ∧
    node.context.validate target (.ofNat 3) .root [] ≠ some [] ∧
    node.context.validate sole (.ofNat 3) .root [] = some [] := by
  have computed : boundVerdicts "minimum" 1 3 = some (true, [some true, some false, some true]) := by decide +kernel
  simp only [boundVerdicts, Option.bind_eq_bind, Option.bind_eq_some_iff] at computed
  obtain ⟨node, compiled, target, found, sole, derived, same⟩ := computed
  obtain ⟨-, verdicts⟩ := Prod.mk.inj (Option.some.inj same)
  simp only [List.map_cons, List.map_nil, List.cons.injEq, and_true, verdict_eq_true] at verdicts
  obtain ⟨host, rejected, beside⟩ := verdicts
  refine ⟨node, target, sole, ok_of_toOption compiled, found, ok_of_toOption derived, host, fun accepted => ?_, beside⟩
  rw [verdict_eq_true.mpr accepted] at rejected
  cases rejected

private theorem compatible_bounds {context : Context} (low high : Nat) :
    Compatible context (.obj [("minimum", .ofNat low)]) (.obj [("maximum", .ofNat high)]) := by
  refine .of_lacks (fun keyword => ?_) fun name inside => ?_
  · cases keyword <;> simp [Members.Lacks, Keyword.reads, Keyword.name, arrayNames, List.lookup_cons, List.lookup_nil]
  · simp only [List.mem_cons, List.not_mem_nil, or_false] at inside
    rcases inside with rfl | rfl <;> exact .inl rfl

theorem bounds_on_both_sides_validate_iff : ∃ node target,
    Compiler.standard.compile (boundedBy "maximum" 9) = .ok node ∧
    node.context.target? node.fragment .static "#/$defs/low" [] = some target ∧
    ∃ sole, Fragment.derive node.context.draft node.fragment.site (siblings node.fragment.schema) = .ok sole ∧
      ∀ (depth : Nat) (data : Json) (pointer : Pointer) (scope : Scope), scope.Idle →
        ((node.context.judge depth).validate node.fragment data pointer scope = some [] ↔
          (node.context.judge depth).validate target data pointer scope = some [] ∧
            (node.context.judge depth).validate sole data pointer scope = some []) := by
  have computed : boundVerdicts "maximum" 9 7 = some (true, [some true, some true, some true]) := by decide +kernel
  simp only [boundVerdicts, Option.bind_eq_bind, Option.bind_eq_some_iff] at computed
  obtain ⟨node, compiled, target, found, sole, -, same⟩ := computed
  have low : target.schema = .obj [("minimum", .ofNat 5)] := of_decide_eq_true (Prod.mk.inj (Option.some.inj same)).1
  have compiled := ok_of_toOption compiled
  obtain ⟨draft, formats, -, position, known⟩ := Compiler.root_of_compile compiled
  have draft : node.context.draft = .draft2020 := draft.trans rfl
  have byValue : node.context.formats.ByValue := formats ▸ Formats.standard_byValue
  have host : node.fragment.schema = boundedBy "maximum" 9 := (Fragment.compile_eq_ok.mp known).schema_eq
  have refers : node.fragment.reference? node.context.draft = some (.static, "#/$defs/low") := by
    rw [Fragment.reference?, host, draft]
    rfl
  have alone : siblings node.fragment.schema = .obj [("maximum", .ofNat 9)] := by rw [host]; rfl
  have fixed (base : Uri) : rebase base (.obj [("minimum", .ofNat 5)]) = .obj [("minimum", .ofNat 5)] := by
    simp [rebase, rebaseMembers, dataKeywords, Json.ofNat]
  have merged : mergeTarget target = .obj [("minimum", .ofNat 5)] := by
    rw [mergeTarget, Fragment.isBool, low, fixed]
    rfl
  have beside : hasSiblings node.fragment.schema = true := by rw [host]; rfl
  rw [← host] at known
  have plain : target.schema.Plain node.context.draft := by
    rw [low, draft]
    exact Json.plain_of_isPlain (by decide +kernel : Json.isPlain .draft2020 1 _ = true)
  have fixed : rebase target.site.base target.schema = target.schema := by rw [low, fixed]
  have single : (siblings node.fragment.schema).Plain node.context.draft := by
    rw [alone, draft]
    exact Json.plain_of_isPlain (by decide +kernel : Json.isPlain .draft2020 1 _ = true)
  have compatible : Compatible node.context (mergeTarget target) (siblings node.fragment.schema) := by
    rw [merged, alone]
    exact compatible_bounds 5 9
  have merges : node.context.draft.mergesSiblings = true := by rw [draft]; rfl
  have apart : hasSiblings node.fragment.schema = false → ∀ d, target.IsAbove d → node.fragment.location ≠ d.location := by
    intro none
    rw [beside] at none
    cases none
  exact ⟨node, target, compiled, found,
    siblings_validate_iff compiled merges byValue known refers found plain fixed single apart compatible⟩

end JsonSchema
