import JsonSchema.Check.Judgement
import JsonSchema.Proofs.Attempt
import JsonSchema.Proofs.Compilation.Children
import JsonSchema.Proofs.Reference.Chain

/-!
# What becomes of a fragment

A fragment stands for what its reference leads to, and is reduced after that. What it becomes is a
fragment that was compiled before, or it is compiled at the site of the fragment that takes up the
others.
-/

namespace JsonSchema

/-- What is folded is refused only because it is no schema. -/
theorem Reduction.code_of_compile {task : Reduction} {draft : Draft} {fragment : Fragment} {schema : Json}
    {violation : Violation} (refused : task.compile draft fragment schema = .error violation) :
    violation.code = .invalidSchema := by
  unfold compile at refused
  split at refused <;> cases refused
  rfl

namespace Context

variable {context : Context} {fragment target : Fragment} {scope inner : Scope} {task : Reduction}

theorem derive_of_compile {draft : Draft} {folded : Fragment} {schema : Json}
    (compiled : task.compile draft target schema = .ok folded) : Fragment.derive draft target.site schema = .ok folded := by
  unfold Reduction.compile at compiled
  split at compiled
  · rename_i derived
    cases compiled
    exact derived
  · cases compiled

/-- The folding of a fragment that is not being reduced already. -/
def folding (context : Context) (judge : Judge) (task : Reduction) (target : Fragment) (inner : Scope) : Folding :=
  ⟨{ task with active := target.location :: task.active },
    ⟨context, judge, target, task.value, task.pointer, inner⟩⟩

/-- A fragment without reference stays as it is, or it is compiled anew from its static part, or from
what was folded. -/
theorem reduceSettled_eq_ok {judge : Judge} {reduced : Reduced}
    (answer : (context.reduceSettled judge task target inner).run = some (.ok reduced)) :
    reduced.scope = inner ∧
      (task.hasWork context.draft target = false ∧ reduced.fragment = target ∨
      task.hasWork context.draft target = true ∧ target.location ∈ task.active ∧
        Fragment.derive context.draft target.site (task.staticPart target.schema) = .ok reduced.fragment ∨
      task.hasWork context.draft target = true ∧ target.location ∉ task.active ∧ ∃ schema,
        (context.folding judge task target inner).foldAll.run = some (.ok (schema, reduced.choice)) ∧
        Fragment.derive context.draft target.site schema = .ok reduced.fragment) := by
  unfold reduceSettled at answer
  split at answer
  · rename_i idle
    cases answer
    exact ⟨rfl, .inl ⟨by simpa using idle, rfl⟩⟩
  · rename_i work
    have work : task.hasWork context.draft target = true := by simpa using work
    split at answer
    · rename_i again
      obtain ⟨folded, compiled, same⟩ := Attempt.bind_eq_ok.mp answer
      cases same
      exact ⟨rfl, .inr (.inl ⟨work, by simpa using again, derive_of_compile (Option.some.inj compiled)⟩)⟩
    · rename_i first
      obtain ⟨⟨schema, choice⟩, folds, answer⟩ := Attempt.bind_eq_ok.mp answer
      obtain ⟨folded, compiled, same⟩ := Attempt.bind_eq_ok.mp answer
      cases same
      exact ⟨rfl, .inr (.inr ⟨work, by simpa using first, schema, folds, derive_of_compile (Option.some.inj compiled)⟩)⟩

/-- A fragment without reference is left as it is, or compiled anew from its static part or from what was
folded, which can be refused. -/
theorem ends_reduceSettled {judge : Judge} {Q : Json → Prop} {E : Violation → Prop}
    (refused : ∀ schema, Q schema → ∀ violation, task.compile context.draft target schema = .error violation → E violation)
    (idle : task.hasWork context.draft target = false → Q target.schema)
    (static : task.hasWork context.draft target = true → Q (task.staticPart target.schema))
    (folds : task.hasWork context.draft target = true → target.location ∉ task.active →
      Attempt.Ends (fun state : Json × Option Nat => Q state.1) E (context.folding judge task target inner).foldAll) :
    Attempt.Ends (fun reduced => Q reduced.fragment.schema) E (context.reduceSettled judge task target inner) := by
  have compiles (schema : Json) (holds : Q schema) : Attempt.Ends (fun folded : Fragment => Q folded.schema) E
      (ExceptT.mk (some (task.compile context.draft target schema))) := by
    rintro end' answer
    obtain rfl := Option.some.inj answer
    cases compiled : task.compile context.draft target schema with
    | error violation => exact refused schema holds violation compiled
    | ok folded =>
      dsimp only
      rwa [(Fragment.compile_eq_ok.mp (derive_of_compile compiled)).schema_eq]
  unfold reduceSettled
  split
  · rename_i still
    exact .pure (idle (by simpa using still))
  · rename_i work
    have work : task.hasWork context.draft target = true := by simpa using work
    split
    · exact .bind (compiles _ (static work)) fun _ kept => .pure kept
    · rename_i first
      refine .bind (folds work (by simpa using first)) fun ⟨schema, choice⟩ kept => ?_
      exact .bind (compiles schema kept) fun _ kept => .pure kept

/-- A check that is not going on already is that of the fragment that is stood for. -/
theorem validateStep_of_inside? {judge : Judge} {data : Json} {pointer : Pointer}
    (free : scope.isChecking fragment.location pointer = false)
    (inside : context.inside? fragment (scope.enterAt fragment pointer) = some (target, inner)) :
    context.validateStep judge fragment data pointer scope = context.validateSettled judge target data pointer inner := by
  unfold inside? at inside
  simp only [validateStep, free, Bool.false_eq_true, ↓reduceIte]
  cases resolution : context.resolve fragment (scope.enterAt fragment pointer) with
  | plain | resolved =>
    simp only [resolution] at inside
    cases inside
    rfl
  | unresolved reference =>
    simp only [resolution] at inside
    cases inside

theorem reduceStep_of_inside? {judge : Judge}
    (inside : context.inside? fragment (scope.enter fragment) = some (target, inner)) :
    context.reduceStep judge task fragment scope = (context.reduceSettled judge task target inner).run := by
  unfold inside? at inside
  cases resolution : context.resolve fragment (scope.enter fragment) with
  | plain | resolved =>
    simp only [resolution] at inside
    cases inside
    simp only [reduceStep, resolution]
  | unresolved reference =>
    simp only [resolution] at inside
    cases inside

theorem exists_unresolved (outside : context.inside? fragment scope = none) :
    ∃ reference, context.resolve fragment scope = .unresolved reference := by
  unfold inside? at outside
  cases resolution : context.resolve fragment scope with
  | plain | resolved =>
    simp only [resolution] at outside
    cases outside
  | unresolved reference => exact ⟨reference, rfl⟩

/-- A fragment whose reference is not resolved is not accepted. -/
theorem validateStep_of_unresolved {judge : Judge} {data : Json} {pointer : Pointer} {reference : String}
    (free : scope.isChecking fragment.location pointer = false)
    (unresolved : context.resolve fragment (scope.enterAt fragment pointer) = .unresolved reference) :
    context.validateStep judge fragment data pointer scope =
      some [⟨.unresolvedRef, pointer, fragment.schema, data, [("ref", .str reference)], []⟩] := by
  simp only [validateStep, free, unresolved, Bool.false_eq_true, ↓reduceIte]

theorem reduceStep_of_unresolved {judge : Judge} {reference : String}
    (unresolved : context.resolve fragment (scope.enter fragment) = .unresolved reference) :
    context.reduceStep judge task fragment scope =
      some (.error ⟨.unresolvedRef, task.pointer, fragment.schema, task.value, [("ref", .str reference)], []⟩) := by
  simp only [reduceStep, unresolved]

/-- The reference of a fragment is followed before it is reduced. -/
theorem reduceStep_eq_ok {judge : Judge} {reduced : Reduced}
    (answer : context.reduceStep judge task fragment scope = some (.ok reduced)) :
    ∃ target inner, context.inside? fragment (scope.enter fragment) = some (target, inner) ∧
      (context.reduceSettled judge task target inner).run = some (.ok reduced) := by
  cases resolution : context.resolve fragment (scope.enter fragment) with
  | plain =>
    simp only [reduceStep, resolution] at answer
    exact ⟨fragment, scope.enter fragment, by simp only [inside?, resolution], answer⟩
  | resolved target inner =>
    simp only [reduceStep, resolution] at answer
    exact ⟨target, inner, by simp only [inside?, resolution], answer⟩
  | unresolved reference =>
    simp only [reduceStep, resolution] at answer
    cases answer

/-- The end of a chain makes no reference. -/
theorem Chain.settled {seen : List String} (chain : Chain context seen fragment scope target inner) :
    target.reference? context.draft = none := by
  induction chain with
  | ended settled => exact settled
  | hop _ _ _ _ _ ih => exact ih

end Context
end JsonSchema
