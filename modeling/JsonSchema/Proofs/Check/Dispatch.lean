import JsonSchema.Compiler
import JsonSchema.Proofs.Check.Verdict

/-!
# Dispatch by type

Before a keyword is run the draft's table is asked whether it concerns values of the type at hand. The table
only saves work: it withholds a keyword from the values of all types but the one that the keyword constrains,
and on these its check reports nothing. So a visit that runs every keyword of the fragment reports the same, and
so do all visits nested in it.
-/

namespace JsonSchema

/-! ## The table -/

/-- A keyword that a draft defines is run for a value unless it constrains another type. -/
theorem Draft.applies_iff {draft : Draft} {keyword : Keyword} (known : keyword ∈ draft.keywords) (data : Json) :
    draft.applies keyword (TypeName.of data) = true ↔
      ∀ type, keyword.valueType? = some type → type = TypeName.of data := by
  have primary : (if TypeName.of data = .integer then .number else TypeName.of data) = TypeName.of data := by
    cases data <;> rfl
  unfold applies keywordsFor
  rw [primary, List.contains_iff_mem, List.mem_filter, and_iff_right known, Keyword.constrains]
  cases keyword.valueType? <;> simp

theorem Fragment.keywords_subset (draft : Draft) (f : Fragment) : f.keywords draft ⊆ draft.keywords := by
  unfold keywords
  split
  · exact List.filter_subset_self _
  · exact List.nil_subset _

/-! ## Checks of other types -/

/-- The check of a keyword that constrains one type reports nothing on values of the others, whatever stands under
the keyword and whatever the judge answers. -/
theorem Visit.check_of_other {visit : Visit} {keyword : Keyword} {type : TypeName}
    (own : keyword.valueType? = some type) (other : type ≠ TypeName.of visit.data) : visit.check keyword = some [] := by
  obtain ⟨context, judge, fragment, data, pointer, scope⟩ := visit
  cases keyword with
  | type | enum | const | format | «not» | allOf | anyOf | oneOf | conditional => cases own
  | _ =>
    cases own
    cases data <;> first | rfl | exact absurd rfl other

theorem gather_cons {α : Type} (place : α) (rest : List α) (check : α → Option (List Violation)) :
    gather (place :: rest) check = (check place).bind fun found => (gather rest check).map (found ++ ·) := by
  unfold gather
  rw [List.mapM_cons]
  cases check place with
  | none => rfl
  | some found => cases rest.mapM check <;> rfl

/-- Places whose checks report nothing may be left out. -/
theorem gather_filter {α : Type} (places : List α) (check : α → Option (List Violation)) (kept : α → Bool)
    (silent : ∀ place ∈ places, kept place = false → check place = some []) :
    gather (places.filter kept) check = gather places check := by
  induction places with
  | nil => rfl
  | cons place rest ih =>
    obtain ⟨first, later⟩ := List.forall_mem_cons.mp silent
    by_cases keeps : kept place = true
    · rw [List.filter_cons_of_pos keeps, gather_cons, gather_cons, ih later]
    · rw [List.filter_cons_of_neg keeps, ih later, gather_cons, first (Bool.eq_false_iff.mpr keeps)]
      cases gather rest check <;> rfl

/-! ## Visits that run every keyword -/

namespace Context

/-- Checks a value against a fragment without reference by every keyword of the fragment. -/
def validateByAll (context : Context) (judge : Judge) (fragment : Fragment) (data : Json) (pointer : Pointer)
    (scope : Scope) : Option (List Violation) :=
  let visit : Visit := ⟨context, judge, fragment, data, pointer, scope⟩
  match fragment.schema with
  | .bool true => some []
  | .bool false => some [visit.violation .invalidData []]
  | _ => gather (fragment.keywords context.draft) visit.check

/-- Checks a value against a fragment by every keyword of what the fragment stands for. -/
def validateStepByAll (context : Context) (judge : Judge) (fragment : Fragment) (data : Json) (pointer : Pointer)
    (scope : Scope) : Option (List Violation) :=
  if scope.isChecking fragment.location pointer then some []
  else
    let scope := scope.enterAt fragment pointer
    match context.resolve fragment scope with
    | .plain => context.validateByAll judge fragment data pointer scope
    | .resolved target scope => context.validateByAll judge target data pointer scope
    | .unresolved reference =>
      some [⟨.unresolvedRef, pointer, fragment.schema, data, [("ref", .str reference)], []⟩]

/-- The judge that lets checks and reductions nest to a depth, where all checks run every keyword. -/
def judgeByAll (context : Context) : Nat → Judge
  | 0 => ⟨fun _ _ _ _ => none, fun _ _ _ => none⟩
  | depth + 1 =>
    ⟨fun fragment data pointer scope => context.validateStepByAll (context.judgeByAll depth) fragment data pointer scope,
      fun task fragment scope => context.reduceStep (context.judgeByAll depth) task fragment scope⟩

variable (context : Context)

/-- A keyword that the table withholds reports nothing. -/
theorem check_of_withheld {judge : Judge} {fragment : Fragment} {data : Json} {pointer : Pointer} {scope : Scope}
    {keyword : Keyword} (known : keyword ∈ context.draft.keywords)
    (withheld : context.draft.applies keyword (TypeName.of data) = false) :
    (Visit.mk context judge fragment data pointer scope).check keyword = some [] := by
  rw [← Bool.not_eq_true, Draft.applies_iff known] at withheld
  push Not at withheld
  obtain ⟨type, own, other⟩ := withheld
  exact Visit.check_of_other own other

/-- Under any judge, the keywords of a fragment report what those report that the table lets through. -/
theorem validateByAll_eq (judge : Judge) (fragment : Fragment) (data : Json) (pointer : Pointer) (scope : Scope) :
    context.validateByAll judge fragment data pointer scope =
      context.validateSettled judge fragment data pointer scope := by
  have filtered := gather_filter (fragment.keywords context.draft)
    (Visit.mk context judge fragment data pointer scope).check
    (fun keyword => context.draft.applies keyword (TypeName.of data))
    fun keyword occurs withheld => context.check_of_withheld (fragment.keywords_subset context.draft occurs) withheld
  unfold validateByAll validateSettled
  cases fragment.schema with
  | bool accepts => cases accepts <;> rfl
  | _ => exact filtered.symm

theorem validateStepByAll_eq (judge : Judge) : context.validateStepByAll judge = context.validateStep judge := by
  funext fragment data pointer scope
  refine if_congr Iff.rfl rfl ?_
  dsimp only
  cases context.resolve fragment (scope.enterAt fragment pointer) with
  | plain => exact context.validateByAll_eq judge ..
  | resolved target scope => exact context.validateByAll_eq judge ..
  | unresolved reference => rfl

/-- Without the table, checks and reductions come to the same at every depth. -/
theorem judgeByAll_eq (depth : Nat) : context.judgeByAll depth = context.judge depth := by
  induction depth with
  | zero => rfl
  | succ depth ih => rw [judgeByAll, judge, ih, validateStepByAll_eq]

/-- The table of types changes no outcome: of the keywords of a fragment it withholds from a value just those that
constrain another type, these report nothing, and running all of them gives the same violations in the same order, for
the fragment alone under any judge and for all checks that nest in it. -/
theorem type_table_changes_nothing (fragment : Fragment) (data : Json) (pointer : Pointer) (scope : Scope) :
    (∀ keyword ∈ fragment.keywords context.draft,
      (context.draft.applies keyword (TypeName.of data) = true ↔
        ∀ type, keyword.valueType? = some type → type = TypeName.of data) ∧
      ∀ judge, context.draft.applies keyword (TypeName.of data) = false →
        (Visit.mk context judge fragment data pointer scope).check keyword = some []) ∧
    (∀ judge, context.validateByAll judge fragment data pointer scope =
      context.validateSettled judge fragment data pointer scope) ∧
    ∀ depth, (context.judgeByAll depth).validate fragment data pointer scope =
      (context.judge depth).validate fragment data pointer scope := by
  refine ⟨fun keyword occurs => ?_, fun judge => context.validateByAll_eq judge fragment data pointer scope, fun depth => ?_⟩
  · have known := fragment.keywords_subset context.draft occurs
    exact ⟨Draft.applies_iff known data, fun judge withheld => context.check_of_withheld known withheld⟩
  · rw [context.judgeByAll_eq]

end Context

/-- Limits on numbers, texts and objects. -/
def mixedLimits : Json := .obj [("minimum", .ofNat 5), ("minLength", .ofNat 5), ("required", .ofStrings ["a"])]

/-- By an object without members all three limits report what the one on objects does. -/
theorem mixedLimits_checked_by_all : ∃ node found, Compiler.standard.compile mixedLimits = .ok node ∧
    node.fragment.keywords node.context.draft = [.minimum, .minLength, .required] ∧
    node.context.draft.applies .minLength (TypeName.of .empty) = false ∧
    (Visit.mk node.context (node.context.judge 1) node.fragment .empty .root []).check .minLength = some [] ∧
    (node.context.judgeByAll 1).validate node.fragment .empty .root [] = some found ∧
    found.map Violation.code = [.requiredProperty] := by
  obtain ⟨node, compiled⟩ : ∃ node, Compiler.standard.compile mixedLimits = .ok node := ⟨_, rfl⟩
  have listed : node.fragment.keywords node.context.draft = [.minimum, .minLength, .required] := by
    cases compiled
    rfl
  have withheld : node.context.draft.applies .minLength (TypeName.of .empty) = false := by
    cases compiled
    rfl
  have table := node.context.type_table_changes_nothing node.fragment .empty .root []
  obtain ⟨found, checked, codes⟩ : ∃ found, (node.context.judge 1).validate node.fragment .empty .root [] = some found ∧
      found.map Violation.code = [.requiredProperty] := by
    cases compiled
    exact ⟨_, rfl, rfl⟩
  exact ⟨node, found, compiled, listed, withheld, (table.1 .minLength (by simp [listed])).2 _ withheld,
    (table.2.2 1).trans checked, codes⟩

end JsonSchema
