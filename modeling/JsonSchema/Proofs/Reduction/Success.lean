import JsonSchema.Proofs.Recursion.Acyclic
import JsonSchema.Proofs.Recursion.Completion
import JsonSchema.Proofs.Reduction.AcceptedData
import JsonSchema.Proofs.Reduction.Required

/-!
# Reduction of data that are accepted

A dependency is set off in reduction by a property that is present, and by one that is required. The
validator asks whether the property is present, and does so for objects only. An object that is
accepted has all that is required of it, so there the two agree.
-/

namespace JsonSchema

/-- A schema requires only what the data have. What is no object need not have anything. -/
def Json.RequiresPresent (data schema : Json) : Prop :=
  ∀ members, data = .obj members → ∀ name, schema.Requires name → (data.member? name).isSome = true

namespace Context

variable {context : Context} {data : Json}

/-- A fragment that accepts the data requires only what is present. -/
theorem Reduces.requiresPresent {q : Inquiry} {task : Reduction} {target : Fragment}
    (reduces : context.Reduces q data task target) : data.RequiresPresent target.schema := by
  cases reduces with
  | intro _ _ near inside compiled =>
    intro members object name requires
    obtain ⟨_, -, accepted⟩ := near.settled inside
    obtain ⟨names, found, inside⟩ := requires
    have present := (Visit.composed_of_accepted compiled accepted).required members names name object found inside
    rwa [object]

/-- Folding requires nothing that no fragment requires. -/
theorem inherits_requiresPresent {q : Inquiry} : context.Inherits q data data.RequiresPresent where
  idle _ _ reduces _ := reduces.requiresPresent
  static _ _ reduces members object name requires := reduces.requiresPresent members object name requires.of_staticPart
  names _ present _ _ name requires := present name requires.of_names
  rebased _ _ holds members object name requires := holds members object name requires.of_rebase
  merged _ _ left right members object name requires :=
    requires.of_merge.elim (left members object name) (right members object name)

theorem firesOnPresence_of_object {Q : Json → Prop} {members : Members} (object : data = .obj members)
    (requires : ∀ schema, Q schema → data.RequiresPresent schema) (target : Fragment) :
    context.FiresOnPresence data Q target := by
  intro dependency _ accumulated holds triggered
  rcases Reduction.isTriggered_iff.mp triggered with present | required
  · exact present
  · exact requires accumulated holds members object dependency.property required

theorem firesOnPresence_of_none {Q : Json → Prop} {target : Fragment} (none : target.dependencies context.draft = []) :
    context.FiresOnPresence data Q target := by
  intro dependency listed
  rw [none] at listed
  cases listed

end Context

namespace Node

variable {node : Node} {data : Json}

/-- The reduction of a node for data comes to a fragment with dependencies. -/
def MeetsDependencies (node : Node) (data : Json) : Prop :=
  ∃ task fragment scope, node.context.Leads (node.reduction data) (.reduction task fragment scope) ∧
    (node.context.settle fragment (scope.enter fragment)).dependencies node.context.draft ≠ []

/-- For objects, and where there are none, dependencies apply to what is present only. -/
theorem firesOnPresence (object : (∃ members, data = .obj members) ∨ ¬ node.MeetsDependencies data) {Q : Json → Prop}
    (requires : ∀ schema, Q schema → data.RequiresPresent schema) (task : Reduction) (fragment : Fragment) (scope : Scope)
    (leads : node.context.Leads (node.reduction data) (.reduction task fragment scope)) :
    node.context.FiresOnPresence data Q (node.context.settle fragment (scope.enter fragment)) := by
  rcases object with ⟨members, object⟩ | independent
  · exact Context.firesOnPresence_of_object object requires _
  · refine Context.firesOnPresence_of_none ?_
    by_contra some
    exact independent ⟨task, fragment, scope, leads, some⟩

theorem acceptedNear (checks : node.context.Unwinds (node.validation data))
    (accepted : ∃ depth, (node.context.judge depth).answer (node.validation data) = some (.violations [])) :
    node.context.AcceptedNear data .root node.fragment node.scope :=
  ⟨node.scope, .refl _, checks, Judge.answer_check.mp (node.context.limit_answer_eq_some.mpr accepted)⟩

end Node

/-- Where nothing is cut, an object that a handle accepts is reduced, unless a merged schema does not
compile; and so is any other value, as long as there are no dependencies. -/
theorem accepted_data_reduce {compiler : Compiler} {schema data : Json} {node : Node}
    (handle : node.IsHandle compiler schema) (checks : node.context.Unwinds (node.validation data))
    (folds : node.context.Unwinds (node.reduction data))
    (accepted : ∃ depth, (node.context.judge depth).answer (node.validation data) = some (.violations []))
    (object : (∃ members, data = .obj members) ∨ ¬ node.MeetsDependencies data) :
    ∃ depth result, (node.context.judge depth).answer (node.reduction data) = some (.reduced result) ∧
      ∀ violation, result = .error violation → violation.code = .invalidSchema := by
  have sound := handle.sound
  obtain ⟨verdict, answered⟩ := Option.ne_none_iff_exists'.mp
    (mt node.context.limit_answer_eq_none.mp (not_not.mpr folds.finishes))
  obtain ⟨result, reduces, rfl⟩ := Option.map_eq_some_iff.mp answered
  obtain ⟨depth, answer⟩ := node.context.limit_answer_eq_some.mp answered
  refine ⟨depth, result, answer, fun violation failed => ?_⟩
  subst failed
  exact node.context.ends_reduction Context.inherits_requiresPresent sound.index
    (Node.firesOnPresence object fun _ holds => holds) folds .refl rfl rfl sound.fragment sound.scope
    (Node.acceptedNear checks accepted) _ reduces

/-- A dependency of a required property on a member of `oneOf` that is an object. -/
def requiredTrigger : Json := .obj [
  ("required", .ofStrings ["a"]),
  ("dependentSchemas", .obj [("a", .obj [("oneOf", .arr [.obj [("type", .str "object")]])])])]

/-- An object that has the required property sets the dependency off, and is reduced. -/
theorem required_name_present_reduces : ∃ root, Compiler.standard.compile requiredTrigger = .ok root ∧
    root.validate (.obj [("a", .ofNat 1)]) = some [] ∧
      ∃ depth result, (root.context.judge depth).answer (root.reduction (.obj [("a", .ofNat 1)])) = some (.reduced result) ∧
        ∀ violation, result = .error violation → violation.code = .invalidSchema := by
  have computed : ((Compiler.standard.compile requiredTrigger).toOption.bind
      (·.accepts (.obj [("a", .ofNat 1)]))) = some true := by decide +kernel
  obtain ⟨root, compiled, accepts⟩ := Option.bind_eq_some_iff.mp computed
  have compiled := ok_of_toOption compiled
  have accepted : root.validate (.obj [("a", .ofNat 1)]) = some [] := verdict_eq_true.mp accepts
  have plain : requiredTrigger.Plain (Compiler.standard.draftFor requiredTrigger) :=
    Json.plain_of_isPlain (by decide +kernel : requiredTrigger.isPlain _ 3 = true)
  obtain ⟨checks, folds⟩ := Compiler.unwinds_of_plain compiled plain
  exact ⟨root, compiled, accepted, accepted_data_reduce ⟨root, compiled, .refl⟩ (checks _ _) (folds _)
    ⟨_, congrArg (Option.map _) accepted⟩ (.inl ⟨_, rfl⟩)⟩

/-- Whether the root of a schema accepts data, and the code of the violation that ends their reduction. -/
def acceptanceAndFailure? (schema data : Json) : Option (Bool × ViolationCode) := do
  let root ← (Compiler.standard.compile schema).toOption
  let accepted ← root.accepts data
  match ← root.reduce data with
  | .ok _ => none
  | .error violation => return (accepted, violation.code)

/-- A text is accepted, as it is no object. But reduction sets off the dependency of the name that
is required, and its schema takes no text. -/
theorem required_name_sets_off_dependency : ∃ root violation,
    Compiler.standard.compile requiredTrigger = .ok root ∧ root.validate (.str "x") = some [] ∧
      root.reduce (.str "x") = some (.error violation) ∧ violation.code = .oneOf := by
  have computed : acceptanceAndFailure? requiredTrigger (.str "x") = some (true, .oneOf) := by decide +kernel
  simp only [acceptanceAndFailure?, Option.bind_eq_bind, Option.bind_eq_some_iff] at computed
  obtain ⟨root, compiled, accepted, validates, answer, reduces, same⟩ := computed
  cases answer with
  | ok reduced => cases same
  | error violation =>
    obtain ⟨rfl, code⟩ := Prod.mk.inj (Option.some.inj same)
    exact ⟨root, violation, ok_of_toOption compiled, verdict_eq_true.mp validates, reduces, code⟩

end JsonSchema
