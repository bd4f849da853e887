import JsonSchema.Check.Selection

/-!
# Reduction

Reduction folds the composition of a fragment, as far as the data settle it, into one fragment
without composition. Every member that applies is reduced, its references are made absolute, and
it is merged into the rest of the fragment. Without data only `allOf` is folded. A location that
is reached again while it is being reduced contributes its static part.
-/

namespace JsonSchema

/-- Answers that may fail with a violation; `none` where the depth does not suffice. -/
abbrev Attempt := ExceptT Violation Option

/-- The keywords that reduction with data takes out of a fragment. -/
def dynamicKeywords : List String := [
  "allOf", "anyOf", "oneOf", "dependencies", "dependentSchemas", "dependentRequired", "if", "then", "else"]

namespace Reduction

/-- The value a violation reports. -/
def value (task : Reduction) : Json := .ofOption task.data

/-- Whether reduction takes a keyword out of a fragment. -/
def isDynamic (task : Reduction) (name : String) : Bool :=
  if task.data.isSome then dynamicKeywords.contains name else name == "allOf"

/-- A schema without the keywords that are folded. -/
def staticPart (task : Reduction) (schema : Json) : Json :=
  match schema with
  | .obj members => .obj (Members.without members task.isDynamic)
  | schema => schema

/-- Whether a fragment has composition to fold. -/
def hasWork (task : Reduction) (draft : Draft) (fragment : Fragment) : Bool :=
  if task.data.isSome then !(fragment.reducers draft).isEmpty
  else (fragment.reducers draft).contains .allOf

/-- Compiles a schema at the site of the fragment it was folded from. -/
def compile (task : Reduction) (draft : Draft) (fragment : Fragment) (schema : Json) :
    Except Violation Fragment :=
  match Fragment.derive draft fragment.site schema with
  | .ok folded => .ok folded
  | .error fault =>
    .error ⟨.invalidSchema, task.pointer, schema, task.value, [("reason", .str fault.message)], []⟩

/-- Whether a dependency applies: its property is present or already required. -/
def isTriggered (data accumulated : Json) (name : String) : Bool :=
  (data.member? name).isSome ||
    (((accumulated.member? "required").bind Json.items?).getD []).any fun required =>
      required.string? == some name

end Reduction

/-- The reduction of one fragment: the fragment, the scope inside it, and the visit in which its
members are checked. -/
structure Folding where
  task : Reduction
  visit : Visit

namespace Folding

/-- A member, reduced and with absolute references. -/
def contribution (folding : Folding) (member : Fragment) : Attempt Json := do
  let reduced ← ExceptT.mk (folding.visit.judge.reduce folding.task member folding.visit.scope)
  return rebase reduced.fragment.site.base reduced.fragment.schema

/-- Merges a member into what was accumulated. -/
def absorb (folding : Folding) (accumulated : Json) (member : Fragment) : Attempt Json := do
  return merge accumulated (← folding.contribution member)

/-- Merges what a present property asks for. -/
def absorbDemand (folding : Folding) (accumulated : Json) : Demand → Attempt Json
  | .names names => return merge accumulated (.obj [("required", .ofStrings names)])
  | .schema fragment => folding.absorb accumulated fragment

/-- One pass over the dependencies that did not apply so far: those that still do not, and what was
accumulated. -/
def dependencyPass (folding : Folding) (waiting : List Dependency) (accumulated : Json) :
    Attempt (List Dependency × Json) :=
  waiting.foldlM
    (fun (left, accumulated) dependency => do
      if Reduction.isTriggered folding.visit.data accumulated dependency.property then
        return (left, ← folding.absorbDemand accumulated dependency.demand)
      else return (left ++ [dependency], accumulated))
    ([], accumulated)

/-- Passes over the dependencies until none of those left applies. Names that one of them requires
can make others apply. -/
def foldDependencies (folding : Folding) : Nat → List Dependency → Json → Attempt Json
  | 0, _, accumulated => return accumulated
  | passes + 1, waiting, accumulated => do
    let (left, accumulated) ← folding.dependencyPass waiting accumulated
    if left.length = waiting.length then return accumulated
    else folding.foldDependencies passes left accumulated

/-- The branch of a conditional that applies to the data. -/
def branch? (folding : Folding) : Attempt (Option Fragment) :=
  match folding.visit.fragment.condition? with
  | none => return none
  | some condition => do
    let holds : Bool ← ExceptT.lift (folding.visit.accepts condition)
    return if holds then folding.visit.fragment.consequence? else folding.visit.fragment.alternative?

/-- Folds one composition of the fragment. The position is that of the selected member of `oneOf`. -/
def fold (folding : Folding) (accumulated : Json) (choice : Option Nat) : Reducer → Attempt (Json × Option Nat)
  | .allOf => do
    return (← (folding.visit.fragment.members .allOf).foldlM folding.absorb accumulated, choice)
  | .anyOf => do
    let accumulated ← (folding.visit.fragment.members .anyOf).foldlM
      (fun accumulated member => do
        let holds : Bool ← ExceptT.lift (folding.visit.accepts member)
        if holds then folding.absorb accumulated member else return accumulated)
      accumulated
    return (accumulated, choice)
  | .oneOf => do
    let selected ← ExceptT.mk folding.visit.selectOneOf
    match (folding.visit.fragment.members .oneOf)[selected.index]? with
    | some member => return (← folding.absorb accumulated member, some selected.index)
    | none => return (accumulated, some selected.index)
  | .dependencies => do
    let dependencies := folding.visit.fragment.dependencies folding.visit.context.draft
    return (← folding.foldDependencies (dependencies.length + 1) dependencies accumulated, choice)
  | .conditional => do
    match ← folding.branch? with
    | some branch => return (← folding.absorb accumulated branch, choice)
    | none => return (accumulated, choice)

/-- Folds every composition that the data settle. -/
def foldAll (folding : Folding) : Attempt (Json × Option Nat) :=
  let draft := folding.visit.context.draft
  let settled := (folding.visit.fragment.reducers draft).filter fun reducer =>
    folding.task.data.isSome || reducer = .allOf
  settled.foldlM (fun (accumulated, choice) reducer => folding.fold accumulated choice reducer)
    (folding.task.staticPart folding.visit.fragment.schema, none)

end Folding

namespace Context

/-- Reduces a fragment without reference. -/
def reduceSettled (context : Context) (judge : Judge) (task : Reduction) (fragment : Fragment) (scope : Scope) :
    Attempt Reduced := do
  if !task.hasWork context.draft fragment then return ⟨fragment, scope, none⟩
  else if task.active.contains fragment.location then
    let folded ← ExceptT.mk (some (task.compile context.draft fragment (task.staticPart fragment.schema)))
    return ⟨folded, scope, none⟩
  else
    let inner := { task with active := fragment.location :: task.active }
    let folding : Folding := ⟨inner, ⟨context, judge, fragment, task.value, task.pointer, scope⟩⟩
    let (schema, choice) ← folding.foldAll
    let folded ← ExceptT.mk (some (task.compile context.draft fragment schema))
    return ⟨folded, scope, choice⟩

/-- Reduces a fragment, following its reference first. -/
def reduceStep (context : Context) (judge : Judge) (task : Reduction) (fragment : Fragment) (scope : Scope) :
    Option (Except Violation Reduced) :=
  let scope := scope.enter fragment
  match context.resolve fragment scope with
  | .plain => (context.reduceSettled judge task fragment scope).run
  | .resolved target scope => (context.reduceSettled judge task target scope).run
  | .unresolved reference =>
    some (.error ⟨.unresolvedRef, task.pointer, fragment.schema, task.value, [("ref", .str reference)], []⟩)

end Context
end JsonSchema
