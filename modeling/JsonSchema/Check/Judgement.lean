import JsonSchema.Check.Applicator
import JsonSchema.Check.Reduction

/-!
# Judgement

Checking a value against a fragment first follows the reference of the fragment, then runs the
keywords that constrain values of its type, and collects all they report. A fragment that is
reached again for the same place of the data while it is being checked reports nothing more.
Checks and reductions lead to others; how deep is given by a number.
-/

namespace JsonSchema.Context

/-- Checks a value against a fragment without reference, in the scope inside it. -/
def validateSettled (context : Context) (judge : Judge) (fragment : Fragment) (data : Json) (pointer : Pointer)
    (scope : Scope) : Option (List Violation) :=
  let visit : Visit := ⟨context, judge, fragment, data, pointer, scope⟩
  match fragment.schema with
  | .bool true => some []
  | .bool false => some [visit.violation .invalidData []]
  | _ =>
    let keywords := (fragment.keywords context.draft).filter fun keyword =>
      context.draft.applies keyword (TypeName.of data)
    gather keywords visit.check

/-- Checks a value against a fragment. -/
def validateStep (context : Context) (judge : Judge) (fragment : Fragment) (data : Json) (pointer : Pointer)
    (scope : Scope) : Option (List Violation) :=
  if scope.isChecking fragment.location pointer then some []
  else
    let scope := scope.enterAt fragment pointer
    match context.resolve fragment scope with
    | .plain => context.validateSettled judge fragment data pointer scope
    | .resolved target scope => context.validateSettled judge target data pointer scope
    | .unresolved reference =>
      some [⟨.unresolvedRef, pointer, fragment.schema, data, [("ref", .str reference)], []⟩]

/-- The judge that lets checks and reductions nest to a depth. -/
def judge (context : Context) : Nat → Judge
  | 0 => ⟨fun _ _ _ _ => none, fun _ _ _ => none⟩
  | depth + 1 =>
    ⟨fun fragment data pointer scope => context.validateStep (context.judge depth) fragment data pointer scope,
      fun task fragment scope => context.reduceStep (context.judge depth) task fragment scope⟩

/-- A depth for data: every nested check or reduction comes to another location or goes down in the
data. -/
def depthFor (context : Context) (data : Json) : Nat :=
  let locations := context.index.capacity + 16
  locations * locations * (data.depth + 2)

/-- The violations of a fragment by data at a place. -/
def validate (context : Context) (fragment : Fragment) (data : Json) (pointer : Pointer) (scope : Scope) :
    Option (List Violation) :=
  (context.judge (context.depthFor data)).validate fragment data pointer scope

/-- The reduction of a fragment for data at a place, or without data. -/
def reduce (context : Context) (fragment : Fragment) (data : Option Json) (pointer : Pointer) (scope : Scope) :
    Option (Except Violation Reduced) :=
  (context.judge (context.depthFor (.ofOption data))).reduce ⟨data, pointer, []⟩ fragment scope

end JsonSchema.Context
