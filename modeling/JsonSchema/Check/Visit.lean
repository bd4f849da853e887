import JsonSchema.Reference
import JsonSchema.Violation

/-!
# Visits

A visit is the check of one value against one fragment. Checks and reductions of other fragments
that a visit needs are answered by a judge, which may decline when the depth it was given is used
up.
-/

namespace JsonSchema

/-- A fragment whose composition was folded, the scope inside it, and the position of the member
of `oneOf` that was selected on the way. -/
structure Reduced where
  fragment : Fragment
  scope : Scope
  choice : Option Nat

/-- What a reduction is for: the data and their place, or no data, and the locations that are
being reduced already. -/
structure Reduction where
  data : Option Json
  pointer : Pointer
  active : List String

/-- Answers for the fragments that a visit leads to; `none` where the depth does not suffice. -/
structure Judge where
  validate : Fragment → Json → Pointer → Scope → Option (List Violation)
  reduce : Reduction → Fragment → Scope → Option (Except Violation Reduced)

/-- The check of one value against one fragment. -/
structure Visit where
  context : Context
  judge : Judge
  fragment : Fragment
  data : Json
  /-- The place of the value. -/
  pointer : Pointer
  /-- The scope inside the fragment. -/
  scope : Scope

namespace Visit

/-- The value of a keyword. -/
def keyword? (visit : Visit) (name : String) : Option Json := visit.fragment.keyword? name

/-- A violation by a part of the value. -/
def violationAt (visit : Visit) (code : ViolationCode) (pointer : Pointer) (value : Json) (data : Members) : Violation :=
  ⟨code, pointer, visit.fragment.schema, value, data, []⟩

/-- A violation by the value. -/
def violation (visit : Visit) (code : ViolationCode) (data : Members) : Violation :=
  visit.violationAt code visit.pointer visit.data data

/-- A violation by the value that is made up of others. -/
def violationOf (visit : Visit) (code : ViolationCode) (nested : List Violation) : Violation :=
  { visit.violation code [] with nested }

/-- Checks a part of the value against another fragment. -/
def validate (visit : Visit) (fragment : Fragment) (value : Json) (pointer : Pointer) : Option (List Violation) :=
  visit.judge.validate fragment value pointer visit.scope

/-- Checks the value itself against another fragment. -/
def validateHere (visit : Visit) (fragment : Fragment) : Option (List Violation) :=
  visit.validate fragment visit.data visit.pointer

/-- Whether the value satisfies another fragment. -/
def accepts (visit : Visit) (fragment : Fragment) : Option Bool :=
  (visit.validateHere fragment).map List.isEmpty

end Visit

/-- The violations found at each of some places, in order. -/
def gather {α : Type} (places : List α) (check : α → Option (List Violation)) : Option (List Violation) :=
  (places.mapM check).map List.flatten

end JsonSchema
