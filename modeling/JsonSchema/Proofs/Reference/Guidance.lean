import JsonSchema.Proofs.Reference.Chain

/-!
# Scopes that guide references in the same way

A reference looks at its scope for dynamic anchors only. Where a relation of scopes keeps the targets
of references, and holds again after a target is entered, related scopes guide every chain of
references to the same end.
-/

namespace JsonSchema

/-- The same outcome, in related scopes. -/
inductive Resolution.Alike (R : Scope → Scope → Prop) : Resolution → Resolution → Prop where
  | plain : Alike R .plain .plain
  | resolved {target : Fragment} {left right : Scope} (inside : R left right) :
      Alike R (.resolved target left) (.resolved target right)
  | unresolved {reference : String} : Alike R (.unresolved reference) (.unresolved reference)

/-- Related scopes lead the references of a family of fragments to the same targets, and are related after
that. What the fragments stand for belongs to the family. -/
structure Scope.GuidesWithin (context : Context) (family : Fragment → Prop) (R : Scope → Scope → Prop) : Prop where
  target : ∀ {left right : Scope}, R left right → ∀ {source keyword reference}, family source →
    source.reference? context.draft = some (keyword, reference) →
    context.target? source keyword reference left = context.target? source keyword reference right
  follow : ∀ {source target next scope keyword reference}, family source →
    context.target? source keyword reference scope = some target → context.follow? source target = some next → family next
  enter : ∀ {left right : Scope}, R left right → ∀ fragment, R (left.enter fragment) (right.enter fragment)

namespace Scope.GuidesWithin

variable {context : Context} {family : Fragment → Prop} {R : Scope → Scope → Prop}
  (guides : GuidesWithin context family R) {left right : Scope}
include guides

private theorem followChain (fuel : Nat) (seen : List String) {current : Fragment} (own : family current)
    (related : R left right) :
    (context.followChain fuel seen current left).Alike R (context.followChain fuel seen current right) := by
  induction fuel generalizing seen current left right with
  | zero =>
    unfold Context.followChain
    cases refers : current.reference? context.draft with
    | none => exact .resolved related
    | some reference =>
      dsimp only
      rw [guides.target related own refers]
      cases context.target? current reference.1 reference.2 right with
      | none => exact .unresolved
      | some target => dsimp only; split <;> exact .unresolved
  | succ fuel ih =>
    unfold Context.followChain
    cases refers : current.reference? context.draft with
    | none => exact .resolved related
    | some reference =>
      dsimp only
      rw [guides.target related own refers]
      cases found : context.target? current reference.1 reference.2 right with
      | none => exact .unresolved
      | some target =>
        dsimp only
        split
        · exact .unresolved
        · cases followed : context.follow? current target with
          | none => exact .unresolved
          | some next => exact ih _ (guides.follow own found followed) (guides.enter related target)

/-- A reference leads to the same target. -/
theorem resolve (related : R left right) {fragment : Fragment} (own : family fragment) :
    (context.resolve fragment left).Alike R (context.resolve fragment right) := by
  unfold Context.resolve
  split
  · exact .plain
  · exact guides.followChain _ _ own related

theorem inside? (related : R left right) {fragment target : Fragment} (own : family fragment) {inner : Scope}
    (inside : context.inside? fragment right = some (target, inner)) :
    ∃ inner', context.inside? fragment left = some (target, inner') ∧ R inner' inner := by
  have alike := guides.resolve related own
  unfold Context.inside? at inside ⊢
  generalize context.resolve fragment left = first, context.resolve fragment right = second at inside alike ⊢
  cases alike with
  | plain =>
    cases inside
    exact ⟨left, rfl, related⟩
  | @resolved _ outer _ same =>
    cases inside
    exact ⟨outer, rfl, same⟩
  | unresolved => cases inside

theorem unresolved (related : R left right) {fragment : Fragment} (own : family fragment) {reference : String}
    (unresolved : context.resolve fragment right = .unresolved reference) :
    context.resolve fragment left = .unresolved reference := by
  have alike := guides.resolve related own
  rw [unresolved] at alike
  generalize context.resolve fragment left = first at alike
  cases alike
  rfl

theorem settle (related : R left right) {fragment : Fragment} (own : family fragment) :
    context.settle fragment left = context.settle fragment right := by
  have alike := guides.resolve related own
  unfold Context.settle
  generalize context.resolve fragment left = first, context.resolve fragment right = second at alike
  cases alike <;> rfl

end Scope.GuidesWithin

/-- Related scopes lead references to the same targets, and are related after that. -/
structure Scope.Guides (context : Context) (R : Scope → Scope → Prop) : Prop where
  target : ∀ {left right : Scope}, R left right → ∀ source keyword reference,
    context.target? source keyword reference left = context.target? source keyword reference right
  enter : ∀ {left right : Scope}, R left right → ∀ fragment, R (left.enter fragment) (right.enter fragment)

namespace Scope.Guides

variable {context : Context} {R : Scope → Scope → Prop} (guides : Guides context R) {left right : Scope}
include guides

/-- Scopes that guide all fragments guide every family. -/
theorem within : GuidesWithin context (fun _ => True) R where
  target related source keyword reference _ _ := guides.target related source keyword reference
  follow _ _ _ := trivial
  enter := guides.enter

/-- A reference leads to the same target. -/
theorem resolve (related : R left right) (fragment : Fragment) :
    (context.resolve fragment left).Alike R (context.resolve fragment right) := guides.within.resolve related trivial

theorem inside? (related : R left right) {fragment target : Fragment} {inner : Scope}
    (inside : context.inside? fragment right = some (target, inner)) :
    ∃ inner', context.inside? fragment left = some (target, inner') ∧ R inner' inner :=
  guides.within.inside? related trivial inside

theorem unresolved (related : R left right) {fragment : Fragment} {reference : String}
    (unresolved : context.resolve fragment right = .unresolved reference) :
    context.resolve fragment left = .unresolved reference := guides.within.unresolved related trivial unresolved

theorem settle (related : R left right) (fragment : Fragment) :
    context.settle fragment left = context.settle fragment right := guides.within.settle related trivial

end Scope.Guides
end JsonSchema
