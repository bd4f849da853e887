import JsonSchema.Proofs.Check.Relocation
import JsonSchema.Proofs.Node.Handle
import JsonSchema.Proofs.Reduction.Folded
import JsonSchema.Proofs.Reduction.Folding

/-!
# Reduction reaches a fixed point

Contributions are reduced before they are merged, so what is accumulated never regains a reference
or a composition. What a fragment is reduced to for data has none, and reducing it once more, for
whatever data or without data, leaves it as it is.
-/

namespace JsonSchema

/-- A boolean, or an object without reference and composition. -/
def FoldedSchema (draft : Draft) (schema : Json) : Prop :=
  (∃ b, schema = .bool b) ∨ ∃ members : Members, schema = .obj members ∧ members.Folded draft

namespace Fragment

variable {draft : Draft} {f : Fragment}

/-- A compiled fragment rests exactly if its schema is folded. -/
theorem IsCompiled.rests_iff (compiled : f.IsCompiled draft) : f.Rests draft ↔ FoldedSchema draft f.schema := by
  obtain ⟨source, outer, compiled⟩ := compiled
  rcases compiled.bool_or_obj with ⟨b, same⟩ | ⟨members, same⟩
  · rw [same] at compiled
    exact ⟨fun _ => .inl ⟨b, same⟩, fun _ => rests_bool compiled⟩
  · rw [same] at compiled
    rw [rests_iff_folded (compiled_obj.mp compiled)]
    constructor
    · exact fun folded => .inr ⟨members, same, folded⟩
    · rintro (⟨b, other⟩ | ⟨members', other, folded⟩)
      · rw [same] at other
        cases other
      · rw [same] at other
        cases other
        exact folded

/-- The fragment makes no reference, and reduction for the data, or without, has nothing to fold. -/
def SettledFor (draft : Draft) (data : Option Json) (f : Fragment) : Prop :=
  f.reference? draft = none ∧ (⟨data, .root, []⟩ : Reduction).hasWork draft f = false

theorem Rests.settledFor (rests : f.Rests draft) (data : Option Json) : f.SettledFor draft data := by
  refine ⟨rests.1, ?_⟩
  rw [Reduction.hasWork, rests.2]
  split <;> rfl

end Fragment

theorem FoldedSchema.rebased {draft : Draft} {schema : Json} (folded : FoldedSchema draft schema) (base : Uri) :
    FoldedSchema draft (rebase base schema) := by
  rcases folded with ⟨b, rfl⟩ | ⟨members, rfl, folded⟩
  · exact .inl ⟨b, rfl⟩
  · exact .inr ⟨_, rfl, folded.rebased _ _⟩

/-- What is accumulated is a folded object, and stays one when a folded schema is merged into it. -/
theorem Members.Folded.merge_schema {draft : Draft} {members : Members} {schema : Json} (left : members.Folded draft)
    (right : FoldedSchema draft schema) :
    ∃ members' : Members, merge (.obj members) schema = .obj members' ∧ members'.Folded draft := by
  rcases right with ⟨b, rfl⟩ | ⟨other, rfl, right⟩
  · exact ⟨members, merge_obj_bool members b, left⟩
  · exact ⟨_, merge_obj members other, left.merged right⟩

namespace Folding

variable {folding : Folding} {draft : Draft}

/-- Every child that can be reduced is reduced to a folded schema. -/
def FoldsChildren (folding : Folding) (draft : Draft) : Prop :=
  ∀ member, folding.visit.fragment.HasChild member → ∀ reduced,
    folding.visit.judge.reduce folding.task member folding.visit.scope = some (.ok reduced) →
    FoldedSchema draft reduced.fragment.schema

/-- No addition brings back a reference or a composition. -/
theorem keeps_folded (children : folding.FoldsChildren draft) : folding.Keeps
    (fun schema => ∃ members : Members, schema = .obj members ∧ members.Folded draft) fun _ => True where
  added := by
    rintro _ demand adds ⟨members, rfl, folded⟩
    cases demand with
    | names names => exact .pure (folded.merge_schema (.inr ⟨_, rfl, .required _⟩))
    | schema member =>
      have contributes : Attempt.Ends (FoldedSchema draft) (fun _ => True) (folding.contribution member) := by
        intro end' answer
        cases end' with
        | error => trivial
        | ok addition =>
          obtain ⟨reduced, reduces, same⟩ := Attempt.bind_eq_ok.mp answer
          cases same
          exact (children member adds.hasChild reduced reduces).rebased _
      exact .bind contributes fun _ added => .pure (folded.merge_schema added)
  selected _ _ _ := trivial

end Folding

namespace Context

variable {context : Context} {fragment : Fragment} {scope : Scope}

/-- What a fragment is reduced to for data rests. -/
theorem rests_of_reduce (known : context.index.WellCompiled context.draft) {depth : Nat} {task : Reduction}
    (given : task.data.isSome = true) {reduced : Reduced} (compiled : fragment.IsCompiled context.draft)
    (entered : scope.IsCompiled context.draft)
    (answer : (context.judge depth).reduce task fragment scope = some (.ok reduced)) :
    reduced.fragment.Rests context.draft := by
  induction depth generalizing task fragment scope reduced with
  | zero => cases answer
  | succ depth ih =>
    have anew := (isCompiled_of_reduce known compiled entered answer).1
    obtain ⟨target, inner, inside, settled⟩ := reduceStep_eq_ok answer
    obtain ⟨found, enters⟩ := (chain_of_inside? inside).isCompiled known compiled
      (List.forall_mem_cons.mpr ⟨compiled, entered⟩)
    have unreferring := (chain_of_inside? inside).settled
    have static (composed : task.hasWork context.draft target = true) :
        ∃ members : Members, task.staticPart target.schema = .obj members ∧ members.Folded context.draft := by
      obtain ⟨source, outer, made⟩ := found
      rcases made.bool_or_obj with ⟨b, same⟩ | ⟨members, same⟩
      · rw [same] at made
        rw [Reduction.hasWork, if_pos given, (Fragment.rests_bool made).2] at composed
        cases composed
      · rw [Fragment.reference?_eq_none_iff, same] at unreferring
        rw [same]
        exact ⟨_, rfl, .static given unreferring⟩
    obtain ⟨-, ⟨idle, same⟩ | ⟨composed, -, derived⟩ | ⟨composed, -, schema, folds, derived⟩⟩ := reduceSettled_eq_ok settled
    · rw [same]
      rw [Reduction.hasWork, if_pos given] at idle
      exact ⟨unreferring, by simpa using idle⟩
    · rw [anew.rests_iff, Fragment.schema_of_derive derived]
      exact .inr (static composed)
    · rw [anew.rests_iff, Fragment.schema_of_derive derived]
      have keeps := @Folding.keeps_folded (context.folding (context.judge depth) task target inner) context.draft
        fun member child other answer => ?_
      · exact .inr (Folding.ends_foldAll keeps (static composed) _ folds)
      have below := found.child child
      have again := (isCompiled_of_reduce known below enters answer).1
      have given' : (context.folding (context.judge depth) task target inner).task.data.isSome = true := given
      exact again.rests_iff.mp (ih given' below enters answer)

/-- A fragment that stands for one with nothing to fold is reduced to that one. -/
theorem reduce_of_inside? {task : Reduction} {target : Fragment} {inner : Scope}
    (inside : context.inside? fragment (scope.enter fragment) = some (target, inner))
    (still : task.hasWork context.draft target = false) {depth : Nat} (deep : 0 < depth) :
    (context.judge depth).reduce task fragment scope = some (.ok ⟨target, inner, none⟩) := by
  obtain ⟨depth, rfl⟩ := Nat.exists_eq_add_one_of_ne_zero deep.ne'
  change context.reduceStep (context.judge depth) task fragment scope = _
  rw [reduceStep_of_inside? inside]
  simp only [reduceSettled, still]
  rfl

/-- A fragment that has nothing to fold stays as it is. -/
theorem reduce_of_settledFor {task : Reduction} (settled : fragment.SettledFor context.draft task.data) {depth : Nat}
    (deep : 0 < depth) :
    (context.judge depth).reduce task fragment scope = some (.ok ⟨fragment, scope.enter fragment, none⟩) := by
  have still : task.hasWork context.draft fragment = false := settled.2
  exact reduce_of_inside? (inside?_of_settled settled.1) still deep

/-- A fragment that rests stays as it is. -/
theorem reduce_of_rests (rests : fragment.Rests context.draft) {depth : Nat} (deep : 0 < depth) (task : Reduction) :
    (context.judge depth).reduce task fragment scope = some (.ok ⟨fragment, scope.enter fragment, none⟩) :=
  reduce_of_settledFor (rests.settledFor task.data) deep

theorem depthFor_pos (context : Context) (data : Json) : 0 < context.depthFor data := by
  exact Nat.mul_pos (Nat.mul_pos (Nat.succ_pos _) (Nat.succ_pos _)) (Nat.succ_pos _)

/-- A fragment without reference is checked by its own keywords where nothing is being checked. -/
theorem validate_of_settled {data : Json} {pointer : Pointer} (settled : fragment.reference? context.draft = none)
    (idle : scope.Idle) : context.validate fragment data pointer scope =
      context.validateSettled (context.judge (context.depthFor data - 1)) fragment data pointer
        (scope.enterAt fragment pointer) := by
  obtain ⟨depth, enough⟩ := Nat.exists_eq_add_one_of_ne_zero (context.depthFor_pos data).ne'
  rw [validate, enough, Nat.add_sub_cancel]
  exact validateStep_of_inside? (idle.not_isChecking _ pointer) (inside?_of_settled settled)

end Context

/-- What a handle is reduced to for data has no reference and no composition, and every further
reduction, for whatever data or without data, gives the same schema. -/
theorem reduction_is_fixed {compiler : Compiler} {schema data : Json} {node reduced : Node}
    (handle : node.IsHandle compiler schema) (answer : node.reduce data = some (.ok reduced)) :
    reduced.fragment.reference? reduced.context.draft = none ∧ reduced.fragment.reducers reduced.context.draft = [] ∧
      (∀ other, ∃ again, reduced.reduce other = some (.ok again) ∧ again.fragment.schema = reduced.fragment.schema) ∧
      ∃ again, reduced.reduceStatic = some (.ok again) ∧ again.fragment.schema = reduced.fragment.schema := by
  obtain ⟨result, folds, same⟩ := Option.bind_eq_some_iff.mp answer
  cases result with
  | error violation => cases same
  | ok result =>
    cases same
    have sound := handle.sound
    have rests := Context.rests_of_reduce sound.index rfl sound.fragment sound.scope folds
    have settles (data : Option Json) : (Node.ofReduced node.context result).settle data .root =
        some (.ok ⟨node.context, result.fragment, result.scope.enter result.fragment, none⟩) := by
      unfold Node.settle Context.reduce
      simp only [Node.ofReduced, Context.reduce_of_rests rests (Context.depthFor_pos _ _)]
      rfl
    exact ⟨rests.1, rests.2, fun other => ⟨_, settles (some other), rfl⟩, _, settles none, rfl⟩

/-- Bounds for a number that a reference, `allOf`, `anyOf` and a conditional contribute. -/
def composedBounds : Json := .obj [
  ("$defs", .obj [("positive", .obj [("minimum", .ofNat 1)])]),
  ("allOf", .arr [.obj [("$ref", .str "#/$defs/positive"), ("maximum", .ofNat 9)]]),
  ("anyOf", .arr [.obj [("type", .str "string")], .obj [("type", .str "integer")]]),
  ("if", .bool true), ("then", .obj [("multipleOf", .ofNat 3)])]

/-- The root of a schema, and what it is reduced to for data. -/
def rootAndReduced? (schema data : Json) : Option (Node × Node) := do
  let root ← (Compiler.standard.compile schema).toOption
  return (root, ← (← root.reduce data).toOption)

theorem composed_bounds_reduction_is_fixed : ∃ root reduced,
    Compiler.standard.compile composedBounds = .ok root ∧ root.reduce (.ofNat 3) = some (.ok reduced) ∧
      ∃ again, reduced.reduce (.ofNat 12) = some (.ok again) ∧ again.fragment.schema = reduced.fragment.schema := by
  have computed : (rootAndReduced? composedBounds (.ofNat 3)).isSome = true := by decide +kernel
  obtain ⟨⟨root, reduced⟩, known⟩ := Option.isSome_iff_exists.mp computed
  simp only [rootAndReduced?, Option.bind_eq_bind, Option.bind_eq_some_iff] at known
  obtain ⟨_, compiled, answer, reduces, _, answered, same⟩ := known
  cases same
  have compiled := ok_of_toOption compiled
  have reduces : root.reduce (.ofNat 3) = some (.ok reduced) := ok_of_toOption answered ▸ reduces
  obtain ⟨-, -, again, -⟩ := reduction_is_fixed ⟨root, compiled, .refl⟩ reduces
  exact ⟨root, reduced, compiled, reduces, again (.ofNat 12)⟩

end JsonSchema
