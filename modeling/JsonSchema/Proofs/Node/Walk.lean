import JsonSchema.Proofs.Node.Displacement
import JsonSchema.Proofs.Recursion.Static
import JsonSchema.Proofs.Reduction.Settled

/-!
# Walks that are split

A walk can stop at any node on its way, which is reduced there, and go on from it. Where nothing refers
dynamically, the second part of the walk comes to what the whole walk comes to: it enters scopes that the
whole walk does not enter, and counts its places from where it starts.
-/

namespace JsonSchema

/-! ## Reductions in other scopes and at other places -/

/-- The outcome of a reduction, and the one for data below a place in another scope. Nothing is being checked
in the scopes. -/
inductive Reduced.Resumes (draft : Draft) (p : Pointer) :
    Option (Except Violation Reduced) → Option (Except Violation Reduced) → Prop where
  | declined : Resumes draft p none none
  | failed {violation : Violation} : Resumes draft p (some (.error violation)) (some (.error (violation.moved p)))
  | reduced {fragment : Fragment} {choice choice' : Option Nat} {left right : Scope} (static : fragment.IsStatic draft)
      (idle : left.Idle) (idle' : right.Idle) :
      Resumes draft p (some (.ok ⟨fragment, left, choice⟩)) (some (.ok ⟨fragment, right, choice'⟩))

/-- A fragment without dynamic references is reduced to the same for data below a place, in whatever scope. -/
theorem Context.Static.reduce_resumes {context : Context} (static : context.Static) {f : Fragment} {left right : Scope}
    (own : f.IsStatic context.draft) (idle : left.Idle) (idle' : right.Idle) (data : Option Json) (p pointer : Pointer) :
    Reduced.Resumes context.draft p (context.reduce f data pointer left) (context.reduce f data (p ++ pointer) right) := by
  unfold Context.reduce
  generalize context.depthFor (.ofOption data) = depth
  have moves := (context.judge_moves p depth).reduce (idle.moves p) ⟨data, pointer, []⟩ f
  have alike := (context.judge_ignoresScope static depth).reduce (idle.checksAlike idle') own ⟨data, p ++ pointer, []⟩
  have known reduced (answer : (context.judge depth).reduce ⟨data, pointer, []⟩ f left = some (.ok reduced)) :
      reduced.fragment.IsStatic context.draft ∧ reduced.scope.Idle := ⟨static.reduced own answer, idle_of_reduce idle answer⟩
  have known' reduced (answer : (context.judge depth).reduce ⟨data, p ++ pointer, []⟩ f right = some (.ok reduced)) :
      reduced.scope.Idle := idle_of_reduce idle' answer
  simp only [Reduction.moved] at moves
  generalize (context.judge depth).reduce ⟨data, pointer, []⟩ f left = first,
    (context.judge depth).reduce ⟨data, p ++ pointer, []⟩ f left = between,
    (context.judge depth).reduce ⟨data, p ++ pointer, []⟩ f right = second at *
  cases moves with
  | declined =>
    cases alike
    exact .declined
  | failed =>
    cases alike
    exact .failed
  | reduced =>
    cases alike
    obtain ⟨static, free⟩ := known _ rfl
    exact .reduced static free (known' _ rfl)

namespace Node

/-! ## Walks in other scopes and from other places -/

/-- The fragment that a walk ends at: its schema, its location and its base. -/
def ending (outcome : Option (Except Violation (Option Node))) : Option (Except Violation (Option Fragment)) :=
  outcome.map (Except.map (Option.map fragment))

section
variable {context : Context} {f : Fragment} {scope : Scope} {data : Option Json} {pointer : Pointer} {choice : Option Nat}

/-- A walk ends where its first reduction has no answer, or fails. -/
theorem walkFrom_of_none (declined : context.reduce f data pointer scope = none) (segments : List String) :
    (⟨context, f, scope, choice⟩ : Node).walkFrom data pointer segments = none := by
  cases segments <;> simp only [walkFrom, settle, getAt, declined] <;> rfl

theorem walkFrom_of_error {violation : Violation}
    (failed : context.reduce f data pointer scope = some (.error violation)) (segments : List String) :
    (⟨context, f, scope, choice⟩ : Node).walkFrom data pointer segments = some (.error violation) := by
  cases segments <;> simp only [walkFrom, settle, getAt, failed] <;> rfl

variable {reduced : Reduced} (reduces : context.reduce f data pointer scope = some (.ok reduced))
include reduces

theorem walkFrom_nil_of_ok :
    (⟨context, f, scope, choice⟩ : Node).walkFrom data pointer [] = some (.ok (some (ofReduced context reduced))) := by
  simp only [walkFrom, settle, reduces]
  rfl

theorem walkFrom_cons_of_ok (segment : String) (rest : List String) :
    (⟨context, f, scope, choice⟩ : Node).walkFrom data pointer (segment :: rest) =
      match schemaFor reduced.fragment segment data pointer with
      | .error violation => some (.error violation)
      | .ok none => some (.ok none)
      | .ok (some schema) =>
        (reach context schema reduced.scope).walkFrom (data.bind (part? · segment)) (pointer.join segment) rest := by
  cases found : schemaFor reduced.fragment segment data pointer with
  | error violation => simp [walkFrom, getAt, reduces, found, Except.map]
  | ok schema => cases schema <;> simp [walkFrom, getAt, reduces, found, Except.map]

end

theorem rejection_moved (code : ViolationCode) (schema : Json) (p pointer : Pointer) (key : String) (data : Option Json)
    (details : Members) : rejection code schema (p ++ pointer) key data details =
      (rejection code schema pointer key data details).moved p := by
  rw [rejection, Pointer.append_join]
  rfl

/-- A key of data below a place has the same schema, or it is refused there. -/
theorem schemaFor_moved (f : Fragment) (key : String) (data : Option Json) (p pointer : Pointer) :
    schemaFor f key data (p ++ pointer) = (schemaFor f key data pointer).mapError (Violation.moved p) := by
  unfold schemaFor
  simp only [rejection_moved]
  cases propertySchema? f key with
  | some own => rfl
  | none =>
    cases Pointer.readIndex? key with
    | none => dsimp only; split <;> rfl
    | some index =>
      dsimp only
      cases itemSchema? f index with
      | error rest => rfl
      | ok item =>
        cases item with
        | some own => rfl
        | none => simp only [Except.mapError]; split <;> rfl

/-- Walks end at the same where they start with the same reduction, up to the place below which one stands. -/
theorem walkFrom_resumes {context : Context} (static : context.Static) {p : Pointer} {f g : Fragment} {left right : Scope}
    {choice choice' : Option Nat} {data : Option Json} {pointer : Pointer} (resumes : Reduced.Resumes context.draft p
      (context.reduce f data pointer left) (context.reduce g data (p ++ pointer) right)) (segments : List String) :
    ending ((⟨context, g, right, choice'⟩ : Node).walkFrom data (p ++ pointer) segments) =
      (ending ((⟨context, f, left, choice⟩ : Node).walkFrom data pointer segments)).map
        (Except.mapError (Violation.moved p)) := by
  generalize first : context.reduce f data pointer left = x, second : context.reduce g data (p ++ pointer) right = y
    at resumes
  cases resumes with
  | declined => rw [walkFrom_of_none second, walkFrom_of_none first]; rfl
  | failed => rw [walkFrom_of_error second, walkFrom_of_error first]; rfl
  | @reduced fragment _ _ _ _ own idle idle' =>
    match segments with
    | [] => rw [walkFrom_nil_of_ok second, walkFrom_nil_of_ok first]; rfl
    | segment :: rest =>
      rw [walkFrom_cons_of_ok second, walkFrom_cons_of_ok first, schemaFor_moved]
      cases found : schemaFor fragment segment data pointer with
      | error violation => rfl
      | ok schema =>
        cases schema with
        | none => rfl
        | some schema =>
          -- only the fragment, the data and the place are carried on: the scopes are related no more than before
          have child := own.child (hasChild_of_schemaFor found)
          have below := static.reduce_resumes child idle idle' (data.bind (part? · segment)) p (pointer.join segment)
          simp only [Except.mapError, Pointer.append_join]
          exact walkFrom_resumes static below rest

/-! ## A walk in two parts -/

/-- The part of data below segments. -/
def partBelow? (data : Option Json) (segments : List String) : Option Json :=
  segments.foldl (fun data segment => data.bind (part? · segment)) data

/-- Goes on, where a walk came to a node at a place, with a walk from there for the data at the place. What
fails is reported below the place. -/
def walkOn (outcome : Option (Except Violation (Option Node))) (place : Pointer) (data : Option Json) (onward : Pointer) :
    Option (Except Violation (Option Node)) :=
  match outcome with
  | some (.ok (some node)) => (node.walk onward data).map (Except.mapError (Violation.moved place))
  | stopped => stopped

theorem ending_mapError (outcome : Option (Except Violation (Option Node))) (g : Violation → Violation) :
    ending (outcome.map (Except.mapError g)) = (ending outcome).map (Except.mapError g) := by
  rw [ending, ending, Option.map_map, Option.map_map, mapError_comp_map]

/-- From a place a walk goes on as it does from the node that is reduced there. -/
theorem walkFrom_of_settled {context : Context} (static : context.Static) {f : Fragment} {scope : Scope} {choice : Option Nat}
    (within : (⟨context, f, scope, choice⟩ : Node).Within (·.IsStatic context.draft)) {data : Option Json} {pointer : Pointer}
    {reduced : Reduced} (reduces : context.reduce f data pointer scope = some (.ok reduced)) (segments : List String) :
    ending ((⟨context, f, scope, choice⟩ : Node).walkFrom data pointer segments) =
      ending (((ofReduced context reduced).walkFrom data .root segments).map (Except.mapError (Violation.moved pointer))) := by
  have settled : reduced.fragment.SettledFor context.draft data := Context.settled_of_reduce static.wellCompiled
    within.fragment.compiled (fun frame entered => (within.scope frame entered).compiled) reduces
  have again : context.reduce reduced.fragment data .root reduced.scope =
      some (.ok ⟨reduced.fragment, reduced.scope.enter reduced.fragment, none⟩) := by
    rw [Context.reduce]
    exact Context.reduce_of_settledFor settled (context.depthFor_pos _)
  have idle := Context.idle_of_reduce within.idle reduces
  have own := static.reduced within.fragment reduces
  obtain ⟨folded, inner, selected⟩ := reduced
  -- the second reduction finds nothing to do, so both walks start from the folded fragment, at different places
  have resumes : Reduced.Resumes context.draft pointer (context.reduce folded data .root inner)
      (context.reduce f data (pointer ++ .root) scope) := by
    rw [Pointer.append_root, again, reduces]
    exact .reduced own (idle.enter _) idle
  have ends := @walkFrom_resumes _ static _ _ _ _ _ selected choice _ _ resumes segments
  rwa [Pointer.append_root, ← ending_mapError] at ends

/-- The schema for a key of what a node is reduced to has no dynamic references. -/
theorem within_of_schemaFor {context : Context} (static : context.Static) {f schema : Fragment} {scope : Scope}
    {choice : Option Nat} (within : (⟨context, f, scope, choice⟩ : Node).Within (·.IsStatic context.draft)) {key : String}
    {data : Option Json} {pointer : Pointer} {reduced : Reduced}
    (reduces : context.reduce f data pointer scope = some (.ok reduced))
    (found : schemaFor reduced.fragment key data pointer = .ok (some schema)) :
    (reach context schema reduced.scope).Within (·.IsStatic context.draft) where
  fragment := (static.reduced within.fragment reduces).child (hasChild_of_schemaFor found)
  scope := static.retains.scope_of_reduce within.fragment within.scope reduces
  idle := Context.idle_of_reduce within.idle reduces

/-- A walk goes on after its first segments as the walk does that stops there. -/
theorem walkFrom_append {node : Node} (static : node.context.Static) (within : node.Within (·.IsStatic node.context.draft))
    (data : Option Json) (pointer : Pointer) (first second : List String) :
    ending (node.walkFrom data pointer (first ++ second)) =
      ending (walkOn (node.walkFrom data pointer first) (pointer.joinAll first) (partBelow? data first) ⟨second⟩) := by
  obtain ⟨context, f, scope, choice⟩ := node
  cases reduces : context.reduce f data pointer scope with
  | none => rw [walkFrom_of_none reduces, walkFrom_of_none reduces]; rfl
  | some result =>
    cases result with
    | error violation => rw [walkFrom_of_error reduces, walkFrom_of_error reduces]; rfl
    | ok reduced =>
      match first with
      | [] =>
        have place : pointer.joinAll [] = pointer := Pointer.append_root pointer
        rw [List.nil_append, walkFrom_nil_of_ok reduces, walkFrom_of_settled static within reduces, place]
        rfl
      | segment :: rest =>
        rw [List.cons_append, walkFrom_cons_of_ok reduces, walkFrom_cons_of_ok reduces]
        cases found : schemaFor reduced.fragment segment data pointer with
        | error violation => rfl
        | ok schema =>
          cases schema with
          | none => rfl
          | some schema =>
            have below := within_of_schemaFor static within reduces found
            have place : (pointer.join segment).joinAll rest = pointer.joinAll (segment :: rest) :=
              congrArg Pointer.mk (List.append_assoc ..)
            rw [← place]
            exact @walkFrom_append (reach context schema reduced.scope) static below _ _ rest second

/-- A handle of a schema without dynamic references leads to none. -/
theorem IsHandle.static {compiler : Compiler} {schema : Json} {node : Node} (handle : node.IsHandle compiler schema)
    (static : ∀ document ∈ compiler.documents schema, document.Static) :
    node.context.Static ∧ node.Within (·.IsStatic node.context.draft) := by
  obtain ⟨root, compiled, way⟩ := handle
  obtain ⟨known, own⟩ := Compiler.static_of_compile static compiled
  obtain ⟨-, -, outermost, -⟩ := Compiler.root_of_compile compiled
  have within : root.Within (·.IsStatic root.context.draft) :=
    ⟨own, outermost ▸ nofun, outermost ▸ nofun⟩
  obtain ⟨within, same⟩ := within.leads known.retains way
  rw [same]
  exact ⟨known, within⟩

/-- A walk can be split anywhere: where no document refers dynamically, the walk to a pointer, and from the
reduced node there on to another one for the data below the first, ends as the walk along both does. Both
come to the same fragment, or to nothing, or they fail with the same violation, which the second part
reports below the first pointer. -/
theorem walk_append {compiler : Compiler} {schema : Json} {node : Node} (handle : node.IsHandle compiler schema)
    (static : ∀ document ∈ compiler.documents schema, document.Static) (first second : Pointer) (data : Option Json) :
    ending (node.walk (first ++ second) data) =
      ending (walkOn (node.walk first data) first (partBelow? data first.segments) second) := by
  obtain ⟨static, within⟩ := handle.static static
  exact walkFrom_append static within data .root first.segments second.segments

/-- A member refers to an object whose own member is small or great. -/
def referredPair : Json := .obj [
  ("$defs", .obj [("pair", .obj [("properties", .obj [("b", .obj [("oneOf", .arr [
    .obj [("maximum", .ofNat 1)], .obj [("minimum", .ofNat 5)]])])])])]),
  ("properties", .obj [("a", .obj [("allOf", .arr [.obj [("$ref", .str "#/$defs/pair")]])])])]

theorem referredPair_static : referredPair.Static := by
  simp [Json.Static, referredPair, Json.refersStatically_iff, Json.stringMember?, Json.member?, List.lookup_cons,
    List.lookup_nil, Json.ofNat]

/-- The root of a schema, and why the walk along a pointer fails for data. -/
def failedWalk? (schema data : Json) (pointer : Pointer) : Option (Node × Violation) := do
  let root ← (Compiler.standard.compile schema).toOption
  match ← root.walk pointer (some data) with
  | .ok _ => none
  | .error violation => return (root, violation)

theorem walk_append_fails_below : ∃ root violation, Compiler.standard.compile referredPair = .ok root ∧
    violation.code = .oneOf ∧ violation.pointer.text = "#/a/b" ∧
    root.walk ⟨["a", "b"]⟩ (some (.obj [("a", .obj [("b", .ofNat 3)])])) = some (.error violation) ∧
    ending (walkOn (root.walk ⟨["a"]⟩ (some (.obj [("a", .obj [("b", .ofNat 3)])]))) ⟨["a"]⟩ (some (.obj [("b", .ofNat 3)]))
      ⟨["b"]⟩) = some (.error violation) := by
  have computed : (failedWalk? referredPair (.obj [("a", .obj [("b", .ofNat 3)])]) ⟨["a", "b"]⟩).map (fun found =>
      (found.2.code, found.2.pointer.text)) = some (.oneOf, "#/a/b") := by decide +kernel
  obtain ⟨⟨root, violation⟩, known, reported⟩ := Option.map_eq_some_iff.mp computed
  obtain ⟨code, place⟩ := Prod.mk.inj reported
  simp only [failedWalk?, Option.bind_eq_bind, Option.bind_eq_some_iff] at known
  obtain ⟨_, compiled, outcome, walks, same⟩ := known
  have compiled := ok_of_toOption compiled
  cases outcome with
  | ok found => cases same
  | error _ =>
    cases same
    have split := walk_append ⟨root, compiled, .refl⟩ (List.forall_mem_singleton.mpr referredPair_static) ⟨["a"]⟩ ⟨["b"]⟩
      (some (.obj [("a", .obj [("b", .ofNat 3)])]))
    have whole : (⟨["a"]⟩ ++ ⟨["b"]⟩ : Pointer) = ⟨["a", "b"]⟩ := rfl
    rw [whole, walks] at split
    exact ⟨root, violation, compiled, code, place, walks, split.symm⟩

end Node
end JsonSchema
