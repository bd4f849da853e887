import JsonSchema.Proofs.Merge.Additive
import JsonSchema.Proofs.Reduction.Assembly

/-!
# What a reduced fragment accepts

A reduced fragment accepts the data for which it was reduced if the schemas that are merged on the way
blend, as additive schemas do. Not all schemas do: members are merged slot by slot where they are
lists, and a boolean beside an object in one slot moves all that comes after it.
-/

namespace JsonSchema

/-- Where all that is merged is additive, every two schemas blend. -/
theorem Context.harmonious_of_additive {context : Context} {q : Inquiry} {data : Json}
    (evaluated : ∀ g, context.WayTo q.fragment g → ¬ g.LooksAround context.draft)
    (contributes : ∀ g, context.WayTo q.fragment g → g.Contributes context.draft Json.Additive) :
    context.Harmonious q data := by
  have additive (schema : Json) (assembled : context.Assembled q data schema) : schema.Additive := by
    induction assembled with
    | idle reduces still => exact (reduces.contributes evaluated contributes).2 still
    | static reduces => exact (reduces.contributes evaluated contributes).1
    | names => exact .required _
    | rebased base _ ih => rwa [ih.rebase_eq]
    | merged _ _ left right => exact left.merged right
  exact ⟨fun base schema assembled => (additive schema assembled).rebase_eq base,
    fun a b left right => (additive a left).blendable (additive b right)⟩

/-! ## Reduced fragments -/

/-- What a handle is reduced to accepts the data for which it was reduced, references followed, as long as the schemas
that are merged on the way blend, and no dependency is set off for a value that is no object. -/
theorem reduction_accepts {compiler : Compiler} {schema data : Json} {node : Node}
    (handle : node.IsHandle compiler schema) (checks : node.context.Unwinds (node.validation data))
    (folds : node.context.Unwinds (node.reduction data)) (byValue : node.context.formats.ByValue)
    (accepted : ∃ depth, (node.context.judge depth).answer (node.validation data) = some (.violations []))
    (object : (∃ members, data = .obj members) ∨ ¬ node.MeetsDependencies data)
    (parts : node.context.PlainParts (node.reduction data) data)
    (harmonious : node.context.Harmonious (node.reduction data) data) {result : Reduced}
    (reduced : ∃ depth, (node.context.judge depth).answer (node.reduction data) = some (.reduced (.ok result))) :
    ∃ depth, (node.context.judge depth).answer ((Node.ofReduced node.context result).validation data) =
      some (.violations []) := by
  have sound := handle.sound
  obtain ⟨_, same, fits⟩ := sound.fits_of_reduce checks folds byValue accepted object parts harmonious reduced
  obtain rfl := Except.ok.inj same
  obtain ⟨depth, reduces⟩ := reduced
  obtain ⟨⟨source, outer, compiled⟩, -⟩ := Context.isCompiled_of_reduce sound.index sound.fragment sound.scope
    (Judge.answer_reduction.mp reduces)
  have free := (Context.idle_of_reduce sound.idle (Judge.answer_reduction.mp reduces)).freeAt result.fragment
  obtain ⟨deep, met⟩ := fits.met
  exact ⟨deep, Judge.answer_check.mpr ((Context.meets_iff fits.plain.plain compiled free .root).mp met)⟩

/-- Whether a fragment contributes plain and additive schemas only, nested no deeper than a number. -/
def Fragment.contributesBounds (draft : Draft) (depth : Nat) (f : Fragment) : Bool :=
  let bounds (schema : Json) := schema.isPlain draft depth && schema.isAdditive depth
  bounds f.schema.beside && (!(f.reducers draft).isEmpty || bounds f.schema)

theorem Fragment.contributes_of_contributesBounds {draft : Draft} {depth : Nat} {f : Fragment}
    (bounds : f.contributesBounds draft depth = true) :
    f.Contributes draft (Json.Plain draft) ∧ f.Contributes draft Json.Additive := by
  simp only [contributesBounds, Bool.and_eq_true, Bool.or_eq_true, Bool.not_eq_true', List.isEmpty_eq_false_iff] at bounds
  obtain ⟨⟨plain, additive⟩, whole⟩ := bounds
  exact ⟨⟨Json.plain_of_isPlain plain, fun idle => Json.plain_of_isPlain (whole.resolve_left (not_not.mpr idle)).1⟩,
    Json.additive_of_isAdditive additive, fun idle => Json.additive_of_isAdditive (whole.resolve_left (not_not.mpr idle)).2⟩

/-- A node whose ways end, and along which all contributions are plain and additive, is folded in harmony. -/
theorem Node.harmonious_of_waysPass {node : Node} (static : node.context.Static)
    (own : node.fragment.IsStatic node.context.draft) {steps depth : Nat}
    (passes : node.context.waysPass (Fragment.contributesBounds node.context.draft depth) steps [] node.fragment = true)
    (data : Json) : node.context.Acyclic steps [] node.fragment ∧ node.context.PlainParts (node.reduction data) data ∧
      node.context.Harmonious (node.reduction data) data := by
  obtain ⟨acyclic, bounds⟩ := Context.acyclic_of_waysPass static own passes
  have evaluated (g : Fragment) (way : node.context.WayTo node.fragment g) := acyclic.evaluated_of_wayTo way
  have contributes (g : Fragment) (way : node.context.WayTo node.fragment g) :=
    Fragment.contributes_of_contributesBounds (bounds g way)
  exact ⟨acyclic, Context.plainParts_of_contributes evaluated fun g way => (contributes g way).1,
    Context.harmonious_of_additive evaluated fun g way => (contributes g way).2⟩

/-- An object with a member `a`, and bounds on the number of its members in alternatives. -/
def boundDefinitions : Json := .obj [
  ("named", .obj [("required", .ofStrings ["a"])]),
  ("bounded", .obj [
    ("type", .str "object"),
    ("allOf", .arr [.obj [("$ref", .str "#/$defs/named")]]),
    ("anyOf", .arr [.obj [("maxProperties", .ofNat 2)], .obj [("minProperties", .ofNat 2)]])])]

def boundedObject : Json := .obj [("$defs", boundDefinitions), ("$ref", .str "#/$defs/bounded")]

theorem boundedObject_static : boundedObject.Static := by
  simp [Json.Static, boundedObject, boundDefinitions, Json.refersStatically_iff, Json.stringMember?, Json.member?,
    List.lookup_cons, List.lookup_nil, Json.ofNat, Json.ofStrings]

/-- The object has one member, which excludes one of the alternatives. -/
theorem boundedObject_reduction_accepts : ∃ root result, Compiler.standard.compile boundedObject = .ok root ∧
    root.validate (.obj [("a", .ofNat 1)]) = some [] ∧
    root.context.reduce root.fragment (some (.obj [("a", .ofNat 1)])) .root root.scope = some (.ok result) ∧
    ∃ depth, (root.context.judge depth).answer ((Node.ofReduced root.context result).validation (.obj [("a", .ofNat 1)])) =
      some (.violations []) := by
  have computed : ((Compiler.standard.compile boundedObject).toOption.bind fun root => do
      let accepts ← root.accepts (.obj [("a", .ofNat 1)])
      let result ← (← root.context.reduce root.fragment (some (.obj [("a", .ofNat 1)])) .root root.scope).toOption
      return (root, result, accepts,
        root.context.waysPass (Fragment.contributesBounds root.context.draft 1) 2 [] root.fragment)).map (·.2.2) =
      some (true, true) := by decide +kernel
  obtain ⟨⟨_, _, _, _⟩, known, same⟩ := Option.map_eq_some_iff.mp computed
  cases same
  simp only [Option.bind_eq_bind, Option.bind_eq_some_iff, Option.pure_def, Option.some.injEq, Prod.mk.injEq] at known
  obtain ⟨root, compiled, _, accepts, answer, reduces, result, reduced, rfl, rfl, rfl, passes⟩ := known
  have compiled := ok_of_toOption compiled
  obtain rfl := ok_of_toOption reduced
  have accepted : root.validate (.obj [("a", .ofNat 1)]) = some [] := verdict_eq_true.mp accepts
  obtain ⟨-, formats, -⟩ := Compiler.root_of_compile compiled
  obtain ⟨static, own⟩ := Compiler.static_of_standard boundedObject_static compiled
  obtain ⟨acyclic, parts, harmonious⟩ := Node.harmonious_of_waysPass static own passes (.obj [("a", .ofNat 1)])
  obtain ⟨checks, folds⟩ := acyclic.unwinds (Node.sound_of_compile compiled).idle
  exact ⟨root, result, compiled, accepted, reduces, reduction_accepts ⟨root, compiled, .refl⟩ (checks _ _) (folds _)
    (formats ▸ Formats.standard_byValue) ⟨_, Judge.answer_check.mpr accepted⟩ (.inl ⟨_, rfl⟩) parts harmonious
    ⟨_, Judge.answer_reduction.mpr reduces⟩⟩

/-! ## Item schemas that are moved -/

/-- Two lists of item schemas, the first of which starts with a boolean. -/
def shiftedItems : Json := .obj [("allOf", .arr [
  .obj [("prefixItems", .arr [.bool true, .obj [("type", .str "string")]])],
  .obj [("prefixItems", .arr [.obj [("type", .str "integer")]])]])]

/-- Whether the root of a schema accepts data, and whether what it is reduced to for them does. -/
def acceptanceBeforeAndAfter? (schema data : Json) : Option (Bool × Bool) := do
  let root ← (Compiler.standard.compile schema).toOption
  let reduced ← (← root.reduce data).toOption
  return (← root.accepts data, ← reduced.accepts data)

/-- The schema of the second item is moved to the third, and that of the first to the second. -/
theorem reduction_moves_item_schemas : ∃ root reduced, Compiler.standard.compile shiftedItems = .ok root ∧
    root.validate (.arr [.ofNat 1, .str "x"]) = some [] ∧
    root.reduce (.arr [.ofNat 1, .str "x"]) = some (.ok reduced) ∧
    reduced.validate (.arr [.ofNat 1, .str "x"]) ≠ some [] := by
  have computed : acceptanceBeforeAndAfter? shiftedItems (.arr [.ofNat 1, .str "x"]) = some (true, false) := by
    decide +kernel
  simp only [acceptanceBeforeAndAfter?, Option.bind_eq_bind, Option.bind_eq_some_iff] at computed
  obtain ⟨root, compiled, answer, reduces, reduced, answered, before, accepts, after, rejects, same⟩ := computed
  obtain ⟨rfl, rfl⟩ := Prod.mk.inj (Option.some.inj same)
  refine ⟨root, reduced, ok_of_toOption compiled, verdict_eq_true.mp accepts, ok_of_toOption answered ▸ reduces,
    fun accepted => ?_⟩
  rw [Node.accepts, accepted] at rejects
  cases rejects

end JsonSchema
