import JsonSchema.Proofs.Merge.Subschemas
import JsonSchema.Proofs.Reduction.Assembly
import JsonSchema.Proofs.Reduction.FixedPoint

/-!
# Reduction within bounds

Where no way along references and subschemas comes back, and none is longer than the index has room
for, every check and every reduction has an answer. Neither references nor merging make schemas deeper,
so what is merged in harmony is within these bounds again. Where the data are accepted, the reduction
succeeds, and what is left accepts them.
-/

namespace JsonSchema
namespace Context

variable {context : Context} {f g : Fragment} {q : Inquiry} {schema data : Json}

/-! ## The depth of schemas -/

/-- The index has room for a schema. What only requires names is no deeper than that. -/
def HasRoomFor (context : Context) (schema : Json) : Prop := schema.depth ≤ context.index.capacity + 2

/-- A compiled fragment whose schema there is room for. -/
structure HasRoomAt (context : Context) (f : Fragment) : Prop where
  compiled : f.IsCompiled context.draft
  room : context.HasRoomFor f.schema

theorem HasRoomAt.reaches (own : context.HasRoomAt f) (reaches : f.Reaches g) : context.HasRoomAt g := by
  obtain ⟨source, outer, compiled⟩ := own.compiled
  exact ⟨own.compiled.reaches reaches, Nat.le_trans (Json.depth_le_of_mem_parts (compiled.mem_parts reaches)) own.room⟩

theorem HasRoomAt.derive {site : Site} (room : context.HasRoomFor schema)
    (derived : Fragment.derive context.draft site schema = .ok f) : context.HasRoomAt f :=
  ⟨Fragment.isCompiled_of_derive derived, by rwa [Fragment.schema_of_derive derived]⟩

/-- An index has room for the documents in it, and for their parts. -/
theorem hasRoomFor_of_mem_documents {entry : String × Json} (listed : entry ∈ context.index.documents)
    (part : schema ∈ entry.2.parts) : context.HasRoomFor schema := by
  calc schema.depth
      ≤ entry.2.depth := Json.depth_le_of_mem_parts part
    _ ≤ entry.2.size := entry.2.depth_le_size
    _ ≤ context.index.capacity := Index.size_le_capacity listed
    _ ≤ context.index.capacity + 2 := Nat.le_add_right _ _

/-- References lead to schemas that there is room for. -/
theorem leadsWithin_hasRoomAt (fragments : ∀ f ∈ context.index.fragments, context.HasRoomAt f) :
    context.LeadsWithin context.HasRoomAt where
  target := by
    intro source target scope keyword reference _ found
    obtain ⟨resource, identifier, -, named | indexed⟩ := target?_eq_some found
    · rcases lookup?_eq_some named with indexed | ⟨pointer, document, schema, listed, resolved, derived⟩
      · exact fragments target indexed
      · exact .derive (hasRoomFor_of_mem_documents (mem_of_lookup listed) (Json.mem_parts_of_resolve? resolved)) derived
    · exact fragments target indexed
  follow := by
    intro source target next own known followed
    by_cases merges : (context.draft.mergesSiblings && hasSiblings source.schema) = true
    · refine .derive (Json.depth_mergeUnder_le ?_ ?_) (derive_of_follow? merges followed)
      · unfold mergeTarget
        split
        · exact Nat.le_add_left 1 _
        · exact Json.depth_rebase_le known.room _
      · unfold siblings
        split
        · rename_i members same
          exact Nat.le_trans (Json.depth_without_le _ _) (same ▸ own.room)
        · exact Nat.le_add_left 1 _
    · rw [follow?, if_neg merges] at followed
      cases followed
      exact known

/-- What is put together in harmony is no deeper than there is room for. -/
theorem Harmonious.hasRoomFor (harmonious : context.Harmonious q data)
    (evaluated : ∀ g, context.WayTo q.fragment g → ¬ g.LooksAround context.draft)
    (room : ∀ g, context.WayTo q.fragment g → context.HasRoomFor g.schema) (assembled : context.Assembled q data schema) :
    context.HasRoomFor schema := by
  induction assembled with
  | idle reduces still => exact room _ (reduces.wayTo evaluated)
  | @static task target reduces =>
    have room := room _ (reduces.wayTo evaluated)
    rw [reduces.staticPart_eq]
    generalize target.schema = whole at room
    cases whole with
    | obj members => exact Nat.le_trans (Json.depth_without_le members _) room
    | _ => exact room
  | @names names present =>
    refine Json.depth_obj_le_iff.mpr fun key value inside => ?_
    obtain ⟨-, rfl⟩ := Prod.mk.inj (List.mem_singleton.mp inside)
    refine Json.depth_arr_le_iff.mpr fun name listed => ?_
    obtain ⟨text, -, rfl⟩ := List.mem_map.mp listed
    exact Nat.zero_le _
  | rebased base assembled ih => rwa [harmonious.fixed base _ assembled]
  | merged left right first second => exact Json.depth_mergeUnder_le first second

end Context

/-! ## One node -/

namespace Node

variable {node : Node} {data : Json}

/-- What the node stands for. -/
def target (node : Node) : Fragment := node.context.settle node.fragment (node.scope.enter node.fragment)

/-- For the data there is nothing to fold, or all that is folded is plain and blends and dependencies are set off for
objects only. -/
def FoldsInHarmony (node : Node) (data : Json) : Prop :=
  node.target.reducers node.context.draft = [] ∨ node.context.PlainParts (node.reduction data) data ∧
    node.context.Harmonious (node.reduction data) data ∧ ((∃ members, data = .obj members) ∨ ¬ node.MeetsDependencies data)

/-- A node from which no way comes back, none is longer than the index has room for, and none comes to a schema that
there is no room for. Nothing is being checked in it. -/
structure Bounded (node : Node) : Prop extends node.Sound where
  acyclic : node.context.Acyclic (node.context.index.capacity + 3) [] node.fragment
  room : ∀ g, node.context.WayTo node.fragment g → node.context.HasRoomFor g.schema

/-- The node accepts the data, whatever is allowed to nest. -/
def Takes (node : Node) (data : Json) : Prop :=
  ∃ depth, (node.context.judge depth).answer (node.validation data) = some (.violations [])

/-- A plain fragment that there is room for is bounded. -/
theorem Sound.bounded_of_plain (sound : node.Sound) (plain : node.fragment.schema.Plain node.context.draft)
    (room : node.context.HasRoomFor node.fragment.schema) : node.Bounded := by
  have known : node.fragment.IsPlain node.context.draft := ⟨plain, sound.fragment⟩
  exact ⟨sound, known.acyclic (Nat.lt_succ_of_le room), fun g way => Nat.le_trans (known.of_wayTo way).2 room⟩

namespace Bounded

variable (bounded : node.Bounded)
include bounded

/-- A bounded node takes what it accepts. -/
theorem validate_eq_nil_iff : node.validate data = some [] ↔ node.Takes data := by
  refine ⟨fun accepted => ⟨_, Judge.answer_check.mpr accepted⟩, fun ⟨depth, takes⟩ => ?_⟩
  obtain ⟨verdict, answered⟩ := Option.ne_none_iff_exists'.mp
    (bounded.acyclic.answer_ne_none (q := node.validation data) (Nat.le_refl _) data)
  obtain rfl := node.context.answer_unique answered takes
  exact Judge.answer_check.mp answered

theorem sound_of_reduce {depth : Nat} {task : Reduction} {reduced : Reduced}
    (reduces : (node.context.judge depth).reduce task node.fragment node.scope = some (.ok reduced)) :
    (ofReduced node.context reduced).Sound := by
  obtain ⟨compiled, entered⟩ := Context.isCompiled_of_reduce bounded.index bounded.fragment bounded.scope reduces
  exact ⟨bounded.index, compiled, entered, Context.idle_of_reduce bounded.idle reduces⟩

/-- Where there is nothing to fold the node is reduced to what it stands for, which takes what the node takes. -/
theorem exists_reduced_of_idle (takes : node.Takes data) (idle : node.target.reducers node.context.draft = []) :
    ∃ reduced, node.context.reduce node.fragment (some data) .root node.scope = some (.ok reduced) ∧
      (ofReduced node.context reduced).Bounded ∧ (ofReduced node.context reduced).Takes data := by
  obtain ⟨inner, inside⟩ : ∃ inner, node.context.inside? node.fragment (node.scope.enter node.fragment) =
      some (node.target, inner) := bounded.acyclic.standsFor _ _
  have still : (⟨some data, .root, []⟩ : Reduction).hasWork node.context.draft node.target = false := by
    simp [Reduction.hasWork, idle]
  have reduces : node.context.reduce node.fragment (some data) .root node.scope = some (.ok ⟨node.target, inner, none⟩) :=
    Context.reduce_of_inside? inside still (node.context.depthFor_pos data)
  have anew := bounded.sound_of_reduce reduces
  have quiet : inner.Idle := anew.idle
  refine ⟨_, reduces, ⟨anew, bounded.acyclic.target inside, fun g way => bounded.room g way.of_settle⟩, ?_⟩
  obtain ⟨depth, answered⟩ := takes
  refine ⟨depth, Judge.answer_check.mpr ?_⟩
  have same := bounded.acyclic.validate_of_inside? bounded.idle quiet inside depth data .root
  exact same.trans (Judge.answer_check.mp answered)

/-- Reduction in harmony succeeds for data that are taken, and what is left takes them. -/
theorem exists_reduced (byValue : node.context.formats.ByValue) (takes : node.Takes data) (folds : node.FoldsInHarmony data) :
    ∃ reduced, node.context.reduce node.fragment (some data) .root node.scope = some (.ok reduced) ∧
      (ofReduced node.context reduced).Bounded ∧ (ofReduced node.context reduced).Takes data := by
  rcases folds with idle | ⟨parts, harmonious, object⟩
  · exact bounded.exists_reduced_of_idle takes idle
  · obtain ⟨verdict, answered⟩ := Option.ne_none_iff_exists'.mp
      (bounded.acyclic.answer_ne_none (q := node.reduction data) (Nat.le_refl _) data)
    obtain ⟨result, reduces, rfl⟩ := Option.map_eq_some_iff.mp answered
    obtain ⟨checks, unwinds⟩ := bounded.acyclic.unwinds bounded.idle
    obtain ⟨reduced, rfl, fits⟩ := bounded.fits_of_reduce (checks data .root) (unwinds _) byValue takes object parts harmonious
      ⟨_, answered⟩
    have evaluated (g : Fragment) (way : node.context.WayTo node.fragment g) := bounded.acyclic.evaluated_of_wayTo way
    have anew := bounded.sound_of_reduce reduces
    have room := harmonious.hasRoomFor evaluated bounded.room fits.assembled
    refine ⟨reduced, reduces, anew.bounded_of_plain fits.plain.plain room, ?_⟩
    obtain ⟨depth, met⟩ := fits.met
    obtain ⟨source, outer, compiled⟩ := anew.fragment
    exact ⟨depth, Judge.answer_check.mpr ((Context.meets_iff fits.plain.plain compiled (anew.idle.freeAt _) .root).mp met)⟩

end Bounded

/-- No way from the root of a compiled schema comes to a schema that there is no room for. -/
theorem bounded_of_compile {compiler : Compiler} {schema : Json} (compiled : compiler.compile schema = .ok node)
    (acyclic : node.context.Acyclic (node.context.index.capacity + 3) [] node.fragment) : node.Bounded := by
  have sound := sound_of_compile compiled
  obtain ⟨made, holds⟩ := Compiler.madeOf_of_compile compiled
  have rooted {root : Fragment} (holds : node.context.index.Holds node.context.draft root) : node.context.HasRoomAt root := by
    obtain ⟨source, base, compiled, -, listed⟩ := holds.compiled
    exact ⟨⟨source, _, compiled⟩, Context.hasRoomFor_of_mem_documents listed (Json.self_mem_parts _)⟩
  refine ⟨sound, acyclic, fun g way => (way.stays (Context.leadsWithin_hasRoomAt fun f indexed => ?_)
    (fun own has => own.reaches (.single has)) (rooted holds)).room⟩
  obtain ⟨root, holds, -, reaches⟩ := made.fragments f indexed
  exact (rooted holds).reaches reaches

end Node
end JsonSchema
