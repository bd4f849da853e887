import JsonSchema.Proofs.Compilation.Parts
import JsonSchema.Proofs.Compilation.Resource
import JsonSchema.Proofs.Json.Throughout
import JsonSchema.Proofs.Merge.Members
import JsonSchema.Proofs.Uri.Text

/-!
# Subschemas at different places

No subschema of a schema stands at the place of another one or below it. So the segments on the way down
from a fragment tell which fragment the way ends at.
-/

namespace JsonSchema

/-! ## Parts -/

namespace Part

/-- The steps of a part have places under its keywords, and none of the places leads through another. -/
structure Apart (part : Part) : Prop where
  headed : ∀ {pointer members slot sub}, .child slot sub ∈ part.steps pointer members →
    ∃ name ∈ part.names, slot.segments.head? = some name
  separate : ∀ {pointer members slot slot' sub sub' rest rest'}, (Json.obj members).WellFormed →
    .child slot sub ∈ part.steps pointer members → .child slot' sub' ∈ part.steps pointer members →
    slot.segments ++ rest = slot'.segments ++ rest' → slot.segments = slot'.segments ∧ sub = sub'

variable {draft : Draft} {pointer : Pointer} {members : Members} {slot slot' : Slot} {sub sub' : Json}
  {rest rest' : List String}

theorem apart_whole {name : String} {own : Slot} (place : own.segments = [name]) :
    Apart ⟨[name], fun _ members => stepOne members name own⟩ where
  headed step := by
    obtain ⟨rfl, -⟩ := mem_stepOne.mp step
    exact ⟨name, List.mem_singleton_self _, by rw [place]; rfl⟩
  separate _ step step' _ := by
    obtain ⟨rfl, found⟩ := mem_stepOne.mp step
    obtain ⟨rfl, found'⟩ := mem_stepOne.mp step'
    exact ⟨rfl, Option.some.inj (found.symm.trans found')⟩

theorem apart_one {keyword : Keyword} {name : String} {own : Slot} (place : own.segments = [name]) :
    (one draft keyword name own).Apart := by
  have whole := apart_whole place
  constructor
  · intro pointer members slot sub step
    simp only [one] at step
    split at step
    · exact @Apart.headed _ whole pointer _ _ _ step
    · cases step
  · intro pointer members slot slot' sub sub' rest rest' formed step step' same
    simp only [one] at step step'
    split at step
    · rename_i known
      rw [if_pos known] at step'
      exact @Apart.separate _ whole pointer _ _ _ _ _ _ _ formed step step' same
    · cases step

/-- Entries of one map are told apart by their keys. -/
theorem separate_entries {name key key' : String} {entries : Members} (formed : (Json.obj members).WellFormed)
    (found : members.lookup name = some (.obj entries)) (place : slot.segments = [name, key])
    (place' : slot'.segments = [name, key']) (inside : (key, sub) ∈ entries) (inside' : (key', sub') ∈ entries)
    (same : slot.segments ++ rest = slot'.segments ++ rest') : slot.segments = slot'.segments ∧ sub = sub' := by
  have distinct := Json.WellFormed.nodup (formed.of_mem_members (mem_of_lookup found))
  simp only [place, place', List.cons_append, List.nil_append, List.cons.injEq, true_and] at same ⊢
  obtain ⟨rfl, -⟩ := same
  have first := lookup_of_nodup distinct inside
  rw [lookup_of_nodup distinct inside', Option.some_inj] at first
  exact ⟨⟨rfl, trivial⟩, first.symm⟩

/-- Items of one list are told apart by their positions. -/
theorem separate_items {name : String} {index index' : Nat} {items : List Json}
    (place : slot.segments = [name, toString index]) (place' : slot'.segments = [name, toString index'])
    (inside : items[index]? = some sub) (inside' : items[index']? = some sub')
    (same : slot.segments ++ rest = slot'.segments ++ rest') : slot.segments = slot'.segments ∧ sub = sub' := by
  simp only [place, place', List.cons_append, List.nil_append, List.cons.injEq, true_and] at same ⊢
  obtain ⟨digits, -⟩ := same
  obtain rfl := Uri.toString_injective digits
  rw [inside, Option.some_inj] at inside'
  exact ⟨⟨rfl, trivial⟩, inside'⟩

theorem apart_entries {name : String} {make : Pointer → String → Json → Step}
    (made : ∀ pointer key value slot sub, make pointer key value = .child slot sub →
      slot.segments = [name, key] ∧ sub = value) : (entries name make).Apart := by
  constructor
  · intro pointer members slot sub step
    obtain ⟨_, key, value, -, -, stepped⟩ := mem_stepMembers step
    exact ⟨name, List.mem_singleton_self _, by rw [(made _ _ _ _ _ stepped).1]; rfl⟩
  · intro pointer members slot slot' sub sub' rest rest' formed step step' same
    obtain ⟨entries, key, value, found, inside, stepped⟩ := mem_stepMembers step
    obtain ⟨entries', key', value', found', inside', stepped'⟩ := mem_stepMembers step'
    obtain ⟨place, rfl⟩ := made _ _ _ _ _ stepped
    obtain ⟨place', rfl⟩ := made _ _ _ _ _ stepped'
    obtain rfl : entries = entries' := by simpa [found] using found'
    exact separate_entries formed found place place' inside inside' same

theorem apart_items (keyword : Keyword) : (items keyword).Apart := by
  constructor
  · intro pointer members slot sub step
    obtain ⟨_, index, -, -, rfl⟩ := mem_stepItems step
    exact ⟨keyword.name, List.mem_singleton_self _, rfl⟩
  · intro pointer members slot slot' sub sub' rest rest' _ step step' same
    obtain ⟨items, index, found, inside, rfl⟩ := mem_stepItems step
    obtain ⟨items', index', found', inside', rfl⟩ := mem_stepItems step'
    obtain rfl : items = items' := by simpa [found] using found'
    exact separate_items rfl rfl inside inside' same

theorem apart_dependencies (keyword : Keyword) : (dependencies keyword).Apart := by
  constructor
  · intro pointer members slot sub step
    obtain ⟨_, key, -, -, rfl⟩ := mem_stepDependencies step
    exact ⟨keyword.name, List.mem_singleton_self _, rfl⟩
  · intro pointer members slot slot' sub sub' rest rest' formed step step' same
    obtain ⟨entries, key, found, inside, rfl⟩ := mem_stepDependencies step
    obtain ⟨entries', key', found', inside', rfl⟩ := mem_stepDependencies step'
    obtain rfl : entries = entries' := by simpa [found] using found'
    exact separate_entries formed found rfl rfl inside inside' same

theorem tupleName_mem : tupleName draft members ∈ arrayNames := by
  unfold tupleName
  split <;> decide

theorem restName_mem : restName draft members ∈ arrayNames := by
  unfold restName
  split <;> decide

theorem tupleName_ne_restName : tupleName draft members ≠ restName draft members := by
  unfold restName tupleName
  split <;> decide

theorem apart_array (draft : Draft) : (array draft).Apart := by
  constructor
  · intro pointer members slot sub step
    cases arrayStep_of_stepArray step with
    | position => exact ⟨_, tupleName_mem, rfl⟩
    | rest => exact ⟨_, restName_mem, rfl⟩
    | all => exact ⟨"items", by simp [array, arrayNames], rfl⟩
  · intro pointer members slot slot' sub sub' rest rest' _ step step' same
    have distinct : tupleName draft members ≠ restName draft members := tupleName_ne_restName
    cases arrayStep_of_stepArray step with
    | position found inside =>
      cases arrayStep_of_stepArray step' with
      | position found' inside' =>
        rw [found, Option.some_inj, Json.arr.injEq] at found'
        exact separate_items rfl rfl inside (found' ▸ inside') same
      | rest => simp [Slot.segments, distinct] at same
      | all found' noArray => exact absurd (Option.some.inj (found'.symm.trans found)) (noArray _)
    | rest found other =>
      cases arrayStep_of_stepArray step' with
      | position => simp [Slot.segments, distinct.symm] at same
      | rest _ other' => exact ⟨rfl, Option.some.inj (other.symm.trans other')⟩
      | all found' noArray => exact absurd (Option.some.inj (found'.symm.trans found)) (noArray _)
    | all found noArray =>
      cases arrayStep_of_stepArray step' with
      | position found' => exact absurd (Option.some.inj (found.symm.trans found')) (noArray _)
      | rest found' => exact absurd (Option.some.inj (found.symm.trans found')) (noArray _)
      | all found' _ => exact ⟨rfl, Option.some.inj (found.symm.trans found')⟩

end Part

section
variable {draft : Draft} {pointer : Pointer} {members : Members} {slot slot' : Slot} {sub sub' : Json}
  {rest rest' : List String}

theorem apart_of_parts {part : Part} (listed : part ∈ parts draft) : part.Apart := by
  simp only [parts, List.mem_append, List.mem_cons, List.mem_map, List.not_mem_nil, or_false] at listed
  have named {name : String} {make : String → Slot} (place : ∀ key, (make key).segments = [name, key]) :
      (Part.entries name fun _ key schema => .child (make key) schema).Apart :=
    Part.apart_entries fun _ key _ _ _ made => by cases made; exact ⟨place key, rfl⟩
  have patterns : (Part.entries "patternProperties" stepPattern).Apart := by
    refine Part.apart_entries fun pointer key value slot sub made => ?_
    rcases @stepPattern_eq pointer key value with ⟨fault, refused⟩ | ⟨own, child, place, -⟩
    · rw [refused] at made
      cases made
    · rw [child] at made
      cases made
      exact ⟨place, rfl⟩
  rcases listed with ((rfl | rfl | rfl | rfl | rfl) | ⟨keyword, -, rfl⟩) | (rfl | rfl | rfl | rfl | rfl | rfl | rfl | rfl |
    rfl | rfl | rfl | rfl)
  · exact named fun _ => rfl
  · exact patterns
  · exact Part.apart_whole rfl
  · exact Part.apart_one rfl
  · exact Part.apart_one rfl
  · exact Part.apart_dependencies keyword
  · exact Part.apart_array draft
  · exact Part.apart_one rfl
  · exact Part.apart_one rfl
  · exact Part.apart_one rfl
  · exact Part.apart_items _
  · exact Part.apart_items _
  · exact Part.apart_items _
  · exact Part.apart_one rfl
  · exact Part.apart_one rfl
  · exact Part.apart_one rfl
  · exact named fun _ => rfl
  · exact named fun _ => rfl

/-- No keyword belongs to two parts. -/
theorem eq_of_shared_name {part part' : Part} (listed : part ∈ parts draft) (listed' : part' ∈ parts draft)
    {name : String} (named : name ∈ part.names) (named' : name ∈ part'.names) : part = part' := by
  have distinct : ((parts draft).flatMap Part.names).Nodup := by cases draft <;> decide +kernel
  have disjoint := (List.nodup_flatMap.mp distinct).2
  have : Std.Symm (Function.onFun List.Disjoint Part.names) := ⟨fun _ _ apart => apart.symm⟩
  by_contra other
  exact disjoint.forall listed listed' other named named'

/-- The places of two subschemas differ, and none of them leads through the other. -/
theorem steps_separate (formed : (Json.obj members).WellFormed) (step : .child slot sub ∈ steps draft pointer members)
    (step' : .child slot' sub' ∈ steps draft pointer members)
    (same : slot.segments ++ rest = slot'.segments ++ rest') : slot.segments = slot'.segments ∧ sub = sub' := by
  rw [steps_eq_parts] at step step'
  obtain ⟨part, listed, step⟩ := List.mem_flatMap.mp step
  obtain ⟨part', listed', step'⟩ := List.mem_flatMap.mp step'
  obtain ⟨name, named, head⟩ := (apart_of_parts listed).headed step
  obtain ⟨name', named', head'⟩ := (apart_of_parts listed').headed step'
  have heads := congrArg List.head? same
  rw [List.head?_append, List.head?_append, head, head', Option.some_or, Option.some_or, Option.some_inj] at heads
  obtain rfl := eq_of_shared_name listed listed' named (heads ▸ named')
  exact (apart_of_parts listed).separate formed step step' same

end

/-! ## Ways -/

namespace Fragment

variable {draft : Draft} {source : Origin} {outer : Site} {schema : Json} {f g g' n n' : Fragment}

/-- A schema compiles to one fragment at most. -/
theorem Compiled.unique (compiled : Compiled draft source outer schema f)
    (compiled' : Compiled draft source outer schema g) : f = g :=
  Except.ok.inj ((compile_eq_ok.mpr compiled).symm.trans (compile_eq_ok.mpr compiled'))

/-- The children of a fragment are told apart by the segments that lead to them. -/
theorem Compiled.child_unique (compiled : Compiled draft source outer schema f) (formed : schema.WellFormed)
    {slot slot' : Slot} {rest rest' : List String} (inside : (slot, g) ∈ f.children)
    (inside' : (slot', g') ∈ f.children) (same : slot.segments ++ rest = slot'.segments ++ rest') :
    g = g' ∧ rest = rest' := by
  obtain ⟨members, sub, rfl, step, child⟩ := compiled.child inside
  obtain ⟨_, sub', members', step', child'⟩ := compiled.child inside'
  cases members'
  obtain ⟨place, rfl⟩ := steps_separate formed step step' same
  rw [place] at child same
  exact ⟨child.unique child', List.append_cancel_left same⟩

/-- The segments that lead to the end of a way. -/
def segmentsAlong (entries : List (Slot × Fragment)) : List String := entries.flatMap fun entry => entry.1.segments

theorem Compiled.child_formed (compiled : Compiled draft source outer schema f) (formed : schema.WellFormed)
    {slot : Slot} (inside : (slot, g) ∈ f.children) : ∃ site sub, Compiled draft source site sub g ∧ sub.WellFormed := by
  obtain ⟨members, sub, rfl, step, child⟩ := compiled.child inside
  obtain ⟨segments, fills⟩ := fills_of_steps step
  exact ⟨_, sub, child, formed.of_mem_parts ⟨_, fills.place⟩⟩

theorem Slot.segments_ne_nil (slot : Slot) : slot.segments ≠ [] := by cases slot <;> simp [Slot.segments]

/-- Ways along the same segments lead to the same fragment. -/
theorem Way.unique (compiled : Compiled draft source outer schema f) (formed : schema.WellFormed)
    {entries entries' : List (Slot × Fragment)} (way : Way f entries n) (way' : Way f entries' n')
    (same : segmentsAlong entries = segmentsAlong entries') : n = n' := by
  induction way generalizing outer schema entries' with
  | here =>
    cases way' with
    | here => rfl
    | @down _ g _ slot _ inside rest =>
      have none : slot.segments = [] := (List.append_eq_nil_iff.mp same.symm).1
      exact absurd none (Slot.segments_ne_nil slot)
  | @down f g d slot _ inside rest ih =>
    cases way' with
    | here =>
      have none : slot.segments = [] := (List.append_eq_nil_iff.mp same).1
      exact absurd none (Slot.segments_ne_nil slot)
    | down inside' rest' =>
      obtain ⟨rfl, later⟩ := compiled.child_unique formed inside inside' same
      obtain ⟨site, sub, child, formed⟩ := compiled.child_formed formed inside
      exact ih child formed rest' later

end Fragment
end JsonSchema
