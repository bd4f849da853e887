import JsonSchema.Proofs.Compilation.Plain
import JsonSchema.Proofs.Merge.Members

/-!
# Schemas without some keywords

Taking keywords out of a schema leaves the subschemas under all others as they are, as long as no
keyword goes without those that decide with it which subschemas there are.
-/

namespace JsonSchema

open Fragment

variable {draft : Draft} {members : Members} {dropped : String → Bool}

/-- Of the keywords that one part of a schema reads, all are taken out or none. -/
def Draft.Detaches (draft : Draft) (dropped : String → Bool) : Prop :=
  ∀ part ∈ parts draft, (∀ name ∈ part.names, dropped name = false) ∨ ∀ name ∈ part.names, dropped name = true

theorem steps_nil (draft : Draft) : steps draft .root [] = [] := by cases draft <;> rfl

/-- A part takes no step for a schema without the keywords that it reads. -/
theorem steps_eq_nil_of_absent {part : Part} (listed : part ∈ parts draft)
    (absent : ∀ name ∈ part.names, members.lookup name = none) : part.steps .root members = [] := by
  have same : ∀ name ∈ part.names, members.lookup name = List.lookup name [] := absent
  rw [(local_of_parts listed).reads .root _ [] same, List.eq_nil_iff_forall_not_mem]
  intro step inside
  have empty : step ∈ steps draft .root [] := by
    rw [steps_eq_parts]
    exact List.mem_flatMap.mpr ⟨part, listed, inside⟩
  rw [steps_nil] at empty
  cases empty

/-- A step for what is left is one for the whole schema. -/
theorem step_of_without (detaches : draft.Detaches dropped) {step : Step}
    (inside : step ∈ steps draft .root (members.without dropped)) : step ∈ steps draft .root members := by
  rw [steps_eq_parts] at inside ⊢
  obtain ⟨part, listed, inside⟩ := List.mem_flatMap.mp inside
  rcases detaches part listed with kept | gone
  · have same : ∀ name ∈ part.names, (members.without dropped).lookup name = members.lookup name := fun name named => by
      rw [lookup_without, kept name named, if_neg Bool.false_ne_true]
    rw [(local_of_parts listed).reads .root _ members same] at inside
    exact List.mem_flatMap.mpr ⟨part, listed, inside⟩
  · rw [steps_eq_nil_of_absent listed fun name named => by rw [lookup_without, gone name named, if_pos rfl]] at inside
    cases inside

/-- A list of required names is a plain schema. -/
theorem Json.PlainSchema.required (names : Json) : (Json.obj [("required", names)]).PlainSchema draft := by
  have apart : ∀ part ∈ JsonSchema.parts draft, ∀ name ∈ part.names, name ≠ "required" := by cases draft <;> decide +kernel
  refine .of_steps (fun keyword _ => by cases keyword <;> rfl) (by cases draft <;> rfl) (by simp) rfl
    ⟨none, rfl⟩ fun step inside => ?_
  rw [steps_eq_parts] at inside
  obtain ⟨part, listed, inside⟩ := List.mem_flatMap.mp inside
  rw [steps_eq_nil_of_absent listed fun name named => ?_] at inside
  · cases inside
  · rw [List.lookup_cons, beq_false_of_ne (apart part listed name named)]
    rfl

/-- What is left of a schema compiles wherever it stands, if it is plain. -/
theorem Json.Plain.schema_without (plain : (Json.obj (members.without dropped)).Plain draft)
    (detaches : draft.Detaches dropped) (typed : dropped "type" = false) (matched : dropped "pattern" = false)
    (types : checkTypes .root members = .ok ()) (pattern : ∃ pattern, patternOf .root members = .ok pattern)
    (compiled : ∀ step ∈ steps draft .root members, ∃ slot sub source outer child,
      step = .child slot sub ∧ Compiled draft source outer sub child) :
    (Json.obj (members.without dropped)).PlainSchema draft := by
  have kept {name : String} (stays : dropped name = false) : (members.without dropped).lookup name = members.lookup name := by
    rw [lookup_without, stays, if_neg Bool.false_ne_true]
  cases known : plain with
  | obj unreferring unidentified evaluated below =>
    refine .of_steps unreferring unidentified evaluated ?_ ?_ fun step inside => ?_
    · unfold checkTypes at types ⊢
      rwa [kept typed]
    · unfold patternOf at pattern ⊢
      rwa [kept matched]
    · obtain ⟨slot, sub, source, outer, child, rfl, compiled⟩ := compiled step (step_of_without detaches inside)
      have plain := plain.of_step inside
      exact ⟨slot, sub, rfl, plain, plain.compiles compiled⟩

/-- What is left of a schema that was compiled compiles wherever it stands, if it is plain. -/
theorem Fragment.Compiled.plainSchema_without {source : Origin} {outer : Site} {f : Fragment}
    (compiled : Compiled draft source outer (.obj members) f) (plain : (Json.obj (members.without dropped)).Plain draft)
    (detaches : draft.Detaches dropped) (typed : dropped "type" = false) (matched : dropped "pattern" = false) :
    (Json.obj (members.without dropped)).PlainSchema draft := by
  have made := compiled_obj.mp compiled
  refine plain.schema_without detaches typed matched ((checkTypes_placed f.site.pointer .root).mp made.typed)
    ⟨f.pattern, (patternOf_placed f.site.pointer .root).mp made.pattern⟩ fun step inside => ?_
  obtain ⟨slot, sub, child, rfl, compiled⟩ := made.step_root inside
  exact ⟨slot, sub, _, _, child, rfl, compiled⟩

/-- What is left of a plain schema is plain. -/
theorem Json.PlainSchema.without (schema : (Json.obj members).PlainSchema draft) (detaches : draft.Detaches dropped)
    (typed : dropped "type" = false) (matched : dropped "pattern" = false) :
    (Json.obj (members.without dropped)).PlainSchema draft := by
  have absent {name : String} (unset : members.lookup name = none) : (members.without dropped).lookup name = none := by
    rw [lookup_without, unset, ite_self]
  have unnamed {name : String} (unset : (Json.obj members).stringMember? name = none) :
      (Json.obj (members.without dropped)).stringMember? name = none := by
    simp only [Json.stringMember?, Json.member?, lookup_without] at unset ⊢
    split
    · rfl
    · exact unset
  have plain : (Json.obj (members.without dropped)).Plain draft := by
    cases known : schema.plain with
    | obj unreferring unidentified evaluated below =>
      refine .obj (fun keyword defined => unnamed (unreferring keyword defined)) (unnamed unidentified)
        (fun name known => absent (evaluated name known)) fun entry inside => below entry ?_
      obtain ⟨step, listed, made⟩ := List.mem_filterMap.mp inside
      exact List.mem_filterMap.mpr ⟨step, step_of_without detaches listed, made⟩
  refine plain.schema_without detaches typed matched schema.buildable.typed schema.buildable.pattern fun step inside => ?_
  obtain ⟨slot, sub, made, compiles⟩ := schema.buildable.steps step inside
  obtain ⟨child, compiled⟩ := compiles (.document 0) (.ofDocument .default)
  exact ⟨slot, sub, _, _, child, made, compiled⟩

end JsonSchema
