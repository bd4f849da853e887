import JsonSchema.Proofs.Compilation.Children
import JsonSchema.Proofs.Compilation.Tree

/-!
# Resources

The resource that a compiled fragment belongs to follows from its schema and from the resource
that the schema was compiled in. The place of the schema does not matter. What a reference denotes
depends on the resource that it stands in, but not on the fragment of its base.
-/

namespace JsonSchema

/-! ## References against a base -/

namespace Uri

/-- Two addresses differ in their fragments at most. -/
def SameResource (u v : Uri) : Prop := { u with fragment := none } = { v with fragment := none }

private theorem readRelativePath_fragment (u : Uri) (cs : List Char) :
    readRelativePath { u with fragment := none } cs = u.readRelativePath cs := rfl

private theorem readRelative_fragment (u : Uri) (cs : List Char) :
    readRelative { u with fragment := none } cs = u.readRelative cs := by
  unfold readRelative
  simp only [readRelativePath_fragment]

private theorem readFile_fragment (u : Uri) (cs : List Char) :
    readFile (some { u with fragment := none }) cs = readFile (some u) cs := by
  unfold readFile
  simp only [readRelativePath_fragment]

private theorem readAfterScheme_fragment (u : Uri) (scheme : String) (cs : List Char) :
    readAfterScheme (some { u with fragment := none }) scheme cs = readAfterScheme (some u) scheme cs := by
  unfold readAfterScheme
  by_cases own : u.scheme = scheme
  · subst own
    simp [Option.filter, readFile_fragment, readRelative_fragment]
  · simp [Option.filter, own]

private theorem join_fragment (u : Uri) (text : String) : join { u with fragment := none } text = u.join text := by
  unfold join read
  have opaqueness : isOpaque { u with fragment := none } = u.isOpaque := rfl
  have resource (cs : List Char) : withFragment { u with fragment := none } cs = u.withFragment cs := rfl
  simp only [readAfterScheme_fragment, readFile_fragment, readRelative_fragment, opaqueness, resource]

/-- Every reference denotes the same against two bases exactly if they differ in their fragments
at most. -/
theorem join_eq_iff {u v : Uri} : (∀ text, u.join text = v.join text) ↔ SameResource u v := by
  constructor
  · intro all
    have empty (w : Uri) : w.join "#" = .ok { w with fragment := some "" } := rfl
    have same := all "#"
    rw [empty, empty] at same
    exact congrArg (fun w : Uri => { w with fragment := none }) (Except.ok.inj same)
  · intro same text
    rw [← join_fragment u, same, join_fragment v]

end Uri

/-! ## Resources of fragments -/

/-- The resource that the members of a schema stand in: the one that their identifier opens, or the
resource around them. -/
def resourceOf (draft : Draft) (base : Uri) (members : Members) : Uri :=
  match members.lookup draft.idKeyword with
  | some (.str id) =>
    if members.has "$ref" && !draft.mergesSiblings then base
    else match base.join id with
      | .error _ => base
      | .ok address => if id.toList.head? = some '#' then base else address.withoutFragment
  | _ => base

/-- Members without a textual identifier stand in the resource around them. -/
theorem resourceOf_unidentified {draft : Draft} {base : Uri} {members : Members}
    (unidentified : ∀ id, members.lookup draft.idKeyword ≠ some (.str id)) : resourceOf draft base members = base := by
  unfold resourceOf
  split
  · exact absurd ‹_› (unidentified _)
  · rfl

theorem identify_other {draft : Draft} {outer : Site} {members : Members}
    (unidentified : ∀ id, members.lookup draft.idKeyword ≠ some (.str id)) :
    outer.identify draft members = .ok (outer, []) := by
  unfold Site.identify
  split
  · exact absurd ‹_› (unidentified _)
  · rfl

theorem base_of_identify {draft : Draft} {outer site : Site} {members : Members} {names : List String}
    (identified : outer.identify draft members = .ok (site, names)) :
    site.base = resourceOf draft outer.base members := by
  by_cases named : ∃ id, members.lookup draft.idKeyword = some (.str id)
  · obtain ⟨id, found⟩ := named
    simp only [Site.identify, found] at identified
    simp only [resourceOf, found]
    by_cases ignored : (members.has "$ref" && !draft.mergesSiblings) = true
    · rw [if_pos ignored] at identified ⊢
      cases identified
      rfl
    · rw [if_neg ignored] at identified ⊢
      cases joined : outer.base.join id with
      | error fault =>
        simp only [joined] at identified
        cases identified
      | ok address =>
        simp only [joined] at identified
        dsimp only at identified ⊢
        split at identified
        · rename_i stays
          cases identified
          rcases Bool.or_eq_true_iff.mp stays with plain | same
          · simp only [decide_eq_true_eq] at plain
            simp only [plain, ↓reduceIte]
          · simp only [decide_eq_true_eq] at same
            simp only [same, ite_self]
        · rename_i opens
          cases identified
          have named : id.toList.head? ≠ some '#' := fun plain => opens (by simp [plain])
          simp only [named, ↓reduceIte]
  · have unidentified : ∀ id, members.lookup draft.idKeyword ≠ some (.str id) := fun id found => named ⟨id, found⟩
    rw [identify_other unidentified] at identified
    rw [resourceOf_unidentified unidentified]
    cases identified
    rfl

namespace Fragment

/-! ## Descendants -/

/-- The fragments that compiling a schema in a resource leads to, each as its resource and schema. -/
def situations (draft : Draft) (base : Uri) (schema : Json) : Set (Uri × Json) :=
  {situation | ∃ source outer f g, outer.base = base ∧ Compiled draft source outer schema f ∧ f.Reaches g ∧
    situation = (g.site.base, g.schema)}

theorem finite_situations (draft : Draft) (base : Uri) (schema : Json) : (situations draft base schema).Finite := by
  induction depth : schema.depth using Nat.strong_induction_on generalizing base schema with
  | _ depth' ih =>
    cases schema with
    | bool b =>
      refine (Set.finite_singleton (base, Json.bool b)).subset ?_
      rintro situation ⟨source, outer, f, g, rfl, compiled, reaches, rfl⟩
      rw [compiled_bool.mp compiled] at reaches
      rcases Relation.ReflTransGen.cases_head reaches with rfl | ⟨child, ⟨slot, inside⟩, -⟩
      · rfl
      · cases inside
    | obj members =>
      let own := resourceOf draft base members
      have below : (⋃ sub ∈ {sub | sub ∈ (Json.obj members).parts ∧ sub.depth < depth'}, situations draft own sub).Finite :=
        ((Json.finite_parts _).subset fun _ inside => inside.1).biUnion fun sub inside => ih _ inside.2 own sub rfl
      refine (below.insert (own, .obj members)).subset ?_
      rintro situation ⟨source, outer, f, g, rfl, compiled, reaches, rfl⟩
      have made := compiled_obj.mp compiled
      have base : f.site.base = own := by
        obtain ⟨names, identified, -⟩ := made.identified
        exact base_of_identify identified
      rcases Relation.ReflTransGen.cases_head reaches with rfl | ⟨child, ⟨slot, inside⟩, rest⟩
      · exact Set.mem_insert_iff.mpr (.inl (by rw [base, made.schema]))
      · obtain ⟨_, sub, same, step, compiled⟩ := compiled.child inside
        cases same
        obtain ⟨segments, fills⟩ := fills_of_steps step
        refine Set.mem_insert_of_mem _ (Set.mem_biUnion ⟨⟨segments, fills.place⟩, ?_⟩ ?_)
        · exact depth ▸ fills.place.depth_lt fills.ne_nil
        · exact ⟨source, f.site.below slot.segments, child, g, base, compiled, rest, rfl⟩
    | _ =>
      refine Set.finite_empty.subset ?_
      rintro situation ⟨source, outer, f, g, -, compiled, -⟩
      rcases compiled.bool_or_obj with ⟨_, same⟩ | ⟨_, same⟩ <;> cases same

/-! ## Ways down -/

/-- The way from a fragment down to another one: the slots and the fragments in them. -/
inductive Way : Fragment → List (Slot × Fragment) → Fragment → Prop where
  | here {f : Fragment} : Way f [] f
  | down {f g d : Fragment} {slot : Slot} {entries : List (Slot × Fragment)} (inside : (slot, g) ∈ f.children)
      (rest : Way g entries d) : Way f ((slot, g) :: entries) d

/-- The schemas on the way, without the one it starts at. -/
def schemasOn (entries : List (Slot × Fragment)) : List Json := entries.map fun entry => entry.2.schema

end Fragment

/-- The resource that schemas lead to, each inside the one before. -/
def resourceAlong (draft : Draft) (base : Uri) (schemas : List Json) : Uri :=
  schemas.foldl (fun base schema => schema.members?.elim base (resourceOf draft base)) base

namespace Fragment

variable {draft : Draft} {source : Origin} {outer : Site} {schema : Json} {f d : Fragment}

theorem Compiled.base_eq (compiled : Compiled draft source outer schema f) :
    f.site.base = resourceAlong draft outer.base [f.schema] := by
  rcases compiled.bool_or_obj with ⟨b, rfl⟩ | ⟨members, rfl⟩
  · rw [compiled_bool.mp compiled]
    rfl
  · have made := compiled_obj.mp compiled
    obtain ⟨names, identified, -⟩ := made.identified
    rw [made.schema]
    exact base_of_identify identified

/-- The resource of a fragment is the one that the schemas on the way lead to. -/
theorem Compiled.base_of_way (compiled : Compiled draft source outer schema f)
    {entries : List (Slot × Fragment)} (way : Way f entries d) :
    d.site.base = resourceAlong draft f.site.base (schemasOn entries) := by
  induction way generalizing outer schema with
  | here => rfl
  | @down f g d slot entries inside rest ih =>
    obtain ⟨members, sub, -, -, child⟩ := compiled.child inside
    rw [ih child, child.base_eq]
    rfl

end Fragment
end JsonSchema
