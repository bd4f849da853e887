import JsonSchema.Proofs.Check.Location
import JsonSchema.Proofs.Check.Uniform
import JsonSchema.Proofs.Direct.Subschemas
import JsonSchema.Proofs.Reduction.Remnants

/-!
# Properties that are evaluated

What `unevaluatedProperties` is asked of is told by the reduced fragment: all that neither its `properties` nor its
patterns declare, unless it has a schema for additional properties. No merge takes a name, a pattern or that schema
away, so the keyword reports no property that a fragment evaluates to which the reduction comes, nor one that is
evaluated on the way of a reference. Where the keywords beside a reference are merged with its target, their members of
`allOf` are paired with those of the target, and so the reduction may not come to a member of the target.
-/

namespace JsonSchema

/-! ## Keys that a schema covers -/

/-- The keywords by which a schema covers properties. -/
def covering : List Keyword := [.additionalProperties, .properties, .patternProperties]

/-- A property is declared, or there is a schema for all that are not. -/
def Members.Covers (members : Members) (key : String) : Prop :=
  members.has "additionalProperties" = true ∨ members.Declares key

/-- A schema evaluates the property of objects under a key. -/
def Json.Covers (key : String) (schema : Json) : Prop := ∃ members : Members, schema = .obj members ∧ members.Covers key

/-- Properties and patterns are maps. -/
def MapKinds (name : String) (value : Json) : Prop :=
  ∀ keyword ∈ [Keyword.properties, .patternProperties], keyword.name = name → ∃ entries, value = .obj entries

namespace Members

variable {a b : Members} {key : String}

/-- Where no name of a map is lost, what is declared stays so. -/
theorem Declares.mono (kept : ∀ keyword ∈ [Keyword.properties, .patternProperties], ∀ entries,
    a.lookup keyword.name = some (.obj entries) → ∃ others, b.lookup keyword.name = some (.obj others) ∧
      ∀ name sub, (name, sub) ∈ entries → ∃ other, (name, other) ∈ others) (declares : a.Declares key) : b.Declares key := by
  obtain ⟨keyword, mapped, entries, found, name, sub, slot, inside, named, covers⟩ := declares
  obtain ⟨others, found', all⟩ := kept keyword mapped entries found
  obtain ⟨other, inside'⟩ := all name sub inside
  exact ⟨keyword, mapped, others, found', name, other, slot, inside', named, covers⟩

theorem Declares.merge_left (maps : (Json.obj b).OfKinds MapKinds) (declares : a.Declares key) : (mergedMembers a b).Declares key := by
  refine declares.mono fun keyword mapped entries found => ?_
  cases found' : b.lookup keyword.name with
  | none => exact ⟨entries, (lookup_mergedMembers_left found').trans found, fun name sub inside => ⟨sub, inside⟩⟩
  | some value =>
    obtain ⟨others, rfl⟩ := maps.2 _ value found' keyword mapped rfl
    exact ⟨_, lookup_mergedMembers_obj found found', fun name sub inside => ⟨_, mem_mergedMembers.mpr (.inl ⟨sub, inside, rfl⟩)⟩⟩

theorem Declares.merge_right (maps : (Json.obj a).OfKinds MapKinds) (declares : b.Declares key) : (mergedMembers a b).Declares key := by
  refine declares.mono fun keyword mapped entries found => ?_
  cases found' : a.lookup keyword.name with
  | none => exact ⟨entries, (lookup_mergedMembers_right found').trans found, fun name sub inside => ⟨sub, inside⟩⟩
  | some value =>
    obtain ⟨others, rfl⟩ := maps.2 _ value found' keyword mapped rfl
    refine ⟨_, lookup_mergedMembers_obj found' found, fun name sub inside => ?_⟩
    cases own : others.lookup name with
    | none => exact ⟨sub, mem_mergedMembers.mpr (.inr ⟨inside, own⟩)⟩
    | some other => exact ⟨_, mem_mergedMembers.mpr (.inl ⟨other, mem_of_lookup own, rfl⟩)⟩

/-- Making references absolute renames nothing. -/
theorem Declares.rebase {base own : Uri} (declares : a.Declares key) : Members.Declares (rebaseMembers base own a) key := by
  refine declares.mono fun keyword mapped entries found => ?_
  have schemas : keyword.name ∉ dataKeywords := by
    revert mapped
    cases keyword <;> decide
  rw [lookup_rebaseMembers, found, Option.map_some, rebasedMember_of_not_str (by simp),
    if_neg schemas, JsonSchema.rebase, rebaseMembers_eq]
  exact ⟨_, rfl, fun name sub inside => ⟨_, List.mem_map_of_mem inside⟩⟩

/-- What is taken out declares nothing. -/
theorem Declares.without {dropped : String → Bool}
    (kept : ∀ keyword ∈ [Keyword.properties, .patternProperties], dropped keyword.name = false) (declares : a.Declares key) :
    (a.without dropped).Declares key := by
  refine declares.mono fun keyword mapped entries found => ⟨entries, ?_, fun name sub inside => ⟨sub, inside⟩⟩
  rw [lookup_without, kept keyword mapped, if_neg Bool.false_ne_true]
  exact found

end Members

/-- A merge of maps is a map, and so is one in which references were made absolute. -/
theorem keptKinds_map : KeptKinds MapKinds where
  merged name x y left right keyword mapped same := by
    obtain ⟨xs, rfl⟩ := left keyword mapped same
    obtain ⟨ys, rfl⟩ := right keyword mapped same
    exact ⟨_, rfl⟩
  rebased base own name x maps keyword mapped same := by
    obtain ⟨entries, rfl⟩ := maps keyword mapped same
    have schemas : keyword.name ∉ dataKeywords := by
      revert mapped
      cases keyword <;> decide
    rw [rebasedMember_of_not_str (by simp), ← same, if_neg schemas, rebase]
    exact ⟨_, rfl⟩

/-- What a schema covers, its merges cover. -/
theorem lasting_covers (key : String) :
    Context.Lasting (fun a b => a.OfKinds MapKinds ∧ b.OfKinds MapKinds) (Json.Covers key) where
  left members b schema maps covers := by
    obtain ⟨_, same, covers⟩ := covers
    cases same
    rcases schema with ⟨y, rfl⟩ | ⟨other, rfl⟩
    · exact ⟨members, rfl, covers⟩
    · refine ⟨_, merge_obj members other, covers.imp (fun has => ?_) (·.merge_left maps.2)⟩
      exact has_mergedMembers_iff.mpr (.inl has)
  right members b _ maps covers := by
    obtain ⟨other, rfl, covers⟩ := covers
    refine ⟨_, merge_obj members other, covers.imp (fun has => ?_) (·.merge_right maps.1)⟩
    exact has_mergedMembers_iff.mpr (.inr has)
  rebased base schema covers := by
    obtain ⟨members, rfl, covers⟩ := covers
    refine ⟨_, rfl, covers.imp (fun has => ?_) (·.rebase)⟩
    exact has_rebase_iff.mpr has

/-- What a schema covers without what was taken out, as long as that is none of the keywords that cover. -/
theorem Json.Covers.without {members : Members} {key : String} {dropped : String → Bool}
    (kept : ∀ keyword ∈ covering, dropped keyword.name = false)
    (covers : (Json.obj members).Covers key) : (Json.obj (members.without dropped)).Covers key := by
  obtain ⟨_, same, covers⟩ := covers
  cases same
  refine ⟨_, rfl, covers.imp (fun has => ?_) (·.without fun keyword mapped => kept keyword (List.mem_cons_of_mem _ mapped))⟩
  have additional : dropped "additionalProperties" = false := kept .additionalProperties List.mem_cons_self
  rw [Members.has, lookup_without, additional, if_neg Bool.false_ne_true]
  exact has

/-- A keyword that covers belongs to no reference. -/
theorem beside_covers (key : String) : Context.Beside (Json.Covers key) where
  object b covers := by
    obtain ⟨_, same, -⟩ := covers
    cases same
  kept schema covers := by
    obtain ⟨members, rfl, own⟩ := id covers
    refine ⟨?_, covers.without (by decide)⟩
    have present : ∃ keyword ∈ covering, ∃ value, members.lookup keyword.name = some value := by
      rcases own with has | ⟨keyword, mapped, entries, found, -⟩
      · obtain ⟨value, found⟩ := Option.isSome_iff_exists.mp has
        exact ⟨_, List.mem_cons_self, value, found⟩
      · exact ⟨keyword, List.mem_cons_of_mem _ mapped, _, found⟩
    obtain ⟨keyword, listed, value, found⟩ := present
    have other : ∀ keyword ∈ covering, (!trivialSiblings.contains keyword.name) = true := by decide
    exact List.any_eq_true.mpr ⟨_, mem_of_lookup found, other keyword listed⟩

namespace Context

variable {context : Context} {task : Reduction} {fragment : Fragment} {scope : Scope} {key : String}

/-- Composition covers nothing. -/
theorem covers_staticPart {schema : Json} (covers : schema.Covers key) : (task.staticPart schema).Covers key := by
  obtain ⟨members, rfl, -⟩ := id covers
  have static : ∀ keyword ∈ covering, keyword.name ∉ dynamicKeywords := by decide
  exact covers.without fun keyword listed => Reduction.isDynamic_eq_false (static keyword listed)

/-- The maps of a compiled fragment are maps. -/
theorem mapKinds_of_compiled (compiled : fragment.IsCompiled context.draft) : fragment.schema.OfKinds MapKinds := by
  refine ⟨isSchema_of_compiled compiled, fun name value found keyword mapped same => ?_⟩
  subst same
  obtain ⟨source, outer, compiled⟩ := compiled
  rcases compiled.bool_or_obj with ⟨b, shape⟩ | ⟨members, shape⟩
  · rw [shape] at found
    cases found
  · rw [shape] at compiled found
    have made := Fragment.compiled_obj.mp compiled
    by_contra none
    have refused : Step.refuse (.objectExpected keyword.name fragment.site.pointer) ∈
        steps context.draft fragment.site.pointer members := by
      simp only [Json.member?] at found
      simp only [List.mem_cons, List.not_mem_nil, or_false] at mapped
      rcases mapped with rfl | rfl
      all_goals
        simp only [steps, List.mem_append, stepMembers]
        cases value with
        | obj entries => exact absurd ⟨entries, rfl⟩ none
        | _ => simp_all [Keyword.name]
    exact made.not_refused refused

/-- The maps of all parts of a reduction are maps. -/
theorem gathering_mapKinds (known : context.index.WellCompiled context.draft) (compiled : fragment.IsCompiled context.draft)
    (entered : scope.IsCompiled context.draft) : context.Gathering task fragment scope (Json.OfKinds MapKinds) := by
  refine gathering_ofKinds (fun target gathered => ?_) fun names keyword mapped same => ?_
  · exact ofKinds_ownPart (mapKinds_of_compiled (gathered.isCompiled known compiled entered))
  · have apart : ∀ keyword ∈ [Keyword.properties, .patternProperties], keyword.name ≠ "required" := by decide
    exact absurd same (apart keyword mapped)

/-- What a fragment covers is told by its schema. -/
theorem covers_iff (compiled : fragment.IsCompiled context.draft) :
    fragment.additionalProperties?.isSome = true ∨ fragment.declares key = true ↔ fragment.schema.Covers key := by
  obtain ⟨source, outer, compiled⟩ := compiled
  rcases compiled.bool_or_obj with ⟨b, shape⟩ | ⟨members, shape⟩
  · rw [shape] at compiled ⊢
    rw [Fragment.compiled_bool.mp compiled]
    refine ⟨fun covers => ?_, fun covers => absurd covers ((beside_covers key).object b)⟩
    rcases covers with covers | covers <;> cases covers
  · rw [shape] at compiled ⊢
    have additional := (Fragment.compiled_obj.mp compiled).additionalProperties?_schema
    rw [declares_iff_declares compiled]
    constructor
    · refine fun covers => ⟨members, rfl, covers.imp_left fun some => ?_⟩
      rw [Members.has, ← additional, Option.isSome_map]
      exact some
    · rintro ⟨_, same, covers⟩
      cases same
      refine covers.imp_left fun has => ?_
      rw [Members.has, ← additional, Option.isSome_map] at has
      exact has

end Context

/-! ## Checks -/

namespace Visit

variable {visit : Visit} {depth : Nat} {covered : String → Bool} {code : ViolationCode} {members : Members}

/-- The reduction that tells what is evaluated. -/
def evaluation (visit : Visit) : Reduction := ⟨some visit.data, visit.pointer, []⟩

/-- A fragment to which the reduction comes evaluates a property. -/
def EvaluatesProperty (visit : Visit) (key : String) : Prop :=
  visit.context.Comes visit.evaluation visit.fragment visit.scope (Json.Covers key)

theorem evaluatedShape_of_reduce {reduced : Reduced}
    (answer : visit.judge.reduce visit.evaluation visit.fragment visit.scope = some (.ok reduced)) :
    visit.evaluatedShape = some reduced.fragment := by
  rw [evaluation] at answer
  rw [evaluatedShape, answer]
  rfl

/-- Nothing is reported of a name that is covered. -/
theorem spares_checkUncovered (judged : visit.judge = visit.context.judge depth) (schema : Fragment) {key : String}
    (known : covered key = true) :
    Finds (Violation.Spares (visit.pointer.join key)) (visit.checkUncovered schema covered code members) := by
  refine .gather fun ⟨name, value⟩ _ => ?_
  by_cases own : covered name = true
  · simp only [own, if_true]
    exact .nil
  · have apart : name ≠ key := by
      rintro rfl
      exact own known
    simp only [own, Bool.false_eq_true, if_false]
    split
    · exact .single ((Violation.allUnder_of_single rfl).spares_member apart)
    · intro found answer v inside
      rw [Visit.validate, judged] at answer
      exact (visit.context.finds_allUnder depth _ _ _ _ found answer v inside).spares_member apart

/-- Where all names are covered, nothing is reported. -/
theorem checkUncovered_of_covered (schema : Fragment) (all : ∀ member ∈ members, covered member.1 = true) :
    visit.checkUncovered schema covered code members = some [] :=
  gather_eq_nil.mpr fun member inside => if_pos (all member inside)

end Visit

/-- Of a property that is evaluated by a fragment to which the reduction comes nothing is reported as unevaluated; where
all properties are evaluated so, nothing is reported at all. -/
theorem evaluated_properties_spared {visit : Visit} {depth : Nat} (judged : visit.judge = visit.context.judge depth)
    (merges : visit.context.draft.mergesSiblings = true) (known : visit.context.index.WellCompiled visit.context.draft)
    (compiled : visit.fragment.IsCompiled visit.context.draft) (entered : visit.scope.IsCompiled visit.context.draft)
    {members : Members} (object : visit.data = .obj members) {reduced : Reduced}
    (answer : visit.judge.reduce visit.evaluation visit.fragment visit.scope = some (.ok reduced)) :
    (∀ key, visit.EvaluatesProperty key →
        Finds (Violation.Spares (visit.pointer.join key)) visit.checkUnevaluatedProperties) ∧
      ((∀ member ∈ members, visit.EvaluatesProperty member.1) → visit.checkUnevaluatedProperties = some []) := by
  have covers {key : String} (evaluates : visit.EvaluatesProperty key) :
      reduced.fragment.additionalProperties?.isSome = true ∨ reduced.fragment.declares key = true := by
    rw [judged] at answer
    rw [Context.covers_iff (Context.isCompiled_of_reduce known compiled entered answer).1]
    exact Context.reduced_has_of_comes (lasting_covers key) (beside_covers key) (fun _ => Context.covers_staticPart) merges
      known ((Context.gathering_mapKinds known compiled entered).unites known keptKinds_map.stable compiled entered)
      (fun part deeper gathers source target refers =>
        have ⟨source, target⟩ := refers.isCompiled known (gathers.isCompiled known compiled entered).1
        ⟨Context.ofKinds_mergeTarget keptKinds_map (Context.mapKinds_of_compiled target),
          Context.ofKinds_siblings (Context.mapKinds_of_compiled source)⟩)
      compiled entered evaluates answer
  have shape := Visit.evaluatedShape_of_reduce answer
  unfold Visit.checkUnevaluatedProperties
  rw [object]
  cases asks : visit.fragment.unevaluatedProperties? with
  | none => exact ⟨fun _ _ => .nil, fun _ => rfl⟩
  | some schema =>
    dsimp only
    rw [shape, Option.bind_eq_bind, Option.bind_some]
    by_cases whole : reduced.fragment.additionalProperties?.isSome = true
    · simp only [whole, if_true]
      exact ⟨fun _ _ => .nil, fun _ => rfl⟩
    · simp only [whole, Bool.false_eq_true, if_false]
      exact ⟨fun key evaluates => Visit.spares_checkUncovered judged schema ((covers evaluates).resolve_left whole),
        fun all => Visit.checkUncovered_of_covered schema fun member inside => (covers (all member inside)).resolve_left whole⟩

/-- One property is declared by what a member refers to, and others have a pattern beside the reference. -/
def referringMember : Json := .obj [
  ("$defs", .obj [("named", .obj [("properties", .obj [("a", .bool true)])])]),
  ("allOf", .arr [.obj [("$ref", .str "#/$defs/named"), ("patternProperties", .obj [("^x", .bool true)])]]),
  ("unevaluatedProperties", .bool false)]

/-- The root of a schema with the first member of its `allOf`, what that refers to, and what it stands for. -/
def referred? (schema : Json) (reference : String) : Option (Node × Fragment × Fragment × Fragment) := do
  let root ← (Compiler.standard.compile schema).toOption
  let member ← (root.fragment.members .allOf)[0]?
  let scope := (root.scope.enter root.fragment).enter member
  let target ← root.context.target? member .static reference scope
  let (final, _) ← root.context.inside? member scope
  return (root, member, target, final)

/-- What the keyword is asked of by the root of a schema, at the depth that is allowed. -/
def Node.visit (node : Node) (data : Json) : Visit :=
  ⟨node.context, node.context.judge (node.context.depthFor data), node.fragment, data, .root, node.scope⟩

/-- Both properties are spared, one of which the target declares, and the other what stands beside the reference. -/
theorem referringMember_properties_spared : ∃ root, Compiler.standard.compile referringMember = .ok root ∧
    Finds (Violation.Spares (Pointer.root.join "a"))
      (root.visit (.obj [("a", .ofNat 1), ("xy", .ofNat 2)])).checkUnevaluatedProperties ∧
    (root.visit (.obj [("a", .ofNat 1), ("xy", .ofNat 2)])).checkUnevaluatedProperties = some [] := by
  have computed : (referred? referringMember "#/$defs/named").map (fun (root, member, target, final) =>
      root.context.draft.mergesSiblings && (root.fragment.reference? root.context.draft).isNone &&
      !(root.fragment.reducers root.context.draft).isEmpty &&
      decide (member.reference? root.context.draft = some (.static, "#/$defs/named")) &&
      target.declares "a" && member.declares "xy" && !final.isBool false &&
      ((root.reduce (.obj [("a", .ofNat 1), ("xy", .ofNat 2)])).bind Except.toOption).isSome) = some true := by
    decide +kernel
  obtain ⟨⟨root, member, target, final⟩, known, holds⟩ := Option.map_eq_some_iff.mp computed
  simp only [Bool.and_eq_true, decide_eq_true_eq, Option.isNone_iff_eq_none, Bool.not_eq_true',
    Option.isSome_iff_exists, Option.bind_eq_some_iff] at holds
  obtain ⟨⟨⟨⟨⟨⟨⟨merges, settled⟩, work⟩, refers⟩, declares⟩, declares'⟩, possible⟩, reduced, answer, reduces, answered⟩ := holds
  simp only [referred?, Option.bind_eq_bind, Option.bind_eq_some_iff] at known
  obtain ⟨_, compiled, _, listed, _, found, ⟨final', inner⟩, inside, same⟩ := known
  cases same
  obtain ⟨result, reduces, -⟩ := Node.settle_eq_ok (ok_of_toOption answered ▸ reduces)
  have compiled := ok_of_toOption compiled
  have sound := Node.sound_of_compile compiled
  have listed := List.mem_of_getElem? listed
  have compiled' := sound.fragment.child (Fragment.hasChild_of_members listed)
  have possible : final'.schema ≠ .bool false := by
    intro same
    rw [Fragment.isBool, same] at possible
    cases possible
  have comes {key : String} (covers : member.schema.Covers key ∨ target.schema.Covers key) :
      (root.visit (.obj [("a", .ofNat 1), ("xy", .ofNat 2)])).EvaluatesProperty key := by
    refine .refers (.step (Context.inside?_of_settled settled) ?_ List.not_mem_nil (.selected (.inr rfl) (.allOf listed))
      (.refl _ _ _)) (.first refers found) inside possible covers
    simpa [Reduction.hasWork, Visit.evaluation, Node.visit] using work
  have first := comes (.inr ((Context.covers_iff (Context.compiled_of_target? sound.index found)).mp (.inr declares)))
  have second := comes (.inl ((Context.covers_iff compiled').mp (.inr declares')))
  obtain ⟨spared, none⟩ := @evaluated_properties_spared
    (root.visit (.obj [("a", .ofNat 1), ("xy", .ofNat 2)])) _ rfl merges sound.index sound.fragment sound.scope _ rfl _ reduces
  refine ⟨root, compiled, spared "a" first, none fun property inside => ?_⟩
  simp only [List.mem_cons, List.not_mem_nil, or_false] at inside
  rcases inside with rfl | rfl
  · exact first
  · exact second

/-! ## Members that are paired -/

/-- A reference beside `allOf`, whose target has a member of `allOf` too; each of the two members refers to a schema with
one property. -/
def pairedReferences : Json := .obj [
  ("$defs", .obj [
    ("a", .obj [("properties", .obj [("x", .obj [])])]),
    ("b", .obj [("properties", .obj [("y", .obj [])])]),
    ("t", .obj [("allOf", .arr [.obj [("$ref", .str "#/$defs/a")]])])]),
  ("$ref", .str "#/$defs/t"),
  ("allOf", .arr [.obj [("$ref", .str "#/$defs/b")]]),
  ("unevaluatedProperties", .bool false)]

/-- The root of a schema, what it refers to, the first member of `allOf` of that, and what the member stands for. -/
def memberOfReferred? (schema : Json) (reference : String) : Option (Node × Fragment × Fragment × Fragment) := do
  let root ← (Compiler.standard.compile schema).toOption
  let scope := root.scope.enter root.fragment
  let target ← root.context.target? root.fragment .static reference scope
  let member ← (target.members .allOf)[0]?
  let (named, _) ← root.context.inside? member ((scope.enter target).enter member)
  return (root, target, member, named)

/-- The two members are merged, and the reference of the second one stays; so the property that is declared through the
first one is reported, though the reduction succeeds. -/
theorem property_of_paired_member_reported : ∃ root target member named reduced found,
    Compiler.standard.compile pairedReferences = .ok root ∧
    root.context.Refers root.fragment (root.scope.enter root.fragment) root.fragment target ∧
    member ∈ target.members .allOf ∧
    (∃ inner, root.context.inside? member (((root.scope.enter root.fragment).enter target).enter member) = some (named, inner)) ∧
    named.declares "x" = true ∧
    root.reduce (.obj [("x", .ofNat 1), ("y", .ofNat 2)]) = some (.ok reduced) ∧
    root.validate (.obj [("x", .ofNat 1), ("y", .ofNat 2)]) = some found ∧
    found.map (fun violation => (violation.code, violation.pointer)) = [(.unevaluatedProperty, Pointer.root.join "x")] := by
  have computed : (memberOfReferred? pairedReferences "#/$defs/t").map (fun (root, target, member, named) =>
      decide (root.fragment.reference? root.context.draft = some (.static, "#/$defs/t")) && named.declares "x" &&
      ((root.reduce (.obj [("x", .ofNat 1), ("y", .ofNat 2)])).bind Except.toOption).isSome &&
      decide ((root.validate (.obj [("x", .ofNat 1), ("y", .ofNat 2)])).map
        (List.map fun violation => (violation.code, violation.pointer)) =
          some [(.unevaluatedProperty, Pointer.root.join "x")])) = some true := by
    decide +kernel
  obtain ⟨⟨root, target, member, named⟩, known, holds⟩ := Option.map_eq_some_iff.mp computed
  simp only [Bool.and_eq_true, decide_eq_true_eq, Option.isSome_iff_exists, Option.bind_eq_some_iff,
    Option.map_eq_some_iff] at holds
  obtain ⟨⟨⟨refers, declares⟩, reduced, _, reduces, answered⟩, found, validates, listed'⟩ := holds
  simp only [memberOfReferred?, Option.bind_eq_bind, Option.bind_eq_some_iff] at known
  obtain ⟨_, compiled, _, found', _, listed, ⟨_, inner⟩, inside, same⟩ := known
  cases same
  exact ⟨root, target, member, _, reduced, found, ok_of_toOption compiled, .first refers found',
    List.mem_of_getElem? listed, ⟨inner, inside⟩, declares, ok_of_toOption answered ▸ reduces, validates, listed'⟩

end JsonSchema
