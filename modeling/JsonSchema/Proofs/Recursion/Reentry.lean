import JsonSchema.Proofs.Recursion.Completion
import JsonSchema.Proofs.Recursion.Unwinding
import JsonSchema.Proofs.Reference.Grounded

/-!
# Checks that are cut

A check is cut where a fragment of the same location is already being checked against the same
place of the data. It hides nothing if that fragment was compiled from the same schema.
-/

namespace JsonSchema

/-- Where the inquiry is cut, the same schema is already being checked against the same place. -/
def Inquiry.HidesNothing : Inquiry → Prop
  | .check fragment _ pointer scope => scope.isChecking fragment.location pointer = true →
    ∃ frame ∈ scope, frame.instance? = some pointer ∧ frame.fragment.schema = fragment.schema
  | .reduction .. => True

/-! ## Runs among grounded fragments -/

/-- All fragments that are being checked belong to a family. -/
def Scope.ChecksAmong (scope : Scope) (family : Set Fragment) : Prop :=
  ∀ frame ∈ scope, frame.instance? ≠ none → frame.fragment ∈ family

namespace Scope.ChecksAmong

variable {scope : Scope} {family : Set Fragment} {f : Fragment}

theorem enter (among : scope.ChecksAmong family) (f : Fragment) : (scope.enter f).ChecksAmong family :=
  List.forall_mem_cons.mpr ⟨fun checked => absurd rfl checked, among⟩

theorem enterAt (among : scope.ChecksAmong family) (known : f ∈ family) (pointer : Pointer) :
    (scope.enterAt f pointer).ChecksAmong family :=
  List.forall_mem_cons.mpr ⟨fun _ => known, among⟩

end Scope.ChecksAmong

namespace Context

variable {context : Context} {family : Set Fragment} {f target : Fragment} {scope inner : Scope}

/-- Following references checks nothing more. -/
theorem Chain.checksAmong {seen : List String} (chain : Chain context seen f scope target inner)
    (among : scope.ChecksAmong family) : inner.ChecksAmong family := by
  induction chain with
  | ended => exact among
  | hop _ _ _ _ _ ih => exact ih (among.enter _)

/-- What a step asks is asked in a scope that checks the same fragments, and the one that the step is about. -/
theorem Next.checksAmong {q next : Inquiry} (leads : context.Next q next) (inside : q.fragment ∈ family)
    (among : q.scope.ChecksAmong family) : next.scope.ChecksAmong family := by
  cases q with
  | check fragment data pointer scope =>
    obtain ⟨-, target, inner, reached, step⟩ := leads
    have among := (chain_of_inside? reached).checksAmong (Scope.ChecksAmong.enterAt among inside pointer)
    cases next <;> exact step.1 ▸ among
  | reduction task fragment scope =>
    obtain ⟨target, inner, reached, -, step⟩ := leads
    have among := (chain_of_inside? reached).checksAmong (Scope.ChecksAmong.enter among fragment)
    cases next <;> exact step.1 ▸ among

/-- Nothing is asked of unevaluated items where nothing is merged. -/
theorem Grounded.not_unevaluatedItems (known : context.Grounded f) : .unevaluatedItems ∉ f.keywords context.draft := by
  intro occurs
  have absent := (known.unmixed.unmerged (merges_of_unevaluatedItems occurs)).self.evaluated
  unfold Fragment.keywords at occurs
  split at occurs
  · rename_i members object
    have present := (List.mem_filter.mp occurs).2
    rw [object] at absent
    have none : members.lookup "unevaluatedItems" = none := absent
    simp [Keyword.isPresent, Keyword.name, Members.has, none] at present
  · cases occurs

/-- A run from a grounded fragment checks and reduces grounded fragments only. -/
theorem Leads.grounded {sources : List Json} (made : context.index.MadeOf context.draft sources)
    (unmixed : ∀ document ∈ sources, document.Unmixed context.draft) {q r : Inquiry} (leads : context.Leads q r)
    (inside : context.Grounded q.fragment) (among : q.scope.ChecksAmong {f | context.Grounded f}) :
    context.Grounded r.fragment ∧ r.scope.ChecksAmong {f | context.Grounded f} := by
  induction leads with
  | refl => exact ⟨inside, among⟩
  | @tail q' r' _ needs ih =>
    have next := context.next_of_needs needs
    have stays : r'.fragment ∈ {f | context.Grounded f} :=
      next.stays (fun f known scope => known.settle made unmixed scope)
        (fun f known scope c has => (known.settle made unmixed scope).child has)
        (fun f known scope => (known.settle made unmixed scope).not_unevaluatedItems) ih.1
    exact ⟨stays, next.checksAmong ih.1 ih.2⟩

end Context

/-! ## What a keyword needs -/

namespace Context

variable {context : Context} {f target child : Fragment} {data : Json} {pointer : Pointer} {scope inner : Scope}

/-- A check comes to a keyword of the object that the fragment stands for. -/
structure ComesTo (context : Context) (f : Fragment) (data : Json) (pointer : Pointer) (scope : Scope)
    (target : Fragment) (inner : Scope) (keyword : Keyword) : Prop where
  free : scope.isChecking f.location pointer = false
  inside : context.inside? f (scope.enterAt f pointer) = some (target, inner)
  object : ∃ members, target.schema = .obj members
  occurs : keyword ∈ (target.keywords context.draft).filter fun keyword =>
    context.draft.applies keyword (TypeName.of data)

/-- Whether a check that is not cut comes to a keyword of the object `target`. -/
def checks (context : Context) (f : Fragment) (data : Json) (pointer : Pointer) (scope : Scope) (target : Fragment)
    (keyword : Keyword) : Bool :=
  !scope.isChecking f.location pointer && target.schema.members?.isSome &&
    ((target.keywords context.draft).filter fun keyword =>
      context.draft.applies keyword (TypeName.of data)).contains keyword

theorem comesTo_of_checks {keyword : Keyword} (checked : context.checks f data pointer scope target keyword = true)
    (inside : context.inside? f (scope.enterAt f pointer) = some (target, inner)) :
    context.ComesTo f data pointer scope target inner keyword := by
  obtain ⟨before, occurs⟩ := Bool.and_eq_true_iff.mp checked
  obtain ⟨free, object⟩ := Bool.and_eq_true_iff.mp before
  refine ⟨by simpa using free, inside, ?_, by simpa using occurs⟩
  cases schema : target.schema with
  | obj members => exact ⟨members, rfl⟩
  | _ => simp [schema, Json.members?] at object

/-- A check needs what a keyword that it comes to cannot do without. -/
theorem ComesTo.needs {q : Inquiry} {keyword : Keyword} (comes : context.ComesTo f data pointer scope target inner keyword)
    (declines : ∀ judge : Judge, judge.answer q = none →
      Visit.check ⟨context, judge, target, data, pointer, inner⟩ keyword = none) :
    context.Needs (.check f data pointer scope) q := by
  intro judge lacks
  obtain ⟨members, object⟩ := comes.object
  have settled : context.validateSettled judge target data pointer inner = none := by
    unfold validateSettled
    simp only [object]
    exact gather_eq_none comes.occurs (declines judge lacks.declined)
  have inside := comes.inside
  simp only [stepJudge, Judge.answer, Option.map_eq_none_iff]
  unfold validateStep
  simp only [comes.free, Bool.false_eq_true, ↓reduceIte]
  unfold inside? at inside
  split at inside <;> cases inside <;> simp_all

/-- Data are checked against a schema that is negated. -/
theorem ComesTo.needs_not (comes : context.ComesTo f data pointer scope target inner .not)
    (negated : target.not? = some child) :
    context.Needs (.check f data pointer scope) (.check child data pointer inner) := by
  refine comes.needs fun judge declined => ?_
  rw [Judge.answer, Option.map_eq_none_iff] at declined
  simp only [Visit.check, Visit.checkNot, negated, Visit.accepts, Visit.validateHere, Visit.validate, declined]
  rfl

/-- A member is checked against the schema of its property. -/
theorem ComesTo.needs_property {entries : Members} {name : String} {value : Json}
    (comes : context.ComesTo f (.obj entries) pointer scope target inner .properties)
    (declared : target.property? name = some child) (present : entries.lookup name = some value) :
    context.Needs (.check f (.obj entries) pointer scope) (.check child value (pointer.join name) inner) := by
  refine comes.needs fun judge declined => ?_
  rw [Judge.answer, Option.map_eq_none_iff] at declined
  refine gather_eq_none (mem_of_lookup declared) ?_
  simp only [present]
  exact declined

/-- Data are checked against the members of `allOf`. -/
theorem ComesTo.needs_allOf (comes : context.ComesTo f data pointer scope target inner .allOf)
    (member : child ∈ target.members .allOf) :
    context.Needs (.check f data pointer scope) (.check child data pointer inner) := by
  refine comes.needs fun judge declined => ?_
  rw [Judge.answer, Option.map_eq_none_iff] at declined
  have failures : gather (target.members .allOf)
      (Visit.validateHere ⟨context, judge, target, data, pointer, inner⟩) = none := gather_eq_none member declined
  simp only [Visit.check, Visit.checkAllOf, failures]
  rfl

end Context

/-! ## Cut checks -/

/-- A check is cut only where the same schema is already being checked against the same place of the data, if no
two documents stand at one address and no schema is merged. -/
theorem guard_hides_nothing {compiler : Compiler} {schema : Json} {node : Node}
    (compiled : compiler.compile schema = .ok node)
    (unmixed : ∀ document ∈ compiler.documents schema, document.Unmixed node.context.draft)
    (distinct : node.context.Distinct) (data : Json) {r : Inquiry}
    (leads : node.context.Leads (node.validation data) r) : r.HidesNothing := by
  obtain ⟨made, holds⟩ := Compiler.madeOf_of_compile compiled
  obtain ⟨-, -, outermost, position, known⟩ := Compiler.root_of_compile compiled
  have root : node.context.Grounded node.fragment := by
    refine Context.grounded_of_holds holds ?_
    rw [(Fragment.compile_eq_ok.mp known).schema_eq]
    exact unmixed schema List.mem_cons_self
  have idle : node.scope.ChecksAmong {f | node.context.Grounded f} := by
    rw [outermost]
    exact fun frame inside => nomatch inside
  obtain ⟨inside, among⟩ := leads.grounded made unmixed root idle
  cases r with
  | check f data pointer scope =>
    intro cut
    obtain ⟨frame, entered, same⟩ := List.any_eq_true.mp cut
    obtain ⟨place, location⟩ := Bool.and_eq_true_iff.mp same
    have place := of_decide_eq_true place
    have known : node.context.Grounded frame.fragment := among frame entered (by simp [place])
    exact ⟨frame, entered, place, known.schema_eq distinct inside (beq_iff_eq.mp location)⟩
  | reduction task f scope => trivial

/-- A schema that refers to itself. -/
def cyclic : Json := .obj [("allOf", .arr [.obj [("$ref", .str "#")]])]

namespace Cyclic

/-- Two checks that lead to a third one, and what the first two come to. -/
structure Way where
  node : Node
  root : Fragment × Scope
  member : Fragment
  again : Fragment × Scope
  last : Fragment

def way? : Option Way := do
  let node ← (Compiler.standard.compile cyclic).toOption
  let root ← node.context.inside? node.fragment (node.scope.enterAt node.fragment .root)
  let member ← (root.1.members .allOf).head?
  let again ← node.context.inside? member (root.2.enterAt member .root)
  let last ← (again.1.members .allOf).head?
  return ⟨node, root, member, again, last⟩

/-- The last check is cut, in a context with one document. -/
def Way.isCut (way : Way) : Bool :=
  let context := way.node.context
  context.checks way.node.fragment .null .root way.node.scope way.root.1 .allOf &&
    context.checks way.member .null .root way.root.2 way.again.1 .allOf &&
    way.again.2.isChecking way.last.location .root && context.draft == .draft2020 &&
    context.index.documents.map Prod.fst == ["json-schema:///"]

theorem unmixed : cyclic.Unmixed .draft2020 := by
  refine ⟨by simp [Json.WellFormed, cyclic, Json.Storable], fun _ => ?_⟩
  simp only [cyclic, Json.throughout_obj_iff, Json.throughout_arr_iff, Json.throughout_str_iff,
    List.forall_mem_singleton]
  have tuple {schema : Json} (absent : schema.member? "prefixItems" = none) (value : Json)
      (found : schema.member? "prefixItems" = some value) : ∃ items, value = .arr items := by
    rw [absent] at found
    cases found
  refine ⟨⟨?_, rfl, tuple rfl⟩, ⟨?_, rfl, tuple rfl⟩, ⟨?_, rfl, tuple rfl⟩, ⟨?_, rfl, tuple rfl⟩⟩
  · intro keyword reference _ found
    cases keyword <;> cases found
  · intro keyword reference _ found
    cases found
  · intro keyword reference _ _
    rfl
  · intro keyword reference _ found
    cases found

end Cyclic

/-- The member of the schema comes back to itself for the same data, and hides nothing. -/
theorem cyclic_guard_hides_nothing : ∃ node r, Compiler.standard.compile cyclic = .ok node ∧
    (∀ document ∈ Compiler.standard.documents cyclic, document.Unmixed node.context.draft) ∧ node.context.Distinct ∧
    node.context.Leads (node.validation .null) r ∧ r.IsCut ∧ r.HidesNothing := by
  have computed : Cyclic.way?.map Cyclic.Way.isCut = some true := by decide +kernel
  obtain ⟨way, known, cut⟩ := Option.map_eq_some_iff.mp computed
  simp only [Cyclic.way?, Option.bind_eq_bind, Option.bind_eq_some_iff] at known
  obtain ⟨node, compiled, ⟨root, outer⟩, atRoot, member, listed, ⟨again, inner⟩, atMember, last, listedAgain, same⟩ :=
    known
  cases same
  simp only [Cyclic.Way.isCut, Bool.and_eq_true, beq_iff_eq] at cut
  obtain ⟨⟨⟨⟨first, second⟩, checking⟩, draft⟩, addresses⟩ := cut
  have leads : node.context.Leads (node.validation .null) (.check last .null .root inner) :=
    .tail (.single ((Context.comesTo_of_checks first atRoot).needs_allOf (List.mem_of_head? listed)))
      ((Context.comesTo_of_checks second atMember).needs_allOf (List.mem_of_head? listedAgain))
  have compiled := ok_of_toOption compiled
  have unmixed : ∀ document ∈ Compiler.standard.documents cyclic, document.Unmixed node.context.draft := by
    rw [draft]
    exact List.forall_mem_singleton.mpr Cyclic.unmixed
  have distinct : node.context.Distinct := by
    refine Context.distinct_of_unidentified (Compiler.madeOf_of_compile compiled).1 ?_ (by simp [addresses])
    rw [draft]
    refine List.forall_mem_singleton.mpr ?_
    simp [cyclic, Json.member?, Draft.idKeyword]
  have hidden := guard_hides_nothing compiled unmixed distinct .null leads
  exact ⟨node, _, compiled, unmixed, distinct, leads, checking, hidden⟩

/-! ## A violation that is hidden -/

/-- A property whose schema refers, below `not`, to the property of the same name outside. The definition is merged
to the place of the root, so the two properties stand at one location. -/
def negatedTwice : Json := .obj [
  ("$defs", .obj [("t", .obj [("properties", .obj [("x", .obj [("not", .obj [("$ref", .str "#/properties/x")])])])])]),
  ("$ref", .str "#/$defs/t"), ("properties", .obj [("x", .obj [("not", .bool false)])])]

def oneMember : Json := .obj [("x", .ofNat 1)]

namespace NegatedTwice

def place : Pointer := Pointer.root.join "x"

/-- Three checks, each of which leads to the next one, and the schema that the last one leads to. -/
structure Way where
  node : Node
  root : Fragment × Scope
  property : Fragment
  outside : Fragment × Scope
  reference : Fragment
  referred : Fragment × Scope
  last : Fragment

def way? : Option Way := do
  let node ← (Compiler.standard.compile negatedTwice).toOption
  let root ← node.context.inside? node.fragment (node.scope.enterAt node.fragment .root)
  let property ← root.1.property? "x"
  let outside ← node.context.inside? property (root.2.enterAt property place)
  let reference ← outside.1.not?
  let referred ← node.context.inside? reference (outside.2.enterAt reference place)
  let last ← referred.1.not?
  return ⟨node, root, property, outside, reference, referred, last⟩

/-- The last check is cut, though only objects are being checked at its place, and no violation is found. -/
def Way.isCut (way : Way) : Bool :=
  let context := way.node.context
  context.checks way.node.fragment oneMember .root way.node.scope way.root.1 .properties &&
    context.checks way.property (.ofNat 1) place way.root.2 way.outside.1 .not &&
    context.checks way.reference (.ofNat 1) place way.outside.2 way.referred.1 .not &&
    way.referred.2.isChecking way.last.location place && way.last.isBool false &&
    (way.referred.2.all fun frame => frame.fragment.schema.members?.isSome) &&
    way.node.accepts oneMember == some true

end NegatedTwice

/-- The check of the property of the definition comes to the schema `false` where nothing but objects is being
checked. It is cut all the same, and the data are accepted. -/
theorem violation_hidden_below_not : ∃ node r, Compiler.standard.compile negatedTwice = .ok node ∧
    node.context.Leads (node.validation oneMember) r ∧ ¬ r.HidesNothing ∧ node.validate oneMember = some [] := by
  have computed : NegatedTwice.way?.map NegatedTwice.Way.isCut = some true := by decide +kernel
  obtain ⟨way, known, cut⟩ := Option.map_eq_some_iff.mp computed
  simp only [NegatedTwice.way?, Option.bind_eq_bind, Option.bind_eq_some_iff] at known
  obtain ⟨node, compiled, ⟨merged, outer⟩, atRoot, property, declared, ⟨outside, middle⟩, atProperty, reference,
    negated, ⟨referred, inner⟩, atReference, last, negatedAgain, same⟩ := known
  cases same
  simp only [NegatedTwice.Way.isCut, Bool.and_eq_true, beq_iff_eq] at cut
  obtain ⟨⟨⟨⟨⟨⟨first, second⟩, third⟩, checking⟩, isFalse⟩, objects⟩, accepted⟩ := cut
  have leads : node.context.Leads (node.validation oneMember) (.check last (.ofNat 1) NegatedTwice.place inner) :=
    .tail (.tail (.single ((Context.comesTo_of_checks first atRoot).needs_property declared rfl))
      ((Context.comesTo_of_checks second atProperty).needs_not negated))
      ((Context.comesTo_of_checks third atReference).needs_not negatedAgain)
  refine ⟨node, _, ok_of_toOption compiled, leads, fun hidden => ?_, ?_⟩
  · obtain ⟨frame, inside, -, same⟩ := hidden checking
    have isObject := List.all_eq_true.mp objects frame inside
    rw [same] at isObject
    cases schema : last.schema <;> simp_all [Fragment.isBool, Json.isBool, Json.members?]
  · obtain ⟨found, answer, empty⟩ := Option.map_eq_some_iff.mp accepted
    rw [answer, List.isEmpty_iff.mp empty]

end JsonSchema
