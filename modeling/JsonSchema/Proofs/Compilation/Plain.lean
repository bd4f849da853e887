import JsonSchema.Proofs.Compilation.Parts
import JsonSchema.Proofs.Compilation.Tree

/-!
# Plain schemas

A plain schema has neither references nor identifiers, and no keyword that looks at what the others
evaluated. It compiles at every site in the same way, and its fragments stand where their slots
say, each at a longer location than the fragment around it.
-/

namespace JsonSchema

/-- A schema without references, identifiers and unevaluated keywords, down to the last subschema. -/
inductive Json.Plain (draft : Draft) : Json → Prop where
  | bool (b : Bool) : Plain draft (.bool b)
  | obj {members : Members}
      (unreferring : ∀ keyword : ReferenceKeyword, draft.hasReference keyword = true →
        (Json.obj members).stringMember? keyword.name = none)
      (unidentified : (Json.obj members).stringMember? draft.idKeyword = none)
      (evaluated : ∀ name ∈ ["unevaluatedItems", "unevaluatedProperties"], members.lookup name = none)
      (below : ∀ entry ∈ subschemas draft members, Plain draft entry.2) : Plain draft (.obj members)

/-- Whether a schema is plain, if its subschemas are nested no deeper than a number. -/
def Json.isPlain (draft : Draft) : Nat → Json → Bool
  | _, .bool _ => true
  | depth + 1, .obj members =>
    ([ReferenceKeyword.static, .recursive, .dynamic].all fun keyword =>
      !draft.hasReference keyword || ((Json.obj members).stringMember? keyword.name).isNone) &&
    ((Json.obj members).stringMember? draft.idKeyword).isNone &&
    (["unevaluatedItems", "unevaluatedProperties"].all fun name => (members.lookup name).isNone) &&
    (subschemas draft members).all fun entry => entry.2.isPlain draft depth
  | _, _ => false

theorem Json.plain_of_isPlain {draft : Draft} {depth : Nat} {schema : Json} (is : schema.isPlain draft depth = true) :
    schema.Plain draft := by
  induction depth generalizing schema with
  | zero =>
    cases schema with
    | bool b => exact .bool b
    | _ => cases is
  | succ depth ih =>
    cases schema with
    | bool b => exact .bool b
    | obj members =>
      simp only [isPlain, Bool.and_eq_true, List.all_eq_true, Option.isNone_iff_eq_none] at is
      obtain ⟨⟨⟨unreferring, unidentified⟩, evaluated⟩, below⟩ := is
      refine .obj (fun keyword defined => ?_) unidentified evaluated fun entry inside => ih (below entry inside)
      have absent := unreferring keyword (by cases keyword <;> simp)
      simpa [defined] using absent
    | _ => cases is

namespace Fragment

variable {draft : Draft} {source : Origin} {outer : Site} {schema : Json} {members : Members} {f : Fragment}

theorem schema_of_isBool {b : Bool} (is : f.isBool b = true) : f.schema = .bool b := by
  unfold isBool Json.isBool at is
  split at is
  · rename_i own same
    rw [same, beq_iff_eq.mp is]
  · cases is

/-! ## Children -/

/-- A compiled object has one child for each subschema. -/
theorem FromObject.subschemas {child : Site → Json → Fragment → Prop}
    (made : FromObject draft source outer members child f) :
    List.Forall₂ (fun part own => part.1 = own.1 ∧ child (f.site.below own.1.segments) part.2 own.2)
      (subschemas draft members) f.children := by
  rw [@subschemas_eq _ f.site.pointer, ← @List.filterMap_some _ f.children]
  refine List.rel_filterMap (R := fun step entry => ∃ sub, step = Step.child entry.1 sub ∧
    child (f.site.below entry.1.segments) sub entry.2) ?_ made.children
  rintro step entry ⟨sub, rfl, compiled⟩
  exact .some ⟨rfl, compiled⟩

/-- The children whose slots belong to some keywords. -/
def childrenWithin (f : Fragment) (names : List String) : List (Slot × Fragment) :=
  f.children.filter fun entry => entry.1.within names

theorem FromObject.childrenWithin {child : Site → Json → Fragment → Prop}
    (made : FromObject draft source outer members child f) (names : List String) :
    List.Forall₂ (fun part own => part.1 = own.1 ∧ child (f.site.below own.1.segments) part.2 own.2)
      ((JsonSchema.subschemas draft members).filter fun entry => entry.1.within names) (f.childrenWithin names) := by
  refine List.rel_filter (fun part own related => ?_) made.subschemas
  simp only [related.1]

/-! ## Compiling anywhere -/

/-- A schema compiles wherever it stands. -/
def Compiles (draft : Draft) (schema : Json) : Prop := ∀ source outer, ∃ f, Compiled draft source outer schema f

/-- What compiling an object asks for, with subschemas of a kind. -/
structure Buildable (draft : Draft) (members : Members) (kind : Json → Prop) : Prop where
  typed : checkTypes .root members = .ok ()
  pattern : ∃ pattern, patternOf .root members = .ok pattern
  steps : ∀ step ∈ steps draft .root members, ∃ slot sub, step = .child slot sub ∧ kind sub

private theorem forM_eq_ok {ε α : Type} {f : α → Except ε Unit} {values : List α} :
    values.forM f = .ok () ↔ ∀ value ∈ values, f value = .ok () := by
  induction values with
  | nil => simp [pure, Except.pure]
  | cons value rest ih =>
    change (f value >>= fun _ => rest.forM f) = .ok () ↔ _
    rw [bind_eq_ok, List.forall_mem_cons, ← ih]
    exact ⟨fun ⟨_, first, later⟩ => ⟨first, later⟩, fun ⟨first, later⟩ => ⟨(), first, later⟩⟩

theorem checkTypes_placed (p q : Pointer) : checkTypes p members = .ok () ↔ checkTypes q members = .ok () := by
  unfold checkTypes
  simp only [forM_eq_ok]
  refine forall₂_congr fun value _ => ?_
  cases value with
  | str name => simp only []; split <;> simp
  | _ => simp

/-- A value names a type. -/
def NamesType (value : Json) : Prop := ∃ name, value = .str name ∧ (TypeName.ofName? name).isSome = true

/-- `type` names a type or lists types. -/
theorem checkTypes_eq_ok {pointer : Pointer} : checkTypes pointer members = .ok () ↔
    ∀ value, members.lookup "type" = some value →
      (∃ values, value = .arr values ∧ ∀ own ∈ values, NamesType own) ∨ NamesType value := by
  unfold checkTypes
  simp only [forM_eq_ok]
  cases members.lookup "type" with
  | none => simp
  | some value =>
    cases value with
    | arr values =>
      simp only [Option.some.injEq, forall_eq', Json.arr.injEq, exists_eq_left', NamesType, reduceCtorEq, false_and,
        exists_false, or_false]
      refine forall₂_congr fun own _ => ?_
      cases own with
      | str name => by_cases known : (TypeName.ofName? name).isSome = true <;> simp [known]
      | _ => simp
    | str name => by_cases known : (TypeName.ofName? name).isSome = true <;> simp [NamesType, known]
    | _ => simp [NamesType]

theorem patternOf_placed (p q : Pointer) {pattern : Option Regex} :
    patternOf p members = .ok pattern ↔ patternOf q members = .ok pattern := by
  unfold patternOf readPattern
  split
  · rename_i text _
    cases Regex.compile text <;> simp [Except.map]
  · rfl

/-- The children of a fragment are compiled from the steps of its schema, wherever these are thought to be taken. -/
theorem FromObject.step_root {child : Site → Json → Fragment → Prop} (made : FromObject draft source outer members child f)
    {step : Step} (inside : step ∈ JsonSchema.steps draft .root members) :
    ∃ slot sub g, step = .child slot sub ∧ child (f.site.below slot.segments) sub g := by
  have listed := List.mem_map_of_mem (f := Step.child?) inside
  rw [steps_child? .root f.site.pointer] at listed
  obtain ⟨other, taken, same⟩ := List.mem_map.mp listed
  obtain ⟨slot, sub, g, rfl, -, compiled⟩ := made.step taken
  cases step with
  | refuse fault => cases same
  | child =>
    cases same
    exact ⟨_, _, g, rfl, compiled⟩

/-- An object that compiles has what it asks for. -/
theorem FromObject.buildable {kind : Json → Prop} (made : FromObject draft source outer members (fun _ sub _ => kind sub) f) :
    Buildable draft members kind := by
  refine ⟨(checkTypes_placed _ _).mp made.typed, ⟨_, (patternOf_placed _ _).mp made.pattern⟩, fun step inside => ?_⟩
  obtain ⟨slot, sub, -, rfl, held⟩ := made.step_root inside
  exact ⟨slot, sub, rfl, held⟩

theorem identify_unidentified (unidentified : (Json.obj members).stringMember? draft.idKeyword = none) :
    outer.identify draft members = .ok (outer, []) := by
  unfold Site.identify
  split
  · rename_i id found
    simp [Json.stringMember?, Json.member?, found, Json.string?] at unidentified
  · rfl

/-- An object compiles if its subschemas do below the site that its identifier leads to. -/
theorem exists_compiled {site : Site} {names : List String} (identified : outer.identify draft members = .ok (site, names))
    (buildable : Buildable draft members fun sub => ∀ segments, ∃ g, Compiled draft source (site.below segments) sub g) :
    ∃ f, Compiled draft source outer (.obj members) f := by
  have children : ∀ todo, (∀ step ∈ todo, step ∈ JsonSchema.steps draft site.pointer members) →
      ∃ entries : List (Slot × Fragment), List.Forall₂ (fun step entry => ∃ sub, step = Step.child entry.1 sub ∧
        Compiled draft source (site.below entry.1.segments) sub entry.2) todo entries := by
    intro todo subset
    induction todo with
    | nil => exact ⟨[], .nil⟩
    | cons step rest ih =>
      obtain ⟨entries, related⟩ := ih fun step inside => subset step (List.mem_cons_of_mem _ inside)
      have placed : ∃ slot sub, step = .child slot sub ∧ ∃ g, Compiled draft source (site.below slot.segments) sub g := by
        have listed := List.mem_map_of_mem (f := Step.child?) (subset step List.mem_cons_self)
        rw [steps_child? site.pointer .root] at listed
        obtain ⟨other, inside, same⟩ := List.mem_map.mp listed
        obtain ⟨slot, sub, rfl, compiles⟩ := buildable.steps other inside
        cases step with
        | refuse fault => cases same
        | child =>
          cases same
          exact ⟨_, _, rfl, compiles _⟩
      obtain ⟨slot, sub, rfl, child, compiled⟩ := placed
      exact ⟨(slot, child) :: entries, .cons ⟨sub, rfl, compiled⟩ related⟩
  obtain ⟨pattern, read⟩ := buildable.pattern
  obtain ⟨entries, related⟩ := children _ fun _ inside => inside
  refine ⟨⟨site, source, .obj members, names ++ declaredAnchors draft members, pattern, entries⟩, compiled_obj.mpr ?_⟩
  refine ⟨rfl, rfl, ⟨names, identified, rfl⟩, ?_, ?_, related⟩
  · exact (checkTypes_placed _ _).mp buildable.typed
  · exact (patternOf_placed _ _).mp read

theorem Buildable.mono {kind other : Json → Prop} (buildable : Buildable draft members kind)
    (weaker : ∀ sub, kind sub → other sub) : Buildable draft members other :=
  ⟨buildable.typed, buildable.pattern, fun step inside =>
    have ⟨slot, sub, same, held⟩ := buildable.steps step inside
    ⟨slot, sub, same, weaker sub held⟩⟩

theorem compiles_obj (unidentified : (Json.obj members).stringMember? draft.idKeyword = none)
    (buildable : Buildable draft members (Compiles draft)) : Compiles draft (.obj members) := fun _ _ =>
  exists_compiled (identify_unidentified unidentified) (buildable.mono fun _ compiles _ => compiles _ _)

end Fragment

namespace Json.Plain

open Fragment

variable {draft : Draft} {source : Origin} {outer : Site} {schema : Json} {members : Members} {f : Fragment}

theorem site_eq (plain : schema.Plain draft) (compiled : Compiled draft source outer schema f) : f.site = outer := by
  cases plain with
  | bool b => rw [compiled_bool.mp compiled]
  | obj _ unidentified =>
    obtain ⟨names, identified, -⟩ := (compiled_obj.mp compiled).identified
    rw [identify_unidentified unidentified] at identified
    cases identified
    rfl

theorem reference?_eq_none (plain : schema.Plain draft) (compiled : Compiled draft source outer schema f) :
    f.reference? draft = none := by
  rw [Fragment.reference?, compiled.schema_eq, List.findSome?_eq_none_iff]
  intro keyword _
  cases plain with
  | bool b => simp [Json.stringMember?, Json.member?]
  | obj unreferring =>
    by_cases defined : draft.hasReference keyword = true
    · simp [defined, unreferring keyword defined]
    · simp [defined]

theorem of_step (plain : (Json.obj members).Plain draft) {pointer : Pointer} {slot : Slot} {sub : Json}
    (step : .child slot sub ∈ steps draft pointer members) : sub.Plain draft := by
  cases plain with
  | obj _ _ _ below =>
    refine below (slot, sub) ?_
    rw [@subschemas_eq _ pointer]
    exact List.mem_filterMap.mpr ⟨_, step, rfl⟩

/-- The children of a plain schema are compiled from plain schemas. -/
theorem child (plain : (Json.obj members).Plain draft) (compiled : Compiled draft source outer (.obj members) f)
    {child : Fragment} (has : f.HasChild child) :
    ∃ slot sub, sub.Plain draft ∧ Compiled draft source (f.site.below (Slot.segments slot)) sub child := by
  obtain ⟨slot, inside⟩ := has
  obtain ⟨⟨_, sub⟩, listed, rfl, compiled⟩ := exists_left (compiled_obj.mp compiled).subschemas inside
  cases plain with
  | obj _ _ _ below => exact ⟨_, sub, below _ listed, compiled⟩

theorem location_lt_of_hasChild (plain : schema.Plain draft) (compiled : Compiled draft source outer schema f)
    {child : Fragment} (has : f.HasChild child) : ∃ outer' sub, sub.Plain draft ∧ Compiled draft source outer' sub child ∧
      f.location.length < child.location.length := by
  rcases compiled.bool_or_obj with ⟨b, rfl⟩ | ⟨members, rfl⟩
  · obtain ⟨slot, inside⟩ := has
    rw [compiled_bool.mp compiled] at inside
    cases inside
  · obtain ⟨slot, sub, plain, compiled⟩ := plain.child compiled has
    refine ⟨_, sub, plain, compiled, ?_⟩
    rw [Fragment.location, Fragment.location, plain.site_eq compiled]
    exact f.site.location_lt slot

/-- All that is below a fragment of a plain schema has a longer location. -/
theorem location_lt (plain : schema.Plain draft) (compiled : Compiled draft source outer schema f) {d : Fragment}
    (above : f.IsAbove d) : f.location.length < d.location.length := by
  induction above using Relation.TransGen.head_induction_on generalizing schema source outer with
  | single has =>
    obtain ⟨-, -, -, -, longer⟩ := plain.location_lt_of_hasChild compiled has
    exact longer
  | head has _ ih =>
    obtain ⟨_, sub, plain, compiled, longer⟩ := plain.location_lt_of_hasChild compiled has
    exact longer.trans (ih plain compiled)

/-- What compiles somewhere compiles everywhere. -/
theorem compiles (plain : schema.Plain draft) (compiled : Compiled draft source outer schema f) :
    Compiles draft schema := by
  induction plain generalizing source outer f with
  | bool b => exact fun source outer => ⟨_, compiled_bool.mpr rfl⟩
  | obj unreferring unidentified evaluated below ih =>
    have made := compiled_obj.mp compiled
    refine compiles_obj unidentified (made.mono fun slot sub g step compiled => ih (slot, sub) ?_ compiled).buildable
    rw [subschemas_eq]
    exact List.mem_filterMap.mpr ⟨_, step, rfl⟩

end Json.Plain

/-- A plain schema that compiles. -/
structure Json.PlainSchema (draft : Draft) (schema : Json) : Prop where
  plain : schema.Plain draft
  compiles : Fragment.Compiles draft schema

namespace Json.PlainSchema

open Fragment

variable {draft : Draft} {members : Members}

theorem bool (b : Bool) : PlainSchema draft (.bool b) :=
  ⟨.bool b, fun _ _ => ⟨_, compiled_bool.mpr rfl⟩⟩

theorem buildable (schema : PlainSchema draft (.obj members)) : Buildable draft members (Compiles draft) := by
  cases plain : schema.plain with
  | obj _ _ _ below =>
    obtain ⟨f, compiled⟩ := schema.compiles (.document 0) (.ofDocument .default)
    refine ((compiled_obj.mp compiled).mono fun slot sub g step compiled => ?_).buildable
    refine (below (slot, sub) ?_).compiles compiled
    rw [subschemas_eq]
    exact List.mem_filterMap.mpr ⟨_, step, rfl⟩

/-- The steps of a plain schema compile plain schemas. -/
theorem step (schema : PlainSchema draft (.obj members)) {step : Step} (inside : step ∈ steps draft .root members) :
    ∃ slot sub, step = .child slot sub ∧ PlainSchema draft sub := by
  obtain ⟨slot, sub, rfl, compiles⟩ := schema.buildable.steps step inside
  exact ⟨slot, sub, rfl, schema.plain.of_step inside, compiles⟩

/-- The subschemas of a plain schema are plain schemas. -/
theorem below (schema : PlainSchema draft (.obj members)) {entry : Slot × Json}
    (inside : entry ∈ subschemas draft members) : PlainSchema draft entry.2 := by
  obtain ⟨step, listed, made⟩ := List.mem_filterMap.mp inside
  obtain ⟨slot, sub, rfl, plain⟩ := schema.step listed
  cases made
  exact plain

/-- An object whose steps compile plain schemas is one. -/
theorem of_steps (unreferring : ∀ keyword : ReferenceKeyword, draft.hasReference keyword = true →
      (Json.obj members).stringMember? keyword.name = none)
    (unidentified : (Json.obj members).stringMember? draft.idKeyword = none)
    (evaluated : ∀ name ∈ ["unevaluatedItems", "unevaluatedProperties"], members.lookup name = none)
    (typed : checkTypes .root members = .ok ()) (pattern : ∃ pattern, patternOf .root members = .ok pattern)
    (sound : ∀ step ∈ steps draft .root members, ∃ slot sub, step = .child slot sub ∧ PlainSchema draft sub) :
    PlainSchema draft (.obj members) where
  plain := by
    refine .obj unreferring unidentified evaluated fun entry inside => ?_
    obtain ⟨step, listed, made⟩ := List.mem_filterMap.mp inside
    obtain ⟨slot, sub, rfl, schema⟩ := sound step listed
    cases made
    exact schema.plain
  compiles := compiles_obj unidentified ⟨typed, pattern, fun step inside =>
    have ⟨slot, sub, made, schema⟩ := sound step inside
    ⟨slot, sub, made, schema.compiles⟩⟩

end Json.PlainSchema
end JsonSchema
