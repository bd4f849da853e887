import JsonSchema.Proofs.Node.Properties
import JsonSchema.Proofs.Node.Walk
import JsonSchema.Proofs.Reduction.Acceptance
import JsonSchema.Proofs.Reduction.Nesting

/-!
# Navigation through data that are accepted

A key is looked up among the properties and among the items of a fragment, whether the value is an
object or an array. Where no schema for items takes a member and no schema for members takes an item,
the key of an accepted value leads to a schema that the validator has applied to the part under the key,
so the part is accepted there.
-/

namespace JsonSchema

/-! ## Schemas that are applied to parts -/

namespace Fragment

variable {draft : Draft} {source : Origin} {outer : Site} {own : Members} {f child : Fragment} {name : String}

/-- The schemas for a fragment's keys are those for the kind of the value: a member whose name reads as a position has
a schema as a member, or the fragment has none for items, and no schema for members applies to the item of a position. -/
def TellsApart (f : Fragment) (key : String) : Json → Prop
  | .obj _ =>
    (∃ schema, f.AppliesTo key schema) ∨ Pointer.readIndex? key = none ∨ f.tupleItems = [] ∧ f.restItems? = none
  | .arr _ => ∀ schema, ¬ f.AppliesTo key schema
  | _ => True

theorem tellsApart_of_memberless (noProperties : f.properties = []) (noPatterns : f.patternProperties = [])
    (free : f.additionalProperties? = none) (key : String) (items : List Json) : f.TellsApart key (.arr items) := by
  rintro schema (inside | ⟨inside, -⟩ | ⟨found, -⟩)
  · exact absurd (noProperties ▸ inside) List.not_mem_nil
  · exact absurd (noPatterns ▸ inside) List.not_mem_nil
  · cases free.symm.trans found

theorem has_of_mem_entries {keyword : String} {entry : String × Json} (inside : entry ∈ own.entries keyword) :
    own.has keyword = true := by
  unfold Members.entries at inside
  cases found : own.lookup keyword with
  | some value => rw [Members.has, found, Option.isSome_some]
  | none =>
    rw [found] at inside
    cases inside

theorem FromObject.has_properties (made : FromObject draft source outer own (Compiled draft source) f)
    (inside : (name, child) ∈ f.properties) : own.has "properties" = true := by
  have entry := List.mem_map_of_mem (f := fun entry : String × Fragment => (entry.1, entry.2.schema)) inside
  rw [made.properties_schemas] at entry
  exact has_of_mem_entries entry

theorem FromObject.has_patternProperties (made : FromObject draft source outer own (Compiled draft source) f) {regex : Regex}
    (inside : (regex, child) ∈ f.patternProperties) : own.has "patternProperties" = true := by
  have entry := List.mem_map_of_mem (f := fun entry : Regex × Fragment => (entry.1, entry.2.schema)) inside
  rw [made.patternProperties_schemas] at entry
  obtain ⟨written, listed, -⟩ := List.mem_filterMap.mp entry
  exact has_of_mem_entries listed

/-- Where the keyword for items is absent there are no schemas for items. -/
theorem FromObject.itemless (made : FromObject draft source outer own (Compiled draft source) f)
    (absent : Keyword.items.isPresent draft own = false) : f.tupleItems = [] ∧ f.restItems? = none := by
  have nothing : own.lookup (tupleName draft own) = none := by
    rcases tupleName_cases draft own with ⟨⟨newer, has⟩, -⟩ | ⟨-, tuple, -⟩
    · simp [Keyword.isPresent, newer, has] at absent
    · rw [tuple, ← Option.not_isSome_iff_eq_none]
      intro has
      simp [Keyword.isPresent, Members.has, has] at absent
  have parts : itemParts draft own = ([], none) := by rw [itemParts, nothing]
  refine ⟨List.map_eq_nil_iff.mp (made.tupleItems_schemas.trans ?_),
    Option.map_eq_none_iff.mp (made.restItems?_schema.trans ?_)⟩
  · rw [parts]
  · rw [parts]

end Fragment

namespace Visit

/-- The validator applies to an item the schema to which its position leads. -/
theorem checkItem_eq (visit : Visit) (item : Json) (index : Nat) : visit.checkItem item index =
    match Node.itemSchema? visit.fragment index with
    | .ok (some schema) => visit.validate schema item (visit.pointer.item index)
    | .ok none => some []
    | .error _ => some [visit.violationAt .additionalItems (visit.pointer.item index) item [("index", .ofNat index)]] := by
  unfold checkItem Node.itemSchema?
  cases visit.fragment.tupleItems[index]? with
  | some schema => rfl
  | none =>
    cases visit.fragment.restItems? with
    | none => rfl
    | some rest =>
      dsimp only
      split <;> rfl

end Visit

namespace Context

variable {context : Context} {judge : Judge} {f child : Fragment} {members : Members} {items : List Json}
  {pointer : Pointer} {scope : Scope} {key : String} {value : Json}

/-- A schema that applies to a member of an accepted object accepts the member. -/
theorem validate_of_appliesTo (compiled : f.IsCompiled context.draft)
    (accepted : context.validateSettled judge f (.obj members) pointer scope = some [])
    (present : members.lookup key = some value) (applies : f.AppliesTo key child) :
    judge.validate child value (pointer.join key) scope = some [] := by
  obtain ⟨source, outer, compiled⟩ := compiled
  rcases compiled.bool_or_obj with ⟨b, same⟩ | ⟨own, same⟩
  · rw [same, Fragment.compiled_bool] at compiled
    rw [compiled] at applies
    cases applies with
    | property inside | pattern inside | additional inside => cases inside
  rw [same] at compiled
  have made := Fragment.compiled_obj.mp compiled
  have checked {keyword : Keyword} (oldest : keyword.introducedIn = .draft4) :=
    context.check_of_accepted same accepted (context.draft.knows_of_oldest oldest)
  cases applies with
  | property inside =>
    have checks := gather_eq_nil.mp (@checked .properties rfl (made.has_properties inside)) (key, child) inside
    simpa only [present, Visit.validate] using checks
  | @pattern regex _ inside matched =>
    have each := gather_eq_nil.mp (@checked .patternProperties rfl (made.has_patternProperties inside))
      (key, value) (mem_of_lookup present)
    have checks := gather_eq_nil.mp each (regex, child) inside
    simpa only [matched, if_true, Visit.validate] using checks
  | additional found undeclared =>
    have checks := @checked .additionalProperties rfl (made.has_additionalProperties found)
    simp only [Visit.check, Visit.checkAdditionalProperties, found] at checks
    have checks := gather_eq_nil.mp checks (key, value) (mem_of_lookup present)
    simp only [undeclared, Bool.false_eq_true, if_false] at checks
    split at checks
    · cases checks
    · exact checks

/-- An accepted object has no member that is forbidden. -/
theorem not_forbids_of_accepted (compiled : f.IsCompiled context.draft)
    (accepted : context.validateSettled judge f (.obj members) pointer scope = some [])
    (present : members.lookup key = some value) : ¬ f.Forbids key := by
  intro forbids
  obtain ⟨schema, additional, -⟩ := id forbids
  obtain ⟨own, checked, below⟩ := context.exists_check_additionalProperties compiled additional accepted
  have reported := Visit.forbidden_mem_checkAdditionalProperties rfl checked (mem_of_lookup present) forbids
  exact absurd (below _ reported) List.not_mem_nil

/-- The schema to which a position of an accepted array leads accepts the item, and no item is forbidden. -/
theorem validate_of_itemSchema? (compiled : f.IsCompiled context.draft)
    (accepted : context.validateSettled judge f (.arr items) pointer scope = some []) {index : Nat}
    (found : items[index]? = some value) : ∃ schema?, Node.itemSchema? f index = .ok schema? ∧
      ∀ child, schema? = some child → judge.validate child value (pointer.item index) scope = some [] := by
  have checks : (Visit.mk context judge f (.arr items) pointer scope).checkItem value index = some [] := by
    obtain ⟨source, outer, compiled⟩ := compiled
    have itemless (none : f.tupleItems = [] ∧ f.restItems? = .none) :
        (Visit.mk context judge f (.arr items) pointer scope).checkItem value index = some [] := by
      simp [Visit.checkItem, none]
    rcases compiled.bool_or_obj with ⟨b, same⟩ | ⟨own, same⟩
    · rw [same, Fragment.compiled_bool] at compiled
      exact itemless (by rw [compiled]; exact ⟨rfl, rfl⟩)
    · rw [same] at compiled
      cases present : Keyword.items.isPresent context.draft own with
      | false => exact itemless ((Fragment.compiled_obj.mp compiled).itemless present)
      | true =>
        have checked : (Visit.mk context judge f (.arr items) pointer scope).checkItems = some [] :=
          context.check_of_accepted same accepted (context.draft.knows_of_oldest rfl) present
        exact gather_eq_nil.mp checked (value, index) (List.mem_zipIdx_iff_getElem?.mpr found)
  rw [Visit.checkItem_eq] at checks
  cases leads : Node.itemSchema? f index with
  | error rest =>
    rw [leads] at checks
    cases checks
  | ok schema? =>
    refine ⟨schema?, rfl, fun child same => ?_⟩
    rw [leads, same] at checks
    exact checks

end Context

namespace Node

variable {node : Node} {f child : Fragment} {data value : Json} {key : String}

theorem schemaFor_of_propertySchema? (found : propertySchema? f key = some child) (data : Option Json) (pointer : Pointer) :
    schemaFor f key data pointer = .ok (some child) := by
  simp only [schemaFor, found]

/-- A key for which there is neither a schema nor a ban leads where its position does. -/
theorem schemaFor_of_undeclared (undeclared : propertySchema? f key = none) (free : f.additionalProperties? = none)
    {child? : Option Fragment}
    (item : ∀ index, Pointer.readIndex? key = some index → itemSchema? f index = .ok child?)
    (unread : Pointer.readIndex? key = none → child? = none) (data : Option Json) (pointer : Pointer) :
    schemaFor f key data pointer = .ok child? := by
  cases position : Pointer.readIndex? key with
  | none => simp [schemaFor, undeclared, position, unread position, free]
  | some index =>
    have leads := item index position
    cases child? <;> simp [schemaFor, undeclared, position, leads, Except.mapError, free]

/-- In a fragment that accepts a value and tells members and items apart, the key of a part leads to a schema that accepts
the part, if it leads anywhere. -/
theorem exists_schemaFor_of_accepted {context : Context} {judge : Judge} {pointer : Pointer} {scope : Scope}
    (compiled : f.IsCompiled context.draft) (accepted : context.validateSettled judge f data pointer scope = some [])
    (part : part? data key = some value) (apart : f.TellsApart key data) (place : Pointer) : ∃ child?,
      schemaFor f key (some data) place = .ok child? ∧
        ∀ child, child? = some child → ∃ inner, judge.validate child value inner scope = some [] := by
  cases data with
  | obj members =>
    have present : members.lookup key = some value := part
    cases found : propertySchema? f key with
    | some child =>
      refine ⟨_, schemaFor_of_propertySchema? found _ _, fun _ same => ?_⟩
      cases same
      exact ⟨_, Context.validate_of_appliesTo compiled accepted present (appliesTo_of_propertySchema? found)⟩
    | none =>
      obtain ⟨undeclared, free | forbids⟩ := propertySchema?_eq_none found
      · refine ⟨none, schemaFor_of_undeclared found free (fun index position => ?_) (fun _ => rfl) _ _, nofun⟩
        rcases apart with ⟨schema, applies⟩ | unread | ⟨noTuple, noRest⟩
        · exact absurd applies (Fragment.not_appliesTo_of_undeclared undeclared free)
        · rw [unread] at position
          cases position
        · simp [itemSchema?, noTuple, noRest]
      · exact absurd forbids (Context.not_forbids_of_accepted compiled accepted present)
  | arr items =>
    have found : propertySchema? f key = none := by
      cases found : propertySchema? f key with
      | some schema => exact absurd (appliesTo_of_propertySchema? found) (apart schema)
      | none => rfl
    have free : f.additionalProperties? = none := by
      obtain ⟨-, free | ⟨schema, additional, -, undeclared⟩⟩ := propertySchema?_eq_none found
      · exact free
      · exact absurd (.additional additional undeclared) (apart schema)
    obtain ⟨index, position, listed⟩ := Option.bind_eq_some_iff.mp part
    obtain ⟨child?, leads, accepts⟩ := Context.validate_of_itemSchema? compiled accepted listed
    refine ⟨child?, schemaFor_of_undeclared found free (fun other same => ?_) (fun unread => ?_) _ _,
      fun child same => ⟨_, accepts child same⟩⟩
    · rw [position] at same
      cases same
      exact leads
    · rw [position] at unread
      cases unread
  | _ => cases part

theorem Bounded.reach_child (bounded : node.Bounded) (settled : node.fragment.reference? node.context.draft = none)
    (has : node.fragment.HasChild child) : (reach node.context child node.scope).Bounded := by
  have own : node.context.settle node.fragment [] = node.fragment := Context.settle_eq settled
  rw [← own] at has
  obtain ⟨steps, bound, acyclic⟩ := bounded.acyclic.child [] has
  exact {
    index := bounded.index
    fragment := bounded.fragment.child (own ▸ has)
    scope := bounded.scope
    idle := bounded.idle
    acyclic := acyclic.mono (Nat.le_of_lt (bound ▸ Nat.lt_succ_self steps)) (List.nil_subset _)
    room := fun g way => bounded.room g (.deeper [] has way) }

/-- In a bounded node without reference that takes a value and tells members and items apart, the key of a part leads to a
schema that takes the part, if it leads anywhere. -/
theorem Bounded.exists_schemaFor (bounded : node.Bounded) (settled : node.fragment.reference? node.context.draft = none)
    (takes : node.Takes data) (part : part? data key = some value) (apart : node.fragment.TellsApart key data)
    (place : Pointer) : ∃ child?, schemaFor node.fragment key (some data) place = .ok child? ∧
      ∀ child, child? = some child → (reach node.context child node.scope).Bounded ∧
        (reach node.context child node.scope).Takes value := by
  have inside : node.context.inside? node.fragment (node.scope.enterAt node.fragment .root) = _ :=
    Context.inside?_of_settled settled
  obtain ⟨depth, answered⟩ := takes
  cases depth with
  | zero => cases answered
  | succ depth =>
    have accepted : node.context.validateStep (node.context.judge depth) node.fragment data .root node.scope = some [] :=
      Judge.answer_check.mp answered
    rw [Context.validateStep_of_inside? (bounded.idle.not_isChecking _ _) inside] at accepted
    obtain ⟨child?, leads, accepts⟩ := exists_schemaFor_of_accepted bounded.fragment accepted part apart place
    refine ⟨child?, leads, fun child same => ?_⟩
    subst same
    have has := hasChild_of_schemaFor leads
    obtain ⟨inner, accepted⟩ := accepts child rfl
    refine ⟨bounded.reach_child settled has, depth, Judge.answer_check.mpr ?_⟩
    obtain ⟨steps, -, acyclic⟩ := bounded.acyclic.child node.scope ((Context.settle_eq settled).symm ▸ has)
    have entered : (node.scope.enterAt node.fragment .root).ChecksWithin
        ((node.context.settle node.fragment node.scope).location :: node.fragment.location :: []) :=
      ((bounded.idle.checksWithin []).enterAt _ _).mono (List.subset_cons_self _ _)
    rw [acyclic.validate_alike entered (bounded.idle.checksWithin _), Context.validate_moved bounded.idle] at accepted
    obtain ⟨found, answer, none⟩ := Option.map_eq_some_iff.mp accepted
    rwa [List.map_eq_nil_iff.mp none] at answer

/-- The place of the data tells only where it is reported that a key is forbidden. -/
theorem getAt_moved (idle : node.scope.Idle) (key : String) (data : Option Json) (p : Pointer) :
    node.getAt key data p = (node.get key data).map (Except.mapError (Violation.moved p)) := by
  have moved := @Context.reduce_moved node.context node.fragment _ idle p (node.context.depthFor (.ofOption data)) data
  simp only [get, getAt, Context.reduce, moved]
  cases (node.context.judge (node.context.depthFor (.ofOption data))).reduce ⟨data, .root, []⟩ node.fragment node.scope with
  | none => rfl
  | some answer =>
    cases answer with
    | error violation => rfl
    | ok reduced =>
      have same := schemaFor_moved reduced.fragment key data p .root
      rw [Pointer.append_root] at same
      simp only [Option.map_some, Except.mapError, Option.bind_eq_bind, Option.bind_some, same]
      cases schemaFor reduced.fragment key data .root <;> rfl

/-! ## Ways -/

/-- On the way along keys of a value, what is reduced is folded in harmony and tells members and items apart. -/
def IsClear (node : Node) (data : Json) : List String → Prop
  | [] => node.FoldsInHarmony data
  | key :: rest => node.FoldsInHarmony data ∧
      (∀ reduced, node.reduce data = some (.ok reduced) → reduced.fragment.TellsApart key data) ∧
      ∀ child value, node.get key (some data) = some (.ok (some child)) → part? data key = some value →
        child.IsClear value rest

/-- The key of a part of an accepted value leads to a bounded node that accepts the part, if it leads anywhere. -/
theorem Bounded.get (bounded : node.Bounded) (byValue : node.context.formats.ByValue) (takes : node.Takes data)
    (folds : node.FoldsInHarmony data)
    (apart : ∀ reduced, node.reduce data = some (.ok reduced) → reduced.fragment.TellsApart key data)
    (part : part? data key = some value) : ∃ child?, node.get key (some data) = some (.ok child?) ∧
      ∀ child, child? = some child → child.context = node.context ∧ child.Bounded ∧ child.Takes value := by
  obtain ⟨reduced, reduces, settled, kept⟩ := bounded.exists_reduced byValue takes folds
  have rests := Context.rests_of_reduce bounded.index rfl bounded.fragment bounded.scope reduces
  have apart : reduced.fragment.TellsApart key data := by
    refine apart (ofReduced node.context reduced) ?_
    rw [reduce, reduceAt, settle_eq_map, reduces]
    rfl
  obtain ⟨child?, leads, below⟩ := settled.exists_schemaFor rests.1 kept part apart .root
  refine ⟨child?.map (reach node.context · reduced.scope), ?_, ?_⟩
  · have leads : schemaFor reduced.fragment key (some data) .root = .ok child? := leads
    simp only [Node.get, getAt, reduces, Option.bind_eq_bind, Option.bind_some, leads]
    rfl
  · intro child same
    obtain ⟨schema, listed, rfl⟩ := Option.map_eq_some_iff.mp same
    exact ⟨rfl, below schema listed⟩

/-- A segment of a pointer that leads to a part is the key of the part. -/
theorem part?_of_step? {segment : String} (leads : Pointer.step? data segment = some value) :
    part? data segment = some value := by
  cases data with
  | arr items =>
    obtain ⟨index, position, listed⟩ := Option.bind_eq_some_iff.mp leads
    refine Option.bind_eq_some_iff.mpr ⟨index, ?_, listed⟩
    unfold Pointer.strictIndex? at position
    split at position
    · cases position
    · exact position
  | _ => exact leads

/-- A clear way through a value that a bounded node takes comes to an end, at a bounded node that takes the part there,
if it comes to one. -/
theorem Bounded.walkFrom {segments : List String} {node : Node} {data : Json} (bounded : node.Bounded)
    (byValue : node.context.formats.ByValue) (takes : node.Takes data) (clear : node.IsClear data segments)
    (leads : segments.foldlM Pointer.step? data = some value) (place : Pointer) : ∃ found,
      node.walkFrom (some data) place segments = some (.ok found) ∧
        ∀ last, found = some last → last.Bounded ∧ last.Takes value := by
  induction segments generalizing node data place with
  | nil =>
    obtain rfl : data = value := Option.some.inj leads
    obtain ⟨reduced, reduces, settled, kept⟩ := bounded.exists_reduced byValue takes clear
    have moved : node.context.reduce node.fragment (some data) place node.scope = some (.ok reduced) := by
      rw [Context.reduce, Context.reduce_moved bounded.idle]
      rw [Context.reduce] at reduces
      rw [reduces]
      rfl
    refine ⟨_, walkFrom_nil_of_ok moved, fun last same => ?_⟩
    cases same
    exact ⟨settled, kept⟩
  | cons key rest ih =>
    obtain ⟨folds, apart, below⟩ := clear
    obtain ⟨middle, first, later⟩ := Option.bind_eq_some_iff.mp leads
    have part := part?_of_step? first
    obtain ⟨child?, goes, children⟩ := bounded.get byValue takes folds apart part
    have moved : node.getAt key (some data) place = some (.ok child?) := by
      rw [getAt_moved bounded.idle, goes]
      rfl
    cases child? with
    | none =>
      refine ⟨none, ?_, by simp⟩
      simp only [Node.walkFrom, moved]
      rfl
    | some child =>
      obtain ⟨same, bounded, takes⟩ := children child rfl
      obtain ⟨found, walks, ends⟩ := ih bounded (same ▸ byValue) takes (below child middle goes part) later (place.join key)
      refine ⟨found, ?_, ends⟩
      have onward : (some data).bind (part? · key) = some middle := part
      simp only [Node.walkFrom, moved, onward]
      exact walks

end Node

/-- Navigation through data that a schema accepts ends with no violation, along every pointer to a part of them whose
way is clear, and the part is accepted by the node it leads to: as long as no way along references and subschemas comes
back, or is longer than the index has room for. -/
theorem accepted_data_navigated {compiler : Compiler} {schema data value : Json} {root : Node}
    (compiled : compiler.compile schema = .ok root)
    (acyclic : root.context.Acyclic (root.context.index.capacity + 3) [] root.fragment)
    (byValue : compiler.formats.ByValue) (accepted : root.validate data = some []) {pointer : Pointer}
    (leads : pointer.resolve? data = some value) (clear : root.IsClear data pointer.segments) :
    ∃ found, root.walk pointer (some data) = some (.ok found) ∧
      ∀ node, found = some node → node.validate value = some [] := by
  have bounded := Node.bounded_of_compile compiled acyclic
  obtain ⟨-, formats, -⟩ := Compiler.root_of_compile compiled
  have takes := bounded.validate_eq_nil_iff.mp accepted
  obtain ⟨found, walks, ends⟩ := bounded.walkFrom (formats ▸ byValue) takes clear leads .root
  refine ⟨found, walks, fun node same => ?_⟩
  obtain ⟨last, accepts⟩ := ends node same
  exact last.validate_eq_nil_iff.mpr accepts

/-- A list of objects that are composed of bounds. -/
def boundedObjects : Json := .obj [("$defs", boundDefinitions), ("items", .obj [("$ref", .str "#/$defs/bounded")])]

/-- An object of `boundedObjects`. -/
def smallObject : Json := .obj [("a", .ofNat 1)]

theorem boundedObjects_static : boundedObjects.Static := by
  simp [Json.Static, boundedObjects, boundDefinitions, Json.refersStatically_iff, Json.stringMember?, Json.member?,
    List.lookup_cons, List.lookup_nil, Json.ofNat, Json.ofStrings]

/-- The walk to the first object ends at what the schema of the items is reduced to, and this accepts the object. -/
theorem boundedObjects_navigated : ∃ root node, Compiler.standard.compile boundedObjects = .ok root ∧
    root.validate (.arr [smallObject]) = some [] ∧
    root.walk ⟨["0"]⟩ (some (.arr [smallObject])) = some (.ok (some node)) ∧ node.validate smallObject = some [] := by
  have computed : ((Compiler.standard.compile boundedObjects).toOption.bind fun root => do
      let accepts ← root.accepts (.arr [smallObject])
      let found ← root.walk ⟨["0"]⟩ (some (.arr [smallObject]))
      return (accepts, (found.toOption.bind id).isSome, (root.fragment.reference? root.context.draft).isNone &&
        (root.fragment.reducers root.context.draft).isEmpty && root.context.waysPass (fun _ => true) 3 [] root.fragment,
        root.fragment.children.all fun entry =>
          root.context.waysPass (Fragment.contributesBounds root.context.draft 1) 2 [] entry.2,
        root.fragment.properties.isEmpty && root.fragment.patternProperties.isEmpty &&
          root.fragment.additionalProperties?.isNone)) = some (true, true, true, true, true) := by decide +kernel
  obtain ⟨root, compiled, known⟩ := Option.bind_eq_some_iff.mp computed
  simp only [Option.bind_eq_bind, Option.bind_eq_some_iff, Option.pure_def, Option.some.injEq, Prod.mk.injEq,
    Bool.and_eq_true, List.all_eq_true, List.isEmpty_iff, Option.isNone_iff_eq_none] at known
  obtain ⟨_, accepts, answer, walks, rfl, ends, ⟨⟨settled, idle⟩, passes⟩, items, ⟨noProperties, noPatterns⟩, free⟩ := known
  have compiled := ok_of_toOption compiled
  have accepted : root.validate (.arr [smallObject]) = some [] := verdict_eq_true.mp accepts
  obtain ⟨static, own⟩ := Compiler.static_of_standard boundedObjects_static compiled
  obtain ⟨acyclic, -⟩ := Context.acyclic_of_waysPass static own passes
  have acyclic : root.context.Acyclic (root.context.index.capacity + 3) [] root.fragment :=
    acyclic.mono (Nat.le_add_left _ _) (List.Subset.refl _)
  have stays : root.context.reduce root.fragment (some (.arr [smallObject])) .root root.scope =
      some (.ok ⟨root.fragment, root.scope.enter root.fragment, none⟩) :=
    Context.reduce_of_rests ⟨settled, idle⟩ (root.context.depthFor_pos _) _
  have apart (reduced : Node) (reduces : root.reduce (.arr [smallObject]) = some (.ok reduced)) :
      reduced.fragment.TellsApart "0" (.arr [smallObject]) := by
    obtain ⟨result, again, rfl⟩ := Node.settle_eq_ok reduces
    cases stays.symm.trans again
    exact Fragment.tellsApart_of_memberless noProperties noPatterns free _ _
  have below (child : Node) (value : Json) (found : root.get "0" (some (.arr [smallObject])) = some (.ok (some child)))
      (part : Node.part? (.arr [smallObject]) "0" = some value) : child.FoldsInHarmony value := by
    obtain ⟨result, item, again, leads, rfl⟩ := Node.getAt_eq_ok found
    cases stays.symm.trans again
    cases part
    obtain ⟨slot, inside⟩ := Node.hasChild_of_schemaFor leads
    obtain ⟨-, parts, harmonious⟩ := @Node.harmonious_of_waysPass (.reach root.context item _) static
      (own.child ⟨slot, inside⟩) _ _ (items _ inside) smallObject
    exact .inr ⟨parts, harmonious, .inl ⟨_, rfl⟩⟩
  have whole : root.FoldsInHarmony (.arr [smallObject]) := by
    left
    rw [Node.target, Context.settle_eq settled]
    exact idle
  obtain ⟨found, goes, accepts⟩ := @accepted_data_navigated _ _ _ _ _ compiled acyclic Formats.standard_byValue accepted
    ⟨["0"]⟩ rfl ⟨whole, apart, below⟩
  cases walks.symm.trans goes
  obtain ⟨node, rfl⟩ := Option.isSome_iff_exists.mp ends
  exact ⟨root, node, compiled, accepted, walks, accepts node rfl⟩

/-! ## Members taken for items -/

/-- Arrays have no items; nothing is said about objects. -/
def noItems : Json := .obj [("items", .bool false)]

/-- Whether the root of a schema accepts data, and the code of the violation that ends the way along a key. -/
def acceptanceAndRejection? (schema data : Json) (key : String) : Option (Bool × ViolationCode) := do
  let root ← (Compiler.standard.compile schema).toOption
  let accepted ← root.accepts data
  match ← root.walk ⟨[key]⟩ (some data) with
  | .ok _ => none
  | .error violation => return (accepted, violation.code)

/-- An object with a member `0` is accepted, but its member is taken for an item. -/
theorem member_taken_for_item : ∃ root violation, Compiler.standard.compile noItems = .ok root ∧
    root.validate (.obj [("0", .ofNat 1)]) = some [] ∧
    root.walk ⟨["0"]⟩ (some (.obj [("0", .ofNat 1)])) = some (.error violation) ∧
    violation.code = .additionalItems := by
  have computed : acceptanceAndRejection? noItems (.obj [("0", .ofNat 1)]) "0" = some (true, .additionalItems) := by
    decide +kernel
  simp only [acceptanceAndRejection?, Option.bind_eq_bind, Option.bind_eq_some_iff] at computed
  obtain ⟨root, compiled, accepted, validates, answer, walks, same⟩ := computed
  cases answer with
  | ok found => cases same
  | error violation =>
    obtain ⟨rfl, code⟩ := Prod.mk.inj (Option.some.inj same)
    exact ⟨root, violation, ok_of_toOption compiled, verdict_eq_true.mp validates, walks, code⟩

end JsonSchema
