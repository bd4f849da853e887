import JsonSchema.Proofs.Check.Relocation
import JsonSchema.Proofs.Check.Reports
import JsonSchema.Proofs.Direct.Subschemas
import JsonSchema.Proofs.Reduction.FixedPoint

/-!
# Members of an object, navigated and checked

A key leads to a schema that the checks of the object apply to its member, or it is refused where the
checks report the member, with the same violation.
-/

namespace JsonSchema

/-! ## The schemas for a member -/

/-- A schema that `properties`, `patternProperties` or `additionalProperties` apply to the member of
a name. -/
inductive Fragment.AppliesTo (f : Fragment) (name : String) : Fragment → Prop where
  | property {schema : Fragment} (own : (name, schema) ∈ f.properties) : AppliesTo f name schema
  | pattern {regex : Regex} {schema : Fragment} (own : (regex, schema) ∈ f.patternProperties)
      (matched : regex.matchesIn name = true) : AppliesTo f name schema
  | additional {schema : Fragment} (own : f.additionalProperties? = some schema)
      (undeclared : f.declares name = false) : AppliesTo f name schema

/-- The fragment forbids the member of a name: it is not declared, and additional ones are `false`. -/
def Fragment.Forbids (f : Fragment) (name : String) : Prop :=
  ∃ schema, f.additionalProperties? = some schema ∧ schema.isBool false = true ∧ f.declares name = false

namespace Fragment

variable {f schema : Fragment} {name : String}

theorem declares_iff_exists : f.declares name = true ↔
    (∃ schema, (name, schema) ∈ f.properties) ∨
      ∃ regex schema, (regex, schema) ∈ f.patternProperties ∧ regex.matchesIn name = true := by
  have own : (f.property? name).isSome = true ↔ ∃ schema, (name, schema) ∈ f.properties := by
    constructor
    · intro present
      obtain ⟨schema, found⟩ := Option.isSome_iff_exists.mp present
      exact ⟨schema, mem_of_lookup found⟩
    · rintro ⟨schema, inside⟩
      exact List.lookup_isSome_iff.mpr ⟨_, inside, by simp⟩
  simp [declares, own]

/-- Either the fragment has a schema for the member, or none of the keywords says anything of it. -/
theorem not_appliesTo_of_undeclared (undeclared : f.declares name = false) (free : f.additionalProperties? = none) :
    ¬ f.AppliesTo name schema := by
  have undeclared := mt declares_iff_exists.mpr (Bool.eq_false_iff.mp undeclared)
  rintro (own | ⟨own, matched⟩ | own)
  · exact undeclared (.inl ⟨_, own⟩)
  · exact undeclared (.inr ⟨_, _, own, matched⟩)
  · rw [free] at own
    cases own

theorem FromObject.has_additionalProperties {draft : Draft} {source : Origin} {outer : Site} {own : Members}
    (made : FromObject draft source outer own (Compiled draft source) f) (found : f.additionalProperties? = some schema) :
    own.has "additionalProperties" = true := by
  rw [Members.has, ← made.additionalProperties?_schema, found]
  rfl

end Fragment

namespace Node

variable {f schema : Fragment} {key : String}

theorem appliesTo_of_propertySchema? (found : propertySchema? f key = some schema) : f.AppliesTo key schema := by
  unfold propertySchema? at found
  cases own : f.property? key with
  | some property =>
    rw [own] at found
    cases found
    exact .property (mem_of_lookup own)
  | none =>
    cases pattern : f.patternProperties.find? fun entry => entry.1.matchesIn key with
    | some entry =>
      rw [own, pattern] at found
      cases found
      have matched := List.find?_some (p := fun entry : Regex × Fragment => entry.1.matchesIn key) pattern
      exact .pattern (List.mem_of_find?_eq_some pattern) matched
    | none =>
      rw [own, pattern] at found
      obtain ⟨additional, allowed⟩ := Option.filter_eq_some_iff.mp found
      rw [Bool.and_eq_true, Bool.not_eq_true', Bool.not_eq_true'] at allowed
      exact .additional additional allowed.2

/-- Where navigation has no schema for a key, the key is not declared and additional members are
either free or forbidden. -/
theorem propertySchema?_eq_none (none : propertySchema? f key = .none) :
    f.declares key = false ∧ (f.additionalProperties? = .none ∨ f.Forbids key) := by
  unfold propertySchema? at none
  cases own : f.property? key with
  | some property =>
    rw [own] at none
    cases none
  | none =>
    cases pattern : f.patternProperties.find? fun entry => entry.1.matchesIn key with
    | some entry =>
      rw [own, pattern] at none
      cases none
    | none =>
      rw [own, pattern] at none
      have undeclared : f.declares key = false := by
        simpa [Fragment.declares, own] using List.find?_eq_none.mp pattern
      refine ⟨undeclared, ?_⟩
      cases additional : f.additionalProperties? with
      | none => exact .inl rfl
      | some schema =>
        rw [additional] at none
        have forbidden : schema.isBool false = true := by
          have none : (some schema).filter (fun schema => !schema.isBool false && !f.declares key) = .none := none
          simpa [undeclared] using none
        exact .inr ⟨schema, additional, forbidden, undeclared⟩

theorem propertySchema?_of_forbids (forbids : f.Forbids key) : propertySchema? f key = none := by
  obtain ⟨additional, found, refuses, undeclared⟩ := forbids
  have apart := undeclared
  rw [Fragment.declares, Bool.or_eq_false_iff, Option.isSome_eq_false_iff, Option.isNone_iff_eq_none] at apart
  have unmatched : (f.patternProperties.find? fun entry => entry.1.matchesIn key) = none := by
    simpa using apart.2
  simp [propertySchema?, apart.1, unmatched, found, refuses]

/-- The violation by a member that a fragment forbids. -/
def forbidden (f : Fragment) (pointer : Pointer) (key : String) (value : Json) : Violation :=
  ⟨.noAdditionalProperties, pointer.join key, f.schema, value, [("property", .str key)], []⟩

/-- Without item schemas a key that has no schema is refused just if it is forbidden. -/
theorem schemaFor_of_itemless (noTuple : f.tupleItems = []) (noRest : f.restItems? = none) (data : Option Json)
    (pointer : Pointer) (undeclared : propertySchema? f key = none) : schemaFor f key data pointer =
      if (f.additionalProperties?.any fun schema => schema.isBool false) && !f.declares key then
        .error (rejection .noAdditionalProperties f.schema pointer key data [("property", .str key)])
      else .ok none := by
  have noItem (index : Nat) : itemSchema? f index = .ok none := by
    simp [itemSchema?, noTuple, noRest]
  unfold schemaFor
  cases position : Pointer.readIndex? key <;> simp only [undeclared, noItem, Except.mapError]

/-- What navigation says of the key of a member, in a fragment without item schemas. -/
theorem schemaFor_member {members : Members} {value : Json} (present : members.lookup key = some value)
    (noTuple : f.tupleItems = []) (noRest : f.restItems? = none) (pointer : Pointer) :
    (∃ schema, schemaFor f key (some (.obj members)) pointer = .ok (some schema) ∧ f.AppliesTo key schema ∧
      ¬ f.Forbids key) ∨
    (schemaFor f key (some (.obj members)) pointer = .ok none ∧ (∀ schema, ¬ f.AppliesTo key schema) ∧
      ¬ f.Forbids key) ∨
    (schemaFor f key (some (.obj members)) pointer = .error (forbidden f pointer key value) ∧ f.Forbids key) := by
  cases own : propertySchema? f key with
  | some schema =>
    refine .inl ⟨schema, by simp only [schemaFor, own], appliesTo_of_propertySchema? own, fun forbids => ?_⟩
    rw [propertySchema?_of_forbids forbids] at own
    cases own
  | none =>
    rw [schemaFor_of_itemless noTuple noRest _ pointer own]
    obtain ⟨undeclared, free | forbids⟩ := propertySchema?_eq_none own
    · have unforbidden : ¬ f.Forbids key := by
        rintro ⟨schema, found, -⟩
        rw [free] at found
        cases found
      refine .inr (.inl ⟨?_, fun schema => Fragment.not_appliesTo_of_undeclared undeclared free, unforbidden⟩)
      simp [free]
    · obtain ⟨schema, found, refuses, -⟩ := forbids
      refine .inr (.inr ⟨?_, schema, found, refuses, undeclared⟩)
      have part : part? (.obj members) key = some value := present
      simp [found, refuses, undeclared, rejection, forbidden, part, Json.ofOption]

end Node

/-! ## Members that are reported -/

namespace Visit

variable {visit : Visit} {members : Members} {name : String} {value : Json} {found : List Violation}

/-- The check of additional members reports those that are forbidden, and what their schema finds below. -/
theorem mem_checkAdditionalProperties (data : visit.data = .obj members)
    (answer : visit.checkAdditionalProperties = some found) {v : Violation} (inside : v ∈ found) :
    (∃ name value, (name, value) ∈ members ∧ visit.fragment.Forbids name ∧
      v = Node.forbidden visit.fragment visit.pointer name value) ∨
    ∃ schema value segment own, visit.validate schema value (visit.pointer.join segment) = some own ∧ v ∈ own := by
  unfold checkAdditionalProperties at answer
  rw [data] at answer
  split at answer
  · rename_i _ own schema same additional
    cases same
    obtain ⟨⟨name, value⟩, listed, own, checked, inside⟩ := (mem_gather answer).mp inside
    simp only at checked
    split at checked
    · cases checked
      cases inside
    · rename_i undeclared
      split at checked
      · rename_i refuses
        cases checked
        rw [List.mem_singleton.mp inside]
        exact .inl ⟨name, value, listed, ⟨schema, additional, refuses, by simpa using undeclared⟩, rfl⟩
      · exact .inr ⟨schema, value, name, own, checked, inside⟩
  · cases answer
    cases inside

/-- Every forbidden member is reported. -/
theorem forbidden_mem_checkAdditionalProperties (data : visit.data = .obj members)
    (answer : visit.checkAdditionalProperties = some found) (listed : (name, value) ∈ members)
    (forbids : visit.fragment.Forbids name) : Node.forbidden visit.fragment visit.pointer name value ∈ found := by
  obtain ⟨schema, additional, refuses, undeclared⟩ := forbids
  unfold checkAdditionalProperties at answer
  rw [data, additional] at answer
  refine (mem_gather answer).mpr ⟨(name, value), listed, [_], ?_, List.mem_singleton_self _⟩
  simp only [undeclared, refuses, Bool.false_eq_true, if_false, if_true]
  rfl

end Visit

namespace Context

variable (context : Context) {fragment : Fragment} {members : Members} {pointer : Pointer} {scope : Scope}
  {found : List Violation} {depth : Nat}

/-- The schema for additional members stands in the fragment's, so its keyword is checked. -/
theorem exists_check_additionalProperties {judge : Judge} {schema : Fragment}
    (compiled : fragment.IsCompiled context.draft) (additional : fragment.additionalProperties? = some schema)
    (answer : context.validateSettled judge fragment (.obj members) pointer scope = some found) :
    ∃ own, (Visit.mk context judge fragment (.obj members) pointer scope).checkAdditionalProperties = some own ∧
      ∀ v ∈ own, v ∈ found := by
  obtain ⟨source, outer, compiled⟩ := compiled
  rcases compiled.bool_or_obj with ⟨b, same⟩ | ⟨own, same⟩
  · rw [same, Fragment.compiled_bool] at compiled
    rw [compiled] at additional
    cases additional
  · rw [same] at compiled
    exact context.exists_check same answer .additionalProperties (context.draft.knows_of_oldest rfl)
      ((Fragment.compiled_obj.mp compiled).has_additionalProperties additional)

/-- A member that is not allowed in a part of the object is reported below that part. -/
theorem not_reported_at_member {schema : Fragment} {value : Json} {segment key : String} {own : List Violation} {v : Violation}
    (checked : (context.judge depth).validate schema value (pointer.join segment) scope = some own) (inside : v ∈ own)
    (code : v.code = .noAdditionalProperties) : v.pointer ≠ pointer.join key := by
  intro place
  obtain ⟨below, under⟩ := context.belowIfOfPart_judge depth _ _ _ _ own checked v inside (by rw [code]; rfl)
  have longer := under.length_le
  rw [place] at longer
  simp [Pointer.join] at longer

/-- In a fragment without composition, no other check reports that a member is not allowed. -/
theorem keyword_of_reported {keyword : Keyword} {data : Json} {v : Violation} {key : String}
    (plain : fragment.reducers context.draft = [])
    (reports : (Visit.mk context (context.judge depth) fragment data pointer scope).Reports keyword v)
    (code : v.code = .noAdditionalProperties) (place : v.pointer = pointer.join key) : keyword = .additionalProperties := by
  cases reports with
  | value own =>
    have code : _ = ViolationCode.noAdditionalProperties := code
    subst code
    exact absurd (Keyword.not_isOfPart own) (by decide)
  | part own =>
    have code : _ = ViolationCode.noAdditionalProperties := code
    subst code
    by_contra other
    cases keyword <;> simp [Keyword.partCode?] at own other
  | below checked inside => exact absurd place (context.not_reported_at_member checked inside code)
  | @here reducer _ _ _ _ composed _ _ =>
    have inside : reducer ∈ fragment.reducers context.draft := List.mem_filter.mpr ⟨by cases reducer <;> decide, composed⟩
    rw [plain] at inside
    cases inside

/-- In a fragment without composition, the members that are forbidden are the ones that the check of
the object reports as not allowed. -/
theorem forbidden_iff_reported {key : String} {value : Json} (compiled : fragment.IsCompiled context.draft)
    (plain : fragment.reducers context.draft = []) (distinct : (members.map Prod.fst).Nodup)
    (present : members.lookup key = some value)
    (answer : context.validateSettled (context.judge depth) fragment (.obj members) pointer scope = some found)
    (v : Violation) :
    (v ∈ found ∧ v.code = .noAdditionalProperties ∧ v.pointer = pointer.join key) ↔
      fragment.Forbids key ∧ v = Node.forbidden fragment pointer key value := by
  constructor
  · rintro ⟨inside, code, place⟩
    rcases context.reports_validateSettled answer inside with ⟨invalid, -⟩ | ⟨keyword, -, own, checked, inside, reports⟩
    · rw [invalid] at code
      cases code
    · obtain rfl := context.keyword_of_reported plain reports code place
      rcases Visit.mem_checkAdditionalProperties rfl checked inside with
        ⟨name, value', listed, forbids, rfl⟩ | ⟨schema, value', segment, own, checked, inside⟩
      · obtain rfl : name = key := by simpa [Node.forbidden, Pointer.join] using place
        have same := lookup_of_nodup distinct listed
        rw [present] at same
        cases same
        exact ⟨forbids, rfl⟩
      · exact absurd place (context.not_reported_at_member checked inside code)
  · rintro ⟨forbids, rfl⟩
    obtain ⟨schema, additional, -⟩ := id forbids
    obtain ⟨own, checked, all⟩ := context.exists_check_additionalProperties compiled additional answer
    exact ⟨all _ (Visit.forbidden_mem_checkAdditionalProperties rfl checked (mem_of_lookup present) forbids), rfl, rfl⟩

end Context

namespace Node

variable {node : Node}

theorem getAt_of_rests (rests : node.fragment.Rests node.context.draft) (key : String) (data : Option Json)
    (pointer : Pointer) : node.getAt key data pointer = some ((schemaFor node.fragment key data pointer).map fun schema =>
      schema.map fun schema => reach node.context schema (node.scope.enter node.fragment)) := by
  unfold getAt Context.reduce
  rw [Context.reduce_of_rests rests (Context.depthFor_pos _ _)]
  rfl

/-- Where a node has no reference, no composition and no schemas for items, going to a member of an
object agrees with checking the object. The key is refused exactly if the check reports the member
as not allowed, with the same violation; what it leads to is one of the schemas that apply to the
member; and it leads nowhere only if none does. -/
theorem members_navigated_as_checked {compiler : Compiler} {schema : Json} (handle : node.IsHandle compiler schema)
    (unreferring : node.fragment.reference? node.context.draft = none)
    (plain : node.fragment.reducers node.context.draft = []) (noTuple : node.fragment.tupleItems = [])
    (noRest : node.fragment.restItems? = none) {members : Members} (distinct : (members.map Prod.fst).Nodup)
    {key : String} {value : Json} (present : members.lookup key = some value) (pointer : Pointer) :
    ∃ answer, node.getAt key (some (.obj members)) pointer = some answer ∧
      (∀ found, node.validateAt (.obj members) pointer = some found →
        ∀ v, answer = .error v ↔ v ∈ found ∧ v.code = .noAdditionalProperties ∧ v.pointer = pointer.join key) ∧
      (∀ child, answer = .ok (some child) → node.fragment.AppliesTo key child.fragment) ∧
      (answer = .ok none → ∀ other, ¬ node.fragment.AppliesTo key other) := by
  have sound := handle.sound
  have rests : node.fragment.Rests node.context.draft := ⟨unreferring, plain⟩
  have reported {found : List Violation} (answer : node.validateAt (.obj members) pointer = some found) (v : Violation) :
      (v ∈ found ∧ v.code = .noAdditionalProperties ∧ v.pointer = pointer.join key) ↔
        node.fragment.Forbids key ∧ v = forbidden node.fragment pointer key value := by
    rw [validateAt, Context.validate_of_settled rests.1 sound.idle] at answer
    exact node.context.forbidden_iff_reported sound.fragment plain distinct present answer v
  refine ⟨_, getAt_of_rests rests key _ pointer, ?_⟩
  rcases schemaFor_member present noTuple noRest pointer with
    ⟨own, leads, applies, allowed⟩ | ⟨leads, none, allowed⟩ | ⟨refused, forbids⟩
  · rw [leads]
    refine ⟨fun found answer v => ?_, ?_, nofun⟩
    · rw [reported answer]
      exact iff_of_false nofun fun ⟨forbids, _⟩ => allowed forbids
    · rintro child ⟨⟩
      exact applies
  · rw [leads]
    refine ⟨fun found answer v => ?_, nofun, fun _ => none⟩
    rw [reported answer]
    exact iff_of_false nofun fun ⟨forbids, _⟩ => allowed forbids
  · rw [refused]
    refine ⟨fun found answer v => ?_, nofun, nofun⟩
    rw [reported answer]
    constructor
    · rintro ⟨⟩
      exact ⟨forbids, rfl⟩
    · rintro ⟨-, rfl⟩
      rfl

/-- An object with an `id`, names that start with `x`, and nothing else. -/
def extensibleRecord : Json := .obj [
  ("properties", .obj [("id", .obj [("type", .str "integer")])]),
  ("patternProperties", .obj [("^x", .bool true)]),
  ("additionalProperties", .bool false)]

/-- The members of a record with one that is not allowed. -/
def strangeRecord : Members := [("id", .ofNat 1), ("xyz", .null), ("other", .str "x")]

theorem strange_member_navigated_as_checked : ∃ root found v,
    Compiler.standard.compile extensibleRecord = .ok root ∧
      root.validateAt (.obj strangeRecord) .root = some found ∧
      root.getAt "other" (some (.obj strangeRecord)) .root = some (.error v) ∧
      v ∈ found ∧ v.code = .noAdditionalProperties ∧ v.pointer = Pointer.root.join "other" := by
  have computed : (nodeAndFound extensibleRecord (.obj strangeRecord)).map (fun result =>
      ((result.1.fragment.reference? result.1.context.draft).isNone &&
        (result.1.fragment.reducers result.1.context.draft).isEmpty &&
        result.1.fragment.tupleItems.isEmpty && result.1.fragment.restItems?.isNone,
        result.2.map fun v => (v.code, v.pointer))) =
      some (true, [(.noAdditionalProperties, Pointer.root.join "other")]) := by
    decide +kernel
  obtain ⟨⟨root, found⟩, known, facts⟩ := Option.map_eq_some_iff.mp computed
  simp only [nodeAndFound, Option.bind_eq_bind, Option.bind_eq_some_iff] at known
  obtain ⟨_, compiled, _, validates, same⟩ := known
  cases same
  have compiled := ok_of_toOption compiled
  simp only [Prod.mk.injEq, Bool.and_eq_true, Option.isNone_iff_eq_none, List.isEmpty_iff] at facts
  obtain ⟨⟨⟨⟨unreferring, plain⟩, noTuple⟩, noRest⟩, listed⟩ := facts
  obtain ⟨answer, goes, refused, -, -⟩ := members_navigated_as_checked ⟨root, compiled, .refl⟩ unreferring plain noTuple
    noRest (show (strangeRecord.map Prod.fst).Nodup by decide)
    (show strangeRecord.lookup "other" = some (.str "x") from rfl) .root
  obtain ⟨v, rfl⟩ := List.length_eq_one_iff.mp (by simpa using congrArg List.length listed)
  obtain ⟨code, place⟩ : v.code = .noAdditionalProperties ∧ v.pointer = Pointer.root.join "other" := by
    simpa using listed
  obtain rfl := (refused [v] validates v).mpr ⟨List.mem_singleton_self v, code, place⟩
  exact ⟨root, [v], v, compiled, validates, goes, List.mem_singleton_self v, code, place⟩

end Node
end JsonSchema
