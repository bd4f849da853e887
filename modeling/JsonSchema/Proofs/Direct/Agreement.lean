import JsonSchema.Proofs.Attempt
import JsonSchema.Proofs.Check.Relocation
import JsonSchema.Proofs.Direct.Applicators
import JsonSchema.Proofs.Json.Throughout
import JsonSchema.Proofs.Recursion.Depth
import JsonSchema.Proofs.Reference.Indexed

/-!
# Compiled schemas are read directly

What a compiled schema accepts is what the direct reading of its JSON accepts, if it has neither
references nor identifiers. The guard against endless checks never holds there, and the depth that
is allowed for nested checks always suffices.
-/

namespace JsonSchema

/-- Leaving out what passes a test anyway does not change whether all pass. -/
theorem all_filter_of_mem {α : Type} {xs : List α} {p q : α → Bool} (rest : ∀ x ∈ xs, p x = false → q x = true) :
    (xs.filter p).all q = xs.all q := by
  rw [List.all_filter, Bool.eq_iff_iff, List.all_eq_true, List.all_eq_true]
  refine forall₂_congr fun x inside => ?_
  cases picked : p x with
  | false => simp [rest x inside picked]
  | true => simp

/-! ## Keywords that are not checked -/

namespace Dialect

variable {dialect : Dialect} {satisfies : Json → Json → Bool} {members : Members} {data : Json} {keyword : Keyword}

/-- What stands in no schema object holds. -/
theorem holds_of_absent (absent : keyword.isPresent dialect.draft members = false) :
    dialect.holds satisfies members data keyword = true := by
  have gone {name : String} (lacks : members.has name = false) : members.lookup name = none := by
    simpa [Members.has] using lacks
  have entries {name : String} (lacks : members.has name = false) : members.entries name = [] := by
    rw [Members.entries, gone lacks]; rfl
  have elements {name : String} (lacks : members.has name = false) : members.elements name = [] := by
    rw [Members.elements, gone lacks]; rfl
  cases keyword with
  | items =>
    simp only [Keyword.isPresent, Bool.or_eq_false_iff, Bool.and_eq_false_imp] at absent
    obtain ⟨⟨items, additional⟩, tuple⟩ := absent
    have schemas : itemSchemas members dialect.draft = ([], none) := by
      unfold itemSchemas
      split
      · rename_i newer
        rw [elements (tuple (Draft.hasPrefixItems_iff.mpr newer)), gone items]
      · rw [gone items]
    simp only [holds, itemsHold, schemas]
    cases data <;> simp [Json.ofItems, Json.items?]
  | conditional =>
    simp only [Keyword.isPresent, Bool.and_eq_false_imp, Bool.or_eq_false_iff] at absent
    simp only [holds, conditionalHolds]
    cases condition : members.lookup "if" with
    | none => rfl
    | some schema =>
      obtain ⟨consequence, alternative⟩ := absent (by simp [Members.has, condition])
      simp [gone consequence, gone alternative]
  | exclusiveMaximum | exclusiveMinimum =>
    simp only [Keyword.isPresent, Keyword.name, Option.isSome_eq_false_iff, Option.isNone_iff_eq_none] at absent
    simp [holds, numberHolds, absent]
  | patternProperties =>
    simp only [Keyword.isPresent, Keyword.name] at absent
    cases data <;> simp [holds, patternPropertiesHold, Json.ofMembers, Json.members?, entries absent]
  | properties | dependencies | dependentRequired | dependentSchemas =>
    simp only [Keyword.isPresent, Keyword.name] at absent
    simp [holds, propertiesHold, dependenciesHold, Json.ofMembers, entries absent]
  | required =>
    simp only [Keyword.isPresent, Keyword.name] at absent
    simp [holds, requiredHolds, Json.ofMembers, elements absent, Members.texts]
  | allOf | anyOf | oneOf =>
    simp only [Keyword.isPresent, Keyword.name] at absent
    simp [holds, listHolds, absent]
  | _ =>
    simp only [Keyword.isPresent, Keyword.name] at absent
    simp [holds, typeHolds, enumHolds, constHolds, formatHolds, boundHolds, numberHolds, countHolds, limitUnder, patternHolds,
      uniqueHolds, containsHolds, additionalPropertiesHold, propertyNamesHold, Json.ofItems, Json.ofMembers, gone absent]

/-- What constrains values of another type holds. -/
theorem holds_of_other (known : keyword ∈ dialect.draft.keywords)
    (other : dialect.draft.applies keyword (TypeName.of data) = false) :
    dialect.holds satisfies members data keyword = true := by
  have apart : keyword.constrains (TypeName.of data) = false := by
    have primary : (if TypeName.of data = .integer then .number else TypeName.of data) = TypeName.of data := by
      cases data <;> rfl
    simpa [Draft.applies, Draft.keywordsFor, known, primary] using other
  cases keyword with
  | type | enum | const | format | «not» | allOf | anyOf | oneOf | conditional => cases apart
  | unevaluatedItems | unevaluatedProperties => rfl
  | _ => cases data <;> first | rfl | cases apart

end Dialect

/-! ## Schemas that are read directly -/

/-- A schema whose items have the shapes that the draft gives them, and whose `oneOf` is not discriminated, down
to the last subschema. -/
inductive Json.Regular (draft : Draft) : Json → Prop where
  | bool (b : Bool) : Regular draft (.bool b)
  | obj {members : Members} (shaped : members.HasItemShapes draft)
      (undiscriminated : ∀ name ∈ ["discriminator", "oneOfProperty"], members.lookup name = none)
      (below : ∀ entry ∈ subschemas draft members, Regular draft entry.2) : Regular draft (.obj members)

/-- Whether a schema is regular, if its subschemas are nested no deeper than a number. -/
def Json.isRegular (draft : Draft) : Nat → Json → Bool
  | _, .bool _ => true
  | depth + 1, .obj members =>
    (draft != .draft2020 || ((members.lookup "items").bind Json.items?).isNone &&
      (members.lookup "prefixItems").all (·.items?.isSome)) &&
    (["discriminator", "oneOfProperty"].all fun name => (members.lookup name).isNone) &&
    (subschemas draft members).all fun entry => entry.2.isRegular draft depth
  | _, _ => false

theorem Json.regular_of_isRegular {draft : Draft} {depth : Nat} {schema : Json} (is : schema.isRegular draft depth = true) :
    schema.Regular draft := by
  induction depth generalizing schema with
  | zero =>
    cases schema with
    | bool b => exact .bool b
    | _ => cases is
  | succ depth ih =>
    cases schema with
    | bool b => exact .bool b
    | obj members =>
      simp only [isRegular, Bool.and_eq_true, Bool.or_eq_true, bne_iff_ne, List.all_eq_true, Option.isNone_iff_eq_none] at is
      obtain ⟨⟨shaped, undiscriminated⟩, below⟩ := is
      refine .obj ⟨fun newer tuple found => ?_, fun newer schema found => ?_⟩ undiscriminated fun entry inside =>
        ih (below entry inside)
      · simp [newer, found, Json.items?] at shaped
      · simp only [newer, found, ne_eq, not_true_eq_false, false_or, Option.all_some] at shaped
        cases schema <;> first | exact ⟨_, rfl⟩ | cases shaped.2
    | _ => cases is

/-- A schema that can be read directly. -/
structure Json.Direct (draft : Draft) (schema : Json) : Prop where
  plain : schema.Plain draft
  regular : schema.Regular draft
  formed : schema.WellFormed

/-- The subschemas of a schema that can be read directly can be too. -/
theorem Json.Direct.of_step {draft : Draft} {members : Members} (direct : (Json.obj members).Direct draft)
    {pointer : Pointer} {slot : Slot} {sub : Json} (step : .child slot sub ∈ steps draft pointer members) : sub.Direct draft where
  plain := direct.plain.of_step step
  regular := by
    rcases direct.regular with _ | ⟨-, -, below⟩
    refine below (slot, sub) ?_
    rw [@subschemas_eq _ pointer]
    exact List.mem_filterMap.mpr ⟨_, step, rfl⟩
  formed := by
    obtain ⟨segments, fills⟩ := fills_of_steps step
    exact direct.formed.of_mem_parts ⟨segments, fills.place⟩

namespace Visit

open Fragment Dialect

variable {visit : Visit} {satisfies : Json → Json → Bool} {members : Members} {source : Origin} {outer : Site}
  {keyword : Keyword}

/-- The check of a keyword decides its clause. -/
theorem verdict_check
    (made : FromObject visit.context.draft source outer members (Compiled visit.context.draft source) visit.fragment)
    (decides : visit.Decides satisfies) (refuses : ∀ value, satisfies (.bool false) value = false)
    (direct : (Json.obj members).Direct visit.context.draft) (known : keyword ∈ visit.context.draft.keywords)
    (present : keyword.isPresent visit.context.draft members = true) :
    verdict (visit.check keyword) = some (visit.context.dialect.holds satisfies members visit.data keyword) := by
  rcases direct.regular with _ | ⟨shaped, undiscriminated, -⟩
  have undiscriminated' : visit.fragment.discriminator? = none := by
    have own (name : String) : visit.fragment.keyword? name = members.lookup name := keyword?_eq made.schema name
    rw [discriminator?, own, own, undiscriminated "discriminator" (by simp), undiscriminated "oneOfProperty" (by simp)]
    rfl
  have known' : visit.context.draft.knows keyword = true := (List.mem_filter.mp known).2
  have nodup {keyword : Keyword} : ((members.entries keyword.name).map Prod.fst).Nodup := by
    unfold Members.entries
    cases found : members.lookup keyword.name with
    | none => exact List.nodup_nil
    | some value =>
      cases value with
      | obj entries => exact Json.WellFormed.nodup (direct.formed.of_mem_members (mem_of_lookup found))
      | _ => exact List.nodup_nil
  have dependencies {keyword : Keyword} (listed : keyword ∈ dependencyKeywords)
      (known : visit.context.draft.knows keyword = true) :=
    verdict_checkDependencies made decides (List.mem_filter.mpr ⟨listed, known⟩) nodup
  have schema := made.schema
  cases keyword with
  | type => exact congrArg some (isEmpty_checkType schema)
  | enum => exact congrArg some (isEmpty_checkEnum schema)
  | const => exact congrArg some (isEmpty_checkConst schema)
  | format => exact congrArg some (isEmpty_checkFormat schema)
  | maximum => exact congrArg some (isEmpty_checkMaximum schema)
  | minimum => exact congrArg some (isEmpty_checkMinimum schema)
  | exclusiveMaximum => exact congrArg some (isEmpty_checkExclusiveMaximum schema)
  | exclusiveMinimum => exact congrArg some (isEmpty_checkExclusiveMinimum schema)
  | multipleOf => exact congrArg some (isEmpty_checkMultipleOf schema)
  | maxLength | minLength | maxItems | minItems | maxProperties | minProperties =>
    exact congrArg some (isEmpty_checkCount schema _ _ _ _)
  | pattern => exact congrArg some (isEmpty_checkPattern made.pattern)
  | uniqueItems => exact congrArg some (isEmpty_checkUniqueItems schema)
  | required => exact congrArg some (isEmpty_checkRequired schema)
  | items => exact verdict_checkItems made decides refuses shaped
  | contains => exact verdict_checkContains made decides known'
  | properties => exact verdict_checkProperties made decides
  | patternProperties => exact verdict_checkPatternProperties made decides
  | additionalProperties => exact verdict_checkAdditionalProperties made decides refuses
  | propertyNames => exact verdict_checkPropertyNames made decides known'
  | dependencies => exact dependencies (by decide) known'
  | dependentRequired => exact dependencies (by decide) known'
  | dependentSchemas => exact dependencies (by decide) known'
  | «not» => exact verdict_checkNot made decides known'
  | allOf =>
    rw [holds, listHolds, show members.has "allOf" = true from present]
    exact verdict_checkAllOf made decides
  | anyOf =>
    rw [holds, listHolds, show members.has "anyOf" = true from present]
    exact verdict_checkAnyOf made decides
  | oneOf =>
    rw [holds, listHolds, show members.has "oneOf" = true from present]
    exact verdict_checkOneOf made decides undiscriminated'
  | conditional => exact verdict_checkConditional made decides known'
  | unevaluatedItems => exact absurd rfl (Context.not_isPresent_unevaluated direct.plain present).1
  | unevaluatedProperties => exact absurd rfl (Context.not_isPresent_unevaluated direct.plain present).2

end Visit

namespace Context

open Fragment

variable {context : Context} {schema data : Json} {source : Origin} {outer : Site} {f : Fragment} {scope : Scope}

/-- The verdict of a schema that can be read directly is that of the direct reading. -/
theorem verdict_validate {depth : Nat} (enough : schema.depth < depth) (direct : schema.Direct context.draft)
    (compiled : Compiled context.draft source outer schema f) (free : scope.FreeAt f) (data : Json) (pointer : Pointer) :
    verdict ((context.judge depth).validate f data pointer scope) = some (context.dialect.satisfies schema data) := by
  induction depth generalizing schema source outer f scope data pointer with
  | zero => cases enough
  | succ depth ih =>
    change verdict (context.validateStep _ f data pointer scope) = _
    rw [validateStep_eq (direct.plain.reference?_eq_none compiled) (free.not_isChecking pointer)]
    rcases compiled.bool_or_obj with ⟨b, rfl⟩ | ⟨members, rfl⟩
    · rw [validateSettled_bool compiled.schema_eq, Dialect.satisfies_bool]
    · have made := compiled_obj.mp compiled
      have below := free.enterAt direct.plain compiled pointer
      let visit : Visit := ⟨context, context.judge depth, f, data, pointer, scope.enterAt f pointer⟩
      have decides : visit.Decides context.dialect.satisfies := by
        rintro child ⟨slot, inside⟩ value place
        obtain ⟨_, sub, same, step, compiled'⟩ := compiled.child inside
        cases same
        rw [compiled'.schema_eq]
        exact ih (Nat.lt_of_lt_of_le (depth_lt_of_steps step) (Nat.le_of_lt_succ enough)) (direct.of_step step) compiled'
          (below.freeAt (.single ⟨slot, inside⟩)) value place
      have checked : ∀ keyword ∈ (context.draft.keywords.filter fun keyword => keyword.isPresent context.draft members).filter
          (fun keyword => context.draft.applies keyword (TypeName.of data)),
          verdict (visit.check keyword) = some (context.dialect.holds context.dialect.satisfies members data keyword) := by
        intro keyword inside
        obtain ⟨known, present⟩ := List.mem_filter.mp (List.mem_filter.mp inside).1
        exact visit.verdict_check made decides (Dialect.satisfies_bool false) direct known present
      rw [validateSettled_obj compiled.schema_eq, verdict_gather_of_mem checked, Dialect.satisfies_obj]
      -- what is not checked holds
      have other : ∀ keyword ∈ context.draft.keywords, context.draft.applies keyword (TypeName.of data) = false →
          context.dialect.holds context.dialect.satisfies members data keyword = true :=
        fun keyword known other => Dialect.holds_of_other known other
      have absent : ∀ keyword ∈ context.draft.keywords, keyword.isPresent context.draft members = false →
          context.dialect.holds context.dialect.satisfies members data keyword = true :=
        fun keyword _ absent => Dialect.holds_of_absent absent
      exact congrArg some ((all_filter_of_mem fun keyword inside => other keyword (List.mem_filter.mp inside).1).trans
        (all_filter_of_mem absent))

end Context

/-! ## Compiled schemas -/

variable {compiler : Compiler} {schema : Json} {node : Node}

/-- Nested checks may go deeper than a compiled schema. -/
theorem Compiler.depth_lt_depthFor (compiled : compiler.compile schema = .ok node) (data : Json) :
    schema.depth < node.context.depthFor data := by
  have counted := Compiler.size_le_capacity compiled
  have room : node.context.index.capacity + 16 ≤ node.context.depthFor data := by
    unfold Context.depthFor
    nlinarith [Nat.zero_le data.depth]
  have := schema.depth_le_size
  omega

/-- What a compiled schema accepts is what the direct reading of its JSON accepts. -/
theorem accepts_eq_satisfies (compiled : compiler.compile schema = .ok node)
    (direct : schema.Direct (compiler.draftFor schema)) (data : Json) :
    node.accepts data = some (Dialect.satisfies ⟨compiler.draftFor schema, compiler.formats⟩ schema data) := by
  obtain ⟨draft, formats, outermost, position, made⟩ := Compiler.root_of_compile compiled
  rw [← draft] at direct
  have free : node.scope.FreeAt node.fragment := outermost ▸ Scope.freeAt_nil node.fragment
  have read := Context.verdict_validate (Compiler.depth_lt_depthFor compiled data) direct
    (Fragment.compile_eq_ok.mp made) free data .root
  rw [← draft, ← formats]
  exact read

/-- An object with a list, some of whose keywords look at subschemas and some at the value alone. -/
def listedObject : Json := .obj [
  ("type", .str "object"),
  ("properties", .obj [
    ("kind", .obj [("enum", .ofStrings ["a", "b"])]),
    ("list", .obj [
      ("prefixItems", .arr [.obj [("type", .str "string")]]),
      ("items", .obj [("minimum", .ofNat 1)]),
      ("contains", .obj [("const", .ofNat 2)]),
      ("maxItems", .ofNat 2),
      ("uniqueItems", .bool true)])]),
  ("patternProperties", .obj [("^x", .obj [("not", .obj [("type", .str "null")])])]),
  ("additionalProperties", .bool false),
  ("dependentRequired", .obj [("list", .ofStrings ["kind"])]),
  ("oneOf", .arr [.obj [("required", .ofStrings ["kind"])], .obj [("maxProperties", .ofNat 0)]])]

/-- The object accepts a list that its schema reads as acceptable, and no other member. -/
theorem listedObject_accepts_eq_satisfies : ∃ node, Compiler.standard.compile listedObject = .ok node ∧
    let accepted : Json := .obj [("kind", .str "a"), ("list", .arr [.str "first", .ofNat 2]), ("x", .ofNat 0)]
    let refused : Json := .obj [("kind", .str "a"), ("list", .arr [.str "first", .ofNat 2]), ("y", .ofNat 0)]
    node.accepts accepted = some true ∧ node.accepts refused = some false := by
  have computed : (Compiler.standard.compile listedObject).toOption.isSome = true := by decide +kernel
  obtain ⟨node, compiled⟩ := Option.isSome_iff_exists.mp computed
  have compiled := ok_of_toOption compiled
  have direct : listedObject.Direct (Compiler.standard.draftFor listedObject) := by
    refine ⟨Json.plain_of_isPlain (by decide +kernel : listedObject.isPlain _ 4 = true),
      Json.regular_of_isRegular (by decide +kernel : listedObject.isRegular _ 4 = true), ?_⟩
    simp [listedObject, Json.WellFormed, Json.Storable, Json.ofStrings, Json.ofNat]
  refine ⟨node, compiled, ?_, ?_⟩
  · rw [accepts_eq_satisfies compiled direct]
    decide +kernel
  · rw [accepts_eq_satisfies compiled direct]
    decide +kernel

end JsonSchema
