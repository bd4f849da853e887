import JsonSchema.Proofs.Check.Verdict
import JsonSchema.Proofs.Compilation.Separation
import JsonSchema.Proofs.Compilation.Standing
import JsonSchema.Reference

/-!
# The common core of the drafts

The core keywords are those that every draft has and reads in the same way. Where the objects of a schema
have no other keywords, or consist of a reference into the document, no rule that a draft has of its own
applies, and the schema is compiled to the same fragments for all of them.
-/

namespace JsonSchema

/-- The keywords that all drafts share. -/
def coreKeywords : List String := [
  "type", "enum", "format", "maximum", "minimum", "multipleOf", "maxLength", "minLength", "pattern",
  "items", "additionalItems", "minItems", "maxItems", "uniqueItems",
  "properties", "patternProperties", "additionalProperties", "required", "minProperties", "maxProperties",
  "dependencies", "not", "allOf", "anyOf", "oneOf", "definitions"]

/-! ## Schemas of the core -/

/-- The core keywords whose value can be one schema. -/
def wholeKeywords : List String := ["items", "additionalItems", "additionalProperties", "not"]

/-- The core keywords whose value can be an object of schemas. -/
def entryKeywords : List String := ["properties", "patternProperties", "dependencies", "definitions"]

/-- The core keywords whose value can be a list of schemas. -/
def itemKeywords : List String := ["items", "allOf", "anyOf", "oneOf"]

/-- Where the members of a schema have subschemas, and which. A list of names or of schemas is none, but there
is nothing to be said of it. -/
inductive Members.Subschema (members : Members) : List String → Json → Prop where
  | whole {name : String} {sub : Json} (keyword : name ∈ wholeKeywords) (found : members.lookup name = some sub) :
      Subschema members [name] sub
  | entry {name key : String} {entries : Members} {sub : Json} (keyword : name ∈ entryKeywords)
      (found : members.lookup name = some (.obj entries)) (inside : (key, sub) ∈ entries) :
      Subschema members [name, key] sub
  | item {name : String} {index : Nat} {items : List Json} {sub : Json} (keyword : name ∈ itemKeywords)
      (found : members.lookup name = some (.arr items)) (inside : items[index]? = some sub) :
      Subschema members [name, toString index] sub

/-- The subschemas of a document and the ways to them. -/
inductive Json.Subschema (document : Json) : List String → Json → Prop where
  | root : Subschema document [] document
  | deeper {way segments : List String} {members : Members} {sub : Json} (outer : Subschema document way (.obj members))
      (inner : members.Subschema segments sub) : Subschema document (way ++ segments) sub

/-- Members that consist of a reference to a subschema of the document. -/
structure Json.RefersWithin (document : Json) (members : Members) (reference : String) : Prop where
  alone : members = [("$ref", .str reference)]
  leads : ∃ identifier way sub, splitReference .default reference = some (.default, identifier) ∧
    Pointer.ofFragment identifier = .ok ⟨way⟩ ∧ document.Subschema way sub

/-- A document whose schema objects have core keywords only, or consist of a reference to one of its subschemas. -/
structure Json.Core (document : Json) : Prop where
  formed : document.WellFormed
  objects : ∀ way (members : Members), document.Subschema way (.obj members) →
    (∀ name ∈ members.names, name ∈ coreKeywords) ∨ ∃ reference, document.RefersWithin members reference

/-- Members that have no keywords but those of the core and a reference. -/
def Members.IsCore (members : Members) : Prop := ∀ name, name ∉ "$ref" :: coreKeywords → members.lookup name = none

namespace Json

variable {document sub : Json} {way : List String} {members : Members}

theorem Core.isCore (core : document.Core) (inside : document.Subschema way (.obj members)) : members.IsCore := by
  intro name other
  obtain ⟨noReference, noKeyword⟩ := not_or.mp (List.mem_cons.not.mp other)
  rw [List.lookup_eq_none_iff]
  intro entry listed
  refine bne_iff_ne.mpr fun same => ?_
  rcases core.objects way members inside with own | ⟨reference, ⟨rfl, -⟩⟩
  · exact noKeyword (same ▸ own entry.1 (List.mem_map_of_mem listed))
  · rw [List.mem_singleton.mp listed] at same
    exact noReference same

/-- A subschema stands at its place, and its pointer leads there. -/
theorem Subschema.place (inside : document.Subschema way sub) : Json.At document way sub := by
  induction inside with
  | root => exact .here
  | deeper _ inner ih =>
    refine ih.trans ?_
    cases inner with
    | whole _ found => exact at_of_lookup found
    | entry _ found listed => exact .member (mem_of_lookup found) (.member listed .here)
    | item _ found listed => exact .member (mem_of_lookup found) (.item listed .here)

theorem Core.resolve? (core : document.Core) (inside : document.Subschema way sub) :
    Pointer.resolve? ⟨way⟩ document = some sub := by
  induction inside with
  | root => rfl
  | @deeper way segments members sub outer inner ih =>
    have formed : (obj members).WellFormed := core.formed.of_mem_parts ⟨way, outer.place⟩
    have two (first second : String) : (⟨way ++ [first, second]⟩ : Pointer) = (Pointer.join ⟨way⟩ first).join second :=
      congrArg Pointer.mk (List.append_assoc way [first] [second]).symm
    cases inner with
    | whole _ found => exact Pointer.resolve?_member ih formed (mem_of_lookup found)
    | entry _ found listed =>
      have member := mem_of_lookup found
      rw [two]
      exact Pointer.resolve?_member (Pointer.resolve?_member ih formed member) (formed.of_mem_members member) listed
    | item _ found listed =>
      have member := mem_of_lookup found
      rw [two]
      exact Pointer.resolve?_item (Pointer.resolve?_member ih formed member) (formed.of_mem_members member) listed

end Json

/-! ## Recognising the core -/

/-- The subschemas of members, in the order of the keywords. -/
def Members.subschemas (members : Members) : List (List String × Json) :=
  (wholeKeywords.flatMap fun name => (members.lookup name).toList.map fun sub => ([name], sub)) ++
    (entryKeywords.flatMap fun name =>
      (((members.lookup name).bind Json.members?).getD []).map fun (key, sub) => ([name, key], sub)) ++
    itemKeywords.flatMap fun name =>
      (((members.lookup name).bind Json.items?).getD []).zipIdx.map fun (sub, index) => ([name, toString index], sub)

theorem Members.Subschema.listed {members : Members} {segments : List String} {sub : Json}
    (inside : members.Subschema segments sub) : (segments, sub) ∈ members.subschemas := by
  unfold subschemas
  rw [List.mem_append, List.mem_append]
  cases inside with
  | @whole name _ keyword found =>
    refine .inl (.inl (List.mem_flatMap.mpr ⟨name, keyword, ?_⟩))
    exact List.mem_map.mpr ⟨sub, Option.mem_toList.mpr found, rfl⟩
  | @entry name key entries _ keyword found inside =>
    refine .inl (.inr (List.mem_flatMap.mpr ⟨name, keyword, ?_⟩))
    exact List.mem_map.mpr ⟨(key, sub), by rw [found]; exact inside, rfl⟩
  | @item name index items _ keyword found inside =>
    refine .inr (List.mem_flatMap.mpr ⟨name, keyword, ?_⟩)
    exact List.mem_map.mpr ⟨(sub, index), by rw [found]; exact List.mk_mem_zipIdx_iff_getElem?.mpr inside, rfl⟩

namespace Json

/-- The reference that members consist of. -/
def loneReference? : Members → Option String
  | [("$ref", .str reference)] => some reference
  | _ => none

/-- Whether the objects of a schema, nested no deeper than a number, have core keywords only, or consist of a
reference that leads somewhere. -/
def isCore (leads : String → Bool) : Nat → Json → Bool
  | depth + 1, .obj members =>
    ((members.all fun member => coreKeywords.contains member.1) || (loneReference? members).any leads) &&
      (Members.subschemas members).all fun entry => entry.2.isCore leads depth
  | 0, .obj _ => false
  | _, _ => true

theorem core_of_isCore {document : Json} {leads : String → Bool} {depth : Nat} (formed : document.WellFormed)
    (is : document.isCore leads depth = true)
    (known : ∀ reference, leads reference = true → ∃ identifier way sub,
      splitReference .default reference = some (.default, identifier) ∧ Pointer.ofFragment identifier = .ok ⟨way⟩ ∧
        document.Subschema way sub) : document.Core := by
  have everywhere {way : List String} {sub : Json} (inside : document.Subschema way sub) :
      ∃ depth, sub.isCore leads depth = true := by
    induction inside with
    | root => exact ⟨depth, is⟩
    | deeper _ inner ih =>
      obtain ⟨depth, is⟩ := ih
      cases depth with
      | zero => cases is
      | succ depth =>
        rw [isCore, Bool.and_eq_true, List.all_eq_true] at is
        exact ⟨depth, is.2 _ inner.listed⟩
  refine ⟨formed, fun way members inside => ?_⟩
  obtain ⟨depth, is⟩ := everywhere inside
  cases depth with
  | zero => cases is
  | succ depth =>
    rw [isCore, Bool.and_eq_true, Bool.or_eq_true] at is
    rcases is.1 with own | lone
    · refine .inl fun name named => ?_
      obtain ⟨member, listed, rfl⟩ := List.mem_map.mp named
      exact List.contains_iff_mem.mp (List.all_eq_true.mp own member listed)
    · unfold loneReference? at lone
      split at lone
      · exact .inr ⟨_, rfl, known _ lone⟩
      · cases lone

end Json

/-! ## Compilation -/

/-- The parts of a schema of the core. -/
def coreParts : List Part := [
  .entries "properties" fun _ name schema => .child (.property name) schema,
  .entries "patternProperties" stepPattern,
  ⟨["additionalProperties"], fun _ members => stepOne members "additionalProperties" .additionalProperties⟩,
  .dependencies .dependencies,
  .array .draft4,
  .one .draft4 .not "not" .not,
  .items .allOf,
  .items .anyOf,
  .items .oneOf,
  .entries "definitions" fun _ name schema => .child (.definition "definitions" name) schema]

namespace Members.IsCore

variable {members : Members} (core : members.IsCore)

include core

theorem identify_eq (draft : Draft) (outer : Site) : outer.identify draft members = .ok (outer, []) := by
  have unidentified : members.lookup draft.idKeyword = none := by cases draft <;> exact core _ (by decide)
  exact identify_other fun id found => by
    rw [unidentified] at found
    cases found

theorem declaredAnchors_eq (draft : Draft) : declaredAnchors draft members = [] := by
  simp [declaredAnchors, core "$anchor" (by decide), core "$dynamicAnchor" (by decide)]

/-- No draft takes a step that is not of the core. -/
theorem steps_eq (draft : Draft) (pointer : Pointer) :
    steps draft pointer members = coreParts.flatMap fun part => part.steps pointer members := by
  have absent (name : String) (slot : Slot) (other : name ∉ "$ref" :: coreKeywords) : stepOne members name slot = [] := by
    rw [stepOne, core name other]
    rfl
  have dependencies : (Fragment.dependencyKeywords.filter draft.knows).flatMap (stepDependencies pointer members) =
      stepDependencies pointer members .dependencies := by
    have required : stepDependencies pointer members .dependentRequired = [] := by
      rw [stepDependencies, core _ (by decide)]
    have schemas : stepDependencies pointer members .dependentSchemas = [] := by
      rw [stepDependencies, core _ (by decide)]
    cases draft <;> simp [Fragment.dependencyKeywords, Draft.knows, Draft.since, Draft.rank, Keyword.introducedIn,
      required, schemas]
  have array : stepArray draft members = stepArray .draft4 members := by
    have none : members.has "prefixItems" = false := by simp [Members.has, core "prefixItems" (by decide)]
    simp [stepArray, none]
  have defs : stepMembers pointer members "$defs" (fun name schema => .child (.definition "$defs" name) schema) = [] := by
    rw [stepMembers, core _ (by decide)]
  have known : draft.knows .not = true := by cases draft <;> rfl
  simp only [steps, coreParts, dependencies, array, defs, known, absent "propertyNames" _ (by decide),
    absent "unevaluatedProperties" _ (by decide), absent "contains" _ (by decide),
    absent "unevaluatedItems" _ (by decide), absent "if" _ (by decide), absent "then" _ (by decide),
    absent "else" _ (by decide), ite_self, ↓reduceIte, List.flatMap_cons, List.flatMap_nil, List.append_nil,
    List.append_assoc]
  rfl

/-- Every step is taken for a subschema, for the place where it stands. -/
theorem subschema {draft : Draft} {pointer : Pointer} {slot : Slot} {sub : Json}
    (step : .child slot sub ∈ steps draft pointer members) : members.Subschema slot.segments sub := by
  rw [core.steps_eq] at step
  obtain ⟨part, listed, step⟩ := List.mem_flatMap.mp step
  have entries {name : String} {make : Pointer → String → Json → Step} (keyword : name ∈ entryKeywords)
      (made : ∀ key value slot sub, make pointer key value = .child slot sub → slot.segments = [name, key] ∧ sub = value)
      (step : .child slot sub ∈ (Part.entries name make).steps pointer members) :
      members.Subschema slot.segments sub := by
    obtain ⟨entries, key, value, found, inside, stepped⟩ := mem_stepMembers step
    obtain ⟨place, rfl⟩ := made key value slot sub stepped
    exact place ▸ .entry keyword found inside
  have items {keyword : Keyword} (known : keyword.name ∈ itemKeywords)
      (step : .child slot sub ∈ (Part.items keyword).steps pointer members) : members.Subschema slot.segments sub := by
    obtain ⟨items, index, found, inside, rfl⟩ := mem_stepItems step
    exact .item known found inside
  simp only [coreParts, List.mem_cons, List.not_mem_nil, or_false] at listed
  rcases listed with rfl | rfl | rfl | rfl | rfl | rfl | rfl | rfl | rfl | rfl
  · exact entries (by decide) (fun _ _ _ _ made => by cases made; exact ⟨rfl, rfl⟩) step
  · refine entries (by decide) (fun key value slot sub made => ?_) step
    rcases stepPattern_eq key value with ⟨fault, refused⟩ | ⟨own, child, place, -⟩
    · rw [refused] at made
      cases made
    · rw [child] at made
      cases made
      exact ⟨place, rfl⟩
  · obtain ⟨rfl, found⟩ := mem_stepOne.mp step
    exact .whole (by decide) found
  · obtain ⟨entries, key, found, inside, rfl⟩ := mem_stepDependencies step
    exact .entry (by decide) found inside
  · have whole : "items" ∈ wholeKeywords := by decide
    have listed : "items" ∈ itemKeywords := by decide
    have additional : "additionalItems" ∈ wholeKeywords := by decide
    -- in the oldest draft the tuple stands under items
    cases arrayStep_of_stepArray step with
    | position found inside => exact .item listed found inside
    | rest _ other => exact .whole additional other
    | all found => exact .whole whole found
  · obtain ⟨rfl, found⟩ := mem_stepOne.mp step
    exact .whole (by decide) found
  · exact items (by decide) step
  · exact items (by decide) step
  · exact items (by decide) step
  · exact entries (by decide) (fun _ _ _ _ made => by cases made; exact ⟨rfl, rfl⟩) step

end Members.IsCore

namespace Json

open Fragment

variable {document sub : Json} {way : List String}

/-- A subschema is compiled in the same way for all drafts, or refused with the same fault. -/
theorem Core.compileWithin_eq (core : document.Core) (inside : document.Subschema way sub) (one other : Draft)
    (source : Origin) (depth : Nat) (site : Site) :
    compileWithin one source depth site sub = compileWithin other source depth site sub := by
  induction depth generalizing way sub site with
  | zero => cases sub <;> simp [compileWithin]
  | succ depth ih =>
    cases sub with
    | obj members =>
      have own := core.isCore inside
      have taken : (steps one site.pointer members).mapM (takeStep one source depth site) =
          (steps other site.pointer members).mapM (takeStep other source depth site) := by
        rw [own.steps_eq one, ← own.steps_eq other]
        refine mapM_congr (List.forall₂_same.mpr fun step listed => ?_)
        cases step with
        | refuse fault => rfl
        | child slot below => simp only [takeStep, ih (.deeper inside (own.subschema listed))]
      rw [compileWithin_obj, compileWithin_obj, own.identify_eq one, own.identify_eq other,
        own.declaredAnchors_eq one, own.declaredAnchors_eq other]
      dsimp only [bind, Except.bind]
      rw [taken]
    | _ => simp [compileWithin]

theorem Core.compile_eq (core : document.Core) (inside : document.Subschema way sub) (one other : Draft)
    (source : Origin) (site : Site) : compile one source site sub = compile other source site sub :=
  core.compileWithin_eq inside one other source sub.depth site

/-- The fragments that are compiled from the subschemas of a document, for their places there. -/
def coreFragments (document : Json) : Set Fragment :=
  {f | ∃ draft source way sub, document.Subschema way sub ∧ Compiled draft source ⟨.default, ⟨way⟩, ⟨way⟩⟩ sub f}

/-- A subschema stays at the site it is compiled for. -/
theorem Core.site_eq (core : document.Core) (inside : document.Subschema way sub) {draft : Draft} {source : Origin}
    {outer : Site} {f : Fragment} (compiled : Compiled draft source outer sub f) : f.site = outer := by
  refine compiled.site_eq_of_unidentified ?_
  cases sub with
  | obj members => exact core.isCore inside _ (by cases draft <;> decide)
  | _ => rfl

variable {f g : Fragment}

theorem Core.child_mem (core : document.Core) (inside : f ∈ document.coreFragments) (has : f.HasChild g) :
    g ∈ document.coreFragments := by
  obtain ⟨draft, source, way, sub, known, compiled⟩ := inside
  obtain ⟨slot, listed⟩ := has
  obtain ⟨members, sub, rfl, step, child⟩ := compiled.child listed
  rw [core.site_eq known compiled] at child
  exact ⟨draft, source, way ++ slot.segments, sub, .deeper known ((core.isCore known).subschema step), child⟩

theorem Core.reaches_mem (core : document.Core) (inside : f ∈ document.coreFragments) (reaches : f.Reaches g) :
    g ∈ document.coreFragments := by
  induction reaches with
  | refl => exact inside
  | tail _ has ih => exact core.child_mem ih has

/-- A fragment of the core stands in the document, at the place of its subschema. -/
theorem Core.exists_site (core : document.Core) (inside : f ∈ document.coreFragments) :
    ∃ way, document.Subschema way f.schema ∧ f.site = ⟨.default, ⟨way⟩, ⟨way⟩⟩ := by
  obtain ⟨draft, source, way, sub, known, compiled⟩ := inside
  exact ⟨way, compiled.schema_eq ▸ known, core.site_eq known compiled⟩

theorem Core.member?_eq_none (core : document.Core) (inside : f ∈ document.coreFragments) {name : String}
    (other : name ∉ "$ref" :: coreKeywords) : f.schema.member? name = none := by
  obtain ⟨way, known, -⟩ := core.exists_site inside
  cases schema : f.schema with
  | obj members => exact core.isCore (schema ▸ known) name other
  | _ => rfl

end Json
end JsonSchema
