import JsonSchema.Proofs.Recursion.Depth
import JsonSchema.Proofs.Reference.Core

/-!
# The common core means the same for all drafts

What a draft knows of its own are keywords, references, identifiers and flags that no schema of the core has. So
the judges of two drafts agree on the fragments of such a schema at every depth, and as these stand at the places
of one document, the depth that is allowed always suffices.
-/

namespace JsonSchema

/-! ## Keywords -/

namespace Members.IsCore

variable {members : Members} (core : members.IsCore)

include core

/-- The keywords that are checked are those of the oldest draft. -/
theorem introducedIn_eq {draft : Draft} {keyword : Keyword} (present : keyword.isPresent draft members = true) :
    keyword.introducedIn = .draft4 := by
  have gone (other : keyword.name ∉ "$ref" :: coreKeywords) : members.has keyword.name = false := by
    rw [Members.has, core _ other]
    rfl
  cases keyword with
  | const | contains | propertyNames | dependentRequired | dependentSchemas | unevaluatedItems | unevaluatedProperties =>
    cases (gone (by decide)).symm.trans present
  | exclusiveMaximum | exclusiveMinimum =>
    simp [Keyword.isPresent, Keyword.name, core "exclusiveMaximum" (by decide), core "exclusiveMinimum" (by decide)]
      at present
  | conditional => simp [Keyword.isPresent, Members.has, core "if" (by decide)] at present
  | _ => rfl

theorem isPresent_eq (one other : Draft) (keyword : Keyword) :
    keyword.isPresent one members = keyword.isPresent other members := by
  cases keyword with
  | items => simp [Keyword.isPresent, Members.has, core "prefixItems" (by decide)]
  | _ => rfl

end Members.IsCore

/-- All drafts know the keywords of the oldest one. -/
theorem Draft.since_draft4 (draft : Draft) : draft.since .draft4 = true := by cases draft <;> rfl

theorem Draft.applies_eq {keyword : Keyword} (early : keyword.introducedIn = .draft4) (one other : Draft)
    (type : TypeName) : one.applies keyword type = other.applies keyword type := by
  simp [applies, keywordsFor, keywords, early, since_draft4]

namespace Json

variable {document : Json} {f : Fragment}

theorem Core.keywords_eq (core : document.Core) (inside : f ∈ document.coreFragments) (one other : Draft) :
    f.keywords one = f.keywords other := by
  obtain ⟨way, known, -⟩ := core.exists_site inside
  unfold Fragment.keywords
  cases schema : f.schema with
  | obj members =>
    have own := core.isCore (schema ▸ known)
    simp only [Draft.keywords, List.filter_filter]
    refine List.filter_congr fun keyword _ => ?_
    rw [own.isPresent_eq one other]
    by_cases present : keyword.isPresent other members = true
    · rw [own.introducedIn_eq present, one.since_draft4, other.since_draft4]
    · rw [Bool.not_eq_true] at present
      rw [present, Bool.false_and, Bool.false_and]
  | _ => rfl

theorem Core.introducedIn_eq (core : document.Core) (inside : f ∈ document.coreFragments) {draft : Draft}
    {keyword : Keyword} (occurs : keyword ∈ f.keywords draft) : keyword.introducedIn = .draft4 := by
  obtain ⟨way, known, -⟩ := core.exists_site inside
  unfold Fragment.keywords at occurs
  cases schema : f.schema with
  | obj members =>
    rw [schema] at occurs known
    exact (core.isCore known).introducedIn_eq (List.mem_filter.mp occurs).2
  | _ => simp [schema] at occurs

end Json

/-! ## Checks -/

namespace Context

open Json

variable {document : Json} {one other : Context} {f : Fragment} {judge judge' : Judge} {keyword : Keyword}

namespace Alike

/-- The check of a keyword reads nothing of the draft, and asks for no reduction. -/
theorem check_context (core : document.Core) (alike : Alike document one other) (inside : f ∈ document.coreFragments)
    (early : keyword.introducedIn = .draft4)
    (validate : Fragment → Json → Pointer → Scope → Option (List Violation))
    (reduce reduce' : Reduction → Fragment → Scope → Option (Except Violation Reduced))
    (data : Json) (pointer : Pointer) (scope : Scope) :
    Visit.check ⟨one, ⟨validate, reduce⟩, f, data, pointer, scope⟩ keyword =
      Visit.check ⟨other, ⟨validate, reduce'⟩, f, data, pointer, scope⟩ keyword := by
  have absent (name : String) (gone : name ∉ "$ref" :: coreKeywords) : f.keyword? name = none :=
    core.member?_eq_none inside gone
  have flag (context : Context) (judge : Judge) (name : String) (gone : name ∉ "$ref" :: coreKeywords) :
      Visit.hasExclusiveFlag ⟨context, judge, f, data, pointer, scope⟩ name = false := by
    simp [Visit.hasExclusiveFlag, Visit.keyword?, absent name gone]
  have undiscriminated : f.discriminator? = none := by
    simp [Fragment.discriminator?, absent "discriminator" (by decide), absent "oneOfProperty" (by decide)]
  have failures (members : List Fragment) :
      Visit.failuresBefore ⟨one, ⟨validate, reduce⟩, f, data, pointer, scope⟩ members =
        Visit.failuresBefore ⟨other, ⟨validate, reduce'⟩, f, data, pointer, scope⟩ members := by
    induction members with
    | nil => rfl
    | cons member rest ih =>
      simp only [Visit.failuresBefore, ih]
      rfl
  cases keyword with
  | format =>
    simp only [Visit.check, Visit.checkFormat, alike.formats]
    rfl
  | maximum =>
    simp only [Visit.check, Visit.checkMaximum, flag _ _ "exclusiveMaximum" (by decide)]
    rfl
  | minimum =>
    simp only [Visit.check, Visit.checkMinimum, flag _ _ "exclusiveMinimum" (by decide)]
    rfl
  | anyOf =>
    simp only [Visit.check, Visit.checkAnyOf, failures]
    rfl
  | oneOf =>
    simp only [Visit.check, Visit.checkOneOf, Visit.selectOneOf, undiscriminated]
    rfl
  | const | exclusiveMaximum | exclusiveMinimum | contains | propertyNames | dependentRequired | dependentSchemas
  | conditional | unevaluatedItems | unevaluatedProperties => cases early
  | _ => rfl

/-- Where two judges agree on the fragments of the document, so do the checks of a keyword. -/
theorem check_eq (core : document.Core) (alike : Alike document one other) (inside : f ∈ document.coreFragments)
    (early : keyword.introducedIn = .draft4)
    (agree : ∀ g ∈ document.coreFragments, ∀ data pointer scope,
      judge.validate g data pointer scope = judge'.validate g data pointer scope)
    (data : Json) (pointer : Pointer) (scope : Scope) :
    Visit.check ⟨one, judge, f, data, pointer, scope⟩ keyword =
      Visit.check ⟨other, judge', f, data, pointer, scope⟩ keyword := by
  let visit : Visit := ⟨one, judge, f, data, pointer, scope⟩
  let mixed : Judge := ⟨judge'.validate, judge.reduce⟩
  have near (g : Fragment) (near : visit.Near g) : g ∈ document.coreFragments := by
    rcases near with own | ⟨between, own, below⟩
    · exact core.child_mem inside own
    · exact core.child_mem (alike.settle_mem core (core.child_mem inside own) scope) below
  have admits : visit.Admits fun q => judge.answer q = mixed.answer q := by
    intro g part place beside _
    simp only [Judge.answer, mixed, agree g (near g beside)]
  have asks : Inquires (fun q => judge.answer q = mixed.answer q) fun judge => (visit.under judge).check keyword := by
    refine Visit.inquires_check admits rfl keyword fun evaluated => ?_
    rw [evaluated] at early
    cases early
  calc visit.check keyword = (visit.under mixed).check keyword := asks.congr fun q same => same
    _ = Visit.check ⟨other, judge', f, data, pointer, scope⟩ keyword :=
        alike.check_context core inside early judge'.validate judge.reduce judge'.reduce data pointer scope

theorem validateSettled_eq (core : document.Core) (alike : Alike document one other)
    (inside : f ∈ document.coreFragments)
    (agree : ∀ g ∈ document.coreFragments, ∀ data pointer scope,
      judge.validate g data pointer scope = judge'.validate g data pointer scope)
    (data : Json) (pointer : Pointer) (scope : Scope) :
    one.validateSettled judge f data pointer scope = other.validateSettled judge' f data pointer scope := by
  have listed : (f.keywords one.draft).filter (fun keyword => one.draft.applies keyword (TypeName.of data)) =
      (f.keywords other.draft).filter fun keyword => other.draft.applies keyword (TypeName.of data) := by
    rw [← core.keywords_eq inside one.draft other.draft]
    exact List.filter_congr fun keyword occurs => Draft.applies_eq (core.introducedIn_eq inside occurs) _ _ _
  have checked : gather ((f.keywords one.draft).filter fun keyword => one.draft.applies keyword (TypeName.of data))
      (Visit.check ⟨one, judge, f, data, pointer, scope⟩) =
      gather ((f.keywords other.draft).filter fun keyword => other.draft.applies keyword (TypeName.of data))
        (Visit.check ⟨other, judge', f, data, pointer, scope⟩) := by
    rw [← listed, gather, gather]
    refine congrArg (Option.map List.flatten) (mapM_congr (List.forall₂_same.mpr fun keyword occurs => ?_))
    have early := core.introducedIn_eq inside (List.mem_filter.mp occurs).1
    exact alike.check_eq core inside early agree data pointer scope
  unfold validateSettled
  simp only [checked]
  rfl

/-- The judges of both contexts agree on the fragments of the document. -/
theorem validate_eq (core : document.Core) (alike : Alike document one other) (depth : Nat)
    (inside : f ∈ document.coreFragments) (data : Json) (pointer : Pointer) (scope : Scope) :
    (one.judge depth).validate f data pointer scope = (other.judge depth).validate f data pointer scope := by
  induction depth generalizing f data pointer scope with
  | zero => rfl
  | succ depth ih =>
    have settled (target : Fragment) (known : target ∈ document.coreFragments) (inner : Scope) :
        one.validateSettled (one.judge depth) target data pointer inner =
          other.validateSettled (other.judge depth) target data pointer inner :=
      alike.validateSettled_eq core known (fun g known data pointer scope => ih known data pointer scope) _ _ _
    change one.validateStep (one.judge depth) f data pointer scope =
      other.validateStep (other.judge depth) f data pointer scope
    unfold validateStep
    dsimp only
    rw [← alike.resolve_eq core inside]
    by_cases checking : scope.isChecking f.location pointer
    · rw [if_pos checking, if_pos checking]
    · rw [if_neg checking, if_neg checking]
      cases resolved : one.resolve f (scope.enterAt f pointer) with
      | plain => exact settled f inside _
      | resolved target inner => exact settled target (alike.chain_mem core (chain_of_resolve resolved) inside) inner
      | unresolved reference => rfl

/-! ## Locations -/

/-- The locations of a document. -/
def locations (document : Json) : Finset String :=
  (document.ways.map fun way => Site.location ⟨.default, ⟨way⟩, ⟨way⟩⟩).toFinset

theorem card_locations_le (document : Json) : (locations document).card ≤ document.size := by
  calc (locations document).card
      ≤ (document.ways.map fun way => Site.location ⟨.default, ⟨way⟩, ⟨way⟩⟩).length := List.toFinset_card_le _
    _ = document.size := by rw [List.length_map, Json.length_ways]

/-- Checks do not leave the document. -/
theorem enclosed (core : document.Core) (alike : Alike document one other) :
    one.Enclosed document.coreFragments (locations document) where
  settle _ inside scope := alike.settle_mem core inside scope
  child _ inside _ has := core.child_mem inside has
  evaluated _ inside occurs := by cases core.introducedIn_eq inside occurs
  located f inside := by
    obtain ⟨way, known, site⟩ := core.exists_site inside
    refine List.mem_toFinset.mpr (List.mem_map.mpr ⟨way, known.place.mem_ways, ?_⟩)
    rw [Fragment.location, site]

/-- Data are checked to the end, with the same violations for both. -/
theorem exists_violations (core : document.Core) (alike : Alike document one other)
    (counted : document.size ≤ one.index.capacity) (inside : f ∈ document.coreFragments) (data : Json)
    (pointer : Pointer) (scope : Scope) :
    ∃ found, one.validate f data pointer scope = some found ∧ other.validate f data pointer scope = some found := by
  have few : (locations document).card ≤ one.index.capacity + 14 :=
    ((card_locations_le document).trans counted).trans (Nat.le_add_right _ 14)
  have answered := (alike.enclosed core).validate_ne_none few inside data pointer scope
  obtain ⟨found, answered⟩ := Option.ne_none_iff_exists'.mp answered
  refine ⟨found, answered, ?_⟩
  have depth : other.depthFor data = one.depthFor data := by rw [depthFor, depthFor, alike.index]
  rw [Context.validate, depth, ← alike.validate_eq core _ inside]
  exact answered

end Alike
end Context

/-! ## Drafts -/

/-- A compiler for a draft without remote documents. -/
def Compiler.of (formats : Formats) (draft : Draft) : Compiler := ⟨some draft, [], formats⟩

theorem Compiler.compile_of (formats : Formats) (draft : Draft) (schema : Json) :
    (Compiler.of formats draft).compile schema =
      (Fragment.compile draft (.document 0) (.ofDocument .default) schema).map fun root =>
        .reach ⟨draft, formats, Index.empty.add draft .default root⟩ root [] := by
  have known : (Compiler.of formats draft).draftFor schema = draft := rfl
  unfold compile
  rw [known]
  simp only [of, addRemotes, addDocument, bind, Except.bind]
  cases Fragment.compile draft (.document 0) (.ofDocument .default) schema <;> rfl

/-- A schema of the core is refused for all drafts with one fault, or compiled for all of them and reports the same
violations by all data. -/
theorem drafts_agree_on_core {schema : Json} (core : schema.Core) (formats : Formats) (one other : Draft) :
    (∃ fault, (Compiler.of formats one).compile schema = .error fault ∧
      (Compiler.of formats other).compile schema = .error fault) ∨
    ∃ node node', (Compiler.of formats one).compile schema = .ok node ∧
      (Compiler.of formats other).compile schema = .ok node' ∧
      ∀ data, ∃ found, node.validate data = some found ∧ node'.validate data = some found := by
  cases compiled : Fragment.compile one (.document 0) (.ofDocument .default) schema with
  | error fault =>
    refine .inl ⟨fault, ?_, ?_⟩
    · rw [Compiler.compile_of, compiled]
      rfl
    · rw [Compiler.compile_of, ← core.compile_eq .root one other, compiled]
      rfl
  | ok root =>
    have first : (Compiler.of formats one).compile schema =
        .ok (.reach ⟨one, formats, Index.empty.add one .default root⟩ root []) := by
      rw [Compiler.compile_of, compiled]
      rfl
    have second : (Compiler.of formats other).compile schema =
        .ok (.reach ⟨other, formats, Index.empty.add other .default root⟩ root []) := by
      rw [Compiler.compile_of, ← core.compile_eq .root one other, compiled]
      rfl
    refine .inr ⟨_, _, first, second, fun data => ?_⟩
    have made := Fragment.compile_eq_ok.mp compiled
    have inside : root ∈ schema.coreFragments := Json.Core.root_mem made
    have alike : Context.Alike schema ⟨one, formats, Index.empty.add one .default root⟩
        ⟨other, formats, Index.empty.add other .default root⟩ :=
      ⟨rfl, core.add_eq inside one other, core.coreOf_add made⟩
    exact alike.exists_violations core (Compiler.size_le_capacity first) inside data .root []

/-- A list of natural numbers, each item of which leads to the next. -/
def linkedList : Json := .obj [
  ("properties", .obj [
    ("value", .obj [("type", .str "integer"), ("minimum", .ofNat 0)]),
    ("next", .obj [("$ref", .str "#")])]),
  ("dependencies", .obj [("next", .ofStrings ["value"])]),
  ("additionalProperties", .bool false)]

/-- A list whose second item is no number and has a member too many. -/
def brokenList : Json := .obj [
  ("value", .ofNat 1), ("next", .obj [("value", .str "x"), ("rest", .null)])]

theorem linkedList_core : linkedList.Core := by
  have is : linkedList.isCore (· == "#") 3 = true := by decide +kernel
  refine Json.core_of_isCore ?_ is fun reference leads => ?_
  · simp [linkedList, Json.WellFormed, Json.Storable, Json.ofStrings, Json.ofNat]
  · obtain rfl := beq_iff_eq.mp leads
    exact ⟨"", [], linkedList, by decide +kernel, by decide +kernel, .root⟩

/-- The oldest and the newest draft report the same two violations by the list. -/
theorem linkedList_reported : ∃ node node' found, (Compiler.of .standard .draft4).compile linkedList = .ok node ∧
    (Compiler.of .standard .draft2020).compile linkedList = .ok node' ∧
    node.validate brokenList = some found ∧ node'.validate brokenList = some found ∧ found.length = 2 := by
  have counted : (((Compiler.of .standard .draft4).compile linkedList).toOption.bind fun node =>
      (node.validate brokenList).map List.length) = some 2 := by decide +kernel
  rcases drafts_agree_on_core linkedList_core .standard .draft4 .draft2020 with
    ⟨fault, refused, -⟩ | ⟨node, node', first, second, agree⟩
  · rw [refused] at counted
    cases counted
  · obtain ⟨found, one, other⟩ := agree brokenList
    refine ⟨node, node', found, first, second, one, other, ?_⟩
    rw [first] at counted
    simpa [Except.toOption, one] using counted

end JsonSchema
