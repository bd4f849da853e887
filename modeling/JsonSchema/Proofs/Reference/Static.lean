import JsonSchema.Proofs.Merge.Subschemas
import JsonSchema.Proofs.Node.Handle
import JsonSchema.Proofs.Reference.Easing
import JsonSchema.Proofs.Reference.Grounded
import JsonSchema.Proofs.Reference.Rebased
import JsonSchema.Proofs.Reference.Visited

/-!
# Schemas without dynamic references

Where no object in the documents refers dynamically, none in what is merged from them does. References
then lead to the same targets in every scope.
-/

namespace JsonSchema

/-! ## Values -/

/-- A value has no text under the keyword of a dynamic reference. -/
def Json.RefersStatically (value : Json) : Prop :=
  ∀ keyword ≠ ReferenceKeyword.static, value.stringMember? keyword.name = none

/-- No object in a value refers dynamically. -/
def Json.Static : Json → Prop := Json.Throughout Json.RefersStatically

namespace Json

variable {x y part : Json} {a b : Members} {items : List Json}

theorem refersStatically_iff {value : Json} : value.RefersStatically ↔
    value.stringMember? "$recursiveRef" = none ∧ value.stringMember? "$dynamicRef" = none := by
  constructor
  · exact fun static => ⟨static .recursive (by decide), static .dynamic (by decide)⟩
  · rintro ⟨recursive, dynamic⟩ keyword other
    cases keyword with
    | static => exact absurd rfl other
    | recursive => exact recursive
    | dynamic => exact dynamic

theorem static_arr_iff : (arr items).Static ↔ ∀ item ∈ items, item.Static := by
  unfold Static
  rw [throughout_arr_iff]
  exact ⟨And.right, fun each => ⟨fun _ _ => rfl, each⟩⟩

theorem static_obj_iff : (obj a).Static ↔ (obj a).RefersStatically ∧ ∀ entry ∈ a, entry.2.Static := throughout_obj_iff

theorem static_empty : Json.empty.Static := static_obj_iff.mpr ⟨fun _ _ => rfl, nofun⟩

theorem Static.of_mem_parts (static : x.Static) (inside : part ∈ x.parts) : part.Static :=
  Throughout.of_mem_parts static inside

theorem static_required (names : List String) : (obj [("required", .ofStrings names)]).Static := by
  refine static_obj_iff.mpr ⟨fun keyword _ => by cases keyword <;> rfl, ?_⟩
  rw [List.forall_mem_singleton, ofStrings, static_arr_iff]
  intro item inside
  obtain ⟨text, -, rfl⟩ := List.mem_map.mp inside
  exact (throughout_str_iff text).mpr fun _ _ => rfl

/-- Leaving out members makes no dynamic reference. -/
theorem Static.without (static : (obj a).Static) (dropped : String → Bool) : (obj (Members.without a dropped)).Static := by
  rw [static_obj_iff] at static ⊢
  refine ⟨fun keyword dynamic => ?_, fun entry inside => static.2 entry (List.mem_of_mem_filter inside)⟩
  rw [stringMember?, member?, lookup_without]
  split
  · rfl
  · exact static.1 keyword dynamic

/-- Merging makes no dynamic reference. -/
theorem Static.mergeUnder (left : x.Static) (right : y.Static) (keyword : Option String) :
    (JsonSchema.mergeUnder keyword x y).Static :=
  Throughout.mergeUnder (fun _ _ _ => rfl)
    (fun _ _ first second kind other => stringMember?_mergedMembers (first kind other) (second kind other)) left right keyword

theorem Static.merge (left : x.Static) (right : y.Static) : (JsonSchema.merge x y).Static := left.mergeUnder right none

/-- A member that is made absolute stays a text, or it is left or made absolute as a whole. -/
theorem rebasedMember_cases (base own : Uri) (name : String) (value : Json) :
    (∃ text text', value = .str text ∧ rebasedMember base own name value = .str text') ∨
      (∀ text, value ≠ .str text) ∧
        (rebasedMember base own name value = value ∨ rebasedMember base own name value = JsonSchema.rebase own value) := by
  cases value with
  | str text =>
    refine .inl ⟨text, ?_⟩
    unfold rebasedMember
    split_ifs <;> exact ⟨_, rfl, rfl⟩
  | _ =>
    refine .inr ⟨by simp, ?_⟩
    rw [rebasedMember_of_not_str (by simp)]
    split_ifs
    · exact .inl rfl
    · exact .inr rfl

/-- Making references absolute makes none dynamic. -/
theorem Static.rebase (static : x.Static) (base : Uri) : (JsonSchema.rebase base x).Static := by
  induction depth : x.depth using Nat.strong_induction_on generalizing x base with
  | _ n ih =>
    cases x with
    | arr items =>
      rw [rebase_arr, static_arr_iff]
      rw [static_arr_iff] at static
      intro item inside
      obtain ⟨own, listed, rfl⟩ := List.mem_map.mp inside
      exact ih _ (depth ▸ depth_lt_of_mem_items listed) (static own listed) base rfl
    | obj members =>
      rw [static_obj_iff] at static
      rw [JsonSchema.rebase, static_obj_iff]
      refine ⟨fun kind other => ?_, fun entry inside => ?_⟩
      · have none := static.1 kind other
        rw [stringMember?, member?] at none ⊢
        rw [lookup_rebaseMembers]
        cases found : members.lookup kind.name with
        | none => rfl
        | some value =>
          rw [found] at none
          rcases rebasedMember_cases base (ownBase base members) kind.name value with
            ⟨text, text', rfl, -⟩ | ⟨-, same | same⟩
          · cases none
          · rwa [Option.map_some, same]
          · rw [Option.map_some, same]
            exact (string?_rebase value).trans none
      · rw [rebaseMembers_eq] at inside
        obtain ⟨⟨name, value⟩, listed, rfl⟩ := List.mem_map.mp inside
        have own := static.2 _ listed
        rcases rebasedMember_cases base (ownBase base members) name value with ⟨_, text, -, same⟩ | ⟨-, same | same⟩
        · simp only [same]
          exact (throughout_str_iff text).mpr fun _ _ => rfl
        · simpa only [same] using own
        · simp only [same]
          exact ih _ (depth ▸ depth_lt_of_mem_members listed) own _ rfl
    | _ => exact static

/-- Rebasing changes texts only. -/
theorem depth_rebase_le {x : Json} {bound : Nat} (shallow : x.depth ≤ bound) (base : Uri) :
    (JsonSchema.rebase base x).depth ≤ bound := by
  induction bound generalizing x base with
  | zero =>
    cases x with
    | arr | obj => cases shallow
    | _ => exact shallow
  | succ bound ih =>
    cases x with
    | arr items =>
      rw [rebase_arr]
      rw [depth_arr_le_iff] at shallow ⊢
      intro item inside
      obtain ⟨own, listed, rfl⟩ := List.mem_map.mp inside
      exact ih (shallow own listed) base
    | obj members =>
      rw [JsonSchema.rebase, rebaseMembers_eq]
      rw [depth_obj_le_iff] at shallow ⊢
      intro key value inside
      obtain ⟨⟨name, own⟩, listed, same⟩ := List.mem_map.mp inside
      obtain ⟨rfl, rfl⟩ := Prod.mk.inj same
      rcases rebasedMember_cases base (ownBase base members) name own with ⟨_, text, -, same⟩ | ⟨-, same | same⟩
      · rw [same]
        exact Nat.zero_le _
      · rw [same]
        exact shallow name own listed
      · rw [same]
        exact ih (shallow name own listed) _
    | _ => exact shallow

end Json

/-! ## Fragments -/

/-- A compiled fragment in whose schema no object refers dynamically. -/
structure Fragment.IsStatic (draft : Draft) (f : Fragment) : Prop where
  compiled : f.IsCompiled draft
  schema : f.schema.Static

namespace Fragment.IsStatic

variable {draft : Draft} {f g : Fragment}

theorem reaches (static : f.IsStatic draft) (reaches : f.Reaches g) : g.IsStatic draft := by
  refine ⟨static.compiled.reaches reaches, ?_⟩
  obtain ⟨source, outer, compiled⟩ := static.compiled
  exact static.schema.of_mem_parts (compiled.mem_parts reaches)

theorem child (static : f.IsStatic draft) (has : f.HasChild g) : g.IsStatic draft := static.reaches (.single has)

theorem of_derive {site : Site} {schema : Json} (static : schema.Static) (derived : derive draft site schema = .ok f) :
    f.IsStatic draft :=
  ⟨isCompiled_of_derive derived, (schema_of_derive derived).symm ▸ static⟩

theorem keyword_eq {keyword : ReferenceKeyword} {reference : String} (static : f.IsStatic draft)
    (refers : f.reference? draft = some (keyword, reference)) : keyword = .static := by
  by_contra other
  have text := Context.stringMember?_of_reference? refers
  rw [static.schema.self keyword other] at text
  cases text

theorem siblings (static : f.IsStatic draft) : (siblings f.schema).Static := by
  have own := static.schema
  unfold JsonSchema.siblings
  split
  · rename_i members same
    rw [same] at own
    exact own.without _
  · exact Json.static_empty

theorem mergeTarget (static : f.IsStatic draft) : (mergeTarget f).Static := by
  unfold JsonSchema.mergeTarget
  split
  · exact Json.static_empty
  · exact static.schema.rebase _

end Fragment.IsStatic

namespace Context

/-- No object in the documents of an index refers dynamically. -/
structure Static (context : Context) : Prop where
  fragments : ∀ f ∈ context.index.fragments, f.IsStatic context.draft
  documents : ∀ entry ∈ context.index.documents, entry.2.Static

variable {context : Context} {f g final : Fragment} {scope inner left right : Scope}

theorem Static.wellCompiled (static : context.Static) : context.index.WellCompiled context.draft :=
  fun f indexed => (static.fragments f indexed).compiled

theorem Static.target (static : context.Static) {keyword : ReferenceKeyword} {reference : String}
    (found : context.target? f keyword reference scope = some g) : g.IsStatic context.draft := by
  obtain ⟨resource, identifier, -, named | indexed⟩ := target?_eq_some found
  · rcases lookup?_eq_some named with indexed | ⟨pointer, document, schema, listed, resolved, derived⟩
    · exact static.fragments g indexed
    · exact .of_derive ((static.documents _ (mem_of_lookup listed)).of_mem_parts (Json.mem_parts_of_resolve? resolved)) derived
  · exact static.fragments g indexed

theorem Static.follow? (own : f.IsStatic context.draft) (target : g.IsStatic context.draft) {next : Fragment}
    (followed : context.follow? f g = some next) : next.IsStatic context.draft := by
  by_cases merges : (context.draft.mergesSiblings && hasSiblings f.schema) = true
  · exact .of_derive (target.mergeTarget.merge own.siblings) (derive_of_follow? merges followed)
  · rw [Context.follow?, if_neg merges] at followed
    cases followed
    exact target

theorem Static.leadsWithin (static : context.Static) : context.LeadsWithin (·.IsStatic context.draft) :=
  ⟨fun _ found => static.target found, fun own target followed => Static.follow? own target followed⟩

/-- What a fragment without dynamic references stands for has none. -/
theorem Static.chain (static : context.Static) {seen : List String} (own : f.IsStatic context.draft)
    (chain : Chain context seen f scope final inner) : final.IsStatic context.draft :=
  (static.leadsWithin.chain chain own).1

theorem Static.inside? (static : context.Static) (own : f.IsStatic context.draft)
    (inside : context.inside? f scope = some (final, inner)) : final.IsStatic context.draft :=
  static.chain own (chain_of_inside? inside)

theorem Static.settle (static : context.Static) (own : f.IsStatic context.draft) (scope : Scope) :
    (context.settle f scope).IsStatic context.draft := by
  rcases context.settle_eq_or_chain f scope with same | ⟨inner, chain⟩
  · rwa [same]
  · exact static.chain own chain

/-- All scopes lead fragments without dynamic references to the same targets. -/
theorem Static.guides (static : context.Static) {R : Scope → Scope → Prop}
    (enter : ∀ {left right : Scope}, R left right → ∀ fragment, R (left.enter fragment) (right.enter fragment)) :
    Scope.GuidesWithin context (·.IsStatic context.draft) R where
  target _ _ _ _ own refers := by
    rw [own.keyword_eq refers]
    rfl
  follow own found followed := Static.follow? own (static.target found) followed
  enter := enter

end Context

/-! ## Compiled documents -/

/-- A schema that is compiled from documents without dynamic references has none. -/
theorem Compiler.static_of_compile {compiler : Compiler} {schema : Json} {node : Node}
    (static : ∀ document ∈ compiler.documents schema, document.Static) (compiled : compiler.compile schema = .ok node) :
    node.context.Static ∧ node.fragment.IsStatic node.context.draft := by
  obtain ⟨made, holds⟩ := madeOf_of_compile compiled
  have rooted {root : Fragment} (holds : node.context.index.Holds node.context.draft root)
      (static : root.schema.Static) : root.IsStatic node.context.draft := by
    obtain ⟨source, base, compiled, -⟩ := holds.compiled
    exact ⟨⟨source, _, compiled⟩, static⟩
  refine ⟨⟨fun f indexed => ?_, fun entry listed => ?_⟩, rooted holds ?_⟩
  · obtain ⟨root, holds, listed, reaches⟩ := made.fragments f indexed
    exact (rooted holds (static _ listed)).reaches reaches
  · obtain ⟨document, listed, inside⟩ := made.documents entry listed
    exact (static document listed).of_mem_parts inside
  · obtain ⟨-, -, -, position, made⟩ := root_of_compile compiled
    rw [(Fragment.compile_eq_ok.mp made).schema_eq]
    exact static schema List.mem_cons_self

/-- Where no documents are supplied, only the schema itself counts. -/
theorem Compiler.static_of_standard {schema : Json} {node : Node} (static : schema.Static)
    (compiled : standard.compile schema = .ok node) :
    node.context.Static ∧ node.fragment.IsStatic node.context.draft := by
  have documents : ∀ document ∈ standard.documents schema, document.Static := List.forall_mem_singleton.mpr static
  exact static_of_compile documents compiled

end JsonSchema
