import JsonSchema.Proofs.Check.Congruence
import JsonSchema.Proofs.Reference.Chain

/-!
# Plain schemas anywhere

What a plain schema accepts does not depend on where it stands or on the scope it is reached through,
as long as no check is under way at a location as long as its own. For the guard against endless
checks never meets a location again: below a plain schema every location is longer than the last.
-/

namespace JsonSchema

/-- Nothing is being checked in a scope at the location of a fragment that is below another one. -/
def Scope.FreeBelow (scope : Scope) (f : Fragment) : Prop :=
  ∀ frame ∈ scope, frame.instance? ≠ none → ∀ d, f.IsAbove d → frame.fragment.location ≠ d.location

/-- The same of a fragment and all that is below it. -/
def Scope.FreeAt (scope : Scope) (f : Fragment) : Prop :=
  ∀ frame ∈ scope, frame.instance? ≠ none → ∀ d, f.Reaches d → frame.fragment.location ≠ d.location

/-- The same of the children of a fragment under some keywords and all that is below them. -/
def Scope.FreeWithin (scope : Scope) (f : Fragment) (names : List String) : Prop :=
  ∀ entry ∈ f.childrenWithin names, scope.FreeAt entry.2

namespace Scope

variable {scope : Scope} {f c : Fragment}

theorem Idle.freeAt (idle : scope.Idle) (f : Fragment) : scope.FreeAt f :=
  fun frame inside checked => absurd (idle frame inside) checked

theorem Idle.not_isChecking (idle : scope.Idle) (location : String) (pointer : Pointer) :
    scope.isChecking location pointer = false := by
  rw [isChecking, List.any_eq_false]
  intro frame inside
  simp [idle frame inside]

theorem freeAt_nil (f : Fragment) : FreeAt [] f := fun _ inside => nomatch inside

theorem FreeAt.not_isChecking (free : scope.FreeAt f) (pointer : Pointer) :
    scope.isChecking f.location pointer = false := by
  rw [isChecking, List.any_eq_false]
  intro frame inside checked
  obtain ⟨instance?, location⟩ := Bool.and_eq_true_iff.mp checked
  have known : frame.instance? ≠ none := by simp [of_decide_eq_true instance?]
  exact free frame inside known f .refl (beq_iff_eq.mp location)

theorem FreeBelow.freeAt (free : scope.FreeBelow f) (above : f.IsAbove c) : scope.FreeAt c :=
  fun frame inside checked d reaches => free frame inside checked d (above.trans_left reaches)

theorem FreeAt.child (free : scope.FreeAt f) (has : f.HasChild c) : scope.FreeAt c :=
  fun frame inside checked d reaches => free frame inside checked d (.head has reaches)

theorem FreeBelow.freeWithin (free : scope.FreeBelow f) (names : List String) : scope.FreeWithin f names :=
  fun entry inside => free.freeAt (.single ⟨entry.1, List.mem_of_mem_filter inside⟩)

/-- Entering a fragment of a plain schema leaves what is below it free. -/
theorem FreeAt.enterAt {draft : Draft} {source : Origin} {outer : Site} {schema : Json} (free : scope.FreeAt f)
    (plain : schema.Plain draft) (compiled : Fragment.Compiled draft source outer schema f) (pointer : Pointer) :
    (scope.enterAt f pointer).FreeBelow f := by
  intro frame inside checked d above same
  rcases List.mem_cons.mp inside with rfl | outer
  · have longer := plain.location_lt compiled above
    rw [same] at longer
    exact Nat.lt_irrefl _ longer
  · exact free frame outer checked d above.to_reflTransGen same

end Scope

namespace Fragment

variable {draft : Draft} {source source' : Origin} {outer outer' : Site} {a b : Members} {f g : Fragment}

/-- Two fragments are compiled from one plain schema, and nothing is being checked at them or below them. -/
def Twins (draft : Draft) (scope scope' : Scope) (c c' : Fragment) : Prop :=
  ∃ schema source source' outer outer', schema.Plain draft ∧ Compiled draft source outer schema c ∧
    Compiled draft source' outer' schema c' ∧ scope.FreeAt c ∧ scope'.FreeAt c'

private theorem forall₂_join {α β γ : Type} {r : α → β → Prop} {s : α → γ → Prop} {xs : List α} {ys : List β}
    {zs : List γ} (left : List.Forall₂ r xs ys) (right : List.Forall₂ s xs zs) :
    List.Forall₂ (fun y z => ∃ x, r x y ∧ s x z) ys zs := by
  induction left generalizing zs with
  | nil =>
    cases right
    exact .nil
  | cons first _ ih =>
    cases right with
    | cons first' rest => exact .cons ⟨_, first, first'⟩ (ih rest)

/-- A fragment of a plain schema and any other one agree on the keywords that the schemas agree on. -/
theorem agree_of_lookup (left : FromObject draft source outer a (Compiled draft source) f)
    (right : FromObject draft source' outer' b (Compiled draft source') g) (plain : (Json.obj a).Plain draft)
    {names : List String} (same : ∀ name ∈ names, a.lookup name = b.lookup name) {scope scope' : Scope}
    (free : scope.FreeWithin f names) (free' : scope'.FreeWithin g names) :
    Agree names (Twins draft scope scope') f g where
  keyword? name inside := by
    rw [Fragment.keyword?, Fragment.keyword?, left.schema, right.schema]
    exact same name inside
  pattern inside := by
    have read := left.pattern
    rw [patternOf, same _ inside] at read
    have read := (patternOf_placed _ g.site.pointer).mp read
    rw [right.pattern] at read
    exact (Except.ok.inj read).symm
  children := by
    have parts := left.childrenWithin names
    have parts' := right.childrenWithin names
    rw [← subschemas_filter_congr same] at parts'
    have known := (List.forall₂_and_left (p := fun entry : Slot × Json => entry.2.Plain draft) _ _).mpr ⟨?_, parts⟩
    · have related := forall₂_join known parts'
      refine (List.forall₂_iff_zip.mpr ⟨related.length_eq, fun {own own'} paired => ?_⟩)
      obtain ⟨⟨part, sub⟩, ⟨plain, slot, compiled⟩, slot', compiled'⟩ := (List.forall₂_iff_zip.mp related).2 paired
      obtain ⟨member, member'⟩ := List.of_mem_zip paired
      exact ⟨slot.symm.trans slot', sub, _, _, _, _, plain, compiled, compiled', free own member, free' own' member'⟩
    · intro entry inside
      cases plain with
      | obj _ _ _ below => exact below entry (List.mem_of_mem_filter inside)

/-- Fragments of one plain schema have related properties. -/
theorem Twins.property? {scope scope' : Scope} {c c' : Fragment} (twins : Twins draft scope scope' c c') (name : String) :
    Option.Rel (Twins draft scope scope') (c.property? name) (c'.property? name) := by
  obtain ⟨schema, source, source', outer, outer', plain, compiled, compiled', free, free'⟩ := twins
  have within {scope : Scope} {f : Fragment} (free : scope.FreeAt f) : scope.FreeWithin f ["properties"] :=
    fun entry inside => free.child ⟨entry.1, List.mem_of_mem_filter inside⟩
  rcases compiled.bool_or_obj with ⟨b, rfl⟩ | ⟨members, rfl⟩
  · rw [compiled_bool.mp compiled, compiled_bool.mp compiled']
    exact .none
  · have agree := agree_of_lookup (compiled_obj.mp compiled) (compiled_obj.mp compiled') plain (fun _ _ => rfl)
      (within free) (within free')
    exact agree.property? (by decide) name

end Fragment

namespace Context

open Fragment

variable {context : Context} {f g : Fragment} {scope scope' : Scope}

theorem settle_eq (unreferring : f.reference? context.draft = none) : context.settle f scope = f := by
  simp [settle, resolve, unreferring]

/-- The check of a fragment without reference that is not under way. -/
theorem validateStep_eq {judge : Judge} (unreferring : f.reference? context.draft = none) {pointer : Pointer}
    (free : scope.isChecking f.location pointer = false) (data : Json) :
    context.validateStep judge f data pointer scope =
      context.validateSettled judge f data pointer (scope.enterAt f pointer) := by
  simp [validateStep, free, resolve, unreferring]

theorem validateSettled_bool {judge : Judge} {b : Bool} (schema : f.schema = .bool b) (data : Json) (pointer : Pointer) :
    verdict (context.validateSettled judge f data pointer scope) = some b := by
  rw [validateSettled, schema]
  cases b <;> rfl

theorem validateSettled_obj {judge : Judge} {members : Members} (schema : f.schema = .obj members) (data : Json)
    (pointer : Pointer) : context.validateSettled judge f data pointer scope =
      gather ((context.draft.keywords.filter fun keyword => keyword.isPresent context.draft members).filter fun keyword =>
        context.draft.applies keyword (TypeName.of data)) (Visit.mk context judge f data pointer scope).check := by
  simp only [validateSettled, Fragment.keywords, schema]

/-- To a depth, plain schemas come to the same verdict wherever they stand. -/
def Relocates (context : Context) (depth : Nat) : Prop :=
  ∀ (schema : Json) (source source' : Origin) (outer outer' : Site) (f g : Fragment) (scope scope' : Scope)
    (data : Json) (pointer pointer' : Pointer), schema.Plain context.draft →
    Compiled context.draft source outer schema f → Compiled context.draft source' outer' schema g →
    scope.FreeAt f → scope'.FreeAt g →
    verdict ((context.judge depth).validate f data pointer scope) =
      verdict ((context.judge depth).validate g data pointer' scope')

theorem Relocates.parallel {depth : Nat} (relocates : context.Relocates depth) (data : Json)
    (pointer pointer' : Pointer) (format : ∀ name rule, context.formats.rule? name = some rule →
      rule f.schema data = rule g.schema data) :
    Visit.Parallel (Twins context.draft scope scope') ⟨context, context.judge depth, f, data, pointer, scope⟩
      ⟨context, context.judge depth, g, data, pointer', scope'⟩ where
  context := rfl
  data := rfl
  format := format
  refused := by
    rintro c c' ⟨schema, source, source', outer, outer', -, compiled, compiled', -⟩
    rw [Fragment.isBool, Fragment.isBool, compiled.schema_eq, compiled'.schema_eq]
  judged := by
    rintro c c' ⟨schema, source, source', outer, outer', plain, compiled, compiled', free, free'⟩ value p q
    exact relocates schema source source' outer outer' c c' _ _ value p q plain compiled compiled' free free'
  settled := by
    intro c c' twins name
    obtain ⟨schema, source, source', outer, outer', plain, compiled, compiled', -⟩ := id twins
    rw [settle_eq (plain.reference?_eq_none compiled), settle_eq (plain.reference?_eq_none compiled')]
    exact twins.property? name

theorem not_isPresent_unevaluated {members : Members} (plain : (Json.obj members).Plain context.draft) {keyword : Keyword}
    (present : keyword.isPresent context.draft members = true) :
    keyword ≠ .unevaluatedItems ∧ keyword ≠ .unevaluatedProperties := by
  cases plain with
  | obj _ _ evaluated =>
    constructor
    · rintro rfl
      simp [Keyword.isPresent, Members.has, Keyword.name, evaluated "unevaluatedItems" (by simp)] at present
    · rintro rfl
      simp [Keyword.isPresent, Members.has, Keyword.name, evaluated "unevaluatedProperties" (by simp)] at present

/-- Inside plain schemas with nothing below them being checked, the verdict is the same if it is one level down. -/
theorem Relocates.settled {depth : Nat} (relocates : context.Relocates depth) {schema : Json}
    {source source' : Origin} {outer outer' : Site}
    (plain : schema.Plain context.draft) (compiled : Compiled context.draft source outer schema f)
    (compiled' : Compiled context.draft source' outer' schema g) (free : scope.FreeBelow f) (free' : scope'.FreeBelow g)
    (data : Json) (pointer pointer' : Pointer) :
    verdict (context.validateSettled (context.judge depth) f data pointer scope) =
      verdict (context.validateSettled (context.judge depth) g data pointer' scope') := by
  rcases compiled.bool_or_obj with ⟨b, rfl⟩ | ⟨members, rfl⟩
  · rw [validateSettled_bool compiled.schema_eq, validateSettled_bool compiled'.schema_eq]
  · rw [validateSettled_obj compiled.schema_eq, validateSettled_obj compiled'.schema_eq]
    have parallel := @Relocates.parallel context f g scope scope' depth relocates data pointer pointer' fun _ rule _ => by
      rw [compiled.schema_eq, compiled'.schema_eq]
    refine verdict_gather_congr fun keyword listed => ?_
    have present := (List.mem_filter.mp (List.mem_of_mem_filter listed)).2
    exact Visit.verdict_check_congr parallel (not_isPresent_unevaluated plain present)
      (agree_of_lookup (compiled_obj.mp compiled) (compiled_obj.mp compiled') plain (fun _ _ => rfl)
        (free.freeWithin _) (free'.freeWithin _))

/-- What a plain schema accepts does not depend on where it stands. -/
theorem relocates (depth : Nat) : context.Relocates depth := by
  induction depth with
  | zero => exact fun _ _ _ _ _ _ _ _ _ _ _ _ _ _ _ _ _ => rfl
  | succ depth ih =>
    intro schema source source' outer outer' f g scope scope' data pointer pointer' plain compiled compiled' free free'
    change verdict (context.validateStep _ f data pointer scope) =
      verdict (context.validateStep _ g data pointer' scope')
    rw [validateStep_eq (plain.reference?_eq_none compiled) (free.not_isChecking pointer),
      validateStep_eq (plain.reference?_eq_none compiled') (free'.not_isChecking pointer')]
    exact ih.settled plain compiled compiled' (free.enterAt plain compiled pointer)
      (free'.enterAt plain compiled' pointer') data pointer pointer'

end Context
end JsonSchema
