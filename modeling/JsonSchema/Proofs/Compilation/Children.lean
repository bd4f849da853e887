import JsonSchema.Proofs.Json.Place
import JsonSchema.Schema.Compilation

/-!
# Children of compiled schemas

Every child of a compiled fragment is compiled from a part of the fragment's schema, for the site
below the fragment's own. The part stands where the slot of the child says, but for one slot:
where `prefixItems` is no array, it takes the place of `items`.
-/

namespace JsonSchema

/-! ## Steps -/

section
variable {members : Members} {pointer : Pointer} {slot : Slot} {sub : Json}

theorem mem_stepOne {name : String} {own : Slot} :
    .child slot sub ∈ stepOne members name own ↔ slot = own ∧ members.lookup name = some sub := by
  cases found : members.lookup name <;> simp [stepOne, found, eq_comm]

theorem mem_stepMembers {name : String} {make : String → Json → Step}
    (step : .child slot sub ∈ stepMembers pointer members name make) : ∃ entries key value,
      members.lookup name = some (.obj entries) ∧ (key, value) ∈ entries ∧ make key value = .child slot sub := by
  unfold stepMembers at step
  split at step
  · cases step
  · rename_i entries found
    obtain ⟨⟨key, value⟩, inside, made⟩ := List.mem_map.mp step
    exact ⟨entries, key, value, found, inside, made⟩
  · simp at step

theorem mem_stepItems {keyword : Keyword} (step : .child slot sub ∈ stepItems pointer members keyword) :
    ∃ (items : List Json) (index : Nat), members.lookup keyword.name = some (.arr items) ∧ items[index]? = some sub ∧
      slot = .member keyword index := by
  unfold stepItems at step
  split at step
  · cases step
  · rename_i items found
    obtain ⟨⟨item, index⟩, inside, same⟩ := List.mem_map.mp step
    cases same
    exact ⟨items, index, found, List.mk_mem_zipIdx_iff_getElem?.mp inside, rfl⟩
  · simp at step

theorem mem_stepDependencies {keyword : Keyword} (step : .child slot sub ∈ stepDependencies pointer members keyword) :
    ∃ entries key, members.lookup keyword.name = some (.obj entries) ∧ (key, sub) ∈ entries ∧
      slot = .dependency keyword key := by
  unfold stepDependencies at step
  split at step
  · cases step
  · rename_i entries found
    obtain ⟨⟨key, value⟩, inside, made⟩ := List.mem_flatMap.mp step
    have same : slot = .dependency keyword key ∧ sub = value := by
      cases value with
      | obj | bool | arr =>
        simp only [stepDependency] at made
        split at made <;> simp_all
      | _ => simp [stepDependency] at made
    obtain ⟨rfl, rfl⟩ := same
    exact ⟨entries, key, found, inside, rfl⟩
  · simp at step

/-- A schema object with one keyword, which asks for no dependencies, has no dependent subschemas. -/
theorem stepDependencies_singleton {name : String} (other : ∀ keyword ∈ Fragment.dependencyKeywords, keyword.name ≠ name)
    (draft : Draft) (value : Json) :
    (Fragment.dependencyKeywords.filter draft.knows).flatMap (stepDependencies pointer [(name, value)]) = [] := by
  refine List.flatMap_eq_nil_iff.mpr fun keyword known => ?_
  rw [stepDependencies, List.lookup_cons, beq_false_of_ne (other keyword (List.mem_of_mem_filter known))]
  rfl

/-- The keyword of the items that have positions of their own. -/
def tupleName (draft : Draft) (members : Members) : String :=
  if draft.hasPrefixItems && members.has "prefixItems" then "prefixItems" else "items"

/-- The keyword of the items after them. -/
def restName (draft : Draft) (members : Members) : String :=
  if tupleName draft members = "prefixItems" then "items" else "additionalItems"

/-- Items have schemas at their positions and one for what follows, or one schema for all. -/
inductive ArrayStep (draft : Draft) (members : Members) : Slot → Json → Prop where
  | position {items : List Json} {index : Nat} {sub : Json}
      (found : members.lookup (tupleName draft members) = some (.arr items)) (inside : items[index]? = some sub) :
      ArrayStep draft members (.tupleItem (tupleName draft members) index) sub
  | rest {items : List Json} {sub : Json} (found : members.lookup (tupleName draft members) = some (.arr items))
      (other : members.lookup (restName draft members) = some sub) :
      ArrayStep draft members (.restItems (restName draft members)) sub
  | all {sub : Json} (found : members.lookup (tupleName draft members) = some sub)
      (noArray : ∀ items, sub ≠ .arr items) : ArrayStep draft members (.restItems "items") sub

theorem arrayStep_of_stepArray {draft : Draft} (step : .child slot sub ∈ stepArray draft members) :
    ArrayStep draft members slot sub := by
  unfold stepArray at step
  simp only at step
  split at step
  · cases step
  · rename_i items found
    rcases List.mem_append.mp step with item | rest
    · obtain ⟨⟨item, index⟩, inside, same⟩ := List.mem_map.mp item
      cases same
      exact .position found (List.mk_mem_zipIdx_iff_getElem?.mp inside)
    · obtain ⟨rfl, other⟩ := mem_stepOne.mp rest
      exact .rest found other
  · rename_i value noArray found
    obtain ⟨rfl, rfl⟩ : slot = .restItems "items" ∧ sub = value := by simpa using step
    exact .all found noArray

end

/-! ## Places of subschemas -/

/-- The keywords whose values have subschemas. -/
def applicators : List String := [
  "properties", "patternProperties", "additionalProperties", "propertyNames", "unevaluatedProperties",
  "dependencies", "dependentRequired", "dependentSchemas", "items", "prefixItems", "additionalItems",
  "contains", "unevaluatedItems", "not", "allOf", "anyOf", "oneOf", "if", "then", "else", "definitions", "$defs"]

/-- The name under which a map of subschemas has the one in a slot. -/
def Slot.entry? : Slot → Option String
  | .property name => some name
  | .patternProperty regex => some regex.source
  | .dependency _ name => some name
  | .definition _ name => some name
  | _ => none

/-- A slot is filled from a keyword: by its value, by a member of its value, or by an item of it.
All members of such a value have steps, or are lists of names. -/
inductive Fills (members : Members) (all : List Step) : Slot → List String → Json → Prop where
  | whole {slot : Slot} {name : String} {sub : Json} (applies : name ∈ applicators)
      (found : members.lookup name = some sub)
      (place : slot.segments = [name] ∨ slot = .restItems "items" ∧ name = "prefixItems")
      (alone : slot.entry? = none) :
      Fills members all slot [name] sub
  | entry {slot : Slot} {name key : String} {entries : Members} {sub : Json} (applies : name ∈ applicators)
      (found : members.lookup name = some (.obj entries)) (inside : (key, sub) ∈ entries)
      (place : slot.segments = [name, key]) (named : slot.entry? = some key)
      (stepped : ∀ key text, (key, .str text) ∈ entries →
        (∃ fault, .refuse fault ∈ all) ∨ ∃ other, .child other (.str text) ∈ all) :
      Fills members all slot [name, key] sub
  | item {slot : Slot} {name : String} {index : Nat} {items : List Json} {sub : Json} (applies : name ∈ applicators)
      (found : members.lookup name = some (.arr items)) (inside : items[index]? = some sub)
      (place : slot.segments = [name, toString index]) (alone : slot.entry? = none) :
      Fills members all slot [name, toString index] sub

namespace Fills

variable {members : Members} {all more : List Step} {slot : Slot} {segments : List String} {sub : Json}

theorem mono (fills : Fills members all slot segments sub) (subset : all ⊆ more) :
    Fills members more slot segments sub := by
  cases fills with
  | whole applies found place alone => exact .whole applies found place alone
  | entry applies found inside place named stepped =>
    refine .entry applies found inside place named fun key text member => ?_
    rcases stepped key text member with ⟨fault, refused⟩ | ⟨other, step⟩
    · exact .inl ⟨fault, subset refused⟩
    · exact .inr ⟨other, subset step⟩
  | item applies found inside place alone => exact .item applies found inside place alone

theorem ne_nil (fills : Fills members all slot segments sub) : segments ≠ [] := by
  cases fills <;> simp

/-- The subschema of a slot stands below its schema. -/
theorem place (fills : Fills members all slot segments sub) : Json.At (.obj members) segments sub := by
  cases fills with
  | whole _ found => exact Json.at_of_lookup found
  | entry _ found inside => exact .member (mem_of_lookup found) (.member inside .here)
  | item _ found inside => exact .member (mem_of_lookup found) (.item inside .here)

end Fills

section
variable {members : Members} {pointer : Pointer} {slot : Slot} {sub : Json}

private theorem fills_of_stepOne {name : String} {own : Slot} (applies : name ∈ applicators)
    (named : own.segments = [name]) (alone : own.entry? = none)
    (step : .child slot sub ∈ stepOne members name own) :
    Fills members (stepOne members name own) slot [name] sub := by
  obtain ⟨rfl, found⟩ := mem_stepOne.mp step
  exact .whole applies found (.inl named) alone

private theorem fills_of_stepMembers {name : String} {make : String → Json → Step} (applies : name ∈ applicators)
    (made : ∀ key value, (∃ fault, make key value = .refuse fault) ∨
      ∃ own, make key value = .child own value ∧ own.segments = [name, key] ∧ own.entry? = some key)
    (step : .child slot sub ∈ stepMembers pointer members name make) :
    ∃ segments, Fills members (stepMembers pointer members name make) slot segments sub := by
  obtain ⟨entries, key, value, found, inside, same⟩ := mem_stepMembers step
  have listed {key : String} {value : Json} (member : (key, value) ∈ entries) :
      make key value ∈ stepMembers pointer members name make := by
    rw [stepMembers, found]
    exact List.mem_map_of_mem (f := fun entry : String × Json => make entry.1 entry.2) member
  rcases made key value with ⟨fault, refused⟩ | ⟨own, child, place, named⟩
  · rw [refused] at same
    cases same
  · rw [child] at same
    cases same
    refine ⟨_, .entry applies found inside place named fun key text member => ?_⟩
    rcases made key (.str text) with ⟨fault, refused⟩ | ⟨own, child, -⟩
    · exact .inl ⟨fault, refused ▸ listed member⟩
    · exact .inr ⟨own, child ▸ listed member⟩

private theorem fills_of_stepItems {keyword : Keyword} (applies : keyword.name ∈ applicators)
    (step : .child slot sub ∈ stepItems pointer members keyword) :
    ∃ segments, Fills members (stepItems pointer members keyword) slot segments sub := by
  obtain ⟨items, index, found, inside, rfl⟩ := mem_stepItems step
  exact ⟨_, .item applies found inside rfl rfl⟩

private theorem source_of_readPattern {pattern : String} {regex : Regex}
    (read : readPattern pointer pattern = .ok regex) : regex.source = pattern := by
  unfold readPattern at read
  split at read
  · rename_i compiled
    cases read
    unfold Regex.compile at compiled
    split at compiled
    · cases compiled
    · split at compiled
      · cases compiled
        rfl
      · cases compiled
  · cases read

theorem stepPattern_eq (key : String) (value : Json) :
    (∃ fault, stepPattern pointer key value = .refuse fault) ∨
      ∃ own, stepPattern pointer key value = .child own value ∧ own.segments = ["patternProperties", key] ∧
        own.entry? = some key := by
  unfold stepPattern
  cases read : readPattern pointer key with
  | error fault => exact .inl ⟨fault, rfl⟩
  | ok regex =>
    have source := source_of_readPattern read
    exact .inr ⟨.patternProperty regex, rfl, by simp [Slot.segments, source], by simp [Slot.entry?, source]⟩

private theorem fills_of_stepDependencies {keyword : Keyword} (applies : keyword.name ∈ applicators)
    (step : .child slot sub ∈ stepDependencies pointer members keyword) :
    ∃ segments, Fills members (stepDependencies pointer members keyword) slot segments sub := by
  obtain ⟨entries, key, found, inside, rfl⟩ := mem_stepDependencies step
  refine ⟨_, .entry applies found inside rfl rfl fun key text member => .inl ⟨.dependency key pointer, ?_⟩⟩
  rw [stepDependencies, found]
  exact List.mem_flatMap.mpr ⟨(key, .str text), member, by simp [stepDependency]⟩

private theorem fills_of_stepArray {draft : Draft} (step : .child slot sub ∈ stepArray draft members) :
    ∃ segments, Fills members (stepArray draft members) slot segments sub := by
  have tuple : tupleName draft members = "prefixItems" ∨ tupleName draft members = "items" := by
    unfold tupleName
    split
    · exact .inl rfl
    · exact .inr rfl
  cases arrayStep_of_stepArray step with
  | position found inside =>
    refine ⟨_, .item ?_ found inside rfl rfl⟩
    rcases tuple with same | same <;> rw [same] <;> decide
  | rest found other =>
    refine ⟨_, .whole ?_ other (.inl rfl) rfl⟩
    unfold restName
    split <;> decide
  | all found noArray =>
    rcases tuple with same | same
    · rw [same] at found
      exact ⟨_, .whole (by decide) found (.inr ⟨rfl, rfl⟩) rfl⟩
    · rw [same] at found
      exact ⟨_, .whole (by decide) found (.inl rfl) rfl⟩

/-- Every step fills its slot. -/
theorem fills_of_steps {draft : Draft} (step : .child slot sub ∈ steps draft pointer members) :
    ∃ segments, Fills members (steps draft pointer members) slot segments sub := by
  have widen {group : List Step} (subset : ∀ s ∈ group, s ∈ steps draft pointer members)
      (fills : ∃ segments, Fills members group slot segments sub) :
      ∃ segments, Fills members (steps draft pointer members) slot segments sub := by
    obtain ⟨segments, fills⟩ := fills
    exact ⟨segments, fills.mono subset⟩
  have one {keyword : Keyword} {name : String} {own : Slot} (applies : name ∈ applicators)
      (named : own.segments = [name]) (alone : own.entry? = none)
      (step : .child slot sub ∈ if draft.knows keyword then stepOne members name own else []) :
      ∃ segments, Fills members (if draft.knows keyword then stepOne members name own else []) slot segments sub := by
    split at step
    · rename_i known
      rw [if_pos known]
      exact ⟨_, fills_of_stepOne applies named alone step⟩
    · simp at step
  have entries {name : String} {make : String → Slot} (applies : name ∈ applicators)
      (named : ∀ key, (make key).segments = [name, key] ∧ Slot.entry? (make key) = some key)
      (step : .child slot sub ∈ stepMembers pointer members name fun key value => .child (make key) value) :
      ∃ segments, Fills members (stepMembers pointer members name fun key value => .child (make key) value)
        slot segments sub :=
    fills_of_stepMembers applies (fun key value => .inr ⟨make key, rfl, named key⟩) step
  unfold steps at step widen ⊢
  simp only [List.mem_append] at step widen
  rcases step with ((((((((((((((((step | step) | step) | step) | step) | step) | step) | step) | step) | step) | step)
    | step) | step) | step) | step) | step) | step) | step
  · exact widen (fun s member => by simp only [member, true_or]) (entries (by decide) (fun _ => ⟨rfl, rfl⟩) step)
  · exact widen (fun s member => by simp only [member, true_or, or_true])
      (fills_of_stepMembers (by decide) stepPattern_eq step)
  · exact widen (fun s member => by simp only [member, true_or, or_true])
      ⟨_, fills_of_stepOne (by decide) rfl rfl step⟩
  · exact widen (fun s member => by simp only [member, true_or, or_true]) (one (by decide) rfl rfl step)
  · exact widen (fun s member => by simp only [member, true_or, or_true]) (one (by decide) rfl rfl step)
  · obtain ⟨keyword, known, inner⟩ := List.mem_flatMap.mp step
    have applies : keyword.name ∈ applicators := by
      have listed := (List.mem_filter.mp known).1
      simp only [Fragment.dependencyKeywords, List.mem_cons, List.not_mem_nil, or_false] at listed
      rcases listed with rfl | rfl | rfl <;> decide
    refine widen (fun s member => ?_) (fills_of_stepDependencies applies inner)
    have listed : s ∈ (Fragment.dependencyKeywords.filter draft.knows).flatMap (stepDependencies pointer members) :=
      List.mem_flatMap.mpr ⟨keyword, known, member⟩
    simp only [listed, true_or, or_true]
  · exact widen (fun s member => by simp only [member, true_or, or_true]) (fills_of_stepArray step)
  · exact widen (fun s member => by simp only [member, true_or, or_true]) (one (by decide) rfl rfl step)
  · exact widen (fun s member => by simp only [member, true_or, or_true]) (one (by decide) rfl rfl step)
  · exact widen (fun s member => by simp only [member, true_or, or_true]) (one (by decide) rfl rfl step)
  · exact widen (fun s member => by simp only [member, true_or, or_true]) (fills_of_stepItems (by decide) step)
  · exact widen (fun s member => by simp only [member, true_or, or_true]) (fills_of_stepItems (by decide) step)
  · exact widen (fun s member => by simp only [member, true_or, or_true]) (fills_of_stepItems (by decide) step)
  · exact widen (fun s member => by simp only [member, true_or, or_true]) (one (by decide) rfl rfl step)
  · exact widen (fun s member => by simp only [member, true_or, or_true]) (one (by decide) rfl rfl step)
  · exact widen (fun s member => by simp only [member, true_or, or_true]) (one (by decide) rfl rfl step)
  · exact widen (fun s member => by simp only [member, true_or, or_true]) (entries (by decide) (fun _ => ⟨rfl, rfl⟩) step)
  · exact widen (fun s member => by simp only [member, or_true]) (entries (by decide) (fun _ => ⟨rfl, rfl⟩) step)

end

/-! ## Compiled fragments -/

/-- Applying a computation to each item of a list succeeds exactly if it does for every one. -/
theorem mapM_eq_ok {ε α β : Type} {f : α → Except ε β} {xs : List α} {ys : List β} :
    xs.mapM f = .ok ys ↔ List.Forall₂ (fun x y => f x = .ok y) xs ys := by
  induction xs generalizing ys with
  | nil =>
    rw [List.mapM_nil, List.forall₂_nil_left_iff]
    exact ⟨fun same => (Except.ok.inj same).symm, fun same => same ▸ rfl⟩
  | cons x xs ih =>
    rw [List.mapM_cons, List.forall₂_cons_left_iff]
    constructor
    · intro same
      cases first : f x with
      | error fault =>
        rw [first] at same
        cases same
      | ok y =>
        cases rest : xs.mapM f with
        | error fault =>
          rw [first, rest] at same
          cases same
        | ok ys' =>
          rw [first, rest] at same
          cases same
          exact ⟨y, ys', rfl, ih.mp rest, rfl⟩
    · rintro ⟨y, ys', first, rest, rfl⟩
      rw [first, ih.mpr rest]
      rfl

/-- Every right member of related lists has a left one that it is related to. -/
theorem exists_left {α β : Type} {related : α → β → Prop} {xs : List α} {ys : List β}
    (all : List.Forall₂ related xs ys) {y : β} (inside : y ∈ ys) : ∃ x ∈ xs, related x y := by
  induction all with
  | nil => cases inside
  | cons first _ ih =>
    rcases List.mem_cons.mp inside with rfl | later
    · exact ⟨_, List.mem_cons_self, first⟩
    · obtain ⟨x, member, holds⟩ := ih later
      exact ⟨x, List.mem_cons_of_mem _ member, holds⟩

/-- Every left member of related lists has a right one that it is related to. -/
theorem exists_right {α β : Type} {related : α → β → Prop} {xs : List α} {ys : List β}
    (all : List.Forall₂ related xs ys) {x : α} (inside : x ∈ xs) : ∃ y ∈ ys, related x y :=
  exists_left (List.Forall₂.flip (R := fun y x => related x y) all) inside

namespace Fragment

/-- The expression that `pattern` compiles to. -/
def patternOf (pointer : Pointer) (members : Members) : Except SchemaFault (Option Regex) :=
  match members.lookup "pattern" with
  | some (.str pattern) => (readPattern pointer pattern).map some
  | _ => .ok none

/-- A fragment is compiled from an object, its children by a given relation. -/
structure FromObject (draft : Draft) (source : Origin) (outer : Site) (members : Members)
    (child : Site → Json → Fragment → Prop) (f : Fragment) : Prop where
  schema : f.schema = .obj members
  origin : f.origin = source
  identified : ∃ names, outer.identify draft members = .ok (f.site, names) ∧
    f.anchors = names ++ declaredAnchors draft members
  typed : checkTypes f.site.pointer members = .ok ()
  pattern : patternOf f.site.pointer members = .ok f.pattern
  children : List.Forall₂
    (fun step entry => ∃ sub, step = Step.child entry.1 sub ∧ child (f.site.below entry.1.segments) sub entry.2)
    (steps draft f.site.pointer members) f.children

variable {draft : Draft} {source : Origin} {outer : Site} {schema : Json} {members : Members} {f : Fragment}

/-- One step of compiling a fragment for a site. -/
def takeStep (draft : Draft) (source : Origin) (depth : Nat) (site : Site) :
    Step → Except SchemaFault (Slot × Fragment)
  | .refuse fault => .error fault
  | .child slot schema => do return (slot, ← compileWithin draft source depth (site.below slot.segments) schema)

theorem compileWithin_obj {depth : Nat} :
    compileWithin draft source (depth + 1) outer (.obj members) = do
      let (site, names) ← outer.identify draft members
      checkTypes site.pointer members
      let pattern ← patternOf site.pointer members
      let children ← (steps draft site.pointer members).mapM (takeStep draft source depth site)
      return ⟨site, source, .obj members, names ++ declaredAnchors draft members, pattern, children⟩ := by
  rw [compileWithin]
  refine bind_congr fun ⟨site, names⟩ => bind_congr fun _ => ?_
  have stepwise (pattern : Option Regex) : (do
      let children ← (steps draft site.pointer members).mapM fun step => match step with
        | Step.refuse fault => Except.error fault
        | Step.child slot schema => do
          return (slot, ← compileWithin draft source depth (site.below slot.segments) schema)
      return (⟨site, source, .obj members, names ++ declaredAnchors draft members, pattern, children⟩ : Fragment)) = do
      let children ← (steps draft site.pointer members).mapM (takeStep draft source depth site)
      return ⟨site, source, .obj members, names ++ declaredAnchors draft members, pattern, children⟩ := by
    rfl
  dsimp only
  unfold patternOf
  cases members.lookup "pattern" with
  | none => exact bind_congr stepwise
  | some value => cases value <;> exact bind_congr stepwise

/-- A sequence of computations succeeds if both parts do. -/
theorem bind_eq_ok {ε α β : Type} {x : Except ε α} {next : α → Except ε β} {b : β} :
    x >>= next = .ok b ↔ ∃ a, x = .ok a ∧ next a = .ok b := by
  cases x with
  | error fault => simp [bind, Except.bind]
  | ok a => simp [bind, Except.bind]

theorem takeStep_eq_ok {depth : Nat} {site : Site} {step : Step} {entry : Slot × Fragment} :
    takeStep draft source depth site step = .ok entry ↔
      ∃ sub, step = .child entry.1 sub ∧
        compileWithin draft source depth (site.below entry.1.segments) sub = .ok entry.2 := by
  cases step with
  | refuse fault => simp [takeStep]
  | child slot schema =>
    simp only [takeStep, bind_eq_ok]
    constructor
    · rintro ⟨child, compiled, same⟩
      cases same
      exact ⟨schema, rfl, compiled⟩
    · rintro ⟨sub, same, compiled⟩
      cases same
      exact ⟨entry.2, compiled, rfl⟩

/-- A compiled object keeps its members, stands at the site that its identifier leads to, and has
a child for every step. -/
theorem compileWithin_eq_ok {depth : Nat} :
    compileWithin draft source (depth + 1) outer (.obj members) = .ok f ↔
      FromObject draft source outer members
        (fun site sub g => compileWithin draft source depth site sub = .ok g) f := by
  have steps_iff {children : List (Slot × Fragment)} {site : Site} :
      (steps draft site.pointer members).mapM (takeStep draft source depth site) = .ok children ↔
        List.Forall₂ (fun step entry => ∃ sub, step = Step.child entry.1 sub ∧
          compileWithin draft source depth (site.below entry.1.segments) sub = .ok entry.2)
          (steps draft site.pointer members) children := by
    rw [mapM_eq_ok]
    exact ⟨List.Forall₂.imp fun _ _ => takeStep_eq_ok.mp, List.Forall₂.imp fun _ _ => takeStep_eq_ok.mpr⟩
  rw [compileWithin_obj, bind_eq_ok]
  constructor
  · rintro ⟨⟨site, names⟩, identified, rest⟩
    obtain ⟨unit', typed, rest⟩ := bind_eq_ok.mp rest
    obtain ⟨pattern, read, rest⟩ := bind_eq_ok.mp rest
    obtain ⟨children, taken, same⟩ := bind_eq_ok.mp rest
    cases same
    exact ⟨rfl, rfl, ⟨names, identified, rfl⟩, typed, read, steps_iff.mp taken⟩
  · rintro ⟨schema, origin, ⟨names, identified, anchors⟩, typed, read, taken⟩
    obtain ⟨site, _, _, _, pattern, children⟩ := f
    cases schema
    cases origin
    cases anchors
    refine ⟨(site, names), identified, bind_eq_ok.mpr ⟨(), typed, ?_⟩⟩
    exact bind_eq_ok.mpr ⟨pattern, read, bind_eq_ok.mpr ⟨children, steps_iff.mpr taken, rfl⟩⟩

/-- The relation of the children may be exchanged for another one that follows from it. -/
theorem FromObject.mono {child other : Site → Json → Fragment → Prop}
    (made : FromObject draft source outer members child f)
    (weaker : ∀ slot sub g, .child slot sub ∈ steps draft f.site.pointer members →
      child (f.site.below slot.segments) sub g → other (f.site.below slot.segments) sub g) :
    FromObject draft source outer members other f := by
  refine { made with children := ?_ }
  have known := List.forall₂_and_left (p := (· ∈ steps draft f.site.pointer members)) _ _ |>.mpr
    ⟨fun _ inside => inside, made.children⟩
  refine known.imp fun step entry => ?_
  rintro ⟨inside, sub, rfl, compiled⟩
  exact ⟨sub, rfl, weaker _ _ _ inside compiled⟩

/-- A compiled schema has steps for its children only. -/
theorem FromObject.step {child : Site → Json → Fragment → Prop}
    (made : FromObject draft source outer members child f) {step : Step}
    (inside : step ∈ steps draft f.site.pointer members) :
    ∃ slot sub g, step = .child slot sub ∧ (slot, g) ∈ f.children ∧ child (f.site.below slot.segments) sub g := by
  obtain ⟨⟨slot, g⟩, member, sub, same, compiled⟩ := exists_right made.children inside
  exact ⟨slot, sub, g, same, member, compiled⟩

theorem depth_lt_of_steps {pointer : Pointer} {slot : Slot} {sub : Json}
    (step : .child slot sub ∈ steps draft pointer members) : sub.depth < (Json.obj members).depth := by
  obtain ⟨segments, fills⟩ := fills_of_steps step
  exact fills.place.depth_lt fills.ne_nil

/-- What compiles at some depth compiles in the same way at every depth that the schema fits in. -/
theorem compileWithin_of_depth {depth enough : Nat} (fits : schema.depth ≤ enough)
    (compiled : compileWithin draft source depth outer schema = .ok f) :
    compileWithin draft source enough outer schema = .ok f := by
  induction depth generalizing enough outer schema f with
  | zero =>
    cases schema with
    | bool b => simpa [compileWithin] using compiled
    | _ => simp [compileWithin] at compiled
  | succ depth ih =>
    cases schema with
    | bool b => simpa [compileWithin] using compiled
    | obj members =>
      cases enough with
      | zero => simp [Json.depth] at fits
      | succ enough =>
        rw [compileWithin_eq_ok] at compiled ⊢
        refine compiled.mono fun slot sub g step compiled => ih ?_ compiled
        exact Nat.le_of_lt_succ (Nat.lt_of_lt_of_le (depth_lt_of_steps step) fits)
    | _ => simp [compileWithin] at compiled

/-- A fragment comes from compiling a schema for a site. -/
def Compiled (draft : Draft) (source : Origin) (outer : Site) (schema : Json) (f : Fragment) : Prop :=
  ∃ depth, compileWithin draft source depth outer schema = .ok f

theorem compile_eq_ok : compile draft source outer schema = .ok f ↔ Compiled draft source outer schema f :=
  ⟨fun compiled => ⟨_, compiled⟩, fun ⟨_, compiled⟩ => compileWithin_of_depth (Nat.le_refl _) compiled⟩

theorem compiled_bool {b : Bool} :
    Compiled draft source outer (.bool b) f ↔ f = ⟨outer, source, .bool b, [], none, []⟩ := by
  constructor
  · rintro ⟨depth, compiled⟩
    cases depth <;> simp_all [compileWithin]
  · rintro rfl
    exact ⟨0, by simp [compileWithin]⟩

theorem compiled_obj :
    Compiled draft source outer (.obj members) f ↔
      FromObject draft source outer members (Compiled draft source) f := by
  constructor
  · rintro ⟨depth, compiled⟩
    cases depth with
    | zero => simp [compileWithin] at compiled
    | succ depth => exact (compileWithin_eq_ok.mp compiled).mono fun _ _ _ _ compiled => ⟨_, compiled⟩
  · intro made
    refine ⟨(Json.obj members).depth + 1, compileWithin_eq_ok.mpr ?_⟩
    refine made.mono fun slot sub g step compiled => ?_
    obtain ⟨depth, compiled⟩ := compiled
    exact compileWithin_of_depth (Nat.le_of_lt (depth_lt_of_steps step)) compiled

/-- Only booleans and objects are schemas. -/
theorem Compiled.bool_or_obj (compiled : Compiled draft source outer schema f) :
    (∃ b, schema = .bool b) ∨ ∃ members, schema = .obj members := by
  obtain ⟨depth, compiled⟩ := compiled
  unfold compileWithin at compiled
  split at compiled
  · exact .inl ⟨_, rfl⟩
  · exact .inr ⟨_, rfl⟩
  · cases compiled

theorem Compiled.not_str (compiled : Compiled draft source outer schema f) (text : String) :
    schema ≠ .str text := by
  rcases compiled.bool_or_obj with ⟨b, rfl⟩ | ⟨members, rfl⟩ <;> simp

theorem Compiled.schema_eq (compiled : Compiled draft source outer schema f) : f.schema = schema := by
  rcases compiled.bool_or_obj with ⟨b, rfl⟩ | ⟨members, rfl⟩
  · rw [compiled_bool.mp compiled]
  · exact (compiled_obj.mp compiled).schema

/-- A child is compiled from the subschema of its slot. -/
theorem Compiled.child {slot : Slot} {g : Fragment} (compiled : Compiled draft source outer schema f)
    (child : (slot, g) ∈ f.children) : ∃ members sub, schema = .obj members ∧
      .child slot sub ∈ steps draft f.site.pointer members ∧
        Compiled draft source (f.site.below slot.segments) sub g := by
  rcases compiled.bool_or_obj with ⟨b, rfl⟩ | ⟨members, rfl⟩
  · rw [compiled_bool.mp compiled] at child
    cases child
  · obtain ⟨step, inside, sub, rfl, compiled⟩ := exists_left (compiled_obj.mp compiled).children child
    exact ⟨members, sub, rfl, inside, compiled⟩

end Fragment
end JsonSchema
