import JsonSchema.Proofs.Check.Verdict
import JsonSchema.Proofs.Compilation.Plain

/-!
# What checks read

The check of a keyword reads a few keywords of the schema and the children under them. Two visits
of the same data come to the same verdict on a keyword if their fragments agree on what it reads
and their judges on the children.
-/

namespace JsonSchema

/-- The keywords that the check of one reads. -/
def Keyword.reads : Keyword → List String
  | .items => arrayNames
  | .contains => ["contains", "minContains", "maxContains"]
  | .additionalProperties => ["additionalProperties", "properties", "patternProperties"]
  | .oneOf => ["oneOf", "discriminator", "oneOfProperty"]
  | .conditional => ["if", "then", "else"]
  | keyword => [keyword.name]

/-- The booleans that make a bound exclusive, in drafts that have them. -/
def Keyword.flags : Keyword → List String
  | .maximum => ["exclusiveMaximum"]
  | .minimum => ["exclusiveMinimum"]
  | _ => []

/-- The keywords that the check of a keyword reads in a draft. -/
def Keyword.readsIn (keyword : Keyword) (draft : Draft) : List String :=
  keyword.reads ++ if draft.hasBooleanBounds then keyword.flags else []

theorem Keyword.reads_subset (keyword : Keyword) (draft : Draft) : keyword.reads ⊆ keyword.readsIn draft :=
  List.subset_append_left _ _

/-- Drafts that merge the keywords beside a reference have bounds of their own for what is exclusive. -/
theorem Keyword.readsIn_eq_reads {keyword : Keyword} {draft : Draft} (merges : draft.mergesSiblings = true) :
    keyword.readsIn draft = keyword.reads := by
  have plain : draft.hasBooleanBounds = false := by
    revert merges
    cases draft <;> decide
  rw [readsIn, plain, if_neg Bool.false_ne_true, List.append_nil]

/-! ## Related lists -/

section
variable {α β : Type} {related : α → β → Prop}

theorem rel_find? {xs : List α} {ys : List β} {p : α → Bool} {q : β → Bool} (same : ∀ x y, related x y → p x = q y)
    (all : List.Forall₂ related xs ys) : Option.Rel related (xs.find? p) (ys.find? q) := by
  induction all with
  | nil => exact .none
  | @cons x y xs ys first _ ih =>
    rw [List.find?_cons, List.find?_cons, same x y first]
    cases q y with
    | true => exact .some first
    | false => exact ih

theorem rel_lookup {xs : List (String × α)} {ys : List (String × β)}
    (all : List.Forall₂ (fun x y => x.1 = y.1 ∧ related x.2 y.2) xs ys) (name : String) :
    Option.Rel related (xs.lookup name) (ys.lookup name) := by
  induction all with
  | nil => exact .none
  | @cons x y xs ys first _ ih =>
    obtain ⟨key, a⟩ := x
    obtain ⟨other, b⟩ := y
    obtain ⟨rfl, same⟩ := first
    rw [List.lookup_cons, List.lookup_cons]
    cases name == key with
    | true => exact .some same
    | false => exact ih

theorem rel_getElem? {xs : List α} {ys : List β} (all : List.Forall₂ related xs ys) (index : Nat) :
    Option.Rel related xs[index]? ys[index]? := by
  induction all generalizing index with
  | nil => exact .none
  | cons first _ ih =>
    cases index with
    | zero => exact .some first
    | succ index => simpa using ih index

theorem rel_option_map {γ δ : Type} {other : γ → δ → Prop} {f : α → γ} {g : β → δ}
    (each : ∀ x y, related x y → other (f x) (g y)) {a : Option α} {b : Option β} (same : Option.Rel related a b) :
    Option.Rel other (a.map f) (b.map g) := by
  cases same with
  | none => exact .none
  | some same => exact .some (each _ _ same)

theorem isSome_eq_of_rel {a : Option α} {b : Option β} (same : Option.Rel related a b) : a.isSome = b.isSome := by
  cases same <;> rfl

end

namespace Fragment

/-- Selecting by slots of some keywords looks at the children under these keywords only. -/
theorem select_eq_within {names : List String} {α : Type} {pick : Slot → Option α}
    (own : ∀ slot, (pick slot).isSome → slot.within names = true) (f : Fragment) :
    f.select pick = (f.childrenWithin names).filterMap fun (slot, child) => (pick slot).map (·, child) := by
  rw [select, childrenWithin, List.filterMap_filter]
  refine List.filterMap_congr fun ⟨slot, child⟩ _ => ?_
  cases picked : pick slot with
  | none => simp [picked]
  | some a => simp [own slot (by simp [picked]), picked]

theorem child?_eq_within {names : List String} {p : Slot → Bool} (own : ∀ slot, p slot → slot.within names = true)
    (f : Fragment) : f.child? p = ((f.childrenWithin names).find? fun entry => p entry.1).map Prod.snd := by
  rw [child?, childrenWithin, List.find?_filter]
  congr 2
  funext entry
  cases picked : p entry.1 with
  | false => simp
  | true => simp [own entry.1 picked]

/-- Two fragments have the same values under some keywords, and related children in the same slots. -/
structure Agree (names : List String) (related : Fragment → Fragment → Prop) (f g : Fragment) : Prop where
  keyword? : ∀ name ∈ names, f.keyword? name = g.keyword? name
  pattern : "pattern" ∈ names → f.pattern = g.pattern
  children : List.Forall₂ (fun x y => x.1 = y.1 ∧ related x.2 y.2) (f.childrenWithin names) (g.childrenWithin names)

namespace Agree

variable {names : List String} {related : Fragment → Fragment → Prop} {f g : Fragment}

theorem mono (agree : Agree names related f g) {fewer : List String} (within : fewer ⊆ names) :
    Agree fewer related f g where
  keyword? name inside := agree.keyword? name (within inside)
  pattern inside := agree.pattern (within inside)
  children := by
    have narrower (h : Fragment) :
        h.childrenWithin fewer = (h.childrenWithin names).filter fun entry => entry.1.within fewer := by
      unfold childrenWithin
      rw [List.filter_filter]
      refine List.filter_congr fun entry _ => ?_
      have wider : entry.1.within fewer = true → entry.1.within names = true := by
        simp only [Slot.within, List.all_eq_true, List.contains_iff_mem]
        exact fun all name inside => within (all name inside)
      cases own : entry.1.within fewer with
      | false => rfl
      | true => rw [wider own, Bool.and_self]
    rw [narrower f, narrower g]
    exact List.rel_filter (fun x y same => by simp only [same.1]) agree.children

theorem select (agree : Agree names related f g) {α : Type} {pick : Slot → Option α}
    (own : ∀ slot, (pick slot).isSome → slot.within names = true) :
    List.Forall₂ (fun x y => x.1 = y.1 ∧ related x.2 y.2) (f.select pick) (g.select pick) := by
  rw [select_eq_within own, select_eq_within own]
  refine List.rel_filterMap ?_ agree.children
  rintro ⟨slot, child⟩ ⟨other, child'⟩ ⟨rfl, same⟩
  cases picked : pick slot with
  | none => simp only [picked, Option.map_none]; exact .none
  | some a => simp only [picked, Option.map_some]; exact .some ⟨rfl, same⟩

theorem child? (agree : Agree names related f g) {p : Slot → Bool} (own : ∀ slot, p slot → slot.within names = true) :
    Option.Rel related (f.child? p) (g.child? p) := by
  rw [child?_eq_within own, child?_eq_within own]
  exact rel_option_map (fun _ _ same => same.2) (rel_find? (fun x y same => by rw [same.1]) agree.children)

theorem members (keyword : Keyword) (agree : Agree names related f g) (own : keyword.name ∈ names) :
    List.Forall₂ related (f.members keyword) (g.members keyword) := by
  refine List.rel_map (fun _ _ related => related.2) (agree.select fun slot taken => ?_)
  cases slot with
  | member other index =>
    by_cases same : other = keyword
    · subst same
      simpa [Slot.within, Slot.names] using own
    · simp [same] at taken
  | _ => cases taken

theorem properties (agree : Agree names related f g) (own : "properties" ∈ names) :
    List.Forall₂ (fun x y => x.1 = y.1 ∧ related x.2 y.2) f.properties g.properties := by
  refine agree.select fun slot taken => ?_
  cases slot with
  | property name => simpa [Slot.within, Slot.names] using own
  | _ => cases taken

theorem patternProperties (agree : Agree names related f g) (own : "patternProperties" ∈ names) :
    List.Forall₂ (fun x y => x.1 = y.1 ∧ related x.2 y.2) f.patternProperties g.patternProperties := by
  refine agree.select fun slot taken => ?_
  cases slot with
  | patternProperty regex => simpa [Slot.within, Slot.names] using own
  | _ => cases taken

theorem property? (agree : Agree names related f g) (own : "properties" ∈ names) (name : String) :
    Option.Rel related (f.property? name) (g.property? name) := by
  exact rel_lookup (agree.properties own) name

theorem declares (agree : Agree names related f g) (own : "properties" ∈ names) (patterns : "patternProperties" ∈ names)
    (name : String) : f.declares name = g.declares name := by
  have matching : Option.Rel _ (f.patternProperties.find? fun entry => entry.1.matchesIn name)
      (g.patternProperties.find? fun entry => entry.1.matchesIn name) :=
    rel_find? (fun x y same => by rw [same.1]) (agree.patternProperties patterns)
  rw [Fragment.declares, Fragment.declares, isSome_eq_of_rel (agree.property? own name), ← List.isSome_find?,
    ← List.isSome_find?, isSome_eq_of_rel matching]

theorem tupleItems (agree : Agree arrayNames related f g) : List.Forall₂ related f.tupleItems g.tupleItems := by
  refine List.rel_map (fun _ _ related => related.2) (agree.select fun slot taken => ?_)
  cases slot with
  | tupleItem keyword index => rfl
  | _ => cases taken

theorem restItems? (agree : Agree arrayNames related f g) : Option.Rel related f.restItems? g.restItems? := by
  refine agree.child? fun slot taken => ?_
  cases slot with
  | restItems keyword => rfl
  | _ => cases taken

end Agree
end Fragment
end JsonSchema
