import JsonSchema.Check.Visit

/-!
# Territories of values and places

A territory holds values with the places they stand at, closed under going to a part. The violations
that a check finds stay within the territory it is asked about, with those nested in them; only the
violations of a name are by the name, as a string at the place of its member.
-/

namespace JsonSchema

/-- Values and places that checks may come to from each other: with a value its parts, and the names
of its members as strings. -/
structure Territory (P N : Json → Pointer → Prop) : Prop where
  member : ∀ {members : Members} {p : Pointer} {name : String} {value : Json},
    P (.obj members) p → (name, value) ∈ members → P value (p.join name)
  item : ∀ {items : List Json} {p : Pointer} {index : Nat} {item : Json},
    P (.arr items) p → items[index]? = some item → P item (p.item index)
  name : ∀ {members : Members} {p : Pointer} {name : String} {value : Json},
    P (.obj members) p → (name, value) ∈ members → N (.str name) (p.join name)
  text : ∀ {value : Json} {p : Pointer}, N value p → ∃ s, value = .str s

/-- Names have no parts. -/
theorem Territory.names {P N : Json → Pointer → Prop} (territory : Territory P N) : Territory N N where
  member here _ := by
    obtain ⟨s, same⟩ := territory.text here
    cases same
  item here _ := by
    obtain ⟨s, same⟩ := territory.text here
    cases same
  name here _ := by
    obtain ⟨s, same⟩ := territory.text here
    cases same
  text := territory.text

theorem Violation.flatten_eq (v : Violation) : v.flatten = v :: flattenAll v.nested := by
  obtain ⟨code, pointer, schema, value, data, nested⟩ := v
  rw [flatten]

/-- The violations of a list are those of its members. -/
theorem Violation.mem_flattenAll {found : List Violation} {d : Violation} :
    d ∈ flattenAll found ↔ ∃ v ∈ found, d ∈ v.flatten := by
  induction found with
  | nil => simp [flattenAll]
  | cons v rest ih => simp [flattenAll, ih]

mutual

/-- What is nested in a nested violation is nested. -/
theorem Violation.flatten_trans {a e : Violation} :
    ∀ {v : Violation}, a ∈ v.flatten → e ∈ a.flatten → e ∈ v.flatten
  | ⟨code, pointer, schema, value, data, nested⟩, inside, deeper => by
    rw [flatten] at inside
    rcases List.mem_cons.mp inside with rfl | below
    · exact deeper
    · rw [flatten]
      exact List.mem_cons_of_mem _ (flattenAll_trans below deeper)

theorem Violation.flattenAll_trans {a e : Violation} :
    ∀ {found : List Violation}, a ∈ flattenAll found → e ∈ a.flatten → e ∈ flattenAll found
  | [], inside, _ => nomatch inside
  | v :: rest, inside, deeper => by
    rcases List.mem_append.mp inside with here | below
    · exact List.mem_append_left _ (flatten_trans here deeper)
    · exact List.mem_append_right _ (flattenAll_trans below deeper)

end

/-- A violation and those nested in it are by values at their places, or by a name. -/
inductive Violation.Within (P N : Json → Pointer → Prop) : Violation → Prop where
  | value {v : Violation} (other : v.code ≠ .invalidPropertyName) (own : P v.value v.pointer)
      (nested : ∀ n ∈ v.nested, Within P N n) : Within P N v
  | name {v : Violation} (named : v.code = .invalidPropertyName) (all : ∀ d ∈ v.flatten, N d.value d.pointer) :
      Within P N v

/-- All violations in a list of those within the territory of names are by names. -/
theorem Violation.Within.all_names {N : Json → Pointer → Prop} {v : Violation} (within : v.Within N N) :
    ∀ d ∈ v.flatten, N d.value d.pointer := by
  induction within with
  | @value v other own nested ih =>
    intro d inside
    rw [flatten_eq] at inside
    rcases List.mem_cons.mp inside with rfl | deeper
    · exact own
    · obtain ⟨n, member, below⟩ := mem_flattenAll.mp deeper
      exact ih n member d below
  | name named all => exact all

namespace Violation.Within

variable {P N : Json → Pointer → Prop} {v : Violation}

/-- A violation of a name is by the name, with all that are nested in it. -/
theorem of_named (within : v.Within P N) {a : Violation} (inside : a ∈ v.flatten)
    (named : a.code = .invalidPropertyName) : ∀ e ∈ a.flatten, N e.value e.pointer := by
  induction within with
  | value other own nested ih =>
    rw [flatten_eq] at inside
    rcases List.mem_cons.mp inside with rfl | deeper
    · exact absurd named other
    · obtain ⟨n, member, below⟩ := mem_flattenAll.mp deeper
      exact ih n member below
  | name _ all => exact fun e deeper => all e (flatten_trans inside deeper)

/-- A violation is by a value at its place, unless it is one of a name or nested in one. -/
theorem own_or_named (within : v.Within P N) {e : Violation} (inside : e ∈ v.flatten) :
    P e.value e.pointer ∨ ∃ a ∈ v.flatten, a.code = .invalidPropertyName ∧ e ∈ a.flatten := by
  induction within with
  | value other own nested ih =>
    rw [flatten_eq] at inside ⊢
    rcases List.mem_cons.mp inside with rfl | deeper
    · exact .inl own
    · obtain ⟨n, member, below⟩ := mem_flattenAll.mp deeper
      rcases ih n member below with place | ⟨a, within, named, around⟩
      · exact .inl place
      · exact .inr ⟨a, List.mem_cons_of_mem _ (mem_flattenAll.mpr ⟨n, member, within⟩), named, around⟩
  | @name v named all =>
    have self : v ∈ v.flatten := by
      rw [flatten_eq]
      exact List.mem_cons_self
    exact .inr ⟨v, self, named, inside⟩

end Violation.Within

/-! ## Violations of a check -/

/-- Everything that a check finds has a property. -/
def Finds (Q : Violation → Prop) (answer : Option (List Violation)) : Prop :=
  ∀ found, answer = some found → ∀ v ∈ found, Q v

namespace Finds

variable {Q : Violation → Prop} {α : Type}

theorem of_forall {found : List Violation} (all : ∀ v ∈ found, Q v) : Finds Q (some found) := by
  rintro _ ⟨⟩
  exact all

theorem nil : Finds Q (some []) := of_forall (by simp)

theorem single {v : Violation} (own : Q v) : Finds Q (some [v]) := of_forall (by simpa using own)

theorem bind {x : Option α} {f : α → Option (List Violation)} (each : ∀ a, x = some a → Finds Q (f a)) :
    Finds Q (x.bind f) := by
  intro found answer
  obtain ⟨a, known, answer⟩ := Option.bind_eq_some_iff.mp answer
  exact each a known found answer

theorem gather {places : List α} {check : α → Option (List Violation)}
    (each : ∀ place ∈ places, Finds Q (check place)) : Finds Q (JsonSchema.gather places check) := by
  induction places with
  | nil => exact nil
  | cons place rest ih =>
    have later := ih fun place inside => each place (List.mem_cons_of_mem _ inside)
    intro found answer
    obtain ⟨parts, computed, rfl⟩ := Option.map_eq_some_iff.mp answer
    rw [List.mapM_cons] at computed
    obtain ⟨own, known, computed⟩ := Option.bind_eq_some_iff.mp computed
    obtain ⟨others, known', computed⟩ := Option.bind_eq_some_iff.mp computed
    cases computed
    intro v inside
    rcases List.mem_append.mp inside with here | below
    · exact each place List.mem_cons_self own known v here
    · exact later others.flatten (by simp [JsonSchema.gather, known']) v below

end Finds

end JsonSchema
