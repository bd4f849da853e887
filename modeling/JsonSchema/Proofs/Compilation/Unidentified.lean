import JsonSchema.Proofs.Compilation.Plain
import JsonSchema.Proofs.Compilation.Sound

/-!
# Schemas without identifiers

Whether a schema compiles at a site depends on the resource of the site alone, not on the place in it. A
schema without identifiers belongs to one resource with all its subschemas, so it compiles in the resource
exactly if they do and nothing is refused.
-/

namespace JsonSchema

/-- No schema in a schema has an identifier, down to the last subschema. -/
inductive Json.Unidentified (draft : Draft) : Json → Prop where
  | bool (b : Bool) : Unidentified draft (.bool b)
  | obj {members : Members} (own : (Json.obj members).stringMember? draft.idKeyword = none)
      (below : ∀ entry ∈ subschemas draft members, Unidentified draft entry.2) : Unidentified draft (.obj members)

/-- Whether a schema is without identifiers, if its subschemas are nested no deeper than a number. -/
def Json.isUnidentified (draft : Draft) : Nat → Json → Bool
  | _, .bool _ => true
  | depth + 1, .obj members =>
    ((Json.obj members).stringMember? draft.idKeyword).isNone &&
    (subschemas draft members).all fun entry => entry.2.isUnidentified draft depth
  | _, _ => false

theorem Json.unidentified_of_isUnidentified {draft : Draft} {depth : Nat} {schema : Json}
    (is : schema.isUnidentified draft depth = true) : schema.Unidentified draft := by
  induction depth generalizing schema with
  | zero =>
    cases schema with
    | bool b => exact .bool b
    | _ => cases is
  | succ depth ih =>
    cases schema with
    | bool b => exact .bool b
    | obj members =>
      simp only [isUnidentified, Bool.and_eq_true, List.all_eq_true, Option.isNone_iff_eq_none] at is
      exact .obj is.1 fun entry inside => ih (is.2 entry inside)
    | _ => cases is

theorem mem_subschemas {draft : Draft} {members : Members} {slot : Slot} {sub : Json} :
    (slot, sub) ∈ subschemas draft members ↔ .child slot sub ∈ steps draft .root members := by
  constructor
  · intro inside
    obtain ⟨step, listed, made⟩ := List.mem_filterMap.mp inside
    cases step with
    | refuse fault => cases made
    | child =>
      cases made
      exact listed
  · exact fun listed => List.mem_filterMap.mpr ⟨_, listed, rfl⟩

theorem mem_subschemas_of_part {draft : Draft} {part : Part} {members : Members} {slot : Slot} {sub : Json}
    (listed : part ∈ parts draft) (step : .child slot sub ∈ part.steps .root members) :
    (slot, sub) ∈ subschemas draft members := by
  rw [mem_subschemas, steps_eq_parts]
  exact List.mem_flatMap.mpr ⟨part, listed, step⟩

namespace Fragment

variable {draft : Draft} {source : Origin} {outer other site : Site} {schema : Json} {members : Members} {f : Fragment}
  {base : Uri}

theorem Buildable.sound {kind : Json → Prop} (buildable : Buildable draft members kind) {part : Part}
    (listed : part ∈ parts draft) : part.Sound kind members := by
  intro step inside
  refine buildable.steps step ?_
  rw [steps_eq_parts]
  exact List.mem_flatMap.mpr ⟨part, listed, inside⟩

theorem Buildable.of_mem {kind : Json → Prop} (buildable : Buildable draft members kind) {slot : Slot} {sub : Json}
    (inside : (slot, sub) ∈ subschemas draft members) : kind sub := by
  obtain ⟨_, _, same, held⟩ := buildable.steps _ (mem_subschemas.mp inside)
  cases same
  exact held

/-- A schema compiles at all sites of a resource. -/
def CompilesIn (draft : Draft) (base : Uri) (schema : Json) : Prop :=
  ∀ source outer, outer.base = base → ∃ f, Compiled draft source outer schema f

/-- The resource that an identifier opens depends on the resource around it. -/
theorem identify_of_base {names : List String} (identified : outer.identify draft members = .ok (site, names))
    (same : other.base = outer.base) :
    ∃ site', other.identify draft members = .ok (site', names) ∧ site'.base = site.base := by
  unfold Site.identify at identified ⊢
  rw [same]
  split at identified
  · split at identified
    · rename_i beside
      cases identified
      exact ⟨_, if_pos beside, same⟩
    · rename_i alone
      rw [if_neg alone]
      split at identified
      · cases identified
      · dsimp only at identified ⊢
        split at identified
        · rename_i stays
          cases identified
          exact ⟨_, if_pos stays, same⟩
        · rename_i leaves
          cases identified
          exact ⟨_, if_neg leaves, rfl⟩
  · cases identified
    exact ⟨_, rfl, same⟩

/-- What compiles at a site compiles at all sites of its resource. -/
theorem Compiled.compilesIn (compiled : Compiled draft source outer schema f) : CompilesIn draft outer.base schema := by
  obtain ⟨depth, compiled⟩ := compiled
  induction depth generalizing outer schema f with
  | zero =>
    cases schema with
    | bool b => exact fun _ _ _ => ⟨_, compiled_bool.mpr rfl⟩
    | _ => simp [compileWithin] at compiled
  | succ depth ih =>
    cases schema with
    | bool b => exact fun _ _ _ => ⟨_, compiled_bool.mpr rfl⟩
    | obj members =>
      have made := compileWithin_eq_ok.mp compiled
      obtain ⟨names, identified, -⟩ := made.identified
      have below : FromObject draft source outer members (fun _ sub _ => CompilesIn draft f.site.base sub) f :=
        made.mono fun slot sub g _ compiled => @ih (f.site.below slot.segments) sub g compiled
      intro source' other same
      obtain ⟨site', identified', base⟩ := identify_of_base identified same
      exact exists_compiled identified' (below.buildable.mono fun sub compiles segments => compiles source' _ base)
    | _ => simp [compileWithin] at compiled

theorem compilesIn_iff_derive : CompilesIn draft site.base schema ↔ ∃ f, derive draft site schema = .ok f := by
  constructor
  · intro compiles
    obtain ⟨f, compiled⟩ := compiles (.derived schema) site rfl
    exact ⟨f, compile_eq_ok.mpr compiled⟩
  · rintro ⟨f, derived⟩
    exact (compile_eq_ok.mp derived).compilesIn

theorem CompilesIn.isSchema (compiles : CompilesIn draft base schema) : schema.IsSchema := by
  obtain ⟨f, compiled⟩ := compiles (.document 0) (.ofDocument base) rfl
  exact compiled.bool_or_obj

theorem compilesIn_bool (b : Bool) : CompilesIn draft base (.bool b) := fun _ _ _ => ⟨_, compiled_bool.mpr rfl⟩

/-- An object without identifier compiles in a resource if its subschemas do. -/
theorem compilesIn_obj (unidentified : (Json.obj members).stringMember? draft.idKeyword = none) :
    CompilesIn draft base (.obj members) ↔ Buildable draft members (CompilesIn draft base) := by
  constructor
  · intro compiles
    obtain ⟨f, compiled⟩ := compiles (.document 0) (.ofDocument base) rfl
    have made := compiled_obj.mp compiled
    obtain ⟨names, identified, -⟩ := made.identified
    rw [identify_unidentified unidentified, Except.ok.injEq, Prod.mk.injEq] at identified
    have resource : f.site.base = base := by rw [← identified.1]; rfl
    have below : FromObject draft (.document 0) (.ofDocument base) members (fun _ sub _ => CompilesIn draft base sub) f :=
      made.mono fun slot sub g _ compiled => resource ▸ compiled.compilesIn
    exact below.buildable
  · rintro buildable source outer rfl
    exact exists_compiled (identify_unidentified unidentified)
      (buildable.mono fun sub compiles segments => compiles _ _ rfl)

/-- A schema without identifiers that compiles in a resource compiles in every resource. -/
theorem CompilesIn.anywhere (compiles : CompilesIn draft base schema) (unidentified : schema.Unidentified draft)
    (resource : Uri) : CompilesIn draft resource schema := by
  induction unidentified with
  | bool b => exact compilesIn_bool b
  | obj own below ih =>
    have built := (compilesIn_obj own).mp compiles
    refine (compilesIn_obj own).mpr ⟨built.typed, built.pattern, fun step inside => ?_⟩
    obtain ⟨slot, sub, rfl, compiles⟩ := built.steps step inside
    exact ⟨slot, sub, rfl, ih _ (mem_subschemas.mpr inside) compiles⟩

/-- All fragments of a schema without identifiers belong to the resource that it is compiled in. -/
theorem Compiled.base_of_unidentified {g : Fragment} (compiled : Compiled draft source outer schema f)
    (unidentified : schema.Unidentified draft) (reaches : f.Reaches g) : g.site.base = outer.base := by
  induction unidentified generalizing outer f with
  | bool b =>
    have own := compiled_bool.mp compiled
    rcases reaches.cases_head with rfl | ⟨child, ⟨slot, listed⟩, -⟩
    · rw [own]
    · rw [own] at listed
      cases listed
  | @obj members unnamed below ih =>
    obtain ⟨names, identified, -⟩ := (compiled_obj.mp compiled).identified
    rw [identify_unidentified unnamed, Except.ok.injEq, Prod.mk.injEq] at identified
    rcases reaches.cases_head with rfl | ⟨child, ⟨slot, listed⟩, reaches⟩
    · rw [← identified.1]
    · obtain ⟨⟨own, sub⟩, known, -, made⟩ := exists_left (compiled_obj.mp compiled).subschemas listed
      rw [ih _ known made reaches, ← identified.1]
      rfl

end Fragment
end JsonSchema
