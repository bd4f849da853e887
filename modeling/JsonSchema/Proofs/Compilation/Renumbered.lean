import JsonSchema.Check.Selection
import JsonSchema.Proofs.Compilation.Children

/-!
# Documents under other numbers

A fragment keeps the number of the document it was compiled for. Numbering the documents in another way
changes nothing else: a schema compiles to the same fragments, which have the same keywords and children
and are indexed under the same keys.
-/

namespace JsonSchema

/-- The origin where documents have other numbers. -/
def Origin.renumber (σ : Nat → Nat) : Origin → Origin
  | .document position => .document (σ position)
  | .derived schema => .derived schema

namespace Fragment

mutual

/-- A fragment where documents have other numbers. -/
def renumber (σ : Nat → Nat) : Fragment → Fragment
  | ⟨site, origin, schema, anchors, pattern, children⟩ =>
    ⟨site, origin.renumber σ, schema, anchors, pattern, renumberAll σ children⟩

def renumberAll (σ : Nat → Nat) : List (Slot × Fragment) → List (Slot × Fragment)
  | [] => []
  | (slot, child) :: rest => (slot, child.renumber σ) :: renumberAll σ rest

end

variable {σ : Nat → Nat} {f : Fragment}

theorem renumberAll_eq (σ : Nat → Nat) (children : List (Slot × Fragment)) :
    renumberAll σ children = children.map fun entry => (entry.1, entry.2.renumber σ) := by
  induction children with
  | nil => rfl
  | cons entry rest ih => rw [renumberAll, ih, List.map_cons]

mutual

theorem renumber_id : ∀ f : Fragment, f.renumber id = f
  | ⟨site, origin, schema, anchors, pattern, children⟩ => by
    rw [renumber, renumberAll_id children]
    cases origin <;> rfl

theorem renumberAll_id : ∀ children : List (Slot × Fragment), renumberAll id children = children
  | [] => rfl
  | (slot, child) :: rest => by rw [renumberAll, renumber_id child, renumberAll_id rest]

end

/-! ## What a fragment says -/

@[simp]
theorem site_renumber (σ : Nat → Nat) (f : Fragment) : (f.renumber σ).site = f.site := by cases f; rfl

@[simp]
theorem schema_renumber (σ : Nat → Nat) (f : Fragment) : (f.renumber σ).schema = f.schema := by cases f; rfl

@[simp]
theorem anchors_renumber (σ : Nat → Nat) (f : Fragment) : (f.renumber σ).anchors = f.anchors := by cases f; rfl

@[simp]
theorem pattern_renumber (σ : Nat → Nat) (f : Fragment) : (f.renumber σ).pattern = f.pattern := by cases f; rfl

theorem children_renumber (σ : Nat → Nat) (f : Fragment) :
    (f.renumber σ).children = f.children.map fun entry => (entry.1, entry.2.renumber σ) := by
  obtain ⟨site, origin, schema, anchors, pattern, children⟩ := f
  exact renumberAll_eq σ children

@[simp]
theorem location_renumber (σ : Nat → Nat) (f : Fragment) : (f.renumber σ).location = f.location := by
  rw [location, location, site_renumber]

@[simp]
theorem keyword?_renumber (σ : Nat → Nat) (f : Fragment) (name : String) :
    (f.renumber σ).keyword? name = f.keyword? name := by
  rw [keyword?, keyword?, schema_renumber]

@[simp]
theorem isBool_renumber (σ : Nat → Nat) (f : Fragment) (b : Bool) : (f.renumber σ).isBool b = f.isBool b := by
  rw [isBool, isBool, schema_renumber]

@[simp]
theorem reference?_renumber (σ : Nat → Nat) (f : Fragment) (draft : Draft) :
    (f.renumber σ).reference? draft = f.reference? draft := by
  rw [reference?, reference?, schema_renumber]

@[simp]
theorem types?_renumber (σ : Nat → Nat) (f : Fragment) : (f.renumber σ).types? = f.types? := by
  rw [types?, types?, keyword?_renumber]

@[simp]
theorem keywords_renumber (σ : Nat → Nat) (f : Fragment) (draft : Draft) :
    (f.renumber σ).keywords draft = f.keywords draft := by
  rw [keywords, keywords, schema_renumber]

/-! ## Children -/

theorem select_renumber {α : Type} (σ : Nat → Nat) (f : Fragment) (pick : Slot → Option α) :
    (f.renumber σ).select pick = (f.select pick).map fun entry => (entry.1, entry.2.renumber σ) := by
  rw [select, select, children_renumber, List.filterMap_map, List.map_filterMap]
  congr 1
  funext ⟨slot, child⟩
  change (pick slot).map _ = ((pick slot).map _).map _
  rw [Option.map_map]
  rfl

theorem child?_renumber (σ : Nat → Nat) (f : Fragment) (p : Slot → Bool) :
    (f.renumber σ).child? p = (f.child? p).map (renumber σ) := by
  rw [child?, child?, children_renumber, List.find?_map, Option.map_map, Option.map_map]
  rfl

private theorem map_snd_renumber {α : Type} (σ : Nat → Nat) (entries : List (α × Fragment)) :
    (entries.map fun entry => (entry.1, entry.2.renumber σ)).map Prod.snd = (entries.map Prod.snd).map (renumber σ) := by
  rw [List.map_map, List.map_map]
  rfl

@[simp]
theorem properties_renumber (σ : Nat → Nat) (f : Fragment) :
    (f.renumber σ).properties = f.properties.map fun entry => (entry.1, entry.2.renumber σ) := select_renumber σ f _

@[simp]
theorem patternProperties_renumber (σ : Nat → Nat) (f : Fragment) :
    (f.renumber σ).patternProperties = f.patternProperties.map fun entry => (entry.1, entry.2.renumber σ) :=
  select_renumber σ f _

@[simp]
theorem tupleItems_renumber (σ : Nat → Nat) (f : Fragment) :
    (f.renumber σ).tupleItems = f.tupleItems.map (renumber σ) := by
  rw [tupleItems, select_renumber, map_snd_renumber]
  rfl

@[simp]
theorem members_renumber (σ : Nat → Nat) (f : Fragment) (keyword : Keyword) :
    (f.renumber σ).members keyword = (f.members keyword).map (renumber σ) := by
  rw [members, select_renumber, map_snd_renumber]
  rfl

@[simp]
theorem additionalProperties?_renumber (σ : Nat → Nat) (f : Fragment) :
    (f.renumber σ).additionalProperties? = f.additionalProperties?.map (renumber σ) := child?_renumber σ f _

@[simp]
theorem propertyNames?_renumber (σ : Nat → Nat) (f : Fragment) :
    (f.renumber σ).propertyNames? = f.propertyNames?.map (renumber σ) := child?_renumber σ f _

@[simp]
theorem unevaluatedProperties?_renumber (σ : Nat → Nat) (f : Fragment) :
    (f.renumber σ).unevaluatedProperties? = f.unevaluatedProperties?.map (renumber σ) := child?_renumber σ f _

@[simp]
theorem restItems?_renumber (σ : Nat → Nat) (f : Fragment) :
    (f.renumber σ).restItems? = f.restItems?.map (renumber σ) := child?_renumber σ f _

@[simp]
theorem contains?_renumber (σ : Nat → Nat) (f : Fragment) :
    (f.renumber σ).contains? = f.contains?.map (renumber σ) := child?_renumber σ f _

@[simp]
theorem unevaluatedItems?_renumber (σ : Nat → Nat) (f : Fragment) :
    (f.renumber σ).unevaluatedItems? = f.unevaluatedItems?.map (renumber σ) := child?_renumber σ f _

@[simp]
theorem not?_renumber (σ : Nat → Nat) (f : Fragment) : (f.renumber σ).not? = f.not?.map (renumber σ) :=
  child?_renumber σ f _

@[simp]
theorem condition?_renumber (σ : Nat → Nat) (f : Fragment) :
    (f.renumber σ).condition? = f.condition?.map (renumber σ) := child?_renumber σ f _

@[simp]
theorem consequence?_renumber (σ : Nat → Nat) (f : Fragment) :
    (f.renumber σ).consequence? = f.consequence?.map (renumber σ) := child?_renumber σ f _

@[simp]
theorem alternative?_renumber (σ : Nat → Nat) (f : Fragment) :
    (f.renumber σ).alternative? = f.alternative?.map (renumber σ) := child?_renumber σ f _

theorem lookup_renumber (σ : Nat → Nat) (entries : List (String × Fragment)) (key : String) :
    (entries.map fun entry => (entry.1, entry.2.renumber σ)).lookup key = (entries.lookup key).map (renumber σ) := by
  induction entries with
  | nil => rfl
  | cons entry rest ih =>
    rw [List.map_cons, List.lookup_cons, List.lookup_cons]
    cases key == entry.1 with
    | true => rfl
    | false => exact ih

@[simp]
theorem property?_renumber (σ : Nat → Nat) (f : Fragment) (name : String) :
    (f.renumber σ).property? name = (f.property? name).map (renumber σ) := by
  rw [property?, property?, properties_renumber, lookup_renumber]

@[simp]
theorem declares_renumber (σ : Nat → Nat) (f : Fragment) (name : String) :
    (f.renumber σ).declares name = f.declares name := by
  rw [declares, declares, property?_renumber, patternProperties_renumber, Option.isSome_map, List.any_map]
  rfl

end Fragment

/-! ## Dependencies -/

/-- What a property asks for, where documents have other numbers. -/
def Demand.renumber (σ : Nat → Nat) : Demand → Demand
  | .names required => .names required
  | .schema fragment => .schema (fragment.renumber σ)

def Dependency.renumber (σ : Nat → Nat) (dependency : Dependency) : Dependency :=
  { dependency with demand := dependency.demand.renumber σ }

namespace Fragment

variable {σ : Nat → Nat}

@[simp]
theorem dependenciesOf_renumber (σ : Nat → Nat) (f : Fragment) (keyword : Keyword) :
    (f.renumber σ).dependenciesOf keyword = (f.dependenciesOf keyword).map (Dependency.renumber σ) := by
  rw [dependenciesOf, dependenciesOf, keyword?_renumber, List.map_filterMap]
  congr 1
  funext ⟨property, value⟩
  cases value with
  | arr names => rfl
  | _ =>
    change ((f.renumber σ).child? _).map _ = ((f.child? _).map _).map _
    rw [child?_renumber, Option.map_map, Option.map_map]
    rfl

@[simp]
theorem dependencies_renumber (σ : Nat → Nat) (f : Fragment) (draft : Draft) :
    (f.renumber σ).dependencies draft = (f.dependencies draft).map (Dependency.renumber σ) := by
  rw [dependencies, dependencies, List.map_flatMap]
  congr 1
  funext keyword
  exact dependenciesOf_renumber σ f keyword

/-! ## Composition -/

@[simp]
theorem reducers_renumber (σ : Nat → Nat) (f : Fragment) (draft : Draft) :
    (f.renumber σ).reducers draft = f.reducers draft := by
  unfold reducers
  congr 1
  funext reducer
  cases reducer <;> simp [has]

@[simp]
theorem discriminator?_renumber (σ : Nat → Nat) (f : Fragment) :
    (f.renumber σ).discriminator? = f.discriminator? := by
  rw [discriminator?, discriminator?, keyword?_renumber, keyword?_renumber]

/-! ## Compilation -/

/-- A schema compiles to the same fragments, or is refused with the same fault. -/
theorem compileWithin_renumber (σ : Nat → Nat) (draft : Draft) (origin : Origin) (depth : Nat) (outer : Site)
    (schema : Json) : compileWithin draft (origin.renumber σ) depth outer schema =
      renumber σ <$> compileWithin draft origin depth outer schema := by
  induction depth generalizing outer schema with
  | zero => cases schema <;> rfl
  | succ depth ih =>
    cases schema with
    | obj members =>
      have step (site : Site) (step : Step) : takeStep draft (origin.renumber σ) depth site step =
          (fun entry => (entry.1, entry.2.renumber σ)) <$> takeStep draft origin depth site step := by
        cases step with
        | refuse fault => rfl
        | child slot schema => rw [takeStep, takeStep, ih, bind_map_left, map_bind]; rfl
      have taken (site : Site) (all : List Step) : all.mapM (takeStep draft (origin.renumber σ) depth site) =
          renumberAll σ <$> all.mapM (takeStep draft origin depth site) := by
        induction all with
        | nil => rfl
        | cons first rest ih => simp only [List.mapM_cons, step, ih, bind_map_left, map_bind]; rfl
      simp only [compileWithin_obj, map_bind, taken, bind_map_left]
      rfl
    | _ => rfl

theorem compile_renumber (σ : Nat → Nat) (draft : Draft) (origin : Origin) (site : Site) (schema : Json) :
    compile draft (origin.renumber σ) site schema = renumber σ <$> compile draft origin site schema :=
  compileWithin_renumber σ draft origin schema.depth site schema

/-- What compiles in a document with a number compiles in the document with another one. -/
theorem exists_of_compiled {draft : Draft} {position : Nat} {outer : Site} {schema : Json} {f : Fragment}
    (compiled : Compiled draft (.document (σ position)) outer schema f) :
    ∃ g, Compiled draft (.document position) outer schema g ∧ f = g.renumber σ := by
  have renumbered := compile_renumber σ draft (.document position) outer schema
  rw [Origin.renumber, compile_eq_ok.mpr compiled] at renumbered
  cases made : compile draft (.document position) outer schema with
  | error fault =>
    rw [made] at renumbered
    cases renumbered
  | ok g =>
    rw [made] at renumbered
    exact ⟨g, compile_eq_ok.mp made, Except.ok.inj renumbered⟩

/-- What belongs to no document has no number. -/
theorem derive_renumber (σ : Nat → Nat) (draft : Draft) (site : Site) (schema : Json) :
    renumber σ <$> derive draft site schema = derive draft site schema :=
  (compile_renumber σ draft (.derived schema) site schema).symm

/-! ## Lists of fragments -/

mutual

theorem innermostFirst_renumber (σ : Nat → Nat) : ∀ (f : Fragment) (outer : Site), (f.renumber σ).innermostFirst outer =
    (f.innermostFirst outer).map fun entry => (entry.1, entry.2.renumber σ)
  | ⟨site, origin, schema, anchors, pattern, children⟩, outer => by
    rw [renumber, innermostFirst, innermostFirst, childrenInnermostFirst_renumber σ children, List.map_append,
      List.map_cons, List.map_nil, renumber]

theorem childrenInnermostFirst_renumber (σ : Nat → Nat) : ∀ (children : List (Slot × Fragment)) (site : Site),
    childrenInnermostFirst site (renumberAll σ children) =
      (childrenInnermostFirst site children).map fun entry => (entry.1, entry.2.renumber σ)
  | [], _ => rfl
  | (slot, child) :: rest, site => by
    rw [renumberAll, childrenInnermostFirst, childrenInnermostFirst, innermostFirst_renumber σ child,
      childrenInnermostFirst_renumber σ rest, List.map_append]

end

mutual

theorem outermostFirst_renumber (σ : Nat → Nat) : ∀ (f : Fragment) (outer : Site), (f.renumber σ).outermostFirst outer =
    (f.outermostFirst outer).map fun entry => (entry.1, entry.2.renumber σ)
  | ⟨site, origin, schema, anchors, pattern, children⟩, outer => by
    rw [renumber, outermostFirst, outermostFirst, childrenOutermostFirst_renumber σ children, List.map_cons, renumber]

theorem childrenOutermostFirst_renumber (σ : Nat → Nat) : ∀ (children : List (Slot × Fragment)) (site : Site),
    childrenOutermostFirst site (renumberAll σ children) =
      (childrenOutermostFirst site children).map fun entry => (entry.1, entry.2.renumber σ)
  | [], _ => rfl
  | (slot, child) :: rest, site => by
    rw [renumberAll, childrenOutermostFirst, childrenOutermostFirst, outermostFirst_renumber σ child,
      childrenOutermostFirst_renumber σ rest, List.map_append]

end

end Fragment
end JsonSchema
