import JsonSchema.Proofs.Merge.Compiling
import JsonSchema.Proofs.Reduction.Assembly
import JsonSchema.Proofs.Reduction.Gathered
import JsonSchema.Proofs.Reference.Rebased
import JsonSchema.Proofs.Reference.Siblings

/-!
# Schemas that clash

Two schemas without identifiers that compile at a site clash if their merge exposes something that does not
compile. Nothing else makes a merge fail that follows a reference or that folds what a reduction adds.
-/

namespace JsonSchema

open Fragment

variable {draft : Draft} {site : Site}

/-- A schema has no identifiers and compiles at a site. -/
structure FormedAt (draft : Draft) (site : Site) (schema : Json) : Prop where
  unidentified : schema.Unidentified draft
  derives : ∃ f, derive draft site schema = .ok f

/-- Where two schemas are merged, something comes to be read as the schema of the remaining items that does not
compile. -/
def Clashes (draft : Draft) (site : Site) (x y : Json) : Prop :=
  ∃ a b name value, Joined draft x y a b ∧ Exposes draft a b name value ∧ ∀ f, derive draft site value ≠ .ok f

theorem FormedAt.merge_derives_iff {x y : Json} (left : FormedAt draft site x) (right : FormedAt draft site y) :
    (∃ f, derive draft site (merge x y) = .ok f) ↔ ¬ Clashes draft site x y := by
  rw [← compilesIn_iff_derive, compilesIn_merge_iff left.unidentified right.unidentified
    (compilesIn_iff_derive.mpr left.derives) (compilesIn_iff_derive.mpr right.derives)]
  simp only [compilesIn_iff_derive, Clashes, not_exists, not_and, not_forall, not_not]
  exact ⟨fun all a b name value joined => all a b joined name value,
    fun all a b joined name value => all a b name value joined⟩

/-! ## Parts of a compiled schema -/

/-- A schema without some keywords compiles where the schema compiles. -/
theorem FormedAt.without {members : Members} (formed : FormedAt draft site (.obj members)) {dropped : String → Bool}
    (detaches : draft.Detaches dropped) (typed : dropped "type" = false) (matched : dropped "pattern" = false) :
    FormedAt draft site (.obj (members.without dropped)) := by
  have kept {name : String} (stays : dropped name = false) :
      (members.without dropped).lookup name = members.lookup name := by
    rw [lookup_without, stays, if_neg Bool.false_ne_true]
  cases known : formed.unidentified with
  | obj own below =>
    have own' : (Json.obj (members.without dropped)).stringMember? draft.idKeyword = none := by
      simp only [Json.stringMember?, Json.member?, lookup_without] at own ⊢
      split
      · rfl
      · exact own
    have built := (compilesIn_obj own).mp (compilesIn_iff_derive.mpr formed.derives)
    refine ⟨.obj own' fun entry inside => below entry ?_, compilesIn_iff_derive.mp ((compilesIn_obj own').mpr ?_)⟩
    · obtain ⟨slot, sub⟩ := entry
      exact mem_subschemas.mpr (step_of_without detaches (mem_subschemas.mp inside))
    · refine ⟨?_, ?_, fun step inside => built.steps step (step_of_without detaches inside)⟩
      · have typed' := built.typed
        unfold checkTypes at typed' ⊢
        rwa [kept typed]
      · have pattern := built.pattern
        unfold patternOf at pattern ⊢
        rwa [kept matched]

/-- A compiled fragment without identifiers stands where it was compiled. -/
theorem Fragment.IsCompiled.formedAt {f : Fragment} (compiled : f.IsCompiled draft)
    (unidentified : f.schema.Unidentified draft) : FormedAt draft f.site f.schema := by
  obtain ⟨source, outer, compiled⟩ := compiled
  refine ⟨unidentified, compilesIn_iff_derive.mp ?_⟩
  have site : f.site = outer := by
    generalize f.schema = schema at compiled unidentified
    cases unidentified with
    | bool b => rw [compiled_bool.mp compiled]
    | obj own =>
      obtain ⟨names, identified, -⟩ := (compiled_obj.mp compiled).identified
      rw [identify_unidentified own, Except.ok.injEq, Prod.mk.injEq] at identified
      exact identified.1.symm
  exact site ▸ compiled.compilesIn

theorem FormedAt.empty : FormedAt draft site .empty := by
  refine ⟨.obj rfl fun entry inside => ?_,
    compilesIn_iff_derive.mp ((compilesIn_obj rfl).mpr ⟨rfl, ⟨none, rfl⟩, fun step inside => ?_⟩)⟩
  · obtain ⟨step, listed, -⟩ := List.mem_filterMap.mp inside
    rw [steps_nil] at listed
    cases listed
  · rw [steps_nil] at inside
    cases inside

/-- The keywords beside a reference compile where the fragment stands. -/
theorem Fragment.IsCompiled.formedAt_siblings {f : Fragment} (compiled : f.IsCompiled draft)
    (unidentified : f.schema.Unidentified draft) : FormedAt draft f.site (siblings f.schema) := by
  have formed := compiled.formedAt unidentified
  cases schema : f.schema with
  | obj members =>
    rw [schema] at formed
    exact formed.without (detaches_stripped draft) (by decide) (by decide)
  | _ => exact .empty

/-- A target compiles at every site as it is merged. -/
theorem Fragment.IsCompiled.formedAt_mergeTarget {f : Fragment} (compiled : f.IsCompiled draft)
    (unidentified : f.schema.Unidentified draft) (site : Site) : FormedAt draft site (mergeTarget f) := by
  unfold mergeTarget
  split
  · exact .empty
  · have formed := compiled.formedAt unidentified
    obtain ⟨unidentified', compiles⟩ :=
      compilesIn_rebase unidentified (compilesIn_iff_derive.mpr formed.derives) f.site.base
    exact ⟨unidentified', compilesIn_iff_derive.mp (compiles.anywhere unidentified' site.base)⟩

/-- What is not folded compiles where the fragment stands. -/
theorem Fragment.IsCompiled.formedAt_staticPart {f : Fragment} (compiled : f.IsCompiled draft)
    (unidentified : f.schema.Unidentified draft) (task : Reduction) : FormedAt draft f.site (task.staticPart f.schema) := by
  have formed := compiled.formedAt unidentified
  cases schema : f.schema with
  | obj members =>
    rw [schema] at formed
    have detaches : draft.Detaches task.isDynamic := by
      unfold Draft.Detaches Reduction.isDynamic
      cases task.data.isSome with
      | true => exact Context.detaches_dynamic draft
      | false => cases draft <;> decide +kernel
    exact formed.without detaches (Reduction.isDynamic_eq_false (by decide)) (Reduction.isDynamic_eq_false (by decide))
  | _ =>
    rw [schema] at formed
    exact formed

/-! ## Folding -/

namespace Folding

variable {folding : Folding} {schema accumulated final : Json} {choice : Option Nat} {demands : List Demand}

/-- What folding comes to is the part that is not folded with additions merged into it one after the other. -/
theorem exists_absorbs_of_foldAll (answer : folding.foldAll.run = some (.ok (schema, choice))) :
    ∃ demands, folding.Absorbs (folding.task.staticPart folding.visit.fragment.schema) demands schema := by
  have keeps : folding.Keeps
      (fun accumulated => ∃ demands,
        folding.Absorbs (folding.task.staticPart folding.visit.fragment.schema) demands accumulated)
      fun _ => True := by
    refine ⟨fun accumulated demand _ absorbed => ?_, fun _ _ _ => trivial⟩
    obtain ⟨demands, absorbs⟩ := absorbed
    intro end' answer
    cases end' with
    | error violation => trivial
    | ok final =>
      obtain ⟨added, adds, rfl⟩ := absorbDemand_eq_ok answer
      exact ⟨demands ++ [demand], absorbs.append (.cons adds (.nil _))⟩
  exact ends_foldAll keeps ⟨[], .nil _⟩ _ answer

/-- The first addition after which what was accumulated does not compile. -/
theorem Absorbs.exists_refused (absorbs : folding.Absorbs accumulated demands final) {draft : Draft} {site : Site}
    (starts : ∃ f, derive draft site accumulated = .ok f) (refused : ∀ f, derive draft site final ≠ .ok f) :
    ∃ before demand after reached added, demands = before ++ demand :: after ∧ folding.Absorbs accumulated before reached ∧
      (folding.addition demand).run = some (.ok added) ∧ folding.Absorbs (merge reached added) after final ∧
      (∃ f, derive draft site reached = .ok f) ∧ ∀ f, derive draft site (merge reached added) ≠ .ok f := by
  induction absorbs with
  | nil =>
    obtain ⟨f, derived⟩ := starts
    exact absurd derived (refused f)
  | @cons accumulated added final demand rest adds later ih =>
    by_cases next : ∃ f, derive draft site (merge accumulated added) = .ok f
    · obtain ⟨before, demand', after, reached, added', rfl, absorbs, adds', later, derives, fails⟩ := ih next refused
      exact ⟨demand :: before, demand', after, reached, added', rfl, .cons adds absorbs, adds', later, derives, fails⟩
    · exact ⟨[], demand, rest, accumulated, added, rfl, .nil _, adds, later, starts, fun f derived => next ⟨f, derived⟩⟩

end Folding

/-! ## Refusals -/

/-- Two schemas without identifiers that compile at a site merge into one that compiles there, unless they
clash. So a reference is not followed for the keywords beside it exactly if the target clashes with them. What a
reduction leaves unfolded is never refused, and what it folded only where schemas clash that are merged. -/
theorem merge_refused_iff_clashes :
    (∀ (draft : Draft) (site : Site) (a b : Json), FormedAt draft site a → FormedAt draft site b →
      ((∃ f, derive draft site (merge a b) = .ok f) ↔ ¬ Clashes draft site a b)) ∧
    (∀ (context : Context) (source target : Fragment), source.IsCompiled context.draft →
      source.schema.Unidentified context.draft → target.IsCompiled context.draft →
      target.schema.Unidentified context.draft →
      (context.follow? source target = none ↔ (context.draft.mergesSiblings && hasSiblings source.schema) = true ∧
        Clashes context.draft source.site (mergeTarget target) (siblings source.schema))) ∧
    (∀ (draft : Draft) (fragment : Fragment), fragment.IsCompiled draft → fragment.schema.Unidentified draft →
      ∀ task : Reduction, ∃ folded, task.compile draft fragment (task.staticPart fragment.schema) = .ok folded) ∧
    (∀ (folding : Folding) (schema : Json) (choice : Option Nat) (violation : Violation),
      folding.visit.fragment.IsCompiled folding.visit.context.draft →
      folding.visit.fragment.schema.Unidentified folding.visit.context.draft →
      folding.foldAll.run = some (.ok (schema, choice)) →
      folding.task.compile folding.visit.context.draft folding.visit.fragment schema = .error violation →
      ∃ before demand after accumulated added,
        folding.Absorbs (folding.task.staticPart folding.visit.fragment.schema) before accumulated ∧
        (folding.addition demand).run = some (.ok added) ∧ folding.Absorbs (merge accumulated added) after schema ∧
        (∃ f, derive folding.visit.context.draft folding.visit.fragment.site accumulated = .ok f) ∧
        (∀ f, derive folding.visit.context.draft folding.visit.fragment.site (merge accumulated added) ≠ .ok f) ∧
        (accumulated.Unidentified folding.visit.context.draft →
          FormedAt folding.visit.context.draft folding.visit.fragment.site added →
          Clashes folding.visit.context.draft folding.visit.fragment.site accumulated added)) := by
  refine ⟨fun draft site a b => FormedAt.merge_derives_iff, ?_, ?_, ?_⟩
  · intro context source target compiled unidentified compiled' unidentified'
    have merged := (compiled'.formedAt_mergeTarget unidentified' source.site).merge_derives_iff
      (compiled.formedAt_siblings unidentified)
    rw [Context.follow?_eq_none, ← not_not (a := Clashes _ _ _ _), ← merged]
    refine and_congr_right fun _ => ⟨?_, fun none => ?_⟩
    · rintro ⟨fault, refused⟩ ⟨f, derived⟩
      rw [derived] at refused
      cases refused
    · cases derived : derive context.draft source.site (merge (mergeTarget target) (siblings source.schema)) with
      | error fault => exact ⟨fault, rfl⟩
      | ok f => exact absurd ⟨f, derived⟩ none
  · intro draft fragment compiled unidentified task
    obtain ⟨f, derived⟩ := (compiled.formedAt_staticPart unidentified task).derives
    exact ⟨f, by rw [Reduction.compile, derived]⟩
  · intro folding schema choice violation compiled unidentified folds failed
    obtain ⟨demands, absorbs⟩ := Folding.exists_absorbs_of_foldAll folds
    have refused : ∀ f, derive folding.visit.context.draft folding.visit.fragment.site schema ≠ .ok f := by
      intro f derived
      rw [Reduction.compile, derived] at failed
      cases failed
    obtain ⟨before, demand, after, accumulated, added, -, absorbs, adds, later, derives, fails⟩ :=
      absorbs.exists_refused (compiled.formedAt_staticPart unidentified folding.task).derives refused
    refine ⟨before, demand, after, accumulated, added, absorbs, adds, later, derives, fails, fun own formed => ?_⟩
    by_contra apart
    obtain ⟨f, derived⟩ := (FormedAt.merge_derives_iff ⟨own, derives⟩ formed).mpr apart
    exact fails f derived

/-! ## Lists of items -/

namespace ListedItems

/-- Item schemas in the older form, which is read where there is no `prefixItems`. -/
def older : Json := .obj [("items", .arr [.obj []])]

def newer : Json := .obj [("prefixItems", .arr [.obj []])]

def resource : Site := .ofDocument .default

/-- Whether a schema has no identifiers and compiles in the resource. -/
def isFormed (schema : Json) : Bool :=
  schema.isUnidentified .draft2020 3 && (derive .draft2020 resource schema).toOption.isSome

theorem formedAt_of_isFormed {schema : Json} (is : isFormed schema = true) : FormedAt .draft2020 resource schema := by
  obtain ⟨unidentified, derives⟩ := Bool.and_eq_true_iff.mp is
  obtain ⟨f, derived⟩ := Option.isSome_iff_exists.mp derives
  exact ⟨Json.unidentified_of_isUnidentified unidentified, f, ok_of_toOption derived⟩

theorem formedAt_older : FormedAt .draft2020 resource older := formedAt_of_isFormed (by decide +kernel)

theorem formedAt_newer : FormedAt .draft2020 resource newer := formedAt_of_isFormed (by decide +kernel)

theorem merge_refused : ¬ ∃ f, derive .draft2020 resource (merge older newer) = .ok f := by
  rintro ⟨f, derived⟩
  have fails : (derive .draft2020 resource (merge older newer)).toOption.isNone = true := by decide +kernel
  rw [derived] at fails
  cases fails

/-- The merge of two schemas that compile does not compile: a list of items comes to stand beside the list that it is
the older form of, where one schema is read. -/
theorem merge_of_formed_refused : FormedAt .draft2020 resource older ∧ FormedAt .draft2020 resource newer ∧
    ¬ ∃ f, derive .draft2020 resource (merge older newer) = .ok f :=
  ⟨formedAt_older, formedAt_newer, merge_refused⟩

/-- A schema whose reference leads to the older form and has the newer one beside it. -/
def referring : Json := .obj [
  ("$ref", .str "#/$defs/a"), ("prefixItems", .arr [.obj []]), ("$defs", .obj [("a", older)])]

/-- A schema that combines the two forms. -/
def combining : Json := .obj [("allOf", .arr [older, newer])]

/-- The target of the reference of a node without identifiers, if it has none either and is not followed. -/
def stuck? (node : Node) : Option Fragment :=
  (node.context.target? node.fragment .static "#/$defs/a" node.scope).filter fun target =>
    node.fragment.schema.isUnidentified node.context.draft 3 && target.schema.isUnidentified node.context.draft 3 &&
      (node.context.follow? node.fragment target).isNone

/-- The folding of a node without data. -/
def folding (node : Node) : Folding :=
  node.context.folding (node.context.judge 4) ⟨none, .root, []⟩ node.fragment node.scope

/-- What a node without identifiers folds, if it is refused. -/
def refused? (node : Node) : Option (Json × Option Nat) :=
  ((folding node).foldAll.run.bind Except.toOption).filter fun folded =>
    node.fragment.schema.isUnidentified node.context.draft 3 &&
      ((folding node).task.compile node.context.draft node.fragment folded.1).toOption.isNone

/-- The two forms clash, whether they meet at a reference or are folded. A schema for all items takes the list. -/
theorem older_clashes_with_newer :
    Clashes .draft2020 resource older newer ∧ ¬ Clashes .draft2020 resource (.obj [("items", .bool true)]) newer ∧
    (∃ node target, Compiler.standard.compile referring = .ok node ∧
      node.context.target? node.fragment .static "#/$defs/a" node.scope = some target ∧
      Clashes node.context.draft node.fragment.site (mergeTarget target) (siblings node.fragment.schema)) ∧
    ∃ node accumulated added, Compiler.standard.compile combining = .ok node ∧
      (∃ f, derive node.context.draft node.fragment.site accumulated = .ok f) ∧
      ∀ f, derive node.context.draft node.fragment.site (merge accumulated added) ≠ .ok f := by
  obtain ⟨merges, follows, -, folds⟩ := merge_refused_iff_clashes
  refine ⟨?_, ?_, ?_, ?_⟩
  · exact not_not.mp (mt (merges _ _ _ _ formedAt_older formedAt_newer).mpr merge_refused)
  · have formed : FormedAt .draft2020 resource (.obj [("items", .bool true)]) := formedAt_of_isFormed (by decide +kernel)
    exact (merges _ _ _ _ formed formedAt_newer).mp (formedAt_of_isFormed (by decide +kernel)).derives
  · have computed : ((Compiler.standard.compile referring).toOption.bind stuck?).isSome = true := by decide +kernel
    obtain ⟨target, computed⟩ := Option.isSome_iff_exists.mp computed
    obtain ⟨node, compiled, stuck⟩ := Option.bind_eq_some_iff.mp computed
    have compiled := ok_of_toOption compiled
    have sound := Node.sound_of_compile compiled
    obtain ⟨found, is⟩ := Option.filter_eq_some_iff.mp stuck
    simp only [Bool.and_eq_true, Option.isNone_iff_eq_none] at is
    obtain ⟨⟨unidentified, unidentified'⟩, nothing⟩ := is
    obtain ⟨source, outer, indexed⟩ := Context.compiled_of_target? sound.index found
    exact ⟨node, target, compiled, found,
      ((follows _ _ _ sound.fragment (Json.unidentified_of_isUnidentified unidentified) ⟨source, outer, indexed⟩
        (Json.unidentified_of_isUnidentified unidentified')).mp nothing).2⟩
  · have computed : ((Compiler.standard.compile combining).toOption.bind refused?).isSome = true := by decide +kernel
    obtain ⟨⟨schema, choice⟩, computed⟩ := Option.isSome_iff_exists.mp computed
    obtain ⟨node, compiled, folded⟩ := Option.bind_eq_some_iff.mp computed
    have compiled := ok_of_toOption compiled
    obtain ⟨answer, is⟩ := Option.filter_eq_some_iff.mp folded
    simp only [Bool.and_eq_true, Option.isNone_iff_eq_none] at is
    obtain ⟨unidentified, failed⟩ := is
    obtain ⟨result, ran, ok⟩ := Option.bind_eq_some_iff.mp answer
    obtain ⟨violation, failed⟩ := exists_error_of_toOption failed
    obtain ⟨-, -, -, accumulated, added, -, -, -, derives, fails, -⟩ := folds (folding node) schema choice violation
      (Node.sound_of_compile compiled).fragment (Json.unidentified_of_isUnidentified unidentified)
      (ran.trans (congrArg some (ok_of_toOption ok))) failed
    exact ⟨node, accumulated, added, compiled, derives, fails⟩

end ListedItems

end JsonSchema
