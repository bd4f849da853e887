import JsonSchema.Proofs.Reduction.Additions
import JsonSchema.Proofs.Reduction.Nesting

/-!
# Reduction without data

Without data the members of `allOf` are folded, one after the other, into what stands beside them, and all other
composition is kept; references are followed. Where every two schemas that are merged blend, the folded schema takes all that
the schema took. Alternatives do not blend: those of two members are merged pair by pair, and so a value that took
the first one of one member and the second one of the other may take none of the pairs.
-/

namespace JsonSchema

/-- Without data a keyword is folded if it is `allOf`. -/
def isAllOf (name : String) : Bool := name == "allOf"

/-- Schemas that can be merged into a schema one after the other, each of which blends with what was merged before. -/
inductive BlendInto (draft : Draft) : Json → List Json → Prop where
  | nil (a : Json) : BlendInto draft a []
  | cons {a b : Json} {rest : List Json} (blends : Blendable draft a b) (later : BlendInto draft (merge a b) rest) :
      BlendInto draft a (b :: rest)

/-- What a fragment is folded to without data, its references followed, where all that is merged on the way is plain and
blends, and no way comes back to a location at which something is being folded. -/
inductive Context.FoldsTo (context : Context) : List String → Fragment → Json → Prop where
  | idle {seen : List String} {f target : Fragment} (stands : context.StandsFor f target)
      (memberless : target.members .allOf = []) (plain : target.schema.Plain context.draft) :
      FoldsTo context seen f target.schema
  | folded {seen : List String} {f target : Fragment} {members : Members} {results : List Json}
      (stands : context.StandsFor f target) (fresh : target.location ∉ seen) (shape : target.schema = .obj members)
      (filled : target.members .allOf ≠ []) (plain : (Json.obj (members.without isAllOf)).Plain context.draft)
      (same : results.length = (target.members .allOf).length)
      (each : ∀ (index : Nat) (child : Fragment) (result : Json), (target.members .allOf)[index]? = some child →
        results[index]? = some result → FoldsTo context (target.location :: seen) child result)
      (fixed : ∀ result ∈ results, ∀ base, rebase base result = result)
      (blends : BlendInto context.draft (.obj (members.without isAllOf)) results) :
      FoldsTo context seen f (results.foldl merge (.obj (members.without isAllOf)))

/-- Without data there is nothing to fold, or all that is folded is plain and blends. -/
def Node.FoldsStatically (node : Node) (folded : Json) : Prop :=
  node.target.members .allOf = [] ∧ folded = node.target.schema ∨ node.context.FoldsTo [] node.fragment folded

/-! ## The folded schema takes all that the schema took -/

/-- Of the keywords of one part `allOf` stands alone. -/
theorem detaches_allOf (draft : Draft) : draft.Detaches isAllOf := by
  unfold Draft.Detaches
  cases draft <;> decide +kernel

/-- No other check reads `allOf`. -/
theorem allOf_or_other (draft : Draft) (members : Members) (keyword : Keyword) :
    (∀ name ∈ keyword.readsIn draft, isAllOf name = false) ∨ keyword.isPresent draft (members.without isAllOf) = false := by
  by_cases own : keyword = .allOf
  · subst own
    exact .inr (by simp [Keyword.isPresent, Members.has, lookup_without, isAllOf, Keyword.name])
  · left
    cases keyword <;> first | exact absurd rfl own | (cases draft <;> decide)

section
variable {context : Context} {seen : List String} {f : Fragment} {folded data : Json}

/-- What is merged from schemas that the data meet, the data meet. -/
theorem BlendInto.meets (byValue : context.formats.ByValue) {a : Json} {results : List Json}
    (blends : BlendInto context.draft a results) (plain : a.PlainSchema context.draft)
    (plains : ∀ result ∈ results, result.PlainSchema context.draft) : (results.foldl merge a).PlainSchema context.draft ∧
      ∀ data, (∃ depth, context.Meets depth a data) → (∀ result ∈ results, ∃ depth, context.Meets depth result data) →
        ∃ depth, context.Meets depth (results.foldl merge a) data := by
  induction blends with
  | nil => exact ⟨plain, fun _ met _ => met⟩
  | cons blends _ ih =>
    rw [List.forall_mem_cons] at plains
    obtain ⟨merged, meets⟩ := ih (blends.plainSchema plain plains.1) plains.2
    refine ⟨merged, fun data ⟨depth, met⟩ others => ?_⟩
    rw [List.forall_mem_cons] at others
    obtain ⟨⟨depth', other⟩, others⟩ := others
    exact meets data ⟨max depth depth', blends.meets byValue plain plains.1 (met.mono (Nat.le_max_left _ _))
      (other.mono (Nat.le_max_right _ _))⟩ others

/-- All members of a list of results, seen from the list of what they come from. -/
theorem forall_results {α β : Type} {items : List α} {results : List β} {P : β → Prop} (same : results.length = items.length)
    (each : ∀ (index : Nat) item result, items[index]? = some item → results[index]? = some result → P result) :
    ∀ result ∈ results, P result := by
  intro result inside
  obtain ⟨index, bound, rfl⟩ := List.getElem_of_mem inside
  exact each index _ _ (List.getElem?_eq_getElem (same ▸ bound)) (List.getElem?_eq_getElem bound)

/-- What a compiled fragment stands for is compiled. -/
theorem Context.StandsFor.isCompiled {target : Fragment} (stands : context.StandsFor f target)
    (known : context.index.WellCompiled context.draft) (compiled : f.IsCompiled context.draft) :
    target.IsCompiled context.draft := by
  obtain ⟨inner, inside⟩ := stands []
  exact ((chain_of_inside? inside).isCompiled known compiled fun _ listed => absurd listed List.not_mem_nil).1

/-- What a fragment accepts its members of `allOf` accept. -/
theorem Context.AcceptedNear.allOf {target member : Fragment} {pointer : Pointer} {scope : Scope}
    (near : context.AcceptedNear data pointer f scope) (stands : context.StandsFor f target)
    (compiled : target.IsCompiled context.draft) (listed : member ∈ target.members .allOf) :
    ∃ inner, context.AcceptedNear data pointer member inner := by
  obtain ⟨marked, -, unwinds, accepted⟩ := near
  obtain ⟨target', inner, inside, told⟩ := unwinds.inside_of_accepted accepted
  obtain ⟨_, inside'⟩ := stands (marked.enterAt f pointer)
  cases inside'.symm.trans inside
  have composed := Visit.composed_of_accepted compiled (told _ fun _ _ given => given)
  obtain ⟨unwinds, accepted⟩ := unwinds.validate_of_needed (composed.allOf member listed)
  exact ⟨inner, inner, .refl inner, unwinds, accepted⟩

/-- What a fragment accepts meets every plain part of what the fragment stands for. -/
theorem Context.AcceptedNear.meets {target : Fragment} {schema : Json} {pointer : Pointer} {scope : Scope}
    (near : context.AcceptedNear data pointer f scope) (stands : context.StandsFor f target)
    (byValue : context.formats.ByValue) (compiled : target.IsCompiled context.draft) (plain : schema.PlainSchema context.draft)
    (part : schema.PartOf context.draft target.schema) : ∃ depth, context.Meets depth schema data := by
  obtain ⟨inner, inside⟩ := stands (scope.enter f)
  obtain ⟨quiet, idle, accepted⟩ := near.settled inside
  exact meets_of_settled byValue idle accepted compiled plain part

/-- The folded schema is plain, and it takes what the fragment accepts. -/
theorem Context.FoldsTo.meets (folds : context.FoldsTo seen f folded) (byValue : context.formats.ByValue)
    (known : context.index.WellCompiled context.draft) (compiled : f.IsCompiled context.draft) :
    folded.PlainSchema context.draft ∧
      ∀ data pointer scope, context.AcceptedNear data pointer f scope → ∃ depth, context.Meets depth folded data := by
  induction folds with
  | @idle seen f target stands memberless plain =>
    have found := stands.isCompiled known compiled
    have ⟨_, _, made⟩ := found
    have schema : target.schema.PlainSchema context.draft := ⟨plain, plain.compiles made⟩
    exact ⟨schema, fun _ _ _ near => near.meets stands byValue found schema schema.partOf_self⟩
  | @folded seen f target members results stands fresh shape filled plain same each fixed blends ih =>
    have found := stands.isCompiled known compiled
    have ⟨_, _, made⟩ := found
    rw [shape] at made
    have rest := made.plainSchema_without plain (detaches_allOf _) (by decide) (by decide)
    have both := forall_results (P := fun result => result.PlainSchema context.draft ∧
        ∀ data pointer scope, context.AcceptedNear data pointer f scope → ∃ depth, context.Meets depth result data) same
      fun index child result listed other => by
        have inside := List.mem_of_getElem? listed
        obtain ⟨schema, meets⟩ := ih index child result listed other (found.child (Fragment.hasChild_of_members inside))
        refine ⟨schema, fun data pointer scope near => ?_⟩
        obtain ⟨inner, near⟩ := near.allOf stands found inside
        exact meets data pointer inner near
    obtain ⟨merged, meets⟩ := blends.meets byValue rest fun result inside => (both result inside).1
    have part : (Json.obj (members.without isAllOf)).PartOf context.draft target.schema :=
      shape ▸ Json.partOf_without members (allOf_or_other _ members)
    exact ⟨merged, fun data pointer scope near => meets data (near.meets stands byValue found rest part) fun result inside =>
      (both result inside).2 data pointer scope near⟩

end

/-! ## Reduction computes the folded schema -/

namespace Context

variable {context : Context} {task : Reduction} {fragment : Fragment} {scope : Scope}

/-- Members that are reduced to fixed schemas are merged into what was accumulated. -/
theorem absorbs_eq_foldl {folding : Folding} {accumulated final : Json} {children : List Fragment} {results : List Json}
    (same : results.length = children.length)
    (each : ∀ (index : Nat) (child : Fragment) (result : Json), children[index]? = some child →
      results[index]? = some result → ∀ added, (folding.contribution child).run = some (.ok added) → added = result)
    (absorbs : folding.Absorbs accumulated (children.map .schema) final) : final = results.foldl merge accumulated := by
  induction children generalizing accumulated results with
  | nil =>
    obtain rfl := List.length_eq_zero_iff.mp same
    cases absorbs
    rfl
  | cons child rest ih =>
    cases results with
    | nil => cases same
    | cons result others =>
      cases absorbs with
      | @cons _ added _ _ _ adds later =>
        have own : added = result := each 0 child result rfl rfl added adds
        rw [own] at later
        have tail : others.length = rest.length := Nat.succ.inj same
        have whole := ih tail (fun index => each (index + 1)) later
        exact whole

/-- Without data there is something to fold as long as `allOf` has members. -/
theorem hasWork_of_unknown (unknown : task.data = none) {draft : Draft} :
    task.hasWork draft fragment = !(fragment.members .allOf).isEmpty := by
  simp only [Reduction.hasWork, unknown, Option.isSome_none, Bool.false_eq_true, if_false, Fragment.reducers]
  by_cases memberless : fragment.members .allOf = [] <;> simp [Fragment.has, memberless]

theorem staticPart_of_unknown (unknown : task.data = none) (members : Members) :
    task.staticPart (.obj members) = .obj (members.without isAllOf) := by
  have folded : task.isDynamic = isAllOf := by
    funext name
    simp [Reduction.isDynamic, unknown, isAllOf]
  rw [Reduction.staticPart, folded]

/-- The reduction of a fragment goes on at what the fragment stands for. -/
theorem StandsFor.reduces {target : Fragment} (stands : context.StandsFor fragment target) {depth : Nat} {reduced : Reduced}
    (answer : (context.judge depth).reduce task fragment scope = some (.ok reduced)) : ∃ below inner,
      context.inside? fragment (scope.enter fragment) = some (target, inner) ∧
      (context.reduceSettled (context.judge below) task target inner).run = some (.ok reduced) := by
  cases depth with
  | zero => cases answer
  | succ depth =>
    obtain ⟨last, inner, inside, settled⟩ := reduceStep_eq_ok answer
    obtain ⟨_, inside'⟩ := stands (scope.enter fragment)
    cases inside'.symm.trans inside
    exact ⟨depth, inner, inside, settled⟩

/-- Where `allOf` has no members reduction without data stops at what the fragment stands for. -/
theorem inside?_of_static_reduction {target : Fragment} (stands : context.StandsFor fragment target)
    (memberless : target.members .allOf = []) (unknown : task.data = none) {depth : Nat} {reduced : Reduced}
    (answer : (context.judge depth).reduce task fragment scope = some (.ok reduced)) :
    reduced.fragment = target ∧ context.inside? fragment (scope.enter fragment) = some (target, reduced.scope) := by
  obtain ⟨below, inner, inside, settled⟩ := stands.reduces answer
  have still : task.hasWork context.draft target = false := by
    rw [hasWork_of_unknown unknown, memberless]
    rfl
  obtain ⟨entered, ⟨-, same⟩ | ⟨work, -⟩ | ⟨work, -⟩⟩ := reduceSettled_eq_ok settled
  · exact ⟨same, entered ▸ inside⟩
  all_goals
    rw [still] at work
    cases work

/-- Reduction without data gives the folded schema. -/
theorem schema_of_static_reduction {seen : List String} {folded : Json} (folds : context.FoldsTo seen fragment folded)
    (unknown : task.data = none) (active : task.active ⊆ seen) {depth : Nat} {reduced : Reduced}
    (answer : (context.judge depth).reduce task fragment scope = some (.ok reduced)) : reduced.fragment.schema = folded := by
  induction folds generalizing depth task scope reduced with
  | idle stands memberless plain => rw [(inside?_of_static_reduction stands memberless unknown answer).1]
  | @folded seen f target members results stands fresh shape filled plain same each fixed blends ih =>
    obtain ⟨below, inner, inside, settled⟩ := stands.reduces answer
    obtain ⟨-, ⟨still, -⟩ | ⟨-, again, -⟩ | ⟨-, -, schema, folds, derived⟩⟩ := reduceSettled_eq_ok settled
    · rw [hasWork_of_unknown unknown, Bool.not_eq_false', List.isEmpty_iff] at still
      exact absurd still filled
    · exact absurd (active again) fresh
    · have absorbs := Folding.absorbs_of_unknown unknown folds
      rw [Fragment.schema_of_derive derived]
      dsimp only [folding] at absorbs
      rw [shape, staticPart_of_unknown (by exact unknown)] at absorbs
      refine absorbs_eq_foldl same (fun index child result listed other added adds => ?_) absorbs
      obtain ⟨reduced', reduces, same'⟩ := Attempt.bind_eq_ok.mp adds
      cases same'
      have own := ih index child result listed other (by exact unknown) (List.cons_subset_cons _ active) reduces
      rw [own]
      exact fixed result (List.mem_of_getElem? other) _

end Context

/-! ## Handles -/

/-- Where no way along references and subschemas comes back, and all that is merged blends, reduction without data of a
handle gives the folded schema, and rejects nothing that the handle accepts. -/
theorem static_reduction_accepts {compiler : Compiler} {schema folded : Json} {node reduced : Node}
    (handle : node.IsHandle compiler schema) {steps : Nat} (acyclic : node.context.Acyclic steps [] node.fragment)
    (byValue : node.context.formats.ByValue) (folds : node.FoldsStatically folded)
    (answer : node.reduceStatic = some (.ok reduced)) : reduced.fragment.schema = folded ∧ ∀ data,
      (∃ depth, (node.context.judge depth).answer (node.validation data) = some (.violations [])) →
      ∃ depth, (reduced.context.judge depth).answer (reduced.validation data) = some (.violations []) := by
  obtain ⟨result, reduces, rfl⟩ := Node.settle_eq_ok answer
  have sound := handle.sound
  obtain ⟨⟨source, outer, compiled⟩, -⟩ := Context.isCompiled_of_reduce sound.index sound.fragment sound.scope reduces
  have quiet : result.scope.Idle := Context.idle_of_reduce sound.idle reduces
  rcases folds with ⟨memberless, rfl⟩ | folds
  · obtain ⟨same, inside⟩ := Context.inside?_of_static_reduction (acyclic.standsFor _) memberless rfl reduces
    refine ⟨congrArg Fragment.schema same, fun data ⟨depth, accepted⟩ => ⟨depth, Judge.answer_check.mpr ?_⟩⟩
    have alike := acyclic.validate_of_inside? sound.idle quiet inside depth data .root
    rw [← same] at alike
    exact alike.trans (Judge.answer_check.mp accepted)
  · have own : result.fragment.schema = folded := Context.schema_of_static_reduction folds rfl (List.Subset.refl _) reduces
    obtain ⟨plain, meets⟩ := folds.meets byValue sound.index sound.fragment
    rw [← own] at plain meets
    refine ⟨own, fun data accepted => ?_⟩
    obtain ⟨checks, -⟩ := acyclic.unwinds sound.idle
    obtain ⟨depth, met⟩ := meets data .root node.scope (Node.acceptedNear (checks data .root) accepted)
    exact ⟨depth, Judge.answer_check.mpr ((Context.meets_iff plain.plain compiled (quiet.freeAt _) .root).mp met)⟩

/-- A lower bound for odd numbers. -/
def alternatives : Json := .obj [("anyOf", .arr [.obj [("minimum", .ofNat 5)], .obj [("multipleOf", .ofNat 2)]])]

/-- An integer with a reference to alternatives in one member of `allOf`, and a bound in a member of another one. -/
def nestedBounds : Json := .obj [
  ("$defs", .obj [("choice", alternatives)]),
  ("type", .str "integer"),
  ("allOf", .arr [
    .obj [("$ref", .str "#/$defs/choice")],
    .obj [("allOf", .arr [.obj [("maximum", .ofNat 100)]])]])]

/-- The alternatives are kept. -/
def foldedBounds : Json := .obj [
  ("$defs", .obj [("choice", alternatives)]),
  ("type", .str "integer"),
  ("anyOf", .arr [.obj [("minimum", .ofNat 5)], .obj [("multipleOf", .ofNat 2)]]),
  ("maximum", .ofNat 100)]

theorem nestedBounds_static : nestedBounds.Static := by
  simp [Json.Static, nestedBounds, alternatives, Json.refersStatically_iff, Json.stringMember?, Json.member?, List.lookup_cons,
    List.lookup_nil, Json.ofNat]

/-- The schemas that the members of `allOf` stand for, each with those that its own members stand for. -/
def Context.membersBelow (context : Context) (f : Fragment) : List (Json × List Json) :=
  ((context.settle f []).members .allOf).map fun member => ((context.settle member []).schema,
    ((context.settle member []).members .allOf).map fun last => (context.settle last []).schema)

/-- A keyword that one check reads, and that check only, blends with all schemas without it. -/
theorem Blendable.single {draft : Draft} {members : Members} (own : Keyword) {value : Json}
    (absent : members.lookup own.name = none) (reads : own.readsIn draft = [own.name])
    (apart : (Keyword.all.filter fun keyword => (keyword.readsIn draft).contains own.name) = [own]) :
    Blendable draft (.obj members) (.obj [(own.name, value)]) := by
  have other {name : String} (different : name ≠ own.name) : List.lookup name [(own.name, value)] = none := by
    rw [List.lookup_cons, beq_false_of_ne different]
    rfl
  refine .of_lacks (fun keyword => ?_) fun name inside => .inr (other ?_)
  · by_cases same : keyword = own
    · left
      rw [same, reads]
      exact List.forall_mem_singleton.mpr absent
    · refine .inr fun name read => other ?_
      rintro rfl
      have known : keyword ∈ Keyword.all := by cases keyword <;> decide
      have listed : keyword ∈ Keyword.all.filter fun keyword => (keyword.readsIn draft).contains own.name :=
        List.mem_filter.mpr ⟨known, List.contains_iff_mem.mpr read⟩
      rw [apart] at listed
      exact same (List.mem_singleton.mp listed)
  · rintro rfl
    revert inside
    cases own <;> decide

/-- Where nothing stands under `allOf`, there is nothing to fold. -/
theorem Context.Acyclic.foldsTo {context : Context} {f : Fragment} {steps : Nat} {seen others : List String} {schema : Json}
    (acyclic : context.Acyclic steps others f) (known : context.index.WellCompiled context.draft)
    (compiled : f.IsCompiled context.draft) (own : (context.settle f []).schema = schema)
    (absent : schema.member? "allOf" = none) (plain : schema.Plain context.draft) : context.FoldsTo seen f schema := by
  subst own
  have stands := acyclic.standsFor []
  obtain ⟨source, outer, made⟩ := stands.isCompiled known compiled
  refine .idle stands ?_ plain
  rcases made.bool_or_obj with ⟨b, shape⟩ | ⟨members, shape⟩
  · rw [shape] at made
    rw [Fragment.compiled_bool.mp made]
    rfl
  · rw [shape] at made absent
    refine (Fragment.members_eq_nil_iff (Fragment.compiled_obj.mp made) (by decide)).mpr fun value found => ?_
    cases absent.symm.trans found

/-- What a fragment is folded to is known from what is read of its members of `allOf`, as soon as each of them is folded. -/
theorem Context.Acyclic.foldsTo_obj {α : Type} {context : Context} {f : Fragment} {steps : Nat} {seen others : List String}
    {members : Members} {results : List Json} {read : Fragment → α} {parts : List α} (acyclic : context.Acyclic steps others f)
    (known : context.index.WellCompiled context.draft) (compiled : f.IsCompiled context.draft) (sub : seen ⊆ others)
    (shape : (context.settle f []).schema = .obj members) (plain : (Json.obj (members.without isAllOf)).Plain context.draft)
    (below : ((context.settle f []).members .allOf).map read = parts) (filled : parts ≠ [])
    (each : List.Forall₂ (fun part result => ∀ child fewer, read child = part → child.IsCompiled context.draft →
      context.Acyclic fewer [(context.settle f []).location, f.location] child →
      context.FoldsTo ((context.settle f []).location :: seen) child result) parts results)
    (fixed : ∀ result ∈ results, ∀ base, rebase base result = result)
    (blends : BlendInto context.draft (.obj (members.without isAllOf)) results) :
    context.FoldsTo seen f (results.foldl merge (.obj (members.without isAllOf))) := by
  have found := (acyclic.standsFor []).isCompiled known compiled
  subst below
  rw [List.forall₂_map_left_iff, List.forall₂_iff_get] at each
  obtain ⟨same, each⟩ := each
  refine .folded (acyclic.standsFor []) (fun again => acyclic.settle_location_not_mem [] (sub again)) shape
    (fun memberless => filled (memberless ▸ rfl)) plain same.symm (fun index child result listed other => ?_) fixed blends
  obtain ⟨bound, rfl⟩ := List.getElem?_eq_some_iff.mp listed
  obtain ⟨bound', rfl⟩ := List.getElem?_eq_some_iff.mp other
  have has := Fragment.hasChild_of_members (List.getElem_mem bound)
  obtain ⟨fewer, -, acyclic⟩ := acyclic.child [] has
  exact each index bound bound' _ fewer rfl (found.child has) (acyclic.mono (Nat.le_refl _) (by simp))

/-- Both members are folded before they are merged into what stands beside them. -/
theorem nestedBounds_foldsTo {context : Context} {f : Fragment} {steps : Nat} (acyclic : context.Acyclic steps [] f)
    (known : context.index.WellCompiled context.draft) (compiled : f.IsCompiled context.draft)
    (draft : context.draft = .draft2020) (shape : (context.settle f []).schema = nestedBounds)
    (below : context.membersBelow f = [(alternatives, []),
      (.obj [("allOf", .arr [.obj [("maximum", .ofNat 100)]])], [.obj [("maximum", .ofNat 100)]])]) :
    context.FoldsTo [] f foldedBounds := by
  have plain {schema : Json} (is : schema.isPlain .draft2020 3 = true) : schema.Plain context.draft :=
    draft ▸ Json.plain_of_isPlain is
  have single {members : Members} (own : Keyword) {value : Json} (absent : members.lookup own.name = none)
      (reads : own.readsIn .draft2020 = [own.name])
      (apart : (Keyword.all.filter fun keyword => (keyword.readsIn .draft2020).contains own.name) = [own]) :
      Blendable context.draft (.obj members) (.obj [(own.name, value)]) := draft ▸ .single own absent reads apart
  refine @Context.Acyclic.foldsTo_obj _ _ _ _ [] _ _ [alternatives, .obj [("maximum", .ofNat 100)]] _ _ acyclic known compiled
    (List.Subset.refl _) shape (plain (by decide +kernel)) below nofun
    (.cons (fun child fewer same compiled acyclic => ?_) (.cons (fun child fewer same compiled acyclic => ?_) .nil)) ?_
    (.cons (single .anyOf rfl (by decide) (by decide)) (.cons (single .maximum rfl (by decide) (by decide)) (.nil _)))
  · exact acyclic.foldsTo known compiled (Prod.mk.inj same).1 rfl (plain (by decide +kernel))
  · obtain ⟨shape, below⟩ := Prod.mk.inj same
    refine @Context.Acyclic.foldsTo_obj _ _ _ _ _ _ _ [.obj [("maximum", .ofNat 100)]] _ _ acyclic known compiled
      (by simp) shape (plain (by decide +kernel)) below nofun (.cons (fun last fewer same compiled acyclic => ?_) .nil) ?_
      (.cons (single .maximum rfl (by decide) (by decide)) (.nil _))
    · exact acyclic.foldsTo known compiled same rfl (plain (by decide +kernel))
    · exact List.forall_mem_singleton.mpr fun base => rfl
  · rw [List.forall_mem_cons, List.forall_mem_singleton]
    exact ⟨fun base => rfl, fun base => rfl⟩

/-- The root of a schema, what it is reduced to without data, and whether each of the two accepts some data. -/
def staticallyReduced? (schema data : Json) : Option (Node × Node × Bool × Bool) := do
  let root ← (Compiler.standard.compile schema).toOption
  let reduced ← (← root.reduceStatic).toOption
  return (root, reduced, ← root.accepts data, ← reduced.accepts data)

theorem staticallyReduced?_eq_some {schema data : Json} {root reduced : Node} {before after : Bool}
    (known : staticallyReduced? schema data = some (root, reduced, before, after)) :
    Compiler.standard.compile schema = .ok root ∧ root.reduceStatic = some (.ok reduced) ∧
      root.accepts data = some before ∧ reduced.accepts data = some after := by
  simp only [staticallyReduced?, Option.bind_eq_bind, Option.bind_eq_some_iff] at known
  obtain ⟨_, compiled, answer, reduces, _, answered, _, accepts, _, accepts', same⟩ := known
  cases same
  exact ⟨ok_of_toOption compiled, ok_of_toOption answered ▸ reduces, accepts, accepts'⟩

/-- The number is met by one of the alternatives, and by the bound. -/
theorem nestedBounds_static_reduction_accepts : ∃ root reduced, Compiler.standard.compile nestedBounds = .ok root ∧
    root.validate (.ofNat 7) = some [] ∧ root.reduceStatic = some (.ok reduced) ∧ reduced.fragment.schema = foldedBounds ∧
    ∃ depth, (reduced.context.judge depth).answer (reduced.validation (.ofNat 7)) = some (.violations []) := by
  have computed : (staticallyReduced? nestedBounds (.ofNat 7)).map (fun (root, _, accepts, accepts') =>
      (accepts, accepts', root.context.waysPass (fun _ => true) 3 [] root.fragment,
        decide ((root.context.settle root.fragment []).schema = nestedBounds ∧ root.context.membersBelow root.fragment =
          [(alternatives, []), (.obj [("allOf", .arr [.obj [("maximum", .ofNat 100)]])], [.obj [("maximum", .ofNat 100)]])]))) =
      some (true, true, true, true) := by decide +kernel
  obtain ⟨⟨root, reduced, before, after⟩, known, same⟩ := Option.map_eq_some_iff.mp computed
  simp only [Prod.mk.injEq, decide_eq_true_eq] at same
  obtain ⟨rfl, rfl, passes, shape, below⟩ := same
  obtain ⟨compiled, reduces, accepts, -⟩ := staticallyReduced?_eq_some known
  have accepted : root.validate (.ofNat 7) = some [] := verdict_eq_true.mp accepts
  have sound := Node.sound_of_compile compiled
  obtain ⟨draft, formats, -⟩ := Compiler.root_of_compile compiled
  obtain ⟨static, own⟩ := Compiler.static_of_standard nestedBounds_static compiled
  obtain ⟨acyclic, -⟩ := Context.acyclic_of_waysPass static own passes
  have folds := nestedBounds_foldsTo acyclic sound.index sound.fragment (draft.trans rfl) shape below
  obtain ⟨own, accepts⟩ := static_reduction_accepts ⟨root, compiled, .refl⟩ acyclic (formats ▸ Formats.standard_byValue)
    (.inr folds) reduces
  exact ⟨root, reduced, compiled, accepted, reduces, own, accepts _ ⟨_, Judge.answer_check.mpr accepted⟩⟩

/-! ## Alternatives that are paired -/

/-- Two members with two alternatives each. -/
def pairedAlternatives : Json := .obj [("allOf", .arr [
  .obj [("anyOf", .arr [.obj [("minimum", .ofNat 5)], .obj [("maximum", .ofNat 0)]])],
  .obj [("anyOf", .arr [.obj [("maximum", .ofNat 7)], .obj [("minimum", .ofNat 8)]])]])]

/-- The first alternative is merged with the first one, and the second with the second; 10 takes the first of the one
member, and the second of the other. -/
theorem static_reduction_pairs_alternatives : ∃ root reduced, Compiler.standard.compile pairedAlternatives = .ok root ∧
    root.validate (.ofNat 10) = some [] ∧ root.reduceStatic = some (.ok reduced) ∧
    reduced.validate (.ofNat 10) ≠ some [] := by
  have computed : (staticallyReduced? pairedAlternatives (.ofNat 10)).map (fun known => known.2.2) = some (true, false) := by
    decide +kernel
  obtain ⟨⟨root, reduced, before, after⟩, known, same⟩ := Option.map_eq_some_iff.mp computed
  cases same
  obtain ⟨compiled, reduces, accepts, rejects⟩ := staticallyReduced?_eq_some known
  refine ⟨root, reduced, compiled, verdict_eq_true.mp accepts, reduces, fun accepted => ?_⟩
  rw [Node.accepts, accepted] at rejects
  cases rejects

end JsonSchema
