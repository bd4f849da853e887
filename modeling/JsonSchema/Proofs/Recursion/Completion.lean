import JsonSchema.Compiler
import JsonSchema.Proofs.Attempt
import JsonSchema.Proofs.Recursion.Termination
import JsonSchema.Proofs.Reference.Target

/-!
# Ends of validation and reduction

Validation and reduction of a node end exactly if they come to finitely many locations. Where a
reference replaces its fragment that is always so, as the locations then belong to the compiled
documents and their parts. Where the keywords beside a reference are merged into its target, the
merged fragment can have subschemas at new locations, and each of them can be merged again.
-/

namespace JsonSchema

/-! ## References that replace -/

/-- The fragment that an inquiry is about. -/
def Inquiry.fragment : Inquiry → Fragment
  | .check fragment _ _ _ => fragment
  | .reduction _ fragment _ => fragment

namespace Context

variable {context : Context} {family : Set Fragment}

/-- Drafts in which something can be unevaluated merge the siblings of references. -/
theorem merges_of_unevaluatedItems {draft : Draft} {fragment : Fragment}
    (occurs : .unevaluatedItems ∈ fragment.keywords draft) :
    draft.mergesSiblings = true := by
  have known : .unevaluatedItems ∈ draft.keywords := by
    unfold Fragment.keywords at occurs
    split at occurs
    · exact List.mem_of_mem_filter occurs
    · cases occurs
  revert known
  cases draft <;> decide

/-- A step stays in a family of fragments that has what these stand for and the children of that, if none of
them asks for what is unevaluated. -/
theorem Next.stays {q next : Inquiry} (leads : context.Next q next)
    (settle : ∀ f ∈ family, ∀ scope, context.settle f scope ∈ family)
    (child : ∀ f ∈ family, ∀ scope c, (context.settle f scope).HasChild c → c ∈ family)
    (evaluated : ∀ f ∈ family, ∀ scope, .unevaluatedItems ∉ (context.settle f scope).keywords context.draft)
    (inside : q.fragment ∈ family) : next.fragment ∈ family := by
  have near {visit : Visit} {member : Fragment} (beside : visit.Near member) (same : visit.context = context)
      {scope : Scope} (settled : context.settle q.fragment scope = visit.fragment) : member ∈ family := by
    subst same
    rcases beside with own | ⟨between, own, below⟩
    · exact child _ inside scope _ (settled ▸ own)
    · exact child _ (child _ inside scope _ (settled ▸ own)) _ _ below
  cases q with
  | check fragment data pointer scope =>
    obtain ⟨-, target, inner, reached, step⟩ := leads
    have settled := settle_eq_of_inside? reached
    cases next with
    | check member part place inner' =>
      obtain ⟨-, -, beside | occurs⟩ := step
      · exact near beside rfl settled
      · exact absurd (settled ▸ occurs) (evaluated _ inside _)
    | reduction task reduced inner' =>
      obtain ⟨-, -, rfl⟩ := step
      exact settled ▸ settle _ inside _
  | reduction task fragment scope =>
    obtain ⟨target, inner, reached, -, step⟩ := leads
    have settled := settle_eq_of_inside? reached
    cases next with
    | check member part place inner' =>
      obtain ⟨-, -, beside⟩ := step
      exact near beside rfl settled
    | reduction task' member inner' =>
      obtain ⟨-, -, own⟩ := step
      exact child _ inside _ _ (settled ▸ own)

/-- So does all that an inquiry leads to. -/
theorem Leads.stays {q r : Inquiry} (leads : context.Leads q r)
    (settle : ∀ f ∈ family, ∀ scope, context.settle f scope ∈ family)
    (child : ∀ f ∈ family, ∀ scope c, (context.settle f scope).HasChild c → c ∈ family)
    (evaluated : ∀ f ∈ family, ∀ scope, .unevaluatedItems ∉ (context.settle f scope).keywords context.draft)
    (inside : q.fragment ∈ family) : r.fragment ∈ family := by
  induction leads with
  | refl => exact inside
  | tail _ needs ih => exact Next.stays (context.next_of_needs needs) settle child evaluated ih

/-- Where references replace, every inquiry ends. -/
theorem finishes_of_replacing (replaces : context.draft.mergesSiblings = false) (q : Inquiry) :
    context.Finishes q := by
  have closed : context.Closed (context.family [q.fragment]) := closed_family _
  have finite := (context.finite_family [q.fragment]).image Fragment.location
  refine finishes_of_locations finite.toFinset fun r leads => finite.mem_toFinset.mpr ?_
  have evaluated (fragment : Fragment) : .unevaluatedItems ∉ fragment.keywords context.draft := fun occurs => by
    rw [merges_of_unevaluatedItems occurs] at replaces
    cases replaces
  have settle (f : Fragment) (known : f ∈ context.family [q.fragment]) (scope : Scope) :=
    closed.settle replaces known scope
  have inside : r.fragment ∈ context.family [q.fragment] :=
    Leads.stays leads settle (fun f known scope => closed.child _ (settle f known scope)) (fun _ _ _ => evaluated _)
      (root_mem_family (List.mem_singleton_self _))
  cases r with
  | check fragment data pointer scope => exact ⟨fragment, inside, rfl⟩
  | reduction task fragment scope => exact ⟨_, closed.settle replaces inside _, rfl⟩

end Context

/-! ## Validation and reduction of nodes -/

namespace Node

/-- The check that validation of data consists of. -/
def validation (node : Node) (data : Json) : Inquiry := .check node.fragment data .root node.scope

/-- The reduction for data. -/
def reduction (node : Node) (data : Json) : Inquiry := .reduction ⟨some data, .root, []⟩ node.fragment node.scope

/-- The locations at which an inquiry and all it leads to are cut. -/
def locationsOf (node : Node) (q : Inquiry) : Set String :=
  node.context.guardLocation '' {r | node.context.Leads q r}

end Node

/-- Validation and reduction end at some depth exactly if they come to finitely many locations,
and always where references replace the fragments they stand in. -/
theorem recursion_ends_iff (node : Node) (data : Json) :
    (node.context.Finishes (node.validation data) ↔ (node.locationsOf (node.validation data)).Finite) ∧
    (node.context.Finishes (node.reduction data) ↔ (node.locationsOf (node.reduction data)).Finite) ∧
    (node.context.draft.mergesSiblings = false →
      node.context.Finishes (node.validation data) ∧ node.context.Finishes (node.reduction data)) := by
  refine ⟨Context.finishes_iff, Context.finishes_iff, fun replaces => ?_⟩
  exact ⟨Context.finishes_of_replacing replaces _, Context.finishes_of_replacing replaces _⟩

/-! ## Locations minted without end -/

/-- A list of computations has no result if one of them has none. -/
theorem gather_eq_none {α : Type} {places : List α} {check : α → Option (List Violation)} {place : α}
    (inside : place ∈ places) (declined : check place = none) : gather places check = none := by
  induction places with
  | nil => cases inside
  | cons first rest ih =>
    rcases List.mem_cons.mp inside with rfl | later
    · simp [gather, declined]
    · have rest := ih later
      simp only [gather, Option.map_eq_none_iff] at rest
      simp [gather, rest]

/-- A reference with a keyword beside it. -/
def spiralMember (reference : String) : Json := .obj [("$ref", .str reference), ("minimum", .ofNat 1)]

/-- A schema with a member that refers to the whole schema and asks for more. -/
def spiral : Json := .obj [("allOf", .arr [spiralMember "#"])]

/-- The schema with the keywords of its member merged in. -/
def spiralMerged : Json := .obj [("allOf", .arr [spiralMember "json-schema:///#"]), ("minimum", .ofNat 1)]

namespace Spiral

/-- The member, compiled. -/
def member (site : Site) (origin : Origin) (reference : String) : Fragment :=
  ⟨site, origin, spiralMember reference, [], none, []⟩

def root : Fragment :=
  ⟨.ofDocument .default, .document 0, spiral, [], none,
    [(.member .allOf 0, member ((Site.ofDocument .default).below ["allOf", "0"]) (.document 0) "#")]⟩

/-- What the member stands for: a fragment at its site that has another member. -/
def turn (site : Site) : Fragment :=
  ⟨site, .derived spiralMerged, spiralMerged, [], none,
    [(.member .allOf 0, member (site.below ["allOf", "0"]) (.derived spiralMerged) "json-schema:///#")]⟩

def context : Context := ⟨.draft2020, .standard, Index.empty.add .draft2020 .default root⟩

private theorem compiled : Compiler.standard.compile spiral = .ok (.reach context root []) := rfl

private theorem mergeTarget_root :
    mergeTarget root = .obj [("allOf", .arr [spiralMember "json-schema:///#"])] := by
  have unnamed : ownBase .default [("allOf", .arr [spiralMember "#"])] = .default := rfl
  have address : absolute .default "#" = "json-schema:///#" := by decide +kernel
  change rebase .default spiral = _
  rw [spiral, rebase, unnamed]
  simp only [rebaseMembers, rebase, rebaseItems, spiralMember, address, Json.ofNat]
  rfl

/-- The member has no subschemas. -/
private theorem steps_member (pointer : Pointer) (reference least : Json) :
    steps .draft2020 pointer [("$ref", reference), ("minimum", least)] = [] := by
  simp [steps, stepMembers, stepOne, stepItems, stepArray, stepDependencies, List.lookup_cons, Members.has, Keyword.name,
    Fragment.dependencyKeywords, Draft.knows]

/-- What the member stands for has one subschema. -/
private theorem steps_merged (pointer : Pointer) (sub least : Json) :
    steps .draft2020 pointer [("allOf", .arr [sub]), ("minimum", least)] = [.child (.member .allOf 0) sub] := by
  simp [steps, stepMembers, stepOne, stepItems, stepArray, stepDependencies, List.lookup_cons, Members.has, Keyword.name,
    Fragment.dependencyKeywords, Draft.knows]

private theorem compile_member (depth : Nat) (site : Site) (origin : Origin) (reference : String) :
    Fragment.compileWithin .draft2020 origin (depth + 1) site (spiralMember reference) =
      .ok (member site origin reference) := by
  rw [spiralMember, Fragment.compileWithin]
  simp only [steps_member]
  rfl

private theorem derive_merged (site : Site) : Fragment.derive .draft2020 site spiralMerged = .ok (turn site) := by
  rw [Fragment.derive, Fragment.compile, show spiralMerged.depth = 2 + 1 from rfl]
  conv_lhs => rw [spiralMerged]
  rw [Fragment.compileWithin]
  simp only [steps_merged, List.mapM_cons, List.mapM_nil, compile_member]
  rfl

private theorem follow (site : Site) (origin : Origin) (reference : String) :
    context.follow? (member site origin reference) root = some (turn site) := by
  have merges : (context.draft.mergesSiblings && hasSiblings (spiralMember reference)) = true := rfl
  have merged : merge (mergeTarget root) (siblings (spiralMember reference)) = spiralMerged := by
    rw [mergeTarget_root]
    rfl
  rw [Context.follow?]
  simp only [member, merged]
  rw [if_pos merges, context, derive_merged]
  rfl

private theorem target {site : Site} (base : site.base = .default) (origin : Origin) {reference : String}
    (refers : reference ∈ ["#", "json-schema:///#"]) (scope : Scope) :
    context.target? (member site origin reference) .static reference scope = some root := by
  have addresses : ∀ r ∈ ["#", "json-schema:///#"], splitReference .default r = some (.default, "") := by
    decide +kernel
  have found : context.lookup? .default "" = some root := rfl
  simp only [Context.target?, member, base, addresses reference refers, found, Option.bind_eq_bind,
    Option.bind_some]
  rfl

private theorem resolve {site : Site} (base : site.base = .default) (origin : Origin) {reference : String}
    (refers : reference ∈ ["#", "json-schema:///#"]) (scope : Scope) :
    context.resolve (member site origin reference) scope = .resolved (turn site) (scope.enter root) := by
  have reference? : (member site origin reference).reference? context.draft = some (.static, reference) := rfl
  have settled : (turn site).reference? context.draft = none := rfl
  have entered : 0 < context.index.entryCount := by decide
  obtain ⟨n, steps⟩ : ∃ n, context.index.chainLimit + 1 = n + 2 := by
    refine ⟨context.index.chainLimit - 1, ?_⟩
    unfold Index.chainLimit
    omega
  rw [Context.resolve, steps]
  simp only [reference?, Context.followChain, target base origin refers, follow, settled]
  rfl

/-- A member that is inquired about at a location longer than all those that are cut. -/
def Turning : Inquiry → Prop
  | .check fragment data pointer scope =>
    ∃ site origin reference, fragment = member site origin reference ∧ site.base = .default ∧
      reference ∈ ["#", "json-schema:///#"] ∧ data = .ofNat 3 ∧ pointer = .root ∧
      ∀ frame ∈ scope, frame.instance? = some .root → frame.fragment.location.length < site.location.length
  | .reduction task fragment _ =>
    ∃ site origin reference, fragment = member site origin reference ∧ site.base = .default ∧
      reference ∈ ["#", "json-schema:///#"] ∧ task.data = some (.ofNat 3) ∧
      ∀ location ∈ task.active, location.length < site.location.length

/-- A fragment checks the members of `allOf`. -/
private theorem validateSettled_declined {context : Context} {judge : Judge} {f other : Fragment}
    {members : Members} {data : Json} {pointer : Pointer} {scope : Scope} (schema : f.schema = .obj members)
    (checked : .allOf ∈ (f.keywords context.draft).filter fun keyword =>
      context.draft.applies keyword (TypeName.of data))
    (listed : other ∈ f.members .allOf) (declined : judge.validate other data pointer scope = none) :
    context.validateSettled judge f data pointer scope = none := by
  rw [Context.validateSettled]
  simp only [schema]
  refine gather_eq_none checked ?_
  have failures : gather (f.members .allOf)
      (Visit.validateHere ⟨context, judge, f, data, pointer, scope⟩) = none := gather_eq_none listed declined
  simp only [Visit.check, Visit.checkAllOf, failures]
  rfl

/-- A fragment that is not being reduced reduces the first member of `allOf`. -/
private theorem reduceSettled_declined {context : Context} {judge : Judge} {f other : Fragment}
    {task : Reduction} {scope : Scope} {value : Json} (data : task.data = some value)
    (reducers : f.reducers context.draft = [.allOf]) (members : f.members .allOf = [other])
    (free : f.location ∉ task.active)
    (declined : judge.reduce { task with active := f.location :: task.active } other scope = none) :
    (context.reduceSettled judge task f scope).run = none := by
  have unlisted : task.active.contains f.location = false := by simpa using free
  have work : task.hasWork context.draft f = true := by simp [Reduction.hasWork, data, reducers]
  have folds : (Folding.foldAll ⟨{ task with active := f.location :: task.active },
      ⟨context, judge, f, task.value, task.pointer, scope⟩⟩).run = none := by
    rw [data] at declined
    simp [Folding.foldAll, reducers, data, Folding.fold, members, Folding.absorb, Folding.contribution, declined]
  simp only [Context.reduceSettled, work, unlisted, Bool.not_true, Bool.false_eq_true, ↓reduceIte]
  exact Attempt.bind_eq_none folds

private theorem turning_asks (q : Inquiry) (turns : Turning q) : ∃ r, Turning r ∧
    ∀ judge : Judge, judge.answer r = none → (context.stepJudge judge).answer q = none := by
  cases q with
  | check fragment data pointer scope =>
    obtain ⟨site, origin, reference, rfl, base, refers, rfl, rfl, shorter⟩ := turns
    let inner : Scope := (scope.enterAt (member site origin reference) .root).enter root
    let next := member (site.below ["allOf", "0"]) (.derived spiralMerged) "json-schema:///#"
    refine ⟨.check next (.ofNat 3) .root inner, ?_, fun judge declined => ?_⟩
    · refine ⟨_, _, _, rfl, base, by simp, rfl, rfl, fun frame entered here => ?_⟩
      have longer := site.location_lt (.member .allOf 0)
      simp only [inner, Scope.enter, Scope.enterAt, List.mem_cons] at entered
      rcases entered with rfl | rfl | outer
      · cases here
      · exact longer
      · exact (shorter frame outer here).trans longer
    · have free : scope.isChecking (member site origin reference).location .root = false := by
        rw [Scope.isChecking, List.any_eq_false]
        intro frame entered same
        simp only [Bool.and_eq_true, decide_eq_true_eq, beq_iff_eq] at same
        have := shorter frame entered same.1
        rw [same.2] at this
        exact absurd this (Nat.lt_irrefl _)
      simp only [Context.stepJudge, Judge.answer, Option.map_eq_none_iff] at declined ⊢
      rw [Context.validateStep]
      simp only [free, Bool.false_eq_true, ↓reduceIte, resolve base origin refers]
      have checked : (((turn site).keywords context.draft).filter fun keyword =>
          context.draft.applies keyword (TypeName.of (.ofNat 3))) = [.minimum, .allOf] := rfl
      exact validateSettled_declined rfl (by simp [checked]) (List.mem_singleton_self _) declined
  | reduction task fragment scope =>
    obtain ⟨site, origin, reference, rfl, base, refers, data, shorter⟩ := turns
    let inner : Scope := (scope.enter (member site origin reference)).enter root
    let next := member (site.below ["allOf", "0"]) (.derived spiralMerged) "json-schema:///#"
    refine ⟨.reduction { task with active := site.location :: task.active } next inner, ?_, fun judge declined => ?_⟩
    · refine ⟨_, _, _, rfl, base, by simp, data, fun location listed => ?_⟩
      have longer := site.location_lt (.member .allOf 0)
      rcases List.mem_cons.mp listed with rfl | earlier
      · exact longer
      · exact (shorter location earlier).trans longer
    · have free : site.location ∉ task.active := fun listed => Nat.lt_irrefl _ (shorter _ listed)
      simp only [Context.stepJudge, Judge.answer, Option.map_eq_none_iff] at declined ⊢
      rw [Context.reduceStep]
      simp only [resolve base origin refers]
      exact reduceSettled_declined data rfl rfl free declined

end Spiral

/-- Neither the validation nor the reduction of a number by the schema comes to an end. -/
theorem spiral_endless : ∃ node, Compiler.standard.compile spiral = .ok node ∧
    ¬ node.context.Finishes (node.validation (.ofNat 3)) ∧ ¬ node.context.Finishes (node.reduction (.ofNat 3)) := by
  refine ⟨_, Spiral.compiled, ?_, ?_⟩
  · have member : Spiral.Turning (.check (Spiral.member ((Site.ofDocument .default).below ["allOf", "0"])
        (.document 0) "#") (.ofNat 3) .root [⟨Spiral.root, some .root⟩]) := by
      refine ⟨_, _, _, rfl, rfl, by simp, rfl, rfl, fun frame entered _ => ?_⟩
      rw [List.mem_singleton.mp entered]
      exact (Site.ofDocument .default).location_lt (.member .allOf 0)
    change ¬ Spiral.context.Finishes (.check Spiral.root (.ofNat 3) .root [])
    refine Spiral.context.not_finishes_of_declined
      (Spiral.context.not_finishes_of_asks Spiral.turning_asks member) fun judge declined => ?_
    simp only [Context.stepJudge, Judge.answer, Option.map_eq_none_iff] at declined ⊢
    have checked : ((Spiral.root.keywords Spiral.context.draft).filter fun keyword =>
        Spiral.context.draft.applies keyword (TypeName.of (.ofNat 3))) = [.allOf] := rfl
    exact @Spiral.validateSettled_declined Spiral.context _ Spiral.root _ _ _ _ _ rfl
      (checked ▸ List.mem_singleton_self _) (List.mem_singleton_self _) declined
  · have member : Spiral.Turning (.reduction ⟨some (.ofNat 3), .root, [Spiral.root.location]⟩
        (Spiral.member ((Site.ofDocument .default).below ["allOf", "0"]) (.document 0) "#")
        [⟨Spiral.root, none⟩]) := by
      refine ⟨_, _, _, rfl, rfl, by simp, rfl, fun location listed => ?_⟩
      rw [List.mem_singleton.mp listed]
      exact (Site.ofDocument .default).location_lt (.member .allOf 0)
    change ¬ Spiral.context.Finishes (.reduction ⟨some (.ofNat 3), .root, []⟩ Spiral.root [])
    refine Spiral.context.not_finishes_of_declined
      (Spiral.context.not_finishes_of_asks Spiral.turning_asks member) fun judge declined => ?_
    simp only [Context.stepJudge, Judge.answer, Option.map_eq_none_iff] at declined ⊢
    exact Spiral.reduceSettled_declined rfl rfl rfl (by simp) declined

end JsonSchema
