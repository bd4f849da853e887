import JsonSchema.Proofs.Compilation.Remainder
import JsonSchema.Proofs.Merge.Blending
import JsonSchema.Proofs.Recursion.Acyclic
import JsonSchema.Proofs.Recursion.Completion
import JsonSchema.Proofs.Reduction.Success

/-!
# What reduction puts together

A schema that reduction puts together for data accepts them as long as every two schemas that are
merged on the way blend. It starts from fragments that accept the data, and from names that are
present.
-/

namespace JsonSchema

open Fragment

/-- One schema is part of another: each check that it asks for reads there what it reads in the whole. -/
inductive Json.PartOf (draft : Draft) : Json → Json → Prop where
  | bool (b : Bool) : PartOf draft (.bool b) (.bool b)
  | obj {part whole : Members}
      (reads : ∀ keyword : Keyword, (∀ name ∈ keyword.readsIn draft, part.lookup name = whole.lookup name) ∨
        keyword.isPresent draft part = false) : PartOf draft (.obj part) (.obj whole)

/-- A schema is part of itself. -/
theorem Json.PlainSchema.partOf_self {draft : Draft} {schema : Json} (plain : schema.PlainSchema draft) :
    schema.PartOf draft schema := by
  cases plain.plain with
  | bool b => exact .bool b
  | obj => exact .obj fun _ => .inl fun _ _ => rfl

/-- What is left of a schema is part of it, if every check that is left keeps all that it reads. -/
theorem Json.partOf_without {draft : Draft} {dropped : String → Bool} (members : Members)
    (apart : ∀ keyword : Keyword, (∀ name ∈ keyword.readsIn draft, dropped name = false) ∨
      keyword.isPresent draft (members.without dropped) = false) :
    (Json.obj (members.without dropped)).PartOf draft (.obj members) :=
  .obj fun keyword => (apart keyword).imp_left fun kept name read => by
    rw [lookup_without, kept name read, if_neg Bool.false_ne_true]

/-- A schema without the keywords that are folded for data. -/
def Json.beside : Json → Json
  | .obj members => .obj (Members.without members dynamicKeywords.contains)
  | schema => schema

/-- What reduction for data takes over of a fragment has a property: what stands beside the composition, and all of it
if there is none. -/
structure Fragment.Contributes (draft : Draft) (P : Json → Prop) (f : Fragment) : Prop where
  beside : P f.schema.beside
  whole : f.reducers draft = [] → P f.schema

namespace Context

variable {context : Context} {depth : Nat} {schema data : Json} {members : Members} {f : Fragment}

/-! ## Schemas that data meet -/

/-- What is met at a depth is met at all greater ones. -/
theorem Meets.mono {deeper : Nat} (meets : context.Meets depth schema data) (le : depth ≤ deeper) :
    context.Meets deeper schema data := fun source outer f compiled =>
  Judge.answer_check.mp (context.judge_extends le _ _ (Judge.answer_check.mpr (meets source outer f compiled)))

/-- What a fragment accepts meets every plain part of its schema. -/
theorem meets_of_settled (byValue : context.formats.ByValue) {quiet : Scope} {pointer : Pointer} (idle : quiet.Idle)
    (accepted : context.validateSettled context.limit f data pointer quiet = some [])
    (compiled : f.IsCompiled context.draft) (plain : schema.PlainSchema context.draft)
    (part : schema.PartOf context.draft f.schema) : ∃ depth, context.Meets depth schema data := by
  obtain ⟨source, outer, compiled⟩ := compiled
  cases shape : f.schema with
  | bool b =>
    rw [shape] at part
    cases part
    have known : verdict (context.validateSettled context.limit f data pointer quiet) = some b :=
      context.validateSettled_bool shape data pointer
    rw [accepted] at known
    exact ⟨1, (meets_bool b).mpr (Option.some.inj known).symm⟩
  | obj whole =>
    rw [shape] at part compiled
    cases part with
    | @obj members _ reads =>
      obtain ⟨depth, accepted⟩ := context.exists_depth_of_limit (P := fun _ => True)
        (context.inquires_validateSettled f data pointer quiet (fun _ _ _ _ _ => trivial) trivial
          fun _ _ _ _ _ => trivial) accepted
      refine ⟨depth + 1, (meets_obj byValue plain).mpr fun keyword known applies present => ?_⟩
      rcases reads keyword with same | absent
      · refine (holds_iff_check_within byValue plain same compiled (fun entry _ => idle.freeAt entry.2) pointer).mpr ?_ present
        exact context.check_of_accepted shape accepted (Draft.mem_keywords.mp known)
      · rw [absent] at present
        cases present
  | _ =>
    rw [shape] at part
    cases part

/-- The data meet a list of required names that are present. -/
theorem meets_required (byValue : context.formats.ByValue) {names : List String}
    (present : ∀ name ∈ names, (data.member? name).isSome = true) :
    context.Meets (depth + 1) (.obj [("required", .ofStrings names)]) data := by
  have schema : (Json.obj [("required", .ofStrings names)]).PlainSchema context.draft := .required _
  rw [meets_obj byValue schema]
  intro keyword _ _
  by_cases own : keyword = .required
  · subst own
    rw [holds_required_iff byValue schema rfl]
    intro members object name inside
    obtain ⟨text, listed, same⟩ := List.mem_map.mp inside
    obtain rfl := Json.str.inj same
    have has := present text listed
    rwa [object] at has
  · refine holds_of_lacks fun name read => ?_
    have apart : name ≠ "required" := by
      rintro rfl
      revert read
      cases keyword <;> first | exact absurd rfl own | decide
    rw [List.lookup_cons, beq_false_of_ne apart]
    rfl

/-- What the data meet requires only names that are present. -/
theorem Meets.requiresPresent (byValue : context.formats.ByValue) (plain : schema.PlainSchema context.draft)
    (meets : context.Meets depth schema data) : data.RequiresPresent schema := by
  rintro own rfl name ⟨names, found, inside⟩
  cases schema with
  | obj members =>
    cases depth with
    | zero => exact absurd meets (not_meets_zero plain)
    | succ depth =>
      have known : .required ∈ context.draft.keywords := by cases context.draft <;> decide
      have applies : context.draft.applies .required .object = true := by cases context.draft <;> decide
      have holds := (meets_obj byValue plain).mp meets .required known applies
      exact (holds_required_iff byValue plain found).mp holds own rfl name inside
  | _ => cases found

/-! ## What is reduced -/

/-- What is reduced for the data is on the ways from the fragment at which the inquiry starts. -/
theorem Reduces.wayTo {q : Inquiry} {task : Reduction} {target : Fragment} (reduces : context.Reduces q data task target)
    (evaluated : ∀ g, context.WayTo q.fragment g → ¬ g.LooksAround context.draft) :
    context.WayTo q.fragment target := by
  cases reduces with
  | @intro fragment _ scope _ leads _ _ inside =>
    exact leads.wayTo evaluated (settle_eq_of_inside? inside ▸ .here fragment (scope.enter fragment))

/-- What is reduced for the data accepts them, so they meet every plain part of it. -/
theorem Reduces.meets (byValue : context.formats.ByValue) {q : Inquiry} {task : Reduction} {target : Fragment}
    (reduces : context.Reduces q data task target) (plain : schema.PlainSchema context.draft)
    (part : schema.PartOf context.draft target.schema) : ∃ depth, context.Meets depth schema data := by
  cases reduces with
  | intro _ _ near inside compiled =>
    obtain ⟨quiet, idle, accepted⟩ := near.settled inside
    exact meets_of_settled byValue idle accepted compiled plain part

theorem Reduces.given {q : Inquiry} {task : Reduction} {target : Fragment} (reduces : context.Reduces q data task target) :
    task.data = some data := by
  cases reduces
  assumption

theorem Reduces.staticPart_eq {q : Inquiry} {task : Reduction} {target : Fragment}
    (reduces : context.Reduces q data task target) (schema : Json) : task.staticPart schema = schema.beside := by
  have dynamic : task.isDynamic = dynamicKeywords.contains := by
    funext name
    simp [Reduction.isDynamic, reduces.given]
  cases schema with
  | obj members => exact congrArg (fun dropped => Json.obj (Members.without members dropped)) dynamic
  | _ => rfl

/-- What a fragment contributes to reduction for data has a property, where all that is reduced comes from the ways
from one fragment. -/
theorem Reduces.contributes {P : Json → Prop} {q : Inquiry}
    (evaluated : ∀ g, context.WayTo q.fragment g → ¬ g.LooksAround context.draft)
    (contributes : ∀ g, context.WayTo q.fragment g → g.Contributes context.draft P) {task : Reduction} {target : Fragment}
    (reduces : context.Reduces q data task target) :
    P (task.staticPart target.schema) ∧ (task.hasWork context.draft target = false → P target.schema) := by
  obtain ⟨beside, whole⟩ := contributes target (reduces.wayTo evaluated)
  refine ⟨reduces.staticPart_eq _ ▸ beside, fun still => whole ?_⟩
  simpa [Reduction.hasWork, reduces.given] using still

/-! ## Assembled schemas -/

/-- The schemas that reduction for the data may put together: those of fragments with nothing to fold, the
static parts of all others, names that are present, and what is made of these. -/
inductive Assembled (context : Context) (q : Inquiry) (data : Json) : Json → Prop where
  | idle {task : Reduction} {target : Fragment} (reduces : context.Reduces q data task target)
      (still : task.hasWork context.draft target = false) : Assembled context q data target.schema
  | static {task : Reduction} {target : Fragment} (reduces : context.Reduces q data task target) :
      Assembled context q data (task.staticPart target.schema)
  | names {names : List String} (present : ∀ name ∈ names, (data.member? name).isSome = true) :
      Assembled context q data (.obj [("required", .ofStrings names)])
  | rebased (base : Uri) {schema : Json} (assembled : Assembled context q data schema) :
      Assembled context q data (rebase base schema)
  | merged {a b : Json} (left : Assembled context q data a) (right : Assembled context q data b) :
      Assembled context q data (merge a b)

/-- All that reduction puts together is without references, and every two schemas of it blend. -/
structure Harmonious (context : Context) (q : Inquiry) (data : Json) : Prop where
  fixed : ∀ base schema, context.Assembled q data schema → rebase base schema = schema
  blend : ∀ a b, context.Assembled q data a → context.Assembled q data b → Blendable context.draft a b

/-- A schema that was put together and accepts the data. -/
structure Fits (context : Context) (q : Inquiry) (data schema : Json) : Prop where
  assembled : context.Assembled q data schema
  plain : schema.PlainSchema context.draft
  met : ∃ depth, context.Meets depth schema data

/-- Of the keywords that are folded all that decide on a subschema are. -/
theorem detaches_dynamic (draft : Draft) : draft.Detaches dynamicKeywords.contains := by
  unfold Draft.Detaches
  cases draft <;> decide +kernel

/-- Of the checks that are left none reads a keyword that is folded. -/
theorem dynamic_or_static (draft : Draft) (members : Members) (keyword : Keyword) :
    (∀ name ∈ keyword.readsIn draft, dynamicKeywords.contains name = false) ∨
      keyword.isPresent draft (members.without dynamicKeywords.contains) = false := by
  have gone {name : String} (folded : dynamicKeywords.contains name = true) :
      Members.has (members.without dynamicKeywords.contains) name = false := by
    rw [Members.has, lookup_without, if_pos folded]
    rfl
  cases keyword with
  | allOf | anyOf | oneOf | dependencies | dependentRequired | dependentSchemas => exact .inr (gone (by decide))
  | conditional =>
    right
    simp only [Keyword.isPresent, gone (show dynamicKeywords.contains "if" = true by decide), Bool.false_and]
  | _ => cases draft <;> exact .inl (by decide)

/-- What reduction for the data comes to, references followed, is plain: the whole schema of a fragment with
nothing to fold, and what stands beside the composition of all others. -/
structure PlainParts (context : Context) (q : Inquiry) (data : Json) : Prop where
  idle : ∀ task target, context.Reduces q data task target → task.hasWork context.draft target = false →
    target.schema.Plain context.draft
  static : ∀ task target, context.Reduces q data task target → (task.staticPart target.schema).Plain context.draft

/-- It is so where all fragments on the ways contribute plain schemas. -/
theorem plainParts_of_contributes {q : Inquiry}
    (evaluated : ∀ g, context.WayTo q.fragment g → ¬ g.LooksAround context.draft)
    (contributes : ∀ g, context.WayTo q.fragment g → g.Contributes context.draft (Json.Plain context.draft)) :
    context.PlainParts q data :=
  ⟨fun _ _ reduces => (reduces.contributes evaluated contributes).2,
    fun _ _ reduces => (reduces.contributes evaluated contributes).1⟩

/-- Schemas that were put together and accept the data do so after folding, if they are in harmony. -/
theorem Harmonious.inherits {q : Inquiry} (harmonious : context.Harmonious q data) (byValue : context.formats.ByValue)
    (parts : context.PlainParts q data) : context.Inherits q data (context.Fits q data) where
  idle task target reduces still := by
    obtain ⟨source, outer, compiled⟩ := reduces.compiled
    have plain := parts.idle task target reduces still
    have schema : target.schema.PlainSchema context.draft := ⟨plain, plain.compiles compiled⟩
    exact ⟨.idle reduces still, schema, reduces.meets byValue schema schema.partOf_self⟩
  static task target reduces := by
    obtain ⟨source, outer, compiled⟩ := reduces.compiled
    have plain := parts.static task target reduces
    suffices fits : (task.staticPart target.schema).PlainSchema context.draft ∧
        (task.staticPart target.schema).PartOf context.draft target.schema from
      ⟨.static reduces, fits.1, reduces.meets byValue fits.1 fits.2⟩
    rw [reduces.staticPart_eq] at plain ⊢
    cases shape : target.schema with
    | obj members =>
      rw [shape] at plain compiled
      exact ⟨compiled.plainSchema_without plain (detaches_dynamic _) (by decide) (by decide),
        Json.partOf_without members (dynamic_or_static _ members)⟩
    | _ =>
      rw [shape] at plain compiled
      have schema : Json.PlainSchema context.draft _ := ⟨plain, plain.compiles compiled⟩
      exact ⟨schema, schema.partOf_self⟩
  names names present := ⟨.names present, .required _, 1, meets_required byValue present⟩
  rebased base schema fits := by
    rwa [harmonious.fixed base schema fits.assembled]
  merged a b left right := by
    have blendable := harmonious.blend a b left.assembled right.assembled
    obtain ⟨depth, first⟩ := left.met
    obtain ⟨depth', second⟩ := right.met
    exact ⟨.merged left.assembled right.assembled, blendable.plainSchema left.plain right.plain, max depth depth',
      blendable.meets byValue left.plain right.plain (first.mono (Nat.le_max_left _ _)) (second.mono (Nat.le_max_right _ _))⟩

end Context

/-! ## One node -/

/-- A plain schema is compiled again wherever it was folded. -/
theorem Reduction.compile_ne_error {draft : Draft} {schema : Json} (plain : schema.PlainSchema draft) {task : Reduction}
    {target : Fragment} {violation : Violation} : task.compile draft target schema ≠ .error violation := by
  obtain ⟨f, compiled⟩ := plain.compiles (.derived schema) target.site
  have derived : Fragment.derive draft target.site schema = .ok f := Fragment.compile_eq_ok.mpr compiled
  rw [compile, derived]
  exact nofun

namespace Node

variable {node : Node} {data : Json}

/-- In harmony no violation ends the reduction for data that are accepted, and what is left was put together for
them. -/
theorem Sound.fits_of_reduce (sound : node.Sound) (checks : node.context.Unwinds (node.validation data))
    (folds : node.context.Unwinds (node.reduction data)) (byValue : node.context.formats.ByValue)
    (accepted : ∃ depth, (node.context.judge depth).answer (node.validation data) = some (.violations []))
    (object : (∃ members, data = .obj members) ∨ ¬ node.MeetsDependencies data)
    (parts : node.context.PlainParts (node.reduction data) data)
    (harmonious : node.context.Harmonious (node.reduction data) data) {result : Except Violation Reduced}
    (answered : ∃ depth, (node.context.judge depth).answer (node.reduction data) = some (.reduced result)) :
    ∃ reduced, result = .ok reduced ∧ node.context.Fits (node.reduction data) data reduced.fragment.schema := by
  have requires (schema : Json) (fits : node.context.Fits (node.reduction data) data schema) :
      data.RequiresPresent schema :=
    have ⟨_, met⟩ := fits.met
    met.requiresPresent byValue fits.plain
  have compiles (schema : Json) (fits : node.context.Fits (node.reduction data) data schema) (task : Reduction)
      (target : Fragment) (violation : Violation)
      (refused : task.compile node.context.draft target schema = .error violation) : False :=
    Reduction.compile_ne_error fits.plain refused
  have ends := node.context.ends_reduction_unless_refused (harmonious.inherits byValue parts) sound.index
    (firesOnPresence object requires) compiles folds .refl rfl rfl sound.fragment sound.scope (acceptedNear checks accepted)
  have fits := ends result (Judge.answer_reduction.mp (node.context.limit_answer_eq_some.mpr answered))
  cases result with
  | error violation => cases fits
  | ok reduced => exact ⟨reduced, rfl, fits⟩

end Node
end JsonSchema
