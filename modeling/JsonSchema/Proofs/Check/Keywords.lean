import JsonSchema.Proofs.Check.Relocation

/-!
# Keyword by keyword

A plain schema accepts data if each of its keywords holds of them. Whether a keyword holds depends
on the keywords that its check reads and on what the subschemas under them accept.
-/

namespace JsonSchema

/-- Every format rule looks at the value alone. -/
def Formats.ByValue (formats : Formats) : Prop :=
  ∀ name rule, formats.rule? name = some rule → ∀ schema other data, rule schema data = rule other data

theorem Formats.standard_byValue : Formats.standard.ByValue := by
  intro name rule known schema other data
  have listed := mem_of_lookup known
  simp only [standard, List.mem_cons, List.not_mem_nil, or_false, Prod.mk.injEq] at listed
  rcases listed with ⟨-, rfl⟩ | ⟨-, rfl⟩ | ⟨-, rfl⟩ | ⟨-, rfl⟩ | ⟨-, rfl⟩ | ⟨-, rfl⟩ | ⟨-, rfl⟩ | ⟨-, rfl⟩ | ⟨-, rfl⟩ <;> rfl

/-- A schema object has none of some keywords. -/
def Members.Lacks (members : Members) (names : List String) : Prop := ∀ name ∈ names, members.lookup name = none

namespace Keyword

theorem isPresent_congr {draft : Draft} {a b : Members} {keyword : Keyword}
    (same : ∀ name ∈ keyword.reads, a.lookup name = b.lookup name) :
    keyword.isPresent draft a = keyword.isPresent draft b := by
  have has {name : String} (inside : name ∈ keyword.reads) : Members.has a name = Members.has b name := by
    rw [Members.has, Members.has, same name inside]
  cases keyword with
  | items =>
    simp only [isPresent, @has "items" (by decide), @has "additionalItems" (by decide), @has "prefixItems" (by decide)]
  | conditional => simp only [isPresent, @has "if" (by decide), @has "then" (by decide), @has "else" (by decide)]
  | exclusiveMaximum | exclusiveMinimum => simp only [isPresent, same _ (List.mem_singleton_self _)]
  | _ => exact has (by decide)

theorem isPresent_of_lacks {draft : Draft} {members : Members} {keyword : Keyword} (lacks : members.Lacks keyword.reads) :
    keyword.isPresent draft members = false := by
  rw [isPresent_congr (b := []) lacks]
  cases keyword <;> simp [isPresent, Members.has]

end Keyword

namespace Context

open Fragment

/-- A schema accepts data at a depth, wherever it is compiled. -/
def Meets (context : Context) (depth : Nat) (schema data : Json) : Prop :=
  ∀ source outer f, Compiled context.draft source outer schema f →
    (context.judge depth).validate f data .root [] = some []

/-- The visit of a fragment that is the first one. -/
def visit (context : Context) (depth : Nat) (f : Fragment) (data : Json) : Visit :=
  ⟨context, context.judge depth, f, data, .root, Scope.enterAt [] f .root⟩

/-- A keyword of a schema object holds of data, where nested checks go to a depth. -/
def Holds (context : Context) (depth : Nat) (keyword : Keyword) (members : Members) (data : Json) : Prop :=
  keyword.isPresent context.draft members = true → ∀ source outer f,
    Compiled context.draft source outer (.obj members) f → (context.visit depth f data).check keyword = some []

variable {context : Context} {depth : Nat} {schema data : Json} {members a b : Members} {source : Origin} {outer : Site}
  {f : Fragment} {scope : Scope} {keyword : Keyword}

/-- It is enough to look at one fragment of a plain schema. -/
theorem meets_iff (plain : schema.Plain context.draft)
    (compiled : Compiled context.draft source outer schema f) (free : scope.FreeAt f) (pointer : Pointer) :
    context.Meets depth schema data ↔ (context.judge depth).validate f data pointer scope = some [] := by
  constructor
  · intro meets
    rw [← verdict_eq_true, context.relocates depth schema source source outer outer f f scope [] data pointer .root
      plain compiled compiled free (Scope.freeAt_nil f), verdict_eq_true]
    exact meets source outer f compiled
  · intro accepted source' outer' g compiled'
    rw [← verdict_eq_true, context.relocates depth schema source' source outer' outer g f [] scope data .root
      pointer plain compiled' compiled (Scope.freeAt_nil g) free, verdict_eq_true]
    exact accepted

/-- The same from inside the fragment. -/
theorem meets_iff_settled (plain : schema.Plain context.draft)
    (compiled : Compiled context.draft source outer schema f) (free : scope.FreeBelow f) (pointer : Pointer) :
    context.Meets (depth + 1) schema data ↔
      context.validateSettled (context.judge depth) f data pointer scope = some [] := by
  have free' := Scope.freeAt_nil f
  rw [meets_iff plain compiled free' .root]
  change context.validateStep _ f data .root [] = some [] ↔ _
  rw [validateStep_eq (plain.reference?_eq_none compiled) (free'.not_isChecking _), ← verdict_eq_true, ← verdict_eq_true,
    (context.relocates depth).settled plain compiled compiled (free'.enterAt plain compiled .root) free
      data .root pointer]

theorem not_meets_zero (plain : schema.PlainSchema context.draft) : ¬ context.Meets 0 schema data := by
  intro meets
  obtain ⟨f, compiled⟩ := plain.compiles (.document 0) (.ofDocument .default)
  cases meets _ _ _ compiled

theorem meets_bool (b : Bool) :
    context.Meets (depth + 1) (.bool b) data ↔ b = true := by
  let f : Fragment := ⟨.ofDocument .default, .document 0, .bool b, [], none, []⟩
  have compiled : Compiled context.draft (.document 0) (.ofDocument .default) (.bool b) f := compiled_bool.mpr rfl
  have free : Scope.FreeBelow [] f := fun _ inside => nomatch inside
  rw [meets_iff_settled (.bool b) compiled free .root, ← verdict_eq_true, validateSettled_bool rfl, Option.some_inj]

theorem not_meets_refusing : ¬ context.Meets depth (.bool false) data := by
  cases depth with
  | zero => exact not_meets_zero (.bool false)
  | succ depth => simp [meets_bool]

/-- Schemas that agree on what the check of a keyword reads agree on whether it holds, and it is enough to
look at one fragment, in any scope in which nothing is being checked below it under these keywords. -/
theorem holds_iff_check_within (byValue : context.formats.ByValue) (left : (Json.obj a).PlainSchema context.draft)
    (same : ∀ name ∈ keyword.readsIn context.draft, a.lookup name = b.lookup name)
    (compiled : Compiled context.draft source outer (.obj b) f) (free : scope.FreeWithin f (keyword.readsIn context.draft))
    (pointer : Pointer) : context.Holds depth keyword a data ↔ (keyword.isPresent context.draft b = true →
      (Visit.mk context (context.judge depth) f data pointer scope).check keyword = some []) := by
  have verdicts {source' : Origin} {outer' : Site} {g : Fragment}
      (present : keyword.isPresent context.draft a = true) (compiled' : Compiled context.draft source' outer' (.obj a) g) :
      verdict ((context.visit depth g data).check keyword) =
        verdict ((Visit.mk context (context.judge depth) f data pointer scope).check keyword) := by
    have free' := (Scope.freeAt_nil g).enterAt left.plain compiled' .root
    have parallel := @Relocates.parallel context g f (Scope.enterAt [] g .root) scope depth (context.relocates depth)
      data .root pointer fun name rule known => byValue name rule known _ _ _
    exact Visit.verdict_check_congr parallel (not_isPresent_unevaluated left.plain present)
      (agree_of_lookup (compiled_obj.mp compiled') (compiled_obj.mp compiled) left.plain same (free'.freeWithin _) free)
  rw [← Keyword.isPresent_congr fun name inside => same name (keyword.reads_subset _ inside)]
  constructor
  · intro holds present
    obtain ⟨g, compiled'⟩ := left.compiles source outer
    rw [← verdict_eq_true, ← verdicts present compiled', verdict_eq_true]
    exact holds present source outer g compiled'
  · intro checked present source' outer' g compiled'
    rw [← verdict_eq_true, verdicts present compiled', verdict_eq_true]
    exact checked present

theorem holds_iff_check (byValue : context.formats.ByValue)
    (left : (Json.obj a).PlainSchema context.draft) (right : (Json.obj b).Plain context.draft)
    (same : ∀ name ∈ keyword.readsIn context.draft, a.lookup name = b.lookup name)
    (compiled : Compiled context.draft source outer (.obj b) f) :
    context.Holds depth keyword a data ↔
      (keyword.isPresent context.draft b = true → (context.visit depth f data).check keyword = some []) :=
  holds_iff_check_within byValue left same compiled (((Scope.freeAt_nil f).enterAt right compiled .root).freeWithin _) .root

theorem holds_congr (byValue : context.formats.ByValue)
    (left : (Json.obj a).PlainSchema context.draft) (right : (Json.obj b).PlainSchema context.draft)
    (same : ∀ name ∈ keyword.readsIn context.draft, a.lookup name = b.lookup name) :
    context.Holds depth keyword a data ↔ context.Holds depth keyword b data := by
  obtain ⟨f, compiled⟩ := right.compiles (.document 0) (.ofDocument .default)
  rw [holds_iff_check byValue left right.plain same compiled,
    holds_iff_check byValue right right.plain (fun _ _ => rfl) compiled]

/-- What a schema lacks holds of everything. -/
theorem holds_of_lacks (lacks : members.Lacks keyword.reads) : context.Holds depth keyword members data := by
  intro present
  rw [Keyword.isPresent_of_lacks lacks] at present
  cases present

/-- A plain schema accepts what all its keywords hold of. -/
theorem meets_obj (byValue : context.formats.ByValue)
    (schema : (Json.obj members).PlainSchema context.draft) : context.Meets (depth + 1) (.obj members) data ↔
      ∀ keyword ∈ context.draft.keywords, context.draft.applies keyword (TypeName.of data) = true →
        context.Holds depth keyword members data := by
  obtain ⟨f, compiled⟩ := schema.compiles (.document 0) (.ofDocument .default)
  rw [meets_iff_settled schema.plain compiled ((Scope.freeAt_nil f).enterAt schema.plain compiled .root) .root,
    validateSettled_obj compiled.schema_eq, gather_eq_nil]
  simp only [List.mem_filter, and_imp, holds_iff_check byValue schema schema.plain (fun _ _ => rfl) compiled]
  exact ⟨fun checks keyword known applies present => checks keyword known present applies,
    fun checks keyword known present applies => checks keyword known applies present⟩

end Context

end JsonSchema
