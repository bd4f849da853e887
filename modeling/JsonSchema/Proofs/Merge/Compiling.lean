import JsonSchema.Proofs.Compilation.Unidentified
import JsonSchema.Proofs.Merge.Subschemas

/-!
# Which merged schemas compile

Merging takes schemas as plain JSON, but mostly the merge of two schemas that compile compiles: of every
keyword it makes something that the keyword takes, if both sides have that. The keywords of items alone decide
together what each of them is, so a merge can read as the schema of the remaining items what was a list of schemas
or what nothing read. It compiles exactly if everything that is exposed in this way does.
-/

namespace JsonSchema

open Fragment

variable {draft : Draft} {a b : Members} {base : Uri}

/-! ## One object -/

/-- What a merged object has as a subschema. -/
inductive Stems (draft : Draft) (a b : Members) : Json → Prop where
  | left {slot : Slot} {x : Json} (own : (slot, x) ∈ subschemas draft a) : Stems draft a b x
  | right {slot : Slot} {y : Json} (own : (slot, y) ∈ subschemas draft b) : Stems draft a b y
  | both {slot : Slot} {x y : Json} (first : (slot, x) ∈ subschemas draft a) (second : (slot, y) ∈ subschemas draft b) :
      Stems draft a b (merge x y)
  | exposed {name : String} {value : Json} (exposes : Exposes draft a b name value) : Stems draft a b value

theorem checkTypes_mergedMembers (left : checkTypes .root a = .ok ()) (right : checkTypes .root b = .ok ()) :
    checkTypes .root (mergedMembers a b) = .ok () := by
  rw [checkTypes_eq_ok] at left right ⊢
  intro value found
  have noList {value : Json} (names : NamesType value) (values : List Json) : value ≠ .arr values := by
    obtain ⟨_, rfl, -⟩ := names
    simp
  rcases lookup_mergedMembers_cases found with ⟨own, -⟩ | ⟨-, own⟩ | ⟨x, y, own, own', rfl⟩
  · exact left value own
  · exact right value own
  · rcases left x own with ⟨xs, rfl, each⟩ | ⟨name, rfl, names⟩
    · rcases right y own' with ⟨ys, rfl, each'⟩ | names'
      · refine .inl ⟨_, mergeUnder_arr _ _ _, forall_mem_mergeUnder_arr (mergeUnder_arr _ _ _) each each' ?_⟩
        intro index x y place _ objects
        obtain ⟨name, rfl, -⟩ := each x (List.mem_of_getElem? place)
        simp [bothObjects] at objects
      · exact .inl ⟨xs, mergeUnder_arr_left (noList names'), each⟩
    · rcases right y own' with ⟨ys, rfl, each'⟩ | ⟨name', rfl, names'⟩
      · exact .inl ⟨ys, rfl, each'⟩
      · exact .inr ⟨name', rfl, names'⟩

/-- The expression of a merged `pattern` is that of one side. -/
theorem patternOf_mergedMembers (left : ∃ pattern, patternOf .root a = .ok pattern)
    (right : ∃ pattern, patternOf .root b = .ok pattern) :
    ∃ pattern, patternOf .root (mergedMembers a b) = .ok pattern := by
  have side {members : Members} {text : String} (same : (mergedMembers a b).lookup "pattern" = some (.str text))
      (own : members.lookup "pattern" = some (.str text)) (read : ∃ pattern, patternOf .root members = .ok pattern) :
      ∃ pattern, patternOf .root (mergedMembers a b) = .ok pattern := by
    unfold patternOf at read ⊢
    rwa [same, ← own]
  by_cases text : ∃ text, (mergedMembers a b).lookup "pattern" = some (.str text)
  · obtain ⟨text, found⟩ := text
    rcases lookup_mergedMembers_cases found with ⟨own, -⟩ | ⟨-, own⟩ | ⟨x, y, own, own', merged⟩
    · exact side found own left
    · exact side found own right
    · rcases mergeUnder_cases (some "pattern") x y with ⟨_, _, rfl, rfl⟩ | ⟨_, _, rfl, rfl⟩ | same | same
      · cases merged
      · rw [mergeUnder_arr] at merged
        cases merged
      · rw [same] at merged
        exact side found (merged ▸ own) left
      · rw [same] at merged
        exact side found (merged ▸ own') right
  · refine ⟨none, ?_⟩
    unfold patternOf
    split
    · rename_i found
      exact absurd ⟨_, found⟩ text
    · rfl

/-- A merged object refuses nothing itself. -/
theorem buildable_mergedMembers (left : Buildable draft a Json.IsSchema) (right : Buildable draft b Json.IsSchema) :
    Buildable draft (mergedMembers a b) (Stems draft a b) where
  typed := checkTypes_mergedMembers left.typed right.typed
  pattern := patternOf_mergedMembers left.pattern right.pattern
  steps step inside := by
    rw [steps_eq_parts] at inside
    obtain ⟨part, listed, inside⟩ := List.mem_flatMap.mp inside
    obtain ⟨slot, sub, rfl, merges | ⟨name, exposes⟩⟩ :=
      Part.sound_merges listed (left.sound listed) (right.sound listed) step inside
    · refine ⟨slot, sub, rfl, ?_⟩
      cases merges with
      | left step => exact .left (mem_subschemas_of_part listed step)
      | right step => exact .right (mem_subschemas_of_part listed step)
      | both first second => exact .both (mem_subschemas_of_part listed first) (mem_subschemas_of_part listed second)
    · exact ⟨slot, sub, rfl, .exposed exposes⟩

/-! ## All objects -/

/-- Objects that are merged where a merged schema is, or a subschema of it that is merged from two in one slot. -/
inductive Joined (draft : Draft) : Json → Json → Members → Members → Prop where
  | whole {a b : Members} : Joined draft (.obj a) (.obj b) a b
  | within {a b c d : Members} {slot place : Slot} {x y : Json} (first : (slot, x) ∈ subschemas draft a)
      (second : (slot, y) ∈ subschemas draft b) (kept : (place, merge x y) ∈ subschemas draft (mergedMembers a b))
      (joined : Joined draft x y c d) : Joined draft (.obj a) (.obj b) c d

section
variable {x y : Json}

/-- A merge compiles if all that it exposes does. -/
theorem compilesIn_merge (unidentified : x.Unidentified draft) (unidentified' : y.Unidentified draft)
    (left : CompilesIn draft base x) (right : CompilesIn draft base y)
    (exposed : ∀ c d, Joined draft x y c d → ∀ name value, Exposes draft c d name value → CompilesIn draft base value) :
    CompilesIn draft base (merge x y) := by
  induction unidentified generalizing y with
  | bool b =>
    cases unidentified' with
    | bool b' => exact compilesIn_bool b'
    | obj => exact left
  | @obj a own below ih =>
    cases unidentified' with
    | bool b => exact left
    | @obj b own' below' =>
      have built := (compilesIn_obj own).mp left
      have built' := (compilesIn_obj own').mp right
      have merged := buildable_mergedMembers (built.mono fun _ => CompilesIn.isSchema)
        (built'.mono fun _ => CompilesIn.isSchema)
      rw [merge_obj, compilesIn_obj (stringMember?_mergedMembers own own')]
      refine ⟨merged.typed, merged.pattern, fun step inside => ?_⟩
      obtain ⟨place, sub, rfl, stems⟩ := merged.steps step inside
      refine ⟨place, sub, rfl, ?_⟩
      cases stems with
      | left inside => exact built.of_mem inside
      | right inside => exact built'.of_mem inside
      | both first second =>
        refine ih _ first (below' _ second) (built.of_mem first) (built'.of_mem second) fun c d joined => ?_
        exact exposed c d (.within first second (mem_subschemas.mpr inside) joined)
      | exposed exposes => exact exposed a b .whole _ sub exposes

/-- Objects that are merged in a merge that compiles compile. -/
theorem Joined.compilesIn {c d : Members} (joined : Joined draft x y c d) (unidentified : x.Unidentified draft)
    (unidentified' : y.Unidentified draft) (compiles : CompilesIn draft base (merge x y)) :
    CompilesIn draft base (.obj (mergedMembers c d)) ∧
      (Json.obj (mergedMembers c d)).stringMember? draft.idKeyword = none := by
  induction joined with
  | whole =>
    cases unidentified with
    | obj own =>
      cases unidentified' with
      | obj own' => exact ⟨merge_obj _ _ ▸ compiles, stringMember?_mergedMembers own own'⟩
  | within first second kept _ ih =>
    cases unidentified with
    | obj own below =>
      cases unidentified' with
      | obj own' below' =>
        rw [merge_obj, compilesIn_obj (stringMember?_mergedMembers own own')] at compiles
        exact ih (below _ first) (below' _ second) (compiles.of_mem kept)

/-- The merge of two schemas that compile in a resource compiles in it exactly if all that it exposes does. -/
theorem compilesIn_merge_iff (unidentified : x.Unidentified draft) (unidentified' : y.Unidentified draft)
    (left : CompilesIn draft base x) (right : CompilesIn draft base y) : CompilesIn draft base (merge x y) ↔
      ∀ c d, Joined draft x y c d → ∀ name value, Exposes draft c d name value → CompilesIn draft base value := by
  refine ⟨fun compiles c d joined name value exposes => ?_, compilesIn_merge unidentified unidentified' left right⟩
  obtain ⟨whole, own⟩ := joined.compilesIn unidentified unidentified' compiles
  have listed : Part.array draft ∈ parts draft := by simp [parts]
  exact ((compilesIn_obj own).mp whole).of_mem (mem_subschemas_of_part listed (Part.stepArray_of_arrayStep exposes.read))

end

end JsonSchema
