import JsonSchema.Proofs.Recursion.Completion
import Mathlib.Tactic.Ring

/-!
# The depth that suffices

Every step of an inquiry comes nearer to its end. Where all locations on the way belong to a finite set,
the steps that are left can be counted, and the depth that is allowed for data is greater than their
number.
-/

namespace JsonSchema

namespace Context

variable {context : Context} {family : Set Fragment} {locations : Finset String}

/-! ## Steps that are left -/

/-- The greatest number of steps from an inquiry to its end: its distance, with as many digits as there are
locations for each of the lower places. -/
def stepsLeft (locations : Finset String) (q : Inquiry) : Nat :=
  let depth := (ofLex (distance locations q)).1
  let rest := ofLex (ofLex (distance locations q)).2
  (depth * (locations.card + 1) + rest.1) * (locations.card + 2) + rest.2

/-- The lower places of a distance are digits. -/
theorem distance_digits (locations : Finset String) (q : Inquiry) :
    (ofLex (ofLex (distance locations q)).2).1 < locations.card + 1 ∧
      (ofLex (ofLex (distance locations q)).2).2 < locations.card + 2 := by
  cases q with
  | check fragment data pointer scope =>
    exact ⟨Nat.lt_succ_of_le (Finset.card_filter_le _ _), Nat.succ_pos _⟩
  | reduction task fragment scope =>
    refine ⟨Nat.lt_succ_of_le (Finset.card_filter_le _ _), Nat.succ_lt_succ (Nat.lt_succ_of_le ?_)⟩
    exact Finset.card_filter_le _ _

/-- Numbers compare as their leading digits do. -/
theorem digits_lt {base high low high' low' : Nat} (digit : low < base) (less : high < high') :
    high * base + low < high' * base + low' := by
  have step : (high + 1) * base ≤ high' * base := Nat.mul_le_mul_right base less
  rw [Nat.add_mul, Nat.one_mul] at step
  omega

theorem stepsLeft_lt {q next : Inquiry} (nearer : distance locations next < distance locations q) :
    stepsLeft locations next < stepsLeft locations q := by
  obtain ⟨free, unreduced⟩ := distance_digits locations next
  unfold stepsLeft
  dsimp only
  rcases Prod.Lex.lt_iff.mp nearer with shallower | ⟨depth, nearer⟩
  · exact digits_lt unreduced (digits_lt free shallower)
  · rcases Prod.Lex.lt_iff.mp nearer with fewer | ⟨same, fewer⟩
    · refine digits_lt unreduced ?_
      rw [depth]
      exact Nat.add_lt_add_left fewer _
    · rw [depth, same]
      exact Nat.add_lt_add_left fewer _

/-- An inquiry is answered at every depth greater than a number that each step lowers. -/
theorem answer_ne_none_of_lowers {P : Nat → Inquiry → Prop}
    (lowers : ∀ n q next, P n q → context.Next q next → ∃ fewer, fewer < n ∧ P fewer next) {n depth : Nat} {q : Inquiry}
    (holds : P n q) (enough : n < depth) : (context.judge depth).answer q ≠ none := by
  induction depth generalizing n q with
  | zero => cases enough
  | succ depth ih =>
    intro declined
    obtain ⟨next, leads, unanswered, -⟩ := (context.inquires_stepJudge q).stuck (context.judge depth) declined
    obtain ⟨fewer, lower, kept⟩ := lowers n q next holds leads
    exact ih kept (Nat.lt_of_lt_of_le lower (Nat.le_of_lt_succ enough)) unanswered

/-! ## Families of fragments -/

/-- A family has what its fragments stand for and their children, all of them at some locations. None asks
for what is unevaluated. -/
structure Enclosed (context : Context) (family : Set Fragment) (locations : Finset String) : Prop where
  settle : ∀ f ∈ family, ∀ scope, context.settle f scope ∈ family
  child : ∀ f ∈ family, ∀ c, f.HasChild c → c ∈ family
  evaluated : ∀ f ∈ family, .unevaluatedItems ∉ f.keywords context.draft
  located : ∀ f ∈ family, f.location ∈ locations

theorem Enclosed.guardLocation_mem (enclosed : context.Enclosed family locations) {q : Inquiry}
    (inside : q.fragment ∈ family) : context.guardLocation q ∈ locations := by
  cases q with
  | check fragment data pointer scope => exact enclosed.located _ inside
  | reduction task fragment scope => exact enclosed.located _ (enclosed.settle _ inside _)

/-- An inquiry about a fragment of the family is answered at every depth greater than the number of steps left. -/
theorem Enclosed.answer_ne_none (enclosed : context.Enclosed family locations) {depth : Nat} {q : Inquiry}
    (inside : q.fragment ∈ family) (enough : stepsLeft locations q < depth) :
    (context.judge depth).answer q ≠ none := by
  have lowers (n : Nat) (q next : Inquiry) (holds : q.fragment ∈ family ∧ stepsLeft locations q = n)
      (leads : context.Next q next) : ∃ fewer, fewer < n ∧ next.fragment ∈ family ∧ stepsLeft locations next = fewer := by
    obtain ⟨inside, rfl⟩ := holds
    refine ⟨_, stepsLeft_lt (distance_lt_of_next (enclosed.guardLocation_mem inside) leads), ?_, rfl⟩
    exact leads.stays enclosed.settle (fun f known scope => enclosed.child _ (enclosed.settle f known scope))
      (fun f known scope => enclosed.evaluated _ (enclosed.settle f known scope)) inside
  exact answer_ne_none_of_lowers lowers ⟨inside, rfl⟩ enough

/-- The depth allowed for data suffices where there are not many more locations than the index has room for. -/
theorem Enclosed.validate_ne_none (enclosed : context.Enclosed family locations)
    (few : locations.card ≤ context.index.capacity + 14) {fragment : Fragment} (inside : fragment ∈ family)
    (data : Json) (pointer : Pointer) (scope : Scope) : context.validate fragment data pointer scope ≠ none := by
  have digit := (distance_digits locations (.check fragment data pointer scope)).1
  have enough : stepsLeft locations (.check fragment data pointer scope) < context.depthFor data := by
    calc stepsLeft locations (.check fragment data pointer scope)
        = (data.depth * (locations.card + 1) + (unchecked locations scope pointer).card) * (locations.card + 2) := rfl
      _ < ((data.depth + 1) * (locations.card + 1)) * (locations.card + 2) := by
          refine Nat.mul_lt_mul_of_pos_right ?_ (Nat.succ_pos _)
          rw [Nat.succ_mul]
          exact Nat.add_lt_add_left digit _
      _ ≤ ((data.depth + 2) * (context.index.capacity + 16)) * (context.index.capacity + 16) := by
          refine Nat.mul_le_mul (Nat.mul_le_mul (Nat.le_succ _) ?_) ?_
          · omega
          · omega
      _ = context.depthFor data := by
          unfold depthFor
          dsimp only
          ring
  intro declined
  refine enclosed.answer_ne_none (q := .check fragment data pointer scope) inside enough ?_
  exact Option.map_eq_none_iff.mpr declined

end Context

/-! ## Room for a document -/

/-- An index counts the values in its documents. -/
theorem Index.size_le_capacity {index : Index} {entry : String × Json} (inside : entry ∈ index.documents) :
    entry.2.size ≤ index.capacity := by
  unfold capacity
  generalize index.documents = documents at inside
  induction documents with
  | nil => cases inside
  | cons first rest ih =>
    rw [List.foldr_cons]
    rcases List.mem_cons.mp inside with rfl | later
    · exact Nat.le_add_right _ _
    · exact Nat.le_trans (ih later) (Nat.le_add_left _ _)

/-- A compiled schema is counted. -/
theorem Compiler.size_le_capacity {compiler : Compiler} {schema : Json} {node : Node}
    (compiled : compiler.compile schema = .ok node) : schema.size ≤ node.context.index.capacity := by
  unfold compile at compiled
  obtain ⟨⟨remotes, position⟩, -, compiled⟩ := Fragment.bind_eq_ok.mp compiled
  obtain ⟨⟨documents, root⟩, document, same⟩ := Fragment.bind_eq_ok.mp compiled
  cases same
  obtain ⟨root', made, same⟩ := Fragment.bind_eq_ok.mp document
  cases same
  have listed : (Uri.default.text, root.schema) ∈ (remotes.add (compiler.draftFor schema) .default root).documents :=
    List.mem_append_left _ (List.mem_reverse.mpr List.mem_cons_self)
  exact (Fragment.compile_eq_ok.mp made).schema_eq ▸ Index.size_le_capacity listed

end JsonSchema
