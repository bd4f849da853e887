import JsonSchema.Check.Reduction

/-!
# Attempts

An attempt that succeeds does so step by step.
-/

namespace JsonSchema

theorem ok_of_toOption {ε α : Type} {x : Except ε α} {a : α} (some : x.toOption = some a) : x = .ok a := by
  cases x with
  | error fault => cases some
  | ok b =>
    cases some
    rfl

theorem exists_error_of_toOption {ε α : Type} {x : Except ε α} (none : x.toOption = none) : ∃ fault, x = .error fault := by
  cases x with
  | error fault => exact ⟨fault, rfl⟩
  | ok b => cases none

theorem map_eq_ok {ε α β : Type} {x : Except ε α} {f : α → β} {b : β} : x.map f = .ok b ↔ ∃ a, x = .ok a ∧ f a = b := by
  cases x <;> simp [Except.map]

theorem mapError_eq_ok {ε κ α : Type} {x : Except ε α} {code : ε → κ} {a : α} : x.mapError code = .ok a ↔ x = .ok a := by
  cases x with
  | error fault => exact ⟨nofun, nofun⟩
  | ok b => constructor <;> (rintro ⟨⟩; rfl)

/-- Where answers agree up to their errors, one succeeds as the other does. -/
theorem ok_of_mapError {ε κ α : Type} {x y : Option (Except ε α)} {code : ε → κ} {a : α}
    (same : x.map (Except.mapError code) = y.map (Except.mapError code)) (ok : x = some (.ok a)) : y = some (.ok a) := by
  subst ok
  cases y with
  | none => cases same
  | some result =>
    cases result with
    | error _ => cases same
    | ok b =>
      cases same
      rfl

theorem mapError_comp_map {ε κ α β : Type} (code : ε → κ) (f : α → β) :
    Except.mapError code ∘ Except.map f = Except.map f ∘ Except.mapError code := by
  funext x
  cases x <;> rfl

namespace Attempt

variable {α β : Type}

/-- A sequence succeeds if both parts do. -/
theorem bind_eq_ok {x : Attempt α} {f : α → Attempt β} {b : β} :
    (x >>= f).run = some (.ok b) ↔ ∃ a, x.run = some (.ok a) ∧ (f a).run = some (.ok b) := by
  rw [ExceptT.run_bind]
  cases x.run with
  | none => simp
  | some result => cases result <;> simp

/-- A computation that raises no violation succeeds with its result. -/
theorem lift_eq_ok {x : Option α} {a : α} : (ExceptT.lift x : Attempt α).run = some (.ok a) ↔ x = some a := by
  cases x with
  | none => exact ⟨fun answer => (by cases answer), fun answer => (by cases answer)⟩
  | some b =>
    change some (Except.ok b) = some (.ok a) ↔ some b = some a
    simp

/-- A sequence has no answer where its first part has none. -/
theorem bind_eq_none {x : Attempt α} {f : α → Attempt β} (unanswered : x.run = none) : (x >>= f).run = none := by
  rw [ExceptT.run_bind, unanswered]
  rfl

/-! ## Failures seen in another way -/

section
variable {ε : Type} {g : Violation → ε}

theorem adapt_bind (x : Attempt α) (f : α → Attempt β) :
    ExceptT.adapt g (x >>= f) = ExceptT.adapt g x >>= fun a => ExceptT.adapt g (f a) := by
  apply ExceptT.ext
  rw [ExceptT.run_adapt, ExceptT.run_bind, ExceptT.run_bind, ExceptT.run_adapt]
  cases x.run with
  | none => rfl
  | some result => cases result <;> rfl

theorem adapt_mk (x : Option (Except Violation α)) :
    ExceptT.adapt g (ExceptT.mk x : Attempt α) = ExceptT.mk (x.map (Except.mapError g)) :=
  ExceptT.ext (ExceptT.run_adapt ..)

theorem adapt_foldlM (step : β → α → Attempt β) (start : β) (items : List α) :
    ExceptT.adapt g (items.foldlM step start) = items.foldlM (fun b item => ExceptT.adapt g (step b item)) start := by
  induction items generalizing start with
  | nil => rfl
  | cons item rest ih => simp only [List.foldlM_cons, adapt_bind, ih]

/-- Two folds come to the same if each pair of their steps does, with items and states seen in some way. -/
theorem adapt_foldlM_map {α' β' : Type} {f : Violation → ε} {step : β → α → Attempt β} {step' : β' → α' → Attempt β'}
    (item : α → α') (state : β → β')
    (each : ∀ b a, ExceptT.adapt f (step' (state b) (item a)) = state <$> ExceptT.adapt g (step b a)) (start : β)
    (items : List α) : ExceptT.adapt f ((items.map item).foldlM step' (state start)) =
      state <$> ExceptT.adapt g (items.foldlM step start) := by
  induction items generalizing start with
  | nil => rfl
  | cons a rest ih => simp only [List.map_cons, List.foldlM_cons, adapt_bind, each, bind_map_left, map_bind, ih]

theorem adapt_lift (x : Option α) : ExceptT.adapt g (ExceptT.lift x : Attempt α) = ExceptT.lift x := by
  cases x <;> rfl

theorem adapt_id (x : Attempt α) : ExceptT.adapt id x = x := by
  apply ExceptT.ext
  rw [ExceptT.run_adapt]
  cases x.run with
  | none => rfl
  | some result => cases result <;> rfl

end

/-! ## Ends -/

/-- Where an attempt comes to an end, `Q` holds of its result, or `E` of the violation. -/
def Ends (Q : α → Prop) (E : Violation → Prop) (x : Attempt α) : Prop :=
  ∀ end', x.run = some end' → match end' with
    | .ok a => Q a
    | .error violation => E violation

namespace Ends

variable {Q : α → Prop} {R : β → Prop} {E : Violation → Prop}

theorem pure {a : α} (holds : Q a) : Ends Q E (Pure.pure a) := by
  rintro _ ⟨⟩
  exact holds

theorem any (x : Attempt α) : Ends (fun _ => True) (fun _ => True) x := by
  intro end' _
  cases end' <;> trivial

/-- A computation that raises no violation. -/
theorem lift {x : Option α} (holds : ∀ a, x = some a → Q a) : Ends Q E (ExceptT.lift x) := by
  intro end' answer
  cases known : x with
  | none =>
    rw [known] at answer
    cases answer
  | some a =>
    rw [known] at answer
    cases answer
    exact holds a known

theorem bind {x : Attempt α} {f : α → Attempt β} (first : Ends Q E x) (later : ∀ a, Q a → Ends R E (f a)) :
    Ends R E (x >>= f) := by
  intro end' answer
  rw [ExceptT.run_bind] at answer
  cases known : x.run with
  | none =>
    rw [known] at answer
    cases answer
  | some result =>
    have own := first result known
    rw [known] at answer
    cases result with
    | error violation =>
      cases answer
      exact own
    | ok a => exact later a own end' answer

/-- What each step keeps holds after all of them. -/
theorem foldlM {step : β → α → Attempt β} {items : List α}
    (keeps : ∀ item ∈ items, ∀ b, R b → Ends R E (step b item)) {start : β} (holds : R start) :
    Ends R E (items.foldlM step start) := by
  induction items generalizing start with
  | nil => exact pure holds
  | cons item rest ih =>
    rw [List.foldlM_cons]
    exact (keeps item (by simp) start holds).bind fun next held =>
      ih (fun item member => keeps item (by simp [member])) held

end Ends

end Attempt
end JsonSchema
