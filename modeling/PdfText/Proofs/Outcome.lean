/-!
# Outcomes

How a computation that may fail comes to its outcome: a sequence succeeds where both of its steps
do, and fails with the first failure; restating failures changes nothing else. So a computation
fails for reasons of one kind only if each of its steps does.

## Main definitions

* `Except.FailsOnly` — a computation that fails for reasons of one kind only
-/

namespace Except

variable {α β ε φ : Type}

@[simp] theorem ok_bind (value : α) (next : α → Except ε β) : (ok value >>= next) = next value :=
  rfl

@[simp] theorem error_bind (reason : ε) (next : α → Except ε β) :
    (error reason >>= next) = error reason := rfl

@[simp] theorem throw_eq_error (reason : ε) : (throw reason : Except ε α) = error reason := rfl

@[simp] theorem pure_eq_ok (value : α) : (pure value : Except ε α) = ok value := rfl

@[simp] theorem mapError_ok (restate : ε → φ) (value : α) :
    (ok value : Except ε α).mapError restate = ok value := rfl

@[simp] theorem mapError_error (restate : ε → φ) (reason : ε) :
    (error reason : Except ε α).mapError restate = error (restate reason) := rfl

variable {step : Except ε α} {next : α → Except ε β}

theorem bind_eq_ok_iff {result : β} :
    (step >>= next) = ok result ↔ ∃ value, step = ok value ∧ next value = ok result := by
  cases step <;> simp

theorem bind_eq_error_iff {reason : ε} :
    (step >>= next) = error reason ↔
      step = error reason ∨ ∃ value, step = ok value ∧ next value = error reason := by
  cases step <;> simp

theorem mapError_eq_ok_iff {restate : ε → φ} {value : α} :
    step.mapError restate = ok value ↔ step = ok value := by
  cases step <;> simp

theorem mapError_eq_error_iff {restate : ε → φ} {reason : φ} :
    step.mapError restate = error reason ↔ ∃ cause, step = error cause ∧ restate cause = reason := by
  cases step <;> simp

theorem toOption_eq_some_iff {value : α} : step.toOption = some value ↔ step = ok value := by
  cases step <;> simp [Except.toOption]

theorem mapM_eq_ok_iff {step : α → Except ε β} {items : List α} {results : List β} :
    items.mapM step = ok results ↔ items.map step = results.map ok := by
  induction items generalizing results with
  | nil => cases results <;> simp
  | cons item items ih =>
    rw [List.mapM_cons, bind_eq_ok_iff]
    simp only [bind_eq_ok_iff, ih, List.map_cons]
    cases results <;> simp

/-- Steps that agree in a view of their values lead to results that agree, if what follows looks at
that view only. -/
theorem map_bind_congr {δ γ : Type} {view : α → γ} {view' : β → δ} {first second : Except ε α}
    {next next' : α → Except ε β} (same : first.map view = second.map view)
    (later : ∀ a b, view a = view b → (next a).map view' = (next' b).map view') :
    (first >>= next).map view' = (second >>= next').map view' := by
  cases first with
  | error reason =>
    cases second with
    | error reason' => simpa [Except.map] using same
    | ok b => cases same
  | ok a =>
    cases second with
    | error reason => cases same
    | ok b => exact later a b (Except.ok.inj same)

/-! ## Reasons of one kind -/

/-- A computation that fails for reasons of one kind only. -/
def FailsOnly (allowed : ε → Prop) (outcome : Except ε α) : Prop :=
  ∀ reason, outcome = error reason → allowed reason

namespace FailsOnly

variable {allowed : ε → Prop}

theorem ok (value : α) : FailsOnly allowed (.ok value) := by
  rintro reason ⟨⟩

theorem error {reason : ε} (fits : allowed reason) :
    FailsOnly allowed (.error reason : Except ε α) := by
  rintro _ ⟨⟩
  exact fits

theorem mono {permitted : ε → Prop} (fails : FailsOnly allowed step)
    (weaker : ∀ reason, allowed reason → permitted reason) : FailsOnly permitted step :=
  fun reason failed => weaker reason (fails reason failed)

/-- The second step matters for those values only that the first one leads to. -/
theorem bind_of_ok (first : FailsOnly allowed step)
    (second : ∀ value, step = .ok value → FailsOnly allowed (next value)) :
    FailsOnly allowed (step >>= next) := by
  intro reason failed
  rcases bind_eq_error_iff.mp failed with failed | ⟨value, led, failed⟩
  · exact first reason failed
  · exact second value led reason failed

theorem bind (first : FailsOnly allowed step) (second : ∀ value, FailsOnly allowed (next value)) :
    FailsOnly allowed (step >>= next) :=
  first.bind_of_ok fun value _ => second value

theorem mapError {restate : ε → φ} {permitted : φ → Prop}
    (fits : ∀ reason, permitted (restate reason)) : FailsOnly permitted (step.mapError restate) := by
  intro reason failed
  obtain ⟨cause, -, rfl⟩ := mapError_eq_error_iff.mp failed
  exact fits cause

/-- Restating failures keeps to their kind. -/
theorem restate {restate : ε → φ} {permitted : φ → Prop} (fails : FailsOnly allowed step)
    (fits : ∀ reason, allowed reason → permitted (restate reason)) :
    FailsOnly permitted (step.mapError restate) := by
  intro reason failed
  obtain ⟨cause, original, rfl⟩ := mapError_eq_error_iff.mp failed
  exact fits cause (fails cause original)

theorem foldlM {advance : β → α → Except ε β}
    (steps : ∀ state item, FailsOnly allowed (advance state item)) (items : List α) (start : β) :
    FailsOnly allowed (items.foldlM advance start) := by
  induction items generalizing start with
  | nil => exact ok start
  | cons item items ih =>
    rw [List.foldlM_cons]
    exact bind (steps start item) ih

theorem mapM {make : α → Except ε β} (steps : ∀ item, FailsOnly allowed (make item))
    (items : List α) : FailsOnly allowed (items.mapM make) := by
  induction items with
  | nil => exact ok []
  | cons item items ih =>
    rw [List.mapM_cons]
    exact bind (steps item) fun result => bind ih fun results => ok (result :: results)

end FailsOnly

end Except

namespace ExceptT

variable {m : Type → Type} [Monad m] {α β ε : Type}

theorem liftM_eq_mk (outcome : Except ε α) :
    (liftM outcome : ExceptT ε m α) = ExceptT.mk (pure outcome) := rfl

variable [LawfulMonad m]

@[simp] theorem map_mk_pure (change : α → β) (outcome : Except ε α) :
    change <$> (ExceptT.mk (pure outcome) : ExceptT ε m α) =
      ExceptT.mk (pure (outcome.map change)) := by
  apply ExceptT.ext
  rw [run_map, run_mk, run_mk, map_pure]

@[simp] theorem mk_pure_ok_bind (value : α) (next : α → ExceptT ε m β) :
    (ExceptT.mk (pure (.ok value)) >>= next) = next value := by
  apply ExceptT.ext
  simp [run_bind]

@[simp] theorem mk_pure_error_bind (reason : ε) (next : α → ExceptT ε m β) :
    (ExceptT.mk (pure (.error reason)) >>= next) = ExceptT.mk (pure (.error reason)) := by
  apply ExceptT.ext
  simp [run_bind]

end ExceptT
