import Mathlib.Tactic.Common

/-!
# Runs of a labelled transition system

`Steps R s as s'` is a run from `s` to `s'` along the labels `as`. What every step
preserves, every run preserves (`Steps.invariant`); a condition asked of each step is a
conjunct of `R`. `execute` runs a step function.
-/

namespace Issuebot.Logic
set_option autoImplicit false

section Steps

variable {σ α : Type} {R S : σ → α → σ → Prop} {s s' s'' : σ} {as bs : List α}

/-- A run along a list of labels. -/
inductive Steps (R : σ → α → σ → Prop) : σ → List α → σ → Prop where
  | nil (s : σ) : Steps R s [] s
  | cons {s s' s'' : σ} {a : α} {as : List α} : R s a s' → Steps R s' as s'' → Steps R s (a :: as) s''

/-- What each step preserves holds at the end of a run that starts with it. -/
theorem Steps.invariant {Inv : σ → Prop} (keeps : ∀ s a s', R s a s' → Inv s → Inv s')
    (run : Steps R s as s') (start : Inv s) : Inv s' := by
  induction run with
  | nil => exact start
  | cons step _ ih => exact ih (keeps _ _ _ step start)

/-- What each step preserves together with the labels so far holds at the end of a run. -/
theorem Steps.history {Inv : List α → σ → Prop} {past : List α}
    (keeps : ∀ past s a s', R s a s' → Inv past s → Inv (past ++ [a]) s') (run : Steps R s as s') (start : Inv past s) :
    Inv (past ++ as) s' := by
  induction run generalizing past with
  | nil => rwa [List.append_nil]
  | cons step _ ih =>
    rw [List.append_cons]
    exact ih (keeps _ _ _ _ step start)

/-- A run along steps is one along weaker ones. -/
theorem Steps.mono (weaker : ∀ s a s', R s a s' → S s a s') (run : Steps R s as s') : Steps S s as s' := by
  induction run with
  | nil => exact .nil _
  | cons step _ ih => exact .cons (weaker _ _ _ step) ih

/-- Runs compose. -/
theorem Steps.append (first : Steps R s as s') (second : Steps R s' bs s'') : Steps R s (as ++ bs) s'' := by
  induction first with
  | nil => exact second
  | cons step _ ih => exact .cons step (ih second)

end Steps

section Execute

variable {σ α : Type} {step : σ → α → Option σ} {s s' : σ} {as : List α}

/-- The run of a step function, `none` as soon as a step is not enabled. -/
def execute (step : σ → α → Option σ) : σ → List α → Option σ
  | s, [] => some s
  | s, a :: as => (step s a).bind fun s' => execute step s' as

/-- What executes is a run. -/
theorem Steps.of_execute (h : execute step s as = some s') :
    Steps (fun s a s' => step s a = some s') s as s' := by
  induction as generalizing s with
  | nil =>
    cases h
    exact .nil _
  | cons a as ih =>
    obtain ⟨next, first, rest⟩ := Option.bind_eq_some_iff.mp h
    exact .cons first (ih rest)

/-- A run that happens, to where it ends. -/
theorem Steps.of_isSome (happens : (execute step s as).isSome) :
    Steps (fun s a s' => step s a = some s') s as ((execute step s as).getD s) := by
  obtain ⟨s', is_last⟩ := Option.isSome_iff_exists.mp happens
  rw [is_last]
  exact .of_execute is_last

end Execute

end Issuebot.Logic
