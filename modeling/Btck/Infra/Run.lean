import Mathlib.Tactic.Common

/-!
# Runs of a labelled step relation

A run is a finite sequence of labelled steps. Prefixes of a run are runs, so a statement about
the last state of every run is a statement about every state reached on the way.

* `Restrict` — the steps that meet a condition
* `Run.invariant` — what every step keeps, every run keeps
-/

namespace Infra

variable {σ ι : Type}

/-- `Run step s is s'`: the labels `is` lead from `s` to `s'`. -/
inductive Run (step : σ → ι → σ → Prop) : σ → List ι → σ → Prop where
  | nil (s : σ) : Run step s [] s
  | snoc {s s' s'' : σ} {is : List ι} {i : ι} :
      Run step s is s' → step s' i s'' → Run step s (is ++ [i]) s''

/-- The steps that meet `ok`, a condition on the state before the step and on the label. -/
def Restrict (step : σ → ι → σ → Prop) (ok : σ → ι → Prop) : σ → ι → σ → Prop :=
  fun s i s' => ok s i ∧ step s i s'

namespace Run

variable {step : σ → ι → σ → Prop} {s s' : σ} {is : List ι}

theorem single {i : ι} (h : step s i s') : Run step s [i] s' :=
  snoc (nil s) h

/-- **The invariant rule.** What every step keeps, every run keeps. -/
theorem invariant {inv : σ → Prop}
    (hstep : ∀ s i s', inv s → step s i s' → inv s')
    (h : Run step s is s') (h0 : inv s) : inv s' := by
  induction h with
  | nil => exact h0
  | snoc _ hs ih => exact hstep _ _ _ ih hs

end Run

end Infra
