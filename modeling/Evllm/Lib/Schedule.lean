/-
# Infinite schedules

A schedule gives the event of every moment. It is fair to an event if the event,
where it stays enabled from some moment on, happens at a later one. That is enough
for progress: what an enabled event brings about comes to be, if it stays enabled
as long as that has not (`Fair.eventually`).

Key definitions: `stateAt`, `Fair`.
Key theorems: `stateAt_invariant`, `stateAt_persists`, `Fair.eventually`.
-/
import Evllm.Lib.Run

namespace Lib

universe u v

variable {σ : Type u} {ι : Type v} (step : σ → ι → σ) (start : σ) (schedule : ℕ → ι)

/-- The state at a moment of the schedule. -/
def stateAt : ℕ → σ
  | 0 => start
  | n + 1 => step (stateAt n) (schedule n)

/-- An event that stays enabled happens. -/
def Fair (enabled : σ → Prop) (l : ι) : Prop :=
  ∀ n, (∀ m, n ≤ m → enabled (stateAt step start schedule m)) → ∃ m, n ≤ m ∧ schedule m = l

variable {step start schedule}

/-- The state at a moment is that after the events before it. -/
theorem stateAt_eq_run (n : ℕ) : stateAt step start schedule n = run step start ((List.range n).map schedule) := by
  induction n with
  | zero => rfl
  | succ n ih =>
    rw [List.range_succ, List.map_append, run_append, ← ih]
    rfl

theorem stateAt_invariant {I : σ → Prop} (hstep : ∀ s l, I s → I (step s l)) (h : I start) :
    ∀ n, I (stateAt step start schedule n)
  | 0 => h
  | n + 1 => hstep _ _ (stateAt_invariant hstep h n)

/-- What every step keeps stays. -/
theorem stateAt_persists {P : σ → Prop} (hstep : ∀ s l, P s → P (step s l)) {n m : ℕ} (hnm : n ≤ m)
    (h : P (stateAt step start schedule n)) : P (stateAt step start schedule m) := by
  induction hnm with
  | refl => exact h
  | step _ ih => exact hstep _ _ ih

/-- **A fair schedule makes progress.** -/
theorem Fair.eventually {enabled P : σ → Prop} {l : ι} (hfair : Fair step start schedule enabled l) {n : ℕ}
    (henabled : ∀ m, n ≤ m → ¬P (stateAt step start schedule m) → enabled (stateAt step start schedule m))
    (heffect : ∀ m, n ≤ m → enabled (stateAt step start schedule m) → P (step (stateAt step start schedule m) l)) :
    ∃ m, n ≤ m ∧ P (stateAt step start schedule m) := by
  by_contra hnever
  have hnot : ∀ m, n ≤ m → ¬P (stateAt step start schedule m) := fun m hm hP => hnever ⟨m, hm, hP⟩
  obtain ⟨m, hm, hl⟩ := hfair n fun m hm => henabled m hm (hnot m hm)
  refine hnot (m + 1) (Nat.le_succ_of_le hm) ?_
  rw [stateAt, hl]
  exact heffect m hm (henabled m hm (hnot m hm))

end Lib
