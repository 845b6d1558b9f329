/-
# Loops with an explicit bound on their turns

`loop turn n s` takes at most `n` turns of a `while` loop whose body is
`turn`: a turn either goes on from a new state or leaves the loop with a
result. A loop whose turns lower a measure leaves it (`loop_terminates`), and
with the same result however many more turns it may take (`loop_mono`).
-/
import Mathlib.Tactic.Common

namespace Lib

universe u v

variable {σ : Type u} {α : Type v} (turn : σ → σ ⊕ α)

/-- At most `n` turns of the loop from `s`; `none` if it has not left by then. -/
def loop : ℕ → σ → Option α
  | 0, _ => none
  | n + 1, s =>
    match turn s with
    | .inl s' => loop n s'
    | .inr a => some a

theorem loop_mono {n : ℕ} {s : σ} {a : α} (h : loop turn n s = some a) :
    ∀ {m : ℕ}, n ≤ m → loop turn m s = some a := by
  induction n generalizing s with
  | zero => simp [loop] at h
  | succ n ih =>
    intro m hm
    obtain ⟨m, rfl⟩ : ∃ k, m = k + 1 := ⟨m - 1, by omega⟩
    rw [loop] at h ⊢
    cases ht : turn s with
    | inl s' =>
      rw [ht] at h
      exact ih h (by omega)
    | inr b =>
      rw [ht] at h
      exact h

/-- A loop whose turns keep `I` and lower the measure `μ` leaves within
`μ s + 1` turns. -/
theorem loop_terminates {I : σ → Prop} {μ : σ → ℕ}
    (hturn : ∀ s s', I s → turn s = .inl s' → I s' ∧ μ s' < μ s) :
    ∀ (n : ℕ) {s : σ}, I s → μ s < n → ∃ a, loop turn n s = some a
  | 0, _, _, hn => absurd hn (Nat.not_lt_zero _)
  | n + 1, s, hs, hn => by
    rw [loop]
    cases ht : turn s with
    | inl s' =>
      obtain ⟨hs', hlt⟩ := hturn s s' hs ht
      exact loop_terminates hturn n hs' (by omega)
    | inr a => exact ⟨a, rfl⟩

/-- What a loop returns is what its last turn left with, from a state that
satisfies every invariant of the turns. -/
theorem loop_result {I : σ → Prop} (hturn : ∀ s s', I s → turn s = .inl s' → I s') :
    ∀ (n : ℕ) {s : σ} {a : α}, I s → loop turn n s = some a → ∃ t, I t ∧ turn t = .inr a
  | 0, _, _, _, h => by simp [loop] at h
  | n + 1, s, a, hs, h => by
    rw [loop] at h
    cases ht : turn s with
    | inl s' =>
      rw [ht] at h
      exact loop_result hturn n (hturn s s' hs ht) h
    | inr b =>
      rw [ht] at h
      obtain rfl : b = a := by simpa using h
      exact ⟨s, hs, ht⟩

end Lib
