/-
# The last entry with a property

`LastWith p xs k a`: the entry of `xs` at place `k` is `a`, has `p`, and none
after it has. An entry added at the end takes the place over or leaves it, and
an entry changed in place without changing `p` keeps it.

Key theorems: `exists_lastWith`, `lastWith_concat_self`,
`lastWith_concat_of_not`, `lastWith_set`.
-/
import Mathlib.Data.List.Basic
import Mathlib.Data.List.Induction
import Mathlib.Tactic.Common

namespace Lib

universe u

variable {α : Type u} {p : α → Prop} {xs : List α} {k : ℕ} {a b : α}

def LastWith (p : α → Prop) (xs : List α) (k : ℕ) (a : α) : Prop :=
  xs[k]? = some a ∧ p a ∧ ∀ j b, k < j → xs[j]? = some b → ¬p b

theorem getElem?_concat_eq_some : (xs ++ [a])[k]? = some b ↔ xs[k]? = some b ∨ k = xs.length ∧ b = a := by
  obtain hk | rfl | hk := Nat.lt_trichotomy k xs.length
  · rw [List.getElem?_append_left hk]
    constructor
    · exact .inl
    · rintro (h | ⟨rfl, -⟩)
      · exact h
      · exact absurd hk (Nat.lt_irrefl _)
  · simp [eq_comm]
  · have hnone : xs[k]? = none := List.getElem?_eq_none (Nat.le_of_lt hk)
    have hnone' : (xs ++ [a])[k]? = none := List.getElem?_eq_none (by rw [List.length_append, List.length_singleton]; omega)
    rw [hnone, hnone']
    constructor
    · intro h
      cases h
    · rintro (h | ⟨rfl, -⟩)
      · cases h
      · exact absurd hk (Nat.lt_irrefl _)

theorem lastWith_concat_self (hp : p a) : LastWith p (xs ++ [a]) k b ↔ k = xs.length ∧ b = a := by
  constructor
  · rintro ⟨hb, -, hlast⟩
    obtain hold | hnew := getElem?_concat_eq_some.mp hb
    · have hlt : k < xs.length := (List.getElem?_eq_some_iff.mp hold).1
      exact absurd hp (hlast xs.length a hlt (by simp))
    · exact hnew
  · rintro ⟨rfl, rfl⟩
    refine ⟨by simp, hp, fun j c hj hc => ?_⟩
    have hlt : j < (xs ++ [b]).length := (List.getElem?_eq_some_iff.mp hc).1
    rw [List.length_append, List.length_singleton] at hlt
    omega

theorem lastWith_concat_of_not (hp : ¬p a) : LastWith p (xs ++ [a]) k b ↔ LastWith p xs k b := by
  constructor
  · rintro ⟨hb, hpb, hlast⟩
    obtain hold | ⟨-, rfl⟩ := getElem?_concat_eq_some.mp hb
    · exact ⟨hold, hpb, fun j c hj hc => hlast j c hj (getElem?_concat_eq_some.mpr (.inl hc))⟩
    · exact absurd hpb hp
  · rintro ⟨hb, hpb, hlast⟩
    refine ⟨getElem?_concat_eq_some.mpr (.inl hb), hpb, fun j c hj hc => ?_⟩
    obtain hold | ⟨-, rfl⟩ := getElem?_concat_eq_some.mp hc
    · exact hlast j c hj hold
    · exact hp

theorem exists_lastWith (ha : a ∈ xs) (hp : p a) : ∃ k b, LastWith p xs k b := by
  induction xs using List.reverseRecOn with
  | nil => cases ha
  | append_singleton xs x ih =>
    by_cases hx : p x
    · exact ⟨xs.length, x, (lastWith_concat_self hx).mpr ⟨rfl, rfl⟩⟩
    · obtain hold | hnew := List.mem_append.mp ha
      · obtain ⟨k, b, hlast⟩ := ih hold
        exact ⟨k, b, (lastWith_concat_of_not hx).mpr hlast⟩
      · rw [List.mem_singleton.mp hnew] at hp
        exact absurd hp hx

/-- The entries after a change in place, and before. -/
theorem getElem?_set_eq_some {i : ℕ} {x : α} (hi : xs[i]? = some x) :
    (xs.set i a)[k]? = some b ↔ i = k ∧ b = a ∨ i ≠ k ∧ xs[k]? = some b := by
  by_cases hk : i = k
  · subst hk
    have hlt : i < xs.length := (List.getElem?_eq_some_iff.mp hi).1
    rw [List.getElem?_set_self hlt]
    simp [eq_comm]
  · rw [List.getElem?_set_ne hk]
    simp [hk]

theorem lastWith_set {i : ℕ} {x : α} (hi : xs[i]? = some x) (hp : p a ↔ p x) :
    LastWith p (xs.set i a) k b ↔ ∃ c, LastWith p xs k c ∧ b = if i = k then a else c := by
  -- a later entry with `p` is one before just if it is one after
  have hlater : (∀ j c, k < j → (xs.set i a)[j]? = some c → ¬p c) ↔ ∀ j c, k < j → xs[j]? = some c → ¬p c := by
    constructor
    · intro h j c hj hc
      by_cases hij : i = j
      · subst hij
        obtain rfl : x = c := Option.some.inj (hi.symm.trans hc)
        rw [← hp]
        exact h i a hj ((getElem?_set_eq_some hi).mpr (.inl ⟨rfl, rfl⟩))
      · exact h j c hj ((getElem?_set_eq_some hi).mpr (.inr ⟨hij, hc⟩))
    · intro h j c hj hc
      obtain ⟨rfl, rfl⟩ | ⟨-, hold⟩ := (getElem?_set_eq_some hi).mp hc
      · rw [hp]
        exact h i x hj hi
      · exact h j c hj hold
  unfold LastWith
  rw [hlater, getElem?_set_eq_some hi]
  by_cases hk : i = k
  · subst hk
    simp only [true_and, ne_eq, not_true, false_and, or_false, if_true]
    constructor
    · rintro ⟨rfl, hpb, hlast⟩
      exact ⟨x, ⟨hi, hp.mp hpb, hlast⟩, rfl⟩
    · rintro ⟨c, ⟨hc, hpc, hlast⟩, rfl⟩
      obtain rfl : x = c := Option.some.inj (hi.symm.trans hc)
      exact ⟨rfl, hp.mpr hpc, hlast⟩
  · simp only [hk, false_and, ne_eq, not_false_eq_true, true_and, false_or, if_false]
    constructor
    · rintro ⟨hb, hpb, hlast⟩
      exact ⟨b, ⟨hb, hpb, hlast⟩, rfl⟩
    · rintro ⟨c, hlast, rfl⟩
      exact hlast

end Lib
