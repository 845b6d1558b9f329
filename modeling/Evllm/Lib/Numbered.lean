/-
# Lists numbered from one on

`Numbered f xs`: the entry of `xs` at place `i` has the number `i + 1`. To
search such a list for a number is to look at one place.
-/
import Mathlib.Data.List.Basic
import Mathlib.Data.List.Induction
import Mathlib.Tactic.Common

namespace Lib

universe u

variable {α : Type u} {f : α → ℕ} {xs : List α}

/-- The entries have the numbers `1, 2, …` in order. -/
def Numbered (f : α → ℕ) (xs : List α) : Prop := ∀ i x, xs[i]? = some x → f x = i + 1

theorem numbered_nil : Numbered f [] := by
  intro i x h
  simp at h

theorem numbered_concat {x : α} : Numbered f (xs ++ [x]) ↔ Numbered f xs ∧ f x = xs.length + 1 := by
  constructor
  · intro h
    refine ⟨fun i y hy => h i y ?_, h xs.length x (by simp)⟩
    have hi : i < xs.length := (List.getElem?_eq_some_iff.mp hy).1
    rw [List.getElem?_append_left hi]
    exact hy
  · rintro ⟨hxs, hx⟩ i y hy
    obtain hi | hi | hi := Nat.lt_trichotomy i xs.length
    · rw [List.getElem?_append_left hi] at hy
      exact hxs i y hy
    · subst hi
      have hxy : x = y := by simpa using hy
      rw [← hxy]
      exact hx
    · have hnone : (xs ++ [x])[i]? = none := by
        rw [List.getElem?_eq_none_iff, List.length_append, List.length_singleton]
        omega
      rw [hnone] at hy
      cases hy

theorem Numbered.find?_zero (h : Numbered f xs) : xs.find? (f · = 0) = none := by
  rw [List.find?_eq_none]
  intro x hx
  obtain ⟨i, hi⟩ := List.mem_iff_getElem?.mp hx
  have hnumber := h i x hi
  simp only [decide_eq_true_eq]
  omega

theorem Numbered.find?_succ (h : Numbered f xs) (v : ℕ) : xs.find? (f · = v + 1) = xs[v]? := by
  cases hv : xs[v]? with
  | none =>
    rw [List.find?_eq_none]
    intro x hx
    obtain ⟨i, hi⟩ := List.mem_iff_getElem?.mp hx
    have hnumber := h i x hi
    have hlen : i < xs.length := (List.getElem?_eq_some_iff.mp hi).1
    have hout : xs.length ≤ v := List.getElem?_eq_none_iff.mp hv
    simp only [decide_eq_true_eq]
    omega
  | some x =>
    obtain ⟨hlen, hx⟩ := List.getElem?_eq_some_iff.mp hv
    rw [List.find?_eq_some_iff_getElem]
    refine ⟨by simpa using h v x hv, v, hlen, hx, fun j hj => ?_⟩
    have hnumber := h j xs[j] (List.getElem?_eq_getElem (by omega))
    simp only [Bool.not_eq_true', decide_eq_false_iff_not]
    omega

theorem Numbered.findIdx?_succ (h : Numbered f xs) {v : ℕ} (hv : v < xs.length) :
    xs.findIdx? (f · = v + 1) = some v := by
  rw [List.findIdx?_eq_some_iff_getElem]
  refine ⟨hv, by simpa using h v xs[v] (List.getElem?_eq_getElem hv), fun j hj => ?_⟩
  have hnumber := h j xs[j] (List.getElem?_eq_getElem (by omega))
  simp only [decide_eq_true_eq]
  omega

/-- The number of the last entry is how many there are. -/
theorem Numbered.last (h : Numbered f xs) : (xs.getLast?.map f).getD 0 = xs.length := by
  obtain rfl | ⟨older, last, rfl⟩ := List.eq_nil_or_concat' xs
  · rfl
  · have hlast := (numbered_concat.mp h).2
    simpa using hlast

/-- No entry has a number past the last. -/
theorem Numbered.any_next (h : Numbered f xs) : xs.any (f · = xs.length + 1) = false := by
  rw [List.any_eq_false]
  intro x hx
  obtain ⟨i, hi⟩ := List.mem_iff_getElem?.mp hx
  have hnumber := h i x hi
  have hlen : i < xs.length := (List.getElem?_eq_some_iff.mp hi).1
  simp only [decide_eq_true_eq]
  omega

/-- One entry has a given number. -/
theorem Numbered.filter_succ (h : Numbered f xs) {v : ℕ} {x : α} (hx : xs[v]? = some x) :
    xs.filter (f · = v + 1) = [x] := by
  induction xs using List.reverseRecOn with
  | nil => simp at hx
  | append_singleton ys y ih =>
    obtain ⟨hys, hy⟩ := numbered_concat.mp h
    rw [List.filter_append]
    by_cases hv : v = ys.length
    · subst hv
      have heq : y = x := by simpa using hx
      have hnone : ys.filter (f · = ys.length + 1) = [] := by
        rw [List.filter_eq_nil_iff]
        intro z hz
        have hany := List.any_eq_false.mp hys.any_next z hz
        simpa using hany
      rw [hnone, heq, List.nil_append]
      simp [← heq, hy]
    · have hlen : v < (ys ++ [y]).length := (List.getElem?_eq_some_iff.mp hx).1
      rw [List.length_append, List.length_singleton] at hlen
      rw [List.getElem?_append_left (by omega)] at hx
      have hne : f y ≠ v + 1 := by omega
      rw [ih hys hx]
      simp [hne]

end Lib
