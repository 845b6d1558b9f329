/-
# Markers

A marker is a list that begins with a symbol that it does not have again, such
as a line feed and the name of a field. Two of them do not overlap, so a list
that has markers at two places has one before the other, or both at one place
(`marker_cases`).
-/
import Mathlib.Data.List.Infix
import Mathlib.Tactic.Common

namespace Lib

variable {α : Type*} {s : α} {v w : List α} {a a' b b' : List α}

/-- What stands before a list that begins with `s` has no `s` of its own to share. -/
theorem marker_before (hv : s ∉ v) (h : s :: v ++ b = a ++ (s :: w ++ b')) :
    a = [] ∨ ∃ x, a = s :: v ++ x ∧ b = x ++ (s :: w ++ b') := by
  obtain ⟨x, hx, hrest⟩ | ⟨x, hx, hrest⟩ := List.append_eq_append_iff.mp h
  · exact .inr ⟨x, hx, hrest⟩
  · -- `a` ends inside of the marker
    cases a with
    | nil => exact .inl rfl
    | cons c a =>
      obtain ⟨rfl, hin⟩ := List.cons.inj hx
      have hv' : v = a ++ x := hin
      cases x with
      | nil =>
        rw [List.append_nil] at hv'
        exact .inr ⟨[], by simp [hv'], by simpa using hrest.symm⟩
      | cons d x =>
        obtain ⟨rfl, -⟩ := List.cons.inj hrest
        exact absurd (hv' ▸ List.mem_append_right a List.mem_cons_self) hv

/-- Two markers stand at one place, or one before the other. -/
theorem marker_cases (hv : s ∉ v) (hw : s ∉ w) (h : a ++ (s :: v ++ b) = a' ++ (s :: w ++ b')) :
    (a = a' ∧ s :: v ++ b = s :: w ++ b') ∨
      (∃ x, a = a' ++ (s :: w ++ x) ∧ b' = x ++ (s :: v ++ b)) ∨
        ∃ x, a' = a ++ (s :: v ++ x) ∧ b = x ++ (s :: w ++ b') := by
  obtain ⟨x, rfl, hrest⟩ | ⟨x, rfl, hrest⟩ := List.append_eq_append_iff.mp h
  · obtain rfl | ⟨y, rfl, hb⟩ := marker_before hv hrest
    · exact .inl ⟨by simp, hrest⟩
    · exact .inr (.inr ⟨y, rfl, hb⟩)
  · obtain rfl | ⟨y, rfl, hb⟩ := marker_before hw hrest
    · exact .inl ⟨by simp, by simpa using hrest.symm⟩
    · exact .inr (.inl ⟨y, rfl, hb⟩)

/-- A prefix without the symbol stands before the marker. -/
theorem prefix_before_marker {p : List α} (hp : s ∉ p) (h : p <+: a ++ (s :: v ++ b)) : p <+: a := by
  obtain ⟨rest, hrest⟩ := h
  obtain ⟨x, rfl, -⟩ | ⟨x, rfl, hx⟩ := List.append_eq_append_iff.mp hrest
  · exact List.prefix_append _ _
  · cases x with
    | nil => simp
    | cons c x =>
      obtain ⟨rfl, -⟩ := List.cons.inj hx
      exact absurd (List.mem_append_right a List.mem_cons_self) hp

end Lib
