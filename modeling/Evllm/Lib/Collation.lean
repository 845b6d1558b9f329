/-
# Comparators

A comparator says by the sign of a number which of two values comes first. It
is consistent where it comes from a total preorder (`Collates`); values may tie
without being equal. Comparators are taken through a key (`Collates.comap`) and
chained by `||`, the next deciding where one ties (`Collates.orElse`).

A list sorts to the same in every order just if only equal elements of it tie
(`sortBy_perm_iff`).

Key definitions: `Collates`, `orElse`, `compareBy`, `sortBy`.
Key theorems: `Collates.orElse`, `collates_compareBy`, `sortBy_perm_iff`.
-/
import Evllm.Lib.StableSort

namespace Lib

universe u v

variable {α : Type u} {β : Type v}

structure Collates (compare : α → α → ℤ) : Prop where
  swap : ∀ a b, compare a b ≤ 0 ↔ 0 ≤ compare b a
  trans : ∀ a b c, compare a b ≤ 0 → compare b c ≤ 0 → compare a c ≤ 0

/-- `c || d` on numbers. -/
def orElse (c d : ℤ) : ℤ := if c = 0 then d else c

theorem orElse_eq_zero {c d : ℤ} : orElse c d = 0 ↔ c = 0 ∧ d = 0 := by
  unfold orElse
  split_ifs with hc
  · exact ⟨fun hd => ⟨hc, hd⟩, And.right⟩
  · exact ⟨fun h => absurd h hc, fun h => h.1⟩

theorem orElse_le_zero {c d : ℤ} : orElse c d ≤ 0 ↔ c < 0 ∨ c = 0 ∧ d ≤ 0 := by
  unfold orElse
  split_ifs <;> omega

/-- The comparator that orders by a key. -/
def compareBy {κ : Type v} [LT κ] [DecidableLT κ] (key : α → κ) (a b : α) : ℤ :=
  if key a < key b then -1 else if key b < key a then 1 else 0

namespace Collates

variable {compare compare' : α → α → ℤ}

theorem total (h : Collates compare) (a b : α) : compare a b ≤ 0 ∨ compare b a ≤ 0 := by
  have hab := h.swap a b
  omega

theorem eq_zero_comm (h : Collates compare) {a b : α} : compare a b = 0 ↔ compare b a = 0 := by
  have hab := h.swap a b
  have hba := h.swap b a
  omega

/-- Two values tie just if neither comes first. -/
theorem eq_zero_iff (h : Collates compare) {a b : α} : compare a b = 0 ↔ compare a b ≤ 0 ∧ compare b a ≤ 0 := by
  have hab := h.swap a b
  have hba := h.swap b a
  omega

theorem comap (h : Collates compare) (key : β → α) : Collates fun a b => compare (key a) (key b) :=
  ⟨fun a b => h.swap (key a) (key b), fun a b c => h.trans (key a) (key b) (key c)⟩

/-- What ties with the first stays on the same side of the second. -/
theorem trans_eq_zero (h : Collates compare) {a b c : α} (hab : compare a b = 0) (hbc : compare b c = 0) : compare a c = 0 := by
  rw [h.eq_zero_iff] at hab hbc ⊢
  exact ⟨h.trans a b c hab.1 hbc.1, h.trans c b a hbc.2 hab.2⟩

theorem orElse (h : Collates compare) (h' : Collates compare') : Collates fun a b => orElse (compare a b) (compare' a b) := by
  refine ⟨fun a b => ?_, fun a b c hab hbc => ?_⟩
  · have hab := h.swap a b
    have hba := h.swap b a
    have hab' := h'.swap a b
    unfold Lib.orElse
    split_ifs <;> omega
  · rw [orElse_le_zero] at hab hbc ⊢
    have hle : compare a c ≤ 0 := by
      refine h.trans a b c ?_ ?_
      · omega
      · omega
    obtain hlt | heq := hle.lt_or_eq
    · exact Or.inl hlt
    -- then `a`, `b` and `c` all tie in the first
    have hca : compare c a ≤ 0 := (h.eq_zero_iff.mp heq).2
    have hba : compare b a ≤ 0 := h.trans b c a (by omega) hca
    have hcb : compare c b ≤ 0 := h.trans c a b hca (by omega)
    have hab0 : compare a b = 0 := h.eq_zero_iff.mpr ⟨by omega, hba⟩
    have hbc0 : compare b c = 0 := h.eq_zero_iff.mpr ⟨by omega, hcb⟩
    exact Or.inr ⟨heq, h'.trans a b c (by omega) (by omega)⟩

/-- `left - right`. -/
theorem sub (key : α → ℤ) : Collates fun a b => key a - key b :=
  ⟨fun a b => by omega, fun a b c hab hbc => by omega⟩

end Collates

theorem collates_compareBy {κ : Type v} [LinearOrder κ] [DecidableLT κ] (key : α → κ) : Collates (compareBy key) := by
  have hle : ∀ a b, compareBy key a b ≤ 0 ↔ key a ≤ key b := by
    intro a b
    unfold compareBy
    split_ifs with hlt hgt
    · exact iff_of_true (by decide) hlt.le
    · exact iff_of_false (by decide) hgt.not_ge
    · exact iff_of_true (le_refl 0) (not_lt.mp hgt)
  have hge : ∀ a b, 0 ≤ compareBy key b a ↔ key a ≤ key b := by
    intro a b
    unfold compareBy
    split_ifs with hlt hgt
    · exact iff_of_false (by decide) hlt.not_ge
    · exact iff_of_true (by decide) hgt.le
    · exact iff_of_true (le_refl 0) (not_lt.mp hlt)
  refine ⟨fun a b => (hle a b).trans (hge a b).symm, fun a b c hab hbc => ?_⟩
  rw [hle] at hab hbc ⊢
  exact hab.trans hbc

/-! ### Sorting -/

/-- `[...xs].sort(compare)`. -/
def sortBy (compare : α → α → ℤ) (xs : List α) : List α := xs.insertionSort fun a b => compare a b ≤ 0

variable {compare : α → α → ℤ} {xs : List α}

theorem tie_iff (h : Collates compare) {a b : α} : Tie (fun a b => compare a b ≤ 0) a b ↔ compare a b = 0 :=
  h.eq_zero_iff.symm

theorem sortBy_eq_iff (h : Collates compare) {ys : List α} :
    sortBy compare xs = sortBy compare ys ↔ SameTies (fun a b => compare a b ≤ 0) xs ys := by
  have htotal : Std.Total fun a b => compare a b ≤ 0 := ⟨h.total⟩
  have htrans : IsTrans α fun a b => compare a b ≤ 0 := ⟨h.trans⟩
  exact insertionSort_eq_iff

/-- **The order of a list does not matter** to how it sorts just if only equal
elements of it tie. -/
theorem sortBy_perm_iff (h : Collates compare) :
    (∀ ys : List α, ys.Perm xs → sortBy compare ys = sortBy compare xs) ↔
      ∀ a ∈ xs, ∀ b ∈ xs, compare a b = 0 → a = b := by
  constructor
  · intro hsame a ha b hb htie
    by_contra hne
    -- two orders that differ in which of the two comes first
    obtain ⟨before, after, rfl⟩ := List.append_of_mem ha
    have hrest : b ∈ before ++ after := by simpa [Ne.symm hne] using hb
    obtain ⟨left, right, hsplit⟩ := List.append_of_mem hrest
    have hperm : (a :: b :: (left ++ right)).Perm (before ++ a :: after) := by
      refine List.Perm.trans ?_ List.perm_middle.symm
      rw [hsplit]
      exact (List.perm_middle.symm).cons a
    have hswapped := (List.Perm.swap a b (left ++ right)).trans hperm
    have hties := (sortBy_eq_iff h).mp ((hsame _ hperm).trans (hsame _ hswapped).symm)
    have hclass := hties a
    have haa : Tie (fun a b => compare a b ≤ 0) a a := ⟨(h.total a a).elim id id, (h.total a a).elim id id⟩
    have hab : Tie (fun a b => compare a b ≤ 0) a b := (tie_iff h).mpr htie
    rw [List.filter_cons_of_pos (by simpa using haa), List.filter_cons_of_pos (by simpa using hab),
      List.filter_cons_of_pos (by simpa using hab)] at hclass
    exact hne (List.cons.inj hclass).1
  · intro heq ys hperm
    refine (sortBy_eq_iff h).mpr (sameTies_of_perm hperm fun a b c hb hc hab hac => ?_)
    rw [tie_iff h] at hab hac
    exact heq b (hperm.mem_iff.mp hb) c (hperm.mem_iff.mp hc) (h.trans_eq_zero (h.eq_zero_comm.mp hab) hac)

theorem sortBy_perm (compare : α → α → ℤ) (xs : List α) : (sortBy compare xs).Perm xs := List.perm_insertionSort _ xs

end Lib
