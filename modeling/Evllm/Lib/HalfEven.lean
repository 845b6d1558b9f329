/-
# Rounding to the nearest, ties to even

`HalfEven x n` says that the integer `n` is the nearest to `x`, the even one of
two that are equally near. There is only one such integer, and a larger number
is not rounded to a smaller one (`HalfEven.mono`). `RoundsTo k x z` is the same
for the multiples of `10 ^ (-k)`.

Of a quotient of integers the rounding is read off without dividing
(`halfEven_div_iff`): twice the remainder is at most the divisor.

Key definitions: `HalfEven`, `RoundsTo`, `SameRounding`.
Key theorems: `HalfEven.mono`, `HalfEven.unique`, `HalfEven.nearest`,
`halfEven_div_iff`, `RoundsTo.abs_sub_le`, `RoundsTo.mono`, `RoundsTo.le_iff`,
`RoundsTo.le_even_iff`.
-/
import Mathlib

namespace Lib

variable {K : Type*} [Field K] [LinearOrder K] [IsStrictOrderedRing K]

local instance two_atLeastTwo : Nat.AtLeastTwo 2 := ⟨le_rfl⟩

def HalfEven (x : K) (n : ℤ) : Prop := |x - n| ≤ 1 / 2 ∧ (|x - n| = 1 / 2 → Even n)

section HalfEven

variable {x y : K} {m n : ℤ}

theorem halfEven_intCast (n : ℤ) : HalfEven (n : K) n := by
  have hzero : |(n : K) - n| = 0 := by rw [sub_self, abs_zero]
  have hpos : (0 : K) < 1 / 2 := by positivity
  refine ⟨by rw [hzero]; exact hpos.le, fun htie => ?_⟩
  rw [hzero] at htie
  exact absurd htie hpos.ne

/-- A larger number is not rounded to a smaller one: if it were, both would be
halfway between two even neighbours. -/
theorem HalfEven.mono (hx : HalfEven x m) (hy : HalfEven y n) (hxy : x ≤ y) : m ≤ n := by
  by_contra hlt
  have hstep : n + 1 ≤ m := by omega
  have hcast : (n : K) + 1 ≤ m := by exact_mod_cast hstep
  obtain ⟨hxlow, -⟩ := abs_le.mp hx.1
  obtain ⟨-, hyhigh⟩ := abs_le.mp hy.1
  have hm : (m : K) = n + 1 := by linarith
  have hxtie : x - m = -(1 / 2) := by linarith
  have hytie : y - n = 1 / 2 := by linarith
  have hpos : (0 : K) < 1 / 2 := by positivity
  have hmeven := hx.2 (by rw [hxtie, abs_neg, abs_of_pos hpos])
  have hneven := hy.2 (by rw [hytie, abs_of_pos hpos])
  have hmn : m = n + 1 := by exact_mod_cast hm
  rw [hmn] at hmeven
  exact Int.not_even_iff_odd.mpr hneven.add_one hmeven

theorem HalfEven.unique (hm : HalfEven x m) (hn : HalfEven x n) : m = n :=
  le_antisymm (hm.mono hn le_rfl) (hn.mono hm le_rfl)

/-- No integer is nearer. -/
theorem HalfEven.nearest (hm : HalfEven x m) (n : ℤ) : |x - m| ≤ |x - n| := by
  by_cases hmn : m = n
  · rw [hmn]
  · have hone : (1 : K) ≤ |(m : K) - n| := by
      have habs : 1 ≤ |m - n| := Int.one_le_abs (sub_ne_zero.mpr hmn)
      have hcast : ((|m - n| : ℤ) : K) = |(m : K) - n| := by push_cast; rfl
      rw [← hcast]
      exact_mod_cast habs
    have htriangle : |(m : K) - n| ≤ |x - m| + |x - n| := by
      have hsum : (m : K) - n = -(x - m) + (x - n) := by ring
      rw [hsum]
      exact (abs_add_le _ _).trans (by rw [abs_neg])
    have hhalf := hm.1
    linarith

/-- A quotient of integers is rounded without dividing. -/
theorem halfEven_div_iff {a d : ℤ} (hd : 0 < d) :
    HalfEven ((a : K) / d) n ↔ |2 * (a - n * d)| ≤ d ∧ (|2 * (a - n * d)| = d → Even n) := by
  have hpos : (0 : K) < d := by exact_mod_cast hd
  have hscale : ((|2 * (a - n * d)| : ℤ) : K) = |(a : K) / d - n| * (2 * d) := by
    have htwo : (2 * (a - n * d) : K) = ((a : K) / d - n) * (2 * d) := by
      field_simp
    push_cast
    rw [htwo, abs_mul, abs_of_pos (by positivity : (0 : K) < 2 * d)]
  have hdouble : (d : K) = 1 / 2 * (2 * d) := by ring
  have hposd : (0 : K) < 2 * d := by positivity
  have hle : |2 * (a - n * d)| ≤ d ↔ |(a : K) / d - n| ≤ 1 / 2 := by
    rw [← mul_le_mul_iff_left₀ hposd, ← hscale, ← hdouble]
    exact Int.cast_le.symm
  have heq : |2 * (a - n * d)| = d ↔ |(a : K) / d - n| = 1 / 2 := by
    rw [← mul_left_inj' hposd.ne', ← hscale, ← hdouble]
    exact Int.cast_inj.symm
  rw [HalfEven, hle, heq]

end HalfEven

/-! ### Rounding to decimal places -/

/-- `z` is the multiple of `10 ^ (-k)` nearest to `x`, ties to an even multiple. -/
def RoundsTo (k : ℕ) (x z : K) : Prop := ∃ n : ℤ, z = n / 10 ^ k ∧ HalfEven (x * 10 ^ k) n

section RoundsTo

variable {k : ℕ} {x y z w : K}

theorem RoundsTo.abs_sub_le (h : RoundsTo k x z) : |x - z| ≤ 1 / 2 / 10 ^ k := by
  obtain ⟨n, rfl, hn⟩ := h
  have hpos : (0 : K) < 10 ^ k := by positivity
  have hdiff : x - n / 10 ^ k = (x * 10 ^ k - n) / 10 ^ k := by field_simp
  rw [hdiff, abs_div, abs_of_pos hpos]
  exact div_le_div_of_nonneg_right hn.1 hpos.le

theorem RoundsTo.mono (hx : RoundsTo k x z) (hy : RoundsTo k y w) (hxy : x ≤ y) : z ≤ w := by
  obtain ⟨m, rfl, hm⟩ := hx
  obtain ⟨n, rfl, hn⟩ := hy
  have hpos : (0 : K) < 10 ^ k := by positivity
  have hle : (m : K) ≤ n := by exact_mod_cast hm.mono hn (mul_le_mul_of_nonneg_right hxy hpos.le)
  exact div_le_div_of_nonneg_right hle hpos.le

theorem RoundsTo.unique (hz : RoundsTo k x z) (hw : RoundsTo k x w) : z = w :=
  le_antisymm (hz.mono hw le_rfl) (hw.mono hz le_rfl)

/-- A multiple is rounded to itself. -/
theorem roundsTo_self (n : ℤ) (k : ℕ) : RoundsTo k ((n : K) / 10 ^ k) (n / 10 ^ k) := by
  have hpos : (10 : K) ^ k ≠ 0 := by positivity
  refine ⟨n, rfl, ?_⟩
  rw [div_mul_cancel₀ _ hpos]
  exact halfEven_intCast n

/-- Halfway from an even multiple to the next on either side. -/
theorem roundsTo_tie {n : ℤ} (hn : Even n)
    (hx : x = (n : K) / 10 ^ k - 1 / 2 / 10 ^ k ∨ x = (n : K) / 10 ^ k + 1 / 2 / 10 ^ k) : RoundsTo k x ((n : K) / 10 ^ k) := by
  have hpos : (0 : K) < 10 ^ k := by positivity
  refine ⟨n, rfl, ?_, fun _ => hn⟩
  have hhalf : |x * 10 ^ k - n| = 1 / 2 := by
    obtain rfl | rfl := hx
    · have hdiff : ((n : K) / 10 ^ k - 1 / 2 / 10 ^ k) * 10 ^ k - n = -(1 / 2) := by
        field_simp
        ring
      rw [hdiff, abs_neg, abs_of_pos (by positivity)]
    · have hdiff : ((n : K) / 10 ^ k + 1 / 2 / 10 ^ k) * 10 ^ k - n = 1 / 2 := by
        field_simp
        ring
      rw [hdiff, abs_of_pos (by positivity)]
  exact hhalf.le

/-- An even multiple takes in the ties on both its sides. -/
theorem RoundsTo.even_le_iff (h : RoundsTo k x z) {n : ℤ} (hn : Even n) : (n : K) / 10 ^ k ≤ z ↔ (n : K) / 10 ^ k - 1 / 2 / 10 ^ k ≤ x := by
  constructor
  · intro hle
    obtain ⟨hlow, -⟩ := abs_le.mp h.abs_sub_le
    linarith
  · exact (roundsTo_tie hn (Or.inl rfl)).mono h

theorem RoundsTo.le_even_iff (h : RoundsTo k x z) {n : ℤ} (hn : Even n) : z ≤ (n : K) / 10 ^ k ↔ x ≤ (n : K) / 10 ^ k + 1 / 2 / 10 ^ k := by
  constructor
  · intro hle
    obtain ⟨-, hhigh⟩ := abs_le.mp h.abs_sub_le
    linarith
  · exact h.mono (roundsTo_tie hn (Or.inr rfl))

/-- Both are rounded to the same multiple. -/
def SameRounding (k : ℕ) (x y : K) : Prop := ∃ z, RoundsTo k x z ∧ RoundsTo k y z

omit [IsStrictOrderedRing K] in
theorem SameRounding.symm (h : SameRounding k x y) : SameRounding k y x := by
  obtain ⟨z, hx, hy⟩ := h
  exact ⟨z, hy, hx⟩

theorem RoundsTo.sameRounding_iff (hx : RoundsTo k x z) (hy : RoundsTo k y w) : SameRounding k x y ↔ z = w := by
  constructor
  · rintro ⟨v, hxv, hyv⟩
    exact (hx.unique hxv).trans (hyv.unique hy)
  · rintro rfl
    exact ⟨z, hx, hy⟩

/-- The order of two roundings is that of the numbers, but for what rounds away. -/
theorem RoundsTo.le_iff (hx : RoundsTo k x z) (hy : RoundsTo k y w) : z ≤ w ↔ x ≤ y ∨ SameRounding k x y := by
  rw [hx.sameRounding_iff hy]
  constructor
  · intro hle
    obtain hxy | hyx := le_total x y
    · exact Or.inl hxy
    · exact Or.inr (le_antisymm hle (hy.mono hx hyx))
  · rintro (hxy | rfl)
    · exact hx.mono hy hxy
    · exact le_rfl

end RoundsTo

end Lib
