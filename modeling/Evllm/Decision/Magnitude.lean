/-
# When decimals do not overflow

A decimal is created whenever its value, at the scale it is written at, has at
most 80 digits. Each operation succeeds when its exact result is small enough
for the scales of its arguments, and says how large and how long its result is;
a quotient and a rounding are off by at most one unit of their last place. A
result of at most 38 digits and 18 places is read back as it was written.

Key theorems: `create_of_le`, `add_of_le`, `subtract_of_le`, `multiply_of_le`,
`divide_of_le`, `round_of_le`, `parse_toCanonical`.
-/
import Evllm.Decision.CanonicalDecimal
import Mathlib.Data.Nat.Cast.Order.Field
import Mathlib.Tactic.LinearCombination

namespace Evllm
namespace Decision

open Lib

namespace ExactDecimal

/-! ### Creating -/

theorem normalize_scale_le : ∀ (c : ℤ) (s : ℕ), (normalize c s).2 ≤ s
  | _, 0 => le_rfl
  | c, s + 1 => by
    unfold normalize
    split_ifs
    · exact (normalize_scale_le (c.tdiv 10) s).trans (Nat.le_succ s)
    · exact le_rfl

/-- The size of a coefficient is that of its value at the scale. -/
theorem abs_valueAt (c : ℤ) (s : ℕ) : |valueAt c s| * 10 ^ s = c.natAbs := by
  have hpos : (0 : ℚ) < 10 ^ s := by positivity
  rw [valueAt, abs_div, abs_of_pos hpos, div_mul_cancel₀ _ hpos.ne', Nat.cast_natAbs, Int.cast_abs]

/-- **A value of at most 80 digits at its scale makes a decimal.** -/
theorem create_of_le {c : ℤ} {s S : ℕ} (hs : s ≤ S) (h : |valueAt c s| * 10 ^ S < 10 ^ 80) :
    ∃ x, create c s = .ok x ∧ x.toRat = valueAt c s ∧ x.scale ≤ s := by
  have hlt : (c.natAbs : ℚ) < 10 ^ 80 := by
    rw [← abs_valueAt c s]
    refine lt_of_le_of_lt ?_ h
    exact mul_le_mul_of_nonneg_left (pow_le_pow_right₀ (by norm_num) hs) (abs_nonneg _)
  have hnat : c.natAbs < 10 ^ 80 := by exact_mod_cast hlt
  have hcount : digitCount (normalize c s).1 ≤ 80 :=
    (digitCount_le_iff (by decide)).mpr ((natAbs_normalize_le c s).trans_lt hnat)
  refine ⟨⟨_, _, normalize_normal c s, hcount⟩, dif_pos hcount, valueAt_normalize c s, normalize_scale_le c s⟩

theorem fromInteger_of_le {n : ℤ} (h : |n| ≤ 2 ^ 53 - 1) :
    ∃ x, fromInteger n = .ok x ∧ x.toRat = n ∧ x.scale = 0 := by
  have hvalue : valueAt n 0 = n := by simp [valueAt]
  have hcast : |(n : ℚ)| ≤ 2 ^ 53 - 1 := by exact_mod_cast h
  obtain ⟨x, hx, hrat, hscale⟩ := create_of_le (c := n) (le_refl 0) (by
    rw [hvalue]
    calc |(n : ℚ)| * 10 ^ 0 ≤ (2 ^ 53 - 1) * 10 ^ 0 := mul_le_mul_of_nonneg_right hcast (by norm_num)
      _ < 10 ^ 80 := by norm_num)
  refine ⟨x, ?_, hrat.trans hvalue, Nat.le_zero.mp hscale⟩
  unfold fromInteger
  rw [throwIf_bind_of_not (not_lt.mpr h)]
  exact hx

/-! ### Exact operations -/

variable {x y : ExactDecimal} {S T : ℕ}

theorem add_of_le (hx : x.scale ≤ S) (hy : y.scale ≤ S) (h : |x.toRat + y.toRat| * 10 ^ S < 10 ^ 80) :
    ∃ z, add x y = .ok z ∧ z.toRat = x.toRat + y.toRat ∧ z.scale ≤ S := by
  have hvalue : valueAt (x.coefficient * 10 ^ (max x.scale y.scale - x.scale) +
      y.coefficient * 10 ^ (max x.scale y.scale - y.scale)) (max x.scale y.scale) = x.toRat + y.toRat := by
    rw [valueAt_add, valueAt_scale _ (le_max_left _ _), valueAt_scale _ (le_max_right _ _)]
    rfl
  obtain ⟨z, hz, hrat, hscale⟩ := create_of_le (max_le hx hy) (by rwa [hvalue])
  exact ⟨z, hz, hrat.trans hvalue, hscale.trans (max_le hx hy)⟩

theorem subtract_of_le (hx : x.scale ≤ S) (hy : y.scale ≤ S) (h : |x.toRat - y.toRat| * 10 ^ S < 10 ^ 80) :
    ∃ z, subtract x y = .ok z ∧ z.toRat = x.toRat - y.toRat ∧ z.scale ≤ S := by
  have hneg : valueAt (-y.coefficient) y.scale = -y.toRat := by
    unfold toRat valueAt
    push_cast
    ring
  have hvalue : valueAt (x.coefficient * 10 ^ (max x.scale y.scale - x.scale) +
      -y.coefficient * 10 ^ (max x.scale y.scale - y.scale)) (max x.scale y.scale) = x.toRat - y.toRat := by
    rw [valueAt_add, valueAt_scale _ (le_max_left _ _), valueAt_scale _ (le_max_right _ _), hneg, sub_eq_add_neg]
    rfl
  obtain ⟨z, hz, hrat, hscale⟩ := create_of_le (max_le hx hy) (by rwa [hvalue])
  refine ⟨z, ?_, hrat.trans hvalue, hscale.trans (max_le hx hy)⟩
  rw [subtract_eq]
  exact hz

theorem multiply_of_le (hx : x.scale ≤ S) (hy : y.scale ≤ T) (h : |x.toRat * y.toRat| * 10 ^ (S + T) < 10 ^ 80) :
    ∃ z, multiply x y = .ok z ∧ z.toRat = x.toRat * y.toRat ∧ z.scale ≤ S + T := by
  have hvalue : valueAt (x.coefficient * y.coefficient) (x.scale + y.scale) = x.toRat * y.toRat := by
    unfold toRat valueAt
    rw [pow_add]
    push_cast
    field_simp
  obtain ⟨z, hz, hrat, hscale⟩ := create_of_le (Nat.add_le_add hx hy) (by rwa [hvalue])
  exact ⟨z, hz, hrat.trans hvalue, hscale.trans (Nat.add_le_add hx hy)⟩

/-- The sign of a difference is read off without overflow. -/
theorem compare_of_le (hx : x.scale ≤ S) (hy : y.scale ≤ S) (h : |x.toRat - y.toRat| * 10 ^ S < 10 ^ 80) :
    ∃ c, ExactDecimal.compare x y = .ok c := by
  obtain ⟨z, hz, -⟩ := subtract_of_le hx hy h
  exact ⟨_, by rw [ExactDecimal.compare, hz]; rfl⟩

/-! ### Rounded operations -/

theorem abs_tdiv_le (n d : ℤ) : |((n.tdiv d : ℤ) : ℚ)| ≤ |(n : ℚ) / d| := by
  have hnat : (n.tdiv d).natAbs = n.natAbs / d.natAbs := Int.natAbs_tdiv n d
  have hle : ((n.natAbs / d.natAbs : ℕ) : ℚ) ≤ (n.natAbs : ℚ) / d.natAbs := Nat.cast_div_le
  rw [← hnat] at hle
  rwa [abs_div, ← Int.cast_abs, ← Int.cast_abs, ← Int.cast_abs, ← Nat.cast_natAbs, ← Nat.cast_natAbs,
    ← Nat.cast_natAbs]

/-- Rounding moves a quotient by at most one. -/
theorem abs_roundHalfEven_le (n d : ℤ) : |((roundHalfEven n d : ℤ) : ℚ)| ≤ |(n : ℚ) / d| + 1 := by
  have hquotient : |(((if d < 0 then -n else n).tdiv (if d < 0 then -d else d) : ℤ) : ℚ)| ≤ |(n : ℚ) / d| := by
    refine (abs_tdiv_le _ _).trans_eq ?_
    split_ifs
    · push_cast
      rw [neg_div_neg_eq]
    · rfl
  have hdirection : |(((if (if d < 0 then -n else n) < 0 then -1 else 1 : ℤ)) : ℚ)| = 1 := by
    split_ifs <;> simp
  unfold roundHalfEven
  dsimp only
  generalize (if d < 0 then -n else n).tdiv (if d < 0 then -d else d) = q at *
  generalize (if (if d < 0 then -n else n) < 0 then (-1 : ℤ) else 1) = e at *
  have hsum : |((q + e : ℤ) : ℚ)| ≤ |(n : ℚ) / d| + 1 := by
    push_cast
    exact (abs_add_le _ _).trans (by rw [hdirection]; linarith)
  have hquotient' : |(q : ℚ)| ≤ |(n : ℚ) / d| + 1 := by linarith
  split_ifs <;> first | exact hquotient' | exact hsum

/-- A rounded quotient at the scale of its last place. -/
theorem create_roundHalfEven {n d : ℤ} {k : ℕ} {q : ℚ} (hq : (n : ℚ) / d = q * 10 ^ k)
    (h : |q| * 10 ^ k + 1 < 10 ^ 80) :
    ∃ z, create (roundHalfEven n d) k = .ok z ∧ |z.toRat| ≤ |q| + 1 / 10 ^ k ∧ z.scale ≤ k := by
  have hpos : (0 : ℚ) < 10 ^ k := by positivity
  have hround : |((roundHalfEven n d : ℤ) : ℚ)| ≤ |q| * 10 ^ k + 1 := by
    have hle := abs_roundHalfEven_le n d
    rwa [hq, abs_mul, abs_of_pos hpos] at hle
  have hvalue : |valueAt (roundHalfEven n d) k| * 10 ^ k = |((roundHalfEven n d : ℤ) : ℚ)| := by
    rw [abs_valueAt, Nat.cast_natAbs, Int.cast_abs]
  obtain ⟨z, hz, hrat, hscale⟩ := create_of_le (le_refl k) (by rw [hvalue]; linarith)
  refine ⟨z, hz, ?_, hscale⟩
  rw [hrat, ← mul_le_mul_iff_left₀ hpos, hvalue, add_mul, one_div, inv_mul_cancel₀ hpos.ne']
  exact hround

/-- The quotient that `divide` rounds, in units of the last place. -/
theorem divide_quotient (x : ExactDecimal) {y : ExactDecimal} (hy : (y.coefficient : ℚ) ≠ 0) (k : ℕ) :
    ((if 0 ≤ (k : ℤ) + y.scale - x.scale then x.coefficient * 10 ^ ((k : ℤ) + y.scale - x.scale).toNat
        else x.coefficient : ℤ) : ℚ) /
      (if 0 ≤ (k : ℤ) + y.scale - x.scale then y.coefficient
        else y.coefficient * 10 ^ (-((k : ℤ) + y.scale - x.scale)).toNat : ℤ) = x.toRat / y.toRat * 10 ^ k := by
  unfold toRat valueAt
  split_ifs with hexponent
  · have hpow : (10 : ℚ) ^ k * 10 ^ y.scale = 10 ^ x.scale * 10 ^ ((k : ℤ) + y.scale - x.scale).toNat := by
      rw [← pow_add, ← pow_add]
      congr 1
      omega
    push_cast
    field_simp
    linear_combination -(x.coefficient : ℚ) * hpow
  · have hpow : (10 : ℚ) ^ k * 10 ^ y.scale * 10 ^ (-((k : ℤ) + y.scale - x.scale)).toNat = 10 ^ x.scale := by
      rw [← pow_add, ← pow_add]
      congr 1
      omega
    push_cast
    field_simp
    linear_combination -(x.coefficient : ℚ) * hpow

/-- The quotient that `round` rounds. -/
theorem round_quotient (x : ExactDecimal) {k : ℕ} (hk : k ≤ x.scale) :
    (x.coefficient : ℚ) / (10 ^ (x.scale - k) : ℤ) = x.toRat * 10 ^ k := by
  have hpow : (10 : ℚ) ^ x.scale = 10 ^ (x.scale - k) * 10 ^ k := by rw [← pow_add, Nat.sub_add_cancel hk]
  unfold toRat valueAt
  rw [hpow]
  push_cast
  field_simp

theorem divide_of_le {k : ℕ} (hk : k ≤ 18) (hy : y.toRat ≠ 0) (h : |x.toRat / y.toRat| * 10 ^ k + 1 < 10 ^ 80) :
    ∃ z, divide x y k = .ok z ∧ |z.toRat| ≤ |x.toRat / y.toRat| + 1 / 10 ^ k ∧ z.scale ≤ k := by
  have hcoefficient : y.coefficient ≠ 0 := by
    intro hzero
    refine hy ?_
    simp [toRat, valueAt, hzero]
  have hcast : (y.coefficient : ℚ) ≠ 0 := by exact_mod_cast hcoefficient
  unfold divide
  rw [throwIf_bind_of_not hcoefficient, throwIf_bind_of_not (not_lt.mpr hk)]
  exact create_roundHalfEven (divide_quotient x hcast k) h

theorem round_of_le {k : ℕ} (hk : k ≤ 18) (h : |x.toRat| * 10 ^ k + 1 < 10 ^ 80) :
    ∃ z, round x k = .ok z ∧ |z.toRat| ≤ |x.toRat| + 1 / 10 ^ k ∧ z.scale ≤ k := by
  unfold round
  rw [throwIf_bind_of_not (not_lt.mpr hk)]
  split_ifs with hscale
  · refine ⟨x, rfl, ?_, hscale⟩
    have hpos : (0 : ℚ) ≤ 1 / 10 ^ k := by positivity
    linarith
  · exact create_roundHalfEven (round_quotient x (not_le.mp hscale).le) h

end ExactDecimal

/-! ### Reading back -/

/-- The digits of a number, without leading zeros. -/
theorem toDigits_leading (n : ℕ) :
    Nat.toDigits 10 n = ['0'] ∨ ∃ c rest, Nat.toDigits 10 n = c :: rest ∧ c ≠ '0' := by
  by_cases hn : n = 0
  · exact .inl (by rw [hn]; rfl)
  · have hvalue : digitsValue (Nat.toDigits 10 n) = n := Nat.ofDigitChars_ten_toDigits
    have hdigits : ∀ c ∈ Nat.toDigits 10 n, c.isDigit = true := fun c hc => Nat.isDigit_of_mem_toDigits (by decide) (by decide) hc
    have hdrop := toDigits_digitsValue hdigits (by rwa [hvalue])
    rw [hvalue] at hdrop
    refine .inr ?_
    cases hl : Nat.toDigits 10 n with
    | nil => exact absurd hl Nat.toDigits_ne_nil
    | cons c rest =>
      refine ⟨c, rest, rfl, fun hzero => ?_⟩
      rw [hl, List.dropWhile_cons_of_pos (by simp [hzero])] at hdrop
      have hlength := congrArg List.length hdrop
      have hle := (List.dropWhile_sublist (l := rest) (fun c => decide (c = '0'))).length_le
      rw [List.length_cons] at hlength
      omega

/-- The last `s` digits of a number, with leading zeros. -/
def lastDigits (v s : ℕ) : List Char := if s = 0 then [] else (Nat.toDigits 10 (v % 10 ^ s)).leftpad s '0'

theorem digitsValue_leftpad (k : ℕ) (l : List Char) : digitsValue (l.leftpad k '0') = digitsValue l := by
  rw [List.leftpad, digitsValue_append, digitsValue_replicate_zero, Nat.mul_zero, Nat.zero_add]

theorem digitsValue_lastDigits (v s : ℕ) : digitsValue (lastDigits v s) = v % 10 ^ s := by
  unfold lastDigits
  split_ifs with hs
  · rw [hs, pow_zero, Nat.mod_one]
    rfl
  · rw [digitsValue_leftpad]
    exact Nat.ofDigitChars_ten_toDigits

theorem length_lastDigits (v s : ℕ) : (lastDigits v s).length = s := by
  unfold lastDigits
  split_ifs with hs
  · exact hs.symm
  · rw [List.length_leftpad]
    have hlt : v % 10 ^ s < 10 ^ s := Nat.mod_lt _ (by positivity)
    exact max_eq_left ((Nat.length_toDigits_le_iff (by decide) (Nat.pos_of_ne_zero hs)).mpr hlt)

theorem isDigit_lastDigits {v s : ℕ} {c : Char} (hc : c ∈ lastDigits v s) : c.isDigit = true := by
  unfold lastDigits at hc
  split_ifs at hc with hs
  · cases hc
  · rcases List.mem_append.mp hc with hc | hc
    · rw [List.eq_of_mem_replicate hc]
      rfl
    · exact Nat.isDigit_of_mem_toDigits (by decide) (by decide) hc

/-- Where the number does not end with a zero, neither do its last digits. -/
theorem getLast_lastDigits {v s : ℕ} (h : 0 < s → v % 10 ≠ 0) : (lastDigits v s).getLast? ≠ some '0' := by
  intro hlast
  obtain ⟨init, hinit⟩ := List.getLast?_eq_some_iff.mp hlast
  have hpos : 0 < s := by
    rw [← length_lastDigits v s, hinit]
    simp
  have hvalue := digitsValue_lastDigits v s
  rw [hinit, digitsValue_concat] at hvalue
  have hmod : v % 10 ^ s % 10 = v % 10 := Nat.mod_mod_of_dvd v (dvd_pow_self 10 hpos.ne')
  have hzero : digitValue '0' = 0 := rfl
  rw [← hvalue, hzero] at hmod
  exact h hpos (by omega)

/-- The numeral of a decimal. -/
theorem exists_numeral (x : ExactDecimal) :
    ∃ n : Numeral, n.coefficient = x.coefficient ∧ n.fraction.length = x.scale := by
  have hmod : 0 < x.scale → x.coefficient.natAbs % 10 ≠ 0 := by
    intro hpos hzero
    refine x.normal hpos (Int.tmod_eq_zero_of_dvd ?_)
    rw [← Int.natAbs_dvd_natAbs]
    exact Nat.dvd_of_mod_eq_zero hzero
  refine ⟨{
    negative := decide (x.coefficient < 0)
    integer := Nat.toDigits 10 (x.coefficient.natAbs / 10 ^ x.scale)
    fraction := lastDigits x.coefficient.natAbs x.scale
    integerDigits := fun c hc => Nat.isDigit_of_mem_toDigits (by decide) (by decide) hc
    fractionDigits := fun c hc => isDigit_lastDigits hc
    leading := toDigits_leading _
    trailing := getLast_lastDigits hmod
    unsignedZero := ?_ }, ?_, length_lastDigits _ _⟩
  · intro hinteger hfraction
    have hscale : x.scale = 0 := by
      rw [← length_lastDigits x.coefficient.natAbs x.scale, hfraction]
      rfl
    have hvalue : x.coefficient.natAbs / 10 ^ x.scale = 0 := by
      rw [← Nat.ofDigitChars_ten_toDigits (n := x.coefficient.natAbs / 10 ^ x.scale), hinteger]
      rfl
    rw [hscale, pow_zero, Nat.div_one, Int.natAbs_eq_zero] at hvalue
    simp [hvalue]
  · have hinteger : digitsValue (Nat.toDigits 10 (x.coefficient.natAbs / 10 ^ x.scale)) =
        x.coefficient.natAbs / 10 ^ x.scale := Nat.ofDigitChars_ten_toDigits
    have hdigits : digitsValue (Nat.toDigits 10 (x.coefficient.natAbs / 10 ^ x.scale) ++
        lastDigits x.coefficient.natAbs x.scale) = x.coefficient.natAbs := by
      rw [digitsValue_append, hinteger, digitsValue_lastDigits, length_lastDigits]
      exact Nat.div_add_mod _ _
    unfold Numeral.coefficient Numeral.digits Numeral.sign
    dsimp only
    rw [hdigits]
    split_ifs with hneg
    · have : x.coefficient < 0 := of_decide_eq_true hneg
      omega
    · have : ¬x.coefficient < 0 := fun h => hneg (decide_eq_true h)
      omega

/-- **What is written in at most 38 digits and 18 places is read back.** -/
theorem parse_toCanonical {x : ExactDecimal} (hscale : x.scale ≤ 18) (h : |x.toRat| * 10 ^ x.scale < 10 ^ 38) :
    ExactDecimal.parse x.toCanonical = .ok x := by
  obtain ⟨n, hcoefficient, hfraction⟩ := exists_numeral x
  have hlt : n.coefficient.natAbs < 10 ^ 38 := by
    rw [ExactDecimal.toRat, ExactDecimal.abs_valueAt] at h
    rw [hcoefficient]
    exact_mod_cast h
  have hfits : n.Fits := by
    refine ⟨?_, by rw [hfraction]; exact hscale⟩
    rw [n.natAbs_coefficient] at hlt
    by_cases hzero : digitsValue n.digits = 0
    · rw [(digitsValue_eq_zero fun _ hc => n.isDigit_of_mem hc).mp hzero]
      decide
    · rw [← toDigits_digitsValue (fun _ hc => n.isDigit_of_mem hc) hzero]
      exact (Nat.length_toDigits_le_iff (by decide) (by decide)).mpr hlt
  have hx : x = hfits.decimal := by
    cases x
    unfold Numeral.Fits.decimal
    congr 1
    · exact hcoefficient.symm
    · exact hfraction.symm
  rw [hx, hfits.toCanonical]
  exact hfits.parse_chars

end Decision
end Evllm
