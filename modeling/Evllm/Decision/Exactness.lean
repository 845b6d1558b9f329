/-
# Decimals are exact rational arithmetic

`src/decision/decimal.ts`: a decimal stands for a rational number, in the one
way without trailing zeros (`Normalised`). Sums, differences and products are
that of the rationals, quotients and roundings the multiple of the last place
nearest to it, ties to even; an operation fails with `overflow` just when the
normalised coefficient of its result has more than 80 digits (`Exact`). A
rounding never does, since it shortens its argument.

Key definitions: `Normalised`, `Exact`, `Reachable`.
Key theorems: `Normalised.unique`, `create_exact`, `halfEven_roundHalfEven`,
`exact_arithmetic`.
-/
import Evllm.Decision.Magnitude
import Evllm.Lib.HalfEven

namespace Evllm
namespace Decision

open Lib

namespace ExactDecimal

/-! ### The normal form of a rational -/

/-- `c / 10 ^ s` is the rational, without trailing zeros after the point. -/
structure Normalised (q : ℚ) (c : ℤ) (s : ℕ) : Prop where
  value : valueAt c s = q
  normal : 0 < s → c.tmod 10 ≠ 0

theorem normalised_toRat (x : ExactDecimal) : Normalised x.toRat x.coefficient x.scale := ⟨rfl, x.normal⟩

theorem normalised_normalize (c : ℤ) (s : ℕ) : Normalised (valueAt c s) (normalize c s).1 (normalize c s).2 :=
  ⟨valueAt_normalize c s, normalize_normal c s⟩

/-- The form at a larger scale would end with a zero. -/
theorem Normalised.scale_le {q : ℚ} {c d : ℤ} {s t : ℕ} (hc : Normalised q c s) (hd : Normalised q d t) : t ≤ s := by
  by_contra hlt
  have hst : s ≤ t := by omega
  have hscaled : valueAt (c * 10 ^ (t - s)) t = valueAt d t := by
    rw [valueAt_scale c hst, hc.value, hd.value]
  have hpos : (10 : ℚ) ^ t ≠ 0 := by positivity
  have hcast : ((c * 10 ^ (t - s) : ℤ) : ℚ) = d := by
    unfold valueAt at hscaled
    exact (div_left_inj' hpos).mp hscaled
  have hd' : c * 10 ^ (t - s) = d := by exact_mod_cast hcast
  refine hd.normal (by omega) (Int.tmod_eq_zero_of_dvd ?_)
  rw [← hd']
  exact Dvd.dvd.mul_left (dvd_pow_self 10 (by omega)) c

/-- **A rational has one normal form.** -/
theorem Normalised.unique {q : ℚ} {c d : ℤ} {s t : ℕ} (hc : Normalised q c s) (hd : Normalised q d t) :
    c = d ∧ s = t := by
  have hst : s = t := le_antisymm (hd.scale_le hc) (hc.scale_le hd)
  subst hst
  have hpos : (10 : ℚ) ^ s ≠ 0 := by positivity
  have hvalue := hc.value.trans hd.value.symm
  unfold valueAt at hvalue
  have hcast : (c : ℚ) = d := (div_left_inj' hpos).mp hvalue
  exact ⟨by exact_mod_cast hcast, rfl⟩

/-- The normal form has more than 80 digits. -/
def TooLong (q : ℚ) : Prop := ∃ c s, Normalised q c s ∧ 80 < digitCount c

/-- The computation returns the rational, and fails with `overflow` just if it
is too long. -/
structure Exact (q : ℚ) (x : Except ExactDecimalError ExactDecimal) : Prop where
  value : ∀ z, x = .ok z → z.toRat = q
  overflow : ∀ e, x = .error e ↔ e = .overflow ∧ TooLong q

theorem create_exact (c : ℤ) (s : ℕ) : Exact (valueAt c s) (create c s) := by
  refine ⟨fun z hz => create_ok hz, fun e => ?_⟩
  have hform := normalised_normalize c s
  by_cases hcount : digitCount (normalize c s).1 ≤ 80
  · rw [create, dif_pos hcount]
    constructor
    · intro h
      cases h
    · rintro ⟨-, d, t, hd, hlong⟩
      rw [← (hform.unique hd).1] at hlong
      omega
  · rw [create, dif_neg hcount]
    constructor
    · intro h
      cases h
      exact ⟨rfl, _, _, hform, by omega⟩
    · rintro ⟨rfl, -⟩
      rfl

theorem exact_of_eq {q : ℚ} {c : ℤ} {s : ℕ} (h : valueAt c s = q) : Exact q (create c s) := h ▸ create_exact c s

theorem add_exact (x y : ExactDecimal) : Exact (x.toRat + y.toRat) (add x y) := by
  refine exact_of_eq ?_
  rw [valueAt_add, valueAt_scale _ (le_max_left _ _), valueAt_scale _ (le_max_right _ _)]
  rfl

theorem valueAt_neg (c : ℤ) (s : ℕ) : valueAt (-c) s = -valueAt c s := by
  unfold valueAt
  push_cast
  ring

theorem subtract_exact (x y : ExactDecimal) : Exact (x.toRat - y.toRat) (subtract x y) := by
  rw [subtract_eq]
  refine exact_of_eq ?_
  rw [valueAt_add, valueAt_scale _ (le_max_left _ _), valueAt_scale _ (le_max_right _ _), valueAt_neg, sub_eq_add_neg]
  rfl

theorem multiply_exact (x y : ExactDecimal) : Exact (x.toRat * y.toRat) (multiply x y) := by
  refine exact_of_eq ?_
  unfold toRat valueAt
  rw [pow_add]
  push_cast
  field_simp

/-! ### Rounding -/

theorem tmod_bounds (a : ℤ) {d : ℤ} (hd : 0 < d) :
    -d < a.tmod d ∧ a.tmod d < d ∧ (0 ≤ a → 0 ≤ a.tmod d) ∧ (a < 0 → a.tmod d ≤ 0) := by
  refine ⟨Int.lt_tmod_of_pos a hd, Int.tmod_lt_of_pos a hd, fun ha => Int.tmod_nonneg d ha, fun ha => ?_⟩
  have hneg : 0 ≤ (-a).tmod d := Int.tmod_nonneg d (by omega)
  rw [Int.neg_tmod] at hneg
  omega

theorem tmod_two_eq_zero_iff (q : ℤ) : q.tmod 2 = 0 ↔ Even q := by
  rw [even_iff_two_dvd]
  exact ⟨Int.dvd_of_tmod_eq_zero, Int.tmod_eq_zero_of_dvd⟩

/-- The truncated quotient or its neighbour away from zero, by twice the
remainder. -/
theorem halfEven_roundHalfEven (n : ℤ) {d : ℤ} (hd : d ≠ 0) : HalfEven ((n : ℚ) / d) (roundHalfEven n d) := by
  have hquotient : (n : ℚ) / d = ((if d < 0 then -n else n : ℤ) : ℚ) / (if d < 0 then -d else d : ℤ) := by
    split_ifs
    · push_cast
      rw [neg_div_neg_eq]
    · rfl
  have hpos : 0 < (if d < 0 then -d else d) := by
    split_ifs <;> omega
  rw [hquotient]
  unfold roundHalfEven
  dsimp only
  generalize (if d < 0 then -n else n) = a
  generalize (if d < 0 then -d else d) = b at *
  obtain ⟨hlow, hhigh, hnonneg, hnonpos⟩ := tmod_bounds a hpos
  have hdivision : a.tdiv b * b + a.tmod b = a := Int.tdiv_mul_add_tmod a b
  have heven := tmod_two_eq_zero_iff (a.tdiv b)
  generalize a.tdiv b = q at *
  generalize a.tmod b = r at *
  rw [halfEven_div_iff hpos]
  have hkeep : a - q * b = r := by omega
  have hup : a - (q + 1) * b = r - b := by
    rw [add_mul]
    omega
  have hdown : a - (q + -1) * b = r + b := by
    rw [add_mul]
    omega
  by_cases ha : a < 0
  · have hr : r ≤ 0 := hnonpos ha
    have hmagnitude : (if r < 0 then -r else r) = -r := by
      split_ifs <;> omega
    have hnear : |2 * r| = -r * 2 := by rw [abs_of_nonpos (by omega)]; omega
    have hfar : |2 * (r + b)| = 2 * (r + b) := abs_of_nonneg (by omega)
    rw [hmagnitude, if_pos ha]
    split_ifs with hless hmore hq
    · rw [hkeep, hnear]
      exact ⟨hless.le, fun htie => absurd htie hless.ne⟩
    · rw [hdown, hfar]
      exact ⟨by omega, fun htie => absurd htie (by omega)⟩
    · rw [hkeep, hnear]
      exact ⟨not_lt.mp hmore, fun _ => heven.mp hq⟩
    · rw [hdown, hfar]
      have hodd := Int.not_even_iff_odd.mp (hq ∘ heven.mpr)
      exact ⟨by omega, fun _ => hodd.add_odd (by decide)⟩
  · have hr : 0 ≤ r := hnonneg (by omega)
    have hmagnitude : (if r < 0 then -r else r) = r := by
      split_ifs <;> omega
    have hnear : |2 * r| = r * 2 := by rw [abs_of_nonneg (by omega)]; omega
    have hfar : |2 * (r - b)| = 2 * (b - r) := by rw [abs_of_nonpos (by omega)]; omega
    rw [hmagnitude, if_neg ha]
    split_ifs with hless hmore hq
    · rw [hkeep, hnear]
      exact ⟨hless.le, fun htie => absurd htie hless.ne⟩
    · rw [hup, hfar]
      exact ⟨by omega, fun htie => absurd htie (by omega)⟩
    · rw [hkeep, hnear]
      exact ⟨not_lt.mp hmore, fun _ => heven.mp hq⟩
    · rw [hup, hfar]
      have hodd := Int.not_even_iff_odd.mp (hq ∘ heven.mpr)
      exact ⟨by omega, fun _ => hodd.add_one⟩

/-- The rounded quotient at the scale of its last place. -/
theorem roundsTo_of_eq {n d : ℤ} {k : ℕ} {q : ℚ} (hd : d ≠ 0) (h : (n : ℚ) / d = q * 10 ^ k) :
    RoundsTo k q (valueAt (roundHalfEven n d) k) := by
  refine ⟨roundHalfEven n d, rfl, ?_⟩
  rw [← h]
  exact halfEven_roundHalfEven n hd

variable {x y : ExactDecimal} {k : ℕ}

theorem coefficient_eq_zero_iff : y.coefficient = 0 ↔ y.toRat = 0 := by
  have hpos : (10 : ℚ) ^ y.scale ≠ 0 := by positivity
  rw [toRat, valueAt, div_eq_zero_iff, or_iff_left hpos]
  exact_mod_cast Iff.rfl

theorem divide_zero (k : ℕ) (hy : y.toRat = 0) : divide x y k = .error .divideByZero := by
  rw [divide, throwIf, if_pos (coefficient_eq_zero_iff.mpr hy)]
  rfl

/-- **A quotient is the nearest multiple of its last place**, or too long. -/
theorem divide_exact (hk : k ≤ 18) (hy : y.toRat ≠ 0) :
    ∃ q, RoundsTo k (x.toRat / y.toRat) q ∧ Exact q (divide x y k) := by
  have hcoefficient : y.coefficient ≠ 0 := fun hzero => hy (coefficient_eq_zero_iff.mp hzero)
  have hcast : (y.coefficient : ℚ) ≠ 0 := by exact_mod_cast hcoefficient
  unfold divide
  rw [throwIf_bind_of_not hcoefficient, throwIf_bind_of_not (not_lt.mpr hk)]
  refine ⟨_, roundsTo_of_eq ?_ ?_, create_exact _ k⟩
  · split_ifs
    · exact hcoefficient
    · exact mul_ne_zero hcoefficient (by positivity)
  · exact divide_quotient x hcast k

/-- Rounding away a digit leaves at most 80. -/
theorem roundHalfEven_lt (x : ExactDecimal) {j : ℕ} (hj : 0 < j) : (roundHalfEven x.coefficient (10 ^ j)).natAbs < 10 ^ 80 := by
  have hcoefficient : (x.coefficient.natAbs : ℚ) < 10 ^ 80 := by
    exact_mod_cast (digitCount_le_iff (by decide)).mp x.bounded
  have hten : (10 : ℚ) ≤ 10 ^ j := by simpa using pow_le_pow_right₀ (by norm_num : (1 : ℚ) ≤ 10) hj
  have hquotient : |(x.coefficient : ℚ) / (10 ^ j : ℤ)| ≤ 10 ^ 79 := by
    push_cast
    rw [abs_div, abs_of_pos (by positivity : (0 : ℚ) < 10 ^ j), div_le_iff₀ (by positivity), ← Int.cast_abs,
      ← Nat.cast_natAbs]
    calc (x.coefficient.natAbs : ℚ) ≤ 10 ^ 79 * 10 := by linarith
      _ ≤ 10 ^ 79 * 10 ^ j := mul_le_mul_of_nonneg_left hten (by positivity)
  have hround := abs_roundHalfEven_le x.coefficient (10 ^ j)
  have hlt : ((roundHalfEven x.coefficient (10 ^ j)).natAbs : ℚ) < 10 ^ 80 := by
    rw [Nat.cast_natAbs, Int.cast_abs]
    calc _ ≤ (10 : ℚ) ^ 79 + 1 := hround.trans (by linarith)
      _ < 10 ^ 80 := by norm_num
  exact_mod_cast hlt

/-- **A rounding is the nearest multiple of its last place.** -/
theorem round_rounds (hk : k ≤ 18) : ∃ z, round x k = .ok z ∧ RoundsTo k x.toRat z.toRat := by
  unfold round
  rw [throwIf_bind_of_not (not_lt.mpr hk)]
  split_ifs with hscale
  · refine ⟨x, rfl, ?_⟩
    have hmultiple : x.toRat = ((x.coefficient * 10 ^ (k - x.scale) : ℤ) : ℚ) / 10 ^ k :=
      (valueAt_scale x.coefficient hscale).symm
    rw [hmultiple]
    exact roundsTo_self _ k
  · have hd : (10 : ℤ) ^ (x.scale - k) ≠ 0 := by positivity
    have hrounds : RoundsTo k x.toRat (valueAt (roundHalfEven x.coefficient (10 ^ (x.scale - k))) k) :=
      roundsTo_of_eq hd (round_quotient x (not_le.mp hscale).le)
    obtain ⟨z, hz⟩ := create_of_lt k (roundHalfEven_lt x (by omega : 0 < x.scale - k))
    exact ⟨z, hz, by rwa [create_ok hz]⟩

/-! ### What an operation that returns has returned -/

variable {z : ExactDecimal}

theorem create_scale_le {c : ℤ} {s : ℕ} (h : create c s = .ok z) : z.scale ≤ s := by
  unfold create at h
  split_ifs at h
  cases h
  exact normalize_scale_le c s

theorem fromInteger_ok {n : ℤ} (h : fromInteger n = .ok z) : z.toRat = n := by
  simp only [fromInteger, bind_eq_ok] at h
  obtain ⟨-, -, hz⟩ := h
  rw [create_ok hz, valueAt, pow_zero, div_one]

theorem multiply_ok (h : multiply x y = .ok z) : z.toRat = x.toRat * y.toRat := (multiply_exact x y).value z h

theorem divide_ok (h : divide x y k = .ok z) : RoundsTo k (x.toRat / y.toRat) z.toRat ∧ z.scale ≤ k := by
  have hinversion := h
  simp only [divide, bind_eq_ok, throwIf_eq_ok, not_lt] at hinversion
  obtain ⟨-, hne, -, hk, hcreate⟩ := hinversion
  obtain ⟨q, hq, hexact⟩ := divide_exact hk fun hzero => hne (coefficient_eq_zero_iff.mpr hzero)
  rw [hexact.value z h]
  exact ⟨hq, create_scale_le hcreate⟩

theorem round_ok (h : round x k = .ok z) : RoundsTo k x.toRat z.toRat ∧ z.scale ≤ k := by
  have hinversion := h
  simp only [round, bind_eq_ok, throwIf_eq_ok, not_lt] at hinversion
  obtain ⟨-, hk, hresult⟩ := hinversion
  obtain ⟨w, hw, hrounds⟩ := round_rounds (x := x) hk
  rw [h] at hw
  cases hw
  refine ⟨hrounds, ?_⟩
  split_ifs at hresult with hscale
  · rw [← pure_eq_ok.mp hresult]
    exact hscale
  · exact create_scale_le hresult

theorem parse_toRat {s : String} (h : parse s = .ok z) : z.toRat = denoted s := by
  obtain ⟨n, hn, rfl, rfl⟩ := parse_ok_iff.mp h
  exact n.denoted_eq_valueAt.symm

/-! ### One representation -/

/-- Decimals of one value are one decimal. -/
theorem toRat_eq_iff : x.toRat = y.toRat ↔ x.coefficient = y.coefficient ∧ x.scale = y.scale := by
  constructor
  · intro h
    exact (normalised_toRat x).unique (h ▸ normalised_toRat y)
  · rintro ⟨hcoefficient, hscale⟩
    rw [toRat, toRat, hcoefficient, hscale]

theorem denoted_toCanonical (x : ExactDecimal) : denoted x.toCanonical = x.toRat := by
  obtain ⟨n, hcoefficient, hscale⟩ := exists_numeral x
  rw [Numeral.toCanonical_chars hcoefficient.symm hscale.symm, n.denoted_eq_valueAt, hcoefficient, hscale]
  rfl

/-- The decimals that the public operations build. -/
inductive Reachable : ExactDecimal → Prop where
  | parse (s : String) (x : ExactDecimal) (h : ExactDecimal.parse s = .ok x) : Reachable x
  | fromInteger (n : ℤ) (x : ExactDecimal) (h : ExactDecimal.fromInteger n = .ok x) : Reachable x
  | add (x y z : ExactDecimal) (hx : Reachable x) (hy : Reachable y) (h : ExactDecimal.add x y = .ok z) : Reachable z
  | subtract (x y z : ExactDecimal) (hx : Reachable x) (hy : Reachable y) (h : ExactDecimal.subtract x y = .ok z) :
      Reachable z
  | multiply (x y z : ExactDecimal) (hx : Reachable x) (hy : Reachable y) (h : ExactDecimal.multiply x y = .ok z) :
      Reachable z
  | divide (x y z : ExactDecimal) (k : ℕ) (hx : Reachable x) (hy : Reachable y) (h : ExactDecimal.divide x y k = .ok z) :
      Reachable z
  | round (x z : ExactDecimal) (k : ℕ) (hx : Reachable x) (h : ExactDecimal.round x k = .ok z) : Reachable z

/-- **Decimals are exact.** Sums, differences and products are those of the
rationals or fail with `overflow` just when their normal form is too long, and
so are quotients of the multiples of their last place nearest to them, save
that a zero divisor is refused; roundings are those multiples and never fail;
and a value has one representation and one text. -/
theorem exact_arithmetic (x y : ExactDecimal) :
    (Exact (x.toRat + y.toRat) (add x y) ∧ Exact (x.toRat - y.toRat) (subtract x y) ∧
      Exact (x.toRat * y.toRat) (multiply x y)) ∧
    (∀ k ≤ 18, (y.toRat = 0 → divide x y k = .error .divideByZero) ∧
      (y.toRat ≠ 0 → ∃ q, RoundsTo k (x.toRat / y.toRat) q ∧ Exact q (divide x y k))) ∧
    (∀ k ≤ 18, ∃ z, round x k = .ok z ∧ RoundsTo k x.toRat z.toRat) ∧
    (0 < x.scale → ¬10 ∣ x.coefficient) ∧
    (x.toRat = y.toRat ↔ x.coefficient = y.coefficient ∧ x.scale = y.scale) ∧
    (x.toCanonical = y.toCanonical → x.toRat = y.toRat) := by
  refine ⟨⟨add_exact x y, subtract_exact x y, multiply_exact x y⟩,
    fun k hk => ⟨fun hy => divide_zero k hy, fun hy => divide_exact hk hy⟩, fun k hk => round_rounds hk,
    fun hscale hdvd => x.normal hscale (Int.tmod_eq_zero_of_dvd hdvd), toRat_eq_iff, fun h => ?_⟩
  rw [← denoted_toCanonical x, ← denoted_toCanonical y, h]

/-- The integer `10 ^ j`. -/
def powerOfTen (j : ℕ) (hj : j < 80) : ExactDecimal where
  coefficient := 10 ^ j
  scale := 0
  normal := fun h => absurd h (lt_irrefl 0)
  bounded := by
    rw [digitCount_le_iff (by decide), Int.natAbs_pow]
    exact Nat.pow_lt_pow_right (by decide) hj

theorem multiply_powerOfTen {i j : ℕ} (hi : i < 80) (hj : j < 80) (hij : i + j < 80) :
    multiply (powerOfTen i hi) (powerOfTen j hj) = .ok (powerOfTen (i + j) hij) := by
  have hpow : (powerOfTen i hi).coefficient * (powerOfTen j hj).coefficient = 10 ^ (i + j) := (pow_add 10 i j).symm
  rw [multiply, hpow]
  exact create_of_normal (powerOfTen (i + j) hij).normal (powerOfTen (i + j) hij).bounded

theorem reachable_multiply {i j : ℕ} {hi : i < 80} {hj : j < 80} (hij : i + j < 80) (hx : Reachable (powerOfTen i hi))
    (hy : Reachable (powerOfTen j hj)) : Reachable (powerOfTen (i + j) hij) :=
  .multiply _ _ _ hx hy (multiply_powerOfTen hi hj hij)

def overflowed : Except ExactDecimalError ExactDecimal → Bool
  | .error .overflow => true
  | _ => false

theorem eq_of_overflowed {x : Except ExactDecimalError ExactDecimal} (h : overflowed x = true) : x = .error .overflow := by
  unfold overflowed at h
  split at h
  · rfl
  · cases h

/-- A third of `10 ^ 75` has 93 digits at 18 places: the quotient of two
decimals that the operations build, by a divisor that is not zero, overflows. -/
theorem divide_too_long : ∃ x y, Reachable x ∧ Reachable y ∧ y.toRat ≠ 0 ∧ divide x y 18 = .error .overflow := by
  have hbase : Reachable (powerOfTen 15 (by decide)) := by
    refine .fromInteger (10 ^ 15) _ ?_
    rw [fromInteger, throwIf_bind_of_not (by norm_num [abs_of_pos])]
    exact create_of_normal (powerOfTen 15 (by decide)).normal (powerOfTen 15 (by decide)).bounded
  have hsquare := reachable_multiply (by decide) hbase hbase
  have hfourth := reachable_multiply (by decide) hsquare hsquare
  have hfifth := reachable_multiply (by decide) hfourth hbase
  obtain ⟨y, hy, hvalue, -⟩ := fromInteger_of_le (n := 3) (by norm_num)
  have hthree : y = ⟨3, 0, fun h => absurd h (lt_irrefl 0), by decide +kernel⟩ := by
    have hcreate : create 3 0 = .ok ⟨3, 0, fun h => absurd h (lt_irrefl 0), by decide +kernel⟩ :=
      create_of_normal _ _
    rw [fromInteger, throwIf_bind_of_not (by norm_num), hcreate] at hy
    exact (Except.ok.inj hy).symm
  refine ⟨_, y, hfifth, .fromInteger 3 y hy, by rw [hvalue]; norm_num, eq_of_overflowed ?_⟩
  rw [hthree]
  decide +kernel

end ExactDecimal
end Decision
end Evllm
