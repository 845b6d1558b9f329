/-
# Exact decimals

A coefficient and a scale, without trailing zeros and of at most 80 digits.
Sums, differences and products are exact or fail; quotients and roundings are
half-even at a given scale. The value of a decimal is a rational number, and
comparing two decimals is comparing their values (`compare_ok`).

Key definitions: `ExactDecimal`, `ExactDecimal.create`, `ExactDecimal.parse`,
`ExactDecimal.toCanonical`, `ExactDecimal.toRat`.
-/
import Mathlib.Algebra.Order.Field.Basic
import Mathlib.Algebra.Order.Field.Rat
import Mathlib.Data.List.DropRight
import Mathlib.Tactic.FieldSimp
import Mathlib.Tactic.Linarith
import Mathlib.Tactic.Ring
import Evllm.Lib.Except

namespace Evllm
namespace Decision

open Lib

/-- The codes of `ExactDecimalError`. -/
inductive ExactDecimalError where
  | divideByZero
  | invalid
  | overflow
  deriving DecidableEq, Repr

/-- The number of characters of a magnitude written in decimal. -/
def digitCount (coefficient : ℤ) : ℕ := (Nat.toDigits 10 coefficient.natAbs).length

/-- The loop of `create`: drop trailing zeros while there is scale. -/
def normalize : ℤ → ℕ → ℤ × ℕ
  | c, 0 => (c, 0)
  | c, s + 1 => if c.tmod 10 = 0 then normalize (c.tdiv 10) s else (c, s + 1)

theorem normalize_normal : ∀ (c : ℤ) (s : ℕ), 0 < (normalize c s).2 → (normalize c s).1.tmod 10 ≠ 0
  | _, 0, h => by simp [normalize] at h
  | c, s + 1, h => by
    unfold normalize at h ⊢
    split_ifs at h ⊢ with hc
    · exact normalize_normal (c.tdiv 10) s h
    · exact hc

/-- A decimal number: `coefficient / 10 ^ scale`. -/
structure ExactDecimal where
  coefficient : ℤ
  scale : ℕ
  normal : 0 < scale → coefficient.tmod 10 ≠ 0
  bounded : digitCount coefficient ≤ 80

namespace ExactDecimal

def create (coefficient : ℤ) (scale : ℕ) : Except ExactDecimalError ExactDecimal :=
  if h : digitCount (normalize coefficient scale).1 ≤ 80 then
    .ok ⟨_, _, normalize_normal coefficient scale, h⟩
  else
    .error .overflow

/-! ### Reading -/

/-- The pattern `\.[0-9]*[1-9]`. -/
def fractionPattern : List Char → Bool
  | '.' :: digits => digits.all Char.isDigit && digits.getLast?.any (· ≠ '0')
  | _ => false

/-- `DECIMAL_PATTERN`. -/
def decimalPattern (value : List Char) : Bool :=
  value = ['0'] ||
    match if value.head? = some '-' then value.tail else value with
    | '0' :: rest => fractionPattern rest
    | c :: rest => c.isDigit && ((rest.dropWhile Char.isDigit).isEmpty || fractionPattern (rest.dropWhile Char.isDigit))
    | [] => false

/-- `BigInt` of a string of digits. -/
def natOfDigits (digits : List Char) : ℕ := digits.foldl (fun n c => 10 * n + (c.toNat - '0'.toNat)) 0

def parse (value : String) : Except ExactDecimalError ExactDecimal := do
  throwIf (decimalPattern value.toList = false) .invalid
  let negative := value.toList.head? = some '-'
  let unsigned := if negative then value.toList.tail else value.toList
  let integer := unsigned.takeWhile (· ≠ '.')
  let fraction := (unsigned.dropWhile (· ≠ '.')).tail
  throwIf (38 < ((integer ++ fraction).dropWhile (· = '0')).length ∨ 18 < fraction.length) .overflow
  create ((natOfDigits (integer ++ fraction) : ℤ) * if negative then -1 else 1) fraction.length

/-- `fromInteger` of a number, which must be a safe integer. -/
def fromInteger (value : ℤ) : Except ExactDecimalError ExactDecimal := do
  throwIf (2 ^ 53 - 1 < |value|) .invalid
  create value 0

/-! ### Arithmetic -/

def add (x y : ExactDecimal) : Except ExactDecimalError ExactDecimal :=
  let scale := max x.scale y.scale
  create (x.coefficient * 10 ^ (scale - x.scale) + y.coefficient * 10 ^ (scale - y.scale)) scale

def subtract (x y : ExactDecimal) : Except ExactDecimalError ExactDecimal := do
  add x (← create (-y.coefficient) y.scale)

def multiply (x y : ExactDecimal) : Except ExactDecimalError ExactDecimal :=
  create (x.coefficient * y.coefficient) (x.scale + y.scale)

def roundHalfEven (numerator denominator : ℤ) : ℤ :=
  let denominatorMagnitude := if denominator < 0 then -denominator else denominator
  let signedNumerator := if denominator < 0 then -numerator else numerator
  let quotient := signedNumerator.tdiv denominatorMagnitude
  let remainder := signedNumerator.tmod denominatorMagnitude
  let remainderMagnitude := if remainder < 0 then -remainder else remainder
  let doubled := remainderMagnitude * 2
  let direction := if signedNumerator < 0 then -1 else 1
  if doubled < denominatorMagnitude then quotient
  else if denominatorMagnitude < doubled then quotient + direction
  else if quotient.tmod 2 = 0 then quotient
  else quotient + direction

def divide (x y : ExactDecimal) (outputScale : ℕ) : Except ExactDecimalError ExactDecimal := do
  throwIf (y.coefficient = 0) .divideByZero
  throwIf (18 < outputScale) .invalid
  let exponent := (outputScale : ℤ) + y.scale - x.scale
  let numerator := if 0 ≤ exponent then x.coefficient * 10 ^ exponent.toNat else x.coefficient
  let denominator := if 0 ≤ exponent then y.coefficient else y.coefficient * 10 ^ (-exponent).toNat
  create (roundHalfEven numerator denominator) outputScale

def round (x : ExactDecimal) (outputScale : ℕ) : Except ExactDecimalError ExactDecimal := do
  throwIf (18 < outputScale) .invalid
  if x.scale ≤ outputScale then
    return x
  else
    create (roundHalfEven x.coefficient (10 ^ (x.scale - outputScale))) outputScale

def compare (x y : ExactDecimal) : Except ExactDecimalError ℤ := do
  let difference := (← subtract x y).coefficient
  return if difference < 0 then -1 else if 0 < difference then 1 else 0

/-! ### Writing -/

def toCanonical (x : ExactDecimal) : String :=
  if x.coefficient = 0 then "0"
  else
    let magnitude := Nat.toDigits 10 x.coefficient.natAbs
    let digits := magnitude.leftpad (x.scale + 1) '0'
    let integer := digits.take (digits.length - x.scale)
    let fraction := (digits.drop (digits.length - x.scale)).rdropWhile (· = '0')
    String.ofList ((if x.coefficient < 0 then ['-'] else []) ++ integer ++
      if fraction.isEmpty then [] else '.' :: fraction)

/-! ### Values -/

/-- The value of a coefficient at a scale. -/
def valueAt (c : ℤ) (s : ℕ) : ℚ := c / 10 ^ s

def toRat (x : ExactDecimal) : ℚ := valueAt x.coefficient x.scale

theorem valueAt_normalize : ∀ (c : ℤ) (s : ℕ), valueAt (normalize c s).1 (normalize c s).2 = valueAt c s
  | _, 0 => rfl
  | c, s + 1 => by
    unfold normalize
    split_ifs with hc
    · have hmul : c = c.tdiv 10 * 10 := (Int.tdiv_mul_cancel (Int.dvd_of_tmod_eq_zero hc)).symm
      have hcast : (c : ℚ) = (c.tdiv 10 : ℤ) * 10 := by exact_mod_cast hmul
      rw [valueAt_normalize (c.tdiv 10) s]
      unfold valueAt
      rw [hcast, pow_succ]
      field_simp
    · rfl

theorem natAbs_normalize_le : ∀ (c : ℤ) (s : ℕ), (normalize c s).1.natAbs ≤ c.natAbs
  | _, 0 => le_rfl
  | c, s + 1 => by
    unfold normalize
    split_ifs
    · have hdiv : (c.tdiv 10).natAbs ≤ c.natAbs := by
        rw [Int.natAbs_tdiv]
        exact Nat.div_le_self _ _
      exact (natAbs_normalize_le (c.tdiv 10) s).trans hdiv
    · exact le_rfl

theorem normalize_of_normal {c : ℤ} : ∀ {s : ℕ}, (0 < s → c.tmod 10 ≠ 0) → normalize c s = (c, s)
  | 0, _ => rfl
  | s + 1, h => by
    unfold normalize
    rw [if_neg (h s.succ_pos)]

theorem digitCount_le_iff {c : ℤ} {k : ℕ} (hk : 0 < k) : digitCount c ≤ k ↔ c.natAbs < 10 ^ k :=
  Nat.length_toDigits_le_iff (by decide) hk

/-- A coefficient of at most 80 digits makes a decimal. -/
theorem create_of_lt {c : ℤ} (s : ℕ) (h : c.natAbs < 10 ^ 80) : ∃ x, create c s = .ok x := by
  have hlt : (normalize c s).1.natAbs < 10 ^ 80 := (natAbs_normalize_le c s).trans_lt h
  refine ⟨_, dif_pos ((digitCount_le_iff (by decide)).mpr hlt)⟩

/-- A coefficient without trailing zeros is kept. -/
theorem create_of_normal {c : ℤ} {s : ℕ} (hnormal : 0 < s → c.tmod 10 ≠ 0) (hbound : digitCount c ≤ 80) :
    create c s = .ok ⟨c, s, hnormal, hbound⟩ := by
  have hnormalize := normalize_of_normal hnormal
  have hcount : digitCount (normalize c s).1 ≤ 80 := by rwa [hnormalize]
  rw [create, dif_pos hcount]
  congr 2
  · rw [hnormalize]
  · rw [hnormalize]

/-- The difference is created from the coefficients at the larger scale. -/
theorem subtract_eq (x y : ExactDecimal) :
    subtract x y = create (x.coefficient * 10 ^ (max x.scale y.scale - x.scale) +
      -y.coefficient * 10 ^ (max x.scale y.scale - y.scale)) (max x.scale y.scale) := by
  have hnormal : 0 < y.scale → (-y.coefficient).tmod 10 ≠ 0 := by
    intro hpos
    rw [Int.neg_tmod, ne_eq, neg_eq_zero]
    exact y.normal hpos
  have hbound : digitCount (-y.coefficient) ≤ 80 := by
    rw [digitCount, Int.natAbs_neg]
    exact y.bounded
  rw [subtract, create_of_normal hnormal hbound]
  rfl

theorem create_ok {c : ℤ} {s : ℕ} {x : ExactDecimal} (h : create c s = .ok x) : x.toRat = valueAt c s := by
  unfold create at h
  split_ifs at h
  rw [← Except.ok.inj h]
  exact valueAt_normalize c s

theorem valueAt_scale (c : ℤ) {s t : ℕ} (h : s ≤ t) : valueAt (c * 10 ^ (t - s)) t = valueAt c s := by
  unfold valueAt
  have hpow : (10 : ℚ) ^ t = 10 ^ (t - s) * 10 ^ s := by rw [← pow_add, Nat.sub_add_cancel h]
  rw [hpow]
  push_cast
  field_simp

theorem valueAt_add (c d : ℤ) (s : ℕ) : valueAt (c + d) s = valueAt c s + valueAt d s := by
  unfold valueAt
  push_cast
  ring

theorem add_ok {x y z : ExactDecimal} (h : add x y = .ok z) : z.toRat = x.toRat + y.toRat := by
  rw [create_ok h, valueAt_add, valueAt_scale _ (le_max_left _ _), valueAt_scale _ (le_max_right _ _)]
  rfl

theorem subtract_ok {x y z : ExactDecimal} (h : subtract x y = .ok z) : z.toRat = x.toRat - y.toRat := by
  simp only [subtract, bind_eq_ok] at h
  obtain ⟨w, hw, hz⟩ := h
  have hneg : w.toRat = -y.toRat := by
    rw [create_ok hw]
    unfold toRat valueAt
    push_cast
    ring
  rw [add_ok hz, hneg]
  ring

/-- The sign of the coefficient is the sign of the value. -/
theorem coefficient_pos_iff (x : ExactDecimal) : 0 < x.coefficient ↔ 0 < x.toRat := by
  unfold toRat valueAt
  rw [div_pos_iff_of_pos_right (by positivity)]
  exact_mod_cast Iff.rfl

theorem coefficient_neg_iff (x : ExactDecimal) : x.coefficient < 0 ↔ x.toRat < 0 := by
  unfold toRat valueAt
  rw [div_neg_iff]
  have hpos : (0 : ℚ) < 10 ^ x.scale := by positivity
  constructor
  · intro h
    exact .inr ⟨by exact_mod_cast h, hpos⟩
  · rintro (⟨_, h⟩ | ⟨h, _⟩)
    · exact absurd h (not_lt.mpr hpos.le)
    · exact_mod_cast h

/-- **Comparing two decimals compares their values.** -/
theorem compare_ok {x y : ExactDecimal} {c : ℤ} (h : compare x y = .ok c) :
    (0 ≤ c ↔ y.toRat ≤ x.toRat) ∧ (0 < c ↔ y.toRat < x.toRat) := by
  simp only [compare, bind_eq_ok, pure_eq_ok] at h
  obtain ⟨d, hd, rfl⟩ := h
  have hvalue := subtract_ok hd
  have hneg := coefficient_neg_iff d
  have hpos := coefficient_pos_iff d
  rw [hvalue, sub_neg] at hneg
  rw [hvalue, sub_pos] at hpos
  split_ifs with h1 h2
  · have hlt := hneg.mp h1
    exact ⟨iff_of_false (by norm_num) (not_le.mpr hlt), iff_of_false (by norm_num) (not_lt.mpr hlt.le)⟩
  · have hlt := hpos.mp h2
    exact ⟨iff_of_true (by norm_num) hlt.le, iff_of_true (by norm_num) hlt⟩
  · have hle : y.toRat ≤ x.toRat := not_lt.mp fun hlt => h1 (hneg.mpr hlt)
    exact ⟨iff_of_true le_rfl hle, iff_of_false (lt_irrefl 0) fun hlt => h2 (hpos.mpr hlt)⟩

end ExactDecimal
end Decision
end Evllm
