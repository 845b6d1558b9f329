/-
# Canonical decimals

The schemas and the arithmetic each have a reader of decimal strings. Both
test the same pattern, whose strings are the numerals (`Numeral`,
`decimalPattern_iff`): a sign, an integer part without leading zeros, a
fraction without trailing zeros, and no negative zero. The schema counts every
digit and the arithmetic those after the leading zeros; the schema compares
two strings by their parts and the arithmetic by subtracting. The language is
one, and so is the order.

Key definitions: `canonicalDecimal`, `compareCanonicalDecimals`, `Numeral`,
`denoted`.
Key theorems: `decimalPattern_iff`, `parse_chars`, `one_decimal_language`.
-/
import Evllm.Decision.Decimal
import Evllm.Lib.Digits

namespace Evllm
namespace Decision

open Lib ExactDecimal

/-! ### The schema -/

/-- The schema `canonicalDecimal`: the pattern and the two limits. -/
def canonicalDecimal (value : String) : Bool :=
  let digits := value.toList.filter fun c => c ≠ '-' ∧ c ≠ '.'
  let fraction := (value.toList.splitOn '.')[1]?.getD []
  decimalPattern value.toList && !(38 < digits.length || 18 < fraction.length)

/-- `BigInt` of an integer with its sign. -/
def bigInt (integer : List Char) : ℤ :=
  if integer.head? = some '-' then -(natOfDigits integer.tail : ℤ) else natOfDigits integer

/-- `normalize` of `compareCanonicalDecimals`. -/
def scaledValue (scale : ℕ) (integer fraction : List Char) : ℤ :=
  bigInt integer * 10 ^ scale +
    natOfDigits (fraction ++ List.replicate (scale - fraction.length) '0') *
      if integer.head? = some '-' then -1 else 1

def compareCanonicalDecimals (left right : String) : ℤ :=
  let leftInteger := (left.toList.splitOn '.')[0]?.getD ['0']
  let leftFraction := (left.toList.splitOn '.')[1]?.getD []
  let rightInteger := (right.toList.splitOn '.')[0]?.getD ['0']
  let rightFraction := (right.toList.splitOn '.')[1]?.getD []
  let scale := max leftFraction.length rightFraction.length
  let leftValue := scaledValue scale leftInteger leftFraction
  let rightValue := scaledValue scale rightInteger rightFraction
  if leftValue < rightValue then -1 else if rightValue < leftValue then 1 else 0

/-! ### Numerals -/

/-- The parts of a decimal string. -/
structure Numeral where
  negative : Bool
  integer : List Char
  fraction : List Char
  integerDigits : ∀ c ∈ integer, c.isDigit = true
  fractionDigits : ∀ c ∈ fraction, c.isDigit = true
  leading : integer = ['0'] ∨ ∃ c rest, integer = c :: rest ∧ c ≠ '0'
  trailing : fraction.getLast? ≠ some '0'
  unsignedZero : integer = ['0'] → fraction = [] → negative = false

namespace Numeral

variable (n : Numeral)

def sign : ℤ := if n.negative then -1 else 1

def signChars : List Char := if n.negative then ['-'] else []

def tailChars : List Char := if n.fraction = [] then [] else '.' :: n.fraction

def chars : List Char := n.signChars ++ (n.integer ++ n.tailChars)

/-- All the digits, with the leading zero of a proper fraction. -/
def digits : List Char := n.integer ++ n.fraction

theorem isDigit_of_mem {c : Char} (h : c ∈ n.digits) : c.isDigit = true := by
  rcases List.mem_append.mp h with h | h
  · exact n.integerDigits c h
  · exact n.fractionDigits c h

theorem integer_ne_nil : n.integer ≠ [] := by
  obtain h | ⟨c, rest, h, -⟩ := n.leading <;> simp [h]

theorem ne_dot {c : Char} (h : c.isDigit = true) : c ≠ '.' := by
  rintro rfl
  exact absurd h (by decide)

theorem ne_minus {c : Char} (h : c.isDigit = true) : c ≠ '-' := by
  rintro rfl
  exact absurd h (by decide)

theorem head_integer : n.integer.head? ≠ some '-' := by
  intro h
  exact ne_minus (n.integerDigits '-' (List.mem_of_head? h)) rfl

theorem head_chars : n.chars.head? = some '-' ↔ n.negative = true := by
  cases h : n.negative <;> simp [chars, signChars, h, n.head_integer, n.integer_ne_nil]

/-- What `parse` has after the sign. -/
theorem unsigned_chars :
    (if n.chars.head? = some '-' then n.chars.tail else n.chars) = n.integer ++ n.tailChars := by
  simp only [head_chars]
  cases h : n.negative <;> simp [chars, signChars, h]

theorem takeWhile_unsigned : (n.integer ++ n.tailChars).takeWhile (· ≠ '.') = n.integer := by
  rw [List.takeWhile_append_of_pos fun c hc => by simpa using ne_dot (n.integerDigits c hc)]
  unfold tailChars
  split_ifs <;> simp

theorem dropWhile_unsigned : ((n.integer ++ n.tailChars).dropWhile (· ≠ '.')).tail = n.fraction := by
  rw [List.dropWhile_append_of_pos fun c hc => by simpa using ne_dot (n.integerDigits c hc)]
  unfold tailChars
  split_ifs with h <;> simp [h]

theorem dot_notMem_integer : '.' ∉ n.signChars ++ n.integer := by
  intro h
  rcases List.mem_append.mp h with h | h
  · unfold signChars at h
    split_ifs at h <;> simp at h
  · exact ne_dot (n.integerDigits _ h) rfl

theorem dot_notMem_fraction : '.' ∉ n.fraction := fun h => ne_dot (n.fractionDigits _ h) rfl

/-- `split(".")`. -/
theorem splitOn_chars :
    n.chars.splitOn '.' = (n.signChars ++ n.integer) :: if n.fraction = [] then [] else [n.fraction] := by
  unfold chars tailChars
  rw [← List.append_assoc]
  split_ifs with h
  · rw [List.append_nil, List.splitOn_eq_singleton n.dot_notMem_integer]
  · rw [List.splitOn_append_cons_self_of_not_mem n.dot_notMem_integer,
      List.splitOn_eq_singleton n.dot_notMem_fraction]

theorem splitOn_integer : (n.chars.splitOn '.')[0]?.getD ['0'] = n.signChars ++ n.integer := by
  simp [splitOn_chars]

theorem splitOn_fraction : (n.chars.splitOn '.')[1]?.getD [] = n.fraction := by
  rw [splitOn_chars]
  split_ifs with h <;> simp [h]

/-- The digits that the schema counts. -/
theorem filter_chars : n.chars.filter (fun c => c ≠ '-' ∧ c ≠ '.') = n.digits := by
  have hself : ∀ l : List Char, (∀ c ∈ l, c.isDigit = true) → l.filter (fun c => c ≠ '-' ∧ c ≠ '.') = l := by
    intro l hl
    refine List.filter_eq_self.mpr fun c hc => ?_
    simpa using ⟨ne_minus (hl c hc), ne_dot (hl c hc)⟩
  have hsign : n.signChars.filter (fun c => c ≠ '-' ∧ c ≠ '.') = [] := by
    unfold signChars
    split_ifs <;> simp
  have htail : n.tailChars.filter (fun c => c ≠ '-' ∧ c ≠ '.') = n.fraction := by
    unfold tailChars
    split_ifs with h
    · simp [h]
    · rw [List.filter_cons_of_neg (by simp), hself _ n.fractionDigits]
  rw [chars, List.filter_append, List.filter_append, hsign, hself _ n.integerDigits, htail]
  rfl

end Numeral

/-! ### The pattern -/

theorem fractionPattern_iff {l : List Char} :
    fractionPattern l = true ↔
      ∃ digits, l = '.' :: digits ∧ digits ≠ [] ∧ (∀ c ∈ digits, c.isDigit = true) ∧ digits.getLast? ≠ some '0' := by
  constructor
  · intro h
    unfold fractionPattern at h
    split at h
    · next digits =>
      simp only [Bool.and_eq_true, List.all_eq_true, Option.any_eq_true, decide_eq_true_eq] at h
      obtain ⟨hdigits, c, hc, hne⟩ := h
      refine ⟨digits, rfl, ?_, hdigits, ?_⟩
      · rintro rfl
        cases hc
      · rw [hc]
        exact fun heq => hne (Option.some.inj heq)
    · cases h
  · rintro ⟨digits, rfl, hne, hdigits, hlast⟩
    have hsome : digits.getLast? = some (digits.getLast hne) := List.getLast?_eq_some_getLast hne
    rw [hsome] at hlast
    simp only [fractionPattern, Bool.and_eq_true, List.all_eq_true, hsome, Option.any_some, decide_eq_true_eq]
    exact ⟨hdigits, fun heq => hlast (congrArg some heq)⟩

/-- The tail of a numeral is empty or matches the pattern of a fraction. -/
theorem Numeral.tailChars_pattern (n : Numeral) (h : n.fraction ≠ []) : fractionPattern n.tailChars = true := by
  rw [Numeral.tailChars, if_neg h]
  exact fractionPattern_iff.mpr ⟨n.fraction, rfl, h, n.fractionDigits, n.trailing⟩

/-- The unsigned part that `decimalPattern` accepts. -/
def unsignedPattern : List Char → Bool
  | '0' :: rest => fractionPattern rest
  | c :: rest => c.isDigit && ((rest.dropWhile Char.isDigit).isEmpty || fractionPattern (rest.dropWhile Char.isDigit))
  | [] => false

theorem decimalPattern_eq (l : List Char) :
    decimalPattern l = (l = ['0'] || unsignedPattern (if l.head? = some '-' then l.tail else l)) := rfl

theorem unsignedPattern_cons {c : Char} (h : c ≠ '0') (rest : List Char) :
    unsignedPattern (c :: rest) =
      (c.isDigit && ((rest.dropWhile Char.isDigit).isEmpty || fractionPattern (rest.dropWhile Char.isDigit))) := by
  unfold unsignedPattern
  split
  · next heq => exact absurd (List.cons.inj heq).1 h
  · next heq =>
    obtain ⟨rfl, rfl⟩ := List.cons.inj heq
    rfl
  · next heq => cases heq

/-- What follows the digits of a numeral is no digit. -/
theorem Numeral.dropWhile_tailChars (n : Numeral) : n.tailChars.dropWhile Char.isDigit = n.tailChars := by
  unfold Numeral.tailChars
  split_ifs
  · rfl
  · exact List.dropWhile_cons_of_neg (by decide)

theorem Numeral.pattern_chars (n : Numeral) : decimalPattern n.chars = true := by
  rw [decimalPattern_eq, n.unsigned_chars, Bool.or_eq_true, decide_eq_true_eq]
  by_cases hfraction : n.fraction = []
  · obtain hzero | ⟨c, rest, hc, hne⟩ := n.leading
    · have hsign := n.unsignedZero hzero hfraction
      exact .inl (by simp [Numeral.chars, Numeral.signChars, Numeral.tailChars, hsign, hzero, hfraction])
    · right
      have hdigit : c.isDigit = true := n.integerDigits c (by simp [hc])
      have hrest : ∀ d ∈ rest, d.isDigit = true := fun d hd => n.integerDigits d (by simp [hc, hd])
      have hempty : rest.dropWhile Char.isDigit = [] := List.dropWhile_eq_nil_iff.mpr hrest
      rw [Numeral.tailChars, if_pos hfraction, List.append_nil, hc, unsignedPattern_cons hne, hdigit, hempty]
      rfl
  · right
    have hpattern := n.tailChars_pattern hfraction
    obtain hzero | ⟨c, rest, hc, hne⟩ := n.leading
    · rw [hzero]
      exact hpattern
    · have hdigit : c.isDigit = true := n.integerDigits c (by simp [hc])
      have hrest : ∀ d ∈ rest, d.isDigit = true := fun d hd => n.integerDigits d (by simp [hc, hd])
      rw [hc, List.cons_append, unsignedPattern_cons hne, List.dropWhile_append_of_pos hrest,
        n.dropWhile_tailChars, hdigit, hpattern, Bool.or_true]
      rfl

/-- An unsigned string of the pattern is a numeral of either sign. -/
theorem exists_numeral_of_unsigned {l : List Char} (h : unsignedPattern l = true) (negative : Bool) :
    ∃ n : Numeral, n.negative = negative ∧ n.integer ++ n.tailChars = l := by
  unfold unsignedPattern at h
  split at h
  · next rest =>
    obtain ⟨digits, rfl, hne, hdigits, hlast⟩ := fractionPattern_iff.mp h
    refine ⟨⟨negative, ['0'], digits, by simp, hdigits, .inl rfl, hlast, fun _ heq => absurd heq hne⟩, rfl, ?_⟩
    simp [Numeral.tailChars, hne]
  · next c rest hzero =>
    simp only [Bool.and_eq_true, Bool.or_eq_true, List.isEmpty_iff] at h
    obtain ⟨hc, hrest⟩ := h
    have hne : c ≠ '0' := fun heq => hzero heq
    have hsplit : rest.takeWhile Char.isDigit ++ rest.dropWhile Char.isDigit = rest :=
      List.takeWhile_append_dropWhile
    have hinteger : ∀ d ∈ c :: rest.takeWhile Char.isDigit, d.isDigit = true := by
      intro d hd
      obtain rfl | hd := List.mem_cons.mp hd
      · exact hc
      · exact List.mem_takeWhile_imp hd
    have hleading : c :: rest.takeWhile Char.isDigit ≠ ['0'] := fun heq => hne (List.cons.inj heq).1
    obtain hnil | hpattern := hrest
    · refine ⟨⟨negative, c :: rest.takeWhile Char.isDigit, [], hinteger, by simp, .inr ⟨c, _, rfl, hne⟩, by simp,
        fun heq => absurd heq hleading⟩, rfl, ?_⟩
      simp only [Numeral.tailChars, if_pos, List.append_nil]
      rw [hnil, List.append_nil] at hsplit
      rw [hsplit]
    · obtain ⟨digits, heq, hdigitsne, hdigits, hlast⟩ := fractionPattern_iff.mp hpattern
      refine ⟨⟨negative, c :: rest.takeWhile Char.isDigit, digits, hinteger, hdigits, .inr ⟨c, _, rfl, hne⟩, hlast,
        fun heq => absurd heq hleading⟩, rfl, ?_⟩
      rw [heq] at hsplit
      simp [Numeral.tailChars, hdigitsne, hsplit]
  · cases h

/-- **The pattern accepts the numerals.** -/
theorem decimalPattern_iff {l : List Char} : decimalPattern l = true ↔ ∃ n : Numeral, n.chars = l := by
  constructor
  · intro h
    rw [decimalPattern_eq, Bool.or_eq_true, decide_eq_true_eq] at h
    obtain rfl | h := h
    · exact ⟨⟨false, ['0'], [], by simp, by simp, .inl rfl, by simp, fun _ _ => rfl⟩, rfl⟩
    · split_ifs at h with hminus
      · obtain ⟨n, hsign, hn⟩ := exists_numeral_of_unsigned h true
        refine ⟨n, ?_⟩
        obtain ⟨rest, rfl⟩ := List.head?_eq_some_iff.mp hminus
        simp [Numeral.chars, Numeral.signChars, hsign, hn]
      · obtain ⟨n, hsign, hn⟩ := exists_numeral_of_unsigned h false
        exact ⟨n, by simp [Numeral.chars, Numeral.signChars, hsign, hn]⟩
  · rintro ⟨n, rfl⟩
    exact n.pattern_chars

/-! ### Reading a numeral -/

namespace Numeral

variable (n : Numeral)

def coefficient : ℤ := digitsValue n.digits * n.sign

/-- The limits of `parse`. -/
def Fits : Prop := (n.digits.dropWhile (· = '0')).length ≤ 38 ∧ n.fraction.length ≤ 18

/-- Only the zero of a proper fraction leads. -/
theorem dropWhile_digits :
    (n.integer = ['0'] ∧ n.digits.dropWhile (· = '0') = n.fraction.dropWhile (· = '0')) ∨
      (n.integer ≠ ['0'] ∧ n.digits.dropWhile (· = '0') = n.digits) := by
  obtain h | ⟨c, rest, h, hne⟩ := n.leading
  · exact .inl ⟨h, by simp [digits, h]⟩
  · refine .inr ⟨?_, by simp [digits, h, hne]⟩
    rw [h]
    exact fun heq => hne (List.cons.inj heq).1

/-- **Counting the leading zero makes no difference**: the fraction is short. -/
theorem fits_iff : n.Fits ↔ n.digits.length ≤ 38 ∧ n.fraction.length ≤ 18 := by
  unfold Fits
  obtain ⟨hzero, hdrop⟩ | ⟨-, hdrop⟩ := n.dropWhile_digits
  · have hlength : n.digits.length = n.fraction.length + 1 := by simp [digits, hzero]
    have hle : (n.fraction.dropWhile (· = '0')).length ≤ n.fraction.length := (List.dropWhile_sublist _).length_le
    rw [hdrop]
    omega
  · rw [hdrop]

theorem sign_eq : n.sign = 1 ∨ n.sign = -1 := by
  unfold sign
  split_ifs <;> simp

theorem natAbs_coefficient : n.coefficient.natAbs = digitsValue n.digits := by
  rw [coefficient, Int.natAbs_mul, Int.natAbs_natCast]
  obtain h | h := n.sign_eq <;> simp [h]

/-- The last digit of a fraction is no zero, so nothing is normalized. -/
theorem coefficient_normal (h : 0 < n.fraction.length) : n.coefficient.tmod 10 ≠ 0 := by
  have hne : n.fraction ≠ [] := List.ne_nil_of_length_pos h
  have hlast : n.digits = (n.integer ++ n.fraction.dropLast) ++ [n.fraction.getLast hne] := by
    rw [List.append_assoc, List.dropLast_append_getLast hne]
    rfl
  have hmem : n.fraction.getLast hne ∈ n.fraction := List.getLast_mem hne
  have hdigit : (n.fraction.getLast hne).isDigit = true := n.fractionDigits _ hmem
  have hzero : digitValue (n.fraction.getLast hne) ≠ 0 := by
    intro heq
    refine n.trailing ?_
    rw [List.getLast?_eq_some_getLast hne, (digitValue_eq_zero hdigit).mp heq]
  have hlt := digitValue_lt hdigit
  intro hmod
  have hdvd : 10 ∣ digitsValue n.digits := by
    have := Int.natAbs_dvd_natAbs.mpr (Int.dvd_of_tmod_eq_zero hmod)
    rwa [n.natAbs_coefficient] at this
  rw [hlast, digitsValue_concat] at hdvd
  omega

variable {n}

theorem Fits.digitCount_le (h : n.Fits) : digitCount n.coefficient ≤ 38 := by
  unfold digitCount
  rw [n.natAbs_coefficient]
  by_cases hzero : digitsValue n.digits = 0
  · rw [hzero]
    decide
  · rw [toDigits_digitsValue (fun _ hc => n.isDigit_of_mem hc) hzero]
    exact h.1

theorem Fits.coefficient_lt (h : n.Fits) : n.coefficient.natAbs < 10 ^ 38 :=
  (digitCount_le_iff (by decide)).mp h.digitCount_le

/-- The decimal of a numeral within the limits. -/
def Fits.decimal (h : n.Fits) : ExactDecimal where
  coefficient := n.coefficient
  scale := n.fraction.length
  normal := n.coefficient_normal
  bounded := h.digitCount_le.trans (by decide)

variable (n)

theorem parse_chars :
    parse (String.ofList n.chars) =
      if 38 < (n.digits.dropWhile (· = '0')).length ∨ 18 < n.fraction.length then .error .overflow
      else create n.coefficient n.fraction.length := by
  unfold parse
  rw [String.toList_ofList]
  simp only [n.pattern_chars, Bool.true_eq_false, n.unsigned_chars, n.takeWhile_unsigned, n.dropWhile_unsigned]
  simp only [n.head_chars, throwIf, if_false, digits, coefficient, sign]
  split_ifs <;> rfl

variable {n}

theorem Fits.parse_chars (h : n.Fits) : parse (String.ofList n.chars) = .ok h.decimal := by
  have hlimit : ¬(38 < (n.digits.dropWhile (· = '0')).length ∨ 18 < n.fraction.length) := by
    rw [not_or, not_lt, not_lt]
    exact h
  rw [n.parse_chars, if_neg hlimit]
  exact create_of_normal n.coefficient_normal h.decimal.bounded

end Numeral

/-- **What `parse` accepts**: the numerals within its limits. -/
theorem parse_ok_iff {s : String} {x : ExactDecimal} :
    parse s = .ok x ↔ ∃ (n : Numeral) (h : n.Fits), s = String.ofList n.chars ∧ x = h.decimal := by
  constructor
  · intro h
    have hpattern : decimalPattern s.toList = true := by
      by_contra hne
      rw [Bool.not_eq_true] at hne
      simp [parse, hne, throwIf] at h
    obtain ⟨n, hn⟩ := decimalPattern_iff.mp hpattern
    have hs : s = String.ofList n.chars := by rw [hn, String.ofList_toList]
    by_cases hfits : n.Fits
    · rw [hs, hfits.parse_chars] at h
      exact ⟨n, hfits, hs, (Except.ok.inj h).symm⟩
    · have hlimit : 38 < (n.digits.dropWhile (· = '0')).length ∨ 18 < n.fraction.length := by
        rw [Numeral.Fits, not_and_or, not_le, not_le] at hfits
        exact hfits
      rw [hs, n.parse_chars, if_pos hlimit] at h
      cases h
  · rintro ⟨n, h, rfl, rfl⟩
    exact h.parse_chars

/-- **What the schema accepts** is the same. -/
theorem canonicalDecimal_iff {s : String} :
    canonicalDecimal s = true ↔ ∃ n : Numeral, n.Fits ∧ s = String.ofList n.chars := by
  constructor
  · intro h
    simp only [canonicalDecimal, Bool.and_eq_true, Bool.not_eq_true', Bool.or_eq_false_iff, decide_eq_false_iff_not,
      not_lt] at h
    obtain ⟨hpattern, hdigits, hfraction⟩ := h
    obtain ⟨n, hn⟩ := decimalPattern_iff.mp hpattern
    rw [← hn] at hdigits hfraction
    rw [n.filter_chars] at hdigits
    rw [n.splitOn_fraction] at hfraction
    exact ⟨n, n.fits_iff.mpr ⟨hdigits, hfraction⟩, by rw [hn, String.ofList_toList]⟩
  · rintro ⟨n, hfits, rfl⟩
    obtain ⟨hdigits, hfraction⟩ := n.fits_iff.mp hfits
    simp only [canonicalDecimal, String.toList_ofList, Bool.and_eq_true, Bool.not_eq_true', Bool.or_eq_false_iff,
      decide_eq_false_iff_not, not_lt]
    rw [n.filter_chars, n.splitOn_fraction]
    exact ⟨n.pattern_chars, hdigits, hfraction⟩

/-! ### Writing a numeral -/

namespace Numeral

variable {n : Numeral}

/-- Only the numeral `0` is worth nothing. -/
theorem digitsValue_digits_eq_zero (h : digitsValue n.digits = 0) :
    n.integer = ['0'] ∧ n.fraction = [] ∧ n.negative = false := by
  have hall : ∀ c ∈ n.digits, c = '0' := by
    have hnil := (digitsValue_eq_zero fun _ hc => n.isDigit_of_mem hc).mp h
    simpa using List.dropWhile_eq_nil_iff.mp hnil
  have hinteger : n.integer = ['0'] := by
    obtain hzero | ⟨c, rest, hc, hne⟩ := n.leading
    · exact hzero
    · exact absurd (hall c (by simp [digits, hc])) hne
  have hfraction : n.fraction = [] := by
    by_contra hne
    have hmem : n.fraction.getLast hne ∈ n.digits := List.mem_append_right _ (List.getLast_mem hne)
    refine n.trailing ?_
    rw [List.getLast?_eq_some_getLast hne, hall _ hmem]
  exact ⟨hinteger, hfraction, n.unsignedZero hinteger hfraction⟩

/-- Padding the magnitude gives the digits back. -/
theorem leftpad_digits (n : Numeral) :
    (n.digits.dropWhile (· = '0')).leftpad (n.fraction.length + 1) '0' = n.digits := by
  obtain ⟨hzero, -⟩ | ⟨-, hdrop⟩ := n.dropWhile_digits
  · have hlength : n.digits.length = n.fraction.length + 1 := by simp [digits, hzero]
    rw [← hlength]
    exact leftpad_dropWhile n.digits
  · have hpos : 0 < n.integer.length := List.length_pos_iff.mpr n.integer_ne_nil
    have hlength : n.digits.length = n.integer.length + n.fraction.length := List.length_append
    have hpad : n.fraction.length + 1 - n.digits.length = 0 := by omega
    rw [hdrop, List.leftpad, hpad]
    rfl

theorem rdropWhile_fraction (n : Numeral) : n.fraction.rdropWhile (· = '0') = n.fraction := by
  rw [List.rdropWhile_eq_self_iff]
  intro hne heq
  refine n.trailing ?_
  rw [List.getLast?_eq_some_getLast hne]
  exact congrArg some (of_decide_eq_true heq)

theorem coefficient_neg_iff (h : digitsValue n.digits ≠ 0) : n.coefficient < 0 ↔ n.negative = true := by
  have hpos : (0 : ℤ) < digitsValue n.digits := by exact_mod_cast Nat.pos_of_ne_zero h
  unfold coefficient sign
  split_ifs with hsign
  · exact iff_of_true (by omega) hsign
  · exact iff_of_false (by omega) hsign

/-- **A decimal is written as the numeral of its coefficient and scale.** -/
theorem toCanonical_chars {x : ExactDecimal} (hcoefficient : x.coefficient = n.coefficient)
    (hscale : x.scale = n.fraction.length) : x.toCanonical = String.ofList n.chars := by
  unfold ExactDecimal.toCanonical
  rw [hcoefficient, hscale, n.natAbs_coefficient]
  by_cases hzero : digitsValue n.digits = 0
  · obtain ⟨hinteger, hfraction, hsign⟩ := digitsValue_digits_eq_zero hzero
    have hnil : n.coefficient = 0 := by rw [coefficient, hzero, Nat.cast_zero, Int.zero_mul]
    rw [if_pos hnil]
    simp [chars, signChars, tailChars, hinteger, hfraction, hsign]
  · have hne : n.coefficient ≠ 0 := by
      rw [← Int.natAbs_ne_zero, n.natAbs_coefficient]
      exact hzero
    have hinteger : n.digits.length - n.fraction.length = n.integer.length := by simp [digits]
    rw [if_neg hne, toDigits_digitsValue (fun _ hc => n.isDigit_of_mem hc) hzero]
    simp only [n.leftpad_digits, hinteger]
    simp only [digits, List.take_left, List.drop_left, n.rdropWhile_fraction, coefficient_neg_iff hzero,
      List.isEmpty_iff, chars, signChars, tailChars, List.append_assoc]

/-- A numeral is written as it was read. -/
theorem Fits.toCanonical (h : n.Fits) : h.decimal.toCanonical = String.ofList n.chars := toCanonical_chars rfl rfl

end Numeral

/-! ### Comparing -/

/-- The rational number that a decimal string denotes. -/
def denoted (value : String) : ℚ :=
  let negative := value.toList.head? = some '-'
  let unsigned := if negative then value.toList.tail else value.toList
  let integer := unsigned.takeWhile (· ≠ '.')
  let fraction := (unsigned.dropWhile (· ≠ '.')).tail
  (if negative then -1 else 1) * (digitsValue integer + digitsValue fraction / 10 ^ fraction.length)

namespace Numeral

variable (n : Numeral)

theorem denoted_chars :
    denoted (String.ofList n.chars) =
      n.sign * (digitsValue n.integer + digitsValue n.fraction / 10 ^ n.fraction.length) := by
  unfold denoted
  rw [String.toList_ofList]
  simp only [n.unsigned_chars, n.takeWhile_unsigned, n.dropWhile_unsigned]
  simp only [n.head_chars, sign]
  split_ifs <;> simp

theorem denoted_eq_valueAt : denoted (String.ofList n.chars) = valueAt n.coefficient n.fraction.length := by
  have hpos : (10 : ℚ) ^ n.fraction.length ≠ 0 := by positivity
  rw [n.denoted_chars, valueAt, coefficient, digits, digitsValue_append]
  push_cast
  field_simp

/-- The schema's scaled value is the denoted one at the scale. -/
theorem scaledValue_chars {scale : ℕ} (h : n.fraction.length ≤ scale) :
    (scaledValue scale (n.signChars ++ n.integer) n.fraction : ℚ) =
      denoted (String.ofList n.chars) * 10 ^ scale := by
  have hsign : (n.signChars ++ n.integer).head? = some '-' ↔ n.negative = true := by
    cases hneg : n.negative <;> simp [signChars, hneg, n.head_integer]
  have hinteger : bigInt (n.signChars ++ n.integer) = n.sign * digitsValue n.integer := by
    unfold bigInt
    simp only [hsign]
    unfold sign
    split_ifs with hneg
    · rw [signChars, if_pos hneg, List.singleton_append, List.tail_cons, Int.neg_one_mul]
      rfl
    · rw [signChars, if_neg hneg, List.nil_append, Int.one_mul]
      rfl
  have hfraction : natOfDigits (n.fraction ++ List.replicate (scale - n.fraction.length) '0') =
      10 ^ (scale - n.fraction.length) * digitsValue n.fraction := by
    have hvalue := digitsValue_append n.fraction (List.replicate (scale - n.fraction.length) '0')
    rw [digitsValue_replicate_zero, List.length_replicate, Nat.add_zero] at hvalue
    exact hvalue
  have hpow : (10 : ℚ) ^ scale = 10 ^ (scale - n.fraction.length) * 10 ^ n.fraction.length := by
    rw [← pow_add, Nat.sub_add_cancel h]
  have hpos : (10 : ℚ) ^ n.fraction.length ≠ 0 := by positivity
  unfold scaledValue
  simp only [hsign]
  rw [hinteger, hfraction, n.denoted_chars, hpow]
  change ((n.sign * digitsValue n.integer * 10 ^ scale +
    (10 ^ (scale - n.fraction.length) * digitsValue n.fraction : ℕ) * n.sign : ℤ) : ℚ) = _
  push_cast
  rw [hpow]
  field_simp

end Numeral

/-- A number that says how two others are ordered. -/
def Orders (c : ℤ) (x y : ℚ) : Prop :=
  (c = -1 ∧ x < y) ∨ (c = 0 ∧ x = y) ∨ (c = 1 ∧ y < x)

theorem Orders.eq {c d : ℤ} {x y : ℚ} (hc : Orders c x y) (hd : Orders d x y) : c = d := by
  obtain ⟨rfl, hc⟩ | ⟨rfl, hc⟩ | ⟨rfl, hc⟩ := hc <;> obtain ⟨rfl, hd⟩ | ⟨rfl, hd⟩ | ⟨rfl, hd⟩ := hd <;>
    first | rfl | linarith

/-- **The schema compares the denoted numbers.** -/
theorem compareCanonicalDecimals_orders (m n : Numeral) :
    Orders (compareCanonicalDecimals (String.ofList m.chars) (String.ofList n.chars))
      (denoted (String.ofList m.chars)) (denoted (String.ofList n.chars)) := by
  have hleft := m.scaledValue_chars (le_max_left m.fraction.length n.fraction.length)
  have hright := n.scaledValue_chars (le_max_right m.fraction.length n.fraction.length)
  have hpos : (0 : ℚ) < 10 ^ max m.fraction.length n.fraction.length := by positivity
  unfold compareCanonicalDecimals
  simp only [String.toList_ofList, Numeral.splitOn_integer, Numeral.splitOn_fraction]
  generalize scaledValue _ (m.signChars ++ m.integer) m.fraction = left at *
  generalize scaledValue _ (n.signChars ++ n.integer) n.fraction = right at *
  split_ifs with hlt hgt
  · refine .inl ⟨rfl, ?_⟩
    rw [← mul_lt_mul_iff_left₀ hpos, ← hleft, ← hright]
    exact_mod_cast hlt
  · refine .inr (.inr ⟨rfl, ?_⟩)
    rw [← mul_lt_mul_iff_left₀ hpos, ← hleft, ← hright]
    exact_mod_cast hgt
  · refine .inr (.inl ⟨rfl, ?_⟩)
    have heq : left = right := le_antisymm (not_lt.mp hgt) (not_lt.mp hlt)
    rw [heq, hright] at hleft
    exact (mul_right_cancel₀ hpos.ne' hleft).symm

/-- A coefficient of 38 digits raised by at most 18 places. -/
theorem Numeral.Fits.scaled_lt {n : Numeral} (h : n.Fits) {scale : ℕ} (hscale : scale ≤ 18) :
    (n.coefficient * 10 ^ (scale - n.fraction.length)).natAbs < 10 ^ 56 := by
  have hpow : 10 ^ (scale - n.fraction.length) ≤ 10 ^ 18 := Nat.pow_le_pow_right (by decide) (by omega)
  rw [Int.natAbs_mul, Int.natAbs_pow]
  calc n.coefficient.natAbs * 10 ^ (scale - n.fraction.length)
      < 10 ^ 38 * 10 ^ (scale - n.fraction.length) := Nat.mul_lt_mul_of_pos_right h.coefficient_lt (by positivity)
    _ ≤ 10 ^ 38 * 10 ^ 18 := Nat.mul_le_mul_left _ hpow
    _ = 10 ^ 56 := by norm_num

/-- **Numerals within the limits can be compared**, by the numbers they denote. -/
theorem compare_orders {m n : Numeral} (hm : m.Fits) (hn : n.Fits) :
    ∃ c, ExactDecimal.compare hm.decimal hn.decimal = .ok c ∧
      Orders c (denoted (String.ofList m.chars)) (denoted (String.ofList n.chars)) := by
  have hscale : max m.fraction.length n.fraction.length ≤ 18 := max_le hm.2 hn.2
  have hleft := hm.scaled_lt hscale
  have hright := hn.scaled_lt hscale
  obtain ⟨d, hd⟩ : ∃ d, subtract hm.decimal hn.decimal = .ok d := by
    rw [subtract_eq]
    refine create_of_lt _ ?_
    rw [Int.neg_mul, ← sub_eq_add_neg]
    calc _ ≤ _ := Int.natAbs_sub_le _ _
      _ < 10 ^ 56 + 10 ^ 56 := Nat.add_lt_add hleft hright
      _ < 10 ^ 80 := by norm_num
  have hvalue : d.toRat = denoted (String.ofList m.chars) - denoted (String.ofList n.chars) := by
    rw [subtract_ok hd, m.denoted_eq_valueAt, n.denoted_eq_valueAt]
    rfl
  have hneg := coefficient_neg_iff d
  have hpos := coefficient_pos_iff d
  rw [hvalue, sub_neg] at hneg
  rw [hvalue, sub_pos] at hpos
  refine ⟨_, by rw [ExactDecimal.compare, hd]; rfl, ?_⟩
  split_ifs with hlt hgt
  · exact .inl ⟨rfl, hneg.mp hlt⟩
  · exact .inr (.inr ⟨rfl, hpos.mp hgt⟩)
  · exact .inr (.inl ⟨rfl, le_antisymm (not_lt.mp (hgt ∘ hpos.mpr)) (not_lt.mp (hlt ∘ hneg.mpr))⟩)

/-- **One decimal language.** The schema and the arithmetic accept the same
strings, an accepted string is written as it was read, and the two comparisons
of accepted strings give the order of the numbers they denote. -/
theorem one_decimal_language :
    (∀ s, canonicalDecimal s = true ↔ ∃ x, parse s = .ok x) ∧
      (∀ s x, parse s = .ok x → x.toCanonical = s) ∧
      ∀ s t x y, parse s = .ok x → parse t = .ok y →
        ∃ c, ExactDecimal.compare x y = .ok c ∧ compareCanonicalDecimals s t = c ∧
          Orders c (denoted s) (denoted t) := by
  refine ⟨fun s => ?_, fun s x hs => ?_, fun s t x y hs ht => ?_⟩
  · rw [canonicalDecimal_iff]
    constructor
    · rintro ⟨n, hn, rfl⟩
      exact ⟨_, hn.parse_chars⟩
    · rintro ⟨x, hx⟩
      obtain ⟨n, hn, rfl, -⟩ := parse_ok_iff.mp hx
      exact ⟨n, hn, rfl⟩
  · obtain ⟨n, hn, rfl, rfl⟩ := parse_ok_iff.mp hs
    exact hn.toCanonical
  · obtain ⟨m, hm, rfl, rfl⟩ := parse_ok_iff.mp hs
    obtain ⟨n, hn, rfl, rfl⟩ := parse_ok_iff.mp ht
    obtain ⟨c, hc, horder⟩ := compare_orders hm hn
    exact ⟨c, hc, (compareCanonicalDecimals_orders m n).eq horder, horder⟩

theorem sample_decimal_language :
    ∃ x y, parse "-0.5" = .ok x ∧ parse "0.25" = .ok y ∧ x.toCanonical = "-0.5" ∧
      ∃ c, ExactDecimal.compare x y = .ok c ∧ compareCanonicalDecimals "-0.5" "0.25" = c ∧ c = -1 := by
  obtain ⟨haccept, hwrite, hcompare⟩ := one_decimal_language
  obtain ⟨x, hx⟩ := (haccept "-0.5").mp (by decide +kernel)
  obtain ⟨y, hy⟩ := (haccept "0.25").mp (by decide +kernel)
  obtain ⟨c, hc, heq, -⟩ := hcompare _ _ x y hx hy
  have hvalue : compareCanonicalDecimals "-0.5" "0.25" = -1 := by decide +kernel
  exact ⟨x, y, hx, hy, hwrite _ x hx, c, hc, heq, heq ▸ hvalue⟩

end Decision
end Evllm
