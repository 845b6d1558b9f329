/-
# The normal form of a number literal

A literal of the pattern is a sign, digits with commas, a fraction and a percent
sign (`NumberLiteral`, `exists_literal`). Its normal form is a numeral
(`normalizeNumberLiteral_chars`) that denotes the same number, and a numeral is
determined by its number, so that the normal forms of two literals are equal
just if the numbers are.

Key definitions: `NumberLiteral`, `literalValue`, `IsNumberLiteral`.
Key theorems: `normalizeNumberLiteral_chars`, `normalizeNumberLiteral_canonical`.
-/
import Evllm.Assistant.NumericTokens
import Evllm.Decision.CanonicalDecimal
import Evllm.Decision.Exactness

namespace Evllm
namespace Assistant

open Lib Regex Decision

/-! ### Numerals -/

/-- A numeral is determined by the number that it denotes. -/
theorem numeral_chars_inj {m n : Numeral} (h : denoted (String.ofList m.chars) = denoted (String.ofList n.chars)) :
    m.chars = n.chars := by
  rw [m.denoted_eq_valueAt, n.denoted_eq_valueAt] at h
  obtain ⟨hcoefficient, hlength⟩ := ExactDecimal.Normalised.unique
    ⟨h, m.coefficient_normal⟩ ⟨rfl, n.coefficient_normal⟩
  have hvalue : digitsValue m.digits = digitsValue n.digits := by
    rw [← m.natAbs_coefficient, ← n.natAbs_coefficient, hcoefficient]
  by_cases hzero : digitsValue m.digits = 0
  · obtain ⟨hinteger, hfraction, hsign⟩ := Numeral.digitsValue_digits_eq_zero hzero
    obtain ⟨hinteger', hfraction', hsign'⟩ := Numeral.digitsValue_digits_eq_zero (hvalue ▸ hzero)
    simp [Numeral.chars, Numeral.signChars, Numeral.tailChars, *]
  · have hzero' : digitsValue n.digits ≠ 0 := hvalue ▸ hzero
    have hdigits : m.digits = n.digits := by
      rw [← m.leftpad_digits, ← n.leftpad_digits, ← toDigits_digitsValue (fun _ => m.isDigit_of_mem) hzero,
        ← toDigits_digitsValue (fun _ => n.isDigit_of_mem) hzero', hvalue, hlength]
    obtain ⟨hinteger, hfraction⟩ := List.append_inj' hdigits hlength
    have hsign : m.negative = n.negative := by
      rw [Bool.eq_iff_iff, ← Numeral.coefficient_neg_iff hzero, ← Numeral.coefficient_neg_iff hzero', hcoefficient]
    simp [Numeral.chars, Numeral.signChars, Numeral.tailChars, *]

/-- The magnitude `0`. -/
theorem magnitude_eq_zero (n : Numeral) : n.integer ++ n.tailChars = ['0'] ↔ n.integer = ['0'] ∧ n.fraction = [] := by
  unfold Numeral.tailChars
  split_ifs with h
  · simp [h]
  · simp only [h, and_false, iff_false]
    intro heq
    have hmem : '.' ∈ ['0'] := heq ▸ List.mem_append_right _ List.mem_cons_self
    exact absurd hmem (by decide)

/-! ### Leading and trailing zeros -/

theorem withoutLeadingZeros_mem : ∀ {value : List Char}, ∀ c ∈ withoutLeadingZeros value, c ∈ value
  | [], c, h => h
  | [d], c, h => by
    unfold withoutLeadingZeros at h
    split at h
    next heq => cases heq
    · exact h
  | d :: e :: rest, c, h => by
    unfold withoutLeadingZeros at h
    split at h
    next heq =>
      cases heq
      split_ifs at h
      · exact List.mem_cons_of_mem _ (withoutLeadingZeros_mem c h)
      · exact h
    · exact h

/-- Zeros go from the left while a digit follows. -/
theorem withoutLeadingZeros_cons (c : Char) (rest : List Char) :
    withoutLeadingZeros ('0' :: c :: rest) =
      if c.isDigit then withoutLeadingZeros (c :: rest) else '0' :: c :: rest := rfl

theorem withoutLeadingZeros_of_ne {c : Char} (h : c ≠ '0') (rest : List Char) :
    withoutLeadingZeros (c :: rest) = c :: rest := by
  unfold withoutLeadingZeros
  split
  next heq => exact absurd (List.cons.inj heq).1 h
  · rfl

/-- One zero stays, or none leads. -/
theorem withoutLeadingZeros_leading : ∀ {digits : List Char}, (∀ c ∈ digits, c.isDigit = true) → digits ≠ [] →
    withoutLeadingZeros digits = ['0'] ∨ ∃ c rest, withoutLeadingZeros digits = c :: rest ∧ c ≠ '0'
  | [], _, hne => absurd rfl hne
  | c :: rest, h, _ => by
    by_cases hc : c = '0'
    · subst hc
      cases rest with
      | nil => exact .inl rfl
      | cons d rest =>
        have hd : d.isDigit = true := h d (by simp)
        rw [withoutLeadingZeros_cons, if_pos hd]
        exact withoutLeadingZeros_leading (fun e he => h e (List.mem_cons_of_mem _ he)) (List.cons_ne_nil _ _)
    · exact .inr ⟨c, rest, withoutLeadingZeros_of_ne hc rest, hc⟩

theorem digitsValue_withoutLeadingZeros : ∀ {digits : List Char}, (∀ c ∈ digits, c.isDigit = true) →
    digitsValue (withoutLeadingZeros digits) = digitsValue digits
  | [], _ => rfl
  | c :: rest, h => by
    by_cases hc : c = '0'
    · subst hc
      cases rest with
      | nil => rfl
      | cons d rest =>
        have hd : d.isDigit = true := h d (by simp)
        have hrest := digitsValue_withoutLeadingZeros fun e he => h e (List.mem_cons_of_mem _ he)
        have hzero : digitsValue (['0'] ++ d :: rest) = 10 ^ (d :: rest).length * 0 + digitsValue (d :: rest) :=
          digitsValue_append ['0'] (d :: rest)
        rw [Nat.mul_zero, Nat.zero_add, List.singleton_append] at hzero
        rw [withoutLeadingZeros_cons, if_pos hd, hrest, hzero]
    · rw [withoutLeadingZeros_of_ne hc]

/-- A numeral's integer part has no zeros to lose. -/
theorem withoutLeadingZeros_integer (n : Numeral) : withoutLeadingZeros n.integer = n.integer := by
  obtain h | ⟨c, rest, h, hne⟩ := n.leading
  · rw [h]
    rfl
  · rw [h, withoutLeadingZeros_of_ne hne]

theorem rdropWhile_trailing (fraction : List Char) : (fraction.rdropWhile (· = '0')).getLast? ≠ some '0' := by
  intro h
  have hne : fraction.rdropWhile (· = '0') ≠ [] := by
    intro hnil
    rw [hnil] at h
    cases h
  rw [List.getLast?_eq_some_getLast hne] at h
  exact List.rdropWhile_last_not (· = '0') fraction hne (by simpa using Option.some.inj h)

/-- Zeros at the end of a fraction are worth nothing. -/
theorem fractionValue_rdropWhile (fraction : List Char) :
    (digitsValue (fraction.rdropWhile (· = '0')) : ℚ) / 10 ^ (fraction.rdropWhile (· = '0')).length =
      digitsValue fraction / 10 ^ fraction.length := by
  induction fraction using List.reverseRecOn with
  | nil => rfl
  | append_singleton fraction c ih =>
    by_cases hc : c = '0'
    · subst hc
      have hpow : (10 : ℚ) ^ fraction.length ≠ 0 := by positivity
      have hzero : digitValue '0' = 0 := rfl
      rw [List.rdropWhile_concat_pos _ _ _ (by simp), ih, digitsValue_concat, hzero, List.length_append,
        List.length_singleton, pow_succ]
      push_cast
      field_simp
      ring
    · rw [List.rdropWhile_concat_neg _ _ _ (by simpa using hc)]

/-! ### Literals -/

/-- The parts of a literal. The integer part has the commas of its groups. -/
structure NumberLiteral where
  sign : List Char
  integer : List Char
  fraction : List Char
  percent : Bool
  signs : sign ∈ [[], ['-'], ['+']]
  integerChars : ∀ c ∈ integer, c.isDigit = true ∨ c = ','
  hasDigit : ∃ c ∈ integer, c.isDigit = true
  fractionDigits : ∀ c ∈ fraction, c.isDigit = true

/-- The fraction with its point. -/
def fractionChars (fraction : List Char) : List Char := if fraction = [] then [] else '.' :: fraction

namespace NumberLiteral

variable (l : NumberLiteral)

def chars : List Char :=
  l.sign ++ (l.integer ++ (fractionChars l.fraction ++ if l.percent then ['%'] else []))

/-- The digits of the integer part. -/
def digits : List Char := l.integer.filter (· ≠ ',')

theorem isDigit_digits {c : Char} (h : c ∈ l.digits) : c.isDigit = true := by
  obtain ⟨hmem, hne⟩ := List.mem_filter.mp h
  exact (l.integerChars c hmem).resolve_right (of_decide_eq_true hne)

theorem digits_ne_nil : l.digits ≠ [] := by
  obtain ⟨c, hmem, hdigit⟩ := l.hasDigit
  refine List.ne_nil_of_mem (a := c) (List.mem_filter.mpr ⟨hmem, ?_⟩)
  have hne : c ≠ ',' := by
    rintro rfl
    exact absurd hdigit (by decide)
  exact decide_eq_true hne

/-- The numeral that the literal is worth. -/
def numeral : Numeral where
  negative := decide (l.sign = ['-']) &&
    !decide (withoutLeadingZeros l.digits = ['0'] ∧ l.fraction.rdropWhile (· = '0') = [])
  integer := withoutLeadingZeros l.digits
  fraction := l.fraction.rdropWhile (· = '0')
  integerDigits := fun c hc => l.isDigit_digits (withoutLeadingZeros_mem c hc)
  fractionDigits := fun c hc => l.fractionDigits c ((List.rdropWhile_prefix _ _).subset hc)
  leading := withoutLeadingZeros_leading (fun _ => l.isDigit_digits) l.digits_ne_nil
  trailing := rdropWhile_trailing l.fraction
  unsignedZero := fun hinteger hfraction => by simp [hinteger, hfraction]

end NumberLiteral

/-! ### Matches of the pattern -/

theorem digit_of_mem {w : List Char} (h : w ∈ language (many digit)) : ∀ c ∈ w, c.isDigit = true := by
  intro c hc
  have hreads := reads_of_mem_language h c hc
  simpa [many, digit, reads] using hreads

/-- Both kinds of integer part begin with a digit. -/
theorem digit_begins {w : List Char} {r : Regex} (h : w ∈ language (seq digit r)) : ∃ c ∈ w, c.isDigit = true := by
  obtain ⟨_, ⟨c, hc, rfl⟩, v, -, rfl⟩ := mem_language_seq.mp h
  exact ⟨c, by simp, hc⟩

theorem integer_of_mem {w : List Char} (h : w ∈ language (alt groupedDigits (many digit))) :
    (∀ c ∈ w, c.isDigit = true ∨ c = ',') ∧ ∃ c ∈ w, c.isDigit = true := by
  constructor
  · intro c hc
    have hreads := reads_of_mem_language h c hc
    simp only [reads, groupedDigits, seqs, List.foldr, Regex.option, many, digit, Regex.char, Bool.or_false,
      Bool.or_eq_true, decide_eq_true_eq] at hreads
    tauto
  · obtain h | h := h
    · exact digit_begins h
    · exact digit_begins h

theorem fraction_of_mem {w : List Char} (h : w ∈ language (Regex.option (seqs [Regex.char '.', many digit]))) :
    ∃ fraction, (∀ c ∈ fraction, c.isDigit = true) ∧ fractionChars fraction = w := by
  obtain h | rfl := mem_language_option.mp h
  · obtain ⟨_, ⟨c, hc, rfl⟩, _, ⟨fraction, hfraction, _, rfl, rfl⟩, rfl⟩ := h
    obtain rfl : c = '.' := of_decide_eq_true hc
    have hne : fraction ≠ [] := by
      rintro rfl
      obtain ⟨c, hc, -⟩ := digit_begins hfraction
      cases hc
    exact ⟨fraction, digit_of_mem hfraction, by simp [fractionChars, hne]⟩
  · exact ⟨[], by simp, rfl⟩

/-- **A match of the pattern is a literal.** -/
theorem exists_literal {w : List Char} (h : w ∈ language numberPattern) : ∃ l : NumberLiteral, l.chars = w := by
  obtain ⟨_, rfl, _, ⟨sign, hsign, _, ⟨integer, hinteger, _, ⟨_, hfraction, _, ⟨percent, hpercent, _,
    ⟨_, rfl, _, rfl, rfl⟩, rfl⟩, rfl⟩, rfl⟩, rfl⟩, rfl⟩ := h
  obtain ⟨hchars, hdigit⟩ := integer_of_mem hinteger
  obtain ⟨fraction, hdigits, rfl⟩ := fraction_of_mem hfraction
  have hsigns : sign ∈ [[], ['-'], ['+']] := by
    obtain ⟨c, hc, rfl⟩ | rfl := mem_language_option.mp hsign
    · simpa using hc
    · simp
  obtain ⟨c, hc, rfl⟩ | rfl := mem_language_option.mp hpercent
  · obtain rfl : c = '%' := of_decide_eq_true hc
    exact ⟨⟨sign, integer, fraction, true, hsigns, hchars, hdigit, hdigits⟩, by simp [NumberLiteral.chars]⟩
  · exact ⟨⟨sign, integer, fraction, false, hsigns, hchars, hdigit, hdigits⟩, by simp [NumberLiteral.chars]⟩

/-! ### Normalizing -/

namespace NumberLiteral

variable (l : NumberLiteral)

def negative : Bool := l.sign = ['-']

/-- The literal without its commas, its percent sign and a plus. -/
def bare : List Char := (if l.negative then ['-'] else []) ++ (l.digits ++ fractionChars l.fraction)

/-- Commas, the percent sign and the plus are no other characters of a literal. -/
theorem plain_fraction {c : Char} (h : c ∈ fractionChars l.fraction) : c ∉ [',', '%', '+'] := by
  unfold fractionChars at h
  split_ifs at h
  · cases h
  · obtain rfl | h := List.mem_cons.mp h
    · decide
    · intro hc
      have hdigit := l.fractionDigits c h
      simp only [List.mem_cons, List.not_mem_nil, or_false] at hc
      obtain rfl | rfl | rfl := hc <;> exact absurd hdigit (by decide)

theorem plain_digits {c : Char} (h : c ∈ l.digits) : c ∉ ['.', '-', '%', '+'] := by
  intro hc
  have hdigit := l.isDigit_digits h
  simp only [List.mem_cons, List.not_mem_nil, or_false] at hc
  obtain rfl | rfl | rfl | rfl := hc <;> exact absurd hdigit (by decide)

theorem filter_commas :
    l.chars.filter (· ≠ ',') =
      l.sign ++ (l.digits ++ (fractionChars l.fraction ++ if l.percent then ['%'] else [])) := by
  have hsign : l.sign.filter (· ≠ ',') = l.sign := by
    have hsigns := l.signs
    simp only [List.mem_cons, List.not_mem_nil, or_false] at hsigns
    obtain h | h | h := hsigns <;> rw [h] <;> rfl
  have hfraction : (fractionChars l.fraction).filter (· ≠ ',') = fractionChars l.fraction := by
    refine List.filter_eq_self.mpr fun c hc => decide_eq_true ?_
    rintro rfl
    exact l.plain_fraction hc (by simp)
  have hpercent : (if l.percent then ['%'] else []).filter (· ≠ ',') = if l.percent then ['%'] else [] := by
    split_ifs <;> rfl
  rw [chars, List.filter_append, List.filter_append, List.filter_append, hsign, hfraction, hpercent]
  rfl

theorem withoutPercent_chars :
    withoutPercent (l.chars.filter (· ≠ ',')) = l.sign ++ (l.digits ++ fractionChars l.fraction) := by
  rw [filter_commas, ← List.append_assoc l.digits, ← List.append_assoc l.sign]
  unfold withoutPercent
  split_ifs with hpercent hlast hlast
  · simp
  · exact absurd (by simp) hlast
  · -- the last character of the digits or of the fraction
    rw [List.append_nil] at hlast
    have hmem : '%' ∈ l.digits ++ fractionChars l.fraction := by
      have hne : l.digits ++ fractionChars l.fraction ≠ [] := by simp [l.digits_ne_nil]
      rw [List.getLast?_append_of_ne_nil _ hne] at hlast
      exact List.mem_of_getLast? hlast
    obtain h | h := List.mem_append.mp hmem
    · exact absurd (by simp) (l.plain_digits h)
    · exact absurd (by simp) (l.plain_fraction h)
  · rw [List.append_nil]

theorem head_digits {c : Char} (hc : c ∈ ['.', '-', '%', '+']) : l.digits.head? ≠ some c :=
  fun hhead => l.plain_digits (List.mem_of_head? hhead) hc

theorem withoutPlus_chars {decorated : List Char} (h : decorated = l.sign ++ (l.digits ++ fractionChars l.fraction)) :
    (if decorated.head? = some '+' then decorated.tail else decorated) = l.bare := by
  subst h
  have hsigns := l.signs
  have hhead := l.head_digits (c := '+') (by simp)
  simp only [List.mem_cons, List.not_mem_nil, or_false] at hsigns
  obtain h | h | h := hsigns <;> simp [bare, negative, h, hhead, l.digits_ne_nil]

theorem head_bare : l.bare.head? = some '-' ↔ l.negative = true := by
  have hhead := l.head_digits (c := '-') (by simp)
  cases h : l.negative <;> simp [bare, h, hhead, l.digits_ne_nil]

/-- What is left without the minus. -/
theorem unsigned_bare :
    (if l.negative = true then l.bare.tail else l.bare) = l.digits ++ fractionChars l.fraction := by
  cases h : l.negative <;> simp [bare, h]

/-- `split(".")`. -/
theorem splitOn_unsigned :
    (l.digits ++ fractionChars l.fraction).splitOn '.' = l.digits :: if l.fraction = [] then [] else [l.fraction] := by
  have hdigits : '.' ∉ l.digits := fun h => l.plain_digits h (by simp)
  have hfraction : '.' ∉ l.fraction := fun h => absurd (l.fractionDigits '.' h) (by decide)
  unfold fractionChars
  split_ifs with h
  · rw [List.append_nil, List.splitOn_eq_singleton hdigits]
  · rw [List.splitOn_append_cons_self_of_not_mem hdigits, List.splitOn_eq_singleton hfraction]

theorem splitOn_fraction :
    (((l.digits ++ fractionChars l.fraction).splitOn '.')[1]?.map (List.rdropWhile (· = '0'))).getD [] =
      l.fraction.rdropWhile (· = '0') := by
  rw [splitOn_unsigned]
  split_ifs with h <;> simp [h]

theorem numeral_negative : l.numeral.negative = true ↔ l.negative = true ∧
    ¬(l.numeral.integer = ['0'] ∧ l.numeral.fraction = []) := by
  simp only [numeral, negative, Bool.and_eq_true, Bool.not_eq_true', decide_eq_true_eq, decide_eq_false_iff_not]

/-- **The normal form is the numeral of the literal.** -/
theorem normalizeNumberLiteral_chars : normalizeNumberLiteral (String.ofList l.chars) = String.ofList l.numeral.chars := by
  have hinteger : withoutLeadingZeros l.digits ≠ [] := l.numeral.integer_ne_nil
  unfold normalizeNumberLiteral
  simp only [String.toList_ofList, l.withoutPlus_chars l.withoutPercent_chars, l.unsigned_bare, l.head_bare,
    l.splitOn_fraction]
  simp only [l.splitOn_unsigned, List.getElem?_cons_zero, Option.getD_some, if_neg hinteger]
  have hmagnitude : (if 0 < (l.fraction.rdropWhile (· = '0')).length then
      withoutLeadingZeros l.digits ++ '.' :: l.fraction.rdropWhile (· = '0') else withoutLeadingZeros l.digits) =
      l.numeral.integer ++ l.numeral.tailChars := by
    change _ = withoutLeadingZeros l.digits ++ fractionChars (l.fraction.rdropWhile (· = '0'))
    simp only [fractionChars, List.length_pos_iff, ne_eq, ite_not]
    split_ifs with h
    · exact (List.append_nil _).symm
    · rfl
  rw [hmagnitude, Numeral.chars, Numeral.signChars]
  simp only [ne_eq, magnitude_eq_zero, ← l.numeral_negative]
  split_ifs <;> rfl

end NumberLiteral

/-! ### The number of a literal -/

/-- The rational number that a literal denotes, without regard to grouping and
to the percent sign. -/
def literalValue (literal : String) : ℚ :=
  denoted (String.ofList (literal.toList.filter (· ∉ [',', '%', '+'])))

namespace NumberLiteral

variable (l : NumberLiteral)

theorem filter_decoration : l.chars.filter (· ∉ [',', '%', '+']) = l.bare := by
  have hsign : l.sign.filter (· ∉ [',', '%', '+']) = if l.negative then ['-'] else [] := by
    have hsigns := l.signs
    simp only [List.mem_cons, List.not_mem_nil, or_false] at hsigns
    unfold negative
    obtain h | h | h := hsigns <;> rw [h] <;> rfl
  have hdigits : l.integer.filter (· ∉ [',', '%', '+']) = l.digits := by
    refine List.filter_congr fun c hc => decide_eq_decide.mpr ?_
    obtain hdigit | rfl := l.integerChars c hc
    · have hplain : ∀ d ∈ [',', '%', '+'], c ≠ d := by
        rintro d hd rfl
        simp only [List.mem_cons, List.not_mem_nil, or_false] at hd
        obtain rfl | rfl | rfl := hd <;> exact absurd hdigit (by decide)
      exact iff_of_true (fun hmem => hplain c hmem rfl) (hplain ',' (by simp))
    · simp
  have hfraction : (fractionChars l.fraction).filter (· ∉ [',', '%', '+']) = fractionChars l.fraction :=
    List.filter_eq_self.mpr fun c hc => decide_eq_true (l.plain_fraction hc)
  have hpercent : (if l.percent then ['%'] else []).filter (· ∉ [',', '%', '+']) = [] := by
    split_ifs <;> rfl
  rw [chars, List.filter_append, List.filter_append, List.filter_append, hsign, hdigits, hfraction, hpercent,
    List.append_nil]
  rfl

theorem denoted_bare :
    denoted (String.ofList l.bare) =
      (if l.negative then -1 else 1) * (digitsValue l.digits + digitsValue l.fraction / 10 ^ l.fraction.length) := by
  have hpoint : ∀ c ∈ l.digits, c ≠ '.' := by
    rintro c hc rfl
    exact l.plain_digits hc (by simp)
  have hwhole : (l.digits ++ fractionChars l.fraction).takeWhile (· ≠ '.') = l.digits := by
    rw [List.takeWhile_append_of_pos fun c hc => by simpa using hpoint c hc]
    unfold fractionChars
    split_ifs <;> simp
  have hfraction : ((l.digits ++ fractionChars l.fraction).dropWhile (· ≠ '.')).tail = l.fraction := by
    rw [List.dropWhile_append_of_pos fun c hc => by simpa using hpoint c hc]
    unfold fractionChars
    split_ifs with h <;> simp [h]
  unfold denoted
  simp only [String.toList_ofList, l.head_bare, l.unsigned_bare, hwhole, hfraction]

/-- **A literal and its numeral denote the same number.** -/
theorem literalValue_chars : literalValue (String.ofList l.chars) = denoted (String.ofList l.numeral.chars) := by
  have hwhole : digitsValue l.numeral.integer = digitsValue l.digits :=
    digitsValue_withoutLeadingZeros fun _ => l.isDigit_digits
  have hfraction : (digitsValue l.numeral.fraction : ℚ) / 10 ^ l.numeral.fraction.length =
      digitsValue l.fraction / 10 ^ l.fraction.length := fractionValue_rdropWhile l.fraction
  rw [literalValue, String.toList_ofList, l.filter_decoration, l.denoted_bare, l.numeral.denoted_chars, ← hfraction,
    ← hwhole, Numeral.sign]
  by_cases hzero : l.numeral.integer = ['0'] ∧ l.numeral.fraction = []
  · have hnone : digitsValue ['0'] = 0 := rfl
    simp [hzero.1, hzero.2, hnone]
  · have hsign : l.numeral.negative = l.negative := by
      rw [Bool.eq_iff_iff, l.numeral_negative]
      exact and_iff_left hzero
    rw [hsign]
    split_ifs <;> simp

end NumberLiteral

/-! ### Numerals as literals -/

/-- A numeral is a literal. -/
def literalOf (n : Numeral) : NumberLiteral where
  sign := n.signChars
  integer := n.integer
  fraction := n.fraction
  percent := false
  signs := by
    unfold Numeral.signChars
    split_ifs <;> simp
  integerChars := fun c hc => .inl (n.integerDigits c hc)
  hasDigit := by
    obtain ⟨c, hc⟩ := List.exists_mem_of_ne_nil _ n.integer_ne_nil
    exact ⟨c, hc, n.integerDigits c hc⟩
  fractionDigits := n.fractionDigits

theorem literalOf_chars (n : Numeral) : (literalOf n).chars = n.chars := by
  have hpercent : (if (literalOf n).percent then ['%'] else []) = [] := rfl
  rw [NumberLiteral.chars, hpercent, List.append_nil]
  rfl

theorem literalOf_numeral (n : Numeral) : (literalOf n).numeral.chars = n.chars := by
  have hdigits : (literalOf n).digits = n.integer := by
    refine List.filter_eq_self.mpr fun c hc => decide_eq_true ?_
    rintro rfl
    exact absurd (n.integerDigits ',' hc) (by decide)
  have hinteger : (literalOf n).numeral.integer = n.integer := by
    change withoutLeadingZeros (literalOf n).digits = n.integer
    rw [hdigits, withoutLeadingZeros_integer]
  have hfraction : (literalOf n).numeral.fraction = n.fraction := n.rdropWhile_fraction
  have hsign : (literalOf n).numeral.negative = n.negative := by
    have hminus : (literalOf n).negative = n.negative := by
      cases h : n.negative <;> simp [NumberLiteral.negative, literalOf, Numeral.signChars, h]
    rw [Bool.eq_iff_iff, NumberLiteral.numeral_negative, hminus, hinteger, hfraction, and_iff_left_iff_imp]
    rintro hneg ⟨hzero, hnone⟩
    exact absurd (n.unsignedZero hzero hnone) (by simp [hneg])
  simp only [Numeral.chars, Numeral.signChars, Numeral.tailChars, hinteger, hfraction, hsign]

/-- A numeral is its own normal form. -/
theorem normalizeNumberLiteral_numeral (n : Numeral) :
    normalizeNumberLiteral (String.ofList n.chars) = String.ofList n.chars := by
  rw [← literalOf_chars, NumberLiteral.normalizeNumberLiteral_chars, literalOf_numeral, literalOf_chars]

/-! ### The normal form is canonical -/

/-- A match of the pattern, in some text. -/
def IsNumberLiteral (literal : String) : Prop := ∃ text, literal.toList ∈ matchAll numberPattern text

theorem IsNumberLiteral.exists_chars {literal : String} (h : IsNumberLiteral literal) :
    ∃ l : NumberLiteral, literal = String.ofList l.chars := by
  obtain ⟨text, htext⟩ := h
  obtain ⟨l, hl⟩ := exists_literal (matchAll_language htext)
  exact ⟨l, by rw [hl, String.ofList_toList]⟩

/-- **The normal form is canonical.** Two literals have the same one just if they
denote the same number, and it is its own normal form. -/
theorem normalizeNumberLiteral_canonical {a b : String} (ha : IsNumberLiteral a) (hb : IsNumberLiteral b) :
    (normalizeNumberLiteral a = normalizeNumberLiteral b ↔ literalValue a = literalValue b) ∧
      normalizeNumberLiteral (normalizeNumberLiteral a) = normalizeNumberLiteral a := by
  obtain ⟨l, rfl⟩ := ha.exists_chars
  obtain ⟨m, rfl⟩ := hb.exists_chars
  rw [l.normalizeNumberLiteral_chars, m.normalizeNumberLiteral_chars, l.literalValue_chars, m.literalValue_chars]
  refine ⟨⟨fun h => by rw [h], fun h => ?_⟩, normalizeNumberLiteral_numeral _⟩
  rw [numeral_chars_inj h]

theorem normalizeNumberLiteral_canonical_grouped :
    IsNumberLiteral "+1,250.50%" ∧ IsNumberLiteral "01250.5" ∧
      (normalizeNumberLiteral "+1,250.50%" = normalizeNumberLiteral "01250.5" ↔
        literalValue "+1,250.50%" = literalValue "01250.5") ∧
      normalizeNumberLiteral (normalizeNumberLiteral "+1,250.50%") = normalizeNumberLiteral "+1,250.50%" := by
  have ha : IsNumberLiteral "+1,250.50%" := ⟨"of +1,250.50%".toList, by decide +kernel⟩
  have hb : IsNumberLiteral "01250.5" := ⟨"01250.5 kWh".toList, by decide +kernel⟩
  exact ⟨ha, hb, normalizeNumberLiteral_canonical ha hb⟩

end Assistant
end Evllm
