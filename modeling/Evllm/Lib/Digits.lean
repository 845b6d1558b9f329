/-
# Strings of decimal digits

A string of digits denotes a number (`Nat.ofDigitChars`); the number written
again is the string without its leading zeros (`toDigits_ofDigitChars`), and
padding gives them back (`leftpad_dropWhile`). A text and a number with a
separator between them determine both (`append_toString_inj`).
-/
import Mathlib.Data.List.Induction
import Mathlib.Data.List.TakeWhile
import Mathlib.Tactic.Common
import Mathlib.Tactic.IntervalCases
import Mathlib.Tactic.Linarith

namespace Lib

def digitsValue (l : List Char) : ℕ := Nat.ofDigitChars 10 l 0

/-- The number that a digit stands for. -/
def digitValue (c : Char) : ℕ := c.toNat - '0'.toNat

theorem digitValue_lt {c : Char} (h : c.isDigit = true) : digitValue c < 10 := by
  have hle : c.toNat ≤ 57 := by
    simp only [Char.isDigit, ge_iff_le, Bool.and_eq_true, decide_eq_true_eq] at h
    exact UInt32.le_iff_toNat_le.mp h.2
  simp only [digitValue, Char.reduceToNat]
  omega

theorem digitChar_digitValue {c : Char} (h : c.isDigit = true) : (digitValue c).digitChar = c := by
  have hle : 48 ≤ c.toNat ∧ c.toNat ≤ 57 := by
    simp only [Char.isDigit, ge_iff_le, Bool.and_eq_true, decide_eq_true_eq] at h
    exact ⟨UInt32.le_iff_toNat_le.mp h.1, UInt32.le_iff_toNat_le.mp h.2⟩
  obtain ⟨hlow, hhigh⟩ := hle
  have hc : c = Char.ofNat c.toNat := (Char.ofNat_toNat c).symm
  generalize hn : c.toNat = n at *
  rw [hc, digitValue]
  interval_cases n <;> rfl

@[simp] theorem digitsValue_nil : digitsValue [] = 0 := rfl

theorem digitsValue_concat (l : List Char) (c : Char) : digitsValue (l ++ [c]) = 10 * digitsValue l + digitValue c := by
  rw [digitsValue, Nat.ofDigitChars_append]
  rfl

theorem digitsValue_append (l m : List Char) : digitsValue (l ++ m) = 10 ^ m.length * digitsValue l + digitsValue m := by
  rw [digitsValue, Nat.ofDigitChars_append, Nat.ofDigitChars_eq_ofDigitChars_zero]
  rfl

theorem digitsValue_replicate_zero (n : ℕ) : digitsValue (List.replicate n '0') = 0 := by
  rw [digitsValue, Nat.ofDigitChars_replicate_zero, Nat.mul_zero]

/-- A digit is zero just if it is written so. -/
theorem digitValue_eq_zero {c : Char} (h : c.isDigit = true) : digitValue c = 0 ↔ c = '0' := by
  constructor
  · intro hzero
    have hc := digitChar_digitValue h
    rw [hzero] at hc
    exact hc.symm
  · rintro rfl
    rfl

/-- The value is zero just if every digit is. -/
theorem digitsValue_eq_zero {l : List Char} (h : ∀ c ∈ l, c.isDigit = true) :
    digitsValue l = 0 ↔ l.dropWhile (· = '0') = [] := by
  rw [List.dropWhile_eq_nil_iff]
  induction l using List.reverseRecOn with
  | nil => simp
  | append_singleton l c ih =>
    have hdigit : c.isDigit = true := h c (by simp)
    have hrest := ih fun d hd => h d (List.mem_append_left _ hd)
    rw [digitsValue_concat]
    simp only [List.mem_append, List.mem_singleton, decide_eq_true_eq] at hrest ⊢
    constructor
    · intro hsum d hd
      obtain hd | rfl := hd
      · exact hrest.mp (by omega) d hd
      · exact (digitValue_eq_zero hdigit).mp (by omega)
    · intro hall
      have hl : digitsValue l = 0 := hrest.mpr fun d hd => hall d (.inl hd)
      have hc : digitValue c = 0 := (digitValue_eq_zero hdigit).mpr (hall c (.inr rfl))
      omega

/-- **A number is written as its digits without leading zeros.** -/
theorem toDigits_digitsValue {l : List Char} (h : ∀ c ∈ l, c.isDigit = true) (hpos : digitsValue l ≠ 0) :
    Nat.toDigits 10 (digitsValue l) = l.dropWhile (· = '0') := by
  induction l using List.reverseRecOn with
  | nil => exact absurd rfl hpos
  | append_singleton l c ih =>
    have hdigit : c.isDigit = true := h c (by simp)
    have hdigits : ∀ d ∈ l, d.isDigit = true := fun d hd => h d (List.mem_append_left _ hd)
    have hlast : Nat.toDigits 10 (digitValue c) = [c] := by
      rw [Nat.toDigits_of_lt_base (digitValue_lt hdigit), digitChar_digitValue hdigit]
    rw [digitsValue_concat] at hpos ⊢
    by_cases hl : digitsValue l = 0
    · have hc : digitValue c ≠ 0 := by omega
      have hne : c ≠ '0' := fun heq => hc ((digitValue_eq_zero hdigit).mpr heq)
      rw [hl, Nat.mul_zero, Nat.zero_add, hlast, List.dropWhile_append, (digitsValue_eq_zero hdigits).mp hl]
      simp [hne]
    · have hne : l.dropWhile (· = '0') ≠ [] := fun heq => hl ((digitsValue_eq_zero hdigits).mpr heq)
      rw [← Nat.toDigits_append_toDigits (by decide) (Nat.pos_of_ne_zero hl) (digitValue_lt hdigit), hlast,
        ih hdigits hl, List.dropWhile_append]
      simp [hne]

/-- Padding gives the leading zeros back. -/
theorem leftpad_dropWhile (l : List Char) : (l.dropWhile (· = '0')).leftpad l.length '0' = l := by
  have htake : l.takeWhile (· = '0') = List.replicate (l.takeWhile (· = '0')).length '0' := by
    refine List.eq_replicate_of_mem fun c hc => ?_
    simpa using List.mem_takeWhile_imp hc
  have hsplit : l.takeWhile (· = '0') ++ l.dropWhile (· = '0') = l := List.takeWhile_append_dropWhile
  have hlength : l.length - (l.dropWhile (· = '0')).length = (l.takeWhile (· = '0')).length := by
    have := congrArg List.length hsplit
    rw [List.length_append] at this
    omega
  rw [List.leftpad, hlength, ← htake, hsplit]

/-- What follows the last separator and what precedes it are determined. -/
theorem append_cons_inj {sep : Char} {a b x y : List Char} (hx : sep ∉ x) (hy : sep ∉ y)
    (h : a ++ sep :: x = b ++ sep :: y) : a = b ∧ x = y := by
  have hmid : ∀ {l u v : List Char}, sep ∉ u → sep :: u = l ++ sep :: v → l = [] ∧ u = v := by
    intro l u v hu heq
    rcases l with _ | ⟨c, l⟩
    · exact ⟨rfl, (List.cons.inj heq).2⟩
    · have htail : u = l ++ sep :: v := (List.cons.inj heq).2
      exact absurd (by rw [htail]; simp) hu
  obtain ⟨l, rfl, hrest⟩ | ⟨l, rfl, hrest⟩ := List.append_eq_append_iff.mp h
  · obtain ⟨rfl, rfl⟩ := hmid hx hrest
    simp
  · obtain ⟨rfl, rfl⟩ := hmid hy hrest
    simp

theorem append_toString_inj {s t : String} {m n : ℕ} (h : s ++ ":" ++ toString m = t ++ ":" ++ toString n) :
    s = t ∧ m = n := by
  have hdigits : ∀ n : ℕ, ':' ∉ (toString n).toList := by
    intro n hcolon
    rw [Nat.toString_eq_repr, Nat.toList_repr] at hcolon
    have hdigit := Nat.isDigit_of_mem_toDigits (by decide) (by decide) hcolon
    simp at hdigit
  have hlist : s.toList ++ ':' :: (toString m).toList = t.toList ++ ':' :: (toString n).toList := by
    simpa using congrArg String.toList h
  obtain ⟨hs, hn⟩ := append_cons_inj (hdigits m) (hdigits n) hlist
  rw [Nat.toString_eq_repr, Nat.toString_eq_repr, Nat.toList_repr, Nat.toList_repr] at hn
  have hvalue := congrArg digitsValue hn
  rw [digitsValue, digitsValue, Nat.ofDigitChars_ten_toDigits, Nat.ofDigitChars_ten_toDigits] at hvalue
  exact ⟨String.toList_inj.mp hs, hvalue⟩

end Lib
