/-
# Strings in the order of their UTF-16 code units

`Array.prototype.sort` without a comparator orders strings by their UTF-16
code units, which is not the order of their characters: a character above
U+FFFF begins with a surrogate, below U+E000. `split("\n")` cuts a text at its
line feeds (`lines_append_cons`).
-/
import Mathlib.Data.List.Sort
import Mathlib.Tactic.Common

namespace Lib

/-- The code units of a character. -/
def codeUnits (c : Char) : List ℕ :=
  if c.toNat < 0x10000 then [c.toNat]
  else [0xD800 + (c.toNat - 0x10000) / 0x400, 0xDC00 + (c.toNat - 0x10000) % 0x400]

def utf16 (s : String) : List ℕ := s.toList.flatMap codeUnits

/-- `[...strings].sort()`. -/
def sortStrings (strings : List String) : List String :=
  strings.insertionSort fun a b => ¬utf16 b < utf16 a

theorem mem_sortStrings {string : String} {strings : List String} : string ∈ sortStrings strings ↔ string ∈ strings :=
  (List.perm_insertionSort _ strings).mem_iff

theorem nodup_sortStrings {strings : List String} : (sortStrings strings).Nodup ↔ strings.Nodup :=
  (List.perm_insertionSort _ strings).nodup_iff

/-- `new Set` keeps one of each. -/
theorem nodup_eraseDups {α : Type} [DecidableEq α] : ∀ xs : List α, xs.eraseDups.Nodup
  | [] => List.nodup_nil
  | x :: xs => by
    rw [List.eraseDups_cons, List.nodup_cons]
    refine ⟨fun hmem => ?_, nodup_eraseDups _⟩
    have hfilter := (List.mem_filter.mp (List.mem_eraseDups.mp hmem)).2
    simp at hfilter
termination_by xs => xs.length
decreasing_by exact Nat.lt_succ_of_le (List.length_filter_le _ _)

/-- The characters that `trim` takes away: white space and line terminators. -/
def isSpace (c : Char) : Bool :=
  (0x9 ≤ c.toNat && c.toNat ≤ 0xD) || c.toNat ∈ [0x20, 0xA0, 0x1680, 0x2028, 0x2029, 0x202F, 0x205F, 0x3000, 0xFEFF] ||
    (0x2000 ≤ c.toNat && c.toNat ≤ 0x200A)

/-- `text.trim().length === 0`. -/
def isBlank (text : String) : Bool := text.toList.all isSpace

/-! ### Lines -/

/-- `text.split("\n")`. -/
def lines : List Char → List (List Char)
  | [] => [[]]
  | c :: cs =>
    if c = '\n' then [] :: lines cs
    else
      match lines cs with
      | [] => [[c]]
      | line :: rest => (c :: line) :: rest

theorem lines_ne_nil (text : List Char) : lines text ≠ [] := by
  cases text with
  | nil => simp [lines]
  | cons c cs =>
    unfold lines
    split_ifs
    · simp
    · split
      · simp
      · simp

/-- A line feed cuts the text. -/
theorem lines_append_cons (a b : List Char) : lines (a ++ '\n' :: b) = lines a ++ lines b := by
  induction a with
  | nil => simp [lines]
  | cons c cs ih =>
    simp only [List.cons_append, lines, ih]
    split_ifs
    · rfl
    · cases h : lines cs with
      | nil => exact absurd h (lines_ne_nil cs)
      | cons line rest => rfl

theorem lines_of_not_mem {text : List Char} (h : '\n' ∉ text) : lines text = [text] := by
  induction text with
  | nil => rfl
  | cons c cs ih =>
    rw [List.mem_cons, not_or] at h
    obtain ⟨hc, hcs⟩ := h
    simp only [lines, Ne.symm hc, if_false, ih hcs]

/-- Text without a line feed goes on the last line. -/
theorem lines_append_of_not_mem {a b last : List Char} {init : List (List Char)} (ha : lines a = init ++ [last])
    (h : '\n' ∉ b) : lines (a ++ b) = init ++ [last ++ b] := by
  induction a generalizing init last with
  | nil =>
    have hone : [] ++ [[]] = init ++ [last] := ha
    obtain ⟨rfl, rfl⟩ := List.append_singleton_inj.mp hone
    exact lines_of_not_mem h
  | cons c cs ih =>
    obtain ⟨rest, line, hcs⟩ : ∃ rest line, lines cs = rest ++ [line] :=
      ⟨_, _, (List.dropLast_append_getLast (lines_ne_nil cs)).symm⟩
    simp only [List.cons_append, lines, ih hcs]
    simp only [lines, hcs] at ha
    split_ifs at ha ⊢ with hc
    · have heq : ([] :: rest) ++ [line] = init ++ [last] := ha
      obtain ⟨rfl, rfl⟩ := List.append_singleton_inj.mp heq
      rfl
    · cases rest with
      | nil =>
        have heq : [] ++ [c :: line] = init ++ [last] := ha
        obtain ⟨rfl, rfl⟩ := List.append_singleton_inj.mp heq
        rfl
      | cons first rest =>
        have heq : ((c :: first) :: rest) ++ [line] = init ++ [last] := ha
        obtain ⟨rfl, rfl⟩ := List.append_singleton_inj.mp heq
        rfl

/-- What follows the last line feed. -/
def lastLine (text : List Char) : List Char := (lines text).getLast (lines_ne_nil text)

theorem lines_eq_concat (text : List Char) : lines text = (lines text).dropLast ++ [lastLine text] :=
  (List.dropLast_append_getLast (lines_ne_nil text)).symm

theorem lastLine_of_lines {text last : List Char} {init : List (List Char)} (h : lines text = init ++ [last]) :
    lastLine text = last := by
  rw [lines_eq_concat] at h
  exact (List.append_singleton_inj.mp h).2

/-- Nothing follows a line feed at the end. -/
@[simp] theorem lastLine_concat (text : List Char) : lastLine (text ++ ['\n']) = [] :=
  lastLine_of_lines (lines_append_cons text [])

end Lib
