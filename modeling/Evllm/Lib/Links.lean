/-
# Logs whose entries refer to the entries before them

`EachAfter R l`: every entry of the log `l` relates by `R` to the entries
before it. It is checked where an entry is appended (`eachAfter_concat`).

An entry that names its predecessor makes the log a linked list. Where the
names are distinct, following them back from the last one visits every entry
once, the last first (`walk_tip`); where a name determines its entry, the last
name determines the log (`Linked.unique`). Entries that cover adjacent ranges of
numbers cover no number twice and none is left out between them
(`Adjacent.disjoint`, `Adjacent.covered`).
-/
import Mathlib.Data.List.Induction
import Mathlib.Data.List.Nodup
import Mathlib.Tactic.Common

namespace Lib

universe u v

variable {α : Type u} {κ : Type v}

/-- `R` relates every entry of the log to the entries before it. -/
def EachAfter (R : List α → α → Prop) (l : List α) : Prop :=
  ∀ before a rest, l = before ++ a :: rest → R before a

section EachAfter

variable {R S : List α → α → Prop} {l : List α} {a : α}

@[simp] theorem eachAfter_nil : EachAfter R [] := by
  intro before a rest h
  simp at h

/-- An appended entry relates to the whole log before it. -/
theorem eachAfter_concat : EachAfter R (l ++ [a]) ↔ EachAfter R l ∧ R l a := by
  constructor
  · intro h
    refine ⟨fun before b rest heq => ?_, h l a [] rfl⟩
    exact h before b (rest ++ [a]) (by simp [heq])
  · rintro ⟨h, ha⟩ before b rest heq
    rcases List.eq_nil_or_concat' rest with rfl | ⟨rest', c, rfl⟩
    · obtain ⟨rfl, hb⟩ := List.append_inj' heq rfl
      rwa [← List.singleton_inj.mp hb]
    · have heq' : l ++ [a] = (before ++ b :: rest') ++ [c] := by simpa using heq
      obtain ⟨rfl, -⟩ := List.append_inj' heq' rfl
      exact h before b rest' rfl

theorem EachAfter.imp (h : EachAfter R l) (himp : ∀ before a, a ∈ l → R before a → S before a) : EachAfter S l := by
  rintro before b rest rfl
  exact himp before b (by simp) (h before b rest rfl)

end EachAfter

/-! ### Following the links -/

section Links

variable [DecidableEq κ] (own prev : α → κ) (root : κ)

/-- The name of the last entry; `root` if there is none. -/
def tip (l : List α) : κ := (l.getLast?.map own).getD root

/-- Every entry names the one before it, the first names `root`. -/
def Linked (l : List α) : Prop := EachAfter (fun before a => prev a = tip own root before) l

/-- The entries met on the way back from the one named `k`, at most `n` of them. -/
def walk (l : List α) : ℕ → κ → List α
  | 0, _ => []
  | n + 1, k =>
    match l.find? (own · = k) with
    | none => []
    | some a => a :: walk l n (prev a)

variable {own prev root} {l : List α}

omit [DecidableEq κ] in
@[simp] theorem tip_nil : tip own root [] = root := rfl

omit [DecidableEq κ] in
@[simp] theorem tip_concat (a : α) : tip own root (l ++ [a]) = own a := by simp [tip]

theorem find_own (hnodup : (l.map own).Nodup) {a : α} (ha : a ∈ l) : l.find? (own · = own a) = some a := by
  obtain ⟨b, hb⟩ : ∃ b, l.find? (own · = own a) = some b :=
    Option.isSome_iff_exists.mp (by simpa using ⟨a, ha, rfl⟩)
  have hown : own b = own a := by simpa using List.find?_some hb
  rw [hb, List.inj_on_of_nodup_map hnodup (List.mem_of_find?_eq_some hb) ha hown]

/-- **Following the links from the last entry visits every entry once.** -/
theorem walk_tip (hlinked : Linked own prev root l) (hnodup : (l.map own).Nodup) (hroot : root ∉ l.map own) {n : ℕ}
    (hn : l.length ≤ n) : walk own prev l n (tip own root l) = l.reverse := by
  -- the way back from any entry stays in the log that leads to it
  have hback : ∀ (before rest : List α), l = before ++ rest → ∀ n, before.length ≤ n →
      walk own prev l n (tip own root before) = before.reverse := by
    intro before
    induction before using List.reverseRecOn with
    | nil =>
      rintro rest - (_ | n) -
      · rfl
      · have hnone : l.find? (own · = root) = none := by
          rw [List.find?_eq_none]
          intro a ha hown
          exact hroot (List.mem_map.mpr ⟨a, ha, by simpa using hown⟩)
        rw [tip_nil, walk, hnone]
        rfl
    | append_singleton before a ih =>
      intro rest hl n hle
      obtain ⟨n, rfl⟩ : ∃ m, n = m + 1 := ⟨n - 1, by simp at hle; omega⟩
      have hfind := find_own hnodup (a := a) (by simp [hl])
      have hprev : prev a = tip own root before := hlinked before a rest (by simp [hl])
      rw [tip_concat, walk, hfind]
      simp only [hprev, List.reverse_append, List.reverse_singleton, List.singleton_append, List.cons.injEq, true_and]
      exact ih (a :: rest) (by simp [hl]) n (by simp at hle; omega)
  exact hback l [] (by simp) n hn

omit [DecidableEq κ] in
/-- **The last name determines the log**, where a name determines its entry. -/
theorem Linked.unique {xs ys : List α} (hx : Linked own prev root xs) (hy : Linked own prev root ys)
    (hroot : ∀ a ∈ xs ++ ys, own a ≠ root) (hfree : ∀ a ∈ xs, ∀ b ∈ ys, own a = own b → a = b)
    (htip : tip own root xs = tip own root ys) : xs = ys := by
  induction xs using List.reverseRecOn generalizing ys with
  | nil =>
    rcases List.eq_nil_or_concat' ys with rfl | ⟨ys, b, rfl⟩
    · rfl
    · rw [tip_nil, tip_concat] at htip
      exact absurd htip.symm (hroot b (by simp))
  | append_singleton xs a ih =>
    rcases List.eq_nil_or_concat' ys with rfl | ⟨ys, b, rfl⟩
    · rw [tip_nil, tip_concat] at htip
      exact absurd htip (hroot a (by simp))
    · rw [tip_concat, tip_concat] at htip
      obtain rfl : a = b := hfree a (by simp) b (by simp) htip
      obtain ⟨hxs, hprevious⟩ := eachAfter_concat.mp hx
      obtain ⟨hys, hprevious'⟩ := eachAfter_concat.mp hy
      have hbefore : xs = ys := by
        refine ih hxs hys ?_ ?_ (hprevious.symm.trans hprevious')
        · intro c hc
          refine hroot c ?_
          simp only [List.mem_append, List.mem_singleton] at hc ⊢
          tauto
        · intro c hc d hd
          exact hfree c (by simp [hc]) d (by simp [hd])
      rw [hbefore]

end Links

/-! ### Adjacent ranges -/

section Ranges

variable (lo hi : α → ℕ)

/-- The range of every entry begins where the range before it ends. -/
def Adjacent (l : List α) : Prop := EachAfter (fun before a => ∀ b ∈ before.getLast?, lo a = hi b + 1) l

variable {lo hi} {l : List α}

theorem Adjacent.lt_of_before (h : Adjacent lo hi l) (hrange : ∀ a ∈ l, lo a ≤ hi a) :
    EachAfter (fun before a => ∀ b ∈ before, hi b < lo a) l := by
  induction l using List.reverseRecOn with
  | nil => simp
  | append_singleton l a ih =>
    obtain ⟨hl, ha⟩ := eachAfter_concat.mp h
    have ih' := ih hl fun b hb => hrange b (by simp [hb])
    refine eachAfter_concat.mpr ⟨ih', fun b hb => ?_⟩
    obtain ⟨before, last, rfl⟩ := List.eq_nil_or_concat' l |>.resolve_left (List.ne_nil_of_mem hb)
    have hlast : lo a = hi last + 1 := ha last (by simp)
    rcases List.mem_append.mp hb with hbefore | hb
    · have hlt := (eachAfter_concat.mp ih').2 b hbefore
      have hle := hrange last (by simp)
      omega
    · rw [List.mem_singleton.mp hb]
      omega

/-- **No number is covered twice.** -/
theorem Adjacent.disjoint (h : Adjacent lo hi l) (hrange : ∀ a ∈ l, lo a ≤ hi a) (n : ℕ) :
    (l.filter fun a => lo a ≤ n ∧ n ≤ hi a).length ≤ 1 := by
  have hpairwise : l.Pairwise fun b a => hi b < lo a := by
    rw [List.pairwise_iff_forall_sublist]
    intro b a hsub
    obtain ⟨before, rest, rfl, hb, ha⟩ := List.append_sublist_iff.mp (show ([b] ++ [a]).Sublist l from hsub)
    obtain ⟨mid, rest', rfl⟩ := List.append_of_mem (List.singleton_sublist.mp ha)
    exact h.lt_of_before hrange (before ++ mid) a rest' (by simp) b
      (List.mem_append_left _ (List.singleton_sublist.mp hb))
  have hfilter := hpairwise.filter (fun a => lo a ≤ n ∧ n ≤ hi a)
  have hcovers : ∀ a ∈ l.filter (fun a => lo a ≤ n ∧ n ≤ hi a), lo a ≤ n ∧ n ≤ hi a := by
    intro a ha
    simpa using (List.mem_filter.mp ha).2
  revert hfilter hcovers
  rcases l.filter (fun a => lo a ≤ n ∧ n ≤ hi a) with _ | ⟨b, _ | ⟨a, rest⟩⟩
  · simp
  · simp
  · intro hpair hcov
    have hlt : hi b < lo a := (List.pairwise_cons.mp hpair).1 a (by simp)
    have hb := hcov b (by simp)
    have ha := hcov a (by simp)
    omega

/-- **No number between the first range and the last is left out.** -/
theorem Adjacent.covered (h : Adjacent lo hi l) {first last : α} (hfirst : l.head? = some first)
    (hlast : l.getLast? = some last) {n : ℕ} (hlo : lo first ≤ n) (hhi : n ≤ hi last) :
    ∃ a ∈ l, lo a ≤ n ∧ n ≤ hi a := by
  induction l using List.reverseRecOn generalizing last with
  | nil => simp at hfirst
  | append_singleton l a ih =>
    obtain ⟨hl, ha⟩ := eachAfter_concat.mp h
    obtain rfl : a = last := by simpa using hlast
    by_cases hn : lo a ≤ n
    · exact ⟨a, by simp, hn, hhi⟩
    · rcases List.eq_nil_or_concat' l with rfl | ⟨before, b, rfl⟩
      · obtain rfl : a = first := by simpa using hfirst
        exact absurd hlo hn
      · have hb : lo a = hi b + 1 := ha b (by simp)
        have hhead : (before ++ [b]).head? = some first := by simpa using hfirst
        obtain ⟨c, hc, hcov⟩ := ih hl hhead (List.getLast?_concat ..) (by omega)
        exact ⟨c, List.mem_append_left _ hc, hcov⟩

end Ranges

end Lib
