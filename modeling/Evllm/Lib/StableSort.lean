/-
# Sorting by a comparator that ties

`Array.prototype.sort` is stable: elements that tie keep the order they had.
So the sorted list says of the list it came from which elements tie and in
which order, and no more: two lists sort to the same just if they list each
class of ties in the same order (`insertionSort_eq_iff`).

Key definitions: `Tie`, `SameTies`.
Key theorems: `filter_tie_insertionSort`, `insertionSort_eq_iff`,
`filterMap_insertionSort`, `insertionSort_filterMap`.
-/
import Mathlib.Data.List.Sort
import Mathlib.Tactic.Common

namespace Lib

universe u v

variable {α : Type u} {β : Type v} (le : α → α → Prop) [DecidableRel le]

/-- The comparator does not tell the two apart. -/
def Tie (a b : α) : Prop := le a b ∧ le b a

instance (a : α) : DecidablePred (Tie le a) := fun b => inferInstanceAs (Decidable (le a b ∧ le b a))

/-- Both lists hold the same elements, and those that tie in the same order. -/
def SameTies (xs ys : List α) : Prop := ∀ a, xs.filter (Tie le a) = ys.filter (Tie le a)

variable {le}

theorem SameTies.symm {xs ys : List α} (h : SameTies le xs ys) : SameTies le ys xs := fun a => (h a).symm

theorem SameTies.trans {xs ys zs : List α} (h : SameTies le xs ys) (h' : SameTies le ys zs) : SameTies le xs zs :=
  fun a => (h a).trans (h' a)

/-- New elements may be appended to both. -/
theorem SameTies.append {xs ys : List α} (h : SameTies le xs ys) (zs : List α) : SameTies le (xs ++ zs) (ys ++ zs) := by
  intro a
  rw [List.filter_append, List.filter_append, h a]

omit [DecidableRel le] in
theorem Tie.symm {a b : α} (h : Tie le a b) : Tie le b a := ⟨h.2, h.1⟩

omit [DecidableRel le] in
theorem tie_self [Std.Total le] (a : α) : Tie le a a :=
  ⟨(Std.Total.total a a).elim id id, (Std.Total.total a a).elim id id⟩

theorem SameTies.mem_iff [Std.Total le] {xs ys : List α} (h : SameTies le xs ys) {a : α} : a ∈ xs ↔ a ∈ ys := by
  have hmem : ∀ zs : List α, a ∈ zs ↔ a ∈ zs.filter (Tie le a) := by
    intro zs
    simp [tie_self]
  rw [hmem xs, h a, ← hmem ys]

/-- Where only equal elements tie, the order of a list says nothing more. -/
theorem sameTies_of_perm {xs ys : List α} (h : xs.Perm ys) (hsame : ∀ a b c, b ∈ xs → c ∈ xs → Tie le a b → Tie le a c → b = c) :
    SameTies le xs ys := by
  intro a
  have hperm : (xs.filter (Tie le a)).Perm (ys.filter (Tie le a)) := h.filter _
  cases hx : xs.filter (Tie le a) with
  | nil =>
    rw [hx] at hperm
    exact (List.nil_perm.mp hperm).symm
  | cons b rest =>
    have hb : b ∈ xs.filter (Tie le a) := by rw [hx]; exact List.mem_cons_self
    have hall : ∀ c ∈ xs.filter (Tie le a), c = b := by
      intro c hc
      simp only [List.mem_filter, decide_eq_true_eq] at hb hc
      exact hsame a c b hc.1 hb.1 hc.2 hb.2
    have hleft : xs.filter (Tie le a) = List.replicate (xs.filter (Tie le a)).length b :=
      List.eq_replicate_iff.mpr ⟨rfl, hall⟩
    have hright : ys.filter (Tie le a) = List.replicate (xs.filter (Tie le a)).length b :=
      List.eq_replicate_iff.mpr ⟨hperm.length_eq.symm, fun c hc => hall c (hperm.mem_iff.mpr hc)⟩
    rw [← hx, hleft, hright]

variable [IsTrans α le]

omit [DecidableRel le] in
theorem Tie.trans {a b c : α} (h : Tie le a b) (h' : Tie le b c) : Tie le a c :=
  ⟨IsTrans.trans _ _ _ h.1 h'.1, IsTrans.trans _ _ _ h'.2 h.2⟩

/-- The elements that tie with `a` are a subsequence of the sorted list, since
they are one of the list and are sorted already. -/
theorem filter_tie_insertionSort (xs : List α) (a : α) :
    (xs.insertionSort le).filter (Tie le a) = xs.filter (Tie le a) := by
  have hsorted : (xs.filter (Tie le a)).Pairwise le := by
    refine List.pairwise_of_forall_mem_list fun b hb c hc => ?_
    simp only [List.mem_filter, decide_eq_true_eq] at hb hc
    exact (hb.2.symm.trans hc.2).1
  have hsub : (xs.filter (Tie le a)).Sublist (xs.insertionSort le) :=
    List.sublist_insertionSort hsorted List.filter_sublist
  have hfilter : (xs.filter (Tie le a)).Sublist ((xs.insertionSort le).filter (Tie le a)) := by
    simpa using hsub.filter (Tie le a)
  exact (hfilter.eq_of_length ((List.perm_insertionSort le xs).symm.filter _).length_eq).symm

theorem sameTies_insertionSort (xs : List α) : SameTies le (xs.insertionSort le) xs := filter_tie_insertionSort xs

variable [Std.Total le]

omit [IsTrans α le] in
/-- A sorted list is given by its classes of ties. -/
theorem eq_of_sameTies : ∀ {xs ys : List α}, xs.Pairwise le → ys.Pairwise le → SameTies le xs ys → xs = ys
  | [], [], _, _, _ => rfl
  | [], y :: ys, _, _, h => absurd (h.symm.mem_iff.mp List.mem_cons_self) (List.not_mem_nil)
  | x :: xs, [], _, _, h => absurd (h.mem_iff.mp List.mem_cons_self) (List.not_mem_nil)
  | x :: xs, y :: ys, hx, hy, h => by
    rw [List.pairwise_cons] at hx hy
    have hxy : le x y := by
      obtain rfl | hmem := List.mem_cons.mp (h.mem_iff.mpr (List.mem_cons_self (a := y)))
      · exact (tie_self y).1
      · exact hx.1 y hmem
    have hyx : le y x := by
      obtain rfl | hmem := List.mem_cons.mp (h.mem_iff.mp (List.mem_cons_self (a := x)))
      · exact (tie_self x).1
      · exact hy.1 x hmem
    -- both heads tie, so the class of `x` begins with both
    have hhead := h x
    have htie : Tie le x y := ⟨hxy, hyx⟩
    rw [List.filter_cons_of_pos (by simpa using tie_self x), List.filter_cons_of_pos (by simpa using htie)] at hhead
    obtain ⟨rfl, -⟩ := List.cons.inj hhead
    have htail : SameTies le xs ys := by
      intro a
      have ha := h a
      simp only [List.filter_cons] at ha
      split_ifs at ha
      · exact (List.cons.inj ha).2
      · exact ha
    rw [eq_of_sameTies hx.2 hy.2 htail]

/-- **Two lists sort to the same** just if they list each class of ties in the
same order. -/
theorem insertionSort_eq_iff {xs ys : List α} :
    xs.insertionSort le = ys.insertionSort le ↔ SameTies le xs ys := by
  constructor
  · intro h
    have hsame : SameTies le (xs.insertionSort le) ys := by
      rw [h]
      exact sameTies_insertionSort ys
    exact (sameTies_insertionSort xs).symm.trans hsame
  · intro h
    exact eq_of_sameTies (List.pairwise_insertionSort le xs) (List.pairwise_insertionSort le ys)
      ((sameTies_insertionSort xs).trans (h.trans (sameTies_insertionSort ys).symm))

omit [Std.Total le] [IsTrans α le]

/-- Sorting keys and looking each up is looking each up and sorting what was
found, where the comparator of the values is that of their keys. -/
theorem filterMap_insertionSort {leβ : β → β → Prop} [DecidableRel leβ] {g : α → Option β} {xs : List α}
    (h : ∀ x ∈ xs, ∃ b, g x = some b)
    (hle : ∀ x ∈ xs, ∀ y ∈ xs, ∀ b c, g x = some b → g y = some c → (leβ b c ↔ le x y)) :
    (xs.insertionSort le).filterMap g = (xs.filterMap g).insertionSort leβ := by
  have hbase : ∀ ys : List α, (∀ x ∈ ys, x ∈ xs) → ∀ x ∈ xs, ∀ b, g x = some b →
      (ys.orderedInsert le x).filterMap g = (ys.filterMap g).orderedInsert leβ b := by
    intro ys
    induction ys with
    | nil =>
      intro _ x _ b hb
      simp [hb]
    | cons y ys ih =>
      intro hys x hx b hb
      obtain ⟨c, hc⟩ := h y (hys y List.mem_cons_self)
      have hiff := hle x hx y (hys y List.mem_cons_self) b c hb hc
      have hrest := ih (fun z hz => hys z (List.mem_cons_of_mem _ hz)) x hx b hb
      by_cases hxy : le x y
      · simp [List.orderedInsert, hxy, hiff, hb, hc]
      · simp [List.orderedInsert, hxy, hiff, hc, hrest]
  induction xs with
  | nil => rfl
  | cons x xs ih =>
    obtain ⟨b, hb⟩ := h x List.mem_cons_self
    have hrest := ih (fun y hy => h y (List.mem_cons_of_mem _ hy))
      (fun y hy z hz => hle y (List.mem_cons_of_mem _ hy) z (List.mem_cons_of_mem _ hz))
      fun ys hys y hy => hbase ys (fun z hz => List.mem_cons_of_mem _ (hys z hz)) y (List.mem_cons_of_mem _ hy)
    have hmem : ∀ y ∈ xs.insertionSort le, y ∈ x :: xs := fun y hy =>
      List.mem_cons_of_mem _ ((List.mem_insertionSort le).mp hy)
    rw [List.insertionSort_cons, hbase _ hmem x List.mem_cons_self b hb, hrest, List.filterMap_cons, hb,
      List.insertionSort_cons]

/-- What is looked up under keys that tie in the same order sorts to the same. -/
theorem insertionSort_filterMap [Std.Total le] [IsTrans α le] {leβ : β → β → Prop} [DecidableRel leβ] {g : α → Option β}
    {id : β → α} {xs ys : List α} (hties : SameTies le xs ys) (h : ∀ x ∈ xs, ∃ b, g x = some b)
    (hid : ∀ x b, g x = some b → id b = x) (hle : ∀ b c, leβ b c ↔ le (id b) (id c)) :
    (xs.filterMap g).insertionSort leβ = (ys.filterMap g).insertionSort leβ := by
  have hsort : ∀ zs : List α, (∀ z ∈ zs, ∃ b, g z = some b) →
      (zs.filterMap g).insertionSort leβ = (zs.insertionSort le).filterMap g := by
    intro zs hzs
    refine (filterMap_insertionSort hzs fun x _ y _ b c hb hc => ?_).symm
    rw [hle, hid x b hb, hid y c hc]
  rw [hsort xs h, hsort ys fun y hy => h y (hties.mem_iff.mpr hy), insertionSort_eq_iff.mpr hties]

end Lib
