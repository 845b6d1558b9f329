/-
# The Holm step-down correction

`holmAdjust` goes through the values from the least to the greatest and keeps a
running maximum. What it assigns to a value is the greatest corrected value
among those up to it (`stepDown`), where the corrected value of `v` is `v` times
the number of values that are at least `v`, and at most one. The loop uses the
rank of `v` for that number: the least of several equal values has the rank that
counts them all, and the maximum keeps what it gave. So neither the order of
equal values nor that of the list matters.

Key definitions: `corrected`, `stepDown`, `Adjusted`.
Key theorems: `isGreatest_step`, `holmAdjust_stepDown`.
-/
import Evllm.Evaluation.Statistics
import Mathlib.Data.List.OfFn
import Mathlib.Data.Fintype.Perm
import Mathlib.Order.Bounds.Basic
import Mathlib.Tactic.Linarith
import Mathlib.Tactic.NormNum

namespace Evllm
namespace Evaluation

variable {K : Type} [Field K] [LinearOrder K]

/-! ### The correction -/

/-- The correction of one value, among those that are at least as great. -/
def corrected (values : List K) (v : K) : K := min 1 (v * (values.countP (v ≤ ·) : ℕ))

/-- The corrected values of the list, up to `x`. -/
def stepDown (values : List K) (x : K) : Set K := corrected values '' {v | v ∈ values ∧ v ≤ x}

variable {values values' : List K} {x y a b : K}

theorem stepDown_mono (h : x ≤ y) : stepDown values x ⊆ stepDown values y :=
  Set.image_mono fun _ hv => ⟨hv.1, hv.2.trans h⟩

theorem stepDown_perm (h : values.Perm values') : stepDown values x = stepDown values' x := by
  have hcorrected : corrected values = corrected values' := by
    funext v
    rw [corrected, corrected, h.countP_eq]
  simp only [stepDown, hcorrected, h.mem_iff]

theorem le_of_isGreatest (h : x ≤ y) (ha : IsGreatest (stepDown values x) a) (hb : IsGreatest (stepDown values y) b) :
    a ≤ b :=
  hb.2 (stepDown_mono h ha.1)

theorem le_one_of_isGreatest (ha : IsGreatest (stepDown values x) a) : a ≤ 1 := by
  obtain ⟨v, -, rfl⟩ := ha.1
  exact min_le_left _ _

variable [IsStrictOrderedRing K]

/-- A value counts itself. -/
theorem self_le_of_isGreatest (hmem : x ∈ values) (hzero : 0 ≤ x) (hone : x ≤ 1)
    (ha : IsGreatest (stepDown values x) a) : x ≤ a := by
  have hcount : 1 ≤ values.countP (x ≤ ·) := List.countP_pos_iff.mpr ⟨x, hmem, by simp⟩
  have hcorrected : x ≤ corrected values x := by
    refine le_min hone (le_mul_of_one_le_right hzero ?_)
    exact_mod_cast hcount
  exact hcorrected.trans (ha.2 ⟨x, ⟨hmem, le_rfl⟩, rfl⟩)

/-! ### The loop -/

variable {done rest : List (K × ℕ)} {entry : K × ℕ}

omit [Field K] [IsStrictOrderedRing K] in
/-- Those from the rank of a value on are at least as great. -/
theorem countP_of_sorted (hsorted : (done ++ entry :: rest).Pairwise fun l r => l.1 ≤ r.1)
    (hperm : ((done ++ entry :: rest).map Prod.fst).Perm values) :
    values.countP (entry.1 ≤ ·) = (done.map Prod.fst).countP (entry.1 ≤ ·) + (values.length - done.length) := by
  rw [← hperm.countP_eq, ← hperm.length_eq, List.map_append, List.countP_append]
  have hlater : ((entry :: rest).map Prod.fst).countP (entry.1 ≤ ·) = ((entry :: rest).map Prod.fst).length := by
    refine List.countP_eq_length.mpr fun v hv => decide_eq_true ?_
    obtain ⟨e, he, rfl⟩ := List.mem_map.mp hv
    obtain rfl | he := List.mem_cons.mp he
    · exact le_rfl
    · exact (List.pairwise_cons.mp (List.pairwise_append.mp hsorted).2.1).1 e he
  rw [hlater]
  simp

/-- The term of the loop at the rank of a value. -/
def rankTerm (length rank : ℕ) (v : K) : K := min 1 (v * (length - rank))

theorem rankTerm_le (hzero : 0 ≤ entry.1) (hsorted : (done ++ entry :: rest).Pairwise fun l r => l.1 ≤ r.1)
    (hperm : ((done ++ entry :: rest).map Prod.fst).Perm values) :
    rankTerm values.length done.length entry.1 ≤ corrected values entry.1 := by
  have hcount := countP_of_sorted hsorted hperm
  refine min_le_min le_rfl (mul_le_mul_of_nonneg_left ?_ hzero)
  rw [sub_le_iff_le_add]
  exact_mod_cast (by omega : values.length ≤ values.countP (entry.1 ≤ ·) + done.length)

omit [IsStrictOrderedRing K] in
theorem rankTerm_eq (hsorted : (done ++ entry :: rest).Pairwise fun l r => l.1 ≤ r.1)
    (hperm : ((done ++ entry :: rest).map Prod.fst).Perm values) (hfirst : ∀ e ∈ done, e.1 < entry.1) :
    rankTerm values.length done.length entry.1 = corrected values entry.1 := by
  have hcount := countP_of_sorted hsorted hperm
  have hnone : (done.map Prod.fst).countP (entry.1 ≤ ·) = 0 := by
    refine List.countP_eq_zero.mpr fun v hv => ?_
    obtain ⟨e, he, rfl⟩ := List.mem_map.mp hv
    simpa using hfirst e he
  have hlength : done.length ≤ values.length := by
    rw [← hperm.length_eq]
    simp
  rw [hnone, zero_add] at hcount
  rw [rankTerm, corrected, hcount, Nat.cast_sub hlength]

/-- The running maximum before a value: it is zero at first, then the greatest
corrected value up to the last one. -/
def Running (values : List K) (done : List (K × ℕ)) (running : K) : Prop :=
  (done = [] ∧ running = 0) ∨ ∃ last, done.getLast? = some last ∧ IsGreatest (stepDown values last.1) running

/-- One step: the maximum is the greatest corrected value up to the next one. -/
theorem isGreatest_step {running : K} (hzero : 0 ≤ entry.1)
    (hsorted : (done ++ entry :: rest).Pairwise fun l r => l.1 ≤ r.1)
    (hperm : ((done ++ entry :: rest).map Prod.fst).Perm values) (h : Running values done running) :
    IsGreatest (stepDown values entry.1) (max running (rankTerm values.length done.length entry.1)) := by
  have hmem : entry.1 ∈ values := hperm.mem_iff.mp (List.mem_map_of_mem (by simp))
  -- the values up to this one stand before it, or are equal to it
  have hplace : ∀ v ∈ values, v ≤ entry.1 → (∃ e ∈ done, e.1 = v) ∨ v = entry.1 := by
    intro v hv hle
    obtain ⟨e, he, rfl⟩ := List.mem_map.mp (hperm.mem_iff.mpr hv)
    obtain he | he := List.mem_append.mp he
    · exact .inl ⟨e, he, rfl⟩
    · obtain rfl | he := List.mem_cons.mp he
      · exact .inr rfl
      · exact .inr (le_antisymm hle ((List.pairwise_cons.mp (List.pairwise_append.mp hsorted).2.1).1 e he))
  have hself : corrected values entry.1 ∈ stepDown values entry.1 := ⟨entry.1, ⟨hmem, le_rfl⟩, rfl⟩
  obtain ⟨rfl, rfl⟩ | ⟨last, hlast, hgreatest⟩ := h
  · have hterm := rankTerm_eq hsorted hperm (by simp)
    have hnonneg : 0 ≤ corrected values entry.1 :=
      le_min zero_le_one (mul_nonneg hzero (Nat.cast_nonneg _))
    rw [hterm, max_eq_right hnonneg]
    refine ⟨hself, ?_⟩
    rintro _ ⟨v, ⟨hv, hle⟩, rfl⟩
    obtain ⟨e, he, -⟩ | rfl := hplace v hv hle
    · exact absurd he List.not_mem_nil
    · exact le_rfl
  · have hmemlast : last ∈ done := List.mem_of_getLast? hlast
    have hlastle : last.1 ≤ entry.1 := (List.pairwise_append.mp hsorted).2.2 last hmemlast entry List.mem_cons_self
    have hdone : ∀ e ∈ done, e.1 ≤ last.1 := by
      obtain ⟨init, rfl⟩ := List.getLast?_eq_some_iff.mp hlast
      intro e he
      obtain he | he := List.mem_append.mp he
      · exact (List.pairwise_append.mp (List.pairwise_append.mp hsorted).1).2.2 e he last (List.mem_singleton_self _)
      · rw [List.mem_singleton.mp he]
    obtain hlt | heq := lt_or_eq_of_le hlastle
    · rw [rankTerm_eq hsorted hperm fun e he => (hdone e he).trans_lt hlt]
      constructor
      · obtain hmax | hmax := max_choice running (corrected values entry.1)
        · rw [hmax]
          exact stepDown_mono hlastle hgreatest.1
        · rwa [hmax]
      · rintro _ ⟨v, ⟨hv, hle⟩, rfl⟩
        obtain ⟨e, he, rfl⟩ | rfl := hplace v hv hle
        · exact le_max_of_le_left (hgreatest.2 ⟨e.1, ⟨hv, hdone e he⟩, rfl⟩)
        · exact le_max_right _ _
    · rw [heq] at hgreatest
      have hterm := (rankTerm_le hzero hsorted hperm).trans (hgreatest.2 hself)
      rwa [max_eq_left hterm]

/-- The state of the loop after some values. -/
structure Adjusted (values : List K) (done : List (K × ℕ)) (state : K × List (Option K)) : Prop where
  length : state.2.length = values.length
  running : Running values done state.1
  assigned : ∀ entry ∈ done, ∃ a, state.2[entry.2]? = some (some a) ∧ IsGreatest (stepDown values entry.1) a

theorem Adjusted.step {state : K × List (Option K)} (h : Adjusted values done state) (hzero : 0 ≤ entry.1)
    (hsorted : (done ++ entry :: rest).Pairwise fun l r => l.1 ≤ r.1)
    (hperm : ((done ++ entry :: rest).map Prod.fst).Perm values)
    (hnodup : ((done ++ entry :: rest).map Prod.snd).Nodup) (hindex : entry.2 < values.length) :
    Adjusted values (done ++ [entry]) (holmStep values.length state (entry, done.length)) := by
  have hgreatest := isGreatest_step hzero hsorted hperm h.running
  refine ⟨by simpa [holmStep] using h.length, .inr ⟨entry, by simp, hgreatest⟩, ?_⟩
  intro other hother
  obtain hold | hnew := List.mem_append.mp hother
  · obtain ⟨a, ha, hgreatest'⟩ := h.assigned other hold
    have hne : entry.2 ≠ other.2 := by
      rw [List.map_append, List.nodup_append] at hnodup
      exact Ne.symm (hnodup.2.2 _ (List.mem_map_of_mem hold) _ (by simp))
    exact ⟨a, by rw [holmStep, List.getElem?_set_ne hne, ha], hgreatest'⟩
  · rw [List.mem_singleton.mp hnew]
    refine ⟨_, ?_, hgreatest⟩
    rw [holmStep, List.getElem?_set_self (h.length ▸ hindex)]
    rfl

/-- The whole loop, by induction on what is done. -/
theorem adjusted_loop {ordered : List (K × ℕ)} (hunit : ∀ v ∈ values, 0 ≤ v)
    (hsorted : ordered.Pairwise fun l r => l.1 ≤ r.1) (hperm : (ordered.map Prod.fst).Perm values)
    (hnodup : (ordered.map Prod.snd).Nodup) (hindex : ∀ entry ∈ ordered, entry.2 < values.length) :
    ∀ {done rest : List (K × ℕ)}, ordered = done ++ rest →
      Adjusted values done (done.zipIdx.foldl (holmStep values.length) (0, List.replicate values.length none)) := by
  intro done
  induction done using List.reverseRecOn with
  | nil =>
    intro rest _
    exact ⟨by simp, .inl ⟨rfl, rfl⟩, by simp⟩
  | append_singleton done entry ih =>
    intro rest heq
    have hcons : ordered = done ++ entry :: rest := by rw [heq, List.append_assoc, List.singleton_append]
    have hbefore := ih hcons
    subst hcons
    have hzero : 0 ≤ entry.1 := hunit _ (hperm.mem_iff.mp (List.mem_map_of_mem (by simp)))
    rw [List.zipIdx_append, List.foldl_append]
    simpa using hbefore.step hzero hsorted hperm hnodup (hindex entry (by simp))

omit [Field K] [IsStrictOrderedRing K] in
theorem holmOrdered_perm (values : List K) : (holmOrdered values).Perm values.zipIdx := List.perm_insertionSort _ _

/-- Every value is assigned. -/
theorem holmAdjust_assigned (values : List K) (hunit : ∀ v ∈ values, 0 ≤ v) : (holmAdjust values).length = values.length ∧
    ∀ i (hi : i < values.length), ∃ a, (holmAdjust values)[i]? = some (some a) ∧
      IsGreatest (stepDown values values[i]) a := by
  have hperm := holmOrdered_perm values
  have hsorted : (holmOrdered values).Pairwise fun l r => l.1 ≤ r.1 := List.pairwise_insertionSort _ _
  have hloop := adjusted_loop hunit hsorted ?_ ?_ ?_ (List.append_nil _).symm
  · refine ⟨hloop.length, fun i hi => hloop.assigned (values[i], i) (hperm.mem_iff.mpr ?_)⟩
    rw [List.mem_zipIdx_iff_getElem?]
    exact List.getElem?_eq_getElem hi
  · have hvalues := hperm.map Prod.fst
    rwa [List.zipIdx_map_fst] at hvalues
  · refine (hperm.map Prod.snd).nodup_iff.mpr ?_
    rw [List.zipIdx_map_snd]
    exact List.nodup_range'
  · intro entry hentry
    have hget := List.mem_zipIdx_iff_getElem?.mp (hperm.mem_iff.mp hentry)
    exact (List.getElem?_eq_some_iff.mp hget).1

theorem eq_ofFn_of_getElem? {α : Type} {l : List α} {n : ℕ} {f : Fin n → α} (hlength : l.length = n)
    (h : ∀ i : Fin n, l[i.1]? = some (f i)) : l = List.ofFn f := by
  refine List.ext_getElem? fun i => ?_
  by_cases hi : i < n
  · rw [h ⟨i, hi⟩, List.getElem?_ofFn, dif_pos hi]
  · rw [List.getElem?_eq_none (by omega), List.getElem?_eq_none (by simpa using hi)]

/-- **The Holm step-down correction.** What `holmAdjust` assigns to a value is the
greatest corrected value among those up to it. So it is no less than the value
and at most one, keeps the order, is the same for equal values, and a
permutation of the list permutes it. -/
theorem holmAdjust_stepDown (values : List K) (hunit : ∀ v ∈ values, 0 ≤ v ∧ v ≤ 1) :
    ∃ adjusted : Fin values.length → K, holmAdjust values = List.ofFn (fun i => some (adjusted i)) ∧
      (∀ i, IsGreatest (stepDown values values[i]) (adjusted i)) ∧
      (∀ i, values[i] ≤ adjusted i ∧ adjusted i ≤ 1) ∧
      (∀ i j, values[i] ≤ values[j] → adjusted i ≤ adjusted j) ∧
      (∀ i j, values[i] = values[j] → adjusted i = adjusted j) ∧
      ∀ σ : Equiv.Perm (Fin values.length),
        holmAdjust (List.ofFn fun i => values[σ i]) = List.ofFn fun i => some (adjusted (σ i)) := by
  obtain ⟨hlength, hassigned⟩ := holmAdjust_assigned values fun v hv => (hunit v hv).1
  choose adjusted hget hgreatest using fun i : Fin values.length => hassigned i i.2
  refine ⟨adjusted, eq_ofFn_of_getElem? hlength hget, hgreatest, ?_, ?_, ?_, ?_⟩
  · intro i
    obtain ⟨hzero, hone⟩ := hunit values[i] (List.getElem_mem i.2)
    exact ⟨self_le_of_isGreatest (List.getElem_mem i.2) hzero hone (hgreatest i), le_one_of_isGreatest (hgreatest i)⟩
  · exact fun i j hle => le_of_isGreatest hle (hgreatest i) (hgreatest j)
  · exact fun i j heq => (heq ▸ hgreatest i).unique (hgreatest j)
  · intro σ
    have hperm : (List.ofFn fun i => values[σ i]).Perm values := by
      have hσ := σ.ofFn_comp_perm fun i : Fin values.length => values[i]
      have hall : (List.ofFn fun i : Fin values.length => values[i]) = values := by simp
      rwa [hall] at hσ
    obtain ⟨hlength', hassigned'⟩ := holmAdjust_assigned (List.ofFn fun i => values[σ i]) fun v hv =>
      (hunit v (hperm.mem_iff.mp hv)).1
    refine eq_ofFn_of_getElem? (by simpa using hlength') fun i => ?_
    obtain ⟨a, ha, hgreatest'⟩ := hassigned' i (by simp)
    rw [List.getElem_ofFn, stepDown_perm hperm] at hgreatest'
    rw [ha, hgreatest'.unique (hgreatest (σ i))]

/-- Three p-values, two of them equal. -/
def sampleValues : List ℚ := [1 / 25, 1 / 100, 1 / 25]

example : holmAdjust sampleValues = [some (2 / 25), some (3 / 100), some (2 / 25)] := by decide +kernel

theorem holmAdjust_sample : (∀ v ∈ sampleValues, 0 ≤ v ∧ v ≤ 1) ∧
    ∃ adjusted : Fin sampleValues.length → ℚ, holmAdjust sampleValues = List.ofFn (fun i => some (adjusted i)) ∧
      ∀ i j, sampleValues[i] ≤ sampleValues[j] → adjusted i ≤ adjusted j := by
  have hunit : ∀ v ∈ sampleValues, 0 ≤ v ∧ v ≤ 1 := by decide +kernel
  obtain ⟨adjusted, hadjusted, -, -, horder, -⟩ := holmAdjust_stepDown sampleValues hunit
  exact ⟨hunit, adjusted, hadjusted, horder⟩

end Evaluation
end Evllm
