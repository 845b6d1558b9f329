/-
# Pairs and clusters of one

Where every cluster holds one pair, both bootstraps draw the same elements from
the same random numbers. Only the sampled p-values differ in their convention:
the paired one swaps an element for a number below one half, the clustered one
for the others. So each assignment of the one is the complement of the other's,
with the sides exchanged, and the absolute difference is the same.

Key definitions: `clusterOf`.
Key theorems: `extremeAssignments_swap`, `clusters_of_one_agree`.
-/
import Evllm.Evaluation.Statistics
import Mathlib.Algebra.Order.Floor.Semiring
import Mathlib.Algebra.Order.Field.Basic
import Mathlib.Data.Rat.Floor
import Mathlib.Tactic.Linarith
import Mathlib.Tactic.NormNum

namespace Evllm
namespace Evaluation

open Lib

variable {K : Type} [Field K] [LinearOrder K] {T α β : Type}

/-- The cluster of one pair. -/
def clusterOf (pair : T × T) : List T × List T := ([pair.1], [pair.2])

/-! ### What the elements are mapped to -/

variable {f : α → β} {sides swapped : β → Sides T} {statistic : List T → K}

theorem allSides_map (items : List α) : allSides sides (items.map f) = allSides (sides ∘ f) items := by
  rw [allSides, allSides, List.foldl_map]
  rfl

theorem exactPValue_map (items : List α) (observed : K) :
    exactPValue sides swapped statistic (items.map f) observed =
      exactPValue (sides ∘ f) (swapped ∘ f) statistic items observed := by
  have hassignment : ∀ assignment, exactAssignment sides swapped (items.map f) assignment =
      exactAssignment (sides ∘ f) (swapped ∘ f) items assignment := by
    intro assignment
    rw [exactAssignment, exactAssignment, List.zipIdx_map, List.foldl_map]
    rfl
  simp only [exactPValue, List.length_map, hassignment]

theorem randomAssignment_map : ∀ (items : List α) (sample : Sides T) (state : BitVec 32),
    randomAssignment K sides swapped (items.map f) sample state =
      randomAssignment K (sides ∘ f) (swapped ∘ f) items sample state
  | [], _, _ => rfl
  | _ :: items, _, _ => randomAssignment_map items _ _

theorem extremeAssignments_map (items : List α) (observed : K) : ∀ (iterations : ℕ) (state : BitVec 32),
    extremeAssignments sides swapped statistic (items.map f) observed iterations state =
      extremeAssignments (sides ∘ f) (swapped ∘ f) statistic items observed iterations state
  | 0, _ => rfl
  | iterations + 1, state => by
    simp only [extremeAssignments, randomAssignment_map, extremeAssignments_map items observed iterations]

/-! ### The complement of an assignment -/

/-- The elements whose sides are exchanged give a sample whose sides are. -/
theorem randomAssignment_swap (hswapped : ∀ item, swapped item = (sides item).swap) :
    ∀ (items : List β) (sample : Sides T) (state : BitVec 32),
      randomAssignment K swapped sides items sample.swap state =
        ((randomAssignment K sides swapped items sample state).1.swap,
          (randomAssignment K sides swapped items sample state).2)
  | [], _, _ => rfl
  | item :: items, sample, state => by
    have hpush : push sample.swap (if randomOf K (xorshift32 state) < 1 / 2 then swapped item else sides item) =
        (push sample (if randomOf K (xorshift32 state) < 1 / 2 then sides item else swapped item)).swap := by
      split_ifs
      · rw [hswapped]
        rfl
      · rw [hswapped]
        rfl
    simp only [randomAssignment]
    rw [hpush]
    exact randomAssignment_swap hswapped items _ _

/-- Exchanged sides are as extreme. -/
theorem asExtreme_swap [IsStrictOrderedRing K] (observed : K) (sample : Sides T) :
    asExtreme statistic observed sample.swap = asExtreme statistic observed sample := by
  have hneg : difference statistic sample.swap = -difference statistic sample := (neg_sub _ _).symm
  rw [asExtreme, hneg, abs_neg, asExtreme]

/-- The complement of an assignment is as extreme. -/
theorem extremeAssignments_swap [IsStrictOrderedRing K] (hswapped : ∀ item, swapped item = (sides item).swap)
    (items : List β) (observed : K) : ∀ (iterations : ℕ) (state : BitVec 32),
      extremeAssignments swapped sides statistic items observed iterations state =
        extremeAssignments sides swapped statistic items observed iterations state
  | 0, _ => rfl
  | iterations + 1, state => by
    have hrun := randomAssignment_swap (K := K) hswapped items ([], []) state
    simp only [Prod.swap_prod_mk] at hrun
    simp only [extremeAssignments, hrun, extremeAssignments_swap hswapped items observed iterations, asExtreme_swap]

/-! ### Samples -/

variable [FloorRing K]

theorem draw_map (f : α → β) (items : List α) (state : BitVec 32) :
    draw K (items.map f) state = (draw K items state).map fun drawn => (f drawn.1, drawn.2) := by
  simp only [draw, List.length_map, List.getElem?_map, Option.map_map]
  rfl

/-- A sample of what the elements are mapped to. -/
theorem bootstrapSample_map (items : List α) : ∀ (remaining : ℕ) (sample : Sides T) (state : BitVec 32),
    bootstrapSample K sides (items.map f) remaining sample state =
      bootstrapSample K (sides ∘ f) items remaining sample state
  | 0, _, _ => rfl
  | remaining + 1, sample, state => by
    simp only [bootstrapSample, draw_map]
    cases draw K items state with
    | none => rfl
    | some drawn => exact bootstrapSample_map items remaining _ _

theorem bootstrapSamples_map (items : List α) : ∀ (iterations : ℕ) (state : BitVec 32),
    bootstrapSamples sides statistic (items.map f) iterations state =
      bootstrapSamples (sides ∘ f) statistic items iterations state
  | 0, _ => rfl
  | iterations + 1, state => by
    simp only [bootstrapSamples, List.length_map, bootstrapSample_map]
    refine bind_congr fun drawn => ?_
    rw [bootstrapSamples_map items iterations]

/-! ### Samples exist -/

variable [IsStrictOrderedRing K]

omit [FloorRing K] in
theorem randomOf_bounds (state : BitVec 32) : 0 ≤ randomOf K state ∧ randomOf K state < 1 := by
  have hlt : (state.toNat : K) < 4294967296 := by exact_mod_cast state.isLt
  refine ⟨div_nonneg (Nat.cast_nonneg _) (by norm_num), ?_⟩
  rw [randomOf, div_lt_one (by norm_num)]
  exact hlt

/-- Every random number draws an element. -/
theorem draw_some {items : List α} (hne : items ≠ []) (state : BitVec 32) : ∃ drawn, draw K items state = some drawn := by
  obtain ⟨hzero, hone⟩ := randomOf_bounds (K := K) (xorshift32 state)
  have hpos : (0 : K) < items.length := by exact_mod_cast List.length_pos_of_ne_nil hne
  have hindex : ⌊randomOf K (xorshift32 state) * items.length⌋.toNat < items.length := by
    have hfloor : ⌊randomOf K (xorshift32 state) * items.length⌋ < (items.length : ℤ) := by
      rw [Int.floor_lt]
      exact_mod_cast (mul_lt_iff_lt_one_left hpos).mpr hone
    have hlength := List.length_pos_of_ne_nil hne
    omega
  exact ⟨(items[⌊randomOf K (xorshift32 state) * items.length⌋.toNat], xorshift32 state), by
    rw [draw, List.getElem?_eq_getElem hindex]
    rfl⟩

variable (K) in
theorem bootstrapSample_some (sides : α → Sides T) {items : List α} (hne : items ≠ []) :
    ∀ (remaining : ℕ) (sample : Sides T) (state : BitVec 32),
      ∃ drawn, bootstrapSample K sides items remaining sample state = some drawn
  | 0, sample, state => ⟨(sample, state), rfl⟩
  | remaining + 1, sample, state => by
    obtain ⟨⟨item, next⟩, hdraw⟩ := draw_some (K := K) hne state
    obtain ⟨drawn, hdrawn⟩ := bootstrapSample_some sides hne remaining (push sample (sides item)) next
    exact ⟨drawn, by simp only [bootstrapSample, hdraw, Option.bind_eq_bind, Option.bind_some, hdrawn]⟩

theorem bootstrapSamples_some (sides : α → Sides T) (statistic : List T → K) {items : List α} (hne : items ≠ []) :
    ∀ (iterations : ℕ) (state : BitVec 32),
      ∃ samples, bootstrapSamples sides statistic items iterations state = some samples ∧ samples.length = iterations
  | 0, _ => ⟨[], rfl, rfl⟩
  | iterations + 1, state => by
    obtain ⟨⟨sample, next⟩, hsample⟩ := bootstrapSample_some K sides hne items.length ([], []) state
    obtain ⟨samples, hsamples, hlength⟩ := bootstrapSamples_some sides statistic hne iterations next
    refine ⟨difference statistic sample :: samples, ?_, by simp [hlength]⟩
    simp only [bootstrapSamples, hsample, hsamples, Option.bind_eq_bind, Option.bind_some]
    rfl

theorem percentileSorted_some {values : List K} (hne : values ≠ []) (probability : K) (hzero : 0 ≤ probability)
    (hone : probability ≤ 1) : ∃ value, percentileSorted values probability = some value := by
  have hlength : 1 ≤ values.length := List.length_pos_of_ne_nil hne
  have hlast : (0 : K) ≤ (values.length : K) - 1 := by
    rw [sub_nonneg]
    exact_mod_cast hlength
  have hposition : 0 ≤ ((values.length : K) - 1) * probability := mul_nonneg hlast hzero
  have hupper : ⌈((values.length : K) - 1) * probability⌉ ≤ (values.length : ℤ) - 1 := by
    rw [Int.ceil_le]
    push_cast
    exact mul_le_of_le_one_right hlast hone
  have hfloor : ⌊((values.length : K) - 1) * probability⌋ ≤ ⌈((values.length : K) - 1) * probability⌉ :=
    Int.floor_le_ceil _
  have hin : ∀ i : ℤ, i ≤ (values.length : ℤ) - 1 → i.toNat < values.length := by
    intro i hi
    omega
  unfold percentileSorted
  simp only [List.getElem?_eq_getElem (hin _ hupper), List.getElem?_eq_getElem (hin _ (hfloor.trans hupper))]
  split_ifs
  · exact ⟨_, rfl⟩
  · exact ⟨_, rfl⟩

/-- A bootstrap of enough samples has an effect. -/
theorem bootstrapEffect_ok {samples : List K} (hne : samples ≠ []) (estimate pValue : K) :
    ∃ effect, bootstrapEffect estimate (some samples) pValue = .ok effect := by
  have hsorted : (samples.insertionSort fun left right => left ≤ right) ≠ [] := by
    intro hnil
    exact hne (List.length_eq_zero_iff.mp (by rw [← List.length_insertionSort (fun l r : K => l ≤ r) samples, hnil]; rfl))
  obtain ⟨lower, hlower⟩ := percentileSorted_some hsorted (1 / 40) (by norm_num) (by norm_num)
  obtain ⟨upper, hupper⟩ := percentileSorted_some hsorted (39 / 40) (by norm_num) (by norm_num)
  refine ⟨⟨estimate, lower, upper, pValue⟩, ?_⟩
  simp only [bootstrapEffect, Option.bind_eq_bind, Option.bind_some, hlower, hupper]
  rfl

/-! ### Pairs and clusters -/

/-- The p-values agree. -/
theorem pairedClusterRandomizationPValue_clusterOf (pairs : List (T × T)) (statistic : List T → K) (iterations : ℕ)
    (seed : K) : pairedClusterRandomizationPValue (pairs.map clusterOf) statistic iterations seed =
      pairedRandomizationPValue pairs statistic iterations seed := by
  have hsides : (clusterSides ∘ clusterOf : T × T → Sides T) = pairSides := rfl
  have hswapped : (clusterSwapped ∘ clusterOf : T × T → Sides T) = pairSwapped := rfl
  have hpair : ∀ pair : T × T, pairSwapped pair = (pairSides pair).swap := fun _ => rfl
  have hextreme : ∀ observed state, extremeAssignments pairSwapped pairSides statistic pairs observed iterations state =
      extremeAssignments pairSides pairSwapped statistic pairs observed iterations state :=
    fun observed state => extremeAssignments_swap hpair pairs observed iterations state
  simp only [pairedClusterRandomizationPValue, pairedRandomizationPValue, allSides_map, exactPValue_map, sampledPValue,
    extremeAssignments_map, List.length_map, hsides, hswapped, hextreme]

/-- **Pairs and clusters of one agree**, in the exact and in the sampled regime. -/
theorem clusters_of_one_agree {pairs : List (T × T)} (hne : pairs ≠ []) (statistic : List T → K) {iterations : ℕ}
    (hiterations : 100 ≤ iterations) (seed : K) :
    ∃ effect, pairedBootstrapStatisticDifference pairs statistic iterations seed = .ok effect ∧
      pairedClusterBootstrapStatisticDifference (pairs.map clusterOf) statistic iterations seed = .ok effect := by
  obtain ⟨samples, hsamples, hlength⟩ := bootstrapSamples_some pairSides statistic hne iterations (toInt32 seed)
  have hsome : samples ≠ [] := by
    rintro rfl
    simp at hlength
    omega
  obtain ⟨effect, heffect⟩ := bootstrapEffect_ok hsome (difference statistic (allSides pairSides pairs))
    (pairedRandomizationPValue pairs statistic iterations (randomizationSeed seed))
  have hsides : (clusterSides ∘ clusterOf : T × T → Sides T) = pairSides := rfl
  refine ⟨effect, ?_, ?_⟩
  · rw [pairedBootstrapStatisticDifference, throwIf_bind_of_not, hsamples, heffect]
    simp [hne, hiterations]
  · rw [pairedClusterBootstrapStatisticDifference, validatePairedClusters, throwIf_bind_of_not, allSides_map,
      bootstrapSamples_map, pairedClusterRandomizationPValue_clusterOf, hsides, hsamples, heffect]
    simp [hne, hiterations, clusterOf]

/-- Pairs of numbers, and the first of them as the statistic. -/
theorem clusters_of_one_agree_first : [((3 : ℚ), (1 : ℚ)), (2, 5)] ≠ [] ∧ 100 ≤ 100 ∧
    ∃ effect, pairedBootstrapStatisticDifference [((3 : ℚ), (1 : ℚ)), (2, 5)] (fun values => values.headD 0) 100 7 =
        .ok effect ∧
      pairedClusterBootstrapStatisticDifference ([((3 : ℚ), (1 : ℚ)), (2, 5)].map clusterOf)
        (fun values => values.headD 0) 100 7 = .ok effect :=
  ⟨List.cons_ne_nil _ _, le_rfl, clusters_of_one_agree (List.cons_ne_nil _ _) _ le_rfl _⟩

end Evaluation
end Evllm
