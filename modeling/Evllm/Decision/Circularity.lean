/-
# The bounds of the circularity score

`circularityScore` rates a route between 0 and 100: the weighted mean of its
ratings, an absent rating counting as the least for the lower bound and as the
greatest for the upper. It checks that the weights sum to one, but not that
they are non-negative: with weights of 2 and -1 a score leaves the interval,
and a rating that comes in widens the bounds.

The bounds are the half-even roundings of two exact scores (`Scored`), so they
keep their law just where the negative weights do no harm that shows at six
places (`Harmless`).

Key definitions: `leastScore`, `greatestScore`, `Replaces`, `SoundBounds`,
`Harmless`.
Key theorems: `circularityScore_ok`, `circularityScore_returns`,
`circularityScore_sound_iff`.
-/
import Evllm.Decision.Exactness
import Evllm.Decision.Measures

namespace Evllm
namespace Decision

open Lib ExactDecimal

/-! ### The exact scores -/

namespace CircularityCriterion

/-- The weighted rating, with one for an absent rating. -/
def rated (absent : ℕ) (c : CircularityCriterion) : ℚ := denoted c.weight * ((c.rating.map Subtype.val).getD absent : ℕ)

/-- What a rating adds above the least. -/
def earned (c : CircularityCriterion) : ℚ := (c.rating.map fun r => denoted c.weight * (r.val - 1)).getD 0

/-- What a rating lacks below the greatest. -/
def forgone (c : CircularityCriterion) : ℚ := (c.rating.map fun r => denoted c.weight * (5 - r.val)).getD 0

/-- The weight of an absent rating. -/
def undecided (c : CircularityCriterion) : ℚ := if c.rating = none then denoted c.weight else 0

theorem rated_one (c : CircularityCriterion) : c.rated 1 = c.earned + denoted c.weight := by
  unfold rated earned
  cases c.rating with
  | none => simp
  | some r =>
    simp only [Option.map_some, Option.getD_some]
    ring

theorem rated_five (c : CircularityCriterion) : c.rated 5 = 5 * denoted c.weight - c.forgone := by
  unfold rated forgone
  cases c.rating with
  | none => simp [mul_comm]
  | some r =>
    simp only [Option.map_some, Option.getD_some]
    ring

theorem earned_add_forgone (c : CircularityCriterion) :
    c.earned + c.forgone = 4 * denoted c.weight - 4 * c.undecided := by
  unfold earned forgone undecided
  cases c.rating with
  | none => simp
  | some r =>
    simp only [Option.map_some, Option.getD_some, reduceCtorEq, if_false]
    ring

end CircularityCriterion

open CircularityCriterion

variable {criteria : List CircularityCriterion} {score : Circularity}

def leastScore (criteria : List CircularityCriterion) : ℚ := 25 * (criteria.map earned).sum

def greatestScore (criteria : List CircularityCriterion) : ℚ := 100 - 25 * (criteria.map forgone).sum

/-- What the weights sum to. -/
def weightSum (criteria : List CircularityCriterion) : ℚ := (criteria.map fun c => denoted c.weight).sum

theorem sum_rated_one (criteria : List CircularityCriterion) :
    (criteria.map (rated 1)).sum = (criteria.map earned).sum + weightSum criteria := by
  unfold weightSum
  rw [← List.sum_map_add]
  exact congrArg List.sum (List.map_congr_left fun c _ => c.rated_one)

theorem sum_rated_five : ∀ criteria : List CircularityCriterion,
    (criteria.map (rated 5)).sum = 5 * weightSum criteria - (criteria.map forgone).sum
  | [] => by simp [weightSum]
  | c :: criteria => by
    have hrest := sum_rated_five criteria
    unfold weightSum at hrest ⊢
    rw [List.map_cons, List.sum_cons, hrest, c.rated_five, List.map_cons, List.sum_cons, List.map_cons, List.sum_cons]
    ring

theorem sum_earned_add_forgone : ∀ criteria : List CircularityCriterion,
    (criteria.map earned).sum + (criteria.map forgone).sum = 4 * weightSum criteria - 4 * (criteria.map undecided).sum
  | [] => by simp [weightSum]
  | c :: criteria => by
    have hrest := sum_earned_add_forgone criteria
    have hhead := c.earned_add_forgone
    unfold weightSum at hrest ⊢
    simp only [List.map_cons, List.sum_cons]
    linarith

/-- The bounds are as far apart as the weights of the absent ratings. -/
theorem greatestScore_sub (h : weightSum criteria = 1) :
    greatestScore criteria - leastScore criteria = 100 * (criteria.map undecided).sum := by
  have hsum := sum_earned_add_forgone criteria
  unfold greatestScore leastScore
  linarith

/-! ### What the code computes -/

theorem weightedSum_ok {absent : ℕ} {total z : ExactDecimal} {c : CircularityCriterion}
    (h : weightedSum absent total c = .ok z) : z.toRat = total.toRat + c.rated absent := by
  simp only [weightedSum, bind_eq_ok, dec_eq_ok] at h
  obtain ⟨weight, hweight, rating, hrating, product, hproduct, hsum⟩ := h
  rw [add_ok hsum, multiply_ok hproduct, parse_toRat hweight, fromInteger_ok hrating, Int.cast_natCast, rated]

theorem totalWeight_ok {zero total : ExactDecimal}
    (h : criteria.foldlM (fun total criterion => do dec (add total (← dec (parse criterion.weight)))) zero = .ok total) :
    total.toRat = zero.toRat + weightSum criteria := by
  refine foldlM_history (I := fun done (total : ExactDecimal) => total.toRat = zero.toRat + weightSum done)
    (fun done c rest total total' _ htotal hstep => ?_) (by simp [weightSum]) h
  simp only [bind_eq_ok, dec_eq_ok] at hstep
  obtain ⟨weight, hweight, hsum⟩ := hstep
  rw [add_ok hsum, htotal, parse_toRat hweight]
  simp only [weightSum, List.map_append, List.sum_append, List.map_cons, List.map_nil, List.sum_singleton]
  ring

theorem scoreBounds_ok {zero : ExactDecimal} {bounds : ExactDecimal × ExactDecimal}
    (h : criteria.foldlM scoreBounds (zero, zero) = .ok bounds) :
    bounds.1.toRat = zero.toRat + (criteria.map (rated 1)).sum ∧ bounds.2.toRat = zero.toRat + (criteria.map (rated 5)).sum := by
  refine foldlM_history (I := fun done (bounds : ExactDecimal × ExactDecimal) =>
    bounds.1.toRat = zero.toRat + (done.map (rated 1)).sum ∧ bounds.2.toRat = zero.toRat + (done.map (rated 5)).sum)
    (fun done c rest bounds bounds' _ hbounds hstep => ?_) (by simp) h
  simp only [scoreBounds, bind_eq_ok, pure_eq_ok] at hstep
  obtain ⟨lower, hlower, upper, hupper, rfl⟩ := hstep
  simp only [List.map_append, List.sum_append, List.map_cons, List.map_nil, List.sum_singleton]
  rw [weightedSum_ok hlower, weightedSum_ok hupper, hbounds.1, hbounds.2, add_assoc, add_assoc]
  exact ⟨rfl, rfl⟩

theorem normalizeScore_ok {weighted : ExactDecimal} {s : String} (h : normalizeScore weighted = .ok s) :
    ∃ z : ExactDecimal, s = z.toCanonical ∧ RoundsTo 6 (25 * (weighted.toRat - 1)) z.toRat := by
  simp only [normalizeScore, bind_eq_ok, dec_eq_ok, pure_eq_ok] at h
  obtain ⟨one, hone, above, habove, hundred, hhundred, scaled, hscaled, four, hfour, z, hz, rfl⟩ := h
  have hrounds := (divide_ok hz).1
  rw [multiply_ok hscaled, subtract_ok habove, fromInteger_ok hone, fromInteger_ok hhundred, fromInteger_ok hfour] at hrounds
  have hscore : 25 * (weighted.toRat - 1) = (weighted.toRat - (1 : ℤ)) * (100 : ℤ) / (4 : ℤ) := by
    push_cast
    ring
  exact ⟨z, rfl, hscore ▸ hrounds⟩

/-- Every weight is a decimal. -/
def AllReadable (criteria : List CircularityCriterion) : Prop := ∀ c ∈ criteria, Readable c.weight

/-- The criteria are acceptable. -/
structure Weighted (criteria : List CircularityCriterion) : Prop where
  nonempty : criteria ≠ []
  distinct : (criteria.map CircularityCriterion.id).Nodup
  readable : AllReadable criteria
  total : weightSum criteria = 1

/-- The bounds are the rounded scores, and coincide where no rating is absent. -/
structure Scored (criteria : List CircularityCriterion) (score : Circularity) : Prop where
  lower : ∃ z : ExactDecimal, score.lower = z.toCanonical ∧ RoundsTo 6 (leastScore criteria) z.toRat
  upper : ∃ z : ExactDecimal, score.upper = z.toCanonical ∧ RoundsTo 6 (greatestScore criteria) z.toRat
  value : score.value = if criteria.all fun c => c.rating.isSome then some score.lower else none

theorem readable_of_totalWeight {zero total : ExactDecimal}
    (h : criteria.foldlM (fun total criterion => do dec (add total (← dec (parse criterion.weight)))) zero = .ok total) :
    AllReadable criteria := by
  refine foldlM_history (I := fun done (_ : ExactDecimal) => AllReadable done)
    (fun done c rest total total' _ hread hstep c' hc' => ?_) (fun c hc => (nomatch hc)) h
  obtain hold | hnew := List.mem_append.mp hc'
  · exact hread c' hold
  · simp only [bind_eq_ok, dec_eq_ok] at hstep
    obtain ⟨weight, hweight, -⟩ := hstep
    rw [List.mem_singleton.mp hnew]
    exact ⟨weight, hweight⟩

theorem circularityScore_ok (h : circularityScore criteria = .ok score) : Weighted criteria ∧ Scored criteria score := by
  simp only [circularityScore, rejectIf, bind_eq_ok, throwIf_eq_ok, dec_eq_ok, pure_eq_ok] at h
  obtain ⟨-, haccepted, zero, hzero, total, htotal, one, hone, sign, hsign, -, hequal, bounds, hbounds, lower, hlower,
    upper, hupper, rfl⟩ := h
  rw [not_or, not_not] at haccepted
  rw [not_not] at hequal
  have hweights : weightSum criteria = 1 := by
    have hcompare := compare_ok hsign
    have hsum := totalWeight_ok htotal
    rw [fromInteger_ok hzero, Int.cast_zero, zero_add] at hsum
    rw [hequal, fromInteger_ok hone, hsum, Int.cast_one] at hcompare
    exact le_antisymm (not_lt.mp fun hlt => absurd (hcompare.2.mpr hlt) (lt_irrefl 0)) (hcompare.1.mp le_rfl)
  obtain ⟨hleast, hgreatest⟩ := scoreBounds_ok hbounds
  rw [fromInteger_ok hzero, Int.cast_zero, zero_add] at hleast hgreatest
  obtain ⟨zl, hzl, hlowRounds⟩ := normalizeScore_ok hlower
  obtain ⟨zu, hzu, hhighRounds⟩ := normalizeScore_ok hupper
  have hlow : 25 * (bounds.1.toRat - 1) = leastScore criteria := by
    rw [hleast, sum_rated_one, hweights, leastScore]
    ring
  have hhigh : 25 * (bounds.2.toRat - 1) = greatestScore criteria := by
    rw [hgreatest, sum_rated_five, hweights, greatestScore]
    ring
  exact ⟨⟨haccepted.1, haccepted.2, readable_of_totalWeight htotal, hweights⟩,
    ⟨⟨zl, hzl, hlow ▸ hlowRounds⟩, ⟨zu, hzu, hhigh ▸ hhighRounds⟩, rfl⟩⟩

/-- A JavaScript array is too short for its weights to overflow: a readable weight
is at most `10 ^ 38`, with 18 places. -/
theorem weightTotal_le : ∀ {criteria : List CircularityCriterion}, AllReadable criteria →
    weightTotal criteria ≤ criteria.length * 10 ^ 38
  | [], _ => by simp
  | c :: criteria, h => by
    obtain ⟨x, hx⟩ := reads_of_readable (h c List.mem_cons_self)
    have hhead := hx.abs_le
    rw [hx.toRat] at hhead
    have hrest := weightTotal_le fun c' hc' => h c' (List.mem_cons_of_mem _ hc')
    rw [weightTotal_cons, List.length_cons]
    push_cast
    linarith

theorem circularityScore_returns (h : Weighted criteria) (hlength : criteria.length < 2 ^ 53) :
    ∃ score, circularityScore criteria = .ok score := by
  have hlimit : (10 ^ 58 : ℚ) * 10 ^ 18 < 10 ^ 80 := by norm_num
  have hroom : 5 * weightTotal criteria ≤ 10 ^ 58 := by
    have hcast : (criteria.length : ℚ) ≤ 2 ^ 53 := by exact_mod_cast hlength.le
    have hsize := weightTotal_le h.readable
    have hmul : (criteria.length : ℚ) * 10 ^ 38 ≤ 2 ^ 53 * 10 ^ 38 := mul_le_mul_of_nonneg_right hcast (by norm_num)
    have hnumbers : (5 * (2 ^ 53 * 10 ^ 38) : ℚ) ≤ 10 ^ 58 := by norm_num
    linarith
  have hnonneg := weightTotal_nonneg criteria
  obtain ⟨zero, hzero, hzeroRat, hzeroScale⟩ := fromInteger_of_le (n := 0) (by norm_num)
  obtain ⟨one, hone, honeRat, honeScale⟩ := fromInteger_of_le (n := 1) (by norm_num)
  have hzeroAbs : |zero.toRat| = 0 := by simp [hzeroRat]
  have hplaces : zero.scale ≤ 18 := hzeroScale.le.trans (by decide)
  have hroomForWeights : RoomFor (10 ^ 58) (weightTotal criteria) zero := ⟨by rw [hzeroAbs]; linarith, hplaces⟩
  have hroomForRatings : RoomFor (10 ^ 58) (5 * weightTotal criteria) zero := ⟨by rw [hzeroAbs]; linarith, hplaces⟩
  obtain ⟨total, htotal, htotalRoom⟩ := exists_of_lands (totalWeight_lands hlimit h.readable hroomForWeights)
  have hsum : total.toRat = 1 := by rw [totalWeight_ok htotal, hzeroRat, h.total, Int.cast_zero, zero_add]
  obtain ⟨sign, hsign⟩ := compare_of_le htotalRoom.2 (honeScale.le.trans (by decide : 0 ≤ 18))
    (by rw [hsum, honeRat]; norm_num)
  have hequal : sign = 0 := by
    have hcompare := compare_ok hsign
    rw [hsum, honeRat, Int.cast_one] at hcompare
    have hge := hcompare.1.mpr le_rfl
    have hle : ¬0 < sign := fun hlt => absurd (hcompare.2.mp hlt) (lt_irrefl _)
    omega
  obtain ⟨bounds, hbounds, hlowRoom, hhighRoom⟩ := exists_of_lands (scoreBounds_lands hlimit h.readable hroomForRatings)
  obtain ⟨lower, hlower, -⟩ := exists_of_lands (normalizeScore_written le_rfl hlowRoom)
  obtain ⟨upper, hupper, -⟩ := exists_of_lands (normalizeScore_written le_rfl hhighRoom)
  refine ⟨⟨lower, upper, if criteria.all (fun c => c.rating.isSome) then some lower else none⟩, ?_⟩
  simp only [circularityScore, rejectIf, bind_eq_ok, throwIf_eq_ok, dec_eq_ok, pure_eq_ok]
  exact ⟨⟨⟩, by simp [h.nonempty, h.distinct], zero, hzero, total, htotal, one, hone, sign, hsign, ⟨⟩,
    not_not.mpr hequal, bounds, hbounds, lower, hlower, upper, hupper, rfl⟩

/-! ### The law of the bounds -/

/-- A criterion without a rating is given one. -/
def Replaces (criteria : List CircularityCriterion) (criterion : CircularityCriterion) (rating : Rating)
    (replaced : List CircularityCriterion) : Prop :=
  criterion.rating = none ∧ ∃ before after, criteria = before ++ criterion :: after ∧
    replaced = before ++ { criterion with rating := some rating } :: after

structure SoundBounds (criteria : List CircularityCriterion) (score : Circularity) : Prop where
  ordered : 0 ≤ denoted score.lower ∧ denoted score.lower ≤ denoted score.upper ∧ denoted score.upper ≤ 100
  narrower : ∀ criterion rating replaced, Replaces criteria criterion rating replaced →
    ∃ score', circularityScore replaced = .ok score' ∧
      denoted score.lower ≤ denoted score'.lower ∧ denoted score'.upper ≤ denoted score.upper
  complete : (∀ c ∈ criteria, c.rating.isSome = true) → score.lower = score.upper ∧ score.value = some score.lower

/-- The weights do no harm that shows at six places. The ratings that are there
earn and lack nothing negative, and neither one absent rating nor all of them
together weigh less than nothing. -/
structure Harmless (criteria : List CircularityCriterion) : Prop where
  earned : -(2 / 10 ^ 8) ≤ (criteria.map earned).sum
  forgone : -(2 / 10 ^ 8) ≤ (criteria.map forgone).sum
  together : 0 ≤ (criteria.map undecided).sum ∨ SameRounding 6 (leastScore criteria) (greatestScore criteria)
  each : ∀ c ∈ criteria, c.rating = none → 0 ≤ denoted c.weight ∨
    SameRounding 6 (leastScore criteria) (leastScore criteria + 100 * denoted c.weight) ∧
      SameRounding 6 (greatestScore criteria) (greatestScore criteria - 100 * denoted c.weight)

section Replaced

variable {criterion : CircularityCriterion} {rating : Rating} {replaced : List CircularityCriterion}

theorem Replaces.weighted (h : Replaces criteria criterion rating replaced) (hweighted : Weighted criteria) :
    Weighted replaced := by
  obtain ⟨-, before, after, rfl, rfl⟩ := h
  have hids : (before ++ { criterion with rating := some rating } :: after).map CircularityCriterion.id =
      (before ++ criterion :: after).map CircularityCriterion.id := by simp
  have hsum : weightSum (before ++ { criterion with rating := some rating } :: after) =
      weightSum (before ++ criterion :: after) := by simp [weightSum]
  refine ⟨by simp, hids ▸ hweighted.distinct, fun c hc => ?_, hsum ▸ hweighted.total⟩
  obtain hbefore | rfl | hafter := by simpa using hc
  · exact hweighted.readable c (by simp [hbefore])
  · exact hweighted.readable criterion (by simp)
  · exact hweighted.readable c (by simp [hafter])

theorem Replaces.length_eq (h : Replaces criteria criterion rating replaced) : replaced.length = criteria.length := by
  obtain ⟨-, before, after, rfl, rfl⟩ := h
  simp

theorem Replaces.leastScore_eq (h : Replaces criteria criterion rating replaced) :
    leastScore replaced = leastScore criteria + 25 * (denoted criterion.weight * (rating.val - 1)) := by
  obtain ⟨hnone, before, after, rfl, rfl⟩ := h
  have hold : CircularityCriterion.earned criterion = 0 := by simp [CircularityCriterion.earned, hnone]
  have hnew : CircularityCriterion.earned { criterion with rating := some rating } =
      denoted criterion.weight * (rating.val - 1) := rfl
  simp only [leastScore, List.map_append, List.map_cons, List.sum_append, List.sum_cons, hold, hnew]
  ring

theorem Replaces.greatestScore_eq (h : Replaces criteria criterion rating replaced) :
    greatestScore replaced = greatestScore criteria - 25 * (denoted criterion.weight * (5 - rating.val)) := by
  obtain ⟨hnone, before, after, rfl, rfl⟩ := h
  have hold : CircularityCriterion.forgone criterion = 0 := by simp [CircularityCriterion.forgone, hnone]
  have hnew : CircularityCriterion.forgone { criterion with rating := some rating } =
      denoted criterion.weight * (5 - rating.val) := rfl
  simp only [greatestScore, List.map_append, List.map_cons, List.sum_append, List.sum_cons, hold, hnew]
  ring

/-- A rating can be given to any criterion that lacks one. -/
theorem exists_replaces {c : CircularityCriterion} (hc : c ∈ criteria) (hnone : c.rating = none) (rating : Rating) :
    ∃ replaced, Replaces criteria c rating replaced := by
  obtain ⟨before, after, rfl⟩ := List.append_of_mem hc
  exact ⟨_, hnone, before, after, rfl, rfl⟩

end Replaced

/-! ### When the bounds keep their law -/

theorem Scored.lower_rounds (h : Scored criteria score) : RoundsTo 6 (leastScore criteria) (denoted score.lower) := by
  obtain ⟨z, hz, hrounds⟩ := h.lower
  rwa [hz, denoted_toCanonical]

theorem Scored.upper_rounds (h : Scored criteria score) : RoundsTo 6 (greatestScore criteria) (denoted score.upper) := by
  obtain ⟨z, hz, hrounds⟩ := h.upper
  rwa [hz, denoted_toCanonical]

theorem Scored.nonneg_iff (h : Scored criteria score) :
    0 ≤ denoted score.lower ↔ -(2 / 10 ^ 8) ≤ (criteria.map earned).sum := by
  have heven := h.lower_rounds.even_le_iff (n := 0) (by decide)
  rw [Int.cast_zero, zero_div] at heven
  rw [heven, leastScore]
  constructor
  · intro hle
    linarith
  · intro hle
    linarith

theorem Scored.le_hundred_iff (h : Scored criteria score) :
    denoted score.upper ≤ 100 ↔ -(2 / 10 ^ 8) ≤ (criteria.map forgone).sum := by
  have heven := h.upper_rounds.le_even_iff (n := 100 * 10 ^ 6) (by decide)
  have hhundred : ((100 * 10 ^ 6 : ℤ) : ℚ) / 10 ^ 6 = 100 := by norm_num
  rw [hhundred] at heven
  rw [heven, greatestScore]
  constructor
  · intro hle
    linarith
  · intro hle
    linarith

theorem Scored.le_iff (h : Scored criteria score) (htotal : weightSum criteria = 1) :
    denoted score.lower ≤ denoted score.upper ↔
      0 ≤ (criteria.map undecided).sum ∨ SameRounding 6 (leastScore criteria) (greatestScore criteria) := by
  have hapart := greatestScore_sub htotal
  have hle : leastScore criteria ≤ greatestScore criteria ↔ 0 ≤ (criteria.map undecided).sum := by
    constructor
    · intro hle
      linarith
    · intro hle
      linarith
  rw [h.lower_rounds.le_iff h.upper_rounds, hle]

/-- Where no rating is absent, the two scores are one. -/
theorem Scored.complete (h : Scored criteria score) (htotal : weightSum criteria = 1)
    (hall : ∀ c ∈ criteria, c.rating.isSome = true) : score.lower = score.upper ∧ score.value = some score.lower := by
  have hundecided : (criteria.map undecided).sum = 0 := by
    refine List.sum_eq_zero fun q hq => ?_
    obtain ⟨c, hc, rfl⟩ := List.mem_map.mp hq
    exact if_neg (Option.isSome_iff_ne_none.mp (hall c hc))
  have hsame : greatestScore criteria = leastScore criteria := by
    have hapart := greatestScore_sub htotal
    rw [hundecided] at hapart
    linarith
  obtain ⟨zl, hzl, hlower⟩ := h.lower
  obtain ⟨zu, hzu, hupper⟩ := h.upper
  rw [hsame] at hupper
  obtain ⟨hcoefficient, hscale⟩ := toRat_eq_iff.mp (hlower.unique hupper)
  refine ⟨?_, by rw [h.value, if_pos (List.all_eq_true.mpr hall)]⟩
  rw [hzl, hzu]
  unfold toCanonical
  rw [hcoefficient, hscale]

/-- Weights that are not negative do no harm. -/
theorem harmless_of_nonneg (h : ∀ c ∈ criteria, 0 ≤ denoted c.weight) : Harmless criteria := by
  have hnonneg : ∀ f : CircularityCriterion → ℚ, (∀ c ∈ criteria, 0 ≤ f c) → 0 ≤ (criteria.map f).sum := by
    intro f hf
    refine List.sum_nonneg fun q hq => ?_
    obtain ⟨c, hc, rfl⟩ := List.mem_map.mp hq
    exact hf c hc
  have hearned : 0 ≤ (criteria.map earned).sum := by
    refine hnonneg earned fun c hc => ?_
    unfold earned
    cases c.rating with
    | none => exact le_rfl
    | some r => exact mul_nonneg (h c hc) (sub_nonneg.mpr (by exact_mod_cast r.2.1))
  have hforgone : 0 ≤ (criteria.map forgone).sum := by
    refine hnonneg forgone fun c hc => ?_
    unfold forgone
    cases c.rating with
    | none => exact le_rfl
    | some r => exact mul_nonneg (h c hc) (sub_nonneg.mpr (by exact_mod_cast r.2.2))
  refine ⟨by linarith, by linarith, Or.inl (hnonneg undecided fun c hc => ?_), fun c hc _ => Or.inl (h c hc)⟩
  unfold undecided
  split_ifs
  · exact h c hc
  · exact le_rfl

/-- A criterion that does no harm narrows the bounds, whichever rating it is given. -/
theorem narrower_of_harmless {criterion : CircularityCriterion} {rating : Rating} {replaced : List CircularityCriterion}
    {score' : Circularity} (h : Scored criteria score) (h' : Scored replaced score')
    (hreplaces : Replaces criteria criterion rating replaced)
    (hharmless : 0 ≤ denoted criterion.weight ∨
      SameRounding 6 (leastScore criteria) (leastScore criteria + 100 * denoted criterion.weight) ∧
        SameRounding 6 (greatestScore criteria) (greatestScore criteria - 100 * denoted criterion.weight)) :
    denoted score.lower ≤ denoted score'.lower ∧ denoted score'.upper ≤ denoted score.upper := by
  have hlower := h'.lower_rounds
  have hupper := h'.upper_rounds
  rw [hreplaces.leastScore_eq] at hlower
  rw [hreplaces.greatestScore_eq] at hupper
  have hleast : (0 : ℚ) ≤ rating.val - 1 := sub_nonneg.mpr (by exact_mod_cast rating.2.1)
  have hgreatest : (0 : ℚ) ≤ 5 - rating.val := sub_nonneg.mpr (by exact_mod_cast rating.2.2)
  obtain hweight | ⟨⟨low, hlow, hlow'⟩, high, hhigh, hhigh'⟩ := hharmless
  · have hup := mul_nonneg hweight hleast
    have hdown := mul_nonneg hweight hgreatest
    exact ⟨h.lower_rounds.mono hlower (by linarith), hupper.mono h.upper_rounds (by linarith)⟩
  · obtain hweight | hweight := le_or_gt 0 (denoted criterion.weight)
    · have hup := mul_nonneg hweight hleast
      have hdown := mul_nonneg hweight hgreatest
      exact ⟨h.lower_rounds.mono hlower (by linarith), hupper.mono h.upper_rounds (by linarith)⟩
    · -- the rating that does the most harm rounds away
      have hup := mul_nonpos_of_nonpos_of_nonneg hweight.le hgreatest
      have hdown := mul_nonpos_of_nonpos_of_nonneg hweight.le hleast
      rw [h.lower_rounds.unique hlow, h.upper_rounds.unique hhigh]
      exact ⟨hlow'.mono hlower (by linarith), hupper.mono hhigh' (by linarith)⟩

def leastRating : Rating := ⟨1, by decide⟩

def greatestRating : Rating := ⟨5, by decide⟩

theorem worth_greatest (weight : ℚ) : 25 * (weight * (greatestRating.val - 1)) = 100 * weight := by
  norm_num [greatestRating]
  ring

theorem worth_least (weight : ℚ) : 25 * (weight * (5 - leastRating.val)) = 100 * weight := by
  norm_num [leastRating]
  ring

/-- **The bounds keep their law** just where the weights do no harm. -/
theorem circularityScore_sound_iff (hlength : criteria.length < 2 ^ 53) (h : circularityScore criteria = .ok score) :
    SoundBounds criteria score ↔ Harmless criteria := by
  obtain ⟨hweighted, hscored⟩ := circularityScore_ok h
  have hreplaced : ∀ criterion rating replaced, Replaces criteria criterion rating replaced →
      ∃ score', circularityScore replaced = .ok score' ∧ Scored replaced score' := by
    intro criterion rating replaced hreplaces
    obtain ⟨score', hscore'⟩ := circularityScore_returns (hreplaces.weighted hweighted) (by rwa [hreplaces.length_eq])
    exact ⟨score', hscore', (circularityScore_ok hscore').2⟩
  constructor
  · intro hsound
    obtain ⟨hnonneg, hle, hhundred⟩ := hsound.ordered
    refine ⟨hscored.nonneg_iff.mp hnonneg, hscored.le_hundred_iff.mp hhundred,
      (hscored.le_iff hweighted.total).mp hle, fun c hc hnone => ?_⟩
    -- the greatest rating bears on the lower bound, the least on the upper
    obtain ⟨raised, hraised⟩ := exists_replaces hc hnone greatestRating
    obtain ⟨lowered, hlowered⟩ := exists_replaces hc hnone leastRating
    obtain ⟨high, hhigh, hup, -⟩ := hsound.narrower c _ raised hraised
    obtain ⟨low, hlow, -, hdown⟩ := hsound.narrower c _ lowered hlowered
    have hhighRounds := (circularityScore_ok hhigh).2.lower_rounds
    have hlowRounds := (circularityScore_ok hlow).2.upper_rounds
    rw [hscored.lower_rounds.le_iff hhighRounds, hraised.leastScore_eq, worth_greatest] at hup
    rw [hlowRounds.le_iff hscored.upper_rounds, hlowered.greatestScore_eq, worth_least] at hdown
    by_cases hweight : 0 ≤ denoted c.weight
    · exact Or.inl hweight
    · refine Or.inr ⟨hup.resolve_left fun hle => hweight ?_, (hdown.resolve_left fun hle => hweight ?_).symm⟩
      · linarith
      · linarith
  · intro hharmless
    refine ⟨⟨hscored.nonneg_iff.mpr hharmless.earned, (hscored.le_iff hweighted.total).mpr hharmless.together,
      hscored.le_hundred_iff.mpr hharmless.forgone⟩, fun criterion rating replaced hreplaces => ?_,
      hscored.complete hweighted.total⟩
    obtain ⟨score', hscore', hscored'⟩ := hreplaced criterion rating replaced hreplaces
    refine ⟨score', hscore', narrower_of_harmless hscored hscored' hreplaces ?_⟩
    obtain ⟨hnone, before, after, rfl, -⟩ := hreplaces
    exact hharmless.each criterion (by simp) hnone

/-- Half of the weight is rated, and as well as can be. -/
def halfRated : List CircularityCriterion := [⟨"known", some greatestRating, "0.5"⟩, ⟨"missing", none, "0.5"⟩]

theorem halfRated_sound : ∃ score, circularityScore halfRated = .ok score ∧ score.lower = "50" ∧ score.upper = "100" ∧
    Harmless halfRated ∧ SoundBounds halfRated score := by
  have hchecked : ((circularityScore halfRated).toOption.any fun score => score.lower = "50" ∧ score.upper = "100") = true := by
    decide +kernel
  obtain ⟨score, hreturned, hvalues⟩ := (Option.any_eq_true _ _).mp hchecked
  obtain ⟨hlower, hupper⟩ := of_decide_eq_true hvalues
  have hscore := toOption_eq_some.mp hreturned
  have hharmless : Harmless halfRated := harmless_of_nonneg (by decide +kernel)
  exact ⟨score, hscore, hlower, hupper, hharmless, (circularityScore_sound_iff (by decide) hscore).mpr hharmless⟩

/-- The weights sum to one, but one of them is negative. -/
def overweight : List CircularityCriterion := [⟨"left", some greatestRating, "2"⟩, ⟨"right", some leastRating, "-1"⟩]

theorem overweight_score : ∃ score, circularityScore overweight = .ok score ∧ score.lower = "200" ∧
    ¬SoundBounds overweight score := by
  have hchecked : ((circularityScore overweight).toOption.any fun score => score.lower = "200" ∧ score.upper = "200") = true := by
    decide +kernel
  obtain ⟨score, hreturned, hvalues⟩ := (Option.any_eq_true _ _).mp hchecked
  obtain ⟨hlower, hupper⟩ := of_decide_eq_true hvalues
  refine ⟨score, toOption_eq_some.mp hreturned, hlower, fun hsound => ?_⟩
  have hle := hsound.ordered.2.2
  rw [hupper] at hle
  exact absurd hle (by decide +kernel)

end Decision
end Evllm
