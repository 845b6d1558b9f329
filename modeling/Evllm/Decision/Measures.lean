/-
# The measures of moderate inputs

The arithmetic of a route's measures is exact: the powers of the discount factor
have all their digits, the sums of an impact category all their places, against
80 digits of a decimal and 38 of one that is read back. Here each measure is
shown to stay within both where its inputs are of moderate size, and to fail,
if it does, with an error of the assessment and none of a decimal.

Key definitions: `Readable`, `Reads`, `NotDecimal`, `RoomFor`,
`ModerateEconomics`.
Key theorems: `circularityScore_lands`, `environmentalIndicators_lands`,
`discount_lands`, `economicResult_lands`.
-/
import Evllm.Decision.Assessment
import Evllm.Decision.Magnitude
import Mathlib.Algebra.Order.BigOperators.Group.List

namespace Evllm
namespace Decision

open Lib ExactDecimal

/-! ### Reading -/

/-- A string that `ExactDecimal.parse` accepts. -/
def Readable (s : String) : Prop := ∃ x, parse s = .ok x

/-- The number of decimals of a string. -/
def decimals (value : String) : ℕ := (value.toList.dropWhile (· ≠ '.')).tail.length

/-- What a readable string gives. -/
structure Reads (s : String) (x : ExactDecimal) : Prop where
  parse : ExactDecimal.parse s = .ok x
  toRat : x.toRat = denoted s
  abs_lt : |denoted s| * 10 ^ decimals s < 10 ^ 38
  scale : x.scale = decimals s
  places : decimals s ≤ 18
  written : x.toCanonical = s

theorem Numeral.decimals_chars (n : Numeral) : decimals (String.ofList n.chars) = n.fraction.length := by
  have hinteger : ∀ c ∈ n.signChars ++ n.integer, decide (c ≠ '.') = true := by
    intro c hc
    refine decide_eq_true fun heq => n.dot_notMem_integer ?_
    rwa [← heq]
  unfold decimals
  rw [String.toList_ofList, Numeral.chars, ← List.append_assoc, List.dropWhile_append_of_pos hinteger]
  unfold Numeral.tailChars
  split_ifs with h <;> simp [h]

theorem reads_of_readable {s : String} (h : Readable s) : ∃ x, Reads s x := by
  obtain ⟨x, hx⟩ := h
  obtain ⟨n, hn, rfl, rfl⟩ := parse_ok_iff.mp hx
  refine ⟨hn.decimal, hn.parse_chars, n.denoted_eq_valueAt.symm, ?_, n.decimals_chars.symm, ?_, hn.toCanonical⟩
  · rw [n.denoted_eq_valueAt, n.decimals_chars, abs_valueAt]
    exact_mod_cast hn.coefficient_lt
  · rw [n.decimals_chars]
    exact hn.2

theorem Reads.scale_le {s : String} {x : ExactDecimal} (h : Reads s x) : x.scale ≤ 18 := h.scale.trans_le h.places

theorem Reads.abs_le {s : String} {x : ExactDecimal} (h : Reads s x) : |x.toRat| ≤ 10 ^ 38 := by
  have hone : (1 : ℚ) ≤ 10 ^ decimals s := one_le_pow₀ (by norm_num)
  rw [h.toRat]
  calc |denoted s| = |denoted s| * 1 := (mul_one _).symm
    _ ≤ |denoted s| * 10 ^ decimals s := mul_le_mul_of_nonneg_left hone (abs_nonneg _)
    _ ≤ 10 ^ 38 := h.abs_lt.le

/-- What is written with at most `k` places and 38 digits is readable. -/
theorem readable_of_le {x : ExactDecimal} {k : ℕ} (hk : k ≤ 18) (hscale : x.scale ≤ k)
    (h : |x.toRat| * 10 ^ k < 10 ^ 38) : Readable x.toCanonical := by
  refine ⟨x, parse_toCanonical (hscale.trans hk) (lt_of_le_of_lt ?_ h)⟩
  exact mul_le_mul_of_nonneg_left (pow_le_pow_right₀ (by norm_num) hscale) (abs_nonneg _)

theorem readable_zero : Readable "0" := by
  obtain ⟨n, hn, hs⟩ := canonicalDecimal_iff.mp (show canonicalDecimal "0" = true by decide +kernel)
  exact ⟨hn.decimal, hs ▸ hn.parse_chars⟩

/-! ### Failures that are none of a decimal -/

/-- The assessment refuses its input, or a function around it fails. -/
def NotDecimal (e : Thrown) : Prop := ∀ code, e ≠ .decimal code

variable {α : Type} {E : Thrown → Prop}

theorem lands_dec {x : Except ExactDecimalError α} {a : α} {P : α → Prop} (h : x = .ok a) (ha : P a) :
    Lands E (dec x) P := by
  rw [h]
  exact ha

theorem notDecimal_assessment (code : AssessmentError) : NotDecimal (.assessment code) := by
  intro code' h
  cases h

theorem lands_rejectIf {β : Type} {c : Prop} [Decidable c] {code : AssessmentError} {f : Unit → Except Thrown β}
    {Q : β → Prop} (hf : ¬c → Lands NotDecimal (f ()) Q) : Lands NotDecimal (rejectIf c code >>= f) Q :=
  lands_throwIf (notDecimal_assessment code) hf

/-- A small integer. -/
theorem lands_fromInteger {n : ℤ} (h : |n| ≤ 2 ^ 53 - 1) :
    Lands E (dec (fromInteger n)) fun x => x.toRat = n ∧ x.scale = 0 := by
  obtain ⟨x, hx, hrat, hscale⟩ := fromInteger_of_le h
  exact lands_dec hx ⟨hrat, hscale⟩

theorem lands_parse {s : String} (h : Readable s) : Lands E (dec (parse s)) (Reads s) := by
  obtain ⟨x, hx⟩ := reads_of_readable h
  exact lands_dec hx.parse hx

section Operations

variable {x y : ExactDecimal}

/-- Comparing what is at most `B` large, with 18 places. -/
theorem lands_compare {B : ℚ} (hB : B * 2 * 10 ^ 18 < 10 ^ 80) (hx : |x.toRat| ≤ B) (hy : |y.toRat| ≤ B)
    (hxs : x.scale ≤ 18) (hys : y.scale ≤ 18) :
    Lands E (dec (ExactDecimal.compare x y)) fun c =>
      (0 ≤ c ↔ y.toRat ≤ x.toRat) ∧ (0 < c ↔ y.toRat < x.toRat) := by
  have hle : |x.toRat - y.toRat| ≤ B * 2 := (abs_sub _ _).trans (by linarith)
  obtain ⟨c, hc⟩ := compare_of_le hxs hys
    (lt_of_le_of_lt (mul_le_mul_of_nonneg_right hle (by positivity)) hB)
  exact lands_dec hc (compare_ok hc)

/-- At most `B` large, with `k` places. -/
structure AtMost (B : ℚ) (k : ℕ) (z : ExactDecimal) : Prop where
  abs_le : |z.toRat| ≤ B
  scale : z.scale ≤ k

theorem AtMost.readable {B : ℚ} {k : ℕ} {z : ExactDecimal} (h : AtMost B k z) (hk : k ≤ 18)
    (hB : B * 10 ^ k < 10 ^ 38) : Readable z.toCanonical :=
  readable_of_le hk h.scale (lt_of_le_of_lt (mul_le_mul_of_nonneg_right h.abs_le (by positivity)) hB)

theorem lands_divide {q : ℚ} {k : ℕ} (hk : k ≤ 18) (hy : y.toRat ≠ 0) (hq : |x.toRat / y.toRat| ≤ q)
    (h : q * 10 ^ k + 1 < 10 ^ 80) :
    Lands E (dec (x.divide y k)) (AtMost (q + 1 / 10 ^ k) k) := by
  have hpos : (0 : ℚ) ≤ 10 ^ k := by positivity
  obtain ⟨z, hz, habs, hscale⟩ := divide_of_le hk hy
    (lt_of_le_of_lt (add_le_add_left (mul_le_mul_of_nonneg_right hq hpos) 1) h)
  exact lands_dec hz ⟨habs.trans (add_le_add_left hq _), hscale⟩

theorem lands_round {q : ℚ} {k : ℕ} (hk : k ≤ 18) (hq : |x.toRat| ≤ q) (h : q * 10 ^ k + 1 < 10 ^ 80) :
    Lands E (dec (x.round k)) (AtMost (q + 1 / 10 ^ k) k) := by
  have hpos : (0 : ℚ) ≤ 10 ^ k := by positivity
  obtain ⟨z, hz, habs, hscale⟩ := round_of_le hk
    (lt_of_le_of_lt (add_le_add_left (mul_le_mul_of_nonneg_right hq hpos) 1) h)
  exact lands_dec hz ⟨habs.trans (add_le_add_left hq _), hscale⟩

theorem lands_add {S : ℕ} (hx : x.scale ≤ S) (hy : y.scale ≤ S) (h : |x.toRat + y.toRat| * 10 ^ S < 10 ^ 80) :
    Lands E (dec (x.add y)) fun z => z.toRat = x.toRat + y.toRat ∧ z.scale ≤ S := by
  obtain ⟨z, hz, hrat, hscale⟩ := add_of_le hx hy h
  exact lands_dec hz ⟨hrat, hscale⟩

theorem lands_subtract {S : ℕ} (hx : x.scale ≤ S) (hy : y.scale ≤ S) (h : |x.toRat - y.toRat| * 10 ^ S < 10 ^ 80) :
    Lands E (dec (x.subtract y)) fun z => z.toRat = x.toRat - y.toRat ∧ z.scale ≤ S := by
  obtain ⟨z, hz, hrat, hscale⟩ := subtract_of_le hx hy h
  exact lands_dec hz ⟨hrat, hscale⟩

theorem lands_multiply {S T : ℕ} (hx : x.scale ≤ S) (hy : y.scale ≤ T)
    (h : |x.toRat * y.toRat| * 10 ^ (S + T) < 10 ^ 80) :
    Lands E (dec (x.multiply y)) fun z => z.toRat = x.toRat * y.toRat ∧ z.scale ≤ S + T := by
  obtain ⟨z, hz, hrat, hscale⟩ := multiply_of_le hx hy h
  exact lands_dec hz ⟨hrat, hscale⟩

end Operations

theorem fraction_lands {n d : ℕ} (hle : n ≤ d) (hd : d ≤ 2 ^ 53 - 1) : Lands E (fraction n d) Readable := by
  unfold fraction
  split_ifs with hzero
  · exact lands_pure readable_zero
  · refine lands_bind (lands_fromInteger (by rw [Nat.abs_cast]; omega)) fun x hx => ?_
    refine lands_bind (lands_fromInteger (by rw [Nat.abs_cast]; omega)) fun y hy => ?_
    have hy0 : y.toRat ≠ 0 := by
      rw [hy.1]
      exact_mod_cast hzero
    have hone : |x.toRat / y.toRat| ≤ 1 := by
      rw [hx.1, hy.1, abs_div, Int.cast_natCast, Int.cast_natCast, Nat.abs_cast, Nat.abs_cast]
      exact div_le_one_of_le₀ (by exact_mod_cast hle) (by positivity)
    refine lands_bind (lands_divide (k := 6) (by decide) hy0 hone (by norm_num)) fun z hz => lands_pure ?_
    exact hz.readable (by decide) (by norm_num)

/-! ### Circularity -/

/-- The sizes of the weights, together. -/
def weightTotal (criteria : List CircularityCriterion) : ℚ := (criteria.map fun c => |denoted c.weight|).sum

theorem weightTotal_cons (c : CircularityCriterion) (cs : List CircularityCriterion) :
    weightTotal (c :: cs) = |denoted c.weight| + weightTotal cs := List.sum_cons

theorem weightTotal_nonneg (criteria : List CircularityCriterion) : 0 ≤ weightTotal criteria := by
  refine List.sum_nonneg fun q hq => ?_
  obtain ⟨c, -, rfl⟩ := List.mem_map.mp hq
  exact abs_nonneg _

/-- A sum with 18 places that leaves room for the rest. -/
def RoomFor (limit rest : ℚ) (total : ExactDecimal) : Prop := |total.toRat| + rest ≤ limit ∧ total.scale ≤ 18

theorem lands_add_room {limit rest size : ℚ} (hlimit : limit * 10 ^ 18 < 10 ^ 80) (hrest : 0 ≤ rest)
    {total y : ExactDecimal} (htotal : RoomFor limit (size + rest) total) (hy : |y.toRat| ≤ size) (hys : y.scale ≤ 18) :
    Lands E (dec (total.add y)) (RoomFor limit rest) := by
  obtain ⟨hsum, hscale⟩ := htotal
  have habs : |total.toRat + y.toRat| ≤ |total.toRat| + |y.toRat| := abs_add_le _ _
  have hle : |total.toRat + y.toRat| ≤ limit := by linarith
  refine (lands_add hscale hys (lt_of_le_of_lt (mul_le_mul_of_nonneg_right hle (by positivity)) hlimit)).mono ?_
  rintro z ⟨hrat, hzs⟩
  refine ⟨?_, hzs⟩
  rw [hrat]
  linarith

theorem rating_le (absent : ℕ) (habsent : absent ≤ 5) (rating : Option Rating) :
    (rating.map Subtype.val).getD absent ≤ 5 := by
  cases rating with
  | none => exact habsent
  | some r => exact r.2.2

theorem weightedSum_lands {absent : ℕ} (habsent : absent ≤ 5) {criterion : CircularityCriterion}
    (hread : Readable criterion.weight) {limit rest : ℚ} (hlimit : limit * 10 ^ 18 < 10 ^ 80) (hrest : 0 ≤ rest)
    {total : ExactDecimal} (htotal : RoomFor limit (5 * |denoted criterion.weight| + rest) total) :
    Lands E (weightedSum absent total criterion) (RoomFor limit rest) := by
  have hrating := rating_le absent habsent criterion.rating
  have hroom : 5 * |denoted criterion.weight| ≤ limit := by
    have := abs_nonneg total.toRat
    linarith [htotal.1]
  unfold weightedSum
  refine lands_bind (lands_parse hread) fun weight hweight => ?_
  refine lands_bind (lands_fromInteger (by rw [Nat.abs_cast]; omega)) fun rating hr => ?_
  have hsize : |weight.toRat * rating.toRat| ≤ 5 * |denoted criterion.weight| := by
    rw [abs_mul, hweight.toRat, hr.1, Int.cast_natCast, Nat.abs_cast, mul_comm]
    exact mul_le_mul_of_nonneg_right (by exact_mod_cast hrating) (abs_nonneg _)
  refine lands_bind (lands_multiply hweight.scale_le hr.2.le ?_) fun product hproduct => ?_
  · exact lt_of_le_of_lt (mul_le_mul_of_nonneg_right (hsize.trans hroom) (by positivity)) hlimit
  · refine lands_add_room hlimit hrest htotal ?_ hproduct.2
    rw [hproduct.1]
    exact hsize

theorem normalizeScore_written {limit : ℚ} (hlimit : limit ≤ 10 ^ 58) {weighted : ExactDecimal} (h : RoomFor limit 0 weighted) :
    Lands E (normalizeScore weighted) fun score =>
      ∃ z : ExactDecimal, score = z.toCanonical ∧ AtMost ((limit + 1) * 25 + 1 / 10 ^ 6) 6 z := by
  obtain ⟨hle, hscale⟩ := h
  rw [add_zero] at hle
  unfold normalizeScore
  refine lands_bind (lands_fromInteger (by norm_num)) fun one hone => ?_
  have habove : |weighted.toRat - one.toRat| ≤ limit + 1 := by
    rw [hone.1]
    refine (abs_sub _ _).trans ?_
    norm_num
    exact hle
  refine lands_bind (lands_subtract hscale (hone.2.le.trans (by decide)) ?_) fun above hrat => ?_
  · have hroom : (limit + 1) * 10 ^ 18 < 10 ^ 80 := by linarith
    exact lt_of_le_of_lt (mul_le_mul_of_nonneg_right habove (by positivity)) hroom
  refine lands_bind (lands_fromInteger (by norm_num)) fun hundred hhundred => ?_
  have hscaled : |above.toRat * hundred.toRat| ≤ (limit + 1) * 100 := by
    rw [abs_mul, hrat.1, hhundred.1]
    refine mul_le_mul habove ?_ (abs_nonneg _) ((abs_nonneg _).trans habove)
    norm_num
  refine lands_bind (lands_multiply hrat.2 hhundred.2.le ?_) fun scaled hs => ?_
  · have hroom : (limit + 1) * 100 * 10 ^ (18 + 0) < 10 ^ 80 := by
      rw [Nat.add_zero]
      linarith
    exact lt_of_le_of_lt (mul_le_mul_of_nonneg_right hscaled (by positivity)) hroom
  refine lands_bind (lands_fromInteger (by norm_num)) fun four hfour => ?_
  have hquotient : |scaled.toRat / four.toRat| ≤ (limit + 1) * 25 := by
    rw [abs_div, hs.1, hfour.1, div_le_iff₀ (by norm_num)]
    refine hscaled.trans (le_of_eq ?_)
    norm_num
    ring
  have hroom : (limit + 1) * 25 * 10 ^ 6 + 1 < 10 ^ 80 := by linarith
  refine lands_bind (lands_divide (by decide) (by rw [hfour.1]; norm_num) hquotient hroom) fun z hz => ?_
  exact lands_pure ⟨z, rfl, hz⟩

theorem normalizeScore_lands {weighted : ExactDecimal} (h : RoomFor (5 * 10 ^ 29) 0 weighted) :
    Lands E (normalizeScore weighted) Readable := by
  refine (normalizeScore_written (by norm_num) h).mono fun score hscore => ?_
  obtain ⟨z, rfl, hz⟩ := hscore
  exact hz.readable (by decide) (by norm_num)

/-- The decimals of a score. -/
structure ReadableCircularity (c : Circularity) : Prop where
  lower : Readable c.lower
  upper : Readable c.upper
  value : ∀ v, c.value = some v → Readable v

@[simp] theorem weightTotal_nil : weightTotal [] = 0 := rfl

section Sums

variable {criteria : List CircularityCriterion} {limit : ℚ} {zero : ExactDecimal}

/-- The sum of the weights. -/
theorem totalWeight_lands (hlimit : limit * 10 ^ 18 < 10 ^ 80) (hread : ∀ c ∈ criteria, Readable c.weight)
    (hzero : RoomFor limit (weightTotal criteria) zero) :
    Lands E (criteria.foldlM (fun total criterion => do dec (add total (← dec (parse criterion.weight)))) zero)
      (RoomFor limit 0) := by
  have hfold := lands_foldlM (E := E)
    (f := fun total (criterion : CircularityCriterion) => do dec (add total (← dec (parse criterion.weight))))
    (I := fun cs total => (∀ c ∈ cs, Readable c.weight) ∧ RoomFor limit (weightTotal cs) total) ?_ criteria
    ⟨hread, hzero⟩
  · refine hfold.mono fun total h => ?_
    rw [weightTotal_nil] at h
    exact h.2
  · rintro c cs total ⟨hcs, hroom⟩
    rw [weightTotal_cons] at hroom
    refine lands_bind (lands_parse (hcs c (.head _))) fun weight hweight => ?_
    refine (lands_add_room hlimit (weightTotal_nonneg cs) hroom (by rw [hweight.toRat]) hweight.scale_le).mono ?_
    exact fun z hz => ⟨fun c' hc' => hcs c' (.tail _ hc'), hz⟩

/-- The two sums of weighted ratings. -/
theorem scoreBounds_lands (hlimit : limit * 10 ^ 18 < 10 ^ 80) (hread : ∀ c ∈ criteria, Readable c.weight)
    (hzero : RoomFor limit (5 * weightTotal criteria) zero) :
    Lands E (criteria.foldlM scoreBounds (zero, zero)) fun bounds =>
      RoomFor limit 0 bounds.1 ∧ RoomFor limit 0 bounds.2 := by
  have hfold := lands_foldlM (E := E) (f := scoreBounds) (I := fun cs bounds => (∀ c ∈ cs, Readable c.weight) ∧
    RoomFor limit (5 * weightTotal cs) bounds.1 ∧ RoomFor limit (5 * weightTotal cs) bounds.2) ?_
    criteria (b := (zero, zero)) ⟨hread, hzero, hzero⟩
  · refine hfold.mono fun bounds h => ?_
    rw [weightTotal_nil, mul_zero] at h
    exact h.2
  · rintro c cs bounds ⟨hcs, hlower, hupper⟩
    have hnonneg : 0 ≤ 5 * weightTotal cs := mul_nonneg (by norm_num) (weightTotal_nonneg cs)
    rw [weightTotal_cons, mul_add] at hlower hupper
    refine lands_bind (weightedSum_lands (by decide) (hcs c (.head _)) hlimit hnonneg hlower) fun lower hl => ?_
    refine lands_bind (weightedSum_lands (by decide) (hcs c (.head _)) hlimit hnonneg hupper) fun upper hu => ?_
    exact lands_pure ⟨fun c' hc' => hcs c' (.tail _ hc'), hl, hu⟩

end Sums

theorem circularityScore_lands {criteria : List CircularityCriterion} (hread : ∀ c ∈ criteria, Readable c.weight)
    (hsize : weightTotal criteria ≤ 10 ^ 29) :
    Lands NotDecimal (circularityScore criteria) ReadableCircularity := by
  unfold circularityScore
  refine lands_rejectIf fun _ => ?_
  refine lands_bind (lands_fromInteger (by norm_num)) fun zero hzero => ?_
  have hzero' : |zero.toRat| = 0 := by simp [hzero.1]
  have hplaces : zero.scale ≤ 18 := hzero.2.le.trans (by decide)
  have hweights : (10 ^ 29 : ℚ) * 10 ^ 18 < 10 ^ 80 := by norm_num
  have hratings : (5 * 10 ^ 29 : ℚ) * 10 ^ 18 < 10 ^ 80 := by norm_num
  refine lands_bind (totalWeight_lands hweights hread ⟨by rw [hzero', zero_add]; exact hsize, hplaces⟩) fun total htotal => ?_
  refine lands_bind (lands_fromInteger (by norm_num)) fun one hone => ?_
  refine lands_bind (lands_compare (B := 10 ^ 29) (by norm_num) (by simpa using htotal.1) (by norm_num [hone.1])
    htotal.2 (hone.2.le.trans (by decide))) fun sign _ => lands_rejectIf fun _ => ?_
  refine lands_bind (scoreBounds_lands hratings hread ⟨by rw [hzero', zero_add]; linarith, hplaces⟩) fun bounds hbounds => ?_
  refine lands_bind (normalizeScore_lands hbounds.1) fun lower hlower => ?_
  refine lands_bind (normalizeScore_lands hbounds.2) fun upper hupper => lands_pure ⟨hlower, hupper, ?_⟩
  intro v hv
  split_ifs at hv with hcomplete
  rwa [← Option.some.inj hv]

/-! ### Impacts -/

/-- The size of a term's contribution. -/
def EnvironmentalTerm.impact (term : EnvironmentalTerm) : ℚ := |denoted term.quantity * denoted term.factor|

/-- The sizes of the contributions to a category, together. -/
def impactTotal (terms : List EnvironmentalTerm) (category : String) : ℚ :=
  ((terms.filter fun term => term.category = category).map EnvironmentalTerm.impact).sum

theorem impactTotal_nonneg (terms : List EnvironmentalTerm) (category : String) : 0 ≤ impactTotal terms category := by
  refine List.sum_nonneg fun q hq => ?_
  obtain ⟨term, -, rfl⟩ := List.mem_map.mp hq
  exact abs_nonneg _

theorem impactTotal_cons_self (term : EnvironmentalTerm) (terms : List EnvironmentalTerm) :
    impactTotal (term :: terms) term.category = term.impact + impactTotal terms term.category := by
  simp [impactTotal]

theorem impactTotal_cons_ne {term : EnvironmentalTerm} {category : String} (h : term.category ≠ category)
    (terms : List EnvironmentalTerm) : impactTotal (term :: terms) category = impactTotal terms category := by
  simp [impactTotal, h]

/-- The categories so far leave room for the terms that are left. -/
structure RoomForTerms (all terms : List EnvironmentalTerm) (categories : JsMap String (ExactDecimal × String)) :
    Prop where
  readable : ∀ term ∈ terms, Readable term.quantity ∧ Readable term.factor
  room : ∀ category, ((categories.get category).map fun entry => |entry.1.toRat|).getD 0 + impactTotal terms category ≤
    impactTotal all category
  scale : ∀ category entry, categories.get category = some entry → entry.1.scale ≤ 36

theorem addTerm_lands {all : List EnvironmentalTerm} (hall : ∀ category, impactTotal all category < 10 ^ 44)
    (term : EnvironmentalTerm) (terms : List EnvironmentalTerm) (categories : JsMap String (ExactDecimal × String))
    (h : RoomForTerms all (term :: terms) categories) :
    Lands NotDecimal (addTerm categories term) (RoomForTerms all terms) := by
  have hroom := h.room term.category
  rw [impactTotal_cons_self] at hroom
  have hprior : 0 ≤ ((categories.get term.category).map fun entry => |entry.1.toRat|).getD 0 := by
    cases categories.get term.category with
    | none => exact le_rfl
    | some entry => exact abs_nonneg _
  have hnonneg := impactTotal_nonneg terms term.category
  have hlt := hall term.category
  have hfits : ∀ {q : ℚ}, q ≤ impactTotal all term.category → q * 10 ^ 36 < 10 ^ 80 := by
    intro q hq
    calc q * 10 ^ 36 ≤ impactTotal all term.category * 10 ^ 36 := mul_le_mul_of_nonneg_right hq (by positivity)
      _ < 10 ^ 44 * 10 ^ 36 := mul_lt_mul_of_pos_right hlt (by positivity)
      _ = 10 ^ 80 := by norm_num
  unfold addTerm
  refine lands_bind (lands_parse (h.readable term (.head _)).1) fun quantity hquantity => ?_
  refine lands_bind (lands_parse (h.readable term (.head _)).2) fun factor hfactor => ?_
  have himpact : |quantity.toRat * factor.toRat| = term.impact := by
    rw [hquantity.toRat, hfactor.toRat]
    rfl
  refine lands_bind (lands_multiply hquantity.scale_le hfactor.scale_le ?_) fun contribution hcontribution => ?_
  · rw [himpact]
    exact hfits (by linarith)
  refine lands_rejectIf fun _ => ?_
  refine lands_bind (lands_fromInteger (by norm_num)) fun zero hzero => ?_
  have hzero' : zero.toRat = 0 := by simp [hzero.1]
  -- the category's total so far, zero where there is none
  have htotal : |(((categories.get term.category).map Prod.fst).getD zero).toRat| =
      ((categories.get term.category).map fun entry => |entry.1.toRat|).getD 0 ∧
      (((categories.get term.category).map Prod.fst).getD zero).scale ≤ 36 := by
    cases hget : categories.get term.category with
    | none => exact ⟨by simp [hzero'], hzero.2.le.trans (by decide)⟩
    | some entry => exact ⟨rfl, h.scale _ entry hget⟩
  have hadd : ∀ signed : ExactDecimal, |signed.toRat| = term.impact ∧ signed.scale ≤ 36 →
      Lands NotDecimal (do
        let total ← dec ((((categories.get term.category).map Prod.fst).getD zero).add signed)
        return categories.set term.category (total, term.resultUnit)) (RoomForTerms all terms) := by
    intro signed hsigned
    have habs := abs_add_le (((categories.get term.category).map Prod.fst).getD zero).toRat signed.toRat
    rw [htotal.1, hsigned.1] at habs
    refine lands_bind (lands_add htotal.2 hsigned.2 (hfits (by linarith))) fun total hsum => lands_pure ?_
    refine ⟨fun t ht => h.readable t (.tail _ ht), fun category => ?_, fun category entry hget => ?_⟩
    · by_cases hcategory : term.category = category
      · subst hcategory
        rw [JsMap.get_set_self, Option.map_some, Option.getD_some, hsum.1]
        linarith
      · rw [JsMap.get_set_ne _ _ hcategory, ← impactTotal_cons_ne hcategory terms]
        exact h.room category
    · by_cases hcategory : term.category = category
      · subst hcategory
        rw [JsMap.get_set_self] at hget
        rw [← Option.some.inj hget]
        exact hsum.2
      · rw [JsMap.get_set_ne _ _ hcategory] at hget
        exact h.scale category entry hget
  dsimp only
  split_ifs
  · refine lands_bind ((lands_subtract (hzero.2.le.trans (by decide)) hcontribution.2 ?_).mono ?_) hadd
    · rw [hzero', hcontribution.1, zero_sub, abs_neg, himpact]
      exact hfits (by linarith)
    · rintro z ⟨hrat, hscale⟩
      refine ⟨?_, hscale⟩
      rw [hrat, hzero', hcontribution.1, zero_sub, abs_neg, himpact]
  · exact hadd contribution ⟨by rw [hcontribution.1, himpact], hcontribution.2⟩

theorem environmentalIndicators_lands {ι : Type} (env : Environment ι) {terms : List EnvironmentalTerm}
    {functionalUnit : String} (hread : ∀ term ∈ terms, Readable term.quantity ∧ Readable term.factor)
    (hunit : Readable functionalUnit) (hsize : ∀ category, impactTotal terms category < 10 ^ 44)
    (hratio : ∀ category, impactTotal terms category / denoted functionalUnit ≤ 10 ^ 32 - 1) :
    Lands NotDecimal (environmentalIndicators env terms functionalUnit) fun indicators =>
      ∀ indicator ∈ indicators, Readable indicator.value := by
  unfold environmentalIndicators
  refine lands_bind (lands_parse hunit) fun divisor hdivisor => ?_
  refine lands_bind (lands_fromInteger (by norm_num)) fun zero hzero => ?_
  refine lands_bind (lands_compare (B := 10 ^ 38) (by norm_num) hdivisor.abs_le (by simp [hzero.1]) hdivisor.scale_le
    (hzero.2.le.trans (by decide))) fun sign hsign => lands_rejectIf fun hpositive => ?_
  have hpos : 0 < denoted functionalUnit := by
    have := hsign.2.mp (not_le.mp hpositive)
    rw [hzero.1, hdivisor.toRat] at this
    exact_mod_cast this
  refine lands_bind (lands_foldlM (fun term terms' categories => addTerm_lands hsize term terms' categories) terms
    ⟨hread, fun category => by simp, fun category entry hget => by simp at hget⟩) fun categories hcategories => ?_
  refine lands_mapM fun entry hentry => ?_
  obtain ⟨category, total, unit⟩ := entry
  have hmem : (category, total, unit) ∈ categories.entries := (List.mem_insertionSort _).mp hentry
  have hget : categories.get category = some (total, unit) := (JsMap.get_eq_some_iff _ _ _).mpr hmem
  have hroom := hcategories.room category
  rw [hget] at hroom
  have hquotient : |total.toRat / divisor.toRat| ≤ 10 ^ 32 - 1 := by
    rw [abs_div, hdivisor.toRat, abs_of_pos hpos]
    refine le_trans (div_le_div_of_nonneg_right ?_ hpos.le) (hratio category)
    simpa [impactTotal] using hroom
  refine lands_bind (lands_divide (by decide) (by rw [hdivisor.toRat]; exact hpos.ne') hquotient (by norm_num))
    fun z hz => lands_pure ?_
  exact hz.readable (by decide) (by norm_num)

/-! ### Economics -/

/-- A period as the number of factors of its denominator. -/
def periodOf : JsNumber → ℕ
  | .finite value => value.num.toNat
  | _ => 0

/-- The discounted size of a flow. -/
def CashFlow.present (rate : ℚ) (flow : CashFlow) : ℚ := |denoted flow.amount| / (1 + rate) ^ periodOf flow.period

def presentTotal (rate : ℚ) (flows : List CashFlow) : ℚ := (flows.map (CashFlow.present rate)).sum

theorem presentTotal_cons (rate : ℚ) (flow : CashFlow) (flows : List CashFlow) :
    presentTotal rate (flow :: flows) = flow.present rate + presentTotal rate flows := List.sum_cons

theorem CashFlow.present_nonneg {rate : ℚ} (hrate : 0 < 1 + rate) (flow : CashFlow) : 0 ≤ flow.present rate :=
  div_nonneg (abs_nonneg _) (pow_nonneg hrate.le _)

theorem presentTotal_nonneg {rate : ℚ} (hrate : 0 < 1 + rate) (flows : List CashFlow) : 0 ≤ presentTotal rate flows := by
  refine List.sum_nonneg fun q hq => ?_
  obtain ⟨flow, -, rfl⟩ := List.mem_map.mp hq
  exact flow.present_nonneg hrate

/-- **The powers of the factor**, exact, have the digits of the power of its
coefficient. -/
theorem discount_lands {factor : ExactDecimal} {s : ℕ} (hs : factor.scale ≤ s) (hpos : 0 < factor.toRat)
    (hone : 1 ≤ factor.toRat * 10 ^ s) : ∀ (period j : ℕ) {d : ExactDecimal}, d.toRat = factor.toRat ^ j →
      d.scale ≤ j * s → (factor.toRat * 10 ^ s) ^ (j + period) < 10 ^ 80 →
      Lands NotDecimal (discount factor period d) fun z => z.toRat = factor.toRat ^ (j + period)
  | 0, _, _, hd, _, _ => lands_pure hd
  | period + 1, j, d, hd, hscale, h => by
    have hproduct : |d.toRat * factor.toRat| * 10 ^ (j * s + s) = (factor.toRat * 10 ^ s) ^ (j + 1) := by
      rw [hd, ← pow_succ, abs_of_pos (pow_pos hpos _), mul_pow, ← pow_mul]
      ring
    have hlt : |d.toRat * factor.toRat| * 10 ^ (j * s + s) < 10 ^ 80 := by
      rw [hproduct]
      exact lt_of_le_of_lt (pow_le_pow_right₀ hone (by omega)) h
    refine lands_bind (lands_multiply hscale hs hlt) fun z hz => ?_
    have hexponent : j + (period + 1) = j + 1 + period := by omega
    rw [hexponent] at h ⊢
    refine discount_lands hs hpos hone period (j + 1) ?_ (hz.2.trans (by rw [Nat.succ_mul])) h
    rw [hz.1, hd, pow_succ]

/-- The cash so far leaves room for the flows that are left. -/
structure RoomForFlows (rate : ℚ) (flows : List CashFlow) (cash : Cash) : Prop where
  readable : ∀ flow ∈ flows, Readable flow.amount
  npv : RoomFor (10 ^ 36 - 1) (presentTotal rate flows + flows.length / 10 ^ 18) cash.npv
  cumulative : RoomFor (10 ^ 38 * 2 ^ 53) (flows.length * 10 ^ 38) cash.cumulative

section Flows

variable {rate : ExactDecimal} {places : ℕ} {flows : List CashFlow}

theorem addFlow_lands (hplaces : rate.scale ≤ places) (hrate : 0 < 1 + rate.toRat)
    (hinteger : 1 ≤ (1 + rate.toRat) * 10 ^ places) (hsmall : |rate.toRat| ≤ 10 ^ 38) (hdecimals : places ≤ 18)
    (flow : CashFlow) (hpower : ((1 + rate.toRat) * 10 ^ places) ^ periodOf flow.period < 10 ^ 80)
    {cash : Cash} (h : RoomForFlows rate.toRat (flow :: flows) cash) :
    Lands NotDecimal (addFlow rate cash flow) (RoomForFlows rate.toRat flows) := by
  have hpresent := flow.present_nonneg hrate
  have hrest := presentTotal_nonneg hrate flows
  obtain ⟨hnpv, hnpvScale⟩ := h.npv
  rw [presentTotal_cons, List.length_cons] at hnpv
  push_cast at hnpv
  have hlength : (0 : ℚ) ≤ (flows.length : ℚ) / 10 ^ 18 := by positivity
  have hnonneg := abs_nonneg cash.npv.toRat
  rw [add_div] at hnpv
  unfold addFlow
  refine lands_rejectIf fun _ => ?_
  refine lands_bind (lands_fromInteger (by norm_num)) fun one hone => ?_
  have hone' : one.toRat = 1 := by simp [hone.1]
  refine lands_bind (lands_add (hone.2.le.trans (Nat.zero_le places)) hplaces ?_) fun factor hfactor => ?_
  · have habs : |one.toRat + rate.toRat| ≤ 1 + 10 ^ 38 := by
      rw [hone']
      refine (abs_add_le _ _).trans ?_
      rw [abs_one]
      linarith
    have hpow : (10 : ℚ) ^ places ≤ 10 ^ 18 := pow_le_pow_right₀ (by norm_num) hdecimals
    calc |one.toRat + rate.toRat| * 10 ^ places ≤ (1 + 10 ^ 38) * 10 ^ 18 :=
          mul_le_mul habs hpow (by positivity) (by positivity)
      _ < 10 ^ 80 := by norm_num
  rw [hone'] at hfactor
  refine lands_bind (discount_lands hfactor.2 (by rw [hfactor.1]; exact hrate) (by rw [hfactor.1]; exact hinteger)
    (periodOf flow.period) 0 (by rw [hone', pow_zero]) (by rw [hone.2]; exact Nat.zero_le _)
    (by rw [hfactor.1, Nat.zero_add]; exact hpower)) fun denominator hdenominator => ?_
  rw [hfactor.1, Nat.zero_add] at hdenominator
  have hdpos : 0 < denominator.toRat := by
    rw [hdenominator]
    exact pow_pos hrate _
  refine lands_bind (lands_parse (h.readable flow (.head _))) fun amount hamount => ?_
  have hquotient : |amount.toRat / denominator.toRat| ≤ flow.present rate.toRat := by
    rw [abs_div, abs_of_pos hdpos, hamount.toRat, hdenominator]
    rfl
  have hlimit : flow.present rate.toRat ≤ 10 ^ 36 := by linarith
  refine lands_bind (lands_divide (by decide) hdpos.ne' hquotient ?_) fun discounted hdiscounted => ?_
  · calc flow.present rate.toRat * 10 ^ 18 + 1 ≤ 10 ^ 36 * 10 ^ 18 + 1 := by
          linarith [mul_le_mul_of_nonneg_right hlimit (by positivity : (0 : ℚ) ≤ 10 ^ 18)]
      _ < 10 ^ 80 := by norm_num
  have hnpvRoom : RoomFor (10 ^ 36 - 1) (flow.present rate.toRat + 1 / 10 ^ 18 +
      (presentTotal rate.toRat flows + flows.length / 10 ^ 18)) cash.npv := ⟨by linarith, hnpvScale⟩
  refine lands_bind (lands_add_room (by norm_num) (by linarith) hnpvRoom hdiscounted.abs_le hdiscounted.scale)
    fun npv hnpv' => ?_
  obtain ⟨hcumulative, hcumulativeScale⟩ := h.cumulative
  rw [List.length_cons] at hcumulative
  push_cast at hcumulative
  have hcumulativeRoom : RoomFor (10 ^ 38 * 2 ^ 53) (10 ^ 38 + flows.length * 10 ^ 38) cash.cumulative :=
    ⟨by linarith, hcumulativeScale⟩
  refine lands_bind (lands_add_room (by norm_num) (by positivity) hcumulativeRoom hamount.abs_le hamount.scale_le)
    fun cumulative hcumulative' => ?_
  have hdone : ∀ paybackPeriod : Option JsNumber, RoomForFlows rate.toRat flows ⟨npv, cumulative, paybackPeriod⟩ :=
    fun _ => ⟨fun f hf => h.readable f (.tail _ hf), hnpv', hcumulative'⟩
  dsimp only
  split_ifs
  · refine lands_bind (lands_fromInteger (by norm_num)) fun zero hzero => ?_
    have hroom : |cumulative.toRat| ≤ 10 ^ 38 * 2 ^ 53 := by
      have := hcumulative'.1
      have hpositive : (0 : ℚ) ≤ flows.length * 10 ^ 38 := by positivity
      linarith
    exact lands_bind (lands_compare (B := 10 ^ 38 * 2 ^ 53) (by norm_num) hroom (by simp [hzero.1]) hcumulative'.2
      (hzero.2.le.trans (by decide))) fun sign _ => lands_pure (hdone _)
  · exact lands_pure (hdone _)

/-- One more than a rate is a positive number of its last places. -/
theorem one_le_factor {s : String} (h : Reads s rate) (hpos : 0 < 1 + rate.toRat) :
    1 ≤ (1 + rate.toRat) * 10 ^ decimals s := by
  have hten : (0 : ℚ) < 10 ^ decimals s := by positivity
  have hinteger : (1 + rate.toRat) * 10 ^ decimals s = ((10 ^ decimals s + rate.coefficient : ℤ) : ℚ) := by
    have hrat : rate.toRat * 10 ^ decimals s = rate.coefficient := by
      rw [toRat, valueAt, h.scale, div_mul_cancel₀ _ hten.ne']
    push_cast
    linarith
  have hproduct := mul_pos hpos hten
  rw [hinteger] at hproduct ⊢
  have hint : (0 : ℤ) < 10 ^ decimals s + rate.coefficient := by exact_mod_cast hproduct
  exact_mod_cast hint

end Flows

/-- An economic scenario of moderate size. -/
structure ModerateEconomics (scenario : EconomicScenario) : Prop where
  /-- The powers of the discount factor have at most 80 digits. -/
  powers : ∀ flow ∈ scenario.cashFlows,
    ((1 + denoted scenario.discountRate) * 10 ^ decimals scenario.discountRate) ^ periodOf flow.period < 10 ^ 80
  /-- The discounted flows are together no larger than a result can be. -/
  present : |denoted scenario.initialInvestment| + presentTotal (denoted scenario.discountRate) scenario.cashFlows ≤
    10 ^ 36 - 2
  length : scenario.cashFlows.length < 2 ^ 53 - 1

theorem economicResult_lands {scenario : EconomicScenario} (hrate : Readable scenario.discountRate)
    (hinitial : Readable scenario.initialInvestment) (hflows : ∀ flow ∈ scenario.cashFlows, Readable flow.amount)
    (h : ModerateEconomics scenario) :
    Lands NotDecimal (economicResult scenario) fun economics => Readable economics.netPresentValue := by
  unfold economicResult
  refine lands_rejectIf fun _ => ?_
  refine lands_bind (lands_parse hrate) fun rate hreads => ?_
  refine lands_bind (lands_fromInteger (by norm_num)) fun minusOne hminus => ?_
  refine lands_bind (lands_compare (B := 10 ^ 38) (by norm_num) hreads.abs_le (by norm_num [hminus.1]) hreads.scale_le
    (hminus.2.le.trans (by decide))) fun sign hsign => lands_rejectIf fun habove => ?_
  have hpos : 0 < 1 + rate.toRat := by
    have hlt := hsign.2.mp (not_le.mp habove)
    rw [hminus.1] at hlt
    push_cast at hlt
    linarith
  refine lands_bind (lands_parse hinitial) fun initial hinit => ?_
  dsimp only
  refine lands_rejectIf fun _ => ?_
  generalize hsorted : (scenario.cashFlows.insertionSort fun left right => ¬right.period.less left.period = true) = flows
  have hperm : flows.Perm scenario.cashFlows := hsorted ▸ List.perm_insertionSort _ _
  have hpresent : presentTotal rate.toRat flows = presentTotal (denoted scenario.discountRate) scenario.cashFlows := by
    rw [hreads.toRat]
    exact (hperm.map _).sum_eq
  have hlength := hperm.length_eq
  have hshort : (flows.length : ℚ) ≤ 2 ^ 53 - 2 := by
    have hnat : flows.length + 2 ≤ 2 ^ 53 := by
      rw [hlength]
      have := h.length
      omega
    have hcast : ((flows.length + 2 : ℕ) : ℚ) ≤ ((2 ^ 53 : ℕ) : ℚ) := by exact_mod_cast hnat
    push_cast at hcast
    linarith
  have hstart : RoomForFlows rate.toRat flows ⟨initial, initial, none⟩ := by
    refine ⟨fun flow hflow => hflows flow (hperm.mem_iff.mp hflow), ⟨?_, hinit.scale_le⟩, ⟨?_, hinit.scale_le⟩⟩
    · have hrounding : (flows.length : ℚ) / 10 ^ 18 ≤ 1 := by
        rw [div_le_one (by positivity)]
        exact hshort.trans (by norm_num)
      have hmoderate := h.present
      rw [← hpresent, ← hinit.toRat] at hmoderate
      dsimp only
      linarith
    · have hle := hinit.abs_le
      dsimp only
      linarith
  refine lands_bind (lands_foldlM (I := fun left cash => (∀ flow ∈ left, flow ∈ scenario.cashFlows) ∧
    RoomForFlows rate.toRat left cash) ?_ flows ⟨fun flow hflow => hperm.mem_iff.mp hflow, hstart⟩) fun cash hcash => ?_
  · rintro flow left cash ⟨hmem, hroom⟩
    have hpower := h.powers flow (hmem flow (.head _))
    rw [← hreads.toRat] at hpower
    refine (addFlow_lands hreads.scale.le hpos (one_le_factor hreads hpos) hreads.abs_le hreads.places flow hpower
      hroom).mono fun cash' hcash' => ⟨fun flow' hflow' => hmem flow' (.tail _ hflow'), hcash'⟩
  · have hnpv : |cash.npv.toRat| ≤ 10 ^ 36 - 1 := by
      have hle := hcash.2.npv.1
      simpa [presentTotal] using hle
    refine lands_bind (lands_round (by decide) hnpv (by norm_num)) fun rounded hrounded => lands_pure ?_
    exact hrounded.readable (by decide) (by norm_num)

end Decision
end Evllm
