/-
# The net present value

`economicResult` of `src/decision/assessment.ts` adds up the flows in the order
of their periods, each divided by a power of the discount factor to 18 places,
and rounds the total to two. Every flow is off by at most half a unit of its
last place, and so is the total (`Accurate.value`). The running sum of the
amounts is exact, so the payback period is the first at which what came in
outweighs what went out. The periods are distinct, so the order in which the
scenario lists its flows does not show.

The invariant `Progress` of the loop says all this of the flows that are done.

Key definitions: `netPresent`, `cumulativeAt`, `Accurate`, `Progress`.
Key theorems: `addFlow_ok`, `Progress.step`, `economicResult_accurate`.
-/
import Evllm.Decision.Exactness
import Evllm.Decision.Measures
import Evllm.Lib.StableSort

namespace Evllm
namespace Decision

open Lib ExactDecimal

/-! ### What the result should be -/

/-- A flow, discounted exactly. -/
def CashFlow.discounted (rate : ℚ) (flow : CashFlow) : ℚ := denoted flow.amount / (1 + rate) ^ periodOf flow.period

def netPresent (scenario : EconomicScenario) : ℚ :=
  denoted scenario.initialInvestment +
    (scenario.cashFlows.map (CashFlow.discounted (denoted scenario.discountRate))).sum

/-- The amounts of the flows up to the period. -/
def amountsUntil (flows : List CashFlow) (period : ℕ) : ℚ :=
  ((flows.filter fun flow => periodOf flow.period ≤ period).map fun flow => denoted flow.amount).sum

/-- The investment and the undiscounted amounts up to the period. -/
def cumulativeAt (scenario : EconomicScenario) (period : ℕ) : ℚ :=
  denoted scenario.initialInvestment + amountsUntil scenario.cashFlows period

/-- The period is the first at which `initial` and the amounts outweigh nothing. -/
def PaysBack (initial : ℚ) (flows : List CashFlow) (period : JsNumber) : Prop :=
  (∃ flow ∈ flows, flow.period = period) ∧ 0 ≤ initial + amountsUntil flows (periodOf period) ∧
    ∀ flow ∈ flows, 0 ≤ initial + amountsUntil flows (periodOf flow.period) → periodOf period ≤ periodOf flow.period

structure Accurate (scenario : EconomicScenario) (result : Economics) : Prop where
  value : |denoted result.netPresentValue - netPresent scenario| ≤
    5 / 1000 + scenario.cashFlows.length * (5 / 10 * (1 / 10 ^ 18))
  places : decimals result.netPresentValue ≤ 2
  periods : ∀ flow ∈ scenario.cashFlows, ∃ period : ℕ, 1 ≤ period ∧ flow.period = .finite period
  payback : ∀ period, result.paybackPeriod = some period ↔
    PaysBack (denoted scenario.initialInvestment) scenario.cashFlows period

/-! ### One flow -/

theorem discount_ok {factor z : ExactDecimal} : ∀ {period : ℕ} {d : ExactDecimal}, discount factor period d = .ok z →
    z.toRat = d.toRat * factor.toRat ^ period
  | 0, d, h => by
    rw [discount, pure_eq_ok] at h
    rw [h, pow_zero, mul_one]
  | period + 1, d, h => by
    simp only [discount, bind_eq_ok, dec_eq_ok] at h
    obtain ⟨e, he, h⟩ := h
    rw [discount_ok h, multiply_ok he, pow_succ]
    ring

theorem periodOf_natCast (n : ℕ) : periodOf (.finite n) = n := by
  simp [periodOf]

/-- A safe integer from 1 on. -/
theorem exists_period {period : JsNumber} (hsafe : period.isSafeInteger = true) (hpos : period.less (.finite 1) = false) :
    ∃ n : ℕ, 1 ≤ n ∧ period = .finite n := by
  cases period with
  | infinite negative => cases hsafe
  | nan => cases hsafe
  | finite value =>
    simp only [JsNumber.isSafeInteger, Bool.and_eq_true, decide_eq_true_eq] at hsafe
    simp only [JsNumber.less, decide_eq_false_iff_not, not_lt] at hpos
    have hvalue : (value.num : ℚ) = value := (Rat.den_eq_one_iff value).mp hsafe.1
    have hnum : 1 ≤ value.num := by
      rw [← hvalue] at hpos
      exact_mod_cast hpos
    refine ⟨value.num.toNat, by omega, ?_⟩
    have hcast : ((value.num.toNat : ℤ) : ℚ) = value.num := by rw [Int.toNat_of_nonneg (by omega)]
    rw [← hvalue, ← hcast]
    rfl

variable {rate : ExactDecimal} {cash cash' : Cash} {flow : CashFlow}

/-- **One turn of the loop.** -/
structure Added (rate : ExactDecimal) (cash : Cash) (flow : CashFlow) (cash' : Cash) : Prop where
  period : ∃ n : ℕ, 1 ≤ n ∧ flow.period = .finite n
  npv : |cash'.npv.toRat - (cash.npv.toRat + flow.discounted rate.toRat)| ≤ 1 / 2 / 10 ^ 18
  cumulative : cash'.cumulative.toRat = cash.cumulative.toRat + denoted flow.amount
  payback : cash'.paybackPeriod =
    if cash.paybackPeriod.isNone then if 0 ≤ cash'.cumulative.toRat then some flow.period else none
    else cash.paybackPeriod

theorem addFlow_ok (h : addFlow rate cash flow = .ok cash') : Added rate cash flow cash' := by
  simp only [addFlow, rejectIf, bind_eq_ok, throwIf_eq_ok, dec_eq_ok, not_or, Bool.not_eq_false, Bool.not_eq_true] at h
  obtain ⟨-, ⟨hsafe, hless⟩, one, hone, factor, hfactor, denominator, hdenominator, amount, hamount, quotient, hquotient,
    npv, hnpv, cumulative, hcumulative, h⟩ := h
  obtain ⟨n, hn, hperiod⟩ := exists_period hsafe hless
  have hnpvValue : |npv.toRat - (cash.npv.toRat + flow.discounted rate.toRat)| ≤ 1 / 2 / 10 ^ 18 := by
    have hdivided : amount.toRat / denominator.toRat = flow.discounted rate.toRat := by
      rw [parse_toRat hamount, discount_ok hdenominator, add_ok hfactor, fromInteger_ok hone, CashFlow.discounted,
        Int.cast_one, one_mul, hperiod]
      rfl
    have herror := (divide_ok hquotient).1.abs_sub_le
    rw [hdivided, abs_sub_comm] at herror
    rw [add_ok hnpv, add_sub_add_left_eq_sub]
    exact herror
  have hcumulativeValue : cumulative.toRat = cash.cumulative.toRat + denoted flow.amount := by
    rw [add_ok hcumulative, parse_toRat hamount]
  split_ifs at h with hnone
  · simp only [bind_eq_ok, dec_eq_ok, pure_eq_ok] at h
    obtain ⟨zero, hzero, sign, hcompare, payback, rfl, rfl⟩ := h
    have hiff := (compare_ok hcompare).1
    rw [fromInteger_ok hzero, Int.cast_zero] at hiff
    refine ⟨⟨n, hn, hperiod⟩, hnpvValue, hcumulativeValue, ?_⟩
    simp only [hnone, if_true, hiff]
  · simp only [bind_eq_ok, pure_eq_ok] at h
    obtain ⟨payback, rfl, rfl⟩ := h
    refine ⟨⟨n, hn, hperiod⟩, hnpvValue, hcumulativeValue, ?_⟩
    simp only [hnone, Bool.false_eq_true, if_false]

/-! ### The loop -/

/-- What the cash says of the flows that are done. -/
structure Progress (rate : ExactDecimal) (initial : ℚ) (done : List CashFlow) (cash : Cash) : Prop where
  periods : ∀ flow ∈ done, ∃ n : ℕ, 1 ≤ n ∧ flow.period = .finite n
  npv : |cash.npv.toRat - (initial + (done.map (CashFlow.discounted rate.toRat)).sum)| ≤ done.length * (1 / 2 / 10 ^ 18)
  cumulative : cash.cumulative.toRat = initial + (done.map fun flow => denoted flow.amount).sum

theorem progress_step {initial : ℚ} {done : List CashFlow} (h : Progress rate initial done cash)
    (hadded : Added rate cash flow cash') : Progress rate initial (done ++ [flow]) cash' := by
  refine ⟨fun f hf => ?_, ?_, ?_⟩
  · obtain hf | hf := List.mem_append.mp hf
    · exact h.periods f hf
    · rw [List.mem_singleton.mp hf]
      exact hadded.period
  · have hbefore := h.npv
    have hnow := hadded.npv
    rw [List.map_append, List.sum_append, List.map_singleton, List.sum_singleton, List.length_append, List.length_singleton]
    push_cast
    generalize (done.map (CashFlow.discounted rate.toRat)).sum = total at *
    have hsplit : cash'.npv.toRat - (initial + (total + flow.discounted rate.toRat)) =
        (cash'.npv.toRat - (cash.npv.toRat + flow.discounted rate.toRat)) + (cash.npv.toRat - (initial + total)) := by
      ring
    rw [hsplit]
    refine (abs_add_le _ _).trans ?_
    linarith
  · rw [hadded.cumulative, h.cumulative, List.map_append, List.sum_append, List.map_singleton, List.sum_singleton,
      add_assoc]

/-! ### The payback period -/

/-- The periods of the flows grow. -/
def Growing (flows : List CashFlow) : Prop := flows.Pairwise fun f g => periodOf f.period < periodOf g.period

/-- Up to a period before the new flow's, the new flow makes no difference. -/
theorem amountsUntil_concat_lt {done : List CashFlow} {period : ℕ} (h : period < periodOf flow.period) :
    amountsUntil (done ++ [flow]) period = amountsUntil done period := by
  have hnot : ¬periodOf flow.period ≤ period := by omega
  simp [amountsUntil, List.filter_append, hnot]

/-- Up to its own period, all that is done counts. -/
theorem amountsUntil_concat {done : List CashFlow} (h : ∀ f ∈ done, periodOf f.period < periodOf flow.period) :
    amountsUntil (done ++ [flow]) (periodOf flow.period) = ((done ++ [flow]).map fun f => denoted f.amount).sum := by
  have hall : (done ++ [flow]).filter (fun f => periodOf f.period ≤ periodOf flow.period) = done ++ [flow] := by
    refine List.filter_eq_self.mpr fun f hf => ?_
    obtain hf | hf := List.mem_append.mp hf
    · simpa using (h f hf).le
    · simp [List.mem_singleton.mp hf]
  rw [amountsUntil, hall]

/-- What the payback period says of the flows that are done. -/
def KnowsPayback (initial : ℚ) (done : List CashFlow) : Option JsNumber → Prop
  | some period => PaysBack initial done period
  | none => ∀ flow ∈ done, initial + amountsUntil done (periodOf flow.period) < 0

theorem paysBack_unique {initial : ℚ} {flows : List CashFlow} {p q : JsNumber}
    (hperiods : ∀ flow ∈ flows, ∃ n : ℕ, 1 ≤ n ∧ flow.period = .finite n) (hp : PaysBack initial flows p)
    (hq : PaysBack initial flows q) : p = q := by
  obtain ⟨⟨f, hf, rfl⟩, hfsum, hfleast⟩ := hp
  obtain ⟨⟨g, hg, rfl⟩, hgsum, hgleast⟩ := hq
  have heq : periodOf f.period = periodOf g.period := le_antisymm (hfleast g hg hgsum) (hgleast f hf hfsum)
  obtain ⟨m, -, hm⟩ := hperiods f hf
  obtain ⟨n, -, hn⟩ := hperiods g hg
  rw [hm, hn, periodOf_natCast, periodOf_natCast] at heq
  rw [hm, hn, heq]

theorem knowsPayback_iff {initial : ℚ} {flows : List CashFlow} {payback : Option JsNumber}
    (hperiods : ∀ flow ∈ flows, ∃ n : ℕ, 1 ≤ n ∧ flow.period = .finite n) (h : KnowsPayback initial flows payback)
    (period : JsNumber) : payback = some period ↔ PaysBack initial flows period := by
  cases payback with
  | some p =>
    constructor
    · intro heq
      cases heq
      exact h
    · intro hperiod
      rw [paysBack_unique hperiods h hperiod]
  | none =>
    refine iff_of_false (by simp) ?_
    rintro ⟨⟨f, hf, rfl⟩, hsum, -⟩
    exact absurd hsum (not_le.mpr (h f hf))

theorem knowsPayback_step {initial : ℚ} {done : List CashFlow} (hgrows : ∀ f ∈ done, periodOf f.period < periodOf flow.period)
    (hprogress : Progress rate initial (done ++ [flow]) cash') (hadded : Added rate cash flow cash')
    (h : KnowsPayback initial done cash.paybackPeriod) : KnowsPayback initial (done ++ [flow]) cash'.paybackPeriod := by
  have hold : ∀ f ∈ done, amountsUntil (done ++ [flow]) (periodOf f.period) = amountsUntil done (periodOf f.period) :=
    fun f hf => amountsUntil_concat_lt (hgrows f hf)
  have hnew : cash'.cumulative.toRat = initial + amountsUntil (done ++ [flow]) (periodOf flow.period) := by
    rw [hprogress.cumulative, amountsUntil_concat hgrows]
  rw [hadded.payback]
  cases hprior : cash.paybackPeriod with
  | some prior =>
    -- an earlier flow has paid back already, and the new one comes later
    rw [hprior] at h
    obtain ⟨⟨f, hf, rfl⟩, hsum, hleast⟩ := h
    refine ⟨⟨f, List.mem_append_left _ hf, rfl⟩, by rwa [hold f hf], fun g hg hgsum => ?_⟩
    obtain hg | hg := List.mem_append.mp hg
    · rw [hold g hg] at hgsum
      exact hleast g hg hgsum
    · rw [List.mem_singleton.mp hg]
      exact (hgrows f hf).le
  | none =>
    rw [hprior] at h
    simp only [Option.isNone_none, if_true]
    split_ifs with hsign
    · refine ⟨⟨flow, by simp, rfl⟩, by rwa [← hnew], fun g hg hgsum => ?_⟩
      obtain hg | hg := List.mem_append.mp hg
      · rw [hold g hg] at hgsum
        exact absurd hgsum (not_le.mpr (h g hg))
      · rw [List.mem_singleton.mp hg]
    · intro g hg
      obtain hg | hg := List.mem_append.mp hg
      · rw [hold g hg]
        exact h g hg
      · rw [List.mem_singleton.mp hg, ← hnew]
        exact not_le.mp hsign

/-! ### The order of the flows -/

/-- The order of the periods, where they are numbers. -/
def valueOfPeriod : JsNumber → ℚ
  | .finite value => value
  | _ => 0

def periodLE (f g : CashFlow) : Prop := valueOfPeriod f.period ≤ valueOfPeriod g.period

instance : DecidableRel periodLE := fun f g => inferInstanceAs (Decidable (valueOfPeriod f.period ≤ valueOfPeriod g.period))

instance : Std.Total periodLE := ⟨fun f g => le_total (valueOfPeriod f.period) (valueOfPeriod g.period)⟩

instance : IsTrans CashFlow periodLE := ⟨fun _ _ _ => le_trans⟩

def Finite (flows : List CashFlow) : Prop := ∀ flow ∈ flows, ∃ n : ℕ, 1 ≤ n ∧ flow.period = .finite n

theorem sorted_eq {flows : List CashFlow} (h : Finite flows) :
    flows.insertionSort (fun left right => ¬right.period.less left.period = true) = flows.insertionSort periodLE := by
  have hle : ∀ f ∈ flows, ∀ g ∈ flows, (¬g.period.less f.period = true) ↔ periodLE f g := by
    intro f hf g hg
    obtain ⟨m, -, hm⟩ := h f hf
    obtain ⟨n, -, hn⟩ := h g hg
    simp [periodLE, hm, hn, JsNumber.less, valueOfPeriod]
  simpa using List.map_insertionSort (r := fun left right : CashFlow => ¬right.period.less left.period = true) (s := periodLE)
    (f := id) flows hle

/-- The periods of sorted flows grow, if they are distinct. -/
theorem growing_sorted {flows : List CashFlow} (h : Finite flows) (hnodup : (flows.map CashFlow.period).Nodup)
    (hsorted : flows.Pairwise periodLE) : Growing flows := by
  have hdistinct : flows.Pairwise fun f g => f.period ≠ g.period := List.pairwise_map.mp hnodup
  refine (hsorted.and hdistinct).imp_of_mem fun {f g} hf hg hfg => ?_
  obtain ⟨m, -, hm⟩ := h f hf
  obtain ⟨n, -, hn⟩ := h g hg
  obtain ⟨hle, hne⟩ := hfg
  rw [periodLE, hm, hn] at hle
  rw [hm, hn] at hne
  rw [hm, hn, periodOf_natCast, periodOf_natCast]
  have hcast : (m : ℚ) ≤ n := hle
  have hmn : m ≤ n := by exact_mod_cast hcast
  exact lt_of_le_of_ne hmn fun heq => hne (by rw [heq])

/-- Flows of distinct periods sort to one list, in whatever order they come. -/
theorem sorted_of_perm {flows flows' : List CashFlow} (hperm : flows'.Perm flows) (h : Finite flows)
    (hnodup : (flows.map CashFlow.period).Nodup) : flows'.insertionSort periodLE = flows.insertionSort periodLE := by
  refine insertionSort_eq_iff.mpr (sameTies_of_perm hperm fun a f g hf hg haf hag => ?_)
  have hf' := hperm.mem_iff.mp hf
  have hg' := hperm.mem_iff.mp hg
  obtain ⟨m, -, hm⟩ := h f hf'
  obtain ⟨n, -, hn⟩ := h g hg'
  have heq : valueOfPeriod f.period = valueOfPeriod g.period :=
    (le_antisymm haf.2 haf.1).trans (le_antisymm hag.1 hag.2)
  refine List.inj_on_of_nodup_map hnodup hf' hg' ?_
  rw [hm, hn] at heq ⊢
  exact congrArg JsNumber.finite heq

/-! ### The result -/

theorem amountsUntil_perm {flows flows' : List CashFlow} (h : flows'.Perm flows) (period : ℕ) :
    amountsUntil flows' period = amountsUntil flows period :=
  ((h.filter _).map _).sum_eq

theorem paysBack_perm {flows flows' : List CashFlow} (h : flows'.Perm flows) (initial : ℚ) (period : JsNumber) :
    PaysBack initial flows' period ↔ PaysBack initial flows period := by
  simp only [PaysBack, h.mem_iff, amountsUntil_perm h]

theorem decimals_toCanonical (x : ExactDecimal) : decimals x.toCanonical = x.scale := by
  obtain ⟨n, hcoefficient, hscale⟩ := exists_numeral x
  rw [Numeral.toCanonical_chars hcoefficient.symm hscale.symm, n.decimals_chars, hscale]

/-- What a scenario must be for its economics to be returned. -/
structure Computed (scenario : EconomicScenario) (flows : List CashFlow) (result : Economics) (rate : ExactDecimal)
    (initial : ExactDecimal) (cash : Cash) : Prop where
  rateRead : rate.toRat = denoted scenario.discountRate
  initialRead : initial.toRat = denoted scenario.initialInvestment
  distinct : (flows.map CashFlow.period).Nodup
  loop : flows.foldlM (addFlow rate) ⟨initial, initial, none⟩ = .ok cash
  value : |denoted result.netPresentValue - cash.npv.toRat| ≤ 1 / 2 / 10 ^ 2
  places : decimals result.netPresentValue ≤ 2
  payback : result.paybackPeriod = cash.paybackPeriod

theorem economicResult_ok {scenario : EconomicScenario} {result : Economics} (h : economicResult scenario = .ok result) :
    ∃ rate initial cash, Computed scenario
      (scenario.cashFlows.insertionSort fun left right => ¬right.period.less left.period = true) result rate initial cash := by
  simp only [economicResult, rejectIf, bind_eq_ok, throwIf_eq_ok, dec_eq_ok, pure_eq_ok, not_not] at h
  obtain ⟨-, -, rate, hrate, -, -, -, -, -, -, initial, hinitial, -, hdistinct, cash, hloop, rounded, hround, rfl⟩ := h
  refine ⟨rate, initial, cash, parse_toRat hrate, parse_toRat hinitial, hdistinct, hloop, ?_, ?_, rfl⟩
  · rw [denoted_toCanonical, abs_sub_comm]
    exact (round_ok hround).1.abs_sub_le
  · rw [decimals_toCanonical]
    exact (round_ok hround).2

theorem knowsPayback_nil (initial : ℚ) : KnowsPayback initial [] none := fun _ hf => (nomatch hf)

/-- Every flow that the loop has taken passed its check. -/
theorem finite_of_loop {rate : ExactDecimal} {flows : List CashFlow} {start cash : Cash}
    (h : flows.foldlM (addFlow rate) start = .ok cash) : Finite flows :=
  foldlM_history (I := fun done _ => Finite done) (fun done flow _ _ _ _ hdone hstep f hf => by
    obtain hf | hf := List.mem_append.mp hf
    · exact hdone f hf
    · rw [List.mem_singleton.mp hf]
      exact (addFlow_ok hstep).period) (fun _ hf => nomatch hf) h

/-- **The loop** keeps what its cash should be. -/
theorem loop_progress {rate initial : ExactDecimal} {flows : List CashFlow} {cash : Cash} (hgrowing : Growing flows)
    (h : flows.foldlM (addFlow rate) ⟨initial, initial, none⟩ = .ok cash) :
    Progress rate initial.toRat flows cash ∧ KnowsPayback initial.toRat flows cash.paybackPeriod := by
  refine foldlM_history (I := fun done cash => Progress rate initial.toRat done cash ∧
    KnowsPayback initial.toRat done cash.paybackPeriod) (fun done flow rest cash cash' hdone hcash hstep => ?_)
    ⟨⟨fun _ hf => (nomatch hf), by simp, by simp⟩, knowsPayback_nil _⟩ h
  have hadded := addFlow_ok hstep
  have hprogress := progress_step hcash.1 hadded
  refine ⟨hprogress, knowsPayback_step (fun f hf => ?_) hprogress hadded hcash.2⟩
  rw [← hdone] at hgrowing
  exact (List.pairwise_append.mp hgrowing).2.2 f hf flow List.mem_cons_self

/-- **The economics are accurate, in whatever order the flows come.** -/
theorem economicResult_accurate {scenario : EconomicScenario} {result : Economics}
    (h : economicResult scenario = .ok result) :
    Accurate scenario result ∧
      ∀ flows, flows.Perm scenario.cashFlows → economicResult { scenario with cashFlows := flows } = .ok result := by
  obtain ⟨rate, initial, cash, hcomputed⟩ := economicResult_ok h
  have hsortedFinite := finite_of_loop hcomputed.loop
  have hperm := List.perm_insertionSort (fun left right : CashFlow => ¬right.period.less left.period = true) scenario.cashFlows
  have hfinite : Finite scenario.cashFlows := fun flow hflow => hsortedFinite flow (hperm.mem_iff.mpr hflow)
  have hsorted := sorted_eq hfinite
  have hnodup : (scenario.cashFlows.map CashFlow.period).Nodup := (hperm.map _).nodup_iff.mp hcomputed.distinct
  refine ⟨?_, fun flows hflows => ?_⟩
  · have hgrowing : Growing (scenario.cashFlows.insertionSort fun left right => ¬right.period.less left.period = true) := by
      refine growing_sorted hsortedFinite hcomputed.distinct ?_
      rw [hsorted]
      exact List.pairwise_insertionSort periodLE _
    obtain ⟨hprogress, hpayback⟩ := loop_progress hgrowing hcomputed.loop
    generalize (scenario.cashFlows.insertionSort fun left right => ¬right.period.less left.period = true) = sorted at *
    refine ⟨?_, hcomputed.places, hfinite, fun period => ?_⟩
    · have hrounded := hcomputed.value
      have hsum := hprogress.npv
      rw [(hperm.map _).sum_eq, hperm.length_eq, hcomputed.initialRead, hcomputed.rateRead] at hsum
      have hsplit : denoted result.netPresentValue - netPresent scenario =
          (denoted result.netPresentValue - cash.npv.toRat) + (cash.npv.toRat - netPresent scenario) := by ring
      rw [hsplit]
      refine (abs_add_le _ _).trans ((add_le_add hrounded hsum).trans_eq ?_)
      norm_num
    · rw [hcomputed.payback, knowsPayback_iff hsortedFinite hpayback, paysBack_perm hperm, hcomputed.initialRead]
  · have hsame : flows.insertionSort (fun left right => ¬right.period.less left.period = true) =
        scenario.cashFlows.insertionSort fun left right => ¬right.period.less left.period = true := by
      rw [hsorted, sorted_eq fun flow hflow => hfinite flow (hflows.mem_iff.mp hflow)]
      exact sorted_of_perm hflows hfinite hnodup
    rw [← h]
    simp only [economicResult, hsame]

/-- An outlay that pays back in its second year, its flows listed backwards. -/
def twoYears : EconomicScenario :=
  ⟨[⟨"60", .finite 2⟩, ⟨"60", .finite 1⟩], "EUR", "0.05", "-100"⟩

theorem twoYears_accurate : ∃ result, economicResult twoYears = .ok result ∧ result.netPresentValue = "11.56" ∧
    result.paybackPeriod = some (.finite 2) ∧ Accurate twoYears result ∧
    ∀ flows, flows.Perm twoYears.cashFlows → economicResult { twoYears with cashFlows := flows } = .ok result := by
  have hchecked : ((economicResult twoYears).toOption.any fun result =>
      result.netPresentValue = "11.56" ∧ result.paybackPeriod = some (.finite 2)) = true := by decide +kernel
  obtain ⟨result, hreturned, hvalues⟩ := (Option.any_eq_true _ _).mp hchecked
  obtain ⟨hvalue, hpayback⟩ := of_decide_eq_true hvalues
  have hresult := toOption_eq_some.mp hreturned
  obtain ⟨haccurate, horder⟩ := economicResult_accurate hresult
  exact ⟨result, hresult, hvalue, hpayback, haccurate, horder⟩

end Decision
end Evllm
