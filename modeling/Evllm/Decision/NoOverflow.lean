/-
# Assessments that do not overflow

Inputs that the schemas accept can need more digits than a decimal has; those of
moderate size (`Moderate`) never do, and every decimal of their result is one
that can be read.

Key definitions: `DecimalInputs`, `Moderate`, `ReadableResult`.
Key theorems: `assessRoute_lands`, `assess_moderate`.
-/
import Evllm.Decision.Measures
import Evllm.Decision.Preference

namespace Evllm
namespace Decision

open Lib ExactDecimal

variable {α : Type}

/-! ### A route -/

structure ReadableEvidence (a : EvidenceAdequacy) : Prop where
  coverage : Readable a.coverage
  verifiedFraction : Readable a.verifiedFraction
  freshnessFraction : Readable a.freshnessFraction

theorem evidenceAdequacy_lands {items : List EvidenceFieldState} (hlength : items.length < 2 ^ 53) :
    Lands NotDecimal (evidenceAdequacy items) ReadableEvidence := by
  have hfraction : ∀ {part : List EvidenceFieldState}, part.length ≤ items.length →
      Lands NotDecimal (fraction part.length items.length) Readable :=
    fun hle => fraction_lands hle (by omega)
  unfold evidenceAdequacy
  refine lands_rejectIf fun _ => ?_
  dsimp only
  refine lands_bind (hfraction (List.length_filter_le _ _)) fun coverage hcoverage => ?_
  refine lands_bind (hfraction ((List.length_filter_le _ _).trans (List.length_filter_le _ _))) fun verified hverified => ?_
  refine lands_bind (hfraction (List.length_filter_le _ _)) fun fresh hfresh => ?_
  exact lands_pure ⟨hcoverage, hverified, hfresh⟩

/-- The decimals of the points. -/
def ReadablePoints (points : List PercentilePoint) : Prop :=
  ∀ point ∈ points, Readable point.probability ∧ Readable point.value

theorem validatePercentiles_lands : ∀ {points : List PercentilePoint} {prior : Option ExactDecimal},
    ReadablePoints points → (∀ x, prior = some x → |x.toRat| ≤ 10 ^ 38 ∧ x.scale ≤ 18) →
    Lands NotDecimal (validatePercentiles prior points) ReadablePoints
  | [], _, _, _ => lands_pure (by simp [ReadablePoints])
  | point :: points, prior, hread, hprior => by
    obtain ⟨hprobability, hvalue⟩ := hread point (.head _)
    have hlast : ∀ {probability : ExactDecimal}, Reads point.probability probability →
        Lands NotDecimal (do
          let value ← dec (parse point.value)
          let rest ← validatePercentiles (some probability) points
          return (⟨probability.toCanonical, value.toCanonical⟩ :: rest : List PercentilePoint)) ReadablePoints := by
      intro probability hp
      refine lands_bind (lands_parse hvalue) fun value hv => ?_
      refine lands_bind (validatePercentiles_lands (fun p hp => hread p (.tail _ hp)) ?_) fun rest hrest => ?_
      · rintro x ⟨⟩
        exact ⟨hp.abs_le, hp.scale_le⟩
      · refine lands_pure (List.forall_mem_cons.mpr ⟨?_, hrest⟩)
        rw [hp.written, hv.written]
        exact ⟨hprobability, hvalue⟩
    unfold validatePercentiles
    refine lands_bind (lands_parse hprobability) fun probability hp => ?_
    refine lands_bind (lands_fromInteger (by norm_num)) fun zero hzero => ?_
    refine lands_bind (lands_compare (B := 10 ^ 38) (by norm_num) hp.abs_le (by simp [hzero.1]) hp.scale_le
      (hzero.2.le.trans (by decide))) fun _ _ => lands_rejectIf fun _ => ?_
    refine lands_bind (lands_fromInteger (by norm_num)) fun one hone => ?_
    refine lands_bind (lands_compare (B := 10 ^ 38) (by norm_num) hp.abs_le (by norm_num [hone.1]) hp.scale_le
      (hone.2.le.trans (by decide))) fun _ _ => lands_rejectIf fun _ => ?_
    cases prior with
    | none => exact hlast hp
    | some x =>
      obtain ⟨hx, hxs⟩ := hprior x rfl
      exact lands_bind (lands_compare (B := 10 ^ 38) (by norm_num) hp.abs_le hx hp.scale_le hxs) fun _ _ =>
        lands_rejectIf fun _ => hlast hp

/-- Every decimal string of an input is one that `ExactDecimal.parse` accepts. -/
structure DecimalInputs (input : RouteAssessmentInput) : Prop where
  weights : ∀ c ∈ input.circularity, Readable c.weight
  terms : ∀ term ∈ input.environmental, Readable term.quantity ∧ Readable term.factor
  functionalUnit : Readable input.functionalUnit
  discountRate : Readable input.economics.discountRate
  initialInvestment : Readable input.economics.initialInvestment
  amounts : ∀ flow ∈ input.economics.cashFlows, Readable flow.amount
  percentiles : ReadablePoints (input.uncertaintyPercentiles.getD [])

/-- An input of moderate size. -/
structure Moderate (input : RouteAssessmentInput) : Prop where
  weights : weightTotal input.circularity ≤ 10 ^ 29
  impacts : ∀ category, impactTotal input.environmental category < 10 ^ 44
  perUnit : ∀ category, impactTotal input.environmental category / denoted input.functionalUnit ≤ 10 ^ 32 - 1
  economics : ModerateEconomics input.economics
  evidence : input.evidence.length < 2 ^ 53
  scenarios : input.uncertaintyScenarios.length < 2 ^ 53

/-- Every decimal string of a result is one that `ExactDecimal.parse` accepts. -/
structure ReadableResult (route : RouteAssessmentResult) : Prop where
  C : ReadableCircularity route.C
  I : ∀ indicator ∈ route.I, Readable indicator.value
  E : Readable route.E.netPresentValue
  A : ReadableEvidence route.A
  U : Readable route.U.gatePassFrequency ∧ ReadablePoints route.U.percentiles

theorem assessRoute_lands {ι : Type} (env : Environment ι) {input : RouteAssessmentInput} (hinput : DecimalInputs input)
    (h : Moderate input) : Lands NotDecimal (assessRoute env input) ReadableResult := by
  unfold assessRoute
  refine lands_bind (evidenceAdequacy_lands h.evidence) fun evidence hevidence => ?_
  refine lands_bind (circularityScore_lands hinput.weights h.weights) fun circularity hcircularity => ?_
  refine lands_bind (environmentalIndicators_lands env hinput.terms hinput.functionalUnit h.impacts h.perUnit)
    fun environmental henvironmental => ?_
  refine lands_bind (economicResult_lands hinput.discountRate hinput.initialInvestment hinput.amounts h.economics)
    fun economics heconomics => ?_
  have hpass : passCount input.uncertaintyScenarios ≤ input.uncertaintyScenarios.length := List.length_filter_le _ _
  refine lands_bind (fraction_lands hpass (by have := h.scenarios; omega)) fun frequency hfrequency => ?_
  refine lands_bind (validatePercentiles_lands hinput.percentiles (by simp)) fun percentiles hpercentiles => ?_
  exact lands_pure ⟨hcircularity, henvironmental, heconomics, hevidence, hfrequency, hpercentiles⟩

/-! ### Comparing -/

theorem compareStrings_lands {left right : String} (hleft : Readable left) (hright : Readable right) :
    Lands NotDecimal (compareStrings left right) fun _ => True := by
  unfold compareStrings
  refine lands_bind (lands_parse hleft) fun l hl => ?_
  refine lands_bind (lands_parse hright) fun r hr => ?_
  exact (lands_compare (B := 10 ^ 38) (by norm_num) hl.abs_le hr.abs_le hl.scale_le hr.scale_le).mono fun _ _ => trivial

/-- The impacts are all as small as what can be read. -/
def SmallImpacts (map : JsMap String ExactDecimal) : Prop :=
  ∀ category x, map.get category = some x → |x.toRat| ≤ 10 ^ 38 ∧ x.scale ≤ 18

/-- One indicator is added to the map of impacts. -/
theorem setImpact_small {map : JsMap String ExactDecimal} (hmap : SmallImpacts map) (category : String)
    {x : ExactDecimal} (hx : |x.toRat| ≤ 10 ^ 38 ∧ x.scale ≤ 18) : SmallImpacts (map.set category x) := by
  intro other y hget
  by_cases hcategory : category = other
  · subst hcategory
    rw [JsMap.get_set_self] at hget
    rwa [← Option.some.inj hget]
  · rw [JsMap.get_set_ne _ _ hcategory] at hget
    exact hmap other y hget

theorem impacts_lands (shared : List String) {route : RouteAssessmentResult} (h : ReadableResult route) :
    Lands NotDecimal (impacts shared route) SmallImpacts := by
  have hfiltered : ∀ indicator ∈ route.I.filter fun i => i.category ∈ shared, Readable indicator.value :=
    fun indicator hmem => h.I indicator (List.mem_filter.mp hmem).1
  have hempty : SmallImpacts JsMap.empty := fun category x hget => by simp at hget
  have hfold := lands_foldlM (E := NotDecimal) (f := fun map (indicator : EnvironmentalIndicator) => do
      return JsMap.set map indicator.category (← dec (parse indicator.value)))
    (I := fun left map => (∀ indicator ∈ left, Readable indicator.value) ∧ SmallImpacts map) ?_
    (route.I.filter fun i => i.category ∈ shared) (b := JsMap.empty) ⟨hfiltered, hempty⟩
  · exact hfold.mono fun _ hmap => hmap.2
  · rintro indicator left map ⟨hread, hmap⟩
    refine lands_bind (lands_parse (hread indicator (.head _))) fun x hx => ?_
    exact lands_pure ⟨fun i hi => hread i (.tail _ hi), setImpact_small hmap _ ⟨hx.abs_le, hx.scale_le⟩⟩

theorem compareImpacts_lands {left right : JsMap String ExactDecimal} (hleft : SmallImpacts left)
    (hright : SmallImpacts right) (category : String) :
    Lands NotDecimal (compareImpacts left right category) fun _ => True := by
  unfold compareImpacts
  split
  · next l r hl hr =>
    obtain ⟨hlsize, hlscale⟩ := hleft _ _ hl
    obtain ⟨hrsize, hrscale⟩ := hright _ _ hr
    exact lands_bind (lands_compare (B := 10 ^ 38) (by norm_num) hlsize hrsize hlscale hrscale) fun _ _ =>
      lands_pure trivial
  · intro code heq
    cases heq

theorem dominatingPairs_lands (shared : List String) : ∀ {pairs : List (RouteAssessmentResult × RouteAssessmentResult)},
    (∀ pair ∈ pairs, ReadableResult pair.1 ∧ ReadableResult pair.2) →
    Lands NotDecimal (dominatingPairs shared pairs) fun _ => True
  | [], _ => lands_pure trivial
  | (left, right) :: pairs, h => by
    have hrest := dominatingPairs_lands shared fun pair hpair => h pair (.tail _ hpair)
    obtain ⟨hleft, hright⟩ := h (left, right) (.head _)
    unfold dominatingPairs
    split_ifs
    · exact hrest
    · refine lands_bind (P := fun _ => True) ?_ fun values _ => lands_bind hrest fun rest _ => ?_
      · unfold comparisons
        refine lands_bind (impacts_lands shared hleft) fun leftImpacts hl => ?_
        refine lands_bind (impacts_lands shared hright) fun rightImpacts hr => ?_
        refine lands_bind (compareStrings_lands hleft.C.lower hright.C.lower) fun _ _ => ?_
        refine lands_bind (compareStrings_lands hleft.A.coverage hright.A.coverage) fun _ _ => ?_
        refine lands_bind (compareStrings_lands hleft.E hright.E) fun _ _ => ?_
        exact lands_bind (lands_mapM fun category _ => compareImpacts_lands hl hr category) fun _ _ => lands_pure trivial
      · split_ifs <;> exact lands_pure trivial

/-! ### The assessment -/

/-- The functions around an assessment throw no decimal error: they parse a
schema and hash canonical bytes. -/
structure Environment.Quiet {ι : Type} (env : Environment ι) (basisInput : ι) : Prop where
  parseBasis : ∀ e, env.parseBasis basisInput = .error e → NotDecimal e
  routeCalculationInputsDigest : ∀ inputs e, env.routeCalculationInputsDigest inputs = .error e → NotDecimal e
  reproductionHash : ∀ basis inputs unsigned e, env.reproductionHash basis inputs unsigned = .error e → NotDecimal e

theorem lands_of_quiet {x : Except Thrown α} {P : α → Prop} (herror : ∀ e, x = .error e → NotDecimal e)
    (hok : ∀ a, x = .ok a → P a) : Lands NotDecimal x P := by
  cases x with
  | ok a => exact hok a rfl
  | error e => exact herror e rfl

theorem validateFunctionalUnits_lands {reference : FunctionalUnit} (hreference : Readable reference.value) :
    ∀ {pairs : List (RouteAssessmentInput × CandidateRoute)},
      (∀ pair ∈ pairs, Readable pair.1.functionalUnit ∧ Readable pair.2.functionalUnit.value) →
      Lands NotDecimal (validateFunctionalUnits reference pairs) fun _ => True
  | [], _ => lands_pure trivial
  | (input, candidate) :: pairs, h => by
    obtain ⟨hinput, hcandidate⟩ := h (input, candidate) (.head _)
    unfold validateFunctionalUnits
    refine lands_bind (compareStrings_lands hcandidate hinput) fun _ _ => lands_rejectIf fun _ => ?_
    refine lands_bind (compareStrings_lands hcandidate hreference) fun _ _ => lands_rejectIf fun _ => ?_
    refine lands_rejectIf fun _ => ?_
    exact validateFunctionalUnits_lands hreference fun pair hpair => h pair (.tail _ hpair)

theorem validateUncertaintyScenarioRankValues_lands : ∀ scenarios,
    Lands NotDecimal (validateUncertaintyScenarioRankValues scenarios) fun _ => True
  | [] => lands_pure trivial
  | _ :: scenarios =>
    lands_rejectIf fun _ => lands_rejectIf fun _ => validateUncertaintyScenarioRankValues_lands scenarios

theorem validateRanks_lands (routes : List RouteAssessmentInput) : ∀ ids,
    Lands NotDecimal (validateRanks routes ids) fun _ => True
  | [] => lands_pure trivial
  | id :: ids => by
    unfold validateRanks
    dsimp only
    split_ifs
    · exact validateRanks_lands routes ids
    · exact lands_rejectIf fun _ => validateRanks_lands routes ids

theorem validateUncertaintyScenarioComparability_lands (routes : List RouteAssessmentInput) :
    Lands NotDecimal (validateUncertaintyScenarioComparability routes) fun _ => True := by
  unfold validateUncertaintyScenarioComparability
  refine lands_bind (P := fun _ => True) ?_ fun sets _ => lands_rejectIf fun _ => validateRanks_lands routes _
  have hset : ∀ route, Lands NotDecimal (scenarioSet route) fun _ => True := fun route =>
    lands_rejectIf fun _ => lands_pure trivial
  exact (lands_mapM fun route _ => hset route).mono fun _ _ => trivial

theorem validateEnvironmentalResultUnits_lands (routes : List RouteAssessmentResult) :
    Lands NotDecimal (validateEnvironmentalResultUnits routes) fun _ => True := by
  unfold validateEnvironmentalResultUnits
  refine lands_bind (lands_foldlM (I := fun _ _ => True) (fun indicator _ units _ => ?_) _ trivial) fun _ _ =>
    lands_pure trivial
  exact lands_rejectIf fun _ => lands_pure trivial

/-- The assessment of inputs of moderate size. -/
theorem assess_lands {ι : Type} {env : Environment ι} {basisInput : ι} {routeInputs : List RouteAssessmentInput}
    (henv : env.Quiet basisInput)
    (hbasis : ∀ basis, env.parseBasis basisInput = .ok basis →
      ∀ candidate ∈ basis.candidateRoutes, Readable candidate.functionalUnit.value)
    (hinputs : ∀ input ∈ routeInputs, DecimalInputs input ∧ Moderate input) :
    Lands NotDecimal (assess env basisInput routeInputs) fun result => ∀ route ∈ result.routes, ReadableResult route := by
  unfold assess
  refine lands_bind (lands_of_quiet henv.parseBasis hbasis) fun basis hcandidates => ?_
  refine lands_rejectIf fun _ => ?_
  refine lands_bind (P := fun _ => True) ?_ fun _ _ => ?_
  · unfold checkFunctionalUnits
    split
    · intro code heq
      cases heq
    · next reference hreference =>
      refine validateFunctionalUnits_lands (hcandidates reference (List.mem_of_head? hreference)) ?_
      rintro ⟨input, candidate⟩ hpair
      exact ⟨(hinputs input (List.of_mem_zip hpair).1).1.functionalUnit,
        hcandidates candidate (List.of_mem_zip hpair).2⟩
  refine lands_bind (lands_of_quiet (P := fun _ => True) (henv.routeCalculationInputsDigest routeInputs) fun _ _ => trivial)
    fun digest _ => ?_
  refine lands_rejectIf fun _ => lands_rejectIf fun _ => ?_
  refine lands_bind (validateUncertaintyScenarioRankValues_lands _) fun _ _ => ?_
  refine lands_bind (lands_mapM fun input hinput => assessRoute_lands env (hinputs input hinput).1 (hinputs input hinput).2)
    fun results hresults => ?_
  refine lands_bind (validateEnvironmentalResultUnits_lands results) fun _ _ => ?_
  refine lands_bind (validateUncertaintyScenarioComparability_lands _) fun _ _ => ?_
  refine lands_bind (P := fun _ => True) ?_ fun dominance _ => ?_
  · unfold dominanceOf
    split_ifs
    · refine dominatingPairs_lands _ ?_
      rintro ⟨left, right⟩ hpair
      obtain ⟨l, hl, hpair⟩ := List.mem_flatMap.mp hpair
      obtain ⟨r, hr, hpair⟩ := List.mem_map.mp hpair
      obtain ⟨rfl, rfl⟩ := Prod.mk.inj hpair
      exact ⟨hresults l hl, hresults r hr⟩
    · trivial
  exact lands_bind (lands_of_quiet (P := fun _ => True) (henv.reproductionHash _ _ _) fun _ _ => trivial)
    fun hash _ => lands_pure hresults

/-- **An assessment of moderate size does not overflow**: it throws no decimal
error, and every decimal of its result can be read. -/
theorem assess_moderate {ι : Type} (env : Environment ι) (basisInput : ι) (routeInputs : List RouteAssessmentInput)
    (henv : env.Quiet basisInput)
    (hbasis : ∀ basis, env.parseBasis basisInput = .ok basis →
      ∀ candidate ∈ basis.candidateRoutes, Readable candidate.functionalUnit.value)
    (hinputs : ∀ input ∈ routeInputs, DecimalInputs input ∧ Moderate input) :
    (∀ code, assess env basisInput routeInputs ≠ .error (.decimal code)) ∧
      ∀ result, assess env basisInput routeInputs = .ok result → ∀ route ∈ result.routes, ReadableResult route := by
  have hlands := assess_lands henv hbasis hinputs
  constructor
  · intro code herror
    rw [herror] at hlands
    exact hlands code rfl
  · intro result hok
    rw [hok] at hlands
    exact hlands

/-! ### Both sides of the limit -/

/-- The checks that an assessment makes on an input, with a rate of at most four
decimals and a horizon of at most fifty periods. -/
structure Admissible (input : RouteAssessmentInput) : Prop where
  rate : -1 < denoted input.economics.discountRate
  unit : 0 < denoted input.functionalUnit
  distinct : (input.economics.cashFlows.map CashFlow.period).Nodup
  periods : ∀ flow ∈ input.economics.cashFlows, flow.period.isSafeInteger = true ∧
    flow.period.less (.finite 1) = false ∧ periodOf flow.period ≤ 50
  weights : (input.circularity.map fun c => denoted c.weight).sum = 1
  decimals : decimals input.economics.discountRate ≤ 4

namespace Sample

/-- The sample's routes with another rate and one flow. -/
def discounted (rate : String) (period : ℕ) : List RouteAssessmentInput :=
  routes.map fun input => { input with economics := ⟨[⟨"60", .finite period⟩], "EUR", rate, "-50.5"⟩ }

theorem readable_of_canonical {s : String} (h : canonicalDecimal s = true) : Readable s := by
  obtain ⟨n, hn, rfl⟩ := canonicalDecimal_iff.mp h
  exact ⟨hn.decimal, hn.parse_chars⟩

theorem discounted_decimal {rate : String} (hrate : Readable rate) (period : ℕ) :
    ∀ input ∈ discounted rate period, DecimalInputs input := by
  have hone : Readable "1" := readable_of_canonical (by decide)
  have hhalf : Readable "0.5" := readable_of_canonical (by decide)
  have htwo : Readable "2" := readable_of_canonical (by decide)
  have hinitial : Readable "-50.5" := readable_of_canonical (by decide)
  have hsixty : Readable "60" := readable_of_canonical (by decide)
  have hfirst : Readable "3.5" := readable_of_canonical (by decide)
  have hsecond : Readable "7.25" := readable_of_canonical (by decide)
  have hthird : Readable "9" := readable_of_canonical (by decide)
  simp only [discounted, routes, route, List.map_cons, List.map_nil, List.forall_mem_cons]
  refine ⟨?_, ?_, ?_, by simp⟩ <;>
    constructor <;> simp [ReadablePoints, *]

theorem environment_quiet : environment.Quiet () := by
  constructor
  · intro e h
    cases h
  · intro inputs e h
    cases h
  · intro basis inputs unsigned e h
    cases h

theorem environment_basis (basis : Basis) (h : environment.parseBasis () = .ok basis) :
    ∀ candidate ∈ basis.candidateRoutes, Readable candidate.functionalUnit.value := by
  have htwo : Readable "2" := readable_of_canonical (by decide)
  obtain rfl := Except.ok.inj h
  intro candidate hmem
  obtain ⟨routeId, -, rfl⟩ := List.mem_map.mp hmem
  exact htwo

def overflowed : Except Thrown AssessmentResult → Bool
  | .error (.decimal .overflow) => true
  | _ => false

/-- Twenty periods at 12.34 percent: the denominator has 82 digits. -/
theorem discounted_overflows : overflowed (assess environment () (discounted "0.1234" 20)) = true := by
  decide

theorem discounted_admissible : ∀ input ∈ discounted "0.1234" 20, Admissible input := by
  simp only [discounted, routes, route, List.map_cons, List.map_nil, List.forall_mem_cons]
  refine ⟨?_, ?_, ?_, by simp⟩ <;>
    constructor <;> decide +kernel

theorem discounted_moderate : ∀ input ∈ discounted "0.05" 3, Moderate input := by
  simp only [discounted, routes, route, List.map_cons, List.map_nil, List.forall_mem_cons]
  refine ⟨?_, ?_, ?_, by simp⟩ <;>
    refine ⟨by decide +kernel, fun category => ?_, fun category => ?_,
      ⟨by decide +kernel, by decide +kernel, by decide +kernel⟩, by decide +kernel, by decide +kernel⟩
  all_goals
    by_cases hcategory : "climate" = category
    · subst hcategory
      decide +kernel
    · norm_num [impactTotal, hcategory]

/-- The assessment returns. -/
def returned : Except Thrown AssessmentResult → Bool
  | .ok _ => true
  | .error _ => false

theorem discounted_returns : returned (assess environment () (discounted "0.05" 3)) = true := by
  decide +kernel

end Sample

/-- Three periods at 5 percent are assessed. -/
theorem assess_moderate_discounted : ∃ result, assess Sample.environment () (Sample.discounted "0.05" 3) = .ok result ∧
    ∀ route ∈ result.routes, ReadableResult route := by
  have hrate : Readable "0.05" := Sample.readable_of_canonical (by decide)
  obtain ⟨-, hread⟩ := assess_moderate Sample.environment () (Sample.discounted "0.05" 3) Sample.environment_quiet
    Sample.environment_basis fun input hinput =>
      ⟨Sample.discounted_decimal hrate 3 input hinput, Sample.discounted_moderate input hinput⟩
  have hreturns := Sample.discounted_returns
  generalize assess Sample.environment () (Sample.discounted "0.05" 3) = outcome at *
  cases outcome with
  | ok result => exact ⟨result, rfl, hread result rfl⟩
  | error e => cases hreturns

/-- Admissible inputs can overflow, with a rate of four decimals and a horizon
of twenty periods. -/
theorem assess_overflows :
    ¬∀ (ι : Type) (env : Environment ι) (basisInput : ι) (routeInputs : List RouteAssessmentInput),
      env.Quiet basisInput →
      (∀ basis, env.parseBasis basisInput = .ok basis →
        ∀ candidate ∈ basis.candidateRoutes, Readable candidate.functionalUnit.value) →
      (∀ input ∈ routeInputs, DecimalInputs input ∧ Admissible input) →
      (∀ code, assess env basisInput routeInputs ≠ .error (.decimal code)) ∧
        ∀ result, assess env basisInput routeInputs = .ok result → ∀ route ∈ result.routes, ReadableResult route := by
  intro h
  have hrate : Readable "0.1234" := Sample.readable_of_canonical (by decide)
  obtain ⟨hnever, -⟩ := h Unit Sample.environment () (Sample.discounted "0.1234" 20) Sample.environment_quiet
    Sample.environment_basis fun input hinput =>
      ⟨Sample.discounted_decimal hrate 20 input hinput, Sample.discounted_admissible input hinput⟩
  have hoverflow := Sample.discounted_overflows
  have hnever' := hnever .overflow
  generalize assess Sample.environment () (Sample.discounted "0.1234" 20) = outcome at hoverflow hnever'
  unfold Sample.overflowed at hoverflow
  split at hoverflow
  · exact hnever' rfl
  · cases hoverflow

end Decision
end Evllm
