/-
# The route assessment

`RouteAssessmentService.assess`: the three formal routes are each assessed for
their gate, circularity, environmental indicators, economics, evidence and
uncertainty, the routes that pass are compared, and one is preferred only if
it is the stable winner of every scenario and the only one not dominated.

The schema parser of the basis, the two digests and the collation of category
names are parameters (`Environment`). Everything that can throw returns
`Except Thrown _`, in the order in which the source evaluates it.

Key definitions: `RouteAssessmentInput`, `assessRoute`, `paretoDominance`,
`assess`.
-/
import Evllm.Decision.Decimal
import Evllm.Lib.JsMap
import Evllm.Lib.JsString
import Mathlib.Data.Fintype.Basic

namespace Evllm
namespace Decision

open Lib

/-! ### Data -/

/-- A JavaScript number. -/
inductive JsNumber where
  | finite (value : ℚ)
  | infinite (negative : Bool)
  | nan
  deriving DecidableEq

namespace JsNumber

def isSafeInteger : JsNumber → Bool
  | .finite value => value.den = 1 && value.num.natAbs ≤ 2 ^ 53 - 1
  | _ => false

/-- `x < y`. -/
def less : JsNumber → JsNumber → Bool
  | .finite x, .finite y => x < y
  | .finite _, .infinite negative => !negative
  | .infinite negative, .finite _ => negative
  | .infinite x, .infinite y => x && !y
  | _, _ => false

end JsNumber

/-- `FORMAL_ROUTES`, in order. -/
inductive FormalRoute where
  | continuedCompatibleEvUse
  | stationaryStorageRepurposing
  | recycling
  deriving DecidableEq, Repr

instance : Fintype FormalRoute where
  elems := {.continuedCompatibleEvUse, .stationaryStorageRepurposing, .recycling}
  complete route := by cases route <;> simp

def formalRoutes : List FormalRoute :=
  [.continuedCompatibleEvUse, .stationaryStorageRepurposing, .recycling]

inductive Gate where
  | fail
  | pass
  | unknown
  deriving DecidableEq, Repr

abbrev Rating := { n : ℕ // 1 ≤ n ∧ n ≤ 5 }

structure CircularityCriterion where
  id : String
  rating : Option Rating
  weight : String

structure EnvironmentalTerm where
  category : String
  factor : String
  flow : String
  recovered : Bool
  quantity : String
  resultUnit : String

structure CashFlow where
  amount : String
  period : JsNumber

structure EconomicScenario where
  cashFlows : List CashFlow
  currency : String
  discountRate : String
  initialInvestment : String

structure EvidenceFieldState where
  authorized : Bool
  conflicting : Bool
  critical : Bool
  current : Bool
  field : String
  present : Bool
  revoked : Bool
  verified : Bool
  deriving DecidableEq

/-- The part of a rule evaluation that an assessment reads. -/
structure RuleEvaluation where
  outcome : Gate
  reasonCodes : List String

structure UncertaintyScenario where
  gate : Gate
  id : String
  routeRank : Option JsNumber

structure PercentilePoint where
  probability : String
  value : String

structure RouteAssessmentInput where
  circularity : List CircularityCriterion
  economics : EconomicScenario
  environmental : List EnvironmentalTerm
  evidence : List EvidenceFieldState
  functionalUnit : String
  routeId : FormalRoute
  ruleEvaluation : RuleEvaluation
  uncertaintyScenarios : List UncertaintyScenario
  uncertaintyPercentiles : Option (List PercentilePoint)

structure Circularity where
  lower : String
  upper : String
  value : Option String

structure EnvironmentalIndicator where
  category : String
  unit : String
  value : String

structure Economics where
  currency : String
  netPresentValue : String
  paybackPeriod : Option JsNumber

inductive CriticalVerification where
  | missing
  | unverified
  | verified
  deriving DecidableEq, Repr

structure EvidenceAdequacy where
  coverage : String
  verifiedFraction : String
  freshnessFraction : String
  conflictCount : ℕ
  missingCritical : List String
  weakestCriticalVerification : CriticalVerification

structure Uncertainty where
  gatePassFrequency : String
  rankStable : Bool
  scenarioCount : ℕ
  percentiles : List PercentilePoint

structure RouteAssessmentResult where
  routeId : FormalRoute
  G : Gate
  C : Circularity
  I : List EnvironmentalIndicator
  E : Economics
  A : EvidenceAdequacy
  U : Uncertainty
  reasonCodes : List String

structure Dominance where
  dominant : FormalRoute
  dominated : FormalRoute
  deriving DecidableEq, Repr

inductive DecisionState where
  | answer
  | abstain
  | requiresExternalDecision
  deriving DecidableEq, Repr

structure Digest where
  alg : String
  value : String
  deriving DecidableEq

/-- The result before its reproduction hash. -/
structure Unsigned where
  assessmentInputId : String
  assessmentInputVersion : ℕ
  decisionState : DecisionState
  preferredRoute : Option FormalRoute
  dominance : List Dominance
  routes : List RouteAssessmentResult
  warnings : List String

structure AssessmentResult extends Unsigned where
  reproductionHash : Digest

structure FunctionalUnit where
  value : String
  unitId : String
  unitVersion : ℕ

structure CandidateRoute where
  routeId : FormalRoute
  functionalUnit : FunctionalUnit

/-- The part of the parsed basis that an assessment reads. -/
structure Basis where
  assessmentInputId : String
  assessmentInputVersion : ℕ
  calculationInputsDigest : Digest
  candidateRoutes : List CandidateRoute

/-- The codes of `AssessmentError`. -/
inductive AssessmentError where
  | currencyMismatch
  | calculationInputMismatch
  | duplicate
  | functionalUnitMismatch
  | invalidInput
  | routeMismatch
  | scenarioMismatch
  | unitMismatch
  | weightSum
  deriving DecidableEq, Repr

/-- What an assessment can throw: an error of its own, one of the decimals, one
of the functions in `Environment`, or the `TypeError` of a method called on
`undefined`. -/
inductive Thrown where
  | assessment (code : AssessmentError)
  | decimal (code : ExactDecimalError)
  | external (message : String)
  | typeError
  deriving DecidableEq, Repr

structure Environment (ι : Type) where
  /-- `assessmentInputPayload.parse`. -/
  parseBasis : ι → Except Thrown Basis
  /-- `routeCalculationInputsDigest`. -/
  routeCalculationInputsDigest : List RouteAssessmentInput → Except Thrown Digest
  /-- `sha256(canonicalJsonBytes({ basis, routeInputs, unsigned }))`. -/
  reproductionHash : Basis → List RouteAssessmentInput → Unsigned → Except Thrown Digest
  /-- `left.localeCompare(right)`. -/
  localeCompare : String → String → ℤ

/-! ### Decimals in an assessment -/

section Decimals

open ExactDecimal

/-- A decimal operation called from the assessment. -/
def dec {α : Type} : Except ExactDecimalError α → Except Thrown α
  | .ok a => .ok a
  | .error code => .error (.decimal code)

@[simp] theorem dec_eq_ok {α : Type} {x : Except ExactDecimalError α} {a : α} : dec x = .ok a ↔ x = .ok a := by
  cases x <;> simp [dec]

def reject {α : Type} (code : AssessmentError) : Except Thrown α := .error (.assessment code)

/-- `if (c) throw new AssessmentError(code)`. -/
def rejectIf (c : Prop) [Decidable c] (code : AssessmentError) : Except Thrown Unit :=
  throwIf c (Thrown.assessment code)

def fraction (numerator denominator : ℕ) : Except Thrown String :=
  if denominator = 0 then
    return "0"
  else do
    let n ← dec (fromInteger numerator)
    let d ← dec (fromInteger denominator)
    let quotient ← dec (n.divide d 6)
    return quotient.toCanonical

/-! ### The measures of a route -/

/-- `normalize` of `circularityScore`: a weighted rating as a percentage. -/
def normalizeScore (weighted : ExactDecimal) : Except Thrown String := do
  let above ← dec (weighted.subtract (← dec (fromInteger 1)))
  let scaled ← dec (above.multiply (← dec (fromInteger 100)))
  let quotient ← dec (scaled.divide (← dec (fromInteger 4)) 6)
  return quotient.toCanonical

/-- The sum of `weight * rating`, an absent rating counting as `absent`. -/
def weightedSum (absent : ℕ) (total : ExactDecimal) (criterion : CircularityCriterion) : Except Thrown ExactDecimal := do
  let weight ← dec (parse criterion.weight)
  let rating ← dec (fromInteger ((criterion.rating.map Subtype.val).getD absent : ℕ))
  dec (total.add (← dec (weight.multiply rating)))

/-- The loop of `circularityScore`, on the lower and the upper sum. -/
def scoreBounds (bounds : ExactDecimal × ExactDecimal) (criterion : CircularityCriterion) :
    Except Thrown (ExactDecimal × ExactDecimal) := do
  let lower ← weightedSum 1 bounds.1 criterion
  let upper ← weightedSum 5 bounds.2 criterion
  return (lower, upper)

def circularityScore (criteria : List CircularityCriterion) : Except Thrown Circularity := do
  rejectIf (criteria = [] ∨ ¬(criteria.map CircularityCriterion.id).Nodup) .duplicate
  let zero ← dec (fromInteger 0)
  let totalWeight ← criteria.foldlM (fun total criterion => do
    dec (add total (← dec (parse criterion.weight)))) zero
  rejectIf ((← dec (totalWeight.compare (← dec (fromInteger 1)))) ≠ 0) .weightSum
  let bounds ← criteria.foldlM scoreBounds (zero, zero)
  let complete := criteria.all fun criterion => criterion.rating.isSome
  let lower ← normalizeScore bounds.1
  let upper ← normalizeScore bounds.2
  return ⟨lower, upper, if complete then some lower else none⟩

/-- The loop of `environmentalIndicators`. -/
def addTerm (categories : JsMap String (ExactDecimal × String)) (term : EnvironmentalTerm) :
    Except Thrown (JsMap String (ExactDecimal × String)) := do
  let quantity ← dec (parse term.quantity)
  let factor ← dec (parse term.factor)
  let contribution ← dec (quantity.multiply factor)
  let prior := categories.get term.category
  rejectIf (prior.any fun entry => entry.2 ≠ term.resultUnit) .unitMismatch
  let zero ← dec (fromInteger 0)
  let signed ← if term.recovered then dec (zero.subtract contribution) else pure contribution
  let total ← dec (((prior.map Prod.fst).getD zero).add signed)
  return categories.set term.category (total, term.resultUnit)

def environmentalIndicators {ι : Type} (env : Environment ι) (terms : List EnvironmentalTerm)
    (functionalUnit : String) : Except Thrown (List EnvironmentalIndicator) := do
  let divisor ← dec (parse functionalUnit)
  rejectIf ((← dec (divisor.compare (← dec (fromInteger 0)))) ≤ 0) .invalidInput
  let categories ← terms.foldlM addTerm JsMap.empty
  (categories.entries.insertionSort fun left right => env.localeCompare left.1 right.1 ≤ 0).mapM
    fun (category, total, unit) => do
      let quotient ← dec (total.divide divisor 6)
      return ⟨category, unit, quotient.toCanonical⟩

/-- `denominator` of `economicResult`: `factor` to the power of the period. -/
def discount (factor : ExactDecimal) : ℕ → ExactDecimal → Except Thrown ExactDecimal
  | 0, denominator => return denominator
  | period + 1, denominator => do discount factor period (← dec (denominator.multiply factor))

/-- The values the loop of `economicResult` carries. -/
structure Cash where
  npv : ExactDecimal
  cumulative : ExactDecimal
  paybackPeriod : Option JsNumber

def addFlow (rate : ExactDecimal) (cash : Cash) (flow : CashFlow) : Except Thrown Cash := do
  rejectIf (flow.period.isSafeInteger = false ∨ flow.period.less (.finite 1) = true) .invalidInput
  let one ← dec (fromInteger 1)
  let factor ← dec (one.add rate)
  let period := match flow.period with
    | .finite value => value.num.toNat
    | _ => 0
  let denominator ← discount factor period one
  let amount ← dec (parse flow.amount)
  let npv ← dec (cash.npv.add (← dec (amount.divide denominator 18)))
  let cumulative ← dec (cash.cumulative.add amount)
  let paybackPeriod ←
    if cash.paybackPeriod.isNone then do
      let sign ← dec (cumulative.compare (← dec (fromInteger 0)))
      pure (if 0 ≤ sign then some flow.period else none)
    else pure cash.paybackPeriod
  return ⟨npv, cumulative, paybackPeriod⟩

/-- The pattern `^[A-Z]{3}$`. -/
def currencyPattern (currency : String) : Bool :=
  currency.toList.length = 3 && currency.toList.all Char.isUpper

def economicResult (scenario : EconomicScenario) : Except Thrown Economics := do
  rejectIf (currencyPattern scenario.currency = false) .currencyMismatch
  let rate ← dec (parse scenario.discountRate)
  rejectIf ((← dec (rate.compare (← dec (fromInteger (-1))))) ≤ 0) .invalidInput
  let initial ← dec (parse scenario.initialInvestment)
  let flows := scenario.cashFlows.insertionSort fun left right => ¬right.period.less left.period = true
  rejectIf (¬(flows.map CashFlow.period).Nodup) .duplicate
  let cash ← flows.foldlM (addFlow rate) ⟨initial, initial, none⟩
  let rounded ← dec (cash.npv.round 2)
  return ⟨scenario.currency, rounded.toCanonical, cash.paybackPeriod⟩

def EvidenceFieldState.usable (item : EvidenceFieldState) : Bool :=
  item.present && item.authorized && item.current && !item.revoked && !item.conflicting

def evidenceAdequacy (items : List EvidenceFieldState) : Except Thrown EvidenceAdequacy := do
  rejectIf (items = [] ∨ ¬(items.map EvidenceFieldState.field).Nodup) .duplicate
  let usable := items.filter EvidenceFieldState.usable
  let missingCritical :=
    sortStrings ((items.filter fun item => item.critical && item ∉ usable).map EvidenceFieldState.field)
  let critical := items.filter EvidenceFieldState.critical
  let weakest : CriticalVerification :=
    if critical.any fun item => item ∉ usable then .missing
    else if critical.any fun item => !item.verified then .unverified
    else .verified
  let coverage ← fraction usable.length items.length
  let verifiedFraction ← fraction (usable.filter EvidenceFieldState.verified).length items.length
  let freshnessFraction ← fraction (items.filter EvidenceFieldState.current).length items.length
  return ⟨coverage, verifiedFraction, freshnessFraction,
    (items.filter EvidenceFieldState.conflicting).length, missingCritical, weakest⟩

/-- `validatePercentiles`, with the probability before. -/
def validatePercentiles : Option ExactDecimal → List PercentilePoint → Except Thrown (List PercentilePoint)
  | _, [] => return []
  | prior, point :: points => do
    let probability ← dec (parse point.probability)
    rejectIf ((← dec (probability.compare (← dec (fromInteger 0)))) < 0) .invalidInput
    rejectIf (0 < (← dec (probability.compare (← dec (fromInteger 1))))) .invalidInput
    match prior with
    | none => pure ()
    | some prior => rejectIf ((← dec (probability.compare prior)) ≤ 0) .invalidInput
    let value ← dec (parse point.value)
    let rest ← validatePercentiles (some probability) points
    return ⟨probability.toCanonical, value.toCanonical⟩ :: rest

/-! ### One route -/

/-- The ranks that are there. -/
def ranksOf (scenarios : List UncertaintyScenario) : List JsNumber := scenarios.filterMap UncertaintyScenario.routeRank

def passCount (scenarios : List UncertaintyScenario) : ℕ := (scenarios.filter fun scenario => scenario.gate = .pass).length

def rankStable (scenarios : List UncertaintyScenario) : Bool :=
  passCount scenarios = scenarios.length && 0 < (ranksOf scenarios).length &&
    (ranksOf scenarios).length = scenarios.length && (ranksOf scenarios).all fun rank => some rank = (ranksOf scenarios).head?

/-- `G` of a route: what its rules and its critical evidence say. -/
def gateOf (outcome : Gate) (criticalEvidenceUnknown : Bool) : Gate :=
  if outcome = .fail then .fail
  else if outcome = .unknown ∨ criticalEvidenceUnknown = true then .unknown
  else .pass

def assessRoute {ι : Type} (env : Environment ι) (input : RouteAssessmentInput) : Except Thrown RouteAssessmentResult := do
  let evidence ← evidenceAdequacy input.evidence
  let criticalEvidenceUnknown := 0 < evidence.missingCritical.length
  let G := gateOf input.ruleEvaluation.outcome criticalEvidenceUnknown
  let circularity ← circularityScore input.circularity
  let environmental ← environmentalIndicators env input.environmental input.functionalUnit
  let economics ← economicResult input.economics
  let scenarios := input.uncertaintyScenarios
  let gatePassFrequency ← fraction (passCount scenarios) scenarios.length
  let percentiles ← validatePercentiles none (input.uncertaintyPercentiles.getD [])
  return {
    routeId := input.routeId
    G := G
    C := circularity
    I := environmental
    E := economics
    A := evidence
    U := ⟨gatePassFrequency, rankStable scenarios, scenarios.length, percentiles⟩
    reasonCodes := input.ruleEvaluation.reasonCodes ++
      (if criticalEvidenceUnknown then ["CRITICAL_EVIDENCE_UNKNOWN"] else []) ++
      (if G = .fail then ["TECHNICAL_GATE_FAILED"] else []) ++
      (if passCount scenarios < scenarios.length then ["SCENARIO_GATE_NOT_PASSED"] else []) ++
      (if rankStable scenarios = false then ["RANK_UNSTABLE"] else []) }

/-! ### Comparing routes -/

def validateUncertaintyScenarioRankValues : List UncertaintyScenario → Except Thrown Unit
  | [] => return ()
  | scenario :: scenarios => do
    rejectIf (scenario.routeRank.any fun rank => !rank.isSafeInteger || !(JsNumber.finite 0).less rank) .invalidInput
    rejectIf (scenario.gate ≠ .pass ∧ scenario.routeRank.isSome) .invalidInput
    validateUncertaintyScenarioRankValues scenarios

def addUnit (unitByCategory : JsMap String String) (indicator : EnvironmentalIndicator) :
    Except Thrown (JsMap String String) := do
  rejectIf ((unitByCategory.get indicator.category).any fun unit => unit ≠ indicator.unit) .unitMismatch
  return unitByCategory.set indicator.category indicator.unit

def validateEnvironmentalResultUnits (routes : List RouteAssessmentResult) : Except Thrown Unit := do
  let _ ← (routes.flatMap RouteAssessmentResult.I).foldlM addUnit JsMap.empty
  return ()

/-- The scenario ids of a route, sorted; they must be distinct. -/
def scenarioSet (route : RouteAssessmentInput) : Except Thrown (List String) := do
  let ids := route.uncertaintyScenarios.map UncertaintyScenario.id
  rejectIf (¬ids.Nodup) .duplicate
  return sortStrings ids

/-- The rank of a route in a scenario, `none` where it has none. -/
def rankIn (scenarioId : String) (route : RouteAssessmentInput) : Option JsNumber :=
  (route.uncertaintyScenarios.find? fun scenario => scenario.id = scenarioId).bind UncertaintyScenario.routeRank

/-- Where every route has a rank in a scenario, the ranks are `1, 2, …`. -/
def validateRanks (routes : List RouteAssessmentInput) : List String → Except Thrown Unit
  | [] => return ()
  | scenarioId :: scenarioIds => do
    let ranks := routes.map (rankIn scenarioId)
    if ranks.any Option.isNone then
      validateRanks routes scenarioIds
    else do
      let ordered := (ranks.filterMap id).insertionSort fun left right => ¬right.less left = true
      rejectIf (ordered ≠ (List.range ordered.length).map fun index => .finite (index + 1)) .invalidInput
      validateRanks routes scenarioIds

def validateUncertaintyScenarioComparability (routes : List RouteAssessmentInput) : Except Thrown Unit := do
  let scenarioSets ← routes.mapM scenarioSet
  let reference := scenarioSets.headD []
  rejectIf (∃ ids ∈ scenarioSets, ids ≠ reference) .scenarioMismatch
  validateRanks routes reference

def categoriesOf (route : RouteAssessmentResult) : List String := route.I.map EnvironmentalIndicator.category

/-- The categories every route has an indicator for. -/
def environmentalCategoriesSharedBy : List RouteAssessmentResult → List String
  | [] => []
  | route :: routes =>
    sortStrings ((categoriesOf route).dedup.filter fun category => routes.all fun other => category ∈ categoriesOf other)

def hasNonSharedEnvironmentalCategories (routes : List RouteAssessmentResult) (sharedCategories : List String) : Bool :=
  sharedCategories.length < (routes.flatMap categoriesOf).dedup.length

/-- The indicators of a route in the shared categories, as decimals. -/
def impacts (shared : List String) (route : RouteAssessmentResult) : Except Thrown (JsMap String ExactDecimal) :=
  (route.I.filter fun indicator => indicator.category ∈ shared).foldlM (fun map indicator => do
    return map.set indicator.category (← dec (parse indicator.value))) JsMap.empty

def compareStrings (left right : String) : Except Thrown ℤ := do
  let l ← dec (parse left)
  let r ← dec (parse right)
  dec (l.compare r)

/-- Less impact is better. -/
def compareImpacts (left right : JsMap String ExactDecimal) (category : String) : Except Thrown ℤ :=
  match left.get category, right.get category with
  | some l, some r => do return -(← dec (l.compare r))
  | _, _ => .error .typeError

/-- The comparisons of two routes, positive where the left is better. -/
def comparisons (shared : List String) (left right : RouteAssessmentResult) : Except Thrown (List ℤ) := do
  let leftImpacts ← impacts shared left
  let rightImpacts ← impacts shared right
  let circularity ← compareStrings left.C.lower right.C.lower
  let coverage ← compareStrings left.A.coverage right.A.coverage
  let netPresentValue ← compareStrings left.E.netPresentValue right.E.netPresentValue
  let environmental ← shared.mapM (compareImpacts leftImpacts rightImpacts)
  return circularity :: coverage :: netPresentValue :: environmental

/-- The loop of `paretoDominance`, over the pairs of routes. -/
def dominatingPairs (shared : List String) :
    List (RouteAssessmentResult × RouteAssessmentResult) → Except Thrown (List Dominance)
  | [] => return []
  | (left, right) :: pairs =>
    if left.routeId = right.routeId ∨ left.G ≠ .pass ∨ right.G ≠ .pass then
      dominatingPairs shared pairs
    else do
      let values ← comparisons shared left right
      let rest ← dominatingPairs shared pairs
      if (∀ value ∈ values, 0 ≤ value) ∧ ∃ value ∈ values, 0 < value then
        return ⟨left.routeId, right.routeId⟩ :: rest
      else
        return rest

def paretoDominance (routes : List RouteAssessmentResult) (shared : List String) : Except Thrown (List Dominance) :=
  dominatingPairs shared (routes.flatMap fun left => routes.map fun right => (left, right))

/-! ### The assessment -/

/-- The checks of the declared functional units against the inputs. -/
def validateFunctionalUnits (reference : FunctionalUnit) :
    List (RouteAssessmentInput × CandidateRoute) → Except Thrown Unit
  | [] => return ()
  | (input, candidate) :: rest => do
    let declared := candidate.functionalUnit
    rejectIf ((← compareStrings declared.value input.functionalUnit) ≠ 0) .functionalUnitMismatch
    rejectIf ((← compareStrings declared.value reference.value) ≠ 0) .functionalUnitMismatch
    rejectIf (declared.unitId ≠ reference.unitId ∨ declared.unitVersion ≠ reference.unitVersion) .unitMismatch
    validateFunctionalUnits reference rest

/-- The declared functional units are all the first one's. -/
def checkFunctionalUnits (basis : Basis) (routeInputs : List RouteAssessmentInput) : Except Thrown Unit :=
  match basis.candidateRoutes.head? with
  | none => .error .typeError
  | some reference => validateFunctionalUnits reference.functionalUnit (routeInputs.zip basis.candidateRoutes)

def dominanceOf (results : List RouteAssessmentResult) (shared : List String) (hasSharedEnvironmentalBasis : Bool) :
    Except Thrown (List Dominance) :=
  if hasSharedEnvironmentalBasis then paretoDominance results shared else .ok []

/-- The only element of a list. -/
def onlyOne {α : Type} : List α → Option α
  | [a] => some a
  | _ => none

section Decide

variable (routeInputs : List RouteAssessmentInput) (results : List RouteAssessmentResult)

def passResults : List RouteAssessmentResult := results.filter fun result => result.G = .pass

/-- The inputs of the routes that pass. -/
def passInputs : List RouteAssessmentInput :=
  ((routeInputs.zip results).filter fun pair => pair.2.G = .pass).map Prod.fst

/-- The routes that pass, have ranks, and are first in each. -/
def stableWinners : List (RouteAssessmentInput × RouteAssessmentResult) :=
  (routeInputs.zip results).filter fun pair =>
    pair.2.G = .pass && 0 < (ranksOf pair.1.uncertaintyScenarios).length &&
      (ranksOf pair.1.uncertaintyScenarios).all fun rank => rank = .finite 1

def stableWinner : Option FormalRoute := (onlyOne (stableWinners routeInputs results)).map fun pair => pair.2.routeId

def undominatedPassRoutes (dominance : List Dominance) : List RouteAssessmentResult :=
  (passResults results).filter fun result => result.routeId ∉ dominance.map Dominance.dominated

def uniquelySupportedWinner (hasSharedEnvironmentalBasis : Bool) (dominance : List Dominance) : Option FormalRoute :=
  if hasSharedEnvironmentalBasis = true ∧
      (onlyOne (undominatedPassRoutes results dominance)).map RouteAssessmentResult.routeId =
        stableWinner routeInputs results then
    stableWinner routeInputs results
  else none

def hasUnknown : Bool := results.any fun result => result.G = .unknown

def hasCriticalConflict : Bool :=
  routeInputs.any fun input => input.evidence.any fun item => item.conflicting && item.critical

def allRanksStable : Bool := (passResults results).all fun result => result.U.rankStable

def decisionStateOf (winner : Option FormalRoute) : DecisionState :=
  if hasCriticalConflict routeInputs then .requiresExternalDecision
  else if hasUnknown results || !allRanksStable results || winner.isNone then .abstain
  else .answer

end Decide

def assess {ι : Type} (env : Environment ι) (basisInput : ι) (routeInputs : List RouteAssessmentInput) :
    Except Thrown AssessmentResult := do
  let basis ← env.parseBasis basisInput
  rejectIf (routeInputs.map RouteAssessmentInput.routeId ≠ formalRoutes ∨
    basis.candidateRoutes.map CandidateRoute.routeId ≠ formalRoutes) .routeMismatch
  checkFunctionalUnits basis routeInputs
  let calculationInputsDigest ← env.routeCalculationInputsDigest routeInputs
  rejectIf (basis.calculationInputsDigest ≠ calculationInputsDigest) .calculationInputMismatch
  rejectIf ((routeInputs.map fun input => input.economics.currency).dedup.length ≠ 1) .currencyMismatch
  validateUncertaintyScenarioRankValues (routeInputs.flatMap RouteAssessmentInput.uncertaintyScenarios)
  let results ← routeInputs.mapM (assessRoute env)
  validateEnvironmentalResultUnits results
  validateUncertaintyScenarioComparability (passInputs routeInputs results)
  let shared := environmentalCategoriesSharedBy (passResults results)
  let hasSharedEnvironmentalBasis := decide ((passResults results).length ≤ 1 ∨ 0 < shared.length)
  let dominance ← dominanceOf results shared hasSharedEnvironmentalBasis
  let winner := uniquelySupportedWinner routeInputs results hasSharedEnvironmentalBasis dominance
  let decisionState := decisionStateOf routeInputs results winner
  let unsigned : Unsigned :=
    { assessmentInputId := basis.assessmentInputId
      assessmentInputVersion := basis.assessmentInputVersion
      decisionState := decisionState
      preferredRoute := if decisionState = .answer then winner else none
      dominance := dominance
      routes := results
      warnings :=
        (if hasUnknown results then ["MISSING_OR_INSUFFICIENT_CRITICAL_EVIDENCE"] else []) ++
        (if !allRanksStable results || (stableWinner routeInputs results).isNone then ["ROUTE_RANK_UNSTABLE"]
          else []) ++
        (if (stableWinner routeInputs results).isSome && winner.isNone then ["ROUTE_NOT_UNIQUELY_PARETO_SUPPORTED"]
          else []) ++
        (if !hasSharedEnvironmentalBasis then ["NO_SHARED_ENVIRONMENTAL_CATEGORY"] else []) ++
        (if hasNonSharedEnvironmentalCategories (passResults results) shared then
          ["NON_SHARED_ENVIRONMENTAL_CATEGORIES_EXCLUDED"] else []) ++
        (if hasCriticalConflict routeInputs then ["CRITICAL_EVIDENCE_CONFLICT"] else []) }
  let reproductionHash ← env.reproductionHash basis routeInputs unsigned
  return { unsigned with reproductionHash := reproductionHash }

end Decimals

end Decision
end Evllm
