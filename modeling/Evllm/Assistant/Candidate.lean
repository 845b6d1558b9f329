/-
# What is released of a model's candidate

A model answers a question with a candidate: an outcome, a decision code, a
summary, cited claims and reason codes. Where the supports carry a typed
recorded decision, `materializeAssistantCandidateWithRecordedDecision` takes
outcome, code, summary, first claim and reason codes from the record and keeps
of the candidate only explanations, `validateAssistantCandidate` checks the
whole, and `releaseAssistantCandidateWithRecordedDecision` falls back on the
record alone if the check fails.

What the prose means is decided by pattern matching on its words; those tests
are the fields of `TextChecks`, and nothing is assumed of them.

Key definitions: `Candidate`, `Support`, `TextChecks`,
`resolveActiveRecordedDecision`, `validateAssistantCandidate`,
`releaseAssistantCandidateWithRecordedDecision`.
-/
import Evllm.Lib.Except
import Evllm.Lib.JsString
import Mathlib.Data.List.Infix
import Mathlib.Data.List.ReduceOption

namespace Evllm
namespace Assistant

open Lib

/-! ### Records -/

inductive QueryMode where
  | explainRecords
  | explainRecordedDecision
  deriving DecidableEq, Repr

inductive SupportState where
  | active
  | missing
  | restricted
  | stale
  | revoked
  | superseded
  | conflicting
  deriving DecidableEq, Repr

inductive EvidenceReasonCode where
  | missingEvidence
  | conflictingEvidence
  | inactiveEvidence
  | accessDenied
  | promptInjection
  | externalDecisionRequired
  deriving DecidableEq, Repr

def EvidenceReasonCode.text : EvidenceReasonCode → String
  | .missingEvidence => "missing-evidence"
  | .conflictingEvidence => "conflicting-evidence"
  | .inactiveEvidence => "inactive-evidence"
  | .accessDenied => "access-denied"
  | .promptInjection => "prompt-injection"
  | .externalDecisionRequired => "external-decision-required"

/-- `[...codes].sort()`. -/
def sortReasonCodes (codes : List EvidenceReasonCode) : List EvidenceReasonCode :=
  codes.insertionSort fun a b => ¬utf16 b.text < utf16 a.text

inductive Outcome where
  | answer
  | abstain
  | requiresExternalDecision
  deriving DecidableEq, Repr

structure RecordedDecision where
  outcome : Outcome
  code : String
  reasonCodes : List EvidenceReasonCode
  deriving DecidableEq, Repr

/-- A support without its content, as a response cites it. -/
structure Citation where
  supportId : String
  resourceId : String
  resourceVersion : ℕ
  issuerOrganizationId : String
  custodianOrganizationId : String
  asOf : ℕ
  status : SupportState
  commitment : String
  chainReference : Option String
  recordedDecision : Option RecordedDecision
  deriving DecidableEq, Repr

structure Support extends Citation where
  content : String
  deriving DecidableEq, Repr

structure Claim where
  claimId : String
  text : String
  citationIds : List String
  deriving DecidableEq, Repr

structure Candidate where
  outcome : Outcome
  decisionCode : Option String
  summary : String
  claims : List Claim
  evidenceReasonCodes : List EvidenceReasonCode
  warnings : List String
  missingRequirements : List String
  deriving DecidableEq, Repr

/-- The errors the assistant distinguishes by class, and all others. -/
inductive Failure where
  | toolAuthorization (message : String)
  | protectedRetrieval (message : String)
  | supportValidation (message : String)
  | idempotency (message : String)
  | other (message : String)
  deriving DecidableEq, Repr

/-- The tests on words: the functions of `semantic-support.ts` and the regular
expressions of `service.ts`. -/
structure TextChecks where
  looksLikeEmbeddedInstruction : String → Bool
  /-- `hasJointSemanticSupport(statement, supports, requireEachSupportContribution)`, on the contents. -/
  hasJointSemanticSupport : String → List String → Bool → Bool
  isNonFactualBoilerplate : String → Bool
  semanticDisclosureMatch : String → String → Bool
  containsExactDecisionCode : String → String → Bool
  /-- `/\b(?:recorded\s+)?decision\s+code\b/iu`. -/
  mentionsDecisionCode : String → Bool
  containsUnboundOperativeDecision : String → Bool
  contradictsRecordedDecision : String → String → Bool
  containsAlternateDecisionCode : String → String → Bool
  contradictsRecordedDecisionSemantics : String → RecordedDecision → Bool
  containsSecretLikeOutput : Candidate → Bool
  /-- `/no overall sustainability score/iu`. -/
  deniesOverallScore : String → Bool
  /-- The three tests of `claimsUnsupportedCompositeScore` on the candidate. -/
  statesCompositeScore : Candidate → Bool
  /-- The code named by "recorded deterministic outcome code is '…'" or "exact decision code is '…'". -/
  statedOutcomeCode : String → Option String
  /-- "missing" or "no current", then "evidence", "record", "report" or "inspection". -/
  mentionsMissingEvidence : String → Bool
  /-- "conflict", "conflicting", "disagree" or "incompatible". -/
  mentionsConflict : String → Bool
  /-- `/(?:route|assessment|workflow|lifecycle)/iu`. -/
  asksForOutcome : String → Bool
  /-- The summary states the outcome code, literally or in natural words. -/
  statesOutcome : String → String → Bool
  looksLikeAuthorityEscalation : String → Bool
  isExternalDecisionRequest : String → Bool
  /-- `JSON.stringify`. -/
  stringify : Candidate → String
  /-- `left.localeCompare(right)`. -/
  localeCompare : String → String → ℤ

/-! ### The recorded decision -/

/-- `[...new Set(codes)].sort()` on the reason codes. -/
def normalizeRecordedDecision (decision : RecordedDecision) : RecordedDecision where
  outcome := decision.outcome
  code := decision.code
  reasonCodes := sortReasonCodes decision.reasonCodes.eraseDups

/-- `JSON.stringify(normalizeRecordedDecision(decision))`, of which only
equality is used: the text of such a record determines it. -/
def recordedDecisionKey (decision : RecordedDecision) : RecordedDecision := normalizeRecordedDecision decision

inductive Resolution where
  | absent
  | consistent (decision : RecordedDecision)
  | conflicting
  deriving DecidableEq, Repr

/-- The recorded decision of a support, if it is active. -/
def Support.activeDecision (support : Support) : Option RecordedDecision :=
  if support.status = .active then support.recordedDecision else none

def resolveActiveRecordedDecision (supports : List Support) : Resolution :=
  match (supports.filterMap Support.activeDecision).map normalizeRecordedDecision with
  | [] => .absent
  | first :: rest =>
    if (first :: rest).any fun decision => recordedDecisionKey decision ≠ recordedDecisionKey first then
      .conflicting
    else
      .consistent first

/-- The active supports that record `decision`. -/
def decisionSupports (supports : List Support) (decision : RecordedDecision) : List Support :=
  supports.filter fun support =>
    support.activeDecision.any fun recorded => recordedDecisionKey recorded = recordedDecisionKey decision

/-! ### The statement of a decision -/

inductive DecisionRelation where
  | preferred
  | eligible
  | permitted
  | applicable
  deriving DecidableEq, Repr

def withoutSuffix (s suffix : String) : Option String :=
  if suffix.toList <:+ s.toList then
    some (String.ofList (s.toList.take (s.toList.length - suffix.toList.length)))
  else
    none

/-- The text before the first of the suffixes that ends `s`. -/
def firstSuffix (s : String) (suffixes : List String) : Option String := suffixes.findSome? (withoutSuffix s)

def withoutPrefix (s start : String) : Option String :=
  if start.toList <+: s.toList then some (String.ofList (s.toList.drop start.toList.length)) else none

/-- `target.length === 0 ? null : { relation, target }`. -/
def expectation (relation : DecisionRelation) (target : String) : Option (DecisionRelation × String) :=
  if target = "" then none else some (relation, target)

/-- Decision codes are lower case ASCII, digits and hyphens, where `toLower` is
`toLowerCase`. -/
def answerDecisionExpectation (decisionCode : String) : Option (DecisionRelation × String) :=
  let normalized := decisionCode.toLower
  match firstSuffix normalized ["-preferred", "-recommended", "-selected"] with
  | some target => expectation .preferred target
  | none =>
    match withoutPrefix normalized "eligible-for-" with
    | some target => expectation .eligible target
    | none =>
      match firstSuffix normalized ["-permitted", "-allowed", "-authorized"] with
      | some target => expectation .permitted target
      | none => (withoutSuffix normalized "-applicable").bind (expectation .applicable)

def humanizeDecisionTarget (target : String) : String :=
  let named :=
    if target = "continued-compatible-ev-use" then "continued compatible EV use"
    else if target = "battery-passport-requirement" then "the battery passport requirement"
    else target
  String.ofList (named.toList.map fun c => if c = '-' then ' ' else c)

def capitalizeSentence (value : String) : String :=
  match value.toList with
  | [] => ""
  | c :: cs => String.ofList (c.toUpper :: cs)

def conclusion (relation : DecisionRelation) (target : String) : String :=
  match relation with
  | .preferred => capitalizeSentence target ++ " is the recorded preferred route."
  | .eligible => "The battery is recorded as eligible for " ++ target ++ "."
  | .applicable => capitalizeSentence target ++ " is recorded as applicable."
  | .permitted => capitalizeSentence target ++ " is recorded as permitted."

def recordedDecisionStatement (decision : RecordedDecision) : Except Failure String :=
  let codeSentence := " The recorded decision code is " ++ decision.code ++ "."
  match decision.outcome with
  | .abstain =>
    .ok ("The recorded decision withholds an answer because required evidence is insufficient." ++ codeSentence)
  | .requiresExternalDecision =>
    .ok ("The recorded decision requires review by a responsible organization." ++ codeSentence)
  | .answer =>
    match answerDecisionExpectation decision.code with
    | none => .error (.other ("Unsupported answer decision code: " ++ decision.code))
    | some (relation, target) => .ok (conclusion relation (humanizeDecisionTarget target) ++ codeSentence)

/-! ### Validation -/

variable (T : TextChecks)

/-- The last support with the id, as in a `Map` made of the list, if it is active. -/
def citedSupport (supports : List Support) (citationId : String) : Option Support :=
  (supports.reverse.find? fun support => support.supportId = citationId).filter fun support =>
    support.status = .active

/-- What a cited support says: its content, and the decision it records. -/
def citedContent (support : Support) : Except Failure String :=
  match support.recordedDecision with
  | none => .ok support.content
  | some decision => do return support.content ++ "\n" ++ (← recordedDecisionStatement decision)

def supportCodes (claim : Claim) (citedSupports : List Support) : Except Failure (List String) := do
  let contents ← citedSupports.mapM citedContent
  return if T.hasJointSemanticSupport claim.text contents true then [] else ["unsupported-claim"]

def validateAssistantClaim (claim : Claim) (supports : List Support) : Except Failure (List String) :=
  let citationIds := claim.citationIds.eraseDups
  let citations := citationIds.map (citedSupport supports)
  let citedSupports := citations.reduceOption
  let invalid := (citations.filter Option.isNone).map fun _ => "invalid-citation"
  if citationIds = [] then
    .ok ["uncited-claim"]
  else if citedSupports.length = citationIds.length then do
    return sortStrings (invalid ++ (← supportCodes T claim citedSupports)).eraseDups
  else
    .ok (sortStrings invalid.eraseDups)

def sameReasonCodes (left right : List EvidenceReasonCode) : Bool :=
  left.length = right.length ∧ sortReasonCodes left = sortReasonCodes right

def expectedDeterministicOutcome (supports : List Support) : Option String :=
  match resolveActiveRecordedDecision supports with
  | .consistent decision => some decision.code
  | _ => supports.findSome? fun support => T.statedOutcomeCode support.content

/-- `expected` of `reasonCodesAreCoherent`. -/
def expectedReasonCodes (candidate : Candidate) (supports : List Support) : List EvidenceReasonCode :=
  let recordedOutcome := expectedDeterministicOutcome T supports
  (if supports = [] ∨ supports.any (·.status = .missing) then [.missingEvidence] else []) ++
  (if supports.any (·.status = .conflicting) then [.conflictingEvidence] else []) ++
  (if supports.any (·.status ∈ [.restricted, .stale, .revoked, .superseded]) then [.inactiveEvidence] else []) ++
  (if supports.any (T.looksLikeEmbeddedInstruction ·.content) then [.promptInjection] else []) ++
  (if recordedOutcome = some "insufficient-evidence" ∨ supports.any (T.mentionsMissingEvidence ·.content) then
    [.missingEvidence] else []) ++
  (if recordedOutcome = some "external-decision-required" ∨ supports.any (T.mentionsConflict ·.content) then
    [.conflictingEvidence] else []) ++
  (if candidate.outcome = .requiresExternalDecision then [.externalDecisionRequired] else [])

def reasonCodesAreCoherent (candidate : Candidate) (supports : List Support) : Bool :=
  let reported := candidate.evidenceReasonCodes
  let typed :=
    match resolveActiveRecordedDecision supports with
    | .conflicting => false
    | .consistent decision => sameReasonCodes reported decision.reasonCodes
    | .absent => true
  typed && !(candidate.outcome = .answer && reported ≠ []) &&
    reported.all (· ∈ expectedReasonCodes T candidate supports) &&
    !(candidate.outcome = .requiresExternalDecision && .externalDecisionRequired ∉ reported &&
      .conflictingEvidence ∉ reported)

def containsProhibitedSupportDisclosure (candidate : Candidate) (supports : List Support) : Bool :=
  supports.any fun support =>
    support.status ≠ .active ∧ T.semanticDisclosureMatch support.content (T.stringify candidate)

def claimsUnsupportedCompositeScore (candidate : Candidate) (supports : List Support) : Bool :=
  supports.any (T.deniesOverallScore ·.content) ∧ T.statesCompositeScore candidate

/-- `codes.push(code)` if `c` holds. -/
def pushIf (c : Prop) [Decidable c] (code : String) : List String := if c then [code] else []

/-- What a candidate's decision fields may say, given the recorded decision. -/
def decisionFieldCodes (candidate : Candidate) : Resolution → List String
  | .conflicting => ["conflicting-recorded-decision"]
  | .absent => pushIf (candidate.decisionCode ≠ none) "unexpected-decision-code"
  | .consistent decision =>
    pushIf (candidate.outcome ≠ decision.outcome ∨ candidate.decisionCode ≠ some decision.code ∨
      ¬sameReasonCodes candidate.evidenceReasonCodes decision.reasonCodes) "recorded-decision-mismatch"

def userVisibleTexts (candidate : Candidate) : List String :=
  candidate.summary :: candidate.claims.map Claim.text ++ candidate.warnings ++ candidate.missingRequirements

/-- What the candidate's prose may say about the decision. `claimCodes` pairs
each claim with the codes of its own validation. -/
def decisionTextCodes (candidate : Candidate) (supports : List Support) (claimCodes : List (Claim × List String)) :
    Resolution → List String
  | .conflicting => []
  | .absent => pushIf ((userVisibleTexts candidate).any T.containsUnboundOperativeDecision) "unbound-decision-assertion"
  | .consistent decision =>
    let valid := (claimCodes.filter (·.2 = [])).map Prod.fst
    let supportIds := (decisionSupports supports decision).map (·.supportId)
    pushIf ((userVisibleTexts candidate).any (T.contradictsRecordedDecision · decision.code))
      "recorded-decision-contradiction" ++
    pushIf (¬T.containsExactDecisionCode candidate.summary decision.code)
      "recorded-decision-summary-code-missing" ++
    pushIf (¬valid.any fun claim => T.containsExactDecisionCode claim.text decision.code ∧
        ¬T.contradictsRecordedDecision claim.text decision.code ∧ claim.citationIds.any (· ∈ supportIds))
      "recorded-decision-cited-claim-missing" ++
    pushIf ((userVisibleTexts candidate).any (T.containsAlternateDecisionCode · decision.code))
      "recorded-decision-user-visible-code-mismatch" ++
    pushIf ((candidate.summary :: valid.map Claim.text ++ candidate.warnings ++ candidate.missingRequirements).any
        (T.contradictsRecordedDecisionSemantics · decision))
      "recorded-decision-semantic-contradiction"

/-- The fixed statement of a consistent decision. -/
def resolutionStatement : Resolution → Except Failure (List String)
  | .consistent decision => do return [← recordedDecisionStatement decision]
  | _ => .ok []

def visibleTextCodes (candidate : Candidate) (visibleSupports : List String) : List String :=
  (candidate.summary :: candidate.warnings ++ candidate.missingRequirements).flatMap fun text =>
    pushIf (¬isBlank text ∧ ¬T.isNonFactualBoilerplate text ∧ ¬T.hasJointSemanticSupport text visibleSupports false)
      "unsupported-user-visible-text"

/-- The checks of the whole candidate that need no other result. -/
def candidateCodes (candidate : Candidate) (supports : List Support) (question : String) : List String :=
  pushIf (¬reasonCodesAreCoherent T candidate supports) "incoherent-reason-code" ++
  pushIf (T.containsSecretLikeOutput candidate) "prohibited-disclosure" ++
  pushIf (containsProhibitedSupportDisclosure T candidate supports) "prohibited-disclosure" ++
  pushIf (claimsUnsupportedCompositeScore T candidate supports) "composite-score-claim" ++
  pushIf ((expectedDeterministicOutcome T supports).any fun outcome =>
      T.asksForOutcome question ∧ ¬T.statesOutcome candidate.summary outcome)
    "deterministic-outcome-mismatch"

def validateAssistantCandidate (candidate : Candidate) (supports : List Support) (question : String) :
    Except Failure (List String) := do
  let claimCodes ← candidate.claims.mapM fun claim => do return (claim, ← validateAssistantClaim T claim supports)
  let resolution := resolveActiveRecordedDecision supports
  let statement ← resolutionStatement resolution
  let activeContents := (supports.filter (·.status = .active)).map Support.content
  let validatedTexts := (claimCodes.filter (·.2 = [])).map (·.1.text)
  return sortStrings (pushIf (candidate.outcome = .answer ∧ candidate.claims = []) "empty-answer" ++
    claimCodes.flatMap Prod.snd ++ decisionFieldCodes candidate resolution ++
    decisionTextCodes T candidate supports claimCodes resolution ++
    visibleTextCodes T candidate (activeContents ++ validatedTexts ++ statement) ++
    candidateCodes T candidate supports question).eraseDups

/-! ### Release -/

def isModelAuthoredExplanation (text decisionCode : String) : Bool :=
  ¬T.containsExactDecisionCode text decisionCode ∧ ¬T.mentionsDecisionCode text ∧
    ¬T.containsUnboundOperativeDecision text

/-- `!options.screenExplanation || validateAssistantClaim(claim, supports).length === 0`. -/
def retainClaim (screenExplanation : Bool) (supports : List Support) (claim : Claim) : Except Failure Bool :=
  if screenExplanation then do
    return (← validateAssistantClaim T claim supports) = []
  else
    .ok true

def retainVisibleExplanation (screenExplanation : Bool) (decisionCode : String) (explanatorySupports : List String)
    (text : String) : Bool :=
  isModelAuthoredExplanation T text decisionCode ∧
    (¬screenExplanation ∨ T.isNonFactualBoilerplate text ∨ T.hasJointSemanticSupport text explanatorySupports false)

/-- The candidate of a consistent decision: the record's own fields, and what
is kept of the explanations of `candidate`. -/
def materializeDecision (candidate : Candidate) (supports : List Support) (decision : RecordedDecision)
    (screenExplanation : Bool) : Except Failure Candidate := do
  let supportIds := ((decisionSupports supports decision).insertionSort fun left right =>
    T.localeCompare left.supportId right.supportId ≤ 0).map (·.supportId)
  let fixedDecisionText ← recordedDecisionStatement decision
  let explanations ← (candidate.claims.filter (isModelAuthoredExplanation T ·.text decision.code)).filterM
    (retainClaim T screenExplanation supports)
  let explanatoryClaims := explanations.mapIdx fun index claim =>
    { claim with claimId := "claim-" ++ toString (index + 2) }
  let explanatorySupports := (supports.filter (·.status = .active)).map Support.content ++ [fixedDecisionText]
  let retain := retainVisibleExplanation T screenExplanation decision.code explanatorySupports
  return {
    outcome := decision.outcome
    decisionCode := some decision.code
    summary := fixedDecisionText
    claims := ⟨"claim-1", fixedDecisionText, supportIds⟩ :: explanatoryClaims
    evidenceReasonCodes := decision.reasonCodes
    warnings := candidate.warnings.filter retain
    missingRequirements := candidate.missingRequirements.filter retain }

def materializeAssistantCandidateWithRecordedDecision (candidate : Candidate) (supports : List Support)
    (screenExplanation : Bool) : Except Failure (Candidate × Resolution) :=
  match resolveActiveRecordedDecision supports with
  | .consistent decision => do
    return (← materializeDecision T candidate supports decision screenExplanation, .consistent decision)
  | resolution => .ok (candidate, resolution)

structure Release where
  candidate : Candidate
  validationCandidate : Candidate
  validationCodes : List String
  resolution : Resolution
  explanationWithheld : Bool
  deriving DecidableEq, Repr

def emptyExplanationCandidate : Candidate where
  outcome := .abstain
  decisionCode := none
  summary := ""
  claims := []
  evidenceReasonCodes := [.missingEvidence]
  warnings := []
  missingRequirements := []

/-- The release of the record alone, once the explanations failed validation. -/
def releaseFixedOnly (supports : List Support) (question : String) (resolution : Resolution) :
    Except Failure Release := do
  let (fixedOnly, _) ← materializeAssistantCandidateWithRecordedDecision T emptyExplanationCandidate supports true
  let codes ← validateAssistantCandidate T fixedOnly supports question
  throwIf (codes ≠ [])
    (Failure.other ("Deterministic recorded-decision rendering failed validation: " ++ ",".intercalate codes))
  return ⟨fixedOnly, fixedOnly, [], resolution, true⟩

/-- The release of a materialised candidate once its validation is known. -/
def releaseValidated (supports : List Support) (question : String) (candidate : Candidate) (resolution : Resolution)
    (codes : List String) : Except Failure Release :=
  match codes, resolution with
  | _ :: _, .consistent decision => releaseFixedOnly T supports question (.consistent decision)
  | codes, resolution => .ok ⟨candidate, candidate, codes, resolution, false⟩

def releaseAssistantCandidateWithRecordedDecision (candidate : Candidate) (supports : List Support)
    (question : String) (screenExplanation : Bool) : Except Failure Release := do
  let (materialized, resolution) ←
    materializeAssistantCandidateWithRecordedDecision T candidate supports screenExplanation
  if screenExplanation then
    let codes ← validateAssistantCandidate T materialized supports question
    releaseValidated T supports question materialized resolution codes
  else
    return ⟨materialized, materialized, [], resolution, false⟩

end Assistant
end Evllm
