/-
# The conditions of the evaluation

`src/evaluation/conditions.ts`: a formal case is put to a model under one of
eight conditions, each a choice of six controls. The adapter refuses on its own
where a control says so (`formalPrecondition`), else it projects the supports of
the case, asks the model, and releases what the record and the validation leave
of its candidate. The condition `governed-evllm` has every control.

The tests on words and the release are those of the assistant service; the
commitment of a support with a typed decision is a parameter.

Key definitions: `ConditionControls`, `profiles`, `formalPrecondition`,
`projectSupports`, `willInvokeModel`, `execute`.
Key theorems: `execute_modelInvoked`, `projectSupports_fields`.
-/
import Evllm.Assistant.Citations

namespace Evllm
namespace Evaluation

open Lib Assistant

/-! ### Formal cases -/

structure FormalSupport where
  supportId : String
  resourceId : String
  resourceVersion : ℕ
  status : SupportState
  content : String
  recordedDecision : Option RecordedDecision
  deriving DecidableEq, Repr

/-- An access request, or a grant of access. -/
structure Access where
  organizationId : String
  purposeId : String
  deriving DecidableEq, Repr

structure FormalCase where
  prompt : String
  supports : List FormalSupport
  queryMode : QueryMode
  accessGrants : List Access
  deriving DecidableEq, Repr

/-- The recorded decision of a support, if it is active. -/
def FormalSupport.activeDecision (support : FormalSupport) : Option RecordedDecision :=
  if support.status = .active then support.recordedDecision else none

/-- What `formalCase` demands of the supports: ids and resource versions are
unique, and the mode of the query says how many active decisions there are. -/
def FormalCase.accepted (item : FormalCase) : Bool :=
  let activeDecisions :=
    match item.queryMode with
    | .explainRecordedDecision => 1
    | .explainRecords => 0
  (item.supports.map (·.supportId)).Nodup ∧
    (item.supports.map fun support => (support.resourceId, support.resourceVersion)).Nodup ∧
    (item.supports.filterMap (·.activeDecision)).length = activeDecisions

def isFormalAccessPermitted (item : FormalCase) (request : Access) : Bool := item.accessGrants.any (· = request)

/-! ### Conditions -/

inductive ModelConditionId where
  | ungroundedModel
  | ordinaryRag
  | governedEvllm
  | ablationAccessEnforcement
  | ablationSourceStatusIntegrity
  | ablationConflictPrecondition
  | ablationDeterministicRules
  | ablationOutputValidation
  deriving DecidableEq, Repr

structure ConditionControls where
  grounding : Bool
  accessEnforcement : Bool
  provenanceEnforcement : Bool
  conflictPrecondition : Bool
  deterministicRules : Bool
  outputValidation : Bool
  deriving DecidableEq, Repr

def profiles : ModelConditionId → ConditionControls
  | .ungroundedModel => ⟨false, false, false, false, false, false⟩
  | .ordinaryRag => ⟨true, false, false, false, false, false⟩
  | .governedEvllm => ⟨true, true, true, true, true, true⟩
  | .ablationAccessEnforcement => ⟨true, false, true, true, true, true⟩
  | .ablationSourceStatusIntegrity => ⟨true, true, false, true, true, true⟩
  | .ablationConflictPrecondition => ⟨true, true, true, false, true, true⟩
  | .ablationDeterministicRules => ⟨true, true, true, true, false, true⟩
  | .ablationOutputValidation => ⟨true, true, true, true, true, false⟩

def formalPrecondition (T : TextChecks) (item : FormalCase) (profile : ConditionControls) (request : Access) :
    Option (Outcome × String) :=
  if ¬profile.grounding then
    none
  else if profile.accessEnforcement ∧ ¬isFormalAccessPermitted item request then
    some (.abstain, "access-denied")
  else if profile.provenanceEnforcement ∧ item.supports = [] then
    some (.abstain, "missing-support")
  else if profile.provenanceEnforcement ∧ item.supports.any (T.looksLikeEmbeddedInstruction ·.content) then
    some (.abstain, "prompt-injection")
  else if profile.provenanceEnforcement ∧ item.supports.any (·.status ∉ [.active, .conflicting, .restricted]) then
    some (.abstain, "inactive-support")
  else if profile.conflictPrecondition ∧ item.supports.any (·.status = .conflicting) then
    some (.requiresExternalDecision, "conflicting-support")
  else if profile.deterministicRules ∧ T.isExternalDecisionRequest item.prompt then
    some (.requiresExternalDecision, "external-decision-boundary")
  else
    none

/-- `urn:evllm:<kind>:00000000-0000-4000-8000-` and the number in twelve digits. -/
def urn (kind : String) (value : ℕ) : String :=
  "urn:evllm:" ++ kind ++ ":00000000-0000-4000-8000-" ++ "".pushn '0' (12 - (toString value).length) ++ toString value

/-- `recordedDecisionSupportCommitment`: the digest of a support's resource,
version, issuer, content and decision. -/
abbrev CommitmentOf := String → ℕ → String → String → RecordedDecision → String

/-- One support of a case, as the adapter shows it. -/
def projectSupport (commitmentOf : CommitmentOf) (controls : ConditionControls) (index : ℕ) (support : FormalSupport) :
    Support :=
  let resourceId := if controls.provenanceEnforcement then support.resourceId else urn "evidence" (index + 1)
  let resourceVersion := if controls.provenanceEnforcement then support.resourceVersion else 1
  let issuer := urn "org" (if controls.provenanceEnforcement then 2 else 9)
  let decision := if controls.deterministicRules then support.recordedDecision else none
  { supportId := support.supportId
    resourceId := resourceId
    resourceVersion := resourceVersion
    issuerOrganizationId := issuer
    custodianOrganizationId := issuer
    asOf := if controls.provenanceEnforcement then 200 else 1
    status := if controls.provenanceEnforcement then support.status else .active
    commitment :=
      match decision with
      | some decision => commitmentOf resourceId resourceVersion issuer support.content decision
      | none => if controls.provenanceEnforcement then "sha256:".pushn 'b' 48 else "metadata-withheld"
    chainReference := if controls.provenanceEnforcement then some ("formal:" ++ support.supportId) else none
    recordedDecision := decision
    content := support.content }

def projectSupports (commitmentOf : CommitmentOf) (id : ModelConditionId) (item : FormalCase) : List Support :=
  if (profiles id).grounding then
    (if id = .ablationDeterministicRules then item.supports.filter (·.recordedDecision = none) else item.supports).mapIdx
      (projectSupport commitmentOf (profiles id))
  else
    []

def instructions : ModelConditionId → Option String
  | .ungroundedModel =>
    some "Answer the question using your existing knowledge. Return the required structured response."
  | .ordinaryRag =>
    some ("Answer from the supplied context and cite bracketed support IDs. " ++
      "Return the required structured response.")
  | _ => none

/-! ### Execution -/

/-- `reasonCodes`: what a refusal by the adapter reports. -/
def reasonCodes (summary : String) (outcome : Outcome) : List EvidenceReasonCode :=
  if summary = "missing-support" then [.missingEvidence]
  else if summary = "missing-recorded-decision" then [.missingEvidence]
  else if summary = "conflicting-support" then [.conflictingEvidence, .externalDecisionRequired]
  else if summary = "conflicting-recorded-decision" then [.conflictingEvidence, .externalDecisionRequired]
  else if summary = "inactive-support" then [.inactiveEvidence]
  else if summary = "access-denied" then [.accessDenied]
  else if summary = "prompt-injection" then [.promptInjection]
  else if outcome = .requiresExternalDecision then [.externalDecisionRequired]
  else []

def deterministicResult (outcome : Outcome) (summary : String) (claims : List Claim) : ModelResult where
  candidate := {
    outcome := outcome
    decisionCode := none
    summary := summary
    claims := claims
    evidenceReasonCodes := reasonCodes summary outcome
    warnings := [summary]
    missingRequirements := [] }
  model := "deterministic-condition-engine-v1"
  provider := "evllm"
  responseId := none
  inputTokens := none
  outputTokens := none

structure ConditionExecution where
  conditionId : ModelConditionId
  controls : ConditionControls
  result : ModelResult
  validationCodes : List String
  modelInvoked : Bool
  modelInvocation : Option ModelResult
  validationCandidate : Option Candidate
  presentedSupportIds : List String
  deriving DecidableEq, Repr

/-- The model, and the query's purpose, time and session. -/
structure ConditionContext where
  generate : ModelInput → Option String → Except Failure ModelResult
  purposeId : String
  asOf : ℕ
  session : ActorSession

def ConditionContext.request (context : ConditionContext) : Access := ⟨context.session.organizationId, context.purposeId⟩

section Adapter

variable (T : TextChecks) (commitmentOf : CommitmentOf) (id : ModelConditionId) (item : FormalCase)
  (context : ConditionContext)

def willInvokeModel : Bool :=
  if (formalPrecondition T item (profiles id) context.request).isSome then
    false
  else if item.queryMode ≠ .explainRecordedDecision ∨ ¬(profiles id).deterministicRules then
    true
  else
    resolveActiveRecordedDecision (projectSupports commitmentOf id item) matches .consistent _

/-- `execution` of a result that no model gave. -/
def refused (result : ModelResult) (code : String) (supports : List Support) : ConditionExecution :=
  ⟨id, profiles id, result, [code], false, none, none, supports.map (·.supportId)⟩

/-- `deterministic`. -/
def deterministic (outcome : Outcome) (code : String) : ConditionExecution :=
  let supports := projectSupports commitmentOf id item
  let claims := if code = "external-decision-boundary" then citedActiveClaims supports else []
  refused id (deterministicResult outcome code claims) code supports

def recordedDecisionPrecondition (supports : List Support) : Option ConditionExecution :=
  if item.queryMode ≠ .explainRecordedDecision ∨ ¬(profiles id).deterministicRules then
    none
  else
    match resolveActiveRecordedDecision supports with
    | .consistent _ => none
    | .conflicting => some (refused id (deterministicResult .requiresExternalDecision "conflicting-recorded-decision" [])
        "conflicting-recorded-decision" supports)
    | .absent => some (refused id (deterministicResult .abstain "missing-recorded-decision" [])
        "missing-recorded-decision" supports)

/-- `execution` of what the model gave. -/
def answered (result : ModelResult) (validationCodes : List String) (supports : List Support) (generated : ModelResult)
    (validationCandidate : Candidate) : ConditionExecution :=
  ⟨id, profiles id, result, validationCodes, true, some generated, some validationCandidate,
    supports.map (·.supportId)⟩

/-- The release of a candidate, where the rules are deterministic. -/
def releaseOf (generated : ModelResult) (supports : List Support) : Except Failure (Option Release) :=
  if (profiles id).deterministicRules then do
    return some (← releaseAssistantCandidateWithRecordedDecision T generated.candidate supports item.prompt
      (profiles id).outputValidation)
  else
    .ok none

/-- `release?.validation_codes ?? validateAssistantCandidate(…)`. -/
def validationOf (release : Option Release) (candidate : Candidate) (supports : List Support) :
    Except Failure (List String) :=
  match release with
  | some release => .ok release.validationCodes
  | none => validateAssistantCandidate T candidate supports item.prompt

/-- The part of `execute` that asks the model. -/
def askModel (supports : List Support) : Except Failure ConditionExecution := do
  let generated ← context.generate ⟨item.prompt, context.purposeId, context.asOf, context.session, supports⟩
    (instructions id)
  let release ← releaseOf T id item generated supports
  let processed := { generated with candidate := (release.map Release.candidate).getD generated.candidate }
  let validationCandidate := (release.map Release.validationCandidate).getD processed.candidate
  if (profiles id).outputValidation then
    let validationCodes ← validationOf T item release validationCandidate supports
    if validationCodes = [] then
      return answered id processed [] supports generated validationCandidate
    else
      return answered id (deterministicResult .abstain "Generated response failed support validation." [])
        validationCodes supports generated validationCandidate
  else
    return answered id processed [] supports generated validationCandidate

def execute : Except Failure ConditionExecution :=
  match formalPrecondition T item (profiles id) context.request with
  | some (outcome, code) => .ok (deterministic commitmentOf id item outcome code)
  | none =>
    let supports := projectSupports commitmentOf id item
    match recordedDecisionPrecondition id item supports with
    | some execution => .ok execution
    | none => askModel T id item context supports

/-! ### What the adapter asks -/

variable {T commitmentOf id item context}

theorem askModel_invoked {supports : List Support} {x : ConditionExecution}
    (h : askModel T id item context supports = .ok x) : x.modelInvoked = true := by
  simp only [askModel, bind_eq_ok] at h
  obtain ⟨generated, -, release, -, h⟩ := h
  split_ifs at h
  · obtain ⟨codes, -, h⟩ := bind_eq_ok.mp h
    split_ifs at h
    · obtain rfl := pure_eq_ok.mp h
      rfl
    · obtain rfl := pure_eq_ok.mp h
      rfl
  · obtain rfl := pure_eq_ok.mp h
    rfl

/-- An execution asks the model just if `willInvokeModel` says so. -/
theorem execute_modelInvoked {x : ConditionExecution} (h : execute T commitmentOf id item context = .ok x) :
    x.modelInvoked = willInvokeModel T commitmentOf id item context := by
  unfold execute at h
  unfold willInvokeModel
  cases hprecondition : formalPrecondition T item (profiles id) context.request with
  | some defect =>
    simp only [hprecondition] at h
    obtain rfl := Except.ok.inj h
    rfl
  | none =>
    simp only [hprecondition, recordedDecisionPrecondition] at h
    rw [if_neg (by simp)]
    by_cases hmode : item.queryMode ≠ .explainRecordedDecision ∨ ¬(profiles id).deterministicRules
    · rw [if_pos hmode] at h ⊢
      exact askModel_invoked h
    · rw [if_neg hmode] at h ⊢
      cases hres : resolveActiveRecordedDecision (projectSupports commitmentOf id item) with
      | consistent d =>
        simp only [hres] at h
        exact askModel_invoked h
      | absent =>
        simp only [hres] at h
        obtain rfl := Except.ok.inj h
        rfl
      | conflicting =>
        simp only [hres] at h
        obtain rfl := Except.ok.inj h
        rfl

end Adapter

/-! ### The supports of a case, projected with every control -/

/-- What the controls look at in a support. -/
structure View where
  status : SupportState
  content : String
  recordedDecision : Option RecordedDecision

def View.activeDecision (view : View) : Option RecordedDecision :=
  if view.status = .active then view.recordedDecision else none

def FormalSupport.view (support : FormalSupport) : View := ⟨support.status, support.content, support.recordedDecision⟩

def viewOf (support : Support) : View := ⟨support.status, support.content, support.recordedDecision⟩

variable {commitmentOf : CommitmentOf} {item : FormalCase}

/-- The governed condition shows each support as it is. -/
theorem views_projected :
    (projectSupports commitmentOf .governedEvllm item).map viewOf = item.supports.map FormalSupport.view := by
  refine List.ext_getElem (by simp [projectSupports, profiles]) fun i _ _ => ?_
  simp [projectSupports, profiles, projectSupport, viewOf, FormalSupport.view]

theorem forall_projected (q : View → Prop) :
    (∀ support ∈ projectSupports commitmentOf .governedEvllm item, q (viewOf support)) ↔
      ∀ support ∈ item.supports, q support.view := by
  rw [← List.forall_mem_map, views_projected, List.forall_mem_map]

theorem exists_projected (q : View → Prop) :
    (∃ support ∈ projectSupports commitmentOf .governedEvllm item, q (viewOf support)) ↔
      ∃ support ∈ item.supports, q support.view := by
  have hviews := congrArg (fun views => ∃ view ∈ views, q view) (@views_projected commitmentOf item)
  simpa using hviews

theorem projected_eq_nil : projectSupports commitmentOf .governedEvllm item = [] ↔ item.supports = [] := by
  rw [← List.map_eq_nil_iff (f := viewOf), views_projected, List.map_eq_nil_iff]

theorem activeDecisions_projected :
    (projectSupports commitmentOf .governedEvllm item).filterMap Support.activeDecision =
      item.supports.filterMap FormalSupport.activeDecision := by
  have hdecisions := congrArg (List.filterMap View.activeDecision) (@views_projected commitmentOf item)
  rw [List.filterMap_map, List.filterMap_map] at hdecisions
  exact hdecisions

end Evaluation
end Evllm
