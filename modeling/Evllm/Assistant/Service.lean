/-
# The governed assistant service

`answerOnce` runs the tools of a query, refuses on its own where a control
says so, else asks the model and releases what the record and the validation
leave of its candidate; it then writes the audit ledger and the request store.
`answer` keeps, under an idempotency key, the promise of the first execution
and hands it to every later call with the same fingerprint.

A service is a state machine. The events of a run are a call of `answer` up to
its await, the end of an execution (with what the tools, the model, the clock
and the generator of ids gave it), and the return of a call whose promise is
settled. Before its end an execution touches nothing that another reads.

Key definitions: `Environment`, `answerOnce`, `Service`, `step`.
-/
import Evllm.Assistant.Candidate
import Evllm.Lib.JsMap
import Evllm.Lib.Run
import Mathlib

namespace Evllm
namespace Assistant

open Lib

/-! ### Requests and responses -/

inductive ToolName where
  | facts
  | history
  | rules
  | assessment
  | audit
  | protectedSearch
  deriving DecidableEq, Repr

def ToolName.text : ToolName → String
  | .facts => "facts"
  | .history => "history"
  | .rules => "rules"
  | .assessment => "assessment"
  | .audit => "audit"
  | .protectedSearch => "protected-search"

inductive Argument where
  | text (value : String)
  | number (value : ℚ)
  | flag (value : Bool)
  deriving DecidableEq, Repr

structure ToolRequest where
  tool : ToolName
  arguments : List (String × Argument)
  deriving DecidableEq, Repr

/-- A query as `assistantQuery` parses it. -/
structure Query where
  question : String
  mode : QueryMode
  purposeId : String
  asOf : ℕ
  idempotencyKey : Option String
  requests : List ToolRequest
  deriving DecidableEq, Repr

structure ActorSession where
  sessionId : String
  actorId : String
  organizationId : String
  credentialId : String
  address : String
  issuedAt : ℕ
  expiresAt : ℕ
  deriving DecidableEq, Repr

structure ModelInput where
  question : String
  purposeId : String
  asOf : ℕ
  session : ActorSession
  supports : List Support
  deriving DecidableEq, Repr

structure ModelResult where
  candidate : Candidate
  model : String
  provider : String
  responseId : Option String
  inputTokens : Option ℕ
  outputTokens : Option ℕ
  deriving DecidableEq, Repr

inductive EvidenceState where
  | active
  | defective
  | notEvaluated
  deriving DecidableEq, Repr

structure Response where
  requestId : String
  correlationId : String
  outcome : Outcome
  decisionCode : Option String
  summary : String
  claims : List Claim
  citations : List Citation
  asOf : ℕ
  evidenceState : EvidenceState
  warnings : List String
  missingRequirements : List String
  evidenceReasonCodes : List EvidenceReasonCode
  validationCodes : List String
  provider : String
  model : String
  responseId : Option String
  inputTokens : Option ℕ
  outputTokens : Option ℕ
  auditEventId : String
  deriving DecidableEq, Repr

inductive DecisionSource where
  | typedRecord
  | deterministicControl
  | modelCandidate
  | validationFallback
  deriving DecidableEq, Repr

def DecisionSource.text : DecisionSource → String
  | .typedRecord => "typed-record"
  | .deterministicControl => "deterministic-control"
  | .modelCandidate => "model-candidate"
  | .validationFallback => "validation-fallback"

def QueryMode.text : QueryMode → String
  | .explainRecords => "explain_records"
  | .explainRecordedDecision => "explain_recorded_decision"

def Outcome.text : Outcome → String
  | .answer => "answer"
  | .abstain => "abstain"
  | .requiresExternalDecision => "requires_external_decision"

/-! ### The audit ledger and the request store -/

structure DecisionReference where
  supportId : String
  resourceId : String
  resourceVersion : ℕ
  commitment : String
  recordedDecision : RecordedDecision
  deriving DecidableEq, Repr

/-- An audit event before its hash. -/
structure UnsignedEvent where
  eventId : String
  sequence : ℕ
  requestId : String
  correlationId : String
  actorId : String
  organizationId : String
  sessionId : String
  purposeId : String
  queryMode : QueryMode
  questionDigest : String
  toolNames : List ToolName
  supportIds : List String
  outcome : Outcome
  decisionCode : Option String
  decisionSource : DecisionSource
  recordedDecisionSupportIds : List String
  recordedDecisionSupportReferences : List DecisionReference
  model : String
  provider : String
  validationCodes : List String
  recordedAt : ℕ
  previousEventHash : Option String
  deriving DecidableEq, Repr

structure AuditEvent extends UnsignedEvent where
  eventHash : String
  deriving DecidableEq, Repr

/-- The record that `AssistantRequestStore.put` parses and keeps. -/
structure RequestRecord where
  requestId : String
  requestingActorId : String
  requestingOrganizationId : String
  minimizedQuestionMetadata : List String
  minimizedResultMetadata : List String
  completed : Bool
  auditEventId : String
  createdAt : ℕ
  deriving DecidableEq, Repr

/-- The input of the fingerprint under which an answer is kept. -/
structure FingerprintInput where
  query : Query
  actorId : String
  organizationId : String
  credentialId : String
  deriving DecidableEq, Repr

/-- What a service is built with, and the functions outside of it. `ι` is the
type of what a tool returns before it is parsed. -/
structure Config (ι : Type) where
  text : TextChecks
  /-- The names in the tool registry. -/
  tools : List ToolName
  /-- `assistantSupport.safeParse`. -/
  parseSupport : ι → Option Support
  maxContextCharacters : ℕ
  /-- The SHA-256 digest of a text. -/
  hash : String → String
  /-- The digest of the canonical JSON of an audit event. -/
  hashEvent : UnsignedEvent → Except Failure String
  /-- The digest of the canonical JSON of a query with its actor. -/
  fingerprint : FingerprintInput → Except Failure String
  /-- `assistantRequest.parse` accepts the record. -/
  acceptsRequest : RequestRecord → Bool

/-- What one execution gets from outside: the answer of `authorize` and the
result of the tool for its `i`-th request, the model, ids and times. -/
structure Environment (ι : Type) where
  authorize : ℕ → Except Failure Bool
  execute : ℕ → Except Failure (List ι)
  generate : ModelInput → Except Failure ModelResult
  requestId : String
  eventId : String
  recordedAt : ℕ
  createdAt : ℕ

variable {ι : Type} (C : Config ι) (E : Environment ι)

/-! ### The tools -/

/-- The inner loop of `AssistantToolRegistry.execute`: one raw support. The
ids and the resource versions seen are those of the supports collected. -/
def collectSupport (supports : List Support) (raw : ι) : Except Failure (List Support) :=
  match C.parseSupport raw with
  | none => .error (.supportValidation "Assistant tool returned invalid support")
  | some support =>
    if supports.any fun other => other.supportId = support.supportId ∨
        (other.resourceId = support.resourceId ∧ other.resourceVersion = support.resourceVersion) then
      .error (.supportValidation "Assistant tools returned an ambiguous support identity")
    else
      .ok (supports ++ [support])

/-- The outer loop: one request. -/
def runRequest (supports : List Support) (request : ToolRequest × ℕ) : Except Failure (List Support) := do
  throwIf (request.1.tool ∉ C.tools) (Failure.toolAuthorization "Tool is not registered")
  let allowed ← E.authorize request.2
  throwIf (¬allowed) (Failure.toolAuthorization "Tool access denied")
  (← E.execute request.2).foldlM (collectSupport C) supports

def executeTools (query : Query) : Except Failure (List Support) :=
  query.requests.zipIdx.foldlM (runRequest C E) []

/-! ### Controls that need no model -/

def supportsForQueryMode (supports : List Support) : QueryMode → List Support
  | .explainRecordedDecision => supports
  | .explainRecords => supports.filter (·.recordedDecision = none)

/-- The word, in any case, occurs in the summary. -/
def mentions (summary word : String) : Bool := word.toList <:+: summary.toLower.toList

def reasonCodesForOutcome (outcome : Outcome) (summary : String) : List EvidenceReasonCode :=
  if mentions summary "conflict" then [.conflictingEvidence]
  else if mentions summary "missing" ∨ mentions summary "no authorized support" then [.missingEvidence]
  else if ["inactive", "restricted", "stale", "revoked", "superseded"].any (mentions summary) then [.inactiveEvidence]
  else if mentions summary "injection" then [.promptInjection]
  else if outcome = .requiresExternalDecision then [.externalDecisionRequired]
  else []

def deterministicResult (outcome : Outcome) (summary : String) (claims : List Claim) (decisionCode : Option String)
    (reasonCodes : List EvidenceReasonCode) : ModelResult where
  candidate := {
    outcome := outcome
    decisionCode := decisionCode
    summary := summary
    claims := claims
    evidenceReasonCodes := reasonCodes
    warnings := [summary]
    missingRequirements := [] }
  model := "deterministic-precondition-engine-v1"
  provider := "evllm"
  responseId := none
  inputTokens := none
  outputTokens := none

/-- `deterministicResult` with its default arguments. -/
def refusal (outcome : Outcome) (summary : String) : ModelResult :=
  deterministicResult outcome summary [] none (reasonCodesForOutcome outcome summary)

def citedActiveClaims (supports : List Support) : List Claim :=
  (supports.filter (·.status = .active)).mapIdx fun index support =>
    ⟨"claim-" ++ toString (index + 1), support.content, [support.supportId]⟩

/-- The outcome, the code and the message of the first defect of the supports. -/
def precondition (supports : List Support) (injection : Bool) : Option (Outcome × String × String) :=
  if injection then
    some (.abstain, "prompt-injection", "Untrusted support contained instruction-like content.")
  else if supports = [] then
    some (.abstain, "missing-support", "No authorized support was available.")
  else if supports.any (·.status = .missing) then
    some (.abstain, "missing-support", "A required current support record is missing.")
  else if supports.any (·.status = .conflicting) then
    some (.requiresExternalDecision, "conflicting-support", "Conflicting support requires accountable external review.")
  else if supports.any (·.status ≠ .active) then
    some (.abstain, "inactive-support", "Required support is missing, restricted, stale, revoked, or superseded.")
  else
    none

def totalContent (supports : List Support) : ℕ := (supports.map fun support => (utf16 support.content).length).sum

/-- The branches of `answerOnce` that answer without the model: the validation
code and the result. -/
def control (query : Query) (supports : List Support) : Option (String × ModelResult) :=
  match precondition supports (supports.any (C.text.looksLikeEmbeddedInstruction ·.content)) with
  | some (outcome, code, message) => some (code, refusal outcome message)
  | none =>
    if totalContent supports > C.maxContextCharacters then
      some ("context-limit", refusal .abstain "Authorized support exceeds the bounded model context.")
    else if C.text.looksLikeAuthorityEscalation query.question then
      some ("authority-boundary", refusal .abstain "The request crosses the read-only assistant authority boundary.")
    else if C.text.isExternalDecisionRequest query.question then
      let summary := "The request requires a decision by an accountable external authority."
      some ("external-decision-boundary", deterministicResult .requiresExternalDecision summary
        (citedActiveClaims supports) none (reasonCodesForOutcome .requiresExternalDecision summary))
    else
      match resolveActiveRecordedDecision supports, query.mode with
      | .absent, .explainRecordedDecision =>
        some ("missing-recorded-decision",
          refusal .abstain "No active recorded decision is available for explanation.")
      | .conflicting, _ =>
        some ("conflicting-recorded-decision", deterministicResult .requiresExternalDecision
          "Active supports contain conflicting recorded decisions and require accountable external review."
          [] none [.conflictingEvidence, .externalDecisionRequired])
      | _, _ => none

/-! ### One execution -/

/-- What the `try` statement of `answerOnce` leaves in its variables. -/
structure Verdict where
  supports : List Support
  toolNames : List ToolName
  validationCodes : List String
  result : ModelResult
  decisionSource : DecisionSource
  deriving DecidableEq, Repr

/-- The validation code of an error that `answerOnce` catches. -/
def Failure.validationCode : Failure → Option String
  | .protectedRetrieval _ => some "retrieval-verification-failed"
  | .supportValidation _ => some "invalid-support"
  | .toolAuthorization _ => some "access-denied"
  | .idempotency _ => none
  | .other _ => none

/-- The `catch` clause, with the variables as the `try` block left them. -/
def onFailure (supports : List Support) (toolNames : List ToolName) (e : Failure) : Except Failure Verdict :=
  match e.validationCode with
  | none => .error e
  | some code =>
    .ok ⟨supports, toolNames, [code], refusal .abstain "Authorized support is unavailable for this request.",
      .deterministicControl⟩

/-- The branch of `answerOnce` that asks the model. -/
def consultModel (query : Query) (session : ActorSession) (supports : List Support) (toolNames : List ToolName) :
    Except Failure Verdict := do
  let result ← E.generate ⟨query.question, query.purposeId, query.asOf, session, supports⟩
  let release ← releaseAssistantCandidateWithRecordedDecision C.text result.candidate supports query.question true
  if release.validationCodes = [] then
    return ⟨supports, toolNames, [], { result with candidate := release.candidate },
      if release.resolution matches .consistent _ then .typedRecord else .modelCandidate⟩
  else
    return ⟨supports, toolNames, release.validationCodes,
      refusal .abstain "The generated response failed support validation.", .validationFallback⟩

/-- The supports an execution uses: what the tools returned, as far as the
mode of the query sees it, and none if a tool failed. -/
def responseSupports (query : Query) : List Support :=
  match executeTools C E query with
  | .error _ => []
  | .ok supports => supportsForQueryMode supports query.mode

/-- The `try` statement of `answerOnce`. -/
def verdict (query : Query) (session : ActorSession) : Except Failure Verdict :=
  match executeTools C E query with
  | .error e => onFailure [] [] e
  | .ok executed =>
    let supports := supportsForQueryMode executed query.mode
    let toolNames := query.requests.map ToolRequest.tool
    match control C query supports with
    | some (code, result) => .ok ⟨supports, toolNames, [code], result, .deterministicControl⟩
    | none =>
      match consultModel C E query session supports toolNames with
      | .error e => onFailure supports toolNames e
      | .ok v => .ok v

def activeRecordedDecisionSupportReferences (supports : List Support) : List DecisionReference :=
  supports.filterMap fun support => support.activeDecision.map fun decision =>
    ⟨support.supportId, support.resourceId, support.resourceVersion, support.commitment,
      normalizeRecordedDecision decision⟩

/-- The text by which `append` orders the references. -/
def DecisionReference.sortKey (reference : DecisionReference) : String :=
  "\x00".intercalate [reference.supportId, reference.resourceId, toString reference.resourceVersion,
    reference.commitment]

/-- `AssistantAuditLedger.append`: the event appended to `events`. -/
def auditEvent (events : List AuditEvent) (query : Query) (session : ActorSession) (correlationId : String)
    (v : Verdict) : Except Failure AuditEvent := do
  let references := ((activeRecordedDecisionSupportReferences v.supports).map fun reference =>
    { reference with recordedDecision :=
      { reference.recordedDecision with
        reasonCodes := sortReasonCodes reference.recordedDecision.reasonCodes } }).insertionSort fun left right =>
    C.text.localeCompare left.sortKey right.sortKey ≤ 0
  let unsigned : UnsignedEvent := {
    eventId := "urn:evllm:event:" ++ E.eventId
    sequence := events.length + 1
    requestId := "urn:evllm:assistant:" ++ E.requestId
    correlationId := correlationId
    actorId := session.actorId
    organizationId := session.organizationId
    sessionId := session.sessionId
    purposeId := query.purposeId
    queryMode := query.mode
    questionDigest := C.hash query.question
    toolNames := v.toolNames
    supportIds := sortStrings (v.supports.map (·.supportId))
    outcome := v.result.candidate.outcome
    decisionCode := v.result.candidate.decisionCode
    decisionSource := v.decisionSource
    recordedDecisionSupportIds := references.map DecisionReference.supportId
    recordedDecisionSupportReferences := references
    model := v.result.model
    provider := v.result.provider
    validationCodes := v.validationCodes
    recordedAt := E.recordedAt
    previousEventHash := events.getLast?.map AuditEvent.eventHash }
  return ⟨unsigned, ← C.hashEvent unsigned⟩

def requestRecord (query : Query) (session : ActorSession) (v : Verdict) (event : AuditEvent) : RequestRecord where
  requestId := "urn:evllm:assistant:" ++ E.requestId
  requestingActorId := session.actorId
  requestingOrganizationId := session.organizationId
  minimizedQuestionMetadata :=
    [C.hash query.question, query.purposeId, "query-mode:" ++ query.mode.text] ++ v.toolNames.map ToolName.text
  minimizedResultMetadata :=
    [v.result.candidate.outcome.text, "decision-code:" ++ v.result.candidate.decisionCode.getD "none",
      "decision-source:" ++ v.decisionSource.text, v.result.provider, v.result.model]
  completed := v.result.candidate.outcome = .answer
  auditEventId := event.eventId
  createdAt := E.createdAt

def response (query : Query) (correlationId : String) (v : Verdict) (event : AuditEvent) : Response where
  requestId := "urn:evllm:assistant:" ++ E.requestId
  correlationId := correlationId
  outcome := v.result.candidate.outcome
  decisionCode := v.result.candidate.decisionCode
  summary := v.result.candidate.summary
  claims := v.result.candidate.claims
  citations := (v.supports.filter fun support =>
    v.result.candidate.claims.any (support.supportId ∈ ·.citationIds)).map Support.toCitation
  asOf := query.asOf
  evidenceState :=
    if v.supports = [] then .notEvaluated else if v.supports.all (·.status = .active) then .active else .defective
  warnings := v.result.candidate.warnings
  missingRequirements := v.result.candidate.missingRequirements
  evidenceReasonCodes := v.result.candidate.evidenceReasonCodes
  validationCodes := v.validationCodes
  provider := v.result.provider
  model := v.result.model
  responseId := v.result.responseId
  inputTokens := v.result.inputTokens
  outputTokens := v.result.outputTokens
  auditEventId := event.eventId

/-- The ledger and the store that all executions of a service write. -/
structure Records where
  audit : List AuditEvent
  requests : JsMap String RequestRecord

/-- `AssistantRequestStore.put`. -/
def putRequest (requests : JsMap String RequestRecord) (record : RequestRecord) :
    Except Failure (JsMap String RequestRecord) := do
  throwIf (¬C.acceptsRequest record) (Failure.other "Invalid assistant request")
  throwIf (requests.has record.requestId) (Failure.other "Duplicate assistant request")
  return requests.set record.requestId record

/-- What follows the `try` statement: the event is appended even if the
request record is then refused. -/
def recordVerdict (records : Records) (query : Query) (session : ActorSession) (correlationId : String)
    (v : Verdict) : Except Failure Response × Records :=
  match auditEvent C E records.audit query session correlationId v with
  | .error e => (.error e, records)
  | .ok event =>
    let audit := records.audit ++ [event]
    match putRequest C records.requests (requestRecord C E query session v event) with
    | .error e => (.error e, ⟨audit, records.requests⟩)
    | .ok requests => (.ok (response E query correlationId v event), ⟨audit, requests⟩)

def answerOnce (records : Records) (query : Query) (session : ActorSession) (correlationId : String) :
    Except Failure Response × Records :=
  match verdict C E query session with
  | .error e => (.error e, records)
  | .ok v => recordVerdict C E records query session correlationId v

/-! ### The service -/

/-- A promise of `answerOnce`; once settled, with what it got from outside. -/
structure Execution (ι : Type) where
  query : Query
  session : ActorSession
  correlationId : String
  settled : Option (Environment ι × Except Failure Response)

/-- An entry of `#idempotentAnswers`; `execution` is the promise. -/
structure KeptAnswer where
  fingerprint : String
  execution : ℕ

/-- A call of `answer`: the execution it awaits, the key under which it kept
that execution, and what it returned. -/
structure Call where
  query : Query
  session : ActorSession
  awaits : Option ℕ
  keptUnder : Option String
  returned : Option (Except Failure Response)

structure Service (ι : Type) where
  idempotentAnswers : JsMap String KeptAnswer
  executions : List (Execution ι)
  calls : List Call
  records : Records

def newService : Service ι := ⟨JsMap.empty, [], [], ⟨[], JsMap.empty⟩⟩

def fingerprintInput (query : Query) (session : ActorSession) : FingerprintInput :=
  ⟨query, session.actorId, session.organizationId, session.credentialId⟩

def idempotencyMapKey (session : ActorSession) (idempotencyKey : String) : String :=
  "\x00".intercalate [session.actorId, session.organizationId, session.credentialId, idempotencyKey]

inductive Event (ι : Type) where
  | answer (query : Query) (session : ActorSession) (correlationId : String)
  | settle (execution : ℕ) (environment : Environment ι)
  | resume (call : ℕ)

variable (S : Service ι)

/-- A new call that awaits a new execution. -/
def startExecution (query : Query) (session : ActorSession) (correlationId : String) (keptUnder : Option String) :
    Service ι :=
  { S with
    executions := S.executions ++ [⟨query, session, correlationId, none⟩]
    calls := S.calls ++ [⟨query, session, some S.executions.length, keptUnder, none⟩] }

/-- A call that throws before its first await. -/
def refuseCall (query : Query) (session : ActorSession) (e : Failure) : Service ι :=
  { S with calls := S.calls ++ [⟨query, session, none, none, some (.error e)⟩] }

def joinExecution (query : Query) (session : ActorSession) (execution : ℕ) : Service ι :=
  { S with calls := S.calls ++ [⟨query, session, some execution, none, none⟩] }

/-- `answer` with an idempotency key, once the fingerprint is computed. -/
def answerKept (query : Query) (session : ActorSession) (correlationId : String) (key fingerprint : String) :
    Service ι :=
  match S.idempotentAnswers.get key with
  | some existing =>
    if existing.fingerprint ≠ fingerprint then
      refuseCall S query session (.idempotency "Idempotency key was reused for another request")
    else
      joinExecution S query session existing.execution
  | none =>
    { startExecution S query session correlationId (some key) with
      idempotentAnswers := S.idempotentAnswers.set key ⟨fingerprint, S.executions.length⟩ }

/-- `answer`, up to its await. -/
def answer (query : Query) (session : ActorSession) (correlationId : String) : Service ι :=
  match query.idempotencyKey with
  | none => startExecution S query session correlationId none
  | some idempotencyKey =>
    match C.fingerprint (fingerprintInput query session) with
    | .error e => refuseCall S query session e
    | .ok fingerprint => answerKept S query session correlationId (idempotencyMapKey session idempotencyKey) fingerprint

/-- An execution runs to its end. -/
def settle (p : ℕ) : Service ι :=
  match S.executions[p]? with
  | some ⟨query, session, correlationId, none⟩ =>
    let (result, records) := answerOnce C E S.records query session correlationId
    { S with
      executions := S.executions.set p ⟨query, session, correlationId, some (E, result)⟩
      records := records }
  | _ => S

/-- The `catch` clause of `answer`: a failed execution is not kept. -/
def dropFailed (call : Call) (p : ℕ) : Except Failure Response → JsMap String KeptAnswer
  | .ok _ => S.idempotentAnswers
  | .error _ =>
    match call.keptUnder with
    | none => S.idempotentAnswers
    | some key =>
      if (S.idempotentAnswers.get key).any (·.execution = p) then S.idempotentAnswers.delete key
      else S.idempotentAnswers

/-- What the call waits for: its promise, once that is settled. -/
def awaited (call : Call) : Option (ℕ × Except Failure Response) :=
  call.awaits.bind fun p => (S.executions[p]?).bind fun execution =>
    execution.settled.map fun settled => (p, settled.2)

/-- A call whose promise is settled returns. -/
def resume (c : ℕ) : Service ι :=
  match S.calls[c]? with
  | none => S
  | some call =>
    match call.returned, awaited S call with
    | none, some (p, result) =>
      { S with
        idempotentAnswers := dropFailed S call p result
        calls := S.calls.set c { call with returned := some result } }
    | _, _ => S

def step : Event ι → Service ι
  | .answer query session correlationId => answer C S query session correlationId
  | .settle p environment => settle C environment S p
  | .resume c => resume S c

/-- The service after the events `ls`. -/
def after (ls : List (Event ι)) : Service ι := run (step C) newService ls

end Assistant
end Evllm
