/-
# The transport-attempt journal

`src/evaluation/transport-attempt-journal.ts`: an append-only file of events,
one JSON text a line, each with the digest of the event before it. A call of
`beginAttempt`, `completeSuccess` or `completeFailure` puts an operation on a
queue that runs one operation at a time; `markOpenAttemptsInterrupted` takes
the attempts that are open when it is called, queues an interruption for the
first, and for each other one when the one before it has run. An operation makes its event when it runs, and the
schema of the event may refuse it.

`initialize` reads such a file and checks every event against the ones before.

Key definitions: `TransportAttemptEvent`, `Codec`, `initializeFrom`, `Journal`,
`step`.
-/
import Evllm.Assistant.Service
import Evllm.Lib.Except
import Evllm.Lib.JsMap
import Evllm.Lib.JsString
import Evllm.Lib.Run

namespace Evllm
namespace Evaluation

open Lib

/-! ### Events -/

structure TransportJournalBinding where
  evaluationSetId : String
  sourceCommit : String
  freezeSha256 : String
  corpusFileSha256 : String
  logicalCorpusSha256 : String
  deriving DecidableEq, Repr

structure TransportAttemptIdentity where
  observationId : String
  caseId : String
  configurationId : String
  repetition : ℤ
  provider : String
  model : String
  deriving DecidableEq, Repr

/-- The fields by which an event names its attempt. -/
structure AttemptReference where
  observationId : String
  caseId : String
  configurationId : String
  repetition : ℤ
  attemptSequence : ℤ
  cycleId : String
  cycleAttempt : ℤ
  deriving DecidableEq, Repr

inductive ErrorCategory where
  | http408
  | http409
  | http429
  | http5xx
  | connectionReset
  | timeout
  | dnsTemporary
  | connectionRefused
  | connectionError
  | providerError
  deriving DecidableEq, Repr

inductive EventBody where
  | started (provider model modelInputSha256 : String) (presentedSupportIds : List String) (retry : Bool)
  | succeeded (startedEventId : String) (durationMs : ℤ) (provider model : String) (responseId : Option String)
      (inputTokens outputTokens : Option ℕ)
  | failed (startedEventId : String) (durationMs : ℤ) (transient : Bool) (errorCategory : ErrorCategory)
  | interrupted (startedEventId : String) (durationMs : ℤ)
  deriving DecidableEq, Repr

/-- The attempt that a terminal event ends. -/
def EventBody.startedEventId : EventBody → Option String
  | .started _ _ _ _ _ => none
  | .succeeded id _ _ _ _ _ _ | .failed id _ _ _ | .interrupted id _ => some id

/-- An event without its digest. -/
structure UnsignedEvent where
  eventId : String
  previousEventSha256 : Option String
  binding : TransportJournalBinding
  attempt : AttemptReference
  recordedAt : String
  body : EventBody
  deriving DecidableEq, Repr

structure TransportAttemptEvent extends UnsignedEvent where
  eventSha256 : String
  deriving DecidableEq, Repr

def TransportAttemptEvent.isStarted (event : TransportAttemptEvent) : Bool := event.body.startedEventId = none

/-- An error that the provider threw, with its cause. -/
inductive Thrown where
  | notObject
  | object (isTimeout isConnectionError : Bool) (status : Option ℕ) (code : Option String) (cause : Option Thrown)

/-- `transientTransportCategory`. -/
def transientTransportCategory : Thrown → Option ErrorCategory
  | .notObject => none
  | .object isTimeout isConnectionError status code cause =>
    let nested := match cause with
      | none => none
      | some inner => transientTransportCategory inner
    if isTimeout then some .timeout
    else if isConnectionError then nested.or (some .connectionError)
    else if status = some 408 then some .http408
    else if status = some 409 then some .http409
    else if status = some 429 then some .http429
    else if status.any (500 ≤ ·) then some .http5xx
    else if code = some "ECONNRESET" then some .connectionReset
    else if code = some "ETIMEDOUT" then some .timeout
    else if code = some "EAI_AGAIN" then some .dnsTemporary
    else if code = some "ECONNREFUSED" then some .connectionRefused
    else nested

def isTransientTransportError (error : Thrown) : Bool := (transientTransportCategory error).isSome

def transportErrorCategory (error : Thrown) : ErrorCategory := (transientTransportCategory error).getD .providerError

/-- The content of a file. -/
abbrev Text := List Char

/-- The functions outside of the journal: schemas, JSON texts and digests. -/
structure Codec where
  /-- The schema of the event's type accepts it. -/
  accepts : TransportAttemptEvent → Bool
  /-- `JSON.stringify`. -/
  stringify : TransportAttemptEvent → Text
  /-- `transportAttemptEventSchema.parse(JSON.parse(line))`. -/
  parse : Text → Option TransportAttemptEvent
  /-- `sha256Canonical` of an event without its digest. -/
  digest : UnsignedEvent → String
  inputDigest : Assistant.ModelInput → String

variable (T : Codec) (binding : TransportJournalBinding)

/-! ### Reading -/

/-- The errors of `initialize`, with the number of the line or the event. -/
inductive JournalError where
  | invalidLine (line : ℕ)
  | bindingMismatch (line : ℕ)
  | brokenChain (line : ℕ)
  | invalidDigest (line : ℕ)
  | duplicateEvent (eventId : String)
  | repeatedSupport (eventId : String)
  | nonSequential (observationId : String)
  | invalidRetryMarker (observationId : String)
  | invalidTerminal (eventId : String)
  | differentStart (eventId : String)
  deriving DecidableEq, Repr

/-- The loop of `initialize` over the lines; `previousDigest` is the digest of
the last event read. -/
def readLine (events : List TransportAttemptEvent) (line : Text × ℕ) :
    Except JournalError (List TransportAttemptEvent) :=
  if line.1.all isSpace then .ok events
  else
    match T.parse line.1 with
    | none => .error (.invalidLine (line.2 + 1))
    | some event => do
      throwIf (event.binding ≠ binding) (JournalError.bindingMismatch (line.2 + 1))
      throwIf (event.previousEventSha256 ≠ events.getLast?.map (·.eventSha256)) (JournalError.brokenChain (line.2 + 1))
      throwIf (event.eventSha256 ≠ T.digest event.toUnsignedEvent) (JournalError.invalidDigest (line.2 + 1))
      return events ++ [event]

/-- The variables of `assertInternalConsistency`. -/
structure Seen where
  eventIds : List String
  attempts : JsMap String ℤ
  starts : JsMap String TransportAttemptEvent
  terminals : List String

def Seen.empty : Seen := ⟨[], .empty, .empty, []⟩

def checkStarted (seen : Seen) (event : TransportAttemptEvent) (presentedSupportIds : List String) (retry : Bool) :
    Except JournalError Seen := do
  throwIf (presentedSupportIds.eraseDups.length ≠ presentedSupportIds.length) (JournalError.repeatedSupport event.eventId)
  let expected := (seen.attempts.get event.attempt.observationId).getD 0 + 1
  throwIf (event.attempt.attemptSequence ≠ expected) (JournalError.nonSequential event.attempt.observationId)
  throwIf (retry ≠ decide (1 < event.attempt.attemptSequence)) (JournalError.invalidRetryMarker event.attempt.observationId)
  return { seen with
    attempts := seen.attempts.set event.attempt.observationId expected
    starts := seen.starts.set event.eventId event }

def checkTerminal (seen : Seen) (event : TransportAttemptEvent) (startedEventId : String) : Except JournalError Seen :=
  match seen.starts.get startedEventId with
  | none => .error (.invalidTerminal event.eventId)
  | some started => do
    throwIf (startedEventId ∈ seen.terminals) (JournalError.invalidTerminal event.eventId)
    throwIf (started.attempt ≠ event.attempt) (JournalError.differentStart event.eventId)
    return { seen with terminals := startedEventId :: seen.terminals }

def checkEvent (seen : Seen) (event : TransportAttemptEvent) : Except JournalError Seen := do
  throwIf (event.eventId ∈ seen.eventIds) (JournalError.duplicateEvent event.eventId)
  let seen := { seen with eventIds := event.eventId :: seen.eventIds }
  match event.body with
  | .started _ _ _ presentedSupportIds retry => checkStarted seen event presentedSupportIds retry
  | .succeeded id _ _ _ _ _ _ | .failed id _ _ _ | .interrupted id _ => checkTerminal seen event id

def assertInternalConsistency (events : List TransportAttemptEvent) : Except JournalError Seen :=
  events.foldlM checkEvent .empty

/-- `initialize` of a fresh journal on a file with this content; a missing
file has none. The events are those it then has. -/
def initializeFrom (content : Text) : Except JournalError (List TransportAttemptEvent) := do
  let events ← (lines content).zipIdx.foldlM (readLine T binding) []
  let _ ← assertInternalConsistency events
  return events

/-! ### Writing -/

def startsFor (events : List TransportAttemptEvent) (observationId : String) : List TransportAttemptEvent :=
  events.filter fun event => event.isStarted ∧ event.attempt.observationId = observationId

def terminalForStart (events : List TransportAttemptEvent) (startedEventId : String) : Option TransportAttemptEvent :=
  events.find? fun event => event.body.startedEventId = some startedEventId

def openStarts (events : List TransportAttemptEvent) : List TransportAttemptEvent :=
  events.filter fun event => event.isStarted ∧ terminalForStart events event.eventId = none

/-- A call of `beginAttempt`, `completeSuccess` or `completeFailure`. -/
inductive Request where
  | begin (identity : TransportAttemptIdentity) (input : Assistant.ModelInput) (cycleId : String) (cycleAttempt : ℤ)
  | success (started : TransportAttemptEvent) (result : Assistant.ModelResult) (durationMs : ℤ)
  | failure (started : TransportAttemptEvent) (error : Thrown) (durationMs : ℤ)

/-- An operation on the queue. An interruption belongs to a call of
`markOpenAttemptsInterrupted`. -/
inductive Operation where
  | request (request : Request)
  | interrupt (mark : ℕ) (started : TransportAttemptEvent)

/-- What an operation gets from outside when it runs: a random id, the time and
the milliseconds since the attempt was recorded. -/
structure Drawn where
  eventId : String
  recordedAt : String
  elapsedMs : ℤ

/-- The attempt and the body of the event of an operation. -/
def Operation.content (events : List TransportAttemptEvent) (elapsedMs : ℤ) : Operation → AttemptReference × EventBody
  | .request (.begin identity input cycleId cycleAttempt) =>
    (⟨identity.observationId, identity.caseId, identity.configurationId, identity.repetition,
        (startsFor events identity.observationId).length + 1, cycleId, cycleAttempt⟩,
      .started identity.provider identity.model (T.inputDigest input) (input.supports.map (·.supportId))
        (decide (0 < (startsFor events identity.observationId).length)))
  | .request (.success started result durationMs) =>
    (started.attempt, .succeeded started.eventId durationMs result.provider result.model result.responseId
      result.inputTokens result.outputTokens)
  | .request (.failure started error durationMs) =>
    (started.attempt, .failed started.eventId durationMs (isTransientTransportError error) (transportErrorCategory error))
  | .interrupt _ started => (started.attempt, .interrupted started.eventId (max 0 elapsedMs))

/-- `makeEvent`. -/
def makeEvent (events : List TransportAttemptEvent) (drawn : Drawn) (operation : Operation) : TransportAttemptEvent :=
  let unsigned : UnsignedEvent := {
    eventId := drawn.eventId
    previousEventSha256 := events.getLast?.map (·.eventSha256)
    binding := binding
    attempt := (operation.content T events drawn.elapsedMs).1
    recordedAt := drawn.recordedAt
    body := (operation.content T events drawn.elapsedMs).2 }
  ⟨unsigned, T.digest unsigned⟩

/-- A call of `markOpenAttemptsInterrupted`: the attempts it has not queued yet,
and whether it awaits one that it has. -/
structure MarkCall where
  remaining : List TransportAttemptEvent
  waiting : Bool

structure Journal where
  file : Text
  events : List TransportAttemptEvent
  queue : List Operation
  marks : List MarkCall

variable (J : Journal)

/-- `appendEvent`. -/
def appendEvent (event : TransportAttemptEvent) : Journal :=
  { J with file := J.file ++ T.stringify event ++ ['\n'], events := J.events ++ [event] }

/-- A mark whose interruption has run goes on; one whose interruption was
refused has failed. -/
def settleMark (accepted : Bool) : Operation → List MarkCall
  | .interrupt m _ => J.marks.modify m fun mark => ⟨if accepted then mark.remaining else [], false⟩
  | _ => J.marks

inductive Event where
  | call (request : Request)
  | markOpenAttemptsInterrupted
  /-- A mark queues its next interruption. -/
  | continueMark (mark : ℕ)
  /-- The first operation of the queue runs. -/
  | runNext (drawn : Drawn)

def continueMark (m : ℕ) : Journal :=
  match J.marks[m]? with
  | some ⟨started :: remaining, false⟩ =>
    { J with queue := J.queue ++ [.interrupt m started], marks := J.marks.set m ⟨remaining, true⟩ }
  | _ => J

def runNext (drawn : Drawn) : Journal :=
  match J.queue with
  | [] => J
  | operation :: queue =>
    let event := makeEvent T binding J.events drawn operation
    let marks := settleMark J (T.accepts event) operation
    if T.accepts event then { appendEvent T J event with queue, marks } else { J with queue, marks }

def step : Event → Journal
  | .call request => { J with queue := J.queue ++ [.request request] }
  | .markOpenAttemptsInterrupted =>
    continueMark { J with marks := J.marks ++ [⟨openStarts J.events, false⟩] } J.marks.length
  | .continueMark m => continueMark J m
  | .runNext drawn => runNext T binding J drawn

end Evaluation
end Evllm
