/-
# The audit ledger of the assistant

Every event of the ledger carries its place, the hash of the event before it
and its own hash, over all its other fields. `verifyAssistantAuditEvents`
recomputes all three. What `append` adds to a ledger that verifies verifies;
and two lists that verify and end in the same hash are the same list, if no two
different events among them have one hash.

Key definitions: `AppendInput`, `append`, `verifyAssistantAuditEvents`.
Key theorems: `verifies_iff`, `auditEvent_eq`, `service_audit_verifies`,
`audit_tamper_evident`.
-/
import Evllm.Assistant.Binding
import Evllm.Lib.Links

namespace Evllm
namespace Assistant

open Lib

/-! ### Appending -/

/-- The input of `AssistantAuditLedger.append`, with the id it draws. -/
structure AppendInput where
  eventId : String
  requestId : String
  correlationId : String
  session : ActorSession
  purposeId : String
  queryMode : QueryMode
  question : String
  toolNames : List ToolName
  supportIds : List String
  model : ModelResult
  outcome : Outcome
  decisionCode : Option String
  decisionSource : DecisionSource
  recordedDecisionSupportReferences : List DecisionReference
  validationCodes : List String
  recordedAt : ℕ
  deriving DecidableEq, Repr

section

variable {ι : Type} (C : Config ι)

/-- The references in the order of their keys, with sorted reason codes. -/
def sortReferences (references : List DecisionReference) : List DecisionReference :=
  (references.map fun reference =>
    { reference with recordedDecision :=
      { reference.recordedDecision with
        reasonCodes := sortReasonCodes reference.recordedDecision.reasonCodes } }).insertionSort fun left right =>
    C.text.localeCompare left.sortKey right.sortKey ≤ 0

def unsignedEvent (events : List AuditEvent) (input : AppendInput) : UnsignedEvent where
  eventId := "urn:evllm:event:" ++ input.eventId
  sequence := events.length + 1
  requestId := input.requestId
  correlationId := input.correlationId
  actorId := input.session.actorId
  organizationId := input.session.organizationId
  sessionId := input.session.sessionId
  purposeId := input.purposeId
  queryMode := input.queryMode
  questionDigest := C.hash input.question
  toolNames := input.toolNames
  supportIds := sortStrings input.supportIds
  outcome := input.outcome
  decisionCode := input.decisionCode
  decisionSource := input.decisionSource
  recordedDecisionSupportIds :=
    (sortReferences C input.recordedDecisionSupportReferences).map DecisionReference.supportId
  recordedDecisionSupportReferences := sortReferences C input.recordedDecisionSupportReferences
  model := input.model.model
  provider := input.model.provider
  validationCodes := input.validationCodes
  recordedAt := input.recordedAt
  previousEventHash := events.getLast?.map AuditEvent.eventHash

/-- The event that `append` adds. -/
def signedEvent (events : List AuditEvent) (input : AppendInput) : Except Failure AuditEvent := do
  return ⟨unsignedEvent C events input, ← C.hashEvent (unsignedEvent C events input)⟩

/-- `append`: nothing is added where the event has no canonical form. -/
def append (events : List AuditEvent) (input : AppendInput) : Except Failure (List AuditEvent) := do
  return events ++ [← signedEvent C events input]

/-- The ledger after the calls of `append`. -/
def ledgerAfter (inputs : List AppendInput) : List AuditEvent := run (attempt (append C)) [] inputs

/-! ### Verifying -/

/-- `events[index - 1]?.event_hash ?? null`. -/
def previousHash (events : List AuditEvent) : ℕ → Option String
  | 0 => none
  | k + 1 => events[k]?.map AuditEvent.eventHash

def verifyEvent (events : List AuditEvent) (event : AuditEvent) (index : ℕ) : Except Failure Bool :=
  if event.sequence ≠ index + 1 then .ok false
  else if event.previousEventHash ≠ previousHash events index then .ok false
  else do return event.eventHash = (← C.hashEvent event.toUnsignedEvent)

/-- `every` over what is left of the events, from a place on. -/
def verifyFrom (events : List AuditEvent) : List AuditEvent → ℕ → Except Failure Bool
  | [], _ => .ok true
  | event :: rest, index => do
    if ← verifyEvent C events event index then verifyFrom events rest (index + 1) else return false

def verifyAssistantAuditEvents (events : List AuditEvent) : Except Failure Bool := verifyFrom C events events 0

end

section

variable {ι : Type} {C : Config ι} {events xs ys : List AuditEvent} {event : AuditEvent}

/-- What an event says of the events before it. -/
structure Follows (C : Config ι) (before : List AuditEvent) (event : AuditEvent) : Prop where
  sequence : event.sequence = before.length + 1
  previous : event.previousEventHash = before.getLast?.map AuditEvent.eventHash
  hash : C.hashEvent event.toUnsignedEvent = .ok event.eventHash

theorem verifyEvent_eq_true {index : ℕ} : verifyEvent C events event index = .ok true ↔
    event.sequence = index + 1 ∧ event.previousEventHash = previousHash events index ∧
      C.hashEvent event.toUnsignedEvent = .ok event.eventHash := by
  unfold verifyEvent
  split_ifs with hsequence hprevious
  · simp [hsequence]
  · simp [hprevious]
  · rw [ne_eq, not_not] at hsequence hprevious
    simp only [hsequence, hprevious, true_and, bind_eq_ok, pure_eq_ok, decide_eq_true_eq]
    constructor
    · rintro ⟨hash, hhash, rfl⟩
      exact hhash
    · intro hhash
      exact ⟨_, hhash, rfl⟩

theorem verifyFrom_eq_true : ∀ (rest : List AuditEvent) (index : ℕ), verifyFrom C events rest index = .ok true ↔
    ∀ k event, rest[k]? = some event → verifyEvent C events event (index + k) = .ok true
  | [], index => by simp [verifyFrom]
  | event :: rest, index => by
    have htail := verifyFrom_eq_true rest (index + 1)
    constructor
    · intro h k other hk
      simp only [verifyFrom, bind_eq_ok] at h
      obtain ⟨passed, hpassed, h⟩ := h
      cases passed with
      | false => cases h
      | true =>
        cases k with
        | zero =>
          obtain rfl : event = other := by simpa using hk
          exact hpassed
        | succ k =>
          have hother := htail.mp h k other (by simpa using hk)
          rwa [Nat.add_right_comm] at hother
    · intro h
      have hhead := h 0 event rfl
      simp only [verifyFrom, bind_eq_ok]
      refine ⟨true, hhead, htail.mpr fun k other hk => ?_⟩
      have hother := h (k + 1) other (by simpa using hk)
      rwa [Nat.add_right_comm]

theorem previousHash_append (before rest : List AuditEvent) :
    previousHash (before ++ rest) before.length = before.getLast?.map AuditEvent.eventHash := by
  rcases List.eq_nil_or_concat' before with rfl | ⟨before, last, rfl⟩
  · rfl
  · simp [previousHash]

/-- **A list verifies** just if every event follows the events before it. -/
theorem verifies_iff : verifyAssistantAuditEvents C events = .ok true ↔ EachAfter (Follows C) events := by
  unfold verifyAssistantAuditEvents
  rw [verifyFrom_eq_true]
  constructor
  · rintro h before event rest rfl
    have hevent := h before.length event (by simp)
    rw [Nat.zero_add, verifyEvent_eq_true, previousHash_append] at hevent
    exact ⟨hevent.1, hevent.2.1, hevent.2.2⟩
  · intro h k event hk
    obtain ⟨before, rest, rfl, rfl⟩ : ∃ before rest, events = before ++ event :: rest ∧ before.length = k := by
      obtain ⟨hlt, hget⟩ := List.getElem?_eq_some_iff.mp hk
      refine ⟨events.take k, events.drop (k + 1), ?_, List.length_take_of_le (Nat.le_of_lt hlt)⟩
      rw [← hget, List.getElem_cons_drop, List.take_append_drop]
    obtain ⟨hsequence, hprevious, hhash⟩ := h before event rest rfl
    rw [Nat.zero_add, verifyEvent_eq_true, previousHash_append]
    exact ⟨hsequence, hprevious, hhash⟩

/-! ### The ledger of a run -/

/-- The event that is added follows the ledger. -/
theorem follows_signedEvent {input : AppendInput} (h : signedEvent C events input = .ok event) : Follows C events event := by
  simp only [signedEvent, bind_eq_ok, pure_eq_ok] at h
  obtain ⟨hash, hhash, rfl⟩ := h
  exact ⟨rfl, rfl, hhash⟩

/-- **One step.** -/
theorem verifies_append {input : AppendInput} (h : append C events input = .ok xs) (hevents : EachAfter (Follows C) events) :
    EachAfter (Follows C) xs := by
  simp only [append, bind_eq_ok, pure_eq_ok] at h
  obtain ⟨event, hevent, rfl⟩ := h
  exact eachAfter_concat.mpr ⟨hevents, follows_signedEvent hevent⟩

theorem ledgerAfter_verifies (C : Config ι) (inputs : List AppendInput) :
    verifyAssistantAuditEvents C (ledgerAfter C inputs) = .ok true := by
  rw [verifies_iff]
  exact run_invariant (attempt_invariant fun _ _ _ h => verifies_append h) inputs eachAfter_nil

/-- What the service gives to `append`. -/
def appendInput (E : Environment ι) (query : Query) (session : ActorSession) (correlationId : String) (v : Verdict) :
    AppendInput where
  eventId := E.eventId
  requestId := "urn:evllm:assistant:" ++ E.requestId
  correlationId := correlationId
  session := session
  purposeId := query.purposeId
  queryMode := query.mode
  question := query.question
  toolNames := v.toolNames
  supportIds := v.supports.map (·.supportId)
  model := v.result
  outcome := v.result.candidate.outcome
  decisionCode := v.result.candidate.decisionCode
  decisionSource := v.decisionSource
  recordedDecisionSupportReferences := activeRecordedDecisionSupportReferences v.supports
  validationCodes := v.validationCodes
  recordedAt := E.recordedAt

theorem auditEvent_eq (E : Environment ι) (query : Query) (session : ActorSession) (correlationId : String) (v : Verdict) :
    auditEvent C E events query session correlationId v =
      signedEvent C events (appendInput E query session correlationId v) := rfl

/-- An execution appends one event, or none. -/
theorem verifies_answerOnce {E : Environment ι} {records : Records} {query : Query} {session : ActorSession}
    {correlationId : String} (h : EachAfter (Follows C) records.audit) :
    EachAfter (Follows C) (answerOnce C E records query session correlationId).2.audit := by
  unfold answerOnce
  cases verdict C E query session with
  | error e => exact h
  | ok v =>
    dsimp only
    unfold recordVerdict
    cases hevent : auditEvent C E records.audit query session correlationId v with
    | error e => exact h
    | ok event =>
      rw [auditEvent_eq] at hevent
      have hfollows : Follows C records.audit event := follows_signedEvent hevent
      have happended : EachAfter (Follows C) (records.audit ++ [event]) := eachAfter_concat.mpr ⟨h, hfollows⟩
      dsimp only
      cases putRequest C records.requests (requestRecord C E query session v event) with
      | error e => exact happended
      | ok requests => exact happended

theorem verifies_step {S : Service ι} (l : Event ι) (h : EachAfter (Follows C) S.records.audit) :
    EachAfter (Follows C) (step C S l).records.audit := by
  cases l with
  | answer query session correlationId =>
    simp only [step, answer]
    split
    · exact h
    · split
      · exact h
      · unfold answerKept
        split
        · split_ifs
          · exact h
          · exact h
        · exact h
  | settle p environment =>
    simp only [step, settle]
    split
    · exact verifies_answerOnce h
    · exact h
  | resume c =>
    simp only [step, resume]
    split
    · exact h
    · split
      · exact h
      · exact h

/-- **The ledger of a service** verifies in every run. -/
theorem service_audit_verifies (C : Config ι) (ls : List (Event ι)) :
    verifyAssistantAuditEvents C (after C ls).records.audit = .ok true := by
  rw [verifies_iff]
  exact run_invariant (I := fun S : Service ι => EachAfter (Follows C) S.records.audit) (fun _ l => verifies_step l) ls
    eachAfter_nil

/-! ### Tampering -/

/-- No two different events of the lists have one hash. -/
def DistinctHashes (C : Config ι) (xs ys : List AuditEvent) : Prop :=
  ∀ a ∈ xs, ∀ b ∈ ys, ∀ hash, C.hashEvent a.toUnsignedEvent = .ok hash → C.hashEvent b.toUnsignedEvent = .ok hash →
    a.toUnsignedEvent = b.toUnsignedEvent

theorem tip_eventHash (events : List AuditEvent) :
    tip (fun event : AuditEvent => some event.eventHash) none events = events.getLast?.map AuditEvent.eventHash := by
  rcases List.eq_nil_or_concat' events with rfl | ⟨before, last, rfl⟩
  · rfl
  · simp [tip]

/-- The hashes of a list that verifies link its events. -/
theorem linked_of_verifies (h : EachAfter (Follows C) events) :
    Linked (fun event : AuditEvent => some event.eventHash) (·.previousEventHash) none events := by
  exact EachAfter.imp h fun before event _ hfollows => hfollows.previous.trans (tip_eventHash before).symm

theorem hash_of_verifies (h : EachAfter (Follows C) events) (hevent : event ∈ events) :
    C.hashEvent event.toUnsignedEvent = .ok event.eventHash := by
  obtain ⟨before, rest, rfl⟩ := List.append_of_mem hevent
  exact (h before event rest rfl).hash

end

/-- **The ledger shows tampering.** It verifies after any calls of `append`, and
two lists of events that verify and end in the same hash are the same. -/
theorem audit_tamper_evident {ι : Type} (C : Config ι) :
    (∀ inputs : List AppendInput, verifyAssistantAuditEvents C (ledgerAfter C inputs) = .ok true) ∧
    ∀ xs ys : List AuditEvent, xs ≠ [] → ys ≠ [] → verifyAssistantAuditEvents C xs = .ok true →
      verifyAssistantAuditEvents C ys = .ok true → DistinctHashes C xs ys →
      xs.getLast?.map AuditEvent.eventHash = ys.getLast?.map AuditEvent.eventHash → xs = ys := by
  refine ⟨ledgerAfter_verifies C, fun xs ys _ _ hx hy hdistinct hlast => ?_⟩
  rw [verifies_iff] at hx hy
  refine (linked_of_verifies hx).unique (linked_of_verifies hy) (fun _ _ => Option.some_ne_none _) ?_ ?_
  · intro a ha b hb hsame
    have hhash : a.eventHash = b.eventHash := Option.some.inj hsame
    have hunsigned : a.toUnsignedEvent = b.toUnsignedEvent := by
      refine hdistinct a ha b hb a.eventHash (hash_of_verifies hx ha) ?_
      rw [hhash]
      exact hash_of_verifies hy hb
    obtain ⟨unsigned, eventHash⟩ := a
    obtain ⟨unsigned', eventHash'⟩ := b
    rw [show unsigned = unsigned' from hunsigned, show eventHash = eventHash' from hhash]
  · rw [tip_eventHash, tip_eventHash]
    exact hlast

/-! Two questions that found no support. -/

def capacityQuestion : String := "Which records support the remaining capacity?"

def capacityInput (eventId requestId correlationId : String) (recordedAt : ℕ) : AppendInput where
  eventId := eventId
  requestId := requestId
  correlationId := correlationId
  session := ⟨"session-1", "urn:evllm:actor:00000000-0000-4000-8000-000000000002",
    "urn:evllm:org:00000000-0000-4000-8000-000000000009", "urn:evllm:credential:00000000-0000-4000-8000-000000000007",
    "0x7e5f4552091a69125d5dfcb7b8c2659029395bdf", 0, 1000⟩
  purposeId := "urn:evllm:purpose:00000000-0000-4000-8000-000000000003"
  queryMode := .explainRecords
  question := capacityQuestion
  toolNames := [.facts]
  supportIds := []
  model := refusal .abstain "No authorized support was available."
  outcome := .abstain
  decisionCode := none
  decisionSource := .deterministicControl
  recordedDecisionSupportReferences := []
  validationCodes := ["missing-support"]
  recordedAt := recordedAt

def firstCapacityInput : AppendInput :=
  capacityInput "00000000-0000-4000-8000-000000000001" "urn:evllm:assistant:00000000-0000-4000-8000-000000000011"
    "correlation-1" 100

def secondCapacityInput : AppendInput :=
  capacityInput "00000000-0000-4000-8000-000000000002" "urn:evllm:assistant:00000000-0000-4000-8000-000000000012"
    "correlation-2" 200

/-- The digests of the question and of the two events. -/
def auditConfig : Config Support :=
  { sampleConfig with
    hash := fun text => if text = capacityQuestion then "KuoRoJ-map38UgCZeBf9tgFpq7mlSb7YIbjd4uRxapE" else ""
    hashEvent := fun event =>
      if event.eventId = "urn:evllm:event:00000000-0000-4000-8000-000000000001" then
        .ok "vKKFGqL7i2naRCiQz3UUeSBCoCJo5Xy8Ua9HnAlIBBc"
      else .ok "alR9ZLBf7SzrOfC5YPr9W4USDYzUNFZ9MzDJGJfEdb8" }

/-- The ledger, event by event. -/
def capacityEvents : List AuditEvent :=
  [⟨unsignedEvent auditConfig [] firstCapacityInput, "vKKFGqL7i2naRCiQz3UUeSBCoCJo5Xy8Ua9HnAlIBBc"⟩,
    ⟨{ unsignedEvent auditConfig [] secondCapacityInput with
        sequence := 2, previousEventHash := some "vKKFGqL7i2naRCiQz3UUeSBCoCJo5Xy8Ua9HnAlIBBc" },
      "alR9ZLBf7SzrOfC5YPr9W4USDYzUNFZ9MzDJGJfEdb8"⟩]

theorem capacity_audit_tamper_evident :
    verifyAssistantAuditEvents auditConfig (ledgerAfter auditConfig [firstCapacityInput, secondCapacityInput]) = .ok true ∧
      ledgerAfter auditConfig [firstCapacityInput, secondCapacityInput] = capacityEvents := by
  obtain ⟨hverifies, hunique⟩ := audit_tamper_evident auditConfig
  have hdistinct : ∀ a ∈ ledgerAfter auditConfig [firstCapacityInput, secondCapacityInput], ∀ b ∈ capacityEvents,
      auditConfig.hashEvent a.toUnsignedEvent = auditConfig.hashEvent b.toUnsignedEvent →
        a.toUnsignedEvent = b.toUnsignedEvent := by decide
  refine ⟨hverifies _, hunique _ _ (by decide) (by decide) (hverifies _) (by decide) ?_ (by decide)⟩
  intro a ha b hb hash hahash hbhash
  exact hdistinct a ha b hb (hahash.trans hbhash.symm)

end Assistant
end Evllm
