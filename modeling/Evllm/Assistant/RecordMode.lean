/-
# Explaining records without typed decisions

A query that asks to explain records sees none of the supports that carry a
recorded decision: `supportsForQueryMode` removes them before anything else
looks at what the tools returned. So two executions whose tools return the same
but for such supports come to the same verdict, ask the model the same and
answer the same, and name none of what was removed.

That nothing removed is named needs that the ids are unique: the registry of
tools refuses two supports of one id or of one resource version, and the
citations of a released claim are validated against the supports that remain.

Key definitions: `modelInputs`, `RecordMode`, `Answered`, `Indistinct`.
Key theorems: `verdict_recordMode`, `record_mode_ignores_decisions`.
-/
import Evllm.Assistant.Citations
import Mathlib.Data.List.Pairwise

namespace Evllm
namespace Assistant

open Lib

variable {ι : Type} {C : Config ι} {E E' : Environment ι} {query : Query} {session : ActorSession}

/-! ### What the model is asked -/

/-- What an execution asks the model: nothing where a tool fails or a control
answers. -/
def modelInputs (C : Config ι) (E : Environment ι) (query : Query) (session : ActorSession) : List ModelInput :=
  match executeTools C E query with
  | .error _ => []
  | .ok executed =>
    match control C query (supportsForQueryMode executed query.mode) with
    | some _ => []
    | none => [⟨query.question, query.purposeId, query.asOf, session, supportsForQueryMode executed query.mode⟩]

/-- A verdict rests on the supports that the mode of the query sees and on the
model's answers to what it is asked, and on nothing else. -/
theorem verdict_congr {executed executed' : List Support} (hexec : executeTools C E query = .ok executed)
    (hexec' : executeTools C E' query = .ok executed')
    (hsupports : supportsForQueryMode executed query.mode = supportsForQueryMode executed' query.mode)
    (hgenerate : ∀ input ∈ modelInputs C E query session, E.generate input = E'.generate input) :
    verdict C E query session = verdict C E' query session ∧
      modelInputs C E query session = modelInputs C E' query session := by
  unfold verdict
  unfold modelInputs at hgenerate ⊢
  simp only [hexec, hexec', hsupports] at hgenerate ⊢
  cases hcontrol : control C query (supportsForQueryMode executed' query.mode) with
  | some answer => exact ⟨rfl, trivial⟩
  | none =>
    simp only [hcontrol, List.mem_singleton, forall_eq] at hgenerate
    refine ⟨?_, trivial⟩
    simp only [consultModel, hgenerate]

/-- The supports without a recorded decision. -/
def withoutDecisions (supports : List Support) : List Support := supports.filter (·.recordedDecision = none)

/-- **Record mode ignores typed decisions**: the same verdict and the same
question to the model. -/
theorem verdict_recordMode (session : ActorSession) {executed executed' : List Support} (hmode : query.mode = .explainRecords)
    (hexec : executeTools C E query = .ok executed) (hexec' : executeTools C E' query = .ok executed')
    (hsame : withoutDecisions executed = withoutDecisions executed') (hgenerate : E.generate = E'.generate) :
    verdict C E query session = verdict C E' query session ∧
      modelInputs C E query session = modelInputs C E' query session := by
  refine verdict_congr hexec hexec' ?_ fun input _ => by rw [hgenerate]
  rw [hmode]
  exact hsame

/-! ### Nothing removed is named -/

/-- A support that was removed is none of those that remain, by any name. -/
theorem removed_unnamed {executed : List Support} (h : Distinct executed) {removed kept : Support}
    (hremoved : removed ∈ executed) (hdecision : removed.recordedDecision ≠ none)
    (hkept : kept ∈ withoutDecisions executed) : ¬kept.Names removed := by
  obtain ⟨hmem, hnone⟩ := List.mem_filter.mp hkept
  have hne : kept ≠ removed := by
    rintro rfl
    exact hdecision (of_decide_eq_true hnone)
  have : Std.Symm fun left right : Support => ¬left.Names right := by
    refine ⟨fun left right hnot hnames => hnot ?_⟩
    exact hnames.imp Eq.symm fun hresource => ⟨hresource.1.symm, hresource.2.symm⟩
  exact List.Pairwise.forall h hmem hremoved hne

/-- The response cites the support, or a claim of it does. -/
def Response.Mentions (r : Response) (support : Support) : Prop :=
  (∃ citation ∈ r.citations, citation.Names support) ∨ ∃ claim ∈ r.claims, support.supportId ∈ claim.citationIds

/-- The audit event names the support. -/
def UnsignedEvent.Mentions (event : UnsignedEvent) (support : Support) : Prop :=
  support.supportId ∈ event.supportIds ∨ support.supportId ∈ event.recordedDecisionSupportIds ∨
    ∃ reference ∈ event.recordedDecisionSupportReferences, reference.supportId = support.supportId ∨
      (reference.resourceId = support.resourceId ∧ reference.resourceVersion = support.resourceVersion)

/-- A support that none of the supports of a verdict names, by any name, is not
mentioned in the response. -/
theorem response_unmentioned {v : Verdict} {event : AuditEvent} {correlationId : String} {support : Support}
    (hcites : Cites v.supports v.result.candidate.claims) (hunnamed : ∀ kept ∈ v.supports, ¬kept.Names support) :
    ¬(response E query correlationId v event).Mentions support := by
  rintro (⟨citation, hcitation, hnames⟩ | ⟨claim, hclaim, hid⟩)
  · obtain ⟨kept, hkept, rfl⟩ := List.mem_map.mp hcitation
    exact hunnamed kept (List.mem_filter.mp hkept).1 hnames
  · obtain ⟨kept, hkept, heq⟩ := hcites claim hclaim _ hid
    exact hunnamed kept hkept (.inl heq)

theorem references_withoutDecisions (supports : List Support) :
    activeRecordedDecisionSupportReferences (withoutDecisions supports) = [] := by
  refine List.filterMap_eq_nil_iff.mpr fun support hsupport => ?_
  have hplain : support.recordedDecision = none := of_decide_eq_true (List.mem_filter.mp hsupport).2
  simp [Support.activeDecision, hplain]

theorem event_unmentioned {v : Verdict} {event : AuditEvent} {events : List AuditEvent} {correlationId : String}
    {executed : List Support} {support : Support} (hsupports : v.supports = withoutDecisions executed)
    (hunnamed : ∀ kept ∈ v.supports, ¬kept.Names support)
    (h : auditEvent C E events query session correlationId v = .ok event) : ¬event.Mentions support := by
  simp only [auditEvent, hsupports, references_withoutDecisions, bind_eq_ok, pure_eq_ok] at h
  obtain ⟨hash, -, rfl⟩ := h
  rintro (hid | hid | ⟨reference, hreference, -⟩)
  · obtain ⟨kept, hkept, heq⟩ := List.mem_map.mp (mem_sortStrings.mp hid)
    exact hunnamed kept (hsupports ▸ hkept) (.inl heq)
  · simp at hid
  · simp at hreference

/-! ### Two executions -/

/-- In the run `ls` a call returned the response `r` of an execution of the
query in the environment `E`. -/
structure Answered (C : Config ι) (ls : List (Event ι)) (query : Query) (session : ActorSession) (E : Environment ι)
    (call : Call) (correlationId : String) (r : Response) : Prop where
  called : call ∈ (after C ls).calls
  returned : call.returned = some (.ok r)
  awaited : ∃ p, call.awaits = some p ∧
    (after C ls).executions[p]? = some ⟨query, session, correlationId, some (E, .ok r)⟩

/-- The response of an execution came of its verdict, and its audit event is in
the ledger. -/
theorem Answered.archived {ls : List (Event ι)} {call : Call} {correlationId : String} {r : Response}
    (h : Answered C ls query session E call correlationId r) :
    ∃ v events event, verdict C E query session = .ok v ∧
      auditEvent C E events query session correlationId v = .ok event ∧ event ∈ (after C ls).records.audit ∧
      r = response E query correlationId v event := by
  obtain ⟨p, -, he⟩ := h.awaited
  exact (after_keeping C ls).settled _ (List.mem_of_getElem? he) E r rfl

/-- The query asks to explain records, its tools succeed in both environments
and return the same but for supports with a recorded decision, and the model is
the same function. -/
structure RecordMode (C : Config ι) (query : Query) (E E' : Environment ι) (executed executed' : List Support) :
    Prop where
  mode : query.mode = .explainRecords
  tools : executeTools C E query = .ok executed
  tools' : executeTools C E' query = .ok executed'
  supports : withoutDecisions executed = withoutDecisions executed'
  generate : E.generate = E'.generate

/-- The environments have the same ids and times. -/
def SameIds (E E' : Environment ι) : Prop :=
  E.requestId = E'.requestId ∧ E.eventId = E'.eventId ∧ E.recordedAt = E'.recordedAt ∧ E.createdAt = E'.createdAt

/-- What two responses have in common, with the ledgers that hold their audit
events and the supports that were removed. -/
structure Indistinct (audit audit' : List AuditEvent) (removed : List Support) (r r' : Response) : Prop where
  /-- They are the same but for the generated ids and the correlation id of the
  call. -/
  same : r' = { r with
    requestId := r'.requestId
    correlationId := r'.correlationId
    auditEventId := r'.auditEventId }
  /-- They and their audit events mention nothing that was removed. -/
  unmentioned : ∃ event ∈ audit, ∃ event' ∈ audit', event.eventId = r.auditEventId ∧ event'.eventId = r'.auditEventId ∧
    ∀ support ∈ removed, ¬r.Mentions support ∧ ¬r'.Mentions support ∧ ¬event.Mentions support ∧ ¬event'.Mentions support

theorem auditEvent_congr (hids : SameIds E E') (events : List AuditEvent) (correlationId : String) (v : Verdict) :
    auditEvent C E events query session correlationId v = auditEvent C E' events query session correlationId v := by
  obtain ⟨hrequest, hevent, hrecorded, -⟩ := hids
  unfold auditEvent
  rw [hrequest, hevent, hrecorded]

theorem requestRecord_congr (hids : SameIds E E') (v : Verdict) (event : AuditEvent) :
    requestRecord C E query session v event = requestRecord C E' query session v event := by
  obtain ⟨hrequest, -, -, hcreated⟩ := hids
  unfold requestRecord
  rw [hrequest, hcreated]

theorem response_congr (hids : SameIds E E') (correlationId : String) (v : Verdict) (event : AuditEvent) :
    response E query correlationId v event = response E' query correlationId v event := by
  unfold response
  rw [hids.1]

/-- With the same ids and times, one verdict is answered, thrown and recorded in
one way. -/
theorem answerOnce_congr {correlationId : String} (records : Records) (hids : SameIds E E')
    (h : verdict C E query session = verdict C E' query session) :
    answerOnce C E records query session correlationId = answerOnce C E' records query session correlationId := by
  unfold answerOnce
  rw [h]
  split
  · rfl
  · unfold recordVerdict
    rw [auditEvent_congr hids]
    split
    · rfl
    · dsimp only
      rw [requestRecord_congr hids, response_congr hids]

/-- **Record mode ignores typed decisions.** The model is asked the same, the
execution comes to the same end wherever ids and times are the same, and the
responses that any two runs return cannot be told apart by what was removed. -/
theorem record_mode_ignores_decisions (C : Config ι) (query : Query) (session : ActorSession) (E E' : Environment ι)
    (executed executed' : List Support) (hmode : RecordMode C query E E' executed executed') :
    modelInputs C E query session = modelInputs C E' query session ∧
      (∀ records correlationId, SameIds E E' → answerOnce C E records query session correlationId =
        answerOnce C E' records query session correlationId) ∧
      ∀ ls ls' call call' correlationId correlationId' r r',
        Answered C ls query session E call correlationId r → Answered C ls' query session E' call' correlationId' r' →
        Indistinct (after C ls).records.audit (after C ls').records.audit
          ((executed ++ executed').filter (·.recordedDecision ≠ none)) r r' := by
  obtain ⟨hexplain, htools, htools', hsupports, hgenerate⟩ := hmode
  have hverdicts := verdict_recordMode session hexplain htools htools' hsupports hgenerate
  refine ⟨hverdicts.2, fun records _ hids => answerOnce_congr records hids hverdicts.1, ?_⟩
  intro ls ls' call call' id id' r r' hanswered hanswered'
  obtain ⟨v, events, event, hv, hevent, hmem, rfl⟩ := hanswered.archived
  obtain ⟨v', events', event', hv', hevent', hmem', rfl⟩ := hanswered'.archived
  have hsame : v = v' := Except.ok.inj (hv.symm.trans (hverdicts.1.trans hv'))
  subst hsame
  have hkept : v.supports = withoutDecisions executed := by
    rw [(verdict_bound hv).1, responseSupports, htools]
    simp only [hexplain]
    rfl
  have hcites := (verdict_grounded hv).cites
  refine ⟨rfl, event, hmem, event', hmem', rfl, rfl, fun support hremoved => ?_⟩
  obtain ⟨hexecuted, hdecision⟩ := List.mem_filter.mp hremoved
  have hunnamed : ∀ kept ∈ v.supports, ¬kept.Names support := by
    intro kept hkeptMem
    rw [hkept] at hkeptMem
    obtain hleft | hright := List.mem_append.mp hexecuted
    · exact removed_unnamed (executeTools_distinct htools) hleft (of_decide_eq_true hdecision) hkeptMem
    · exact removed_unnamed (executeTools_distinct htools') hright (of_decide_eq_true hdecision)
        (hsupports ▸ hkeptMem)
  exact ⟨response_unmentioned hcites hunnamed, response_unmentioned hcites hunnamed,
    event_unmentioned hkept hunnamed hevent, event_unmentioned (hkept.trans hsupports) hunnamed hevent'⟩

/-- An inspection record: a support without a recorded decision. -/
def inspectionSupport : Support :=
  { sampleSupport with
    supportId := "support-2"
    resourceId := "urn:evllm:inspection:1"
    recordedDecision := none
    content := "The battery was inspected." }

def inspectionCandidate : Candidate where
  outcome := .answer
  decisionCode := none
  summary := "The battery was inspected."
  claims := [⟨"claim-1", "The battery was inspected.", ["support-2"]⟩]
  evidenceReasonCodes := []
  warnings := []
  missingRequirements := []

def inspectionEnvironment (supports : List Support) (id : String) : Environment Support where
  authorize _ := .ok true
  execute _ := .ok supports
  generate input := if input.supports = [inspectionSupport] then
      .ok ⟨inspectionCandidate, "model", "provider", none, none, none⟩
    else
      .ok ⟨resaleCandidate, "model", "provider", none, none, none⟩
  requestId := id
  eventId := id
  recordedAt := 2
  createdAt := 2

def inspectionQuery : Query := { sampleQuery with mode := .explainRecords, idempotencyKey := none }

def inspectionRun (supports : List Support) (id : String) : List (Event Support) :=
  [.answer inspectionQuery sampleSession id, .settle 0 (inspectionEnvironment supports id), .resume 0]

def inspectionAnswer (supports : List Support) (id : String) : Except Failure Response :=
  (answerOnce sampleConfig (inspectionEnvironment supports id) ⟨[], JsMap.empty⟩ inspectionQuery sampleSession id).1

theorem inspectionRun_answered {supports : List Support} {id : String} {r : Response}
    (h : inspectionAnswer supports id = .ok r) :
    Answered sampleConfig (inspectionRun supports id) inspectionQuery sampleSession
      (inspectionEnvironment supports id) ⟨inspectionQuery, sampleSession, some 0, none, some (.ok r)⟩ id r := by
  have hcalls : (after sampleConfig (inspectionRun supports id)).calls =
      [⟨inspectionQuery, sampleSession, some 0, none, some (inspectionAnswer supports id)⟩] := rfl
  have hexecutions : (after sampleConfig (inspectionRun supports id)).executions =
      [⟨inspectionQuery, sampleSession, id,
        some (inspectionEnvironment supports id, inspectionAnswer supports id)⟩] := rfl
  rw [h] at hcalls hexecutions
  refine ⟨?_, rfl, 0, rfl, ?_⟩
  · rw [hcalls]
    exact List.mem_singleton_self _
  · rw [hexecutions]
    rfl

/-- One execution sees the inspection record only, the other a recorded
decision beside it: both answer from the inspection. -/
theorem inspection_answered_alike :
    ∃ r r', inspectionAnswer [inspectionSupport] "1" = .ok r ∧
      inspectionAnswer [inspectionSupport, sampleSupport] "2" = .ok r' ∧ r'.summary = "The battery was inspected." ∧
      Indistinct (after sampleConfig (inspectionRun [inspectionSupport] "1")).records.audit
        (after sampleConfig (inspectionRun [inspectionSupport, sampleSupport] "2")).records.audit
        [sampleSupport] r r' := by
  have hfirst : (inspectionAnswer [inspectionSupport] "1").toOption.isSome := by decide +kernel
  have hsecond : (inspectionAnswer [inspectionSupport, sampleSupport] "2").toOption.map Response.summary =
      some "The battery was inspected." := by decide +kernel
  obtain ⟨r, hr⟩ := Option.isSome_iff_exists.mp hfirst
  obtain ⟨r', hr', hsummary⟩ := Option.map_eq_some_iff.mp hsecond
  rw [toOption_eq_some] at hr hr'
  have htools : ∀ supports id, executeTools sampleConfig (inspectionEnvironment supports id) inspectionQuery =
      supports.foldlM (collectSupport sampleConfig) [] := by
    intro supports id
    exact bind_pure _
  have hmode : RecordMode sampleConfig inspectionQuery (inspectionEnvironment [inspectionSupport] "1")
      (inspectionEnvironment [inspectionSupport, sampleSupport] "2") [inspectionSupport]
      [inspectionSupport, sampleSupport] := by
    refine ⟨rfl, ?_, ?_, by decide +kernel, rfl⟩
    · rw [htools]
      decide +kernel
    · rw [htools]
      decide +kernel
  have hindistinct := (record_mode_ignores_decisions sampleConfig inspectionQuery sampleSession _ _ _ _ hmode).2.2
    _ _ _ _ _ _ r r' (inspectionRun_answered hr) (inspectionRun_answered hr')
  exact ⟨r, r', hr, hr', hsummary, hindistinct⟩

end Assistant
end Evllm
