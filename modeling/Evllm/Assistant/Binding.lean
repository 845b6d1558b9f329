/-
# The model cannot influence a decision

A response names a decision only where the active supports record one, the
same one, and then its outcome and reason codes are the recorded ones
(`answerOnce_bound`). This holds of every response that any call returns in any
run of the service, repeated requests included (`model_cannot_decide`). What is
released of two candidates over the same record differs at most in the
explanations (`release_decisionPart`).
-/
import Evllm.Assistant.Service

namespace Evllm
namespace Assistant

open Lib

/-! ### The recorded decision -/

/-- Two records of one decision: the reason codes are compared as sets. -/
def SameDecision (d d' : RecordedDecision) : Prop :=
  d.outcome = d'.outcome ∧ d.code = d'.code ∧ ∀ code, code ∈ d.reasonCodes ↔ code ∈ d'.reasonCodes

/-- `d` is recorded by an active support, and no active support records another
decision. -/
def UniqueActiveDecision (supports : List Support) (d : RecordedDecision) : Prop :=
  (∃ support ∈ supports, support.activeDecision = some d) ∧
    ∀ support ∈ supports, ∀ d', support.activeDecision = some d' → SameDecision d' d

theorem mem_sortReasonCodes {code : EvidenceReasonCode} {codes : List EvidenceReasonCode} :
    code ∈ sortReasonCodes codes ↔ code ∈ codes :=
  (List.perm_insertionSort _ codes).mem_iff

theorem mem_normalizeRecordedDecision {code : EvidenceReasonCode} {d : RecordedDecision} :
    code ∈ (normalizeRecordedDecision d).reasonCodes ↔ code ∈ d.reasonCodes := by
  rw [normalizeRecordedDecision, mem_sortReasonCodes, List.mem_eraseDups]

theorem sameDecision_of_normalize_eq {d d' : RecordedDecision}
    (h : normalizeRecordedDecision (normalizeRecordedDecision d) = normalizeRecordedDecision (normalizeRecordedDecision d')) :
    SameDecision d d' := by
  have houtcome := congrArg RecordedDecision.outcome h
  have hcode := congrArg RecordedDecision.code h
  refine ⟨houtcome, hcode, fun code => ?_⟩
  have hcodes := congrArg (fun d => code ∈ RecordedDecision.reasonCodes d) h
  simpa only [mem_normalizeRecordedDecision, eq_iff_iff] using hcodes

/-- A consistent resolution is the decision that the active supports agree on. -/
theorem resolve_consistent {supports : List Support} {d : RecordedDecision}
    (h : resolveActiveRecordedDecision supports = .consistent d) :
    ∃ recorded, UniqueActiveDecision supports recorded ∧ d = normalizeRecordedDecision recorded := by
  unfold resolveActiveRecordedDecision at h
  rcases hds : supports.filterMap Support.activeDecision with _ | ⟨recorded, rest⟩
  · simp [hds] at h
  rw [hds, List.map_cons] at h
  dsimp only at h
  split at h
  · simp at h
  next hall =>
  obtain rfl : normalizeRecordedDecision recorded = d := by simpa using h
  refine ⟨recorded, ⟨?_, fun support hmem d' hd' => ?_⟩, rfl⟩
  · have hfirst : recorded ∈ supports.filterMap Support.activeDecision := by simp [hds]
    simpa using hfirst
  · have hd'mem : d' ∈ recorded :: rest := by
      rw [← hds]
      exact List.mem_filterMap.mpr ⟨support, hmem, hd'⟩
    have hkey : ¬recordedDecisionKey (normalizeRecordedDecision d') ≠
        recordedDecisionKey (normalizeRecordedDecision recorded) := fun hne =>
      hall (List.any_eq_true.mpr ⟨normalizeRecordedDecision d',
        by rw [← List.map_cons]; exact List.mem_map_of_mem hd'mem, by simpa using hne⟩)
    exact sameDecision_of_normalize_eq (not_not.mp hkey)

/-- In record mode no support carries a typed decision. -/
theorem resolve_explainRecords (supports : List Support) :
    resolveActiveRecordedDecision (supportsForQueryMode supports .explainRecords) = .absent := by
  have hnone : (supportsForQueryMode supports .explainRecords).filterMap Support.activeDecision = [] := by
    refine List.filterMap_eq_nil_iff.mpr fun support hsupport => ?_
    have hplain := (List.mem_filter.mp hsupport).2
    simp only [decide_eq_true_eq] at hplain
    simp [Support.activeDecision, hplain]
  simp [resolveActiveRecordedDecision, hnone]

/-! ### Release -/

variable {T : TextChecks} {candidate : Candidate} {supports : List Support} {question : String}
  {d : RecordedDecision} {r : Release}

/-- What a candidate says about the decision itself. -/
structure DecisionPart where
  outcome : Outcome
  decisionCode : Option String
  summary : String
  evidenceReasonCodes : List EvidenceReasonCode
  firstClaim : Option Claim

def Candidate.decisionPart (candidate : Candidate) : DecisionPart :=
  ⟨candidate.outcome, candidate.decisionCode, candidate.summary, candidate.evidenceReasonCodes, candidate.claims.head?⟩

/-- The part that the record fixes, with its statement as summary. -/
def recordedPart (T : TextChecks) (supports : List Support) (d : RecordedDecision) (statement : String) :
    DecisionPart where
  outcome := d.outcome
  decisionCode := some d.code
  summary := statement
  evidenceReasonCodes := d.reasonCodes
  firstClaim := some ⟨"claim-1", statement, ((decisionSupports supports d).insertionSort fun left right =>
    T.localeCompare left.supportId right.supportId ≤ 0).map (·.supportId)⟩

theorem materializeDecision_part {candidate' : Candidate} {screen : Bool}
    (h : materializeDecision T candidate supports d screen = .ok candidate') :
    ∃ statement, recordedDecisionStatement d = .ok statement ∧
      candidate'.decisionPart = recordedPart T supports d statement := by
  simp only [materializeDecision, bind_eq_ok, pure_eq_ok] at h
  obtain ⟨statement, hstatement, explanations, -, rfl⟩ := h
  exact ⟨statement, hstatement, rfl⟩

theorem materialize_of_consistent {screen : Bool} {m : Candidate × Resolution}
    (hres : resolveActiveRecordedDecision supports = .consistent d)
    (h : materializeAssistantCandidateWithRecordedDecision T candidate supports screen = .ok m) :
    m.2 = .consistent d ∧ ∃ statement, recordedDecisionStatement d = .ok statement ∧
      m.1.decisionPart = recordedPart T supports d statement := by
  simp only [materializeAssistantCandidateWithRecordedDecision, hres, bind_eq_ok, pure_eq_ok] at h
  obtain ⟨candidate', hcandidate, rfl⟩ := h
  exact ⟨rfl, materializeDecision_part hcandidate⟩

/-- **What is released over a record is the record's.** Whatever the model
wrote, a release with screening passes validation, and its decision part is
fixed by the supports. -/
theorem release_decisionPart (hres : resolveActiveRecordedDecision supports = .consistent d)
    (h : releaseAssistantCandidateWithRecordedDecision T candidate supports question true = .ok r) :
    r.validationCodes = [] ∧ r.resolution = .consistent d ∧ ∃ statement, recordedDecisionStatement d = .ok statement ∧
      r.candidate.decisionPart = recordedPart T supports d statement := by
  simp only [releaseAssistantCandidateWithRecordedDecision, bind_eq_ok, if_true] at h
  obtain ⟨⟨materialized, resolution⟩, hm, codes, -, h⟩ := h
  obtain ⟨rfl, hpart⟩ := materialize_of_consistent hres hm
  rcases codes with _ | ⟨code, codes⟩
  · obtain rfl : Release.mk materialized materialized [] (.consistent d) false = r := by
      simpa [releaseValidated] using h
    exact ⟨rfl, rfl, hpart⟩
  · -- the explanations failed: the record alone is released, or nothing
    simp only [releaseValidated, releaseFixedOnly, bind_eq_ok, throwIf_eq_ok, pure_eq_ok] at h
    obtain ⟨fixedOnly, hfixed, -, -, -, -, rfl⟩ := h
    exact ⟨rfl, rfl, (materialize_of_consistent hres hfixed).2⟩

theorem sortStrings_eq_nil {strings : List String} : sortStrings strings = [] ↔ strings = [] := by
  have hperm := List.perm_insertionSort (fun a b => ¬utf16 b < utf16 a) strings
  exact ⟨fun h => (h ▸ hperm : [].Perm strings).nil_eq.symm, fun h => by rw [h]; rfl⟩

theorem eraseDups_eq_nil {strings : List String} (h : strings.eraseDups = []) : strings = [] := by
  refine List.eq_nil_iff_forall_not_mem.mpr fun s hs => ?_
  have : s ∈ strings.eraseDups := List.mem_eraseDups.mpr hs
  simp [h] at this

/-- A candidate that passes validation says of the decision what the record says. -/
theorem validate_decisionFields (h : validateAssistantCandidate T candidate supports question = .ok []) :
    decisionFieldCodes candidate (resolveActiveRecordedDecision supports) = [] := by
  simp only [validateAssistantCandidate, bind_eq_ok, pure_eq_ok] at h
  obtain ⟨claimCodes, -, statement, -, h⟩ := h
  have hcodes := eraseDups_eq_nil (sortStrings_eq_nil.mp h)
  simp only [List.append_eq_nil_iff] at hcodes
  exact hcodes.1.1.1.2

/-- Without a record a candidate that names a decision is not released. -/
theorem release_of_absent (hres : resolveActiveRecordedDecision supports = .absent)
    (h : releaseAssistantCandidateWithRecordedDecision T candidate supports question true = .ok r)
    (hvalid : r.validationCodes = []) : r.candidate.decisionCode = none := by
  simp only [releaseAssistantCandidateWithRecordedDecision, bind_eq_ok, if_true,
    materializeAssistantCandidateWithRecordedDecision, hres] at h
  obtain ⟨m, hm, codes, hcodes, h⟩ := h
  obtain rfl : (candidate, Resolution.absent) = m := by simpa using hm
  have hr : Release.mk candidate candidate codes .absent false = r := by
    rcases codes with _ | ⟨code, codes⟩ <;> simpa [releaseValidated] using h
  subst hr
  obtain rfl : codes = [] := hvalid
  have hfields := validate_decisionFields hcodes
  rw [hres, decisionFieldCodes, pushIf] at hfields
  by_contra hsome
  rw [if_pos hsome] at hfields
  simp at hfields

/-! ### One execution -/

/-- A response names no decision, or it explains the one that the active
supports record. -/
def BoundToRecord (mode : QueryMode) (supports : List Support) (r : Response) : Prop :=
  r.decisionCode = none ∨
    ∃ recorded, UniqueActiveDecision supports recorded ∧ mode = .explainRecordedDecision ∧
      r.decisionCode = some recorded.code ∧ r.outcome = recorded.outcome ∧
      ∀ code, code ∈ r.evidenceReasonCodes ↔ code ∈ recorded.reasonCodes

variable {ι : Type} {C : Config ι} {E : Environment ι} {query : Query} {session : ActorSession}

theorem control_decisionCode {code : String} {result : ModelResult} (h : control C query supports = some (code, result)) :
    result.candidate.decisionCode = none := by
  unfold control at h
  -- every control answers with a refusal or a deterministic result without a code
  have hinj : ∀ {c : String} {a : ModelResult}, some (c, a) = some (code, result) → a = result :=
    fun heq => (Prod.mk.inj (Option.some.inj heq)).2
  split at h
  · rw [← hinj h]
    rfl
  · split_ifs at h
    · rw [← hinj h]
      rfl
    · rw [← hinj h]
      rfl
    · rw [← hinj h]
      rfl
    · split at h
      · rw [← hinj h]
        rfl
      · rw [← hinj h]
        rfl
      · simp at h

theorem control_conflicting (C : Config ι) (query : Query)
    (hres : resolveActiveRecordedDecision supports = .conflicting) :
    (control C query supports).isSome := by
  unfold control
  split
  · rfl
  · split_ifs
    · rfl
    · rfl
    · rfl
    · rw [hres]
      rfl

/-- The verdict names no decision, or it explains the resolved one. -/
def Verdict.Bound (mode : QueryMode) (v : Verdict) : Prop :=
  v.result.candidate.decisionCode = none ∨
    ∃ d, resolveActiveRecordedDecision v.supports = .consistent d ∧ mode = .explainRecordedDecision ∧
      v.result.candidate.decisionCode = some d.code ∧ v.result.candidate.outcome = d.outcome ∧
      v.result.candidate.evidenceReasonCodes = d.reasonCodes

theorem onFailure_bound {toolNames : List ToolName} {e : Failure} {v : Verdict} {mode : QueryMode}
    (h : onFailure supports toolNames e = .ok v) : v.supports = supports ∧ v.Bound mode := by
  unfold onFailure at h
  split at h
  · simp at h
  · obtain rfl := by simpa using h
    exact ⟨rfl, .inl rfl⟩

theorem consultModel_bound {toolNames : List ToolName} {v : Verdict} {executed : List Support}
    (hsupports : supports = supportsForQueryMode executed query.mode) (hcontrol : control C query supports = none)
    (h : consultModel C E query session supports toolNames = .ok v) : v.supports = supports ∧ v.Bound query.mode := by
  simp only [consultModel, bind_eq_ok] at h
  obtain ⟨result, -, release, hrelease, h⟩ := h
  by_cases hvalid : release.validationCodes = []
  · simp only [hvalid, if_true, pure_eq_ok] at h
    subst h
    refine ⟨rfl, ?_⟩
    rcases hres : resolveActiveRecordedDecision supports with _ | d | _
    · exact .inl (release_of_absent hres hrelease hvalid)
    · -- typed decisions are only seen in the mode that explains them
      have hmode : query.mode = .explainRecordedDecision := by
        rcases hm : query.mode with _ | _
        · rw [hsupports, hm, resolve_explainRecords] at hres
          simp at hres
        · rfl
      obtain ⟨-, -, statement, -, hpart⟩ := release_decisionPart hres hrelease
      exact .inr ⟨d, hres, hmode, congrArg DecisionPart.decisionCode hpart, congrArg DecisionPart.outcome hpart,
        congrArg DecisionPart.evidenceReasonCodes hpart⟩
    · have hsome := control_conflicting C query hres
      rw [hcontrol] at hsome
      simp at hsome
  · simp only [hvalid, if_false, pure_eq_ok] at h
    subst h
    exact ⟨rfl, .inl rfl⟩

theorem verdict_bound {v : Verdict} (h : verdict C E query session = .ok v) :
    v.supports = responseSupports C E query ∧ v.Bound query.mode := by
  unfold verdict at h
  unfold responseSupports
  rcases hexec : executeTools C E query with e | executed
  · rw [hexec] at h
    exact onFailure_bound h
  · simp only [hexec] at h
    rcases hcontrol : control C query (supportsForQueryMode executed query.mode) with _ | ⟨code, result⟩
    · simp only [hcontrol] at h
      split at h
      · exact onFailure_bound h
      next hmodel =>
        obtain rfl := by simpa using h
        exact consultModel_bound rfl hcontrol hmodel
    · simp only [hcontrol, Except.ok.injEq] at h
      subst h
      exact ⟨rfl, .inl (control_decisionCode hcontrol)⟩

/-- **One execution is bound to the record**, whatever the tools and the model
return. -/
theorem answerOnce_bound {records : Records} {correlationId : String} {r : Response}
    (h : (answerOnce C E records query session correlationId).1 = .ok r) :
    BoundToRecord query.mode (responseSupports C E query) r := by
  unfold answerOnce at h
  split at h
  · simp at h
  next v hv =>
  obtain ⟨hsupports, hbound⟩ := verdict_bound hv
  unfold recordVerdict at h
  split at h
  · simp at h
  next event _ =>
  dsimp only at h
  split at h
  · simp at h
  · obtain rfl := by simpa using h
    rcases hbound with hnone | ⟨d, hres, hmode, hcode, houtcome, hreasons⟩
    · exact .inl hnone
    · rw [hsupports] at hres
      obtain ⟨recorded, hunique, rfl⟩ := resolve_consistent hres
      refine .inr ⟨recorded, hunique, hmode, hcode, houtcome, fun code => ?_⟩
      have hmem : code ∈ v.result.candidate.evidenceReasonCodes ↔ code ∈ recorded.reasonCodes := by
        rw [hreasons, mem_normalizeRecordedDecision]
      exact hmem

/-! ### Runs -/

/-- The requests made in a run. -/
def requestsOf : List (Event ι) → List FingerprintInput
  | [] => []
  | .answer query session _ :: ls => fingerprintInput query session :: requestsOf ls
  | _ :: ls => requestsOf ls

/-- No two of the requests have one fingerprint. -/
def CollisionFree (C : Config ι) (requests : List FingerprintInput) : Prop :=
  ∀ a ∈ requests, ∀ b ∈ requests, ∀ f, C.fingerprint a = .ok f → C.fingerprint b = .ok f → a = b

/-- A kept answer is the promise of a request with its fingerprint. -/
def Keeps (C : Config ι) (requests : List FingerprintInput) (executions : List (Execution ι)) (entry : KeptAnswer) :
    Prop :=
  ∃ e, executions[entry.execution]? = some e ∧ fingerprintInput e.query e.session ∈ requests ∧
    C.fingerprint (fingerprintInput e.query e.session) = .ok entry.fingerprint

/-- A call awaits an execution of its own query, and returns its response. -/
structure Served (executions : List (Execution ι)) (call : Call) : Prop where
  awaiting : ∀ p, call.awaits = some p → ∃ e, executions[p]? = some e ∧ e.query = call.query
  returned : ∀ r, call.returned = some (.ok r) →
    ∃ p e E, call.awaits = some p ∧ executions[p]? = some e ∧ e.settled = some (E, .ok r)

/-- The invariant of a run whose requests are among `requests`. -/
structure Faithful (C : Config ι) (requests : List FingerprintInput) (S : Service ι) : Prop where
  keeps : ∀ key entry, S.idempotentAnswers.get key = some entry → Keeps C requests S.executions entry
  served : ∀ call ∈ S.calls, Served S.executions call
  bound : ∀ e ∈ S.executions, ∀ E r, e.settled = some (E, .ok r) →
    BoundToRecord e.query.mode (responseSupports C E e.query) r

/-- Executions are only added and settled. -/
def Grows (xs ys : List (Execution ι)) : Prop :=
  ∀ (p : ℕ) (e : Execution ι), xs[p]? = some e → ∃ e', ys[p]? = some e' ∧ e'.query = e.query ∧
    e'.session = e.session ∧ ∀ x, e.settled = some x → e'.settled = some x

variable {requests : List FingerprintInput} {xs ys : List (Execution ι)} {S : Service ι}

theorem Grows.refl (xs : List (Execution ι)) : Grows xs xs :=
  fun _ e h => ⟨e, h, rfl, rfl, fun _ hx => hx⟩

theorem grows_append (xs : List (Execution ι)) (e : Execution ι) : Grows xs (xs ++ [e]) := by
  intro p e' h
  have hp : p < xs.length := (List.getElem?_eq_some_iff.mp h).1
  exact ⟨e', by rw [List.getElem?_append_left hp, h], rfl, rfl, fun _ hx => hx⟩

/-- Settling a pending execution keeps the query and the session. -/
theorem grows_set {p : ℕ} {e : Execution ι} {x : Environment ι × Except Failure Response}
    (h : xs[p]? = some e) (hpending : e.settled = none) : Grows xs (xs.set p { e with settled := some x }) := by
  intro q e' hq
  by_cases hpq : p = q
  · subst hpq
    obtain rfl : e = e' := Option.some.inj (h.symm.trans hq)
    have hp : p < xs.length := (List.getElem?_eq_some_iff.mp h).1
    refine ⟨{ e with settled := some x }, by simp [hp], rfl, rfl, fun y hy => ?_⟩
    simp [hpending] at hy
  · exact ⟨e', by rw [List.getElem?_set_ne hpq, hq], rfl, rfl, fun _ hx => hx⟩

theorem Keeps.mono {entry : KeptAnswer} (hg : Grows xs ys) (h : Keeps C requests xs entry) :
    Keeps C requests ys entry := by
  obtain ⟨e, he, hmem, hf⟩ := h
  obtain ⟨e', he', hquery, hsession, -⟩ := hg _ e he
  exact ⟨e', he', by rwa [hquery, hsession], by rwa [hquery, hsession]⟩

theorem Served.mono {call : Call} (hg : Grows xs ys) (h : Served xs call) : Served ys call := by
  refine ⟨fun p hp => ?_, fun r hr => ?_⟩
  · obtain ⟨e, he, hquery⟩ := h.awaiting p hp
    obtain ⟨e', he', hquery', -⟩ := hg p e he
    exact ⟨e', he', hquery'.trans hquery⟩
  · obtain ⟨p, e, E, hp, he, hsettled⟩ := h.returned r hr
    obtain ⟨e', he', -, -, hkeep⟩ := hg p e he
    exact ⟨p, e', E, hp, he', hkeep _ hsettled⟩

/-- A call that has not returned a response is served if what it awaits is its own. -/
theorem served_of_awaiting {call : Call} (hr : ∀ r, call.returned ≠ some (.ok r))
    (h : ∀ p, call.awaits = some p → ∃ e, xs[p]? = some e ∧ e.query = call.query) : Served xs call :=
  ⟨h, fun r hret => absurd hret (hr r)⟩

theorem Faithful.addCall {call : Call} (h : Faithful C requests S) (hcall : Served S.executions call) :
    Faithful C requests { S with calls := S.calls ++ [call] } := by
  refine ⟨h.keeps, fun call' hmem => ?_, h.bound⟩
  rcases List.mem_append.mp hmem with hold | hnew
  · exact h.served call' hold
  · rw [List.mem_singleton.mp hnew]
    exact hcall

theorem Faithful.startExecution (h : Faithful C requests S) (query : Query) (session : ActorSession)
    (correlationId : String) (keptUnder : Option String) :
    Faithful C requests (startExecution S query session correlationId keptUnder) := by
  have hg := grows_append S.executions ⟨query, session, correlationId, none⟩
  have hS : Faithful C requests { S with executions := S.executions ++ [⟨query, session, correlationId, none⟩] } := by
    refine ⟨fun key entry he => (h.keeps key entry he).mono hg, fun call hc => (h.served call hc).mono hg, ?_⟩
    intro e he E r hsettled
    rcases List.mem_append.mp he with hold | hnew
    · exact h.bound e hold E r hsettled
    · rw [List.mem_singleton.mp hnew] at hsettled
      simp at hsettled
  refine hS.addCall (served_of_awaiting (by simp) fun p hp => ?_)
  obtain rfl : S.executions.length = p := by simpa using hp
  exact ⟨⟨query, session, correlationId, none⟩, by simp, rfl⟩

theorem Faithful.refuseCall {e : Failure} (h : Faithful C requests S) :
    Faithful C requests (refuseCall S query session e) :=
  h.addCall (served_of_awaiting (by simp) (by simp))

/-- A call that joins an execution with its own fingerprint joins its own query. -/
theorem Faithful.joinExecution {entry : KeptAnswer} (hfree : CollisionFree C requests)
    (hmem : fingerprintInput query session ∈ requests) (h : Faithful C requests S)
    (hentry : Keeps C requests S.executions entry)
    (hf : C.fingerprint (fingerprintInput query session) = .ok entry.fingerprint) :
    Faithful C requests (joinExecution S query session entry.execution) := by
  refine h.addCall (served_of_awaiting (by simp) fun p hp => ?_)
  obtain rfl : entry.execution = p := by simpa using hp
  obtain ⟨e, he, hemem, hef⟩ := hentry
  have hsame := hfree _ hemem _ hmem _ hef hf
  exact ⟨e, he, congrArg FingerprintInput.query hsame⟩

theorem Faithful.answerKept {correlationId key fingerprint : String} (hfree : CollisionFree C requests)
    (hmem : fingerprintInput query session ∈ requests) (h : Faithful C requests S)
    (hf : C.fingerprint (fingerprintInput query session) = .ok fingerprint) :
    Faithful C requests (answerKept S query session correlationId key fingerprint) := by
  unfold Assistant.answerKept
  split
  next existing hget =>
    split_ifs with hne
    · exact h.refuseCall
    · rw [not_not] at hne
      exact h.joinExecution hfree hmem (h.keeps key existing hget) (by rw [hne]; exact hf)
  next =>
    have hstart := h.startExecution query session correlationId (some key)
    refine ⟨fun key' entry hget => ?_, hstart.served, hstart.bound⟩
    rw [JsMap.get_set] at hget
    split_ifs at hget with hkey
    · -- the new entry keeps the execution that was just started
      obtain rfl := Option.some.inj hget
      refine ⟨⟨query, session, correlationId, none⟩, ?_, hmem, hf⟩
      simp [Assistant.startExecution]
    · exact hstart.keeps key' entry hget

theorem Faithful.answer {correlationId : String} (hfree : CollisionFree C requests)
    (hmem : fingerprintInput query session ∈ requests) (h : Faithful C requests S) :
    Faithful C requests (answer C S query session correlationId) := by
  unfold Assistant.answer
  split
  · exact h.startExecution query session correlationId none
  · split
    · exact h.refuseCall
    next hf => exact h.answerKept hfree hmem hf

theorem Faithful.settle {p : ℕ} (h : Faithful C requests S) : Faithful C requests (settle C E S p) := by
  unfold Assistant.settle
  split
  next query session correlationId hp =>
    have hg : Grows S.executions (S.executions.set p ⟨query, session, correlationId,
        some (E, (answerOnce C E S.records query session correlationId).1)⟩) := grows_set hp rfl
    refine ⟨fun key entry he => (h.keeps key entry he).mono hg, fun call hc => (h.served call hc).mono hg, ?_⟩
    intro e he E' r hsettled
    rcases List.mem_or_eq_of_mem_set he with hold | rfl
    · exact h.bound e hold E' r hsettled
    · obtain ⟨rfl, hr⟩ := Prod.mk.inj (Option.some.inj hsettled)
      exact answerOnce_bound hr
  · exact h

theorem dropFailed_get {call : Call} {p : ℕ} {result : Except Failure Response} {key : String} {entry : KeptAnswer}
    (h : (dropFailed S call p result).get key = some entry) : S.idempotentAnswers.get key = some entry := by
  unfold dropFailed at h
  split at h
  · exact h
  · split at h
    · exact h
    · split_ifs at h
      · rw [JsMap.get_delete] at h
        split_ifs at h
        exact h
      · exact h

theorem awaited_eq_some {call : Call} {p : ℕ} {result : Except Failure Response}
    (h : awaited S call = some (p, result)) :
    ∃ e E, call.awaits = some p ∧ S.executions[p]? = some e ∧ e.settled = some (E, result) := by
  simp only [awaited, Option.bind_eq_some_iff, Option.map_eq_some_iff, Prod.mk.injEq] at h
  obtain ⟨_, hawaits, e, he, ⟨E, _⟩, hsettled, rfl, rfl⟩ := h
  exact ⟨e, E, hawaits, he, hsettled⟩

theorem Faithful.resume {c : ℕ} (h : Faithful C requests S) : Faithful C requests (resume S c) := by
  unfold Assistant.resume
  split
  · exact h
  next call hcall =>
    split
    next p result _ hawaited =>
      refine ⟨fun key entry he => h.keeps key entry (dropFailed_get he), fun call' hmem => ?_, h.bound⟩
      rcases List.mem_or_eq_of_mem_set hmem with hold | rfl
      · exact h.served call' hold
      · obtain ⟨e, E, hawaits, he, hsettled⟩ := awaited_eq_some hawaited
        refine ⟨(h.served call (List.mem_of_getElem? hcall)).awaiting, fun r hr => ?_⟩
        obtain rfl : result = .ok r := Option.some.inj hr
        exact ⟨p, e, E, hawaits, he, hsettled⟩
    · exact h

/-- Every event keeps the invariant. -/
theorem Faithful.step {l : Event ι} (hfree : CollisionFree C requests)
    (hmem : ∀ a ∈ requestsOf [l], a ∈ requests) (h : Faithful C requests S) : Faithful C requests (step C S l) := by
  cases l with
  | answer query session correlationId => exact h.answer hfree (hmem _ (by simp [requestsOf]))
  | settle p environment => exact h.settle
  | resume c => exact h.resume

theorem faithful_newService : Faithful C requests (newService : Service ι) :=
  ⟨fun _ _ h => by simp [newService] at h, fun _ h => by simp [newService] at h,
    fun _ h => by simp [newService] at h⟩

theorem requestsOf_append : ∀ ls ms : List (Event ι), requestsOf (ls ++ ms) = requestsOf ls ++ requestsOf ms
  | [], _ => rfl
  | .answer .. :: ls, ms => by simp [requestsOf, requestsOf_append ls ms]
  | .settle .. :: ls, ms => by simp [requestsOf, requestsOf_append ls ms]
  | .resume .. :: ls, ms => by simp [requestsOf, requestsOf_append ls ms]

theorem faithful_run (hfree : CollisionFree C requests) : ∀ (ms : List (Event ι)) {S : Service ι},
    (∀ a ∈ requestsOf ms, a ∈ requests) → Faithful C requests S → Faithful C requests (run (Assistant.step C) S ms)
  | [], _, _, hS => hS
  | m :: ms, _, hms, hS => by
    have hsplit : requestsOf (m :: ms) = requestsOf [m] ++ requestsOf ms := requestsOf_append [m] ms
    rw [hsplit] at hms
    exact faithful_run hfree ms (fun a ha => hms a (List.mem_append_right _ ha))
      (hS.step hfree fun a ha => hms a (List.mem_append_left _ ha))

theorem faithful_after (ls : List (Event ι)) (hfree : CollisionFree C (requestsOf ls)) :
    Faithful C (requestsOf ls) (after C ls) :=
  faithful_run hfree ls (fun _ ha => ha) faithful_newService

/-- **The model cannot influence a decision.** Every response that a call
returns in any run is bound to the record its execution used; and over one
consistent record two candidates are released with the same outcome, code,
summary, reason codes and first claim, and without a validation code. -/
theorem model_cannot_decide (C : Config ι) :
    (∀ ls : List (Event ι), CollisionFree C (requestsOf ls) →
      ∀ call ∈ (after C ls).calls, ∀ r, call.returned = some (.ok r) →
        ∃ p e E, call.awaits = some p ∧ (after C ls).executions[p]? = some e ∧ e.settled = some (E, .ok r) ∧
          BoundToRecord call.query.mode (responseSupports C E call.query) r) ∧
    ∀ (supports : List Support) (question : String) (d : RecordedDecision) (candidate candidate' : Candidate)
      (r r' : Release), resolveActiveRecordedDecision supports = .consistent d →
      releaseAssistantCandidateWithRecordedDecision C.text candidate supports question true = .ok r →
      releaseAssistantCandidateWithRecordedDecision C.text candidate' supports question true = .ok r' →
        r.candidate.outcome = r'.candidate.outcome ∧ r.candidate.decisionCode = r'.candidate.decisionCode ∧
        r.candidate.summary = r'.candidate.summary ∧
        r.candidate.evidenceReasonCodes = r'.candidate.evidenceReasonCodes ∧
        r.candidate.claims.head? = r'.candidate.claims.head? ∧ r.candidate.claims ≠ [] ∧
        r.validationCodes = [] ∧ r'.validationCodes = [] := by
  refine ⟨fun ls hfree call hcall r hr => ?_, fun supports question d candidate candidate' r r' hres h h' => ?_⟩
  · have hS := faithful_after ls hfree
    obtain ⟨p, e, E, hawaits, he, hsettled⟩ := (hS.served call hcall).returned r hr
    obtain ⟨e', he', hquery⟩ := (hS.served call hcall).awaiting p hawaits
    obtain rfl : e = e' := Option.some.inj (he.symm.trans he')
    have hbound := hS.bound e (List.mem_of_getElem? he) E r hsettled
    rw [hquery] at hbound
    exact ⟨p, e, E, hawaits, he, hsettled, hbound⟩
  · obtain ⟨hvalid, -, statement, hstatement, hpart⟩ := release_decisionPart hres h
    obtain ⟨hvalid', -, statement', hstatement', hpart'⟩ := release_decisionPart hres h'
    obtain rfl : statement = statement' := Except.ok.inj (hstatement.symm.trans hstatement')
    have hsame : r.candidate.decisionPart = r'.candidate.decisionPart := hpart.trans hpart'.symm
    have hfirst : r.candidate.claims.head? = (recordedPart C.text supports d statement).firstClaim :=
      congrArg DecisionPart.firstClaim hpart
    refine ⟨congrArg DecisionPart.outcome hsame, congrArg DecisionPart.decisionCode hsame,
      congrArg DecisionPart.summary hsame, congrArg DecisionPart.evidenceReasonCodes hsame,
      congrArg DecisionPart.firstClaim hsame, fun hnil => ?_, hvalid, hvalid'⟩
    rw [hnil] at hfirst
    simp [recordedPart] at hfirst

/-! A battery whose record withholds an answer, and a model that permits its
resale all the same: the two calls with one key both get the recorded decision. -/

def sampleText : TextChecks where
  looksLikeEmbeddedInstruction _ := false
  hasJointSemanticSupport _ _ _ := true
  isNonFactualBoilerplate _ := false
  semanticDisclosureMatch _ _ := false
  containsExactDecisionCode text code := code.toList <:+: text.toList
  mentionsDecisionCode text := "decision code".toList <:+: text.toList
  containsUnboundOperativeDecision text := "is permitted".toList <:+: text.toList
  contradictsRecordedDecision _ _ := false
  containsAlternateDecisionCode _ _ := false
  contradictsRecordedDecisionSemantics _ _ := false
  containsSecretLikeOutput _ := false
  deniesOverallScore _ := false
  statesCompositeScore _ := false
  statedOutcomeCode _ := none
  mentionsMissingEvidence _ := false
  mentionsConflict _ := false
  asksForOutcome _ := false
  statesOutcome _ _ := true
  looksLikeAuthorityEscalation _ := false
  isExternalDecisionRequest _ := false
  stringify candidate := candidate.summary
  localeCompare left right := if utf16 left < utf16 right then -1 else if utf16 right < utf16 left then 1 else 0

def sampleSupport : Support where
  supportId := "support-1"
  resourceId := "urn:evllm:assessment:1"
  resourceVersion := 1
  issuerOrganizationId := "urn:evllm:organization:1"
  custodianOrganizationId := "urn:evllm:organization:1"
  asOf := 1
  status := .active
  commitment := "sha256:support-1"
  chainReference := none
  recordedDecision := some ⟨.abstain, "insufficient-evidence", [.missingEvidence]⟩
  content := "The inspection of the battery was not delivered."

def resaleCandidate : Candidate where
  outcome := .answer
  decisionCode := some "resale-permitted"
  summary := "Resale is permitted."
  claims := [⟨"claim-1", "Resale is permitted.", ["support-1"]⟩]
  evidenceReasonCodes := []
  warnings := []
  missingRequirements := []

def sampleConfig : Config Support where
  text := sampleText
  tools := [.assessment]
  parseSupport := some
  maxContextCharacters := 12000
  hash := id
  hashEvent _ := .ok "event-hash"
  fingerprint _ := .ok "fingerprint"
  acceptsRequest _ := true

def sampleEnvironment : Environment Support where
  authorize _ := .ok true
  execute _ := .ok [sampleSupport]
  generate _ := .ok ⟨resaleCandidate, "model", "provider", none, none, none⟩
  requestId := "1"
  eventId := "1"
  recordedAt := 2
  createdAt := 2

def sampleQuery : Query where
  question := "May the battery be sold?"
  mode := .explainRecordedDecision
  purposeId := "urn:evllm:purpose:1"
  asOf := 1
  idempotencyKey := some "key"
  requests := [⟨.assessment, []⟩]

def sampleSession : ActorSession := ⟨"session", "actor", "organization", "credential", "address", 0, 10⟩

def sampleRun : List (Event Support) :=
  [.answer sampleQuery sampleSession "first", .answer sampleQuery sampleSession "second",
    .settle 0 sampleEnvironment, .resume 0, .resume 1]

theorem model_cannot_decide_resale :
    (∃ call ∈ (after sampleConfig sampleRun).calls, ∃ r, call.returned = some (.ok r) ∧
      r.decisionCode = some "insufficient-evidence" ∧
      ∃ E, BoundToRecord call.query.mode (responseSupports sampleConfig E call.query) r) ∧
    ∃ r r', releaseAssistantCandidateWithRecordedDecision sampleText resaleCandidate [sampleSupport] "" true = .ok r ∧
      releaseAssistantCandidateWithRecordedDecision sampleText emptyExplanationCandidate [sampleSupport] "" true = .ok r' ∧
      r.candidate.decisionCode = r'.candidate.decisionCode := by
  obtain ⟨hruns, hreleases⟩ := model_cannot_decide sampleConfig
  have hfree : CollisionFree sampleConfig (requestsOf sampleRun) := by
    intro a ha b hb f _ _
    simp only [sampleRun, requestsOf, List.mem_cons, List.not_mem_nil, or_false, or_self] at ha hb
    rw [ha, hb]
  have hsecond : ((((after sampleConfig sampleRun).calls[1]?).bind Call.returned).bind Except.toOption).map
      Response.decisionCode = some (some "insufficient-evidence") := by decide +kernel
  simp only [Option.map_eq_some_iff, Option.bind_eq_some_iff, toOption_eq_some] at hsecond
  obtain ⟨r, ⟨result, ⟨call, hcall, hreturned⟩, rfl⟩, hcode⟩ := hsecond
  obtain ⟨_, _, E, -, -, -, hbound⟩ := hruns sampleRun hfree call (List.mem_of_getElem? hcall) r hreturned
  refine ⟨⟨call, List.mem_of_getElem? hcall, r, hreturned, hcode, E, hbound⟩, ?_⟩
  have hboth : ∀ candidate ∈ [resaleCandidate, emptyExplanationCandidate],
      (releaseAssistantCandidateWithRecordedDecision sampleText candidate [sampleSupport] "" true).toOption.isSome := by
    decide +kernel
  obtain ⟨a, ha⟩ := Option.isSome_iff_exists.mp (hboth resaleCandidate (by simp))
  obtain ⟨b, hb⟩ := Option.isSome_iff_exists.mp (hboth emptyExplanationCandidate (by simp))
  rw [toOption_eq_some] at ha hb
  have hres : resolveActiveRecordedDecision [sampleSupport] =
      .consistent ⟨.abstain, "insufficient-evidence", [.missingEvidence]⟩ := by decide +kernel
  exact ⟨a, b, ha, hb, (hreleases [sampleSupport] "" _ _ _ a b hres ha hb).2.1⟩

end Assistant
end Evllm
