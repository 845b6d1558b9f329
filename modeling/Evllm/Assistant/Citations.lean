/-
# Citation soundness

Claims reach a response by one of five routes: a control answers without the
model, the model's own candidate is released, the record's fixed claim with the
explanations that remain of it, the record alone, or nothing where validation
or a tool fails. On each of them the claims are grounded (`verdict_grounded`):
every claim cites, and cites only active supports that the execution uses. The
tools return supports of distinct ids, so the citations of the response are the
cited supports, each once (`citations_sound`).

Key definitions: `Distinct`, `Cites`, `Grounded`, `CitationSound`.
Key theorems: `executeTools_distinct`, `verdict_grounded`, `after_keeping`,
`citations_sound`.
-/
import Evllm.Assistant.Binding
import Mathlib.Data.List.Pairwise

namespace Evllm
namespace Assistant

open Lib

variable {ι : Type} {C : Config ι} {E E' : Environment ι} {query : Query} {session : ActorSession}

/-! ### Distinct supports -/

/-- An id, or a resource and its version, is that of the support. -/
def Citation.Names (citation : Citation) (support : Support) : Prop :=
  citation.supportId = support.supportId ∨
    (citation.resourceId = support.resourceId ∧ citation.resourceVersion = support.resourceVersion)

/-- No two of the supports have one id or one resource version. -/
def Distinct (supports : List Support) : Prop := supports.Pairwise fun left right => ¬left.Names right

theorem collectSupport_distinct {supports supports' : List Support} {raw : ι} (h : Distinct supports)
    (hok : collectSupport C supports raw = .ok supports') : Distinct supports' := by
  unfold collectSupport at hok
  split at hok
  · cases hok
  · rename_i support _
    split_ifs at hok with hknown
    obtain rfl := Except.ok.inj hok
    refine List.pairwise_append.mpr ⟨h, List.pairwise_singleton _ _, fun left hleft right hright hnames => ?_⟩
    rw [List.mem_singleton.mp hright] at hnames
    refine hknown (List.any_eq_true.mpr ⟨left, hleft, ?_⟩)
    simpa [Citation.Names] using hnames

/-- The tools return supports of distinct ids and resource versions. -/
theorem executeTools_distinct {executed : List Support} (h : executeTools C E query = .ok executed) :
    Distinct executed := by
  refine foldlM_invariant (fun supports request supports' hsupports hok => ?_) _ List.Pairwise.nil h
  simp only [runRequest, bind_eq_ok] at hok
  obtain ⟨_, -, _, -, _, -, result, -, hok⟩ := hok
  exact foldlM_invariant (fun _ _ _ hs hcollect => collectSupport_distinct hs hcollect) result hsupports hok

theorem Distinct.ids {supports : List Support} (h : Distinct supports) : (supports.map (·.supportId)).Nodup := by
  refine List.pairwise_map.mpr (h.imp fun {left right} hnames hid => hnames (.inl hid))

/-! ### Claims that pass validation -/

/-- Every citation of the claims is the id of one of the supports. -/
def Cites (supports : List Support) (claims : List Claim) : Prop :=
  ∀ claim ∈ claims, ∀ id ∈ claim.citationIds, ∃ support ∈ supports, support.supportId = id

theorem cites_nil (supports : List Support) : Cites supports [] := by
  intro claim hclaim
  cases hclaim

theorem citedSupport_mem {supports : List Support} {id : String} {support : Support}
    (h : citedSupport supports id = some support) : support ∈ supports ∧ support.supportId = id := by
  unfold citedSupport at h
  rw [Option.filter_eq_some_iff] at h
  have hfind := h.1
  exact ⟨List.mem_reverse.mp (List.mem_of_find?_eq_some hfind), by simpa using List.find?_some hfind⟩

theorem citedSupport_active {supports : List Support} {id : String} {support : Support}
    (h : citedSupport supports id = some support) : support.status = .active := by
  unfold citedSupport at h
  rw [Option.filter_eq_some_iff] at h
  exact of_decide_eq_true h.2

/-- A claim without validation codes cites, and every id is that of an active support. -/
theorem validateClaim_cited {T : TextChecks} {claim : Claim} {supports : List Support}
    (h : validateAssistantClaim T claim supports = .ok []) :
    claim.citationIds ≠ [] ∧ ∀ id ∈ claim.citationIds, (citedSupport supports id).isSome := by
  unfold validateAssistantClaim at h
  dsimp only at h
  have hvalid : ∀ codes, (((claim.citationIds.eraseDups.map (citedSupport supports)).filter Option.isNone).map
      fun _ => "invalid-citation") ++ codes = [] → ∀ id ∈ claim.citationIds, (citedSupport supports id).isSome := by
    intro codes hnil id hid
    by_contra hnone
    have hmem : citedSupport supports id ∈
        (claim.citationIds.eraseDups.map (citedSupport supports)).filter Option.isNone :=
      List.mem_filter.mpr ⟨List.mem_map_of_mem (List.mem_eraseDups.mpr hid), by simpa using hnone⟩
    exact List.ne_nil_of_mem hmem (List.map_eq_nil_iff.mp (List.append_eq_nil_iff.mp hnil).1)
  split_ifs at h with hempty hall
  · cases Except.ok.inj h
  · have hne : claim.citationIds ≠ [] := fun hnil => hempty (by rw [hnil]; rfl)
    simp only [bind_eq_ok, pure_eq_ok] at h
    obtain ⟨codes, -, h⟩ := h
    exact ⟨hne, hvalid codes (eraseDups_eq_nil (sortStrings_eq_nil.mp h))⟩
  · have hne : claim.citationIds ≠ [] := fun hnil => hempty (by rw [hnil]; rfl)
    have hcodes := eraseDups_eq_nil (sortStrings_eq_nil.mp (Except.ok.inj h))
    exact ⟨hne, hvalid [] (by rw [hcodes]; rfl)⟩

/-- Each claim of a candidate that passes validation does, and an answer has one. -/
theorem validate_claims {T : TextChecks} {candidate : Candidate} {supports : List Support} {question : String}
    (h : validateAssistantCandidate T candidate supports question = .ok []) :
    (∀ claim ∈ candidate.claims, validateAssistantClaim T claim supports = .ok []) ∧
      (candidate.outcome = .answer → candidate.claims ≠ []) := by
  simp only [validateAssistantCandidate, bind_eq_ok, pure_eq_ok] at h
  obtain ⟨claimCodes, hclaims, statement, -, h⟩ := h
  have hcodes := eraseDups_eq_nil (sortStrings_eq_nil.mp h)
  simp only [List.append_eq_nil_iff, pushIf] at hcodes
  have hnone : ∀ pair ∈ claimCodes, pair.2 = [] := List.flatMap_eq_nil_iff.mp hcodes.1.1.1.1.2
  have hpairs := mapM_ok hclaims
  refine ⟨fun claim hclaim => ?_, fun houtcome hempty => ?_⟩
  · obtain ⟨i, hi, hget⟩ := List.getElem_of_mem hclaim
    have hlength := hpairs.length_eq
    have hpair := hpairs.get hi (hlength ▸ hi)
    rw [List.get_eq_getElem, hget] at hpair
    simp only [bind_eq_ok, pure_eq_ok] at hpair
    obtain ⟨codes, hvalid, hpair⟩ := hpair
    have hempty := hnone _ (List.getElem_mem (hlength ▸ hi))
    rw [List.get_eq_getElem] at hpair
    rw [← hpair] at hempty
    have hcodesNil : codes = [] := hempty
    rw [hvalid, hcodesNil]
  · have hpush := hcodes.1.1.1.1.1
    rw [if_pos ⟨houtcome, hempty⟩] at hpush
    cases hpush

/-! ### Grounded candidates -/

/-- Every claim cites, and cites active supports only; an answer has a claim. -/
structure Grounded (supports : List Support) (candidate : Candidate) : Prop where
  cited : ∀ claim ∈ candidate.claims, claim.citationIds ≠ []
  active : ∀ claim ∈ candidate.claims, ∀ id ∈ claim.citationIds,
    ∃ support ∈ supports, support.supportId = id ∧ support.status = .active
  answered : candidate.outcome = .answer → candidate.claims ≠ []

variable {supports : List Support} {candidate : Candidate}

theorem Grounded.cites (h : Grounded supports candidate) : Cites supports candidate.claims := by
  intro claim hclaim id hid
  obtain ⟨support, hmem, heq, -⟩ := h.active claim hclaim id hid
  exact ⟨support, hmem, heq⟩

/-- What makes no claim and no answer is grounded. -/
theorem grounded_of_nil (hclaims : candidate.claims = []) (houtcome : candidate.outcome ≠ .answer) :
    Grounded supports candidate := by
  refine ⟨fun claim hclaim => ?_, fun claim hclaim => ?_, fun h => absurd h houtcome⟩
  · rw [hclaims] at hclaim
    cases hclaim
  · rw [hclaims] at hclaim
    cases hclaim

theorem refusal_grounded {outcome : Outcome} (h : outcome ≠ .answer) (message : String) :
    Grounded supports (refusal outcome message).candidate := grounded_of_nil rfl h

theorem validate_grounded {T : TextChecks} {question : String}
    (h : validateAssistantCandidate T candidate supports question = .ok []) : Grounded supports candidate := by
  obtain ⟨hclaims, hanswered⟩ := validate_claims h
  refine ⟨fun claim hclaim => (validateClaim_cited (hclaims claim hclaim)).1, fun claim hclaim id hid => ?_, hanswered⟩
  have hsome := (validateClaim_cited (hclaims claim hclaim)).2 id hid
  obtain ⟨support, hsupport⟩ := Option.isSome_iff_exists.mp hsome
  exact ⟨support, (citedSupport_mem hsupport).1, (citedSupport_mem hsupport).2, citedSupport_active hsupport⟩

/-- **Exactly the released candidate has passed validation**: the model's own,
the record with explanations, or the record alone. -/
theorem release_passed {T : TextChecks} {question : String} {r : Release}
    (h : releaseAssistantCandidateWithRecordedDecision T candidate supports question true = .ok r)
    (hvalid : r.validationCodes = []) : validateAssistantCandidate T r.candidate supports question = .ok [] := by
  simp only [releaseAssistantCandidateWithRecordedDecision, bind_eq_ok, if_true] at h
  obtain ⟨⟨materialized, resolution⟩, -, codes, hcodes, h⟩ := h
  cases codes with
  | nil =>
    obtain rfl : Release.mk materialized materialized [] resolution false = r := by
      cases resolution <;> exact Except.ok.inj h
    exact hcodes
  | cons code codes =>
    cases resolution with
    | consistent d =>
      simp only [releaseValidated, releaseFixedOnly, bind_eq_ok, throwIf_eq_ok, pure_eq_ok, not_not] at h
      obtain ⟨fixedOnly, -, fixedCodes, hfixed, -, rfl, rfl⟩ := h
      exact hfixed
    | absent =>
      obtain rfl := Except.ok.inj h
      cases hvalid
    | conflicting =>
      obtain rfl := Except.ok.inj h
      cases hvalid

theorem precondition_outcome {injection : Bool} {outcome : Outcome} {code message : String}
    (h : precondition supports injection = some (outcome, code, message)) : outcome ≠ .answer := by
  unfold precondition at h
  split_ifs at h <;> (cases h; decide)

/-- The claims of the external boundary cite the active supports. -/
theorem citedActiveClaims_grounded {result : ModelResult} (hclaims : result.candidate.claims = citedActiveClaims supports)
    (houtcome : result.candidate.outcome ≠ .answer) : Grounded supports result.candidate := by
  refine ⟨fun claim hclaim => ?_, fun claim hclaim id hid => ?_, fun h => absurd h houtcome⟩
  · rw [hclaims] at hclaim
    obtain ⟨i, hi, rfl⟩ := List.mem_mapIdx.mp hclaim
    exact List.cons_ne_nil _ _
  · rw [hclaims] at hclaim
    obtain ⟨i, hi, rfl⟩ := List.mem_mapIdx.mp hclaim
    rw [List.mem_singleton.mp hid]
    obtain ⟨hmem, hactive⟩ := List.mem_filter.mp (List.getElem_mem hi)
    exact ⟨_, hmem, rfl, of_decide_eq_true hactive⟩

theorem control_grounded {code : String} {result : ModelResult} (h : control C query supports = some (code, result)) :
    Grounded supports result.candidate := by
  have hinj : ∀ {c : String} {a : ModelResult}, some (c, a) = some (code, result) → a = result :=
    fun heq => (Prod.mk.inj (Option.some.inj heq)).2
  unfold control at h
  split at h
  next hprecondition =>
    rw [← hinj h]
    exact refusal_grounded (precondition_outcome hprecondition) _
  · split_ifs at h
    · rw [← hinj h]
      exact refusal_grounded (by decide) _
    · rw [← hinj h]
      exact refusal_grounded (by decide) _
    · rw [← hinj h]
      exact citedActiveClaims_grounded rfl (fun houtcome => by cases houtcome)
    · split at h
      · rw [← hinj h]
        exact refusal_grounded (by decide) _
      · rw [← hinj h]
        exact grounded_of_nil rfl (fun houtcome => by cases houtcome)
      · cases h

theorem consultModel_grounded {toolNames : List ToolName} {v : Verdict}
    (h : consultModel C E query session supports toolNames = .ok v) : Grounded v.supports v.result.candidate := by
  simp only [consultModel, bind_eq_ok] at h
  obtain ⟨result, -, release, hrelease, h⟩ := h
  by_cases hvalid : release.validationCodes = []
  · simp only [hvalid, if_true, pure_eq_ok] at h
    subst h
    exact validate_grounded (release_passed hrelease hvalid)
  · simp only [hvalid, if_false, pure_eq_ok] at h
    subst h
    exact refusal_grounded (by decide) _

theorem onFailure_grounded {toolNames : List ToolName} {e : Failure} {v : Verdict}
    (h : onFailure supports toolNames e = .ok v) : Grounded v.supports v.result.candidate := by
  unfold onFailure at h
  split at h
  · cases h
  · obtain rfl := Except.ok.inj h
    exact refusal_grounded (by decide) _

/-- **The claims of a verdict are grounded**, by whichever route they came. -/
theorem verdict_grounded {v : Verdict} (h : verdict C E query session = .ok v) :
    Grounded v.supports v.result.candidate := by
  unfold verdict at h
  cases hexec : executeTools C E query with
  | error e =>
    rw [hexec] at h
    exact onFailure_grounded h
  | ok executed =>
    simp only [hexec] at h
    cases hcontrol : control C query (supportsForQueryMode executed query.mode) with
    | some answer =>
      obtain ⟨code, result⟩ := answer
      simp only [hcontrol, Except.ok.injEq] at h
      subst h
      exact control_grounded hcontrol
    | none =>
      simp only [hcontrol] at h
      cases hmodel : consultModel C E query session (supportsForQueryMode executed query.mode)
          (query.requests.map ToolRequest.tool) with
      | error e =>
        simp only [hmodel] at h
        exact onFailure_grounded h
      | ok v' =>
        simp only [hmodel, Except.ok.injEq] at h
        subst h
        exact consultModel_grounded hmodel

/-! ### Runs -/

/-- The response came of the verdict of the execution, and its audit event is
in the ledger. -/
def Archived (C : Config ι) (audit : List AuditEvent) (e : Execution ι) (E : Environment ι) (r : Response) : Prop :=
  ∃ v events event, verdict C E e.query e.session = .ok v ∧
    auditEvent C E events e.query e.session e.correlationId v = .ok event ∧ event ∈ audit ∧
    r = response E e.query e.correlationId v event

theorem answerOnce_archived {records : Records} {correlationId : String} {r : Response}
    (h : (answerOnce C E records query session correlationId).1 = .ok r) {x : Option (Environment ι × Except Failure Response)} :
    Archived C (answerOnce C E records query session correlationId).2.audit ⟨query, session, correlationId, x⟩ E r := by
  unfold answerOnce at h ⊢
  cases hverdict : verdict C E query session with
  | error e =>
    rw [hverdict] at h
    cases h
  | ok v =>
    simp only [hverdict] at h ⊢
    unfold recordVerdict at h ⊢
    cases hevent : auditEvent C E records.audit query session correlationId v with
    | error e =>
      rw [hevent] at h
      cases h
    | ok event =>
      simp only [hevent] at h ⊢
      cases hput : putRequest C records.requests (requestRecord C E query session v event) with
      | error e =>
        rw [hput] at h
        cases h
      | ok requests =>
        simp only [hput, Except.ok.injEq] at h ⊢
        exact ⟨v, records.audit, event, hverdict, hevent, List.mem_append_right _ (List.mem_singleton_self _), h.symm⟩

/-- The audit ledger is only appended to. -/
theorem answerOnce_audit {records : Records} {correlationId : String} {event : AuditEvent} (h : event ∈ records.audit) :
    event ∈ (answerOnce C E records query session correlationId).2.audit := by
  unfold answerOnce
  split
  · exact h
  · unfold recordVerdict
    split
    · exact h
    · dsimp only
      split <;> exact List.mem_append_left _ h

/-- What every run keeps: the response of a settled execution is archived, and
a call returns the response of the execution it awaits. -/
structure Keeping (C : Config ι) (S : Service ι) : Prop where
  settled : ∀ e ∈ S.executions, ∀ E r, e.settled = some (E, .ok r) → Archived C S.records.audit e E r
  returned : ∀ call ∈ S.calls, ∀ r, call.returned = some (.ok r) →
    ∃ p e E, call.awaits = some p ∧ S.executions[p]? = some e ∧ e.settled = some (E, .ok r)

variable {S : Service ι}

/-- A new call that has returned no response. -/
theorem Keeping.addCall (h : Keeping C S) {executions : List (Execution ι)} {call : Call}
    {idempotentAnswers : JsMap String KeptAnswer} (hexecutions : executions = S.executions ∨
      ∃ e : Execution ι, e.settled = none ∧ executions = S.executions ++ [e])
    (hcall : ∀ r, call.returned ≠ some (.ok r)) :
    Keeping C ⟨idempotentAnswers, executions, S.calls ++ [call], S.records⟩ := by
  have hmem : ∀ e ∈ executions, ∀ x, e.settled = some x → e ∈ S.executions := by
    intro e he x hx
    obtain rfl | ⟨new, hnew, rfl⟩ := hexecutions
    · exact he
    · obtain hold | hlast := List.mem_append.mp he
      · exact hold
      · rw [List.mem_singleton.mp hlast, hnew] at hx
        cases hx
  have hgrows : Grows S.executions executions := by
    obtain rfl | ⟨new, -, rfl⟩ := hexecutions
    · exact Grows.refl _
    · exact grows_append _ _
  refine ⟨fun e he E r hsettled => h.settled e (hmem e he _ hsettled) E r hsettled, fun other hother r hr => ?_⟩
  obtain hold | hnew := List.mem_append.mp hother
  · obtain ⟨p, e, E, hp, he, hsettled⟩ := h.returned other hold r hr
    obtain ⟨e', he', -, -, hkeep⟩ := hgrows p e he
    exact ⟨p, e', E, hp, he', hkeep _ hsettled⟩
  · rw [List.mem_singleton.mp hnew] at hr
    exact absurd hr (hcall r)

theorem Keeping.answer (h : Keeping C S) (query : Query) (session : ActorSession) (correlationId : String) :
    Keeping C (answer C S query session correlationId) := by
  have hstart : ∀ (keptUnder : Option String) (kept : JsMap String KeptAnswer),
      Keeping C { startExecution S query session correlationId keptUnder with idempotentAnswers := kept } :=
    fun _ _ => h.addCall (.inr ⟨⟨query, session, correlationId, none⟩, rfl, rfl⟩) (by simp)
  have hrefuse : ∀ e : Failure, Keeping C (refuseCall S query session e) := fun _ => h.addCall (.inl rfl) (by simp)
  unfold Assistant.answer
  split
  · exact hstart none S.idempotentAnswers
  · split
    · exact hrefuse _
    · unfold answerKept
      split
      · split_ifs
        · exact hrefuse _
        · exact h.addCall (.inl rfl) (by simp)
      · exact hstart _ _

theorem Keeping.settle (h : Keeping C S) (p : ℕ) : Keeping C (settle C E S p) := by
  unfold Assistant.settle
  split
  next query session correlationId hp =>
    have hg : Grows S.executions (S.executions.set p ⟨query, session, correlationId,
        some (E, (answerOnce C E S.records query session correlationId).1)⟩) := grows_set hp rfl
    refine ⟨fun e he E' r hsettled => ?_, fun call hcall r hr => ?_⟩
    · obtain hold | rfl := List.mem_or_eq_of_mem_set he
      · obtain ⟨v, events, event, hv, hevent, hmem, hr⟩ := h.settled e hold E' r hsettled
        exact ⟨v, events, event, hv, hevent, answerOnce_audit hmem, hr⟩
      · obtain ⟨rfl, hr⟩ := Prod.mk.inj (Option.some.inj hsettled)
        exact answerOnce_archived hr
    · obtain ⟨q, e, E', hq, he, hsettled⟩ := h.returned call hcall r hr
      obtain ⟨e', he', -, -, hkeep⟩ := hg q e he
      exact ⟨q, e', E', hq, he', hkeep _ hsettled⟩
  · exact h

theorem Keeping.resume (h : Keeping C S) (c : ℕ) : Keeping C (resume S c) := by
  unfold Assistant.resume
  split
  · exact h
  next call hcall =>
    split
    next p result _ hawaited =>
      refine ⟨h.settled, fun other hother r hr => ?_⟩
      obtain hold | rfl := List.mem_or_eq_of_mem_set hother
      · exact h.returned other hold r hr
      · obtain ⟨e, E, hawaits, he, hsettled⟩ := awaited_eq_some hawaited
        obtain rfl : result = .ok r := Option.some.inj hr
        exact ⟨p, e, E, hawaits, he, hsettled⟩
    · exact h

/-- **Every run keeps its responses archived.** -/
theorem after_keeping (C : Config ι) (ls : List (Event ι)) : Keeping C (after C ls) := by
  refine run_invariant (I := Keeping C) (fun S l h => ?_) ls ⟨fun _ he => ?_, fun _ hcall => ?_⟩
  · cases l with
    | answer query session correlationId => exact h.answer query session correlationId
    | settle p environment => exact h.settle p
    | resume c => exact h.resume c
  · simp [newService] at he
  · simp [newService] at hcall

/-! ### Responses -/

/-- The claims of a response are grounded in the supports, and its citations are
those that a claim cites, each once. -/
structure CitationSound (supports : List Support) (r : Response) : Prop where
  cited : ∀ claim ∈ r.claims, claim.citationIds ≠ []
  active : ∀ claim ∈ r.claims, ∀ id ∈ claim.citationIds,
    ∃ support ∈ supports, support.supportId = id ∧ support.status = .active
  exact : ∀ citation, citation ∈ r.citations ↔ ∃ support ∈ supports, support.toCitation = citation ∧
    ∃ claim ∈ r.claims, support.supportId ∈ claim.citationIds
  once : (r.citations.map (·.supportId)).Nodup
  answered : r.outcome = .answer → r.claims ≠ []

/-- The mode of a query shows supports of distinct ids. -/
theorem responseSupports_distinct (C : Config ι) (E : Environment ι) (query : Query) :
    Distinct (responseSupports C E query) := by
  unfold responseSupports
  split
  · exact List.Pairwise.nil
  next executed hexec =>
    cases query.mode with
    | explainRecordedDecision => exact executeTools_distinct hexec
    | explainRecords => exact (executeTools_distinct hexec).sublist List.filter_sublist

theorem response_sound {v : Verdict} (h : Grounded v.supports v.result.candidate) (hdistinct : Distinct v.supports)
    (correlationId : String) (event : AuditEvent) :
    CitationSound v.supports (response E query correlationId v event) := by
  have hcitations : (response E query correlationId v event).citations = (v.supports.filter fun support =>
      v.result.candidate.claims.any (support.supportId ∈ ·.citationIds)).map Support.toCitation := rfl
  have hexact : ∀ citation, citation ∈ (response E query correlationId v event).citations ↔
      ∃ support ∈ v.supports, support.toCitation = citation ∧
        ∃ claim ∈ v.result.candidate.claims, support.supportId ∈ claim.citationIds := by
    intro citation
    simp only [hcitations, List.mem_map, List.mem_filter, List.any_eq_true, decide_eq_true_eq]
    constructor
    · rintro ⟨support, ⟨hmem, hcited⟩, rfl⟩
      exact ⟨support, hmem, rfl, hcited⟩
    · rintro ⟨support, hmem, rfl, hcited⟩
      exact ⟨support, ⟨hmem, hcited⟩, rfl⟩
  have honce : ((response E query correlationId v event).citations.map (·.supportId)).Nodup := by
    rw [hcitations, List.map_map]
    exact hdistinct.ids.sublist (List.filter_sublist.map _)
  exact ⟨h.cited, h.active, hexact, honce, h.answered⟩

/-- **Every response of the assistant is sound in its citations.** In any run a
call returns the response of the execution it awaits, which cites active
supports among those the tools returned and the mode of the query shows; the
query is the call's own unless fingerprints collide. -/
theorem citations_sound (C : Config ι) (ls : List (Event ι)) :
    (∀ e ∈ (after C ls).executions, ∀ E r, e.settled = some (E, .ok r) →
      CitationSound (responseSupports C E e.query) r) ∧
    ∀ call ∈ (after C ls).calls, ∀ r, call.returned = some (.ok r) →
      ∃ p e E, call.awaits = some p ∧ (after C ls).executions[p]? = some e ∧ e.settled = some (E, .ok r) ∧
        CitationSound (responseSupports C E e.query) r ∧ (CollisionFree C (requestsOf ls) → e.query = call.query) := by
  have hsound : ∀ e ∈ (after C ls).executions, ∀ E r, e.settled = some (E, .ok r) →
      CitationSound (responseSupports C E e.query) r := by
    intro e he E r hsettled
    obtain ⟨v, events, event, hv, -, -, rfl⟩ := (after_keeping C ls).settled e he E r hsettled
    have hdistinct := responseSupports_distinct C E e.query
    rw [← (verdict_bound hv).1] at hdistinct ⊢
    exact response_sound (verdict_grounded hv) hdistinct _ _
  refine ⟨hsound, fun call hcall r hr => ?_⟩
  obtain ⟨p, e, E, hawaits, he, hsettled⟩ := (after_keeping C ls).returned call hcall r hr
  refine ⟨p, e, E, hawaits, he, hsettled, hsound e (List.mem_of_getElem? he) E r hsettled, fun hfree => ?_⟩
  obtain ⟨e', he', hquery⟩ := ((faithful_after ls hfree).served call hcall).awaiting p hawaits
  obtain rfl : e = e' := Option.some.inj (he.symm.trans he')
  exact hquery

/-- The second call with one key gets the record's claim with its one citation. -/
theorem citations_sound_resale :
    ∃ call ∈ (after sampleConfig sampleRun).calls, ∃ r, call.returned = some (.ok r) ∧
      r.claims.length = 1 ∧ r.citations = [sampleSupport.toCitation] ∧
      ∃ E query, CitationSound (responseSupports sampleConfig E query) r := by
  have hsecond : ((((after sampleConfig sampleRun).calls[1]?).bind Call.returned).bind Except.toOption).map
      (fun r => (r.claims.length, r.citations)) = some (1, [sampleSupport.toCitation]) := by decide +kernel
  simp only [Option.map_eq_some_iff, Option.bind_eq_some_iff, toOption_eq_some, Prod.mk.injEq] at hsecond
  obtain ⟨r, ⟨result, ⟨call, hcall, hreturned⟩, rfl⟩, hclaims, hcitations⟩ := hsecond
  have hmem := List.mem_of_getElem? hcall
  obtain ⟨_, e, E, -, -, -, hsound, -⟩ := (citations_sound sampleConfig sampleRun).2 call hmem r hreturned
  exact ⟨call, hmem, r, hreturned, hclaims, hcitations, E, e.query, hsound⟩

end Assistant
end Evllm
