/-
# The evaluated system and the deployed one

The condition `governed-evllm` stands for the assistant service. Both refuse by
preconditions of their own, in different orders and with different reason
codes, and differ in what they let through: the service refuses a restricted
support and does not see supports with a typed decision where records are
explained, the adapter is the other way round in both. They agree on a case for
every answer of the model just if no support looks like an instruction and every
support is active, or nothing is supported, or the one support they treat
differently is refused by the same external boundary (`evaluated_as_deployed_iff`).

Key definitions: `Observation`, `Deployed`, `SameFor`, `Alike`.
Key theorems: `control_refuses`, `asked_alike`, `evaluated_as_deployed_iff`.
-/
import Evllm.Assistant.RecordMode
import Evllm.Assistant.Schema
import Evllm.Evaluation.Conditions

namespace Evllm
namespace Evaluation

open Lib Assistant

/-! ### What is compared -/

/-- What a user is told of a result: the outcome, the decision, the reasons and
the codes of validation. -/
structure Observation where
  outcome : Outcome
  decisionCode : Option String
  evidenceReasonCodes : List EvidenceReasonCode
  validationCodes : List String
  deriving DecidableEq, Repr

def observe (candidate : Candidate) (validationCodes : List String) : Observation :=
  ⟨candidate.outcome, candidate.decisionCode, candidate.evidenceReasonCodes, validationCodes⟩

def observeExecution (x : ConditionExecution) : Observation := observe x.result.candidate x.validationCodes

def observeVerdict (v : Verdict) : Observation := observe v.result.candidate v.validationCodes

def observeResponse (r : Response) : Observation :=
  ⟨r.outcome, r.decisionCode, r.evidenceReasonCodes, r.validationCodes⟩

variable {ι : Type} {C : Config ι} {E : Environment ι} {query : Query} {session : ActorSession}
  {commitmentOf : CommitmentOf} {item : FormalCase} {supports : List Support}

/-- The environment in which the model answers `result`. -/
def answering (E : Environment ι) (result : ModelResult) : Environment ι := { E with generate := fun _ => .ok result }

def contextOf (query : Query) (session : ActorSession) (result : ModelResult) : ConditionContext where
  generate _ _ := .ok result
  purposeId := query.purposeId
  asOf := query.asOf
  session := session

/-- The service is asked the case: its tools return the supports of the case,
access is permitted, the visible supports fit in the context, and the prompt
does not ask for an escalation of authority. -/
structure Deployed (C : Config ι) (E : Environment ι) (commitmentOf : CommitmentOf) (item : FormalCase) (query : Query)
    (session : ActorSession) : Prop where
  accepted : item.accepted = true
  prompt : query.question = item.prompt
  mode : query.mode = item.queryMode
  tools : executeTools C E query = .ok (projectSupports commitmentOf .governedEvllm item)
  permitted : isFormalAccessPermitted item ⟨session.organizationId, query.purposeId⟩ = true
  fits : totalContent (supportsForQueryMode (projectSupports commitmentOf .governedEvllm item) item.queryMode) ≤
    C.maxContextCharacters
  authority : C.text.looksLikeAuthorityEscalation item.prompt = false

/-- Where the model answers `result`, the adapter and the service tell a user
the same, and they ask the model in the same cases. -/
def SameFor (C : Config ι) (E : Environment ι) (commitmentOf : CommitmentOf) (item : FormalCase) (query : Query)
    (session : ActorSession) (result : ModelResult) : Prop :=
  (execute C.text commitmentOf .governedEvllm item (contextOf query session result)).map observeExecution =
      (verdict C (answering E result) query session).map observeVerdict ∧
    (willInvokeModel C.text commitmentOf .governedEvllm item (contextOf query session result) = true ↔
      modelInputs C (answering E result) query session ≠ [])

/-- No support looks like an instruction, and every support is active or, where
the prompt meets the external boundary, one whose decision is not shown. -/
def Alike (T : TextChecks) (item : FormalCase) : Prop :=
  item.supports = [] ∨
    (∀ support ∈ item.supports, T.looksLikeEmbeddedInstruction support.content = false) ∧
      ((∀ support ∈ item.supports, support.status = .active) ∨
        (item.queryMode = .explainRecords ∧ T.isExternalDecisionRequest item.prompt = true ∧
          (∃ support ∈ item.supports, support.recordedDecision = none) ∧
          ∀ support ∈ item.supports,
            support.status = if support.recordedDecision = none then .active else .restricted))

/-! ### The service -/

/-- The service sees no defect in active supports without instructions, and only there. -/
theorem precondition_eq_none {injection : Bool} :
    precondition supports injection = none ↔
      injection = false ∧ supports ≠ [] ∧ ∀ support ∈ supports, support.status = .active := by
  unfold precondition
  split_ifs with hinjection hnil hmissing hconflicting hinactive
  · simp [hinjection]
  · simp [hnil]
  · obtain ⟨support, hmem, hstatus⟩ := List.any_eq_true.mp hmissing
    refine ⟨fun h => (nomatch h), fun h => absurd (h.2.2 support hmem) ?_⟩
    rw [of_decide_eq_true hstatus]
    decide
  · obtain ⟨support, hmem, hstatus⟩ := List.any_eq_true.mp hconflicting
    refine ⟨fun h => (nomatch h), fun h => absurd (h.2.2 support hmem) ?_⟩
    rw [of_decide_eq_true hstatus]
    decide
  · obtain ⟨support, hmem, hstatus⟩ := List.any_eq_true.mp hinactive
    exact ⟨fun h => (nomatch h), fun h => absurd (h.2.2 support hmem) (of_decide_eq_true hstatus)⟩
  · refine ⟨fun _ => ⟨by simpa using hinjection, hnil, fun support hmem => ?_⟩, fun _ => rfl⟩
    by_contra hne
    exact hinactive (List.any_eq_true.mpr ⟨support, hmem, decide_eq_true hne⟩)

/-- The reasons the service gives with the code of a defect. -/
theorem precondition_reasons {injection : Bool} {outcome : Outcome} {code message : String}
    (h : precondition supports injection = some (outcome, code, message)) :
    (code = "prompt-injection" → reasonCodesForOutcome outcome message = []) ∧
      (code = "inactive-support" → reasonCodesForOutcome outcome message = [.missingEvidence]) ∧
      (code = "conflicting-support" → reasonCodesForOutcome outcome message = [.conflictingEvidence]) ∧
      code ≠ "external-decision-boundary" := by
  unfold precondition at h
  split_ifs at h
  · cases h
    exact ⟨by decide +kernel, by decide +kernel, by decide +kernel, by decide⟩
  · cases h
    exact ⟨by decide +kernel, by decide +kernel, by decide +kernel, by decide⟩
  · cases h
    exact ⟨by decide +kernel, by decide +kernel, by decide +kernel, by decide⟩
  · cases h
    exact ⟨by decide +kernel, by decide +kernel, by decide +kernel, by decide⟩
  · cases h
    exact ⟨by decide +kernel, by decide +kernel, by decide +kernel, by decide⟩

/-- Does a support of the service look like an instruction? -/
def injected (T : TextChecks) (supports : List Support) : Bool := supports.any (T.looksLikeEmbeddedInstruction ·.content)

/-- **What the service refuses with**, by the code of the refusal. -/
theorem control_refuses {code : String} {result : ModelResult} (h : Assistant.control C query supports = some (code, result)) :
    (code = "prompt-injection" → result.candidate.evidenceReasonCodes = []) ∧
      (code = "inactive-support" → result.candidate.evidenceReasonCodes = [.missingEvidence]) ∧
      (code = "conflicting-support" → result.candidate.evidenceReasonCodes = [.conflictingEvidence]) ∧
      (code = "external-decision-boundary" → precondition supports (injected C.text supports) = none) := by
  have hinj : ∀ {c : String} {a : ModelResult}, some (c, a) = some (code, result) → c = code ∧ a = result :=
    fun heq => Prod.mk.inj (Option.some.inj heq)
  unfold Assistant.control at h
  split at h
  next outcome code' message hprecondition =>
    obtain ⟨rfl, rfl⟩ := hinj h
    obtain ⟨hinjection, hinactive, hconflicting, hexternal⟩ := precondition_reasons hprecondition
    exact ⟨hinjection, hinactive, hconflicting, fun hcode => absurd hcode hexternal⟩
  next hprecondition =>
    -- no other code is that of a defect
    split_ifs at h
    · obtain ⟨rfl, rfl⟩ := hinj h
      exact ⟨by decide, by decide, by decide, fun _ => hprecondition⟩
    · obtain ⟨rfl, rfl⟩ := hinj h
      exact ⟨by decide, by decide, by decide, fun _ => hprecondition⟩
    · obtain ⟨rfl, rfl⟩ := hinj h
      exact ⟨fun hcode => absurd hcode (by decide), fun hcode => absurd hcode (by decide),
        fun hcode => absurd hcode (by decide), fun _ => hprecondition⟩
    · split at h
      · obtain ⟨rfl, rfl⟩ := hinj h
        exact ⟨by decide, by decide, by decide, fun _ => hprecondition⟩
      · obtain ⟨rfl, rfl⟩ := hinj h
        exact ⟨by decide, by decide, by decide, fun _ => hprecondition⟩
      · cases h

/-- The service asks the model only over active supports and outside the boundary. -/
theorem control_eq_none (h : Assistant.control C query supports = none) :
    precondition supports (injected C.text supports) = none ∧ C.text.isExternalDecisionRequest query.question = false := by
  unfold Assistant.control at h
  split at h
  · cases h
  next hprecondition =>
    split_ifs at h with _ _ hexternal
    exact ⟨hprecondition, by simpa using hexternal⟩

/-- The verdict of the service once it asks the model. -/
def modelVerdict (C : Config ι) (E : Environment ι) (query : Query) (session : ActorSession) (supports : List Support) :
    Except Failure Verdict :=
  match consultModel C E query session supports (query.requests.map ToolRequest.tool) with
  | .error e => onFailure supports (query.requests.map ToolRequest.tool) e
  | .ok v => .ok v

/-- What the service observes where its tools return `executed`. -/
theorem observe_verdict {executed : List Support} {result : ModelResult} (htools : executeTools C E query = .ok executed) :
    (verdict C (answering E result) query session).map observeVerdict =
      match Assistant.control C query (supportsForQueryMode executed query.mode) with
      | some (code, result) => .ok (observe result.candidate [code])
      | none => (modelVerdict C (answering E result) query session (supportsForQueryMode executed query.mode)).map
          observeVerdict := by
  have hexec : executeTools C (answering E result) query = .ok executed := htools
  rw [verdict, hexec]
  dsimp only
  cases Assistant.control C query (supportsForQueryMode executed query.mode) with
  | some answer => rfl
  | none => rfl

theorem asked_iff {executed : List Support} {result : ModelResult} (htools : executeTools C E query = .ok executed) :
    modelInputs C (answering E result) query session ≠ [] ↔
      Assistant.control C query (supportsForQueryMode executed query.mode) = none := by
  have hexec : executeTools C (answering E result) query = .ok executed := htools
  rw [modelInputs, hexec]
  dsimp only
  cases Assistant.control C query (supportsForQueryMode executed query.mode) with
  | some answer => simp
  | none => simp

/-! ### The adapter -/

/-- The case has supports, none like an instruction, and each active or restricted. -/
def Open (T : TextChecks) (item : FormalCase) : Prop :=
  item.supports ≠ [] ∧ (∀ support ∈ item.supports, T.looksLikeEmbeddedInstruction support.content = false) ∧
    ∀ support ∈ item.supports, support.status = .active ∨ support.status = .restricted

variable {T : TextChecks} {request : Access}

theorem open_of_passed (hnil : item.supports ≠ [])
    (hinjection : ¬item.supports.any (T.looksLikeEmbeddedInstruction ·.content) = true)
    (hinactive : ¬item.supports.any (·.status ∉ [.active, .conflicting, .restricted]) = true)
    (hconflicting : ¬item.supports.any (·.status = .conflicting) = true) : Open T item := by
  refine ⟨hnil, fun support hmem => ?_, fun support hmem => ?_⟩
  · exact eq_false_of_ne_true fun hlooks => hinjection (List.any_eq_true.mpr ⟨support, hmem, hlooks⟩)
  · have hlisted : support.status ∈ [SupportState.active, .conflicting, .restricted] := by
      by_contra hnot
      exact hinactive (List.any_eq_true.mpr ⟨support, hmem, decide_eq_true hnot⟩)
    have hother : support.status ≠ .conflicting := fun heq =>
      hconflicting (List.any_eq_true.mpr ⟨support, hmem, decide_eq_true heq⟩)
    simp only [List.mem_cons, List.not_mem_nil, or_false] at hlisted
    obtain h | h | h := hlisted
    · exact Or.inl h
    · exact absurd h hother
    · exact Or.inr h

/-- **What the governed adapter refuses with.** -/
theorem precondition_governed (hpermitted : isFormalAccessPermitted item request = true) {outcome : Outcome} {code : String}
    (h : formalPrecondition T item (profiles .governedEvllm) request = some (outcome, code)) :
    item.supports = [] ∨ (outcome = .abstain ∧ code = "prompt-injection") ∨ (outcome = .abstain ∧ code = "inactive-support") ∨
      (outcome = .requiresExternalDecision ∧ code = "conflicting-support") ∨
      (outcome = .requiresExternalDecision ∧ code = "external-decision-boundary" ∧ Open T item ∧
        T.isExternalDecisionRequest item.prompt = true) := by
  simp only [formalPrecondition, profiles, hpermitted, not_true_eq_false, and_false, true_and, if_false] at h
  split_ifs at h with hnil hinjection hinactive hconflicting hexternal
  · exact Or.inl hnil
  · cases h
    exact Or.inr (Or.inl ⟨rfl, rfl⟩)
  · cases h
    exact Or.inr (Or.inr (Or.inl ⟨rfl, rfl⟩))
  · cases h
    exact Or.inr (Or.inr (Or.inr (Or.inl ⟨rfl, rfl⟩)))
  · cases h
    exact Or.inr (Or.inr (Or.inr (Or.inr ⟨rfl, rfl, open_of_passed hnil hinjection hinactive hconflicting, hexternal⟩)))

theorem precondition_governed_none (hpermitted : isFormalAccessPermitted item request = true)
    (h : formalPrecondition T item (profiles .governedEvllm) request = none) :
    Open T item ∧ T.isExternalDecisionRequest item.prompt = false := by
  simp only [formalPrecondition, profiles, hpermitted, not_true_eq_false, and_false, true_and, if_false] at h
  split_ifs at h with hnil hinjection hinactive hconflicting hexternal
  exact ⟨open_of_passed hnil hinjection hinactive hconflicting, eq_false_of_ne_true hexternal⟩

/-- An open case is refused at the external boundary only. -/
theorem precondition_open (hpermitted : isFormalAccessPermitted item request = true) (h : Open T item) :
    formalPrecondition T item (profiles .governedEvllm) request =
      if T.isExternalDecisionRequest item.prompt then
        some (.requiresExternalDecision, "external-decision-boundary")
      else
        none := by
  obtain ⟨hnil, hcontents, hstatuses⟩ := h
  have hinjection : item.supports.any (T.looksLikeEmbeddedInstruction ·.content) = false :=
    List.any_eq_false.mpr fun support hmem => by rw [hcontents support hmem]; exact Bool.false_ne_true
  have hinactive : item.supports.any (·.status ∉ [.active, .conflicting, .restricted]) = false := by
    refine List.any_eq_false.mpr fun support hmem => ?_
    obtain hstatus | hstatus := hstatuses support hmem <;> simp [hstatus]
  have hconflicting : item.supports.any (·.status = .conflicting) = false := by
    refine List.any_eq_false.mpr fun support hmem => ?_
    obtain hstatus | hstatus := hstatuses support hmem <;> simp [hstatus]
  simp only [formalPrecondition, profiles, hpermitted, hnil, hinjection, hinactive, hconflicting, not_true_eq_false,
    and_false, true_and, if_false, Bool.false_eq_true]

/-! ### The recorded decision of a case -/

/-- Where a decision is explained there is exactly one. -/
theorem resolve_recorded (h : item.accepted = true) (hmode : item.queryMode = .explainRecordedDecision) :
    ∃ d, resolveActiveRecordedDecision (projectSupports commitmentOf .governedEvllm item) = .consistent d := by
  simp only [FormalCase.accepted, hmode, Bool.decide_and, Bool.and_eq_true, decide_eq_true_eq] at h
  rw [← @activeDecisions_projected commitmentOf item] at h
  obtain ⟨d, hd⟩ := List.length_eq_one_iff.mp h.2.2
  refine ⟨normalizeRecordedDecision d, ?_⟩
  rw [resolveActiveRecordedDecision, hd]
  simp

/-- Where records are explained there is none. -/
theorem no_activeDecision (h : item.accepted = true) (hmode : item.queryMode = .explainRecords) :
    (projectSupports commitmentOf .governedEvllm item).filterMap Support.activeDecision = [] := by
  simp only [FormalCase.accepted, hmode, Bool.decide_and, Bool.and_eq_true, decide_eq_true_eq] at h
  rw [activeDecisions_projected]
  exact List.length_eq_zero_iff.mp h.2.2

/-! ### Errors of a release -/

/-- The service does not catch the error. -/
def Uncaught (e : Failure) : Prop := e.validationCode = none

theorem statement_lands (d : RecordedDecision) : Lands Uncaught (recordedDecisionStatement d) fun _ => True := by
  unfold recordedDecisionStatement
  dsimp only
  split
  · trivial
  · trivial
  · split
    · exact rfl
    · trivial

theorem citedContent_lands (support : Support) : Lands Uncaught (citedContent support) fun _ => True := by
  unfold citedContent
  split
  · trivial
  · exact lands_bind (statement_lands _) fun _ _ => trivial

theorem validateClaim_lands (claim : Claim) : Lands Uncaught (validateAssistantClaim T claim supports) fun _ => True := by
  unfold validateAssistantClaim
  dsimp only
  split_ifs
  · trivial
  · refine lands_bind (P := fun _ => True) ?_ fun _ _ => trivial
    exact lands_bind (lands_mapM fun support _ => citedContent_lands support) fun _ _ => trivial
  · trivial

theorem validate_lands (candidate : Candidate) (question : String) :
    Lands Uncaught (validateAssistantCandidate T candidate supports question) fun _ => True := by
  unfold validateAssistantCandidate
  refine lands_bind (P := fun _ => True) ?_ fun _ _ => lands_bind (P := fun _ => True) ?_ fun _ _ => trivial
  · refine (lands_mapM (P := fun _ => True) fun claim _ => ?_).mono fun _ _ => trivial
    exact lands_bind (validateClaim_lands claim) fun _ _ => lands_pure trivial
  · unfold resolutionStatement
    split
    · exact lands_bind (statement_lands _) fun _ _ => trivial
    · trivial

theorem materialize_lands (candidate : Candidate) (screen : Bool) :
    Lands Uncaught (materializeAssistantCandidateWithRecordedDecision T candidate supports screen) fun _ => True := by
  unfold materializeAssistantCandidateWithRecordedDecision
  split
  · refine lands_bind (P := fun _ => True) ?_ fun _ _ => trivial
    refine lands_bind (statement_lands _) fun _ _ => lands_bind (lands_filterM fun claim _ => ?_) fun _ _ => trivial
    unfold retainClaim
    split_ifs
    · exact lands_bind (validateClaim_lands claim) fun _ _ => trivial
    · trivial
  · trivial

/-- A release fails only in ways that the service does not catch. -/
theorem release_lands (candidate : Candidate) (question : String) (screen : Bool) :
    Lands Uncaught (releaseAssistantCandidateWithRecordedDecision T candidate supports question screen) fun _ => True := by
  unfold releaseAssistantCandidateWithRecordedDecision
  refine lands_bind (materialize_lands candidate screen) fun materialized _ => ?_
  obtain ⟨materialized, resolution⟩ := materialized
  dsimp only
  split_ifs
  · refine lands_bind (validate_lands materialized question) fun codes _ => ?_
    unfold releaseValidated
    split
    · unfold releaseFixedOnly
      refine lands_bind (materialize_lands _ _) fun fixed _ => lands_bind (validate_lands _ _) fun codes _ => ?_
      exact lands_throwIf rfl fun _ => trivial
    · trivial
  · trivial

/-! ### Asking the model -/

/-- What a user is told of a release. -/
def released (r : Release) : Observation :=
  if r.validationCodes = [] then observe r.candidate [] else ⟨.abstain, none, [], r.validationCodes⟩

/-- Both fall back on the same observation. -/
theorem fallback_observed (codes : List String) :
    observe (deterministicResult .abstain "Generated response failed support validation." []).candidate codes =
        ⟨.abstain, none, [], codes⟩ ∧
      observe (refusal .abstain "The generated response failed support validation.").candidate codes =
        ⟨.abstain, none, [], codes⟩ := by
  have hreasons : reasonCodes "Generated response failed support validation." .abstain = [] := by decide +kernel
  have hreasons' : reasonCodesForOutcome .abstain "The generated response failed support validation." = [] := by
    decide +kernel
  refine ⟨?_, ?_⟩
  · rw [observe, deterministicResult, hreasons]
  · rw [observe, refusal, hreasons']
    rfl

theorem askModel_released (result : ModelResult) :
    (askModel C.text .governedEvllm item (contextOf query session result) supports).map observeExecution =
      (releaseAssistantCandidateWithRecordedDecision C.text result.candidate supports item.prompt true).map released := by
  have hasked : askModel C.text .governedEvllm item (contextOf query session result) supports = (do
      let release ← releaseAssistantCandidateWithRecordedDecision C.text result.candidate supports item.prompt true
      if release.validationCodes = [] then
        return answered .governedEvllm { result with candidate := release.candidate } [] supports result
          release.validationCandidate
      else
        return answered .governedEvllm (deterministicResult .abstain "Generated response failed support validation." [])
          release.validationCodes supports result release.validationCandidate) := by
    have hcontrols : (profiles .governedEvllm).deterministicRules = true ∧ (profiles .governedEvllm).outputValidation = true :=
      ⟨rfl, rfl⟩
    simp only [askModel, releaseOf, contextOf, hcontrols, if_true, bind, Except.bind]
    cases releaseAssistantCandidateWithRecordedDecision C.text result.candidate supports item.prompt true <;> rfl
  rw [hasked]
  cases releaseAssistantCandidateWithRecordedDecision C.text result.candidate supports item.prompt true with
  | error e => rfl
  | ok r =>
    by_cases hcodes : r.validationCodes = []
    · simp only [bind, Except.bind, pure, Except.pure, Except.map, released, if_pos hcodes]
      rfl
    · simp only [bind, Except.bind, pure, Except.pure, Except.map, released, if_neg hcodes]
      exact congrArg Except.ok (fallback_observed r.validationCodes).1

theorem modelVerdict_released (result : ModelResult) :
    (modelVerdict C (answering E result) query session supports).map observeVerdict =
      (releaseAssistantCandidateWithRecordedDecision C.text result.candidate supports query.question true).map released := by
  have hlands : Lands Uncaught (releaseAssistantCandidateWithRecordedDecision C.text result.candidate supports query.question
      true) fun _ => True := release_lands result.candidate query.question true
  obtain ⟨source, hconsult⟩ : ∃ source : Release → _,
      consultModel C (answering E result) query session supports (query.requests.map ToolRequest.tool) = (do
        let release ← releaseAssistantCandidateWithRecordedDecision C.text result.candidate supports query.question true
        if release.validationCodes = [] then
          return ⟨supports, query.requests.map ToolRequest.tool, [], { result with candidate := release.candidate },
            source release⟩
        else
          return ⟨supports, query.requests.map ToolRequest.tool, release.validationCodes,
            refusal .abstain "The generated response failed support validation.", .validationFallback⟩) := ⟨_, rfl⟩
  rw [modelVerdict, hconsult]
  cases hrelease : releaseAssistantCandidateWithRecordedDecision C.text result.candidate supports query.question true with
  | error e =>
    rw [hrelease] at hlands
    have huncaught : e.validationCode = none := hlands
    simp only [bind, Except.bind, onFailure, huncaught]
    rfl
  | ok r =>
    by_cases hcodes : r.validationCodes = []
    · simp only [bind, Except.bind, pure, Except.pure, Except.map, released, if_pos hcodes]
      rfl
    · simp only [bind, Except.bind, pure, Except.pure, Except.map, released, if_neg hcodes]
      exact congrArg Except.ok (fallback_observed r.validationCodes).2

/-! ### The cases -/

/-- A case that the adapter does not refuse is put to the model. -/
theorem adapter_asks (commitmentOf : CommitmentOf) (haccepted : item.accepted = true) (result : ModelResult)
    (h : formalPrecondition T item (profiles .governedEvllm) (contextOf query session result).request = none) :
    willInvokeModel T commitmentOf .governedEvllm item (contextOf query session result) = true ∧
      execute T commitmentOf .governedEvllm item (contextOf query session result) =
        askModel T .governedEvllm item (contextOf query session result)
          (projectSupports commitmentOf .governedEvllm item) := by
  have hrules : (profiles .governedEvllm).deterministicRules = true := rfl
  unfold execute willInvokeModel recordedDecisionPrecondition
  simp only [h, Option.isSome_none, Bool.false_eq_true, if_false, hrules, not_true_eq_false, or_false]
  cases hmode : item.queryMode with
  | explainRecords => simp
  | explainRecordedDecision =>
    obtain ⟨d, hd⟩ := @resolve_recorded commitmentOf item haccepted hmode
    simp [hd]

/-- The supports of the case that the service sees. -/
def visible (commitmentOf : CommitmentOf) (item : FormalCase) : List Support :=
  supportsForQueryMode (projectSupports commitmentOf .governedEvllm item) item.queryMode

theorem mem_visible {support : Support} : support ∈ visible commitmentOf item ↔
    support ∈ projectSupports commitmentOf .governedEvllm item ∧
      (item.queryMode = .explainRecords → support.recordedDecision = none) := by
  unfold visible
  cases item.queryMode with
  | explainRecordedDecision => simp [supportsForQueryMode]
  | explainRecords => simp [supportsForQueryMode]

/-- Past its precondition the service refuses at the external boundary only. -/
theorem service_open (h : Deployed C E commitmentOf item query session)
    (hprecondition : precondition (visible commitmentOf item) (injected C.text (visible commitmentOf item)) = none) :
    Assistant.control C query (visible commitmentOf item) =
      if C.text.isExternalDecisionRequest item.prompt then
        some ("external-decision-boundary", Assistant.deterministicResult .requiresExternalDecision
          "The request requires a decision by an accountable external authority."
          (citedActiveClaims (visible commitmentOf item)) none (reasonCodesForOutcome .requiresExternalDecision
            "The request requires a decision by an accountable external authority."))
      else
        none := by
  have hfits := h.fits
  rw [← visible, ← not_lt] at hfits
  unfold injected at hprecondition
  unfold Assistant.control
  rw [hprecondition]
  dsimp only
  rw [if_neg hfits, h.prompt, h.authority, if_neg Bool.false_ne_true, h.mode]
  split_ifs
  · rfl
  · cases hmode : item.queryMode with
    | explainRecords =>
      have hres : resolveActiveRecordedDecision (visible commitmentOf item) = .absent := by
        rw [visible, hmode]
        exact resolve_explainRecords _
      rw [hres]
    | explainRecordedDecision =>
      obtain ⟨d, hd⟩ := @resolve_recorded commitmentOf item h.accepted hmode
      have hres : resolveActiveRecordedDecision (visible commitmentOf item) = .consistent d := by
        rw [visible, hmode]
        exact hd
      rw [hres]

/-- Active supports are all shown. -/
theorem visible_of_active (haccepted : item.accepted = true)
    (hactive : ∀ support ∈ projectSupports commitmentOf .governedEvllm item, support.status = .active) :
    visible commitmentOf item = projectSupports commitmentOf .governedEvllm item := by
  unfold visible
  cases hmode : item.queryMode with
  | explainRecordedDecision => rfl
  | explainRecords =>
    refine List.filter_eq_self.mpr fun support hmem => decide_eq_true ?_
    have hnone := List.filterMap_eq_nil_iff.mp (@no_activeDecision commitmentOf item haccepted hmode) support hmem
    rwa [Support.activeDecision, if_pos (hactive support hmem)] at hnone

/-! ### An answer that tells restricted supports -/

/-- A model that abstains for inactive evidence. -/
def inactiveAnswer : ModelResult where
  candidate := { emptyExplanationCandidate with evidenceReasonCodes := [.inactiveEvidence] }
  model := ""
  provider := ""
  responseId := none
  inputTokens := none
  outputTokens := none

theorem mem_pushIf {c : Prop} [Decidable c] {code string : String} : string ∈ pushIf c code ↔ c ∧ string = code := by
  unfold pushIf
  split_ifs with h <;> simp [h]

theorem released_codes (r : Release) : (released r).validationCodes = r.validationCodes := by
  unfold released
  split_ifs with h
  · rw [h]
    rfl
  · rfl

/-- Its reason code is incoherent unless a support is inactive. -/
theorem inactive_coherent (hres : resolveActiveRecordedDecision supports = .absent) :
    reasonCodesAreCoherent T inactiveAnswer.candidate supports = true ↔
      supports.any (·.status ∈ [.restricted, .stale, .revoked, .superseded]) = true := by
  simp only [reasonCodesAreCoherent, hres, inactiveAnswer, emptyExplanationCandidate, expectedReasonCodes]
  simp

theorem inactive_released (hres : resolveActiveRecordedDecision supports = .absent) (question : String) :
    ∃ r, releaseAssistantCandidateWithRecordedDecision T inactiveAnswer.candidate supports question true = .ok r ∧
      ("incoherent-reason-code" ∈ r.validationCodes ↔
        ¬supports.any (·.status ∈ [.restricted, .stale, .revoked, .superseded]) = true) := by
  have hvalidate : ∃ codes, validateAssistantCandidate T inactiveAnswer.candidate supports question = .ok codes ∧
      ("incoherent-reason-code" ∈ codes ↔
        ¬supports.any (·.status ∈ [.restricted, .stale, .revoked, .superseded]) = true) := by
    have hclaims : inactiveAnswer.candidate.claims = [] := rfl
    refine ⟨_, by
      rw [validateAssistantCandidate, hres, hclaims, List.mapM_nil]
      rfl, ?_⟩
    rw [mem_sortStrings, List.mem_eraseDups, ← inactive_coherent (T := T) hres]
    simp only [List.mem_append, decisionFieldCodes, decisionTextCodes, visibleTextCodes, candidateCodes, List.mem_flatMap,
      mem_pushIf]
    simp
  obtain ⟨codes, hcodes, hmem⟩ := hvalidate
  refine ⟨⟨inactiveAnswer.candidate, inactiveAnswer.candidate, codes, .absent, false⟩, ?_, hmem⟩
  simp only [releaseAssistantCandidateWithRecordedDecision, materializeAssistantCandidateWithRecordedDecision, hres]
  rw [bind_eq_ok]
  refine ⟨_, rfl, ?_⟩
  simp only [if_true, hcodes]
  cases codes <;> rfl

/-! ### Agreement -/

/-- What the service sees of an open case is active: then every support is, or
the restricted ones are those whose decision is not shown. -/
theorem statuses_of_visible (haccepted : item.accepted = true) (hopen : Open T item) (hne : visible commitmentOf item ≠ [])
    (hactive : ∀ support ∈ visible commitmentOf item, support.status = .active) :
    (∀ support ∈ item.supports, support.status = .active) ∨
      (item.queryMode = .explainRecords ∧ (∃ support ∈ item.supports, support.recordedDecision = none) ∧
        ∀ support ∈ item.supports,
          support.status = if support.recordedDecision = none then .active else .restricted) := by
  cases hmode : item.queryMode with
  | explainRecordedDecision =>
    refine Or.inl ((@forall_projected commitmentOf item fun view => view.status = .active).mp ?_)
    exact fun support hmem => hactive support (mem_visible.mpr ⟨hmem, fun h => by rw [hmode] at h; cases h⟩)
  | explainRecords =>
    refine Or.inr ⟨rfl, ?_, ?_⟩
    · obtain ⟨support, hmem⟩ := List.exists_mem_of_ne_nil _ hne
      obtain ⟨hprojected, hnone⟩ := mem_visible.mp hmem
      exact (@exists_projected commitmentOf item fun view => view.recordedDecision = none).mp
        ⟨support, hprojected, hnone hmode⟩
    · have hstatus : ∀ support ∈ projectSupports commitmentOf .governedEvllm item,
          support.status = .active ∨ support.status = .restricted :=
        (forall_projected fun view => view.status = .active ∨ view.status = .restricted).mpr hopen.2.2
      refine (@forall_projected commitmentOf item fun view =>
        view.status = if view.recordedDecision = none then .active else .restricted).mp fun support hmem => ?_
      by_cases hdecision : support.recordedDecision = none
      · simpa [viewOf, hdecision] using hactive support (mem_visible.mpr ⟨hmem, fun _ => hdecision⟩)
      · -- an active decision would be counted by the schema
        have hnotActive : support.status ≠ .active := by
          intro hstatusActive
          have hnone := List.filterMap_eq_nil_iff.mp (@no_activeDecision commitmentOf item haccepted hmode)
            support hmem
          rw [Support.activeDecision, if_pos hstatusActive] at hnone
          exact hdecision hnone
        simpa [viewOf, hdecision] using (hstatus support hmem).resolve_left hnotActive

/-- A restricted support whose decision is not shown tells the two releases apart. -/
theorem releases_differ (haccepted : item.accepted = true) (hmode : item.queryMode = .explainRecords)
    (hactive : ∀ support ∈ visible commitmentOf item, support.status = .active)
    (hrestricted : ∃ support ∈ item.supports, support.status = .restricted) (question : String) :
    (releaseAssistantCandidateWithRecordedDecision T inactiveAnswer.candidate
        (projectSupports commitmentOf .governedEvllm item) question true).map released ≠
      (releaseAssistantCandidateWithRecordedDecision T inactiveAnswer.candidate (visible commitmentOf item) question
        true).map released := by
  have hres : resolveActiveRecordedDecision (projectSupports commitmentOf .governedEvllm item) = .absent := by
    rw [resolveActiveRecordedDecision, no_activeDecision haccepted hmode]
    rfl
  have hresVisible : resolveActiveRecordedDecision (visible commitmentOf item) = .absent := by
    rw [visible, hmode]
    exact resolve_explainRecords _
  obtain ⟨r, hr, hmem⟩ := inactive_released (T := T) hres question
  obtain ⟨r', hr', hmem'⟩ := inactive_released (T := T) hresVisible question
  have hinactive : (projectSupports commitmentOf .governedEvllm item).any
      (·.status ∈ [.restricted, .stale, .revoked, .superseded]) = true := by
    obtain ⟨support, hsupport, hstatus⟩ :=
      (@exists_projected commitmentOf item fun view => view.status = .restricted).mpr hrestricted
    have hstatus' : support.status = .restricted := hstatus
    exact List.any_eq_true.mpr ⟨support, hsupport, by simp [hstatus']⟩
  have hall : ¬(visible commitmentOf item).any (·.status ∈ [.restricted, .stale, .revoked, .superseded]) = true := by
    intro hany
    obtain ⟨support, hsupport, hstatus⟩ := List.any_eq_true.mp hany
    rw [hactive support hsupport] at hstatus
    exact absurd hstatus (by decide)
  rw [hr, hr']
  intro heq
  have hcodes : r.validationCodes = r'.validationCodes := by
    rw [← released_codes r, ← released_codes r', Except.ok.inj heq]
  rw [hcodes] at hmem
  exact (hmem.mp (hmem'.mpr hall)) hinactive

theorem visible_of_deployed (h : Deployed C E commitmentOf item query session) :
    supportsForQueryMode (projectSupports commitmentOf .governedEvllm item) query.mode = visible commitmentOf item := by
  rw [h.mode]
  rfl

/-- A case that the adapter refuses, the service must refuse with the same. -/
theorem refused_alike (h : Deployed C E commitmentOf item query session) {outcome : Outcome} {code : String}
    (hrefused : formalPrecondition C.text item (profiles .governedEvllm) ⟨session.organizationId, query.purposeId⟩ =
      some (outcome, code)) {answer : ModelResult} (hsame : SameFor C E commitmentOf item query session answer) :
    ∃ result, Assistant.control C query (visible commitmentOf item) = some (code, result) ∧
      reasonCodes code outcome = result.candidate.evidenceReasonCodes := by
  obtain ⟨hobserved, hasked⟩ := hsame
  have hrequest : (contextOf query session answer).request = ⟨session.organizationId, query.purposeId⟩ := rfl
  rw [asked_iff h.tools, visible_of_deployed h, willInvokeModel, hrequest, hrefused] at hasked
  rw [observe_verdict h.tools, visible_of_deployed h, execute, hrequest, hrefused] at hobserved
  cases hcontrol : Assistant.control C query (visible commitmentOf item) with
  | none =>
    rw [hcontrol] at hasked
    exact absurd (hasked.mpr rfl) (by simp)
  | some answer =>
    obtain ⟨code', result⟩ := answer
    rw [hcontrol] at hobserved
    have hequal : observeExecution (deterministic commitmentOf .governedEvllm item outcome code) =
        observe result.candidate [code'] := Except.ok.inj hobserved
    have hcodes : [code] = [code'] := congrArg Observation.validationCodes hequal
    have hreasons : reasonCodes code outcome = result.candidate.evidenceReasonCodes :=
      congrArg Observation.evidenceReasonCodes hequal
    obtain rfl : code = code' := List.singleton_inj.mp hcodes
    exact ⟨result, rfl, hreasons⟩

/-- Where they agree for the answer that tells restricted supports, the case is alike. -/
theorem alike_of_same (h : Deployed C E commitmentOf item query session)
    (hsame : SameFor C E commitmentOf item query session inactiveAnswer) : Alike C.text item := by
  have hpassed : ∀ {supports : List Support}, precondition supports (injected C.text supports) = none →
      supports ≠ [] ∧ ∀ support ∈ supports, support.status = .active := fun hnone => (precondition_eq_none.mp hnone).2
  cases hrefused : formalPrecondition C.text item (profiles .governedEvllm) ⟨session.organizationId, query.purposeId⟩ with
  | some defect =>
    obtain ⟨outcome, code⟩ := defect
    obtain ⟨result, hcontrol, hreasons⟩ := refused_alike h hrefused hsame
    obtain ⟨hinjection, hinactive, hconflicting, hexternal⟩ := control_refuses hcontrol
    obtain hnil | ⟨rfl, rfl⟩ | ⟨rfl, rfl⟩ | ⟨rfl, rfl⟩ | ⟨rfl, rfl, hopen, hboundary⟩ :=
      precondition_governed h.permitted hrefused
    · exact Or.inl hnil
    · rw [hinjection rfl] at hreasons
      exact absurd hreasons (by decide)
    · rw [hinactive rfl] at hreasons
      exact absurd hreasons (by decide)
    · rw [hconflicting rfl] at hreasons
      exact absurd hreasons (by decide)
    · obtain ⟨hne, hactive⟩ := hpassed (hexternal rfl)
      refine Or.inr ⟨hopen.2.1, (statuses_of_visible h.accepted hopen hne hactive).imp id ?_⟩
      rintro ⟨hmode, hshown, hstatuses⟩
      exact ⟨hmode, hboundary, hshown, hstatuses⟩
  | none =>
    obtain ⟨hopen, -⟩ := precondition_governed_none h.permitted hrefused
    obtain ⟨hwill, hexecute⟩ := adapter_asks commitmentOf h.accepted inactiveAnswer hrefused
    obtain ⟨hobserved, hasked⟩ := hsame
    rw [asked_iff h.tools, visible_of_deployed h] at hasked
    have hcontrol := hasked.mp hwill
    obtain ⟨hne, hactive⟩ := hpassed (control_eq_none hcontrol).1
    refine Or.inr ⟨hopen.2.1, Or.inl ?_⟩
    obtain hall | ⟨hmode, -, hstatuses⟩ := statuses_of_visible h.accepted hopen hne hactive
    · exact hall
    · -- the releases differ if a support is restricted
      by_contra hsome
      simp only [not_forall] at hsome
      obtain ⟨support, hmem, hstatus⟩ := hsome
      have hrestricted : support.status = .restricted := (hopen.2.2 support hmem).resolve_left hstatus
      rw [hexecute, askModel_released, observe_verdict h.tools, visible_of_deployed h, hcontrol] at hobserved
      dsimp only at hobserved
      rw [modelVerdict_released, h.prompt] at hobserved
      exact releases_differ h.accepted hmode hactive ⟨support, hmem, hrestricted⟩ item.prompt hobserved

theorem open_of_alike (hne : item.supports ≠ []) (halike : Alike T item) : Open T item := by
  obtain hnil | ⟨hcontents, hall | ⟨-, -, -, hstatuses⟩⟩ := halike
  · exact absurd hnil hne
  · exact ⟨hne, hcontents, fun support hmem => Or.inl (hall support hmem)⟩
  · refine ⟨hne, hcontents, fun support hmem => ?_⟩
    rw [hstatuses support hmem]
    split_ifs
    · exact Or.inl rfl
    · exact Or.inr rfl

/-- The service has no defect to refuse in an alike case. -/
theorem precondition_alike (haccepted : item.accepted = true) (hne : item.supports ≠ []) (halike : Alike T item) :
    precondition (visible commitmentOf item) (injected T (visible commitmentOf item)) = none := by
  obtain hnil | ⟨hcontents, hstatuses⟩ := halike
  · exact absurd hnil hne
  have hcontent : ∀ support ∈ projectSupports commitmentOf .governedEvllm item,
      T.looksLikeEmbeddedInstruction support.content = false :=
    (forall_projected fun view => T.looksLikeEmbeddedInstruction view.content = false).mpr hcontents
  refine precondition_eq_none.mpr ⟨List.any_eq_false.mpr fun support hmem => ?_, ?_⟩
  · rw [hcontent support (mem_visible.mp hmem).1]
    exact Bool.false_ne_true
  obtain hall | ⟨hmode, -, hshown, hif⟩ := hstatuses
  · have hactive : ∀ support ∈ projectSupports commitmentOf .governedEvllm item, support.status = .active :=
      (forall_projected fun view => view.status = .active).mpr hall
    rw [visible_of_active haccepted hactive]
    exact ⟨fun hnil => hne (projected_eq_nil.mp hnil), hactive⟩
  · obtain ⟨support, hsupport, hdecision⟩ :=
      (@exists_projected commitmentOf item fun view => view.recordedDecision = none).mpr hshown
    refine ⟨List.ne_nil_of_mem (mem_visible.mpr ⟨hsupport, fun _ => hdecision⟩), fun support hmem => ?_⟩
    obtain ⟨hprojected, hnone⟩ := mem_visible.mp hmem
    have hstatus := (@forall_projected commitmentOf item fun view =>
      view.status = if view.recordedDecision = none then .active else .restricted).mpr hif support hprojected
    simpa [viewOf, hnone hmode] using hstatus

/-- Without supports both refuse, for missing evidence. -/
theorem same_of_nil (h : Deployed C E commitmentOf item query session) (hnil : item.supports = []) (result : ModelResult) :
    SameFor C E commitmentOf item query session result := by
  have hprojected : projectSupports commitmentOf .governedEvllm item = [] := projected_eq_nil.mpr hnil
  have hvisible : visible commitmentOf item = [] := by
    rw [visible, hprojected]
    cases item.queryMode <;> rfl
  have hrefused : formalPrecondition C.text item (profiles .governedEvllm) (contextOf query session result).request =
      some (.abstain, "missing-support") := by
    have hpermitted := h.permitted
    simp [formalPrecondition, profiles, contextOf, ConditionContext.request, hpermitted, hnil]
  have hcontrol : Assistant.control C query (visible commitmentOf item) =
      some ("missing-support", refusal .abstain "No authorized support was available.") := by
    rw [hvisible]
    rfl
  have hreasons : reasonCodesForOutcome .abstain "No authorized support was available." = [.missingEvidence] := by
    decide +kernel
  refine ⟨?_, ?_⟩
  · rw [observe_verdict h.tools, visible_of_deployed h, hcontrol, execute, hrefused]
    dsimp only
    rw [refusal, hreasons]
    rfl
  · rw [asked_iff h.tools, visible_of_deployed h, hcontrol, willInvokeModel, hrefused]
    simp

/-- **Alike cases are answered alike**, whatever the model answers. -/
theorem same_of_alike (h : Deployed C E commitmentOf item query session) (halike : Alike C.text item) (result : ModelResult) :
    SameFor C E commitmentOf item query session result := by
  by_cases hne : item.supports = []
  · exact same_of_nil h hne result
  have hrefused := precondition_open h.permitted (open_of_alike hne halike)
  have hcontrol := service_open h (precondition_alike h.accepted hne halike)
  have hrequest : (contextOf query session result).request = ⟨session.organizationId, query.purposeId⟩ := rfl
  by_cases hboundary : C.text.isExternalDecisionRequest item.prompt = true
  · rw [if_pos hboundary] at hrefused hcontrol
    have hreasons : reasonCodesForOutcome .requiresExternalDecision
        "The request requires a decision by an accountable external authority." = [.externalDecisionRequired] := by
      decide +kernel
    refine ⟨?_, ?_⟩
    · rw [observe_verdict h.tools, visible_of_deployed h, hcontrol, execute, hrequest, hrefused]
      dsimp only
      rw [hreasons]
      rfl
    · rw [asked_iff h.tools, visible_of_deployed h, hcontrol, willInvokeModel, hrequest, hrefused]
      simp
  · rw [if_neg hboundary] at hrefused hcontrol
    obtain ⟨hwill, hexecute⟩ := adapter_asks commitmentOf h.accepted result hrefused
    have hactive : ∀ support ∈ item.supports, support.status = .active := by
      obtain hnil | ⟨-, hall | ⟨-, hexternal, -⟩⟩ := halike
      · exact absurd hnil hne
      · exact hall
      · exact absurd hexternal hboundary
    have hshown := @visible_of_active commitmentOf item h.accepted
      ((forall_projected fun view => view.status = .active).mpr hactive)
    refine ⟨?_, ?_⟩
    · rw [observe_verdict h.tools, visible_of_deployed h, hcontrol, hexecute, askModel_released]
      dsimp only
      rw [modelVerdict_released, hshown, h.prompt]
    · rw [asked_iff h.tools, visible_of_deployed h]
      exact ⟨fun _ => hcontrol, fun _ => hwill⟩

/-- **The evaluated system is the deployed one just for the alike cases.** A
response tells the user what the verdict of its execution does. -/
theorem evaluated_as_deployed_iff (C : Config ι) (E : Environment ι) (commitmentOf : CommitmentOf) (item : FormalCase)
    (query : Query) (session : ActorSession) (h : Deployed C E commitmentOf item query session) :
    ((∀ result, SameFor C E commitmentOf item query session result) ↔ Alike C.text item) ∧
      ∀ result records correlationId r,
        (answerOnce C (answering E result) records query session correlationId).1 = .ok r →
        (verdict C (answering E result) query session).map observeVerdict = .ok (observeResponse r) := by
  refine ⟨⟨fun hall => alike_of_same h (hall inactiveAnswer), same_of_alike h⟩, fun result records correlationId r hr => ?_⟩
  obtain ⟨v, _, _, hv, -, -, rfl⟩ := answerOnce_archived (x := none) hr
  rw [hv]
  rfl

/-! An inspection that is on record, current or stale, and the question what it says. -/

def inspectionCase (status : SupportState) : FormalCase where
  prompt := "What does the inspection say?"
  supports := [⟨"support-1", "urn:evllm:evidence:00000000-0000-4000-8000-000000000001", 1, status,
    "The inspection found no swelling.", none⟩]
  queryMode := .explainRecords
  accessGrants := [⟨"organization", "urn:evllm:purpose:1"⟩]

def noCommitment : CommitmentOf := fun _ _ _ _ _ => ""

def caseEnvironment (item : FormalCase) : Environment Support :=
  { sampleEnvironment with execute := fun _ => .ok (projectSupports noCommitment .governedEvllm item) }

def caseQuery (item : FormalCase) : Query :=
  { sampleQuery with question := item.prompt, mode := item.queryMode, idempotencyKey := none }

theorem inspectionCase_deployed (status : SupportState) :
    Deployed sampleConfig (caseEnvironment (inspectionCase status)) noCommitment (inspectionCase status)
      (caseQuery (inspectionCase status)) sampleSession := by
  refine ⟨?_, rfl, rfl, ?_, ?_, ?_, rfl⟩
  · cases status <;> decide +kernel
  · cases status <;> rfl
  · cases status <;> decide +kernel
  · cases status <;> decide +kernel

/-- The current inspection is explained alike. -/
theorem current_inspection_alike :
    Deployed sampleConfig (caseEnvironment (inspectionCase .active)) noCommitment (inspectionCase .active)
        (caseQuery (inspectionCase .active)) sampleSession ∧
      ∀ result, SameFor sampleConfig (caseEnvironment (inspectionCase .active)) noCommitment (inspectionCase .active)
        (caseQuery (inspectionCase .active)) sampleSession result := by
  refine ⟨inspectionCase_deployed .active, ?_⟩
  refine (evaluated_as_deployed_iff _ _ _ _ _ _ (inspectionCase_deployed .active)).1.mpr (Or.inr ⟨?_, Or.inl ?_⟩)
  · exact fun _ _ => rfl
  · intro support hmem
    rw [List.mem_singleton.mp hmem]

/-- **A stale inspection is reported as missing by the service** and as inactive
by the adapter, whatever the model would answer. -/
theorem stale_inspection_differs :
    Deployed sampleConfig (caseEnvironment (inspectionCase .stale)) noCommitment (inspectionCase .stale)
        (caseQuery (inspectionCase .stale)) sampleSession ∧
      (∀ support ∈ projectSupports noCommitment .governedEvllm (inspectionCase .stale),
        support.accepted noCommitment = true) ∧
      ∀ result, ¬SameFor sampleConfig (caseEnvironment (inspectionCase .stale)) noCommitment (inspectionCase .stale)
        (caseQuery (inspectionCase .stale)) sampleSession result := by
  refine ⟨inspectionCase_deployed .stale, by decide +kernel, fun result hsame => ?_⟩
  have hrefused : formalPrecondition sampleConfig.text (inspectionCase .stale) (profiles .governedEvllm)
      ⟨sampleSession.organizationId, (caseQuery (inspectionCase .stale)).purposeId⟩ = some (.abstain, "inactive-support") := by
    decide +kernel
  obtain ⟨refusal, hcontrol, hreasons⟩ := refused_alike (inspectionCase_deployed .stale) hrefused hsame
  rw [(control_refuses hcontrol).2.1 rfl] at hreasons
  exact absurd hreasons (by decide)

end Evaluation
end Evllm
