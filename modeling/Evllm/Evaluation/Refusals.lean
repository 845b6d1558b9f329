/-
# The reasons of a refusal by precondition

`precondition` refuses with a code of validation and a message, and
`reasonCodesForOutcome` recovers the reason codes from the words of the message.
The evaluation demands for each code of validation the reason codes that a user
must see (`formalExpectedValidationToReleasedReasonCodes`), and the service's own
check of coherence computes those that the supports bear out. The three agree on
missing support, unless the active supports record a decision for another reason
(`precondition_reason_iff`). They never agree on an injection, a conflict or an
inactive support.

Key definitions: `formalExpectedValidationToReleasedReasonCodes`, `RightReason`,
`OnlyMissingRecorded`.
Key theorems: `precondition_cases`, `coherent_missing`, `precondition_reason_iff`.
-/
import Evllm.Assistant.Releasable
import Evllm.Evaluation.Deployment

namespace Evllm
namespace Evaluation

open Lib Assistant

/-! ### What is demanded -/

/-- `FORMAL_EXPECTED_VALIDATION_TO_RELEASED_REASON_CODES`. -/
def formalExpectedValidationToReleasedReasonCodes : String → List EvidenceReasonCode
  | "missing-support" => [.missingEvidence]
  | "inactive-support" => [.inactiveEvidence]
  | "conflicting-support" => [.conflictingEvidence, .externalDecisionRequired]
  | "access-denied" => [.accessDenied]
  | "prompt-injection" => [.promptInjection]
  | "external-decision-boundary" => [.externalDecisionRequired]
  | _ => []

variable {T : TextChecks} {supports : List Support} {outcome : Outcome} {code message : String}

/-- The result built from a defect gives reasons, those that its code demands
among them, and the service finds them coherent with the supports. -/
structure RightReason (T : TextChecks) (supports : List Support) (outcome : Outcome) (code message : String) : Prop where
  given : (refusal outcome message).candidate.evidenceReasonCodes ≠ []
  coherent : reasonCodesAreCoherent T (refusal outcome message).candidate supports = true
  demanded : ∀ reason ∈ formalExpectedValidationToReleasedReasonCodes code,
    reason ∈ (refusal outcome message).candidate.evidenceReasonCodes

/-- The active supports record no decision, or all one decision, whose only
reason is missing evidence. -/
def OnlyMissingRecorded (supports : List Support) : Prop :=
  ∃ d, d.reasonCodes = [.missingEvidence] ∧
    ∀ recorded ∈ supports.filterMap Support.activeDecision, normalizeRecordedDecision recorded = d

/-! ### What the service finds coherent -/

/-- The key of a normal decision is the decision. -/
theorem key_normalize (d : RecordedDecision) :
    recordedDecisionKey (normalizeRecordedDecision d) = normalizeRecordedDecision d := by
  have hnodup : (sortReasonCodes d.reasonCodes.eraseDups).Nodup :=
    (List.perm_insertionSort _ _).nodup_iff.mpr (nodup_eraseDups d.reasonCodes)
  simp only [recordedDecisionKey, normalizeRecordedDecision, eraseDups_of_nodup hnodup, sortReasonCodes_idem]

theorem sameReasonCodes_missing {codes : List EvidenceReasonCode} :
    sameReasonCodes [.missingEvidence] codes = true ↔ codes = [.missingEvidence] := by
  simp only [sameReasonCodes, Bool.decide_and, Bool.and_eq_true, decide_eq_true_eq]
  constructor
  · rintro ⟨hlength, hsorted⟩
    obtain ⟨code, rfl⟩ := List.length_eq_one_iff.mp hlength.symm
    exact hsorted.symm
  · rintro rfl
    exact ⟨rfl, rfl⟩

/-- The decision that the supports resolve to does not contradict missing evidence. -/
theorem resolve_missing :
    (match resolveActiveRecordedDecision supports with
      | .conflicting => false
      | .consistent decision => sameReasonCodes [.missingEvidence] decision.reasonCodes
      | .absent => true) = true ↔ OnlyMissingRecorded supports := by
  unfold resolveActiveRecordedDecision OnlyMissingRecorded
  cases hds : supports.filterMap Support.activeDecision with
  | nil => exact ⟨fun _ => ⟨⟨.abstain, "", [.missingEvidence]⟩, rfl, by simp⟩, fun _ => rfl⟩
  | cons first rest =>
    rw [List.map_cons]
    dsimp only
    split_ifs with hany
    · -- two of the decisions differ
      refine ⟨fun h => (nomatch h), fun ⟨d, _, hall⟩ => ?_⟩
      obtain ⟨normal, hmem, hne⟩ := List.any_eq_true.mp hany
      rw [← List.map_cons] at hmem
      obtain ⟨recorded, hrecorded, rfl⟩ := List.mem_map.mp hmem
      rw [hall recorded hrecorded, hall first List.mem_cons_self] at hne
      simp at hne
    · have hsame : ∀ recorded ∈ first :: rest, normalizeRecordedDecision recorded = normalizeRecordedDecision first := by
        intro recorded hrecorded
        by_contra hne
        refine hany (List.any_eq_true.mpr ⟨normalizeRecordedDecision recorded, ?_, ?_⟩)
        · rw [← List.map_cons]
          exact List.mem_map_of_mem hrecorded
        · rw [key_normalize, key_normalize]
          exact decide_eq_true hne
      rw [sameReasonCodes_missing]
      refine ⟨fun hreasons => ⟨_, hreasons, hsame⟩, fun ⟨d, hreasons, hall⟩ => ?_⟩
      rw [hall first List.mem_cons_self]
      exact hreasons

/-- Missing evidence is coherent where support is missing, but for recorded decisions. -/
theorem coherent_missing (hmissing : supports = [] ∨ supports.any (·.status = .missing) = true)
    (hreasons : reasonCodesForOutcome .abstain message = [.missingEvidence]) :
    reasonCodesAreCoherent T (refusal .abstain message).candidate supports = true ↔ OnlyMissingRecorded supports := by
  have hexpected : EvidenceReasonCode.missingEvidence ∈
      expectedReasonCodes T (refusal .abstain message).candidate supports := by
    simp only [expectedReasonCodes, if_pos hmissing, List.mem_append, List.mem_singleton, true_or]
  have hreported : (refusal .abstain message).candidate.evidenceReasonCodes = [.missingEvidence] := hreasons
  have houtcome : (refusal .abstain message).candidate.outcome = .abstain := rfl
  rw [← resolve_missing, reasonCodesAreCoherent]
  cases hresolved : resolveActiveRecordedDecision supports <;> simp [hreported, houtcome, hexpected]

/-! ### What the service reports -/

/-- The defects, each with its reasons. -/
theorem precondition_cases {injection : Bool} (h : precondition supports injection = some (outcome, code, message)) :
    (injection = true ∧ code = "prompt-injection" ∧ reasonCodesForOutcome outcome message = []) ∨
      (injection = false ∧ (supports = [] ∨ supports.any (·.status = .missing) = true) ∧ outcome = .abstain ∧
        code = "missing-support" ∧ reasonCodesForOutcome outcome message = [.missingEvidence]) ∨
      (supports ≠ [] ∧ ¬supports.any (·.status = .missing) = true ∧
        ((code = "conflicting-support" ∧ reasonCodesForOutcome outcome message = [.conflictingEvidence]) ∨
          (code = "inactive-support" ∧ reasonCodesForOutcome outcome message = [.missingEvidence]))) := by
  unfold precondition at h
  split_ifs at h with hinjection hnil hmissing
  · cases h
    exact Or.inl ⟨hinjection, rfl, by decide +kernel⟩
  · cases h
    exact Or.inr (Or.inl ⟨eq_false_of_ne_true hinjection, Or.inl hnil, rfl, rfl, by decide +kernel⟩)
  · cases h
    exact Or.inr (Or.inl ⟨eq_false_of_ne_true hinjection, Or.inr hmissing, rfl, rfl, by decide +kernel⟩)
  · cases h
    exact Or.inr (Or.inr ⟨hnil, hmissing, Or.inl ⟨rfl, by decide +kernel⟩⟩)
  · cases h
    exact Or.inr (Or.inr ⟨hnil, hmissing, Or.inr ⟨rfl, by decide +kernel⟩⟩)

/-- **A refusal by precondition reports the right reason just where support is
missing**, nothing looks like an instruction, and no decision is recorded for
another reason. -/
theorem precondition_reason_iff (T : TextChecks) (supports : List Support) (outcome : Outcome) (code message : String)
    (h : precondition supports (injected T supports) = some (outcome, code, message)) :
    RightReason T supports outcome code message ↔
      injected T supports = false ∧ (supports = [] ∨ supports.any (·.status = .missing) = true) ∧
        OnlyMissingRecorded supports := by
  obtain ⟨hinjected, -, hreasons⟩ | ⟨hinjected, hmissing, rfl, rfl, hreasons⟩ | ⟨hne, hnone, hdefect⟩ :=
    precondition_cases h
  · -- an injection has no reasons
    refine ⟨fun hright => absurd hreasons hright.given, fun hright => ?_⟩
    rw [hinjected] at hright
    exact (nomatch hright.1)
  · rw [← coherent_missing (T := T) hmissing hreasons]
    refine ⟨fun hright => ⟨hinjected, hmissing, hright.coherent⟩, fun ⟨_, _, hcoherent⟩ => ⟨?_, hcoherent, ?_⟩⟩
    · show reasonCodesForOutcome .abstain message ≠ []
      rw [hreasons]
      exact List.cons_ne_nil _ _
    · intro reason hreason
      show reason ∈ reasonCodesForOutcome .abstain message
      rw [hreasons]
      exact hreason
  · refine ⟨fun hright => ?_, fun ⟨_, hmissing, _⟩ => (hmissing.elim hne hnone).elim⟩
    obtain ⟨rfl, hreasons⟩ | ⟨rfl, hreasons⟩ := hdefect
    · have hdemanded := hright.demanded .externalDecisionRequired (by simp [formalExpectedValidationToReleasedReasonCodes])
      have hreported : EvidenceReasonCode.externalDecisionRequired ∈ reasonCodesForOutcome outcome message := hdemanded
      rw [hreasons] at hreported
      exact absurd hreported (by decide)
    · have hdemanded := hright.demanded .inactiveEvidence (by simp [formalExpectedValidationToReleasedReasonCodes])
      have hreported : EvidenceReasonCode.inactiveEvidence ∈ reasonCodesForOutcome outcome message := hdemanded
      rw [hreasons] at hreported
      exact absurd hreported (by decide)

/-- Without supports the reason is right. -/
theorem no_support_reason :
    RightReason sampleConfig.text [] .abstain "missing-support" "No authorized support was available." :=
  (precondition_reason_iff sampleConfig.text [] .abstain "missing-support" "No authorized support was available." rfl).mpr
    ⟨rfl, Or.inl rfl, ⟨.abstain, "", [.missingEvidence]⟩, rfl, by simp⟩

/-- A record that has gone stale. -/
def staleRecord : Support := ⟨⟨"support-1", "urn:evllm:evidence:00000000-0000-4000-8000-000000000001", 1, "urn:evllm:org:1",
  "urn:evllm:org:1", 200, .stale, "sha256:0", none, none⟩, "The inspection found no swelling."⟩

/-- **A stale record is reported as missing**, neither what the code demands nor
what the supports bear out. -/
theorem stale_reported_missing :
    ∃ message, precondition [staleRecord] (injected sampleConfig.text [staleRecord]) =
        some (.abstain, "inactive-support", message) ∧
      (refusal .abstain message).candidate.evidenceReasonCodes = [.missingEvidence] ∧
      .inactiveEvidence ∈ formalExpectedValidationToReleasedReasonCodes "inactive-support" ∧
      reasonCodesAreCoherent sampleConfig.text (refusal .abstain message).candidate [staleRecord] = false ∧
      ¬RightReason sampleConfig.text [staleRecord] .abstain "inactive-support" message := by
  have hincoherent : reasonCodesAreCoherent sampleConfig.text
      (refusal .abstain "Required support is missing, restricted, stale, revoked, or superseded.").candidate [staleRecord] =
        false := by decide +kernel
  refine ⟨"Required support is missing, restricted, stale, revoked, or superseded.", rfl, by decide +kernel,
    by simp [formalExpectedValidationToReleasedReasonCodes], hincoherent, fun hright => ?_⟩
  rw [hright.coherent] at hincoherent
  exact (nomatch hincoherent)

end Evaluation
end Evllm
