/-
# What an attestation determines

An attested commit stores what the attestation's author signed and what its
sender passes beside it. The author signs the bundle, its type, its domain key
and its payload; who controls the bundle, and which envelope was stored, the
sender says, with a credential of its own. So two commits of one attestation
agree on the signed part, and on the rest just where their senders do; and the
first of them uses the attestation up.

Key theorems: `attested_ok`, `attested_commits_agree`.
-/
import Evllm.Contracts.BundleHistory

namespace Evllm
namespace Contracts

open Lib Function ProtectedBundleRegistry

variable {authority : AuthorityProfileRegistry} {r r' : ProtectedBundleRegistry} {msg : Msg} {crypto : Crypto}
  {site : Site}

/-- What a commit with an attestation leaves behind. -/
structure CommittedBy (authority : AuthorityProfileRegistry) (crypto : Crypto) (msg : Msg) (input : AttestedInput)
    (r' : ProtectedBundleRegistry) : Prop where
  /-- The sender's credential for the organisation it names is active. -/
  credential : authority.isCredentialActive input.controllerCredentialId input.controllerOrganizationId msg.sender = true
  commitment : r'.commitments input.attestation.bundleId = input.toCommitInput.commitment msg.sender
  domain : r'.bundleForDomain input.attestation.domainResourceId = input.attestation.bundleId
  used : r'.consumedAttestationNonces (attestationNonceScope crypto input.attestation) = true

theorem attested_ok {input : AttestedInput}
    (h : r.commitAttestedProtectedBundle authority msg crypto site input = .ok r') :
    r.consumedAttestationNonces (attestationNonceScope crypto input.attestation) = false ∧
      CommittedBy authority crypto msg input r' := by
  simp only [commitAttestedProtectedBundle, bind_eq_ok, throwIf_eq_ok] at h
  obtain ⟨_, _, _, _, _, _, _, hcredential, _, hunused, h⟩ := h
  obtain ⟨_, rfl⟩ := commit_ok h
  refine ⟨by simpa using hunused, by simpa using hcredential, ?_, ?_, ?_⟩
  · exact update_self _ _ _
  · exact update_self _ _ _
  · exact update_self _ _ _

/-- The part of a commitment that the attestation's author signed. -/
def Commitment.signed (c : Commitment) : Bytes32 × Bytes32 × Bytes32 :=
  (c.domainKey, c.bundleType, c.domainPayloadCommitment)

/-- The part of a commitment that its sender chose. -/
def Commitment.controlled (c : Commitment) : Bytes32 × Address × Bytes32 :=
  (c.controllerOrganizationId, c.controller, c.contentEnvelopeDigest)

/-- **An attestation determines what its author signed.** Two attested commits
of one attestation, from one state, bind the same bundle to the same domain
key, type and payload, as supplementary. Each stores its sender as the
controller, for the organisation and the envelope it passes, and the sender's
credential for that organisation is active; so what they store of these agrees
just where the senders and what they pass agree. After either of them no call
that carries the attestation succeeds. -/
theorem attested_commits_agree {msg₁ msg₂ : Msg} {input₁ input₂ : AttestedInput} {r₁ r₂ : ProtectedBundleRegistry}
    (hsame : input₁.attestation = input₂.attestation)
    (h₁ : r.commitAttestedProtectedBundle authority msg₁ crypto site input₁ = .ok r₁)
    (h₂ : r.commitAttestedProtectedBundle authority msg₂ crypto site input₂ = .ok r₂) :
    CommittedBy authority crypto msg₁ input₁ r₁ ∧ CommittedBy authority crypto msg₂ input₂ r₂ ∧
    (r₁.commitments input₁.attestation.bundleId).signed = (r₂.commitments input₁.attestation.bundleId).signed ∧
    ((r₁.commitments input₁.attestation.bundleId).controlled = (r₂.commitments input₁.attestation.bundleId).controlled ↔
      input₁.controllerOrganizationId = input₂.controllerOrganizationId ∧ msg₁.sender = msg₂.sender ∧
        input₁.contentEnvelopeDigest = input₂.contentEnvelopeDigest) ∧
    ∀ (authority' : AuthorityProfileRegistry) (msg' : Msg) (input' : AttestedInput) (r' : ProtectedBundleRegistry),
      input'.attestation = input₁.attestation →
        r₁.commitAttestedProtectedBundle authority' msg' crypto site input' ≠ .ok r' := by
  obtain ⟨-, hcommitted₁⟩ := attested_ok h₁
  obtain ⟨-, hcommitted₂⟩ := attested_ok h₂
  have hcommitment₂ := hcommitted₂.commitment
  rw [← hsame] at hcommitment₂
  refine ⟨hcommitted₁, hcommitted₂, ?_, ?_, ?_⟩
  · rw [hcommitted₁.commitment, hcommitment₂]
    simp only [Commitment.signed, CommitInput.commitment, AttestedInput.toCommitInput, hsame]
  · rw [hcommitted₁.commitment, hcommitment₂]
    simp only [Commitment.controlled, CommitInput.commitment, AttestedInput.toCommitInput, Prod.mk.injEq]
  · intro authority' msg' input' r' hattestation h'
    obtain ⟨hunused, -⟩ := attested_ok h'
    rw [hattestation, hcommitted₁.used] at hunused
    cases hunused

/-! ### One attestation, two senders -/

namespace Observed

/-- Governance registers the author, the controller it means, and a third
account of another organisation. -/
def accounts : List LedgerCall :=
  [(⟨9, 0⟩, .authority (.setOrganizationStatus 1 .active)), (⟨9, 0⟩, .authority (.setOrganizationStatus 2 .active)),
    (⟨9, 0⟩, .authority (.setCredential 11 1 101 true false)), (⟨9, 0⟩, .authority (.setCredential 12 1 102 true false)),
    (⟨9, 0⟩, .authority (.setCredential 13 2 103 true false))]

def attestation : DomainAttestation where
  bundleId := 21
  bundleVersion := 1
  bundleType := 22
  domainResourceId := 23
  domainResourceVersion := 1
  authorBindingProfileId := 24
  authorBindingProfileVersion := 1
  domainPayloadCommitment := 25
  signerActorId := 26
  signerOrgId := 1
  signerCredentialId := 11
  nonce := 1
  issuedAt := 0
  expiresAt := 100

/-- The call of the controller the author means. -/
def intended : AttestedInput where
  attestation := attestation
  signature := List.replicate 65 0
  controllerOrganizationId := 1
  controllerCredentialId := 12
  contentEnvelopeDigest := 31
  storedEnvelopeLength := 10
  replicaPolicyDigest := 32

/-- The same attestation and signature, sent by the third account. -/
def observer : AttestedInput :=
  { intended with controllerOrganizationId := 2, controllerCredentialId := 13, contentEnvelopeDigest := 41 }

/-- The bundles after one of the calls, made where the accounts are registered. -/
def commit (sender : Address) (input : AttestedInput) : Except Revert ProtectedBundleRegistry :=
  (ledgerAfter sampleDeployment accounts).bundles.commitAttestedProtectedBundle (ledgerAfter sampleDeployment accounts).authority
    ⟨sender, 1⟩ sampleDeployment.crypto sampleDeployment.bundleSite input

theorem commit_accepts : ∃ r₁ r₂, commit 102 intended = .ok r₁ ∧ commit 103 observer = .ok r₂ ∧
    (r₁.commitments 21).controlled = (1, 102, 31) ∧ (r₂.commitments 21).controlled = (2, 103, 41) :=
  ⟨_, _, rfl, rfl, rfl, rfl⟩

end Observed

open Observed in
/-- From one state both calls succeed, and they make different accounts, of
different organisations, the controller of the bundle. -/
theorem attestation_taken :
    intended.attestation = observer.attestation ∧ intended.signature = observer.signature ∧
    ∃ r₁ r₂, commit 102 intended = .ok r₁ ∧ commit 103 observer = .ok r₂ ∧
      (r₁.commitments 21).controllerOrganizationId ≠ (r₂.commitments 21).controllerOrganizationId ∧
      (r₁.commitments 21).controller ≠ (r₂.commitments 21).controller ∧
      (r₁.commitments 21).contentEnvelopeDigest ≠ (r₂.commitments 21).contentEnvelopeDigest := by
  obtain ⟨r₁, r₂, h₁, h₂, hcontrolled₁, hcontrolled₂⟩ := commit_accepts
  simp only [Commitment.controlled, Prod.mk.injEq] at hcontrolled₁ hcontrolled₂
  obtain ⟨horganization₁, hcontroller₁, hdigest₁⟩ := hcontrolled₁
  obtain ⟨horganization₂, hcontroller₂, hdigest₂⟩ := hcontrolled₂
  refine ⟨rfl, rfl, r₁, r₂, h₁, h₂, ?_, ?_, ?_⟩
  · rw [horganization₁, horganization₂]
    decide
  · rw [hcontroller₁, hcontroller₂]
    decide
  · rw [hdigest₁, hdigest₂]
    decide

open Observed in
theorem attested_commits_agree_observed : ∃ r₁ r₂, commit 102 intended = .ok r₁ ∧ commit 103 observer = .ok r₂ ∧
    (r₁.commitments 21).signed = (r₂.commitments 21).signed ∧
    ¬(r₁.commitments 21).controlled = (r₂.commitments 21).controlled := by
  obtain ⟨r₁, r₂, h₁, h₂, -, -⟩ := commit_accepts
  have hsame : intended.attestation = observer.attestation := rfl
  obtain ⟨-, -, hsigned, hcontrolled, -⟩ := attested_commits_agree hsame h₁ h₂
  refine ⟨r₁, r₂, h₁, h₂, hsigned, fun heq => ?_⟩
  have hsender : (102 : Address) = 103 := (hcontrolled.mp heq).2.1
  revert hsender
  decide

end Contracts
end Evllm
