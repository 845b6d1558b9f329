/-
# What a call does to the protected bundle registry

Every call of the bundle registry that succeeds closes the bootstrap, commits a
bundle that was not bound under a domain key that was not, promotes a bundle
that has a verified receipt, or takes a receipt that observed exactly what is
committed. `BundleChange` says which, with the guards.

So a confirmed commitment is never written again but for its criticality,
which only rises (`Extends`), and the commitments and the domain keys are tied
both ways (`Binding`).

Key definitions: `BundleChange`, `Extends`, `Binding`.
Key theorems: `bundle_change`, `change_extends`, `change_binding`.
-/
import Evllm.Contracts.Chain

namespace Evllm
namespace Contracts

open Lib Function ProtectedBundleRegistry

/-- The commitment that `_commitProtectedBundle` writes for its sender. -/
def ProtectedBundleRegistry.CommitInput.commitment (input : CommitInput) (sender : Address) : Commitment where
  domainKey := input.domainKey
  controllerOrganizationId := input.controllerOrganizationId
  controller := sender
  bundleType := input.bundleType
  domainPayloadCommitment := input.domainPayloadCommitment
  contentEnvelopeDigest := input.contentEnvelopeDigest
  storedEnvelopeLength := input.storedEnvelopeLength
  replicaPolicyDigest := input.replicaPolicyDigest
  criticalityClass := input.initialCriticalityClass
  confirmed := true

/-- The scope a receipt's nonce is used up in. -/
def receiptNonceScope (crypto : Crypto) (input : ReceiptInput) : Bytes32 :=
  crypto.keccak256 (abiEncode [input.signerCredentialId, input.nonce])

variable (D : Deployment)

/-- The call that commits: by bootstrap governance while the bootstrap is open,
or with an attestation whose nonce is new. -/
inductive Commits (r : ProtectedBundleRegistry) : BundleOp → CommitInput → (Bytes32 → Bool) → Prop
  | bootstrap (input : CommitInput) (isOpen : r.bootstrapClosed = false) :
      Commits r (.commitProtectedBundle input) input r.consumedAttestationNonces
  | attested (input : AttestedInput)
      (unused : r.consumedAttestationNonces (attestationNonceScope D.crypto input.attestation) = false) :
      Commits r (.commitAttestedProtectedBundle input) input.toCommitInput
        (update r.consumedAttestationNonces (attestationNonceScope D.crypto input.attestation) true)

/-- A receipt that the registry takes. -/
structure Observes (authority : AuthorityProfileRegistry) (r : ProtectedBundleRegistry) (msg : Msg)
    (input : ReceiptInput) : Prop where
  confirmed : (r.commitments input.bundleKey).confirmed = true
  digest : input.observedContentEnvelopeDigest = (r.commitments input.bundleKey).contentEnvelopeDigest
  length : input.observedStoredEnvelopeLength = (r.commitments input.bundleKey).storedEnvelopeLength
  credential : authority.isReplicaAttestationCredential input.signerCredentialId input.replicaCustodianOrganizationId
    msg.sender = true

/-- What a call that succeeds can do. -/
inductive BundleChange (authority : AuthorityProfileRegistry) (msg : Msg) (r : ProtectedBundleRegistry) :
    BundleOp → ProtectedBundleRegistry → Prop
  | closed : BundleChange authority msg r .closeBootstrap { r with bootstrapClosed := true }
  | committed {op : BundleOp} (input : CommitInput) (nonces : Bytes32 → Bool) (commits : Commits D r op input nonces)
      (bundleKey : input.bundleKey ≠ 0) (domainKey : input.domainKey ≠ 0)
      (supplementary : input.initialCriticalityClass = .supplementary)
      (unconfirmed : (r.commitments input.bundleKey).confirmed = false)
      (unbound : r.bundleForDomain input.domainKey = 0) :
      BundleChange authority msg r op { r with
        commitments := update r.commitments input.bundleKey (input.commitment msg.sender)
        bundleForDomain := update r.bundleForDomain input.domainKey input.bundleKey
        consumedAttestationNonces := nonces }
  | promoted (bundleKey : Bytes32) (confirmed : (r.commitments bundleKey).confirmed = true)
      (supplementary : (r.commitments bundleKey).criticalityClass = .supplementary)
      (receipt : r.verifiedReplicaReceipt bundleKey = true) :
      BundleChange authority msg r (.promoteToDecisionCritical bundleKey) { r with
        commitments := update r.commitments bundleKey
          { r.commitments bundleKey with criticalityClass := .decisionCritical } }
  | received (input : ReceiptInput) (observes : Observes authority r msg input)
      (unused : r.consumedReceiptNonces (receiptNonceScope D.crypto input) = false) :
      BundleChange authority msg r (.submitReplicaReceipt input) { r with
        consumedReceiptNonces := update r.consumedReceiptNonces (receiptNonceScope D.crypto input) true
        verifiedReplicaReceipt := update r.verifiedReplicaReceipt input.bundleKey true }

variable {D} {authority : AuthorityProfileRegistry} {r r' : ProtectedBundleRegistry} {msg : Msg}

/-! ### The registry's functions -/

theorem commit_ok {input : CommitInput} (h : r.commit authority msg input = .ok r') :
    (input.bundleKey ≠ 0 ∧ input.domainKey ≠ 0 ∧ input.initialCriticalityClass = .supplementary ∧
      (r.commitments input.bundleKey).confirmed = false ∧ r.bundleForDomain input.domainKey = 0) ∧
    r' = { r with
      commitments := update r.commitments input.bundleKey (input.commitment msg.sender)
      bundleForDomain := update r.bundleForDomain input.domainKey input.bundleKey } := by
  simp only [commit, bind_eq_ok, throwIf_eq_ok, pure_eq_ok, not_or] at h
  obtain ⟨_, ⟨hkey, hdomain, -⟩, _, -, _, hclass, _, ⟨hconfirmed, hbound⟩, rfl⟩ := h
  have hsupplementary : input.initialCriticalityClass = .supplementary := by
    cases hinitial : input.initialCriticalityClass with
    | supplementary => rfl
    | decisionCritical => exact absurd hinitial hclass
  exact ⟨⟨hkey, hdomain, hsupplementary, by simpa using hconfirmed, not_not.mp hbound⟩, rfl⟩

/-- **What a call of the bundle registry does.** -/
theorem bundle_change {op : BundleOp} (h : op.exec D authority r msg = .ok r') : BundleChange D authority msg r op r' := by
  cases op with
  | closeBootstrap =>
    simp only [BundleOp.exec, closeBootstrap, bind_eq_ok, throwIf_eq_ok, pure_eq_ok] at h
    obtain ⟨_, _, rfl⟩ := h
    exact .closed
  | commitProtectedBundle input =>
    simp only [BundleOp.exec, commitProtectedBundle, bind_eq_ok, throwIf_eq_ok, not_or] at h
    obtain ⟨_, ⟨_, hclosed⟩, h⟩ := h
    obtain ⟨⟨hkey, hdomain, hclass, hconfirmed, hbound⟩, rfl⟩ := commit_ok h
    exact .committed input _ (.bootstrap input (by simpa using hclosed)) hkey hdomain hclass hconfirmed hbound
  | commitAttestedProtectedBundle input =>
    simp only [BundleOp.exec, commitAttestedProtectedBundle, bind_eq_ok, throwIf_eq_ok] at h
    obtain ⟨_, _, _, _, _, _, _, _, _, hunused, h⟩ := h
    obtain ⟨⟨hkey, hdomain, hclass, hconfirmed, hbound⟩, rfl⟩ := commit_ok h
    exact .committed input.toCommitInput _ (.attested input (by simpa using hunused)) hkey hdomain hclass hconfirmed hbound
  | promoteToDecisionCritical bundleKey =>
    simp only [BundleOp.exec, promoteToDecisionCritical, bind_eq_ok, throwIf_eq_ok, pure_eq_ok] at h
    obtain ⟨_, hconfirmed, _, _, _, hclass, _, hreceipt, rfl⟩ := h
    have hsupplementary : (r.commitments bundleKey).criticalityClass = .supplementary := by
      cases hcurrent : (r.commitments bundleKey).criticalityClass with
      | supplementary => rfl
      | decisionCritical => exact absurd hcurrent hclass
    exact .promoted bundleKey (by simpa using hconfirmed) hsupplementary (by simpa using hreceipt)
  | submitReplicaReceipt input =>
    simp only [BundleOp.exec, submitReplicaReceipt, bind_eq_ok, throwIf_eq_ok, pure_eq_ok, not_or] at h
    obtain ⟨_, hconfirmed, _, _, _, ⟨hdigest, hlength, hcredential⟩, _, hunused, rfl⟩ := h
    exact .received input ⟨by simpa using hconfirmed, not_not.mp hdigest, not_not.mp hlength, by simpa using hcredential⟩
      (by simpa [receiptNonceScope] using hunused)

/-! ### Commitments are kept -/

/-- A confirmed commitment is the same but for its criticality, which only rises. -/
structure Kept (c c' : Commitment) : Prop where
  fields : c' = { c with criticalityClass := c'.criticalityClass }
  rises : c.criticalityClass = .decisionCritical → c'.criticalityClass = .decisionCritical

/-- Every confirmed commitment is kept. -/
def Extends (r r' : ProtectedBundleRegistry) : Prop :=
  ∀ bundleKey, (r.commitments bundleKey).confirmed = true → Kept (r.commitments bundleKey) (r'.commitments bundleKey)

theorem Kept.refl (c : Commitment) : Kept c c := ⟨rfl, id⟩

theorem Kept.confirmed {c c' : Commitment} (h : Kept c c') (hc : c.confirmed = true) : c'.confirmed = true := by
  rw [h.fields]
  exact hc

theorem Kept.trans {c c' c'' : Commitment} (h : Kept c c') (h' : Kept c' c'') : Kept c c'' := by
  refine ⟨?_, fun hc => h'.rises (h.rises hc)⟩
  rw [h'.fields, h.fields]

theorem Extends.refl (r : ProtectedBundleRegistry) : Extends r r := fun _ _ => .refl _

theorem Extends.trans {r'' : ProtectedBundleRegistry} (h : Extends r r') (h' : Extends r' r'') : Extends r r'' := by
  intro bundleKey hconfirmed
  have hkept := h bundleKey hconfirmed
  exact hkept.trans (h' bundleKey (hkept.confirmed hconfirmed))

theorem change_extends {op : BundleOp} (h : BundleChange D authority msg r op r') : Extends r r' := by
  intro bundleKey hconfirmed
  cases h with
  | closed => exact .refl _
  | committed input nonces commits _ _ _ unconfirmed _ =>
    have hne : bundleKey ≠ input.bundleKey := by
      rintro rfl
      rw [unconfirmed] at hconfirmed
      cases hconfirmed
    dsimp only
    rw [update_of_ne hne]
    exact .refl _
  | promoted key _ supplementary _ =>
    dsimp only
    by_cases hkey : bundleKey = key
    · subst hkey
      rw [update_self]
      exact ⟨rfl, fun _ => rfl⟩
    · rw [update_of_ne hkey]
      exact .refl _
  | received input => exact .refl _

/-- What a link was confirmed for stays so. -/
theorem Extends.isConfirmedLink (h : Extends r r') {bundleKey domainKey bundleType payload : Bytes32} {critical : Bool}
    (hlink : r.isConfirmedLink bundleKey domainKey bundleType payload critical = true) :
    r'.isConfirmedLink bundleKey domainKey bundleType payload critical = true := by
  simp only [ProtectedBundleRegistry.isConfirmedLink, Bool.and_eq_true, decide_eq_true_eq, Bool.or_eq_true,
    Bool.not_eq_true'] at hlink ⊢
  obtain ⟨⟨⟨⟨hconfirmed, hdomain⟩, htype⟩, hpayload⟩, hcritical⟩ := hlink
  obtain ⟨hfields, hrises⟩ := h bundleKey hconfirmed
  rw [hfields]
  exact ⟨⟨⟨⟨hconfirmed, hdomain⟩, htype⟩, hpayload⟩, hcritical.imp_right hrises⟩

/-! ### Bundles and domain keys -/

/-- A confirmed bundle is the one of its domain key, and the bundle of a bound
domain key is confirmed for it. -/
structure Binding (r : ProtectedBundleRegistry) : Prop where
  domain : ∀ bundleKey, (r.commitments bundleKey).confirmed = true → bundleKey ≠ 0 ∧
    r.bundleForDomain (r.commitments bundleKey).domainKey = bundleKey
  bundle : ∀ domainKey, r.bundleForDomain domainKey ≠ 0 →
    (r.commitments (r.bundleForDomain domainKey)).confirmed = true ∧
      (r.commitments (r.bundleForDomain domainKey)).domainKey = domainKey

theorem deployed_binding (deployer : Address) : Binding (.deployed deployer) where
  domain _ h := by simp [ProtectedBundleRegistry.deployed] at h
  bundle _ h := absurd rfl h

theorem Binding.of_same (h : Binding r) (hbundles : r'.bundleForDomain = r.bundleForDomain)
    (hcommitments : ∀ key, (r'.commitments key).confirmed = (r.commitments key).confirmed ∧
      (r'.commitments key).domainKey = (r.commitments key).domainKey) : Binding r' := by
  constructor
  · intro key hkey
    rw [(hcommitments key).1] at hkey
    rw [hbundles, (hcommitments key).2]
    exact h.domain key hkey
  · intro domainKey hbound
    rw [hbundles] at hbound ⊢
    rw [(hcommitments _).1, (hcommitments _).2]
    exact h.bundle domainKey hbound

theorem Binding.of_commit {key domainKey : Bytes32} {commitment : Commitment} (h : Binding r) (hkey : key ≠ 0)
    (hconfirmed : commitment.confirmed = true) (hdomain : commitment.domainKey = domainKey)
    (hunconfirmed : (r.commitments key).confirmed = false) (hunbound : r.bundleForDomain domainKey = 0)
    (hcommitments : r'.commitments = update r.commitments key commitment)
    (hbundles : r'.bundleForDomain = update r.bundleForDomain domainKey key) : Binding r' := by
  constructor
  · intro x hx
    rw [hcommitments] at hx
    rw [hcommitments, hbundles]
    by_cases hxk : x = key
    · rw [hxk, update_self, hdomain, update_self]
      exact ⟨hkey, rfl⟩
    · rw [update_of_ne hxk] at hx ⊢
      obtain ⟨hne, hback⟩ := h.domain x hx
      have hother : (r.commitments x).domainKey ≠ domainKey := by
        intro heq
        rw [heq, hunbound] at hback
        exact hne hback.symm
      rw [update_of_ne hother]
      exact ⟨hne, hback⟩
  · intro d hd
    rw [hbundles] at hd ⊢
    rw [hcommitments]
    by_cases hdd : d = domainKey
    · rw [hdd, update_self, update_self]
      exact ⟨hconfirmed, hdomain⟩
    · rw [update_of_ne hdd] at hd ⊢
      obtain ⟨hback, hfor⟩ := h.bundle d hd
      have hother : r.bundleForDomain d ≠ key := by
        intro heq
        rw [heq, hunconfirmed] at hback
        cases hback
      rw [update_of_ne hother]
      exact ⟨hback, hfor⟩

theorem change_binding {op : BundleOp} (h : BundleChange D authority msg r op r') (hr : Binding r) : Binding r' := by
  cases h with
  | closed => exact hr.of_same rfl fun _ => ⟨rfl, rfl⟩
  | committed input nonces _ bundleKey _ _ unconfirmed unbound =>
    have hconfirmed : (input.commitment msg.sender).confirmed = true := rfl
    exact hr.of_commit bundleKey hconfirmed rfl unconfirmed unbound rfl rfl
  | promoted key =>
    refine hr.of_same rfl fun x => ?_
    dsimp only
    by_cases hx : x = key
    · subst hx
      rw [update_self]
      exact ⟨rfl, rfl⟩
    · rw [update_of_ne hx]
      exact ⟨rfl, rfl⟩
  | received input => exact hr.of_same rfl fun _ => ⟨rfl, rfl⟩

end Contracts
end Evllm
