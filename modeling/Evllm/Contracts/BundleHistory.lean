/-
# What a run of the protected bundle registry leaves behind

The commitments and the domain keys are tied both ways and a commitment is
kept, whatever is called afterwards (`Binding`, `Extends`). What a state cannot
say is where it came from: that a decision-critical bundle had a receipt before
it was promoted, that no credential used a nonce twice, and that after the
bootstrap was closed only attestations committed. A fact that a run's end has
and its start had not came of one call that succeeded (`bundles_first`), and
`BundleChange` says what that call checked.

Key definitions: `ReplicaObserved`, `AttestedIn`, `BundleHistory`.
Key theorems: `bundles_first`, `bundle_history`.
-/
import Evllm.Contracts.Ledger

namespace Evllm
namespace Contracts

open Lib Function ProtectedBundleRegistry

variable {D : Deployment}

/-- A bundle call that succeeds changes the bundles as `BundleChange` says. -/
theorem bundles_call {ls : List LedgerCall} {msg : Msg} {op : BundleOp} {c : Ledger}
    (h : ledgerCall D (ledgerAfter D ls) (msg, .bundles op) = .ok c) :
    BundleChange D (ledgerAfter D ls).authority msg (ledgerAfter D ls).bundles op c.bundles := by
  simp only [ledgerCall, bind_eq_ok, pure_eq_ok] at h
  obtain ⟨bundles, hop, rfl⟩ := h
  exact bundle_change hop

/-- **What became so in a run**, about the bundles, came of a bundle call that
succeeded. -/
theorem bundles_first {P : ProtectedBundleRegistry → Prop} (ls ms : List LedgerCall)
    (hnot : ¬P (ledgerAfter D ls).bundles) (hend : P (ledgerAfter D (ls ++ ms)).bundles) :
    ∃ ms₁ msg op ms₂ c, ms = ms₁ ++ (msg, .bundles op) :: ms₂ ∧
      ledgerCall D (ledgerAfter D (ls ++ ms₁)) (msg, .bundles op) = .ok c ∧
      ¬P (ledgerAfter D (ls ++ ms₁)).bundles ∧ P c.bundles := by
  rw [ledgerAfter_append] at hend
  obtain ⟨ms₁, ⟨msg, op⟩, ms₂, rfl, hbefore, hafter⟩ := run_first (P := fun c : Ledger => P c.bundles) ms hnot hend
  rw [← ledgerAfter_append] at hbefore hafter
  obtain ⟨c, hok, hc⟩ := attempt_ok (P := fun c : Ledger => P c.bundles) hbefore hafter
  obtain hsame | ⟨bundleOp, rfl, -⟩ := ledger_bundles hok
  · rw [hsame] at hc
    exact absurd hc hbefore
  · exact ⟨ms₁, msg, bundleOp, ms₂, c, rfl, hok, hbefore, hc⟩

/-! ### Promotion -/

/-- Before the call that promoted it, a receipt for the bundle was taken of a
credential that was then an active one for replica attestations, and what the
receipt observed is what is committed. -/
structure ReplicaObserved (D : Deployment) (ls : List LedgerCall) (bundleKey : Bytes32) : Prop where
  receipt : ∃ ls₁ msg input ls₂ msg' ls₃,
    ls = ls₁ ++ (msg, .bundles (.submitReplicaReceipt input)) :: ls₂ ++
      (msg', .bundles (.promoteToDecisionCritical bundleKey)) :: ls₃ ∧
    Succeeds D ls₁ (msg, .bundles (.submitReplicaReceipt input)) ∧
    Succeeds D (ls₁ ++ (msg, .bundles (.submitReplicaReceipt input)) :: ls₂)
      (msg', .bundles (.promoteToDecisionCritical bundleKey)) ∧
    input.bundleKey = bundleKey ∧
    (ledgerAfter D ls₁).authority.isReplicaAttestationCredential input.signerCredentialId
      input.replicaCustodianOrganizationId msg.sender = true ∧
    input.observedContentEnvelopeDigest = ((ledgerAfter D ls).bundles.commitments bundleKey).contentEnvelopeDigest ∧
    input.observedStoredEnvelopeLength = ((ledgerAfter D ls).bundles.commitments bundleKey).storedEnvelopeLength

/-- A bundle becomes decision critical only by its promotion. -/
theorem promotion_of_critical {authority : AuthorityProfileRegistry} {msg : Msg} {r r' : ProtectedBundleRegistry}
    {op : BundleOp} {bundleKey : Bytes32} (h : BundleChange D authority msg r op r')
    (hbefore : ¬(r.commitments bundleKey).criticalityClass = .decisionCritical)
    (hafter : (r'.commitments bundleKey).criticalityClass = .decisionCritical) :
    op = .promoteToDecisionCritical bundleKey ∧ r.verifiedReplicaReceipt bundleKey = true := by
  cases h with
  | closed => exact absurd hafter hbefore
  | committed input nonces commits _ _ supplementary =>
    dsimp only at hafter
    by_cases hkey : bundleKey = input.bundleKey
    · rw [hkey, update_self] at hafter
      have hinitial : input.initialCriticalityClass = .decisionCritical := hafter
      rw [supplementary] at hinitial
      cases hinitial
    · rw [update_of_ne hkey] at hafter
      exact absurd hafter hbefore
  | promoted key confirmed supplementary receipt =>
    dsimp only at hafter
    by_cases hkey : bundleKey = key
    · subst hkey
      exact ⟨rfl, receipt⟩
    · rw [update_of_ne hkey] at hafter
      exact absurd hafter hbefore
  | received input => exact absurd hafter hbefore

/-- A bundle comes to have a receipt only by one that observed it. -/
theorem receipt_of_verified {authority : AuthorityProfileRegistry} {msg : Msg} {r r' : ProtectedBundleRegistry}
    {op : BundleOp} {bundleKey : Bytes32} (h : BundleChange D authority msg r op r')
    (hbefore : ¬r.verifiedReplicaReceipt bundleKey = true) (hafter : r'.verifiedReplicaReceipt bundleKey = true) :
    ∃ input, op = .submitReplicaReceipt input ∧ input.bundleKey = bundleKey ∧ Observes authority r msg input := by
  cases h with
  | closed => exact absurd hafter hbefore
  | committed => exact absurd hafter hbefore
  | promoted => exact absurd hafter hbefore
  | received input observes =>
    dsimp only at hafter
    by_cases hkey : bundleKey = input.bundleKey
    · exact ⟨input, rfl, hkey.symm, observes⟩
    · rw [update_of_ne hkey] at hafter
      exact absurd hafter hbefore

theorem run_kept (ls ms : List LedgerCall) : Extends (ledgerAfter D ls).bundles (ledgerAfter D (ls ++ ms)).bundles := by
  rw [ledgerAfter_append]
  exact run_extends _ ms

theorem critical_observed {ls : List LedgerCall} {bundleKey : Bytes32}
    (h : ((ledgerAfter D ls).bundles.commitments bundleKey).criticalityClass = .decisionCritical) :
    ReplicaObserved D ls bundleKey := by
  obtain ⟨before, msg', op', ls₃, c', rfl, hok', hbefore', hafter'⟩ :=
    bundles_first (P := fun r => (r.commitments bundleKey).criticalityClass = .decisionCritical) [] ls
      (fun hdeployed => by cases hdeployed) h
  obtain ⟨rfl, hverified⟩ := promotion_of_critical (bundles_call hok') hbefore' hafter'
  obtain ⟨ls₁, msg, op, ls₂, c, rfl, hok, hbefore, hafter⟩ :=
    bundles_first (P := fun r => r.verifiedReplicaReceipt bundleKey = true) [] before
      (fun hdeployed => by cases hdeployed) hverified
  obtain ⟨input, rfl, hkey, hobserves⟩ := receipt_of_verified (bundles_call hok) hbefore hafter
  rw [List.nil_append] at hok hok' hobserves
  have hconfirmed := hobserves.confirmed
  rw [hkey] at hconfirmed
  have hkept := run_kept ls₁ ((msg, .bundles (.submitReplicaReceipt input)) :: ls₂ ++
    (msg', .bundles (.promoteToDecisionCritical bundleKey)) :: ls₃) bundleKey hconfirmed
  rw [← List.append_assoc] at hkept
  refine ⟨ls₁, msg, input, ls₂, msg', ls₃, rfl, ⟨c, hok⟩, ⟨c', hok'⟩, hkey, hobserves.credential, ?_, ?_⟩
  · rw [hkept.fields, hobserves.digest, hkey]
  · rw [hkept.fields, hobserves.length, hkey]

/-! ### Nonces -/

theorem receipt_nonce_stays {authority : AuthorityProfileRegistry} {msg : Msg} {r r' : ProtectedBundleRegistry}
    {op : BundleOp} {scope : Bytes32} (h : BundleChange D authority msg r op r')
    (hused : r.consumedReceiptNonces scope = true) : r'.consumedReceiptNonces scope = true := by
  cases h with
  | closed => exact hused
  | committed => exact hused
  | promoted => exact hused
  | received input =>
    dsimp only
    by_cases hscope : scope = receiptNonceScope D.crypto input
    · rw [hscope, update_self]
    · rwa [update_of_ne hscope]

theorem attestation_nonce_stays {authority : AuthorityProfileRegistry} {msg : Msg} {r r' : ProtectedBundleRegistry}
    {op : BundleOp} {scope : Bytes32} (h : BundleChange D authority msg r op r')
    (hused : r.consumedAttestationNonces scope = true) : r'.consumedAttestationNonces scope = true := by
  cases h with
  | closed => exact hused
  | committed input nonces commits =>
    cases commits with
    | bootstrap => exact hused
    | attested input =>
      dsimp only
      by_cases hscope : scope = attestationNonceScope D.crypto input.attestation
      · rw [hscope, update_self]
      · rwa [update_of_ne hscope]
  | promoted => exact hused
  | received => exact hused

theorem receipt_nonce {authority : AuthorityProfileRegistry} {msg : Msg} {r r' : ProtectedBundleRegistry}
    {input : ReceiptInput} (h : BundleChange D authority msg r (.submitReplicaReceipt input) r') :
    r.consumedReceiptNonces (receiptNonceScope D.crypto input) = false ∧
      r'.consumedReceiptNonces (receiptNonceScope D.crypto input) = true := by
  cases h with
  | committed _ _ commits => cases commits
  | received _ _ unused => exact ⟨unused, update_self _ _ _⟩

theorem attestation_nonce {authority : AuthorityProfileRegistry} {msg : Msg} {r r' : ProtectedBundleRegistry}
    {input : AttestedInput} (h : BundleChange D authority msg r (.commitAttestedProtectedBundle input) r') :
    r.consumedAttestationNonces (attestationNonceScope D.crypto input.attestation) = false ∧
      r'.consumedAttestationNonces (attestationNonceScope D.crypto input.attestation) = true := by
  cases h with
  | committed _ _ commits =>
    cases commits with
    | attested _ unused => exact ⟨unused, update_self _ _ _⟩

/-- A receipt whose nonce its credential has used is refused. -/
theorem receipt_once {ls ms : List LedgerCall} {msg msg' : Msg} {input input' : ReceiptInput}
    (hcredential : input'.signerCredentialId = input.signerCredentialId) (hnonce : input'.nonce = input.nonce)
    (h : Succeeds D ls (msg, .bundles (.submitReplicaReceipt input))) :
    ¬Succeeds D (ls ++ (msg, .bundles (.submitReplicaReceipt input)) :: ms)
      (msg', .bundles (.submitReplicaReceipt input')) := by
  rintro ⟨c', hok'⟩
  obtain ⟨c, hok⟩ := h
  have hscope : receiptNonceScope D.crypto input' = receiptNonceScope D.crypto input := by
    rw [receiptNonceScope, hcredential, hnonce, receiptNonceScope]
  have hused := (receipt_nonce (bundles_call hok)).2
  have hlater := bundles_rule (D := D) (I := fun r => r.consumedReceiptNonces (receiptNonceScope D.crypto input) = true)
    receipt_nonce_stays ms hused
  have hunused := (receipt_nonce (bundles_call hok')).1
  rw [hscope, ledgerAfter_call hok, hlater] at hunused
  cases hunused

/-- An attestation whose nonce its signer's credential has used is refused. -/
theorem attestation_once {ls ms : List LedgerCall} {msg msg' : Msg} {input input' : AttestedInput}
    (hcredential : input'.attestation.signerCredentialId = input.attestation.signerCredentialId)
    (hnonce : input'.attestation.nonce = input.attestation.nonce)
    (h : Succeeds D ls (msg, .bundles (.commitAttestedProtectedBundle input))) :
    ¬Succeeds D (ls ++ (msg, .bundles (.commitAttestedProtectedBundle input)) :: ms)
      (msg', .bundles (.commitAttestedProtectedBundle input')) := by
  rintro ⟨c', hok'⟩
  obtain ⟨c, hok⟩ := h
  have hscope : attestationNonceScope D.crypto input'.attestation = attestationNonceScope D.crypto input.attestation := by
    rw [attestationNonceScope, hcredential, hnonce, attestationNonceScope]
  have hused := (attestation_nonce (bundles_call hok)).2
  have hlater := bundles_rule (D := D)
    (I := fun r => r.consumedAttestationNonces (attestationNonceScope D.crypto input.attestation) = true)
    attestation_nonce_stays ms hused
  have hunused := (attestation_nonce (bundles_call hok')).1
  rw [hscope, ledgerAfter_call hok, hlater] at hunused
  cases hunused

/-! ### The bootstrap -/

theorem closed_of_close {authority : AuthorityProfileRegistry} {msg : Msg} {r r' : ProtectedBundleRegistry}
    (h : BundleChange D authority msg r .closeBootstrap r') : r'.bootstrapClosed = true := by
  cases h with
  | closed => rfl
  | committed _ _ commits => cases commits

theorem closed_stays {authority : AuthorityProfileRegistry} {msg : Msg} {r r' : ProtectedBundleRegistry}
    {op : BundleOp} (h : BundleChange D authority msg r op r') (hclosed : r.bootstrapClosed = true) :
    r'.bootstrapClosed = true := by
  cases h with
  | closed => rfl
  | committed => exact hclosed
  | promoted => exact hclosed
  | received => exact hclosed

/-- Once the bootstrap is closed a bundle becomes confirmed only by an attested
commit. -/
theorem attested_of_confirmed {authority : AuthorityProfileRegistry} {msg : Msg} {r r' : ProtectedBundleRegistry}
    {op : BundleOp} {bundleKey : Bytes32} (h : BundleChange D authority msg r op r')
    (hclosed : r.bootstrapClosed = true) (hbefore : ¬(r.commitments bundleKey).confirmed = true)
    (hafter : (r'.commitments bundleKey).confirmed = true) :
    ∃ input, op = .commitAttestedProtectedBundle input ∧ input.attestation.bundleId = bundleKey ∧
      r'.commitments bundleKey = input.toCommitInput.commitment msg.sender := by
  cases h with
  | closed => exact absurd hafter hbefore
  | committed input nonces commits =>
    dsimp only at hafter ⊢
    by_cases hkey : bundleKey = input.bundleKey
    · subst hkey
      cases commits with
      | bootstrap _ isOpen =>
        rw [hclosed] at isOpen
        cases isOpen
      | attested attested => exact ⟨attested, rfl, rfl, update_self _ _ _⟩
    · rw [update_of_ne hkey] at hafter
      exact absurd hafter hbefore
  | promoted key confirmed =>
    dsimp only at hafter
    by_cases hkey : bundleKey = key
    · subst hkey
      exact absurd confirmed hbefore
    · rw [update_of_ne hkey] at hafter
      exact absurd hafter hbefore
  | received => exact absurd hafter hbefore

/-- The bundle was committed with an attestation, by one of the calls `ms` made
after `ls`. -/
def AttestedIn (D : Deployment) (ls ms : List LedgerCall) (bundleKey : Bytes32) : Prop :=
  ∃ ms₁ msg input ms₂, ms = ms₁ ++ (msg, .bundles (.commitAttestedProtectedBundle input)) :: ms₂ ∧
    Succeeds D (ls ++ ms₁) (msg, .bundles (.commitAttestedProtectedBundle input)) ∧
    input.attestation.bundleId = bundleKey ∧
    Kept (input.toCommitInput.commitment msg.sender) ((ledgerAfter D (ls ++ ms)).bundles.commitments bundleKey)

theorem confirmed_attested {ls ms : List LedgerCall} {bundleKey : Bytes32}
    (hclosed : (ledgerAfter D ls).bundles.bootstrapClosed = true)
    (hbefore : ¬((ledgerAfter D ls).bundles.commitments bundleKey).confirmed = true)
    (hafter : ((ledgerAfter D (ls ++ ms)).bundles.commitments bundleKey).confirmed = true) :
    AttestedIn D ls ms bundleKey := by
  obtain ⟨ms₁, msg, op, ms₂, c, rfl, hok, hnot, hnow⟩ :=
    bundles_first (P := fun r => (r.commitments bundleKey).confirmed = true) ls ms hbefore hafter
  have hstill : (ledgerAfter D (ls ++ ms₁)).bundles.bootstrapClosed = true := by
    rw [ledgerAfter_append]
    exact bundles_rule (I := fun r => r.bootstrapClosed = true) closed_stays ms₁ hclosed
  obtain ⟨input, rfl, hkey, hcommitment⟩ := attested_of_confirmed (bundles_call hok) hstill hnot hnow
  have hkept := run_extends (D := D) c ms₂ bundleKey hnow
  rw [hcommitment, ← ledgerAfter_call hok, List.append_assoc] at hkept
  exact ⟨ms₁, msg, input, ms₂, rfl, ⟨c, hok⟩, hkey, hkept⟩

/-! ### Every run -/

/-- What is so of the bundle registry after the calls `ls`, and of whatever is
called from there on. -/
structure BundleHistory (D : Deployment) (ls : List LedgerCall) : Prop where
  /-- Confirmed bundles and bound domain keys are each other's. -/
  binding : Binding (ledgerAfter D ls).bundles
  /-- A confirmed commitment changes in its criticality only, which only rises. -/
  kept : ∀ ms, Extends (ledgerAfter D ls).bundles (ledgerAfter D (ls ++ ms)).bundles
  /-- A confirmed link stays confirmed. -/
  links : ∀ ms bundleKey domainKey bundleType payload critical,
    (ledgerAfter D ls).bundles.isConfirmedLink bundleKey domainKey bundleType payload critical = true →
    (ledgerAfter D (ls ++ ms)).bundles.isConfirmedLink bundleKey domainKey bundleType payload critical = true
  /-- A decision-critical bundle had its receipt before its promotion. -/
  observed : ∀ bundleKey,
    ((ledgerAfter D ls).bundles.commitments bundleKey).criticalityClass = .decisionCritical →
    ReplicaObserved D ls bundleKey
  /-- A credential's nonce gives one receipt. -/
  receipts : ∀ msg msg' input input' ms, input'.signerCredentialId = input.signerCredentialId →
    input'.nonce = input.nonce → Succeeds D ls (msg, .bundles (.submitReplicaReceipt input)) →
    ¬Succeeds D (ls ++ (msg, .bundles (.submitReplicaReceipt input)) :: ms)
      (msg', .bundles (.submitReplicaReceipt input'))
  /-- A credential's nonce gives one attested commit. -/
  attestations : ∀ msg msg' input input' ms,
    input'.attestation.signerCredentialId = input.attestation.signerCredentialId →
    input'.attestation.nonce = input.attestation.nonce →
    Succeeds D ls (msg, .bundles (.commitAttestedProtectedBundle input)) →
    ¬Succeeds D (ls ++ (msg, .bundles (.commitAttestedProtectedBundle input)) :: ms)
      (msg', .bundles (.commitAttestedProtectedBundle input'))
  /-- After the bootstrap was closed, what is newly confirmed was attested. -/
  closed : ∀ msg ms bundleKey, Succeeds D ls (msg, .bundles .closeBootstrap) →
    ¬((ledgerAfter D (ls ++ [(msg, .bundles .closeBootstrap)])).bundles.commitments bundleKey).confirmed = true →
    ((ledgerAfter D (ls ++ [(msg, .bundles .closeBootstrap)] ++ ms)).bundles.commitments bundleKey).confirmed = true →
    AttestedIn D (ls ++ [(msg, .bundles .closeBootstrap)]) ms bundleKey

/-- **The binding of bundles and domain keys**, and what every run of the
registries leaves behind: see `BundleHistory`. -/
theorem bundle_history (D : Deployment) (ls : List LedgerCall) : BundleHistory D ls where
  binding := after_binding ls
  kept := run_kept ls
  links ms _ _ _ _ _ hlink := (run_kept ls ms).isConfirmedLink hlink
  observed _ hcritical := critical_observed hcritical
  receipts _ _ _ _ _ hcredential hnonce h := receipt_once hcredential hnonce h
  attestations _ _ _ _ _ hcredential hnonce h := attestation_once hcredential hnonce h
  closed msg ms bundleKey h := by
    obtain ⟨c, hok⟩ := h
    refine confirmed_attested ?_
    rw [ledgerAfter_call hok, run_nil]
    exact closed_of_close (bundles_call hok)

end Contracts
end Evllm
