/-
# Bundles behind evidence versions

An activation asks the bundle registry whether the bundle it names is confirmed
for the domain key and the payload it names, as evidence; it does not ask for
which claim. A link once confirmed stays so, hence every version that is set is
linked to its bundle still (`Linked`), and two versions share a bundle just
where they share its domain key. That no bundle backs two versions is up to
whoever activates: it is so where no activation names the domain key of a
version that is already set (`NewDomain`).

Key definitions: `Linked`, `NewDomain`.
Key theorems: `version_origin`, `evidence_bundle_use`.
-/
import Evllm.Contracts.EvidenceVersions

namespace Evllm
namespace Contracts

open Lib Function EvidenceRegistry

variable {crypto : Crypto} {bundles bundles' : ProtectedBundleRegistry} {msg : Msg} {r r' : EvidenceRegistry}

/-- The bundle of the version is confirmed, as evidence, for its domain key and
its payload. -/
def Linked (crypto : Crypto) (bundles : ProtectedBundleRegistry) (x : EvidenceVersion) : Prop :=
  bundles.isConfirmedLink x.bundleKey x.domainKey (evidenceBundleType crypto) x.payloadCommitment false = true

theorem Linked.extends {x : EvidenceVersion} (h : Linked crypto bundles x) (hextends : Extends bundles bundles') :
    Linked crypto bundles' x := hextends.isConfirmedLink h

theorem Linked.commitment {x : EvidenceVersion} (h : Linked crypto bundles x) :
    (bundles.commitments x.bundleKey).confirmed = true ∧ (bundles.commitments x.bundleKey).domainKey = x.domainKey ∧
      (bundles.commitments x.bundleKey).domainPayloadCommitment = x.payloadCommitment := by
  simp only [Linked, ProtectedBundleRegistry.isConfirmedLink, Bool.and_eq_true, decide_eq_true_eq] at h
  obtain ⟨⟨⟨⟨hconfirmed, hdomain⟩, -⟩, hpayload⟩, -⟩ := h
  exact ⟨hconfirmed, hdomain, hpayload⟩

/-- Linked versions of one bundle have one domain key and one payload. -/
theorem Linked.same_bundle {x y : EvidenceVersion} (hx : Linked crypto bundles x) (hy : Linked crypto bundles y)
    (h : x.bundleKey = y.bundleKey) : x.domainKey = y.domainKey ∧ x.payloadCommitment = y.payloadCommitment := by
  obtain ⟨-, hdomain, hpayload⟩ := hx.commitment
  obtain ⟨-, hdomain', hpayload'⟩ := hy.commitment
  rw [h] at hdomain hpayload
  exact ⟨hdomain.symm.trans hdomain', hpayload.symm.trans hpayload'⟩

/-- Linked versions of one domain key have one bundle. -/
theorem Linked.same_domain {x y : EvidenceVersion} (hbinding : Binding bundles) (hx : Linked crypto bundles x)
    (hy : Linked crypto bundles y) (h : x.domainKey = y.domainKey) : x.bundleKey = y.bundleKey := by
  obtain ⟨hconfirmed, hdomain, -⟩ := hx.commitment
  obtain ⟨hconfirmed', hdomain', -⟩ := hy.commitment
  have hback := (hbinding.domain _ hconfirmed).2
  have hback' := (hbinding.domain _ hconfirmed').2
  rw [hdomain, h] at hback
  rw [hdomain'] at hback'
  exact hback.symm.trans hback'

/-! ### Where a version comes from -/

/-- A version that is set was set before, or the call activated it. -/
theorem version_origin {op : EvidenceOp} (h : EvidenceChange crypto bundles msg r op r') {claimKey : Bytes32}
    {version : Uint64} (hset : (r'.evidenceVersions claimKey version).status ≠ .unset) :
    (r.evidenceVersions claimKey version).status ≠ .unset ∨ ∃ input : ActivateInput, op = .activateEvidence input ∧
      claimKey = input.claimKey ∧ version = input.version ∧
      r'.evidenceVersions claimKey version = input.record msg.sender ∧
      Linked crypto bundles (input.record msg.sender) := by
  cases h with
  | first input none one unset link =>
    by_cases hkey : claimKey = input.claimKey
    · subst hkey
      simp only [activated, emit, setVersion, update_self] at hset ⊢
      by_cases hversion : version = input.version
      · subst hversion
        exact .inr ⟨input, rfl, rfl, rfl, update_self _ _ _, link⟩
      · rw [update_of_ne hversion] at hset
        exact .inl hset
    · simp only [activated, emit, setVersion, update_of_ne hkey] at hset
      exact .inl hset
  | next input prior active succ unset link =>
    by_cases hkey : claimKey = input.claimKey
    · subst hkey
      simp only [activated, emit, setStatus, setVersion, update_self] at hset ⊢
      by_cases hversion : version = input.version
      · subst hversion
        exact .inr ⟨input, rfl, rfl, rfl, update_self _ _ _, link⟩
      · rw [update_of_ne hversion] at hset
        by_cases hcurrent : version = r.currentVersion input.claimKey
        · rw [hcurrent, active]
          exact .inl (by simp)
        · rw [update_of_ne hcurrent] at hset
          exact .inl hset
    · simp only [activated, emit, setStatus, setVersion, update_of_ne hkey] at hset
      exact .inl hset
  | revoked key current _ active =>
    by_cases hkey : claimKey = key
    · subst hkey
      simp only [emit, setStatus, setVersion, update_self] at hset
      by_cases hversion : version = current
      · rw [hversion, active]
        exact .inl (by simp)
      · rw [update_of_ne hversion] at hset
        exact .inl hset
    · simp only [emit, setStatus, setVersion, update_of_ne hkey] at hset
      exact .inl hset
  | asserted => exact .inl hset
  | withdrawn => exact .inl hset
  | disputeOpened => exact .inl hset
  | disputeChanged => exact .inl hset
  | disputeClosed => exact .inl hset

/-! ### Every run -/

variable {D : Deployment} {c c' : Ledger}

/-- A call extends the bundles, or is one of the evidence registry. -/
theorem ledger_step {op : LedgerOp} (h : ledgerCall D c (msg, op) = .ok c') :
    (c'.evidence = c.evidence ∧ Extends c.bundles c'.bundles) ∨ (c'.bundles = c.bundles ∧ ∃ evidenceOp,
      op = .evidence evidenceOp ∧ EvidenceChange D.crypto c.bundles msg c.evidence evidenceOp c'.evidence) := by
  obtain hbundles | ⟨bundleOp, rfl, hchange⟩ := ledger_bundles h
  · obtain hevidence | ⟨evidenceOp, rfl, hop⟩ := ledger_evidence h
    · rw [hbundles]
      exact .inl ⟨hevidence, .refl _⟩
    · exact .inr ⟨hbundles, evidenceOp, rfl, evidence_change hop⟩
  · obtain hevidence | ⟨evidenceOp, heq, -⟩ := ledger_evidence h
    · exact .inl ⟨hevidence, change_extends hchange⟩
    · cases heq

/-- Every version that is set is linked. -/
def AllLinked (D : Deployment) (c : Ledger) : Prop :=
  ∀ claimKey version, (c.evidence.evidenceVersions claimKey version).status ≠ .unset →
    Linked D.crypto c.bundles (c.evidence.evidenceVersions claimKey version)

theorem step_linked {op : LedgerOp} (h : ledgerCall D c (msg, op) = .ok c') (hc : AllLinked D c) : AllLinked D c' := by
  intro claimKey version hset
  obtain ⟨hsame, hextends⟩ | ⟨hbundles, evidenceOp, -, hchange⟩ := ledger_step h
  · rw [hsame] at hset ⊢
    exact (hc claimKey version hset).extends hextends
  · rw [hbundles]
    obtain hold | ⟨input, -, -, -, hrecord, hlink⟩ := version_origin hchange hset
    · rw [((change_grows hchange).versions claimKey version hold).fields]
      exact hc claimKey version hold
    · rw [hrecord]
      exact hlink

theorem after_linked (ls : List LedgerCall) : AllLinked D (ledgerAfter D ls) :=
  run_invariant (attempt_invariant fun _ _ _ h hc => step_linked h hc) ls fun _ _ hset => absurd rfl hset

/-- The call does not activate a version under the domain key of one that is
set. -/
def NewDomain (c : Ledger) (call : LedgerCall) : Prop :=
  ∀ input, call.2 = .evidence (.activateEvidence input) → ∀ claimKey version,
    (c.evidence.evidenceVersions claimKey version).status ≠ .unset →
      (c.evidence.evidenceVersions claimKey version).domainKey ≠ input.domainKey

/-- No two versions that are set have the same domain key. -/
def OneDomain (r : EvidenceRegistry) : Prop :=
  ∀ claimKey version claimKey' version', (r.evidenceVersions claimKey version).status ≠ .unset →
    (r.evidenceVersions claimKey' version').status ≠ .unset →
    (r.evidenceVersions claimKey version).domainKey = (r.evidenceVersions claimKey' version').domainKey →
    claimKey = claimKey' ∧ version = version'

theorem change_oneDomain {op : EvidenceOp} (h : EvidenceChange crypto bundles msg r op r') (hr : OneDomain r)
    (hnew : ∀ input, op = .activateEvidence input → ∀ claimKey version,
      (r.evidenceVersions claimKey version).status ≠ .unset →
        (r.evidenceVersions claimKey version).domainKey ≠ input.domainKey) : OneDomain r' := by
  have hkept : ∀ claimKey version, (r.evidenceVersions claimKey version).status ≠ .unset →
      (r'.evidenceVersions claimKey version).domainKey = (r.evidenceVersions claimKey version).domainKey := by
    intro claimKey version hset
    rw [((change_grows h).versions claimKey version hset).fields]
    rfl
  intro claimKey version claimKey' version' hset hset' hsame
  obtain hold | ⟨input, hop, rfl, rfl, hrecord, -⟩ := version_origin h hset
  · obtain hold' | ⟨input, hop, rfl, rfl, hrecord', -⟩ := version_origin h hset'
    · rw [hkept _ _ hold, hkept _ _ hold'] at hsame
      exact hr _ _ _ _ hold hold' hsame
    · rw [hkept _ _ hold, hrecord'] at hsame
      exact absurd hsame (hnew input hop _ _ hold)
  · obtain hold' | ⟨input', hop', rfl, rfl, -, -⟩ := version_origin h hset'
    · rw [hkept _ _ hold', hrecord] at hsame
      exact absurd hsame.symm (hnew input hop _ _ hold')
    · rw [hop] at hop'
      cases hop'
      exact ⟨rfl, rfl⟩

theorem guarded_oneDomain {ls : List LedgerCall} (h : Guarded (attempt (ledgerCall D)) NewDomain (.deployed D) ls) :
    OneDomain (ledgerAfter D ls).evidence := by
  refine run_guarded (I := fun c : Ledger => OneDomain c.evidence) (fun c call hnew hc => ?_) ls h
    (fun _ _ _ _ hset => absurd rfl hset)
  obtain heq | ⟨c', hok, heq⟩ := attempt_cases (ledgerCall D) c call
  · rwa [heq]
  · rw [heq]
    obtain ⟨hsame, -⟩ | ⟨-, evidenceOp, hop, hchange⟩ := ledger_step hok
    · rwa [hsame]
    · refine change_oneDomain hchange hc fun input heqop => hnew input ?_
      rw [hop, heqop]

/-- **The bundles behind evidence.** After every run each version that is set
is linked to its bundle, for its own domain key and payload; two versions have
the same bundle just where they have the same domain key, and then the same
payload. In a run in which no activation names the domain key of a version that
is set, no bundle backs two versions. -/
theorem evidence_bundle_use (D : Deployment) (ls : List LedgerCall) :
    AllLinked D (ledgerAfter D ls) ∧
    (∀ claimKey version claimKey' version',
      ((ledgerAfter D ls).evidence.evidenceVersions claimKey version).status ≠ .unset →
      ((ledgerAfter D ls).evidence.evidenceVersions claimKey' version').status ≠ .unset →
      (((ledgerAfter D ls).evidence.evidenceVersions claimKey version).bundleKey =
        ((ledgerAfter D ls).evidence.evidenceVersions claimKey' version').bundleKey ↔
      ((ledgerAfter D ls).evidence.evidenceVersions claimKey version).domainKey =
        ((ledgerAfter D ls).evidence.evidenceVersions claimKey' version').domainKey) ∧
      (((ledgerAfter D ls).evidence.evidenceVersions claimKey version).bundleKey =
        ((ledgerAfter D ls).evidence.evidenceVersions claimKey' version').bundleKey →
      ((ledgerAfter D ls).evidence.evidenceVersions claimKey version).payloadCommitment =
        ((ledgerAfter D ls).evidence.evidenceVersions claimKey' version').payloadCommitment)) ∧
    (Guarded (attempt (ledgerCall D)) NewDomain (.deployed D) ls → ∀ claimKey version claimKey' version',
      ((ledgerAfter D ls).evidence.evidenceVersions claimKey version).status ≠ .unset →
      ((ledgerAfter D ls).evidence.evidenceVersions claimKey' version').status ≠ .unset →
      ((ledgerAfter D ls).evidence.evidenceVersions claimKey version).bundleKey =
        ((ledgerAfter D ls).evidence.evidenceVersions claimKey' version').bundleKey →
      claimKey = claimKey' ∧ version = version') := by
  have hlinked := after_linked (D := D) ls
  refine ⟨hlinked, fun claimKey version claimKey' version' hset hset' => ⟨⟨fun h => ?_, fun h => ?_⟩, fun h => ?_⟩,
    fun hguard claimKey version claimKey' version' hset hset' h => ?_⟩
  · exact ((hlinked _ _ hset).same_bundle (hlinked _ _ hset') h).1
  · exact (hlinked _ _ hset).same_domain (after_binding ls) (hlinked _ _ hset') h
  · exact ((hlinked _ _ hset).same_bundle (hlinked _ _ hset') h).2
  · exact guarded_oneDomain hguard _ _ _ _ hset hset' ((hlinked _ _ hset).same_bundle (hlinked _ _ hset') h).1

/-! ### One bundle, two claims -/

/-- An issuer with a capability for every claim, and a bundle of evidence. -/
def oneBundle : List LedgerCall :=
  [(⟨9, 0⟩, .authority (.setOrganizationStatus 1 .active)), (⟨9, 0⟩, .authority (.setCredential 11 1 101 true false)),
    (⟨9, 0⟩, .authority (.setCapabilityGrant 11 (issueCapability sampleDeployment.crypto) 0 0 0 true)),
    (⟨9, 0⟩, .bundles (.commitProtectedBundle
      ⟨21, 23, 1, evidenceBundleType sampleDeployment.crypto, 25, 26, 10, 27, .supplementary⟩))]

/-- The issuer activates it for two claims. -/
def twoClaims : List LedgerCall :=
  [(⟨101, 1⟩, .evidence (.activateEvidence ⟨1, 1, 0, 21, 23, 25, 1, 11⟩)),
    (⟨101, 2⟩, .evidence (.activateEvidence ⟨2, 1, 0, 21, 23, 25, 1, 11⟩))]

theorem bundle_backs_two_claims :
    ((ledgerAfter sampleDeployment (oneBundle ++ twoClaims)).evidence.evidenceVersions 1 1).status = .active ∧
    ((ledgerAfter sampleDeployment (oneBundle ++ twoClaims)).evidence.evidenceVersions 2 1).status = .active ∧
    ((ledgerAfter sampleDeployment (oneBundle ++ twoClaims)).evidence.evidenceVersions 1 1).bundleKey = 21 ∧
    ((ledgerAfter sampleDeployment (oneBundle ++ twoClaims)).evidence.evidenceVersions 2 1).bundleKey = 21 := by
  decide +kernel

end Contracts
end Evllm
