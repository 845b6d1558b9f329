/-
# The versions of an evidence claim

The evidence registry numbers the versions of a claim from one on. A new
version supersedes the one before it, which must be active, and takes the next
number; only the current version can be revoked. So the versions of a claim are
a chain: all but the last are superseded, the last is active or revoked, and a
revoked one ends the chain (`VersionChain`).

`EvidenceChange` says what a call that succeeds can do, and `ClaimChange` what
that is for the versions of one claim; everything about versions follows from
the latter.

Key definitions: `EvidenceChange`, `ClaimChange`, `VersionChain`, `Lasts`.
Key theorems: `evidence_change`, `claim_change`, `evidence_version_chain`.
-/
import Evllm.Contracts.Ledger

namespace Evllm
namespace Contracts

open Lib Function EvidenceRegistry

/-- The version that an activation writes for its sender. -/
def EvidenceRegistry.ActivateInput.record (input : ActivateInput) (sender : Address) : EvidenceVersion where
  bundleKey := input.bundleKey
  domainKey := input.domainKey
  payloadCommitment := input.payloadCommitment
  issuerOrganizationId := input.issuerOrganizationId
  issuerCredentialId := input.issuerCredentialId
  issuer := sender
  status := .active

/-- The assertion that a verifier writes. -/
def EvidenceRegistry.AssertionInput.assertion (input : AssertionInput) (sender : Address) : VerificationAssertion where
  claimKey := input.claimKey
  claimVersion := input.claimVersion
  bundleKey := input.bundleKey
  verifierOrganizationId := input.verifierOrganizationId
  verifierCredentialId := input.verifierCredentialId
  verifier := sender
  assertionType := input.assertionType
  status := .active

/-- The registry with a new current version. -/
def EvidenceRegistry.activated (r : EvidenceRegistry) (input : ActivateInput) (sender : Address) : EvidenceRegistry :=
  { r.setVersion input.claimKey input.version (input.record sender) with
    currentVersion := update r.currentVersion input.claimKey input.version }.emit
    (.evidenceActivated input.claimKey input.version input.bundleKey input.issuerOrganizationId)

variable (crypto : Crypto) (bundles : ProtectedBundleRegistry) (msg : Msg)

/-- What a call that succeeds can do. -/
inductive EvidenceChange (r : EvidenceRegistry) : EvidenceOp → EvidenceRegistry → Prop
  | first (input : ActivateInput) (none : r.currentVersion input.claimKey = 0) (version : input.version = 1)
      (unset : (r.evidenceVersions input.claimKey input.version).status = .unset)
      (link : bundles.isConfirmedLink input.bundleKey input.domainKey (evidenceBundleType crypto)
        input.payloadCommitment false = true) :
      EvidenceChange r (.activateEvidence input) (r.activated input msg.sender)
  | next (input : ActivateInput) (prior : r.currentVersion input.claimKey ≠ 0)
      (active : (r.evidenceVersions input.claimKey (r.currentVersion input.claimKey)).status = .active)
      (version : input.version.toNat = (r.currentVersion input.claimKey).toNat + 1)
      (unset : (r.evidenceVersions input.claimKey input.version).status = .unset)
      (link : bundles.isConfirmedLink input.bundleKey input.domainKey (evidenceBundleType crypto)
        input.payloadCommitment false = true) :
      EvidenceChange r (.activateEvidence input)
        (((r.setStatus input.claimKey (r.currentVersion input.claimKey) .superseded).emit
          (.evidenceSuperseded input.claimKey (r.currentVersion input.claimKey) input.version)).activated input msg.sender)
  | revoked (claimKey : Bytes32) (version : Uint64) (current : r.currentVersion claimKey = version)
      (active : (r.evidenceVersions claimKey version).status = .active) :
      EvidenceChange r (.revokeEvidence claimKey version)
        ((r.setStatus claimKey version .revoked).emit (.evidenceRevoked claimKey version))
  | asserted (input : AssertionInput)
      (active : (r.evidenceVersions input.claimKey input.claimVersion).status = .active)
      (unset : (r.assertions input.assertionKey).status = .unset)
      (independent : (r.evidenceVersions input.claimKey input.claimVersion).issuerOrganizationId ≠
        input.verifierOrganizationId) :
      EvidenceChange r (.createVerificationAssertion input)
        ((r.setAssertion input.assertionKey (input.assertion msg.sender)).emit
          (.verificationAssertionCreated input.assertionKey input.claimKey input.claimVersion input.assertionType))
  | withdrawn (assertionKey : Bytes32) (active : (r.assertions assertionKey).status = .active) :
      EvidenceChange r (.withdrawVerificationAssertion assertionKey)
        ((r.setAssertion assertionKey { r.assertions assertionKey with status := .withdrawn }).emit
          (.verificationAssertionWithdrawn assertionKey))
  | disputeOpened (input : DisputeInput) (dispute : Dispute) :
      EvidenceChange r (.openEvidenceDispute input)
        ((r.setDispute input.disputeKey dispute).emit
          (.evidenceDisputeOpened input.disputeKey input.claimKey input.claimVersion))
  | disputeChanged (disputeKey : Bytes32) (status : DisputeStatus) :
      EvidenceChange r (.changeEvidenceDisputeState disputeKey status) (r.changeDispute disputeKey status)
  | disputeClosed (disputeKey : Bytes32) (status : DisputeStatus) :
      EvidenceChange r (.closeEvidenceDisputeForLifecycle disputeKey) (r.changeDispute disputeKey status)

variable {crypto bundles msg} {authority : AuthorityProfileRegistry} {r r' : EvidenceRegistry}

theorem activate_change {input : ActivateInput} (h : r.activateEvidence crypto authority bundles msg input = .ok r') :
    EvidenceChange crypto bundles msg r (.activateEvidence input) r' := by
  simp only [activateEvidence, bind_eq_ok, throwIf_eq_ok, pure_eq_ok, not_not, Bool.not_eq_false] at h
  obtain ⟨_, _, _, _, _, _, _, hlink, _, hunset, _, _, next, hnext, _, hversion, superseded, hsuperseded, rfl⟩ := h
  rw [← hversion] at hnext
  have hsucc : input.version.toNat = (r.currentVersion input.claimKey).toNat + 1 := checkedAdd_eq_ok hnext
  unfold supersede at hsuperseded
  split_ifs at hsuperseded with hprior
  · simp only [bind_eq_ok, throwIf_eq_ok, pure_eq_ok, not_not] at hsuperseded
    obtain ⟨_, hactive, rfl⟩ := hsuperseded
    exact .next input hprior hactive hsucc hunset hlink
  · rw [pure_eq_ok] at hsuperseded
    subst hsuperseded
    have hnone : r.currentVersion input.claimKey = 0 := not_not.mp hprior
    rw [hnone] at hsucc
    exact .first input hnone (BitVec.eq_of_toNat_eq hsucc) hunset hlink

/-- **What a call of the evidence registry does.** -/
theorem evidence_change {op : EvidenceOp} (h : op.exec crypto authority bundles r msg = .ok r') :
    EvidenceChange crypto bundles msg r op r' := by
  cases op with
  | activateEvidence input => exact activate_change h
  | revokeEvidence claimKey version =>
    simp only [EvidenceOp.exec, revokeEvidence, bind_eq_ok, throwIf_eq_ok, pure_eq_ok, not_or, not_not] at h
    obtain ⟨_, ⟨hactive, hcurrent⟩, _, _, rfl⟩ := h
    exact .revoked claimKey version hcurrent hactive
  | createVerificationAssertion input =>
    simp only [EvidenceOp.exec, createVerificationAssertion, bind_eq_ok, throwIf_eq_ok, pure_eq_ok, not_or, not_not] at h
    obtain ⟨_, ⟨_, hactive⟩, _, hunset, _, hindependent, _, _, _, _, _, _, rfl⟩ := h
    exact .asserted input hactive hunset hindependent
  | withdrawVerificationAssertion assertionKey =>
    simp only [EvidenceOp.exec, withdrawVerificationAssertion, bind_eq_ok, throwIf_eq_ok, pure_eq_ok, not_not] at h
    obtain ⟨_, hactive, _, _, rfl⟩ := h
    exact .withdrawn assertionKey hactive
  | openEvidenceDispute input =>
    simp only [EvidenceOp.exec, openEvidenceDispute, bind_eq_ok, throwIf_eq_ok, pure_eq_ok] at h
    obtain ⟨_, _, _, _, _, _, _, _, _, _, rfl⟩ := h
    exact .disputeOpened input _
  | changeEvidenceDisputeState disputeKey newStatus =>
    simp only [EvidenceOp.exec, changeEvidenceDisputeState, bind_eq_ok, throwIf_eq_ok, pure_eq_ok] at h
    obtain ⟨_, _, _, _, _, _, rfl⟩ := h
    exact .disputeChanged disputeKey newStatus
  | closeEvidenceDisputeForLifecycle disputeKey =>
    simp only [EvidenceOp.exec, closeEvidenceDisputeForLifecycle, bind_eq_ok, throwIf_eq_ok] at h
    obtain ⟨_, _, _, _, h⟩ := h
    split at h
    · rw [pure_eq_ok] at h
      subst h
      exact .disputeClosed disputeKey _
    · rw [pure_eq_ok] at h
      subst h
      exact .disputeClosed disputeKey _
    · cases h
    · cases h

/-! ### The versions of one claim -/

/-- A version with another status. -/
def EvidenceVersion.withStatus (x : EvidenceVersion) (status : EvidenceStatus) : EvidenceVersion :=
  { x with status := status }

/-- What a change can do to the versions of a claim. -/
inductive ClaimChange (current : Uint64) (versions : Uint64 → EvidenceVersion) :
    Uint64 → (Uint64 → EvidenceVersion) → Prop
  | same : ClaimChange current versions current versions
  | first (record : EvidenceVersion) (active : record.status = .active) (none : current = 0)
      (unset : (versions 1).status = .unset) : ClaimChange current versions 1 (update versions 1 record)
  | next (version : Uint64) (record : EvidenceVersion) (active : record.status = .active)
      (prior : current ≠ 0) (priorActive : (versions current).status = .active)
      (succ : version.toNat = current.toNat + 1) (unset : (versions version).status = .unset) :
      ClaimChange current versions version
        (update (update versions current ((versions current).withStatus .superseded)) version record)
  | revoked (active : (versions current).status = .active) :
      ClaimChange current versions current (update versions current ((versions current).withStatus .revoked))

/-- **What a call does to the versions of a claim.** -/
theorem claim_change {op : EvidenceOp} (h : EvidenceChange crypto bundles msg r op r') (claimKey : Bytes32) :
    ClaimChange (r.currentVersion claimKey) (r.evidenceVersions claimKey)
      (r'.currentVersion claimKey) (r'.evidenceVersions claimKey) := by
  cases h with
  | first input none version unset link =>
    by_cases hkey : claimKey = input.claimKey
    · subst hkey
      rw [version] at unset
      simp only [activated, emit, setVersion, update_self, version]
      exact .first (input.record msg.sender) rfl none unset
    · simp only [activated, emit, setVersion, update_of_ne hkey]
      exact .same
  | next input prior active version unset link =>
    by_cases hkey : claimKey = input.claimKey
    · subst hkey
      simp only [activated, emit, setStatus, setVersion, update_self]
      exact .next input.version (input.record msg.sender) rfl prior active version unset
    · simp only [activated, emit, setStatus, setVersion, update_of_ne hkey]
      exact .same
  | revoked key version current active =>
    by_cases hkey : claimKey = key
    · subst hkey
      subst current
      simp only [emit, setStatus, setVersion, update_self]
      exact .revoked active
    · simp only [emit, setStatus, setVersion, update_of_ne hkey]
      exact .same
  | asserted => exact .same
  | withdrawn => exact .same
  | disputeOpened => exact .same
  | disputeChanged => exact .same
  | disputeClosed => exact .same

/-! ### The chain -/

/-- The versions from one to the current one are set, all but the current one
are superseded, and that is active or revoked. -/
structure VersionChain (current : Uint64) (versions : Uint64 → EvidenceVersion) : Prop where
  unset : ∀ v, (versions v).status = .unset ↔ v.toNat = 0 ∨ current.toNat < v.toNat
  superseded : ∀ v, 0 < v.toNat → v.toNat < current.toNat → (versions v).status = .superseded
  current : 0 < current.toNat → (versions current).status = .active ∨ (versions current).status = .revoked

variable {current current' : Uint64} {versions versions' : Uint64 → EvidenceVersion}

theorem toNat_ne {v w : Uint64} (h : v ≠ w) : v.toNat ≠ w.toNat := fun heq => h (BitVec.eq_of_toNat_eq heq)

/-- Only the current version can be active. -/
theorem VersionChain.eq_current (h : VersionChain current versions) {v : Uint64} (hactive : (versions v).status = .active) :
    v = current := by
  by_contra hne
  have hdiff := toNat_ne hne
  by_cases hset : v.toNat = 0 ∨ current.toNat < v.toNat
  · rw [(h.unset v).mpr hset] at hactive
    cases hactive
  · rw [h.superseded v (by omega) (by omega)] at hactive
    cases hactive

theorem VersionChain.first {record : EvidenceVersion} (h : VersionChain 0 versions) (hactive : record.status = .active) :
    VersionChain 1 (update versions 1 record) := by
  have hone : (1 : Uint64).toNat = 1 := rfl
  have hzero : (0 : Uint64).toNat = 0 := rfl
  constructor
  · intro v
    by_cases hv : v = 1
    · rw [hv, update_self, hactive, hone]
      simp
    · have hdiff := toNat_ne hv
      rw [update_of_ne hv, h.unset v]
      omega
  · intro v hpos hlt
    omega
  · intro _
    rw [update_self]
    exact .inl hactive

theorem VersionChain.next {version : Uint64} {record : EvidenceVersion} (h : VersionChain current versions)
    (hprior : current ≠ 0) (hsucc : version.toNat = current.toNat + 1) (hactive : record.status = .active) :
    VersionChain version
      (update (update versions current ((versions current).withStatus .superseded)) version record) := by
  have hzero : (0 : Uint64).toNat = 0 := rfl
  have hpos := toNat_ne hprior
  constructor
  · intro v
    by_cases hv : v = version
    · rw [hv, update_self, hactive]
      simp only [reduceCtorEq, false_iff]
      omega
    · have hdiff := toNat_ne hv
      rw [update_of_ne hv]
      by_cases hc : v = current
      · rw [hc, update_self]
        simp only [EvidenceVersion.withStatus, reduceCtorEq, false_iff]
        omega
      · have hdiff' := toNat_ne hc
        rw [update_of_ne hc, h.unset v]
        omega
  · intro v hv hlt
    have hversion : v ≠ version := by
      rintro rfl
      omega
    rw [update_of_ne hversion]
    by_cases hc : v = current
    · rw [hc, update_self]
      rfl
    · have hdiff := toNat_ne hc
      rw [update_of_ne hc]
      exact h.superseded v hv (by omega)
  · intro _
    rw [update_self]
    exact .inl hactive

theorem VersionChain.revoke (h : VersionChain current versions) (hactive : (versions current).status = .active) :
    VersionChain current (update versions current ((versions current).withStatus .revoked)) := by
  have hset : ¬(current.toNat = 0 ∨ current.toNat < current.toNat) := by
    rw [← h.unset current, hactive]
    simp
  constructor
  · intro v
    by_cases hv : v = current
    · rw [hv, update_self]
      simp only [EvidenceVersion.withStatus, reduceCtorEq, false_iff]
      exact hset
    · rw [update_of_ne hv]
      exact h.unset v
  · intro v hpos hlt
    have hv : v ≠ current := by
      rintro rfl
      omega
    rw [update_of_ne hv]
    exact h.superseded v hpos hlt
  · intro _
    rw [update_self]
    exact .inr rfl

theorem change_chain (h : ClaimChange current versions current' versions') (hchain : VersionChain current versions) :
    VersionChain current' versions' := by
  cases h with
  | same => exact hchain
  | first record active none _ =>
    subst none
    exact hchain.first active
  | next version record active prior _ succ _ => exact hchain.next prior succ active
  | revoked active => exact hchain.revoke active

/-- A claim whose current version is revoked is not changed again. -/
theorem change_revoked (h : ClaimChange current versions current' versions') (hchain : VersionChain current versions)
    (hrevoked : (versions current).status = .revoked) : current' = current ∧ versions' = versions := by
  cases h with
  | same => exact ⟨rfl, rfl⟩
  | first record _ none _ =>
    subst none
    rw [(hchain.unset 0).mpr (.inl rfl)] at hrevoked
    cases hrevoked
  | next version record _ _ priorActive _ _ =>
    rw [priorActive] at hrevoked
    cases hrevoked
  | revoked active =>
    rw [active] at hrevoked
    cases hrevoked

/-- A version that is set stays set, the same but for its status. -/
structure Lasts (x x' : EvidenceVersion) : Prop where
  fields : x' = x.withStatus x'.status
  set : x.status ≠ .unset → x'.status ≠ .unset

theorem Lasts.refl (x : EvidenceVersion) : Lasts x x := ⟨rfl, id⟩

theorem Lasts.trans {x x' x'' : EvidenceVersion} (h : Lasts x x') (h' : Lasts x' x'') : Lasts x x'' := by
  refine ⟨?_, fun hset => h'.set (h.set hset)⟩
  rw [h'.fields, h.fields]
  rfl

theorem Lasts.withStatus (x : EvidenceVersion) {status : EvidenceStatus} (h : status ≠ .unset) :
    Lasts x (x.withStatus status) := ⟨rfl, fun _ => h⟩

theorem change_lasts (h : ClaimChange current versions current' versions') {v : Uint64}
    (hset : (versions v).status ≠ .unset) : Lasts (versions v) (versions' v) := by
  cases h with
  | same => exact .refl _
  | first record _ _ unset =>
    have hv : v ≠ 1 := fun heq => hset (heq ▸ unset)
    rw [update_of_ne hv]
    exact .refl _
  | next version record _ _ _ _ unset =>
    have hv : v ≠ current' := fun heq => hset (heq ▸ unset)
    rw [update_of_ne hv]
    by_cases hc : v = current
    · rw [hc, update_self]
      exact .withStatus _ (by simp)
    · rw [update_of_ne hc]
      exact .refl _
  | revoked active =>
    by_cases hc : v = current
    · rw [hc, update_self]
      exact .withStatus _ (by simp)
    · rw [update_of_ne hc]
      exact .refl _

/-! ### Assertions -/

/-- An assertion with another status. -/
def VerificationAssertion.withStatus (x : VerificationAssertion) (status : AssertionStatus) : VerificationAssertion :=
  { x with status := status }

/-- An assertion that was made stays, the same but for its status. -/
structure Stands (x x' : VerificationAssertion) : Prop where
  fields : x' = x.withStatus x'.status
  set : x.status ≠ .unset → x'.status ≠ .unset

theorem Stands.refl (x : VerificationAssertion) : Stands x x := ⟨rfl, id⟩

theorem Stands.trans {x x' x'' : VerificationAssertion} (h : Stands x x') (h' : Stands x' x'') : Stands x x'' := by
  refine ⟨?_, fun hset => h'.set (h.set hset)⟩
  rw [h'.fields, h.fields]
  rfl

theorem change_stands {op : EvidenceOp} (h : EvidenceChange crypto bundles msg r op r') {assertionKey : Bytes32}
    (hset : (r.assertions assertionKey).status ≠ .unset) :
    Stands (r.assertions assertionKey) (r'.assertions assertionKey) := by
  cases h with
  | asserted input _ unset _ =>
    have hkey : assertionKey ≠ input.assertionKey := fun heq => hset (heq ▸ unset)
    simp only [emit, setAssertion, update_of_ne hkey]
    exact .refl _
  | withdrawn key _ =>
    by_cases hkey : assertionKey = key
    · subst hkey
      simp only [emit, setAssertion, update_self]
      exact ⟨rfl, fun _ => by simp⟩
    · simp only [emit, setAssertion, update_of_ne hkey]
      exact .refl _
  | first => exact .refl _
  | next => exact .refl _
  | revoked => exact .refl _
  | disputeOpened => exact .refl _
  | disputeChanged => exact .refl _
  | disputeClosed => exact .refl _

/-- What is set in the registry lasts: versions and assertions. -/
structure Grows (r r' : EvidenceRegistry) : Prop where
  versions : ∀ claimKey version, (r.evidenceVersions claimKey version).status ≠ .unset →
    Lasts (r.evidenceVersions claimKey version) (r'.evidenceVersions claimKey version)
  assertions : ∀ assertionKey, (r.assertions assertionKey).status ≠ .unset →
    Stands (r.assertions assertionKey) (r'.assertions assertionKey)

theorem Grows.refl (r : EvidenceRegistry) : Grows r r := ⟨fun _ _ _ => .refl _, fun _ _ => .refl _⟩

theorem Grows.trans {r'' : EvidenceRegistry} (h : Grows r r') (h' : Grows r' r'') : Grows r r'' := by
  constructor
  · intro claimKey version hset
    have hlasts := h.versions claimKey version hset
    exact hlasts.trans (h'.versions claimKey version (hlasts.set hset))
  · intro assertionKey hset
    have hstands := h.assertions assertionKey hset
    exact hstands.trans (h'.assertions assertionKey (hstands.set hset))

theorem change_grows {op : EvidenceOp} (h : EvidenceChange crypto bundles msg r op r') : Grows r r' :=
  ⟨fun claimKey _ hset => change_lasts (claim_change h claimKey) hset, fun _ hset => change_stands h hset⟩

/-- Every assertion is about a version that is set, by another organisation
than the one that issued it. -/
def Independent (r : EvidenceRegistry) : Prop :=
  ∀ assertionKey, (r.assertions assertionKey).status ≠ .unset →
    (r.evidenceVersions (r.assertions assertionKey).claimKey (r.assertions assertionKey).claimVersion).status ≠ .unset ∧
    (r.assertions assertionKey).verifierOrganizationId ≠
      (r.evidenceVersions (r.assertions assertionKey).claimKey (r.assertions assertionKey).claimVersion).issuerOrganizationId

/-- A registry whose assertions were all there before is as independent. -/
theorem Independent.of_grows (h : Independent r) (hgrows : Grows r r')
    (hold : ∀ key, (r'.assertions key).status ≠ .unset → (r.assertions key).status ≠ .unset) : Independent r' := by
  intro key hset
  obtain ⟨hversion, hdiffers⟩ := h key (hold key hset)
  have hstands := hgrows.assertions key (hold key hset)
  have hclaim : (r'.assertions key).claimKey = (r.assertions key).claimKey := by
    rw [hstands.fields]
    rfl
  have hclaimVersion : (r'.assertions key).claimVersion = (r.assertions key).claimVersion := by
    rw [hstands.fields]
    rfl
  have hverifier : (r'.assertions key).verifierOrganizationId = (r.assertions key).verifierOrganizationId := by
    rw [hstands.fields]
    rfl
  have hlasts := hgrows.versions _ _ hversion
  rw [hclaim, hclaimVersion, hverifier]
  refine ⟨hlasts.set hversion, ?_⟩
  rw [hlasts.fields]
  exact hdiffers

theorem change_independent {op : EvidenceOp} (h : EvidenceChange crypto bundles msg r op r') (hr : Independent r) :
    Independent r' := by
  have hgrows := change_grows h
  cases h with
  | asserted input active unset independent =>
    intro key hset
    by_cases hkey : key = input.assertionKey
    · subst hkey
      simp only [emit, setAssertion, update_self]
      refine ⟨?_, fun heq => independent heq.symm⟩
      rw [AssertionInput.assertion, active]
      simp
    · simp only [emit, setAssertion, update_of_ne hkey] at hset ⊢
      exact hr key hset
  | withdrawn key active =>
    refine hr.of_grows hgrows fun other hset => ?_
    by_cases hkey : other = key
    · rw [hkey, active]
      simp
    · simpa only [emit, setAssertion, update_of_ne hkey] using hset
  | first => exact hr.of_grows hgrows fun _ hset => hset
  | next => exact hr.of_grows hgrows fun _ hset => hset
  | revoked => exact hr.of_grows hgrows fun _ hset => hset
  | disputeOpened => exact hr.of_grows hgrows fun _ hset => hset
  | disputeChanged => exact hr.of_grows hgrows fun _ hset => hset
  | disputeClosed => exact hr.of_grows hgrows fun _ hset => hset

/-! ### Every run -/

section Runs

variable {D : Deployment}

/-- A fact about the evidence that every change keeps holds after every run. -/
theorem evidence_rule {I : EvidenceRegistry → Prop}
    (h : ∀ {bundles msg op r r'}, EvidenceChange D.crypto bundles msg r op r' → I r → I r') (ls : List LedgerCall)
    {c : Ledger} (hc : I c.evidence) : I (run (attempt (ledgerCall D)) c ls).evidence := by
  refine run_invariant (I := fun c : Ledger => I c.evidence) (attempt_invariant fun c call c' hok hI => ?_) ls hc
  obtain hsame | ⟨op, -, hop⟩ := ledger_evidence hok
  · rwa [hsame]
  · exact h (evidence_change hop) hI

theorem after_chain (ls : List LedgerCall) (claimKey : Bytes32) :
    VersionChain ((ledgerAfter D ls).evidence.currentVersion claimKey)
      ((ledgerAfter D ls).evidence.evidenceVersions claimKey) := by
  refine evidence_rule (D := D) (I := fun r => VersionChain (r.currentVersion claimKey) (r.evidenceVersions claimKey))
    (fun h hchain => change_chain (claim_change h claimKey) hchain) ls ?_
  have hzero : (0 : Uint64).toNat = 0 := rfl
  constructor
  · intro v
    simp only [Ledger.deployed, EvidenceRegistry.deployed, true_iff]
    omega
  · intro v _ hlt
    exact absurd hlt (Nat.not_lt_zero _)
  · intro hpos
    exact absurd hpos (Nat.not_lt_zero _)

theorem run_grows (c : Ledger) (ls : List LedgerCall) : Grows c.evidence (run (attempt (ledgerCall D)) c ls).evidence :=
  evidence_rule (D := D) (I := Grows c.evidence) (fun h hgrows => hgrows.trans (change_grows h)) ls (.refl _)

/-- A revoked claim stays as it is. -/
theorem run_revoked (ls ms : List LedgerCall) {claimKey : Bytes32}
    (hrevoked : ((ledgerAfter D ls).evidence.evidenceVersions claimKey
      ((ledgerAfter D ls).evidence.currentVersion claimKey)).status = .revoked) :
    (ledgerAfter D (ls ++ ms)).evidence.currentVersion claimKey = (ledgerAfter D ls).evidence.currentVersion claimKey ∧
      (ledgerAfter D (ls ++ ms)).evidence.evidenceVersions claimKey =
        (ledgerAfter D ls).evidence.evidenceVersions claimKey := by
  have hchain := after_chain (D := D) ls claimKey
  rw [ledgerAfter_append]
  refine evidence_rule (D := D)
    (I := fun r => r.currentVersion claimKey = (ledgerAfter D ls).evidence.currentVersion claimKey ∧
      r.evidenceVersions claimKey = (ledgerAfter D ls).evidence.evidenceVersions claimKey)
    (fun h hsame => ?_) ms ⟨rfl, rfl⟩
  obtain ⟨hcurrent, hversions⟩ := hsame
  have hchange := claim_change h claimKey
  rw [hcurrent, hversions] at hchange
  exact change_revoked hchange hchain hrevoked

theorem after_independent (ls : List LedgerCall) : Independent (ledgerAfter D ls).evidence :=
  evidence_rule (D := D) change_independent ls fun _ hset => absurd rfl hset

theorem assertion_created {input : AssertionInput}
    (h : EvidenceChange crypto bundles msg r (.createVerificationAssertion input) r') :
    r'.assertions input.assertionKey = input.assertion msg.sender := by
  cases h with
  | asserted => exact update_self _ _ _

/-- An evidence call that succeeds changes the evidence as `EvidenceChange` says. -/
theorem evidence_call {c c' : Ledger} {op : EvidenceOp} (h : ledgerCall D c (msg, .evidence op) = .ok c') :
    EvidenceChange D.crypto c.bundles msg c.evidence op c'.evidence := by
  simp only [ledgerCall, bind_eq_ok, pure_eq_ok] at h
  obtain ⟨evidence, hop, rfl⟩ := h
  exact evidence_change hop

/-- An assertion that was created stands, and its verifier is never of the
organisation that issued the version. -/
theorem run_created {ls : List LedgerCall} (ms : List LedgerCall) {input : AssertionInput}
    (h : Succeeds D ls (msg, .evidence (.createVerificationAssertion input))) :
    Stands (input.assertion msg.sender)
        ((ledgerAfter D (ls ++ (msg, .evidence (.createVerificationAssertion input)) :: ms)).evidence.assertions
          input.assertionKey) ∧
      input.verifierOrganizationId ≠
        ((ledgerAfter D (ls ++ (msg, .evidence (.createVerificationAssertion input)) :: ms)).evidence.evidenceVersions
          input.claimKey input.claimVersion).issuerOrganizationId := by
  have hindependent := after_independent (D := D) (ls ++ (msg, .evidence (.createVerificationAssertion input)) :: ms)
    input.assertionKey
  obtain ⟨c, hok⟩ := h
  have hcreated := assertion_created (evidence_call hok)
  have hset : (c.evidence.assertions input.assertionKey).status ≠ .unset := by
    rw [hcreated]
    simp [AssertionInput.assertion]
  rw [ledgerAfter_call hok] at hindependent ⊢
  have hstands := (run_grows (D := D) c ms).assertions input.assertionKey hset
  have hdiffers := (hindependent (hstands.set hset)).2
  rw [hstands.fields, hcreated] at hdiffers
  rw [← hcreated]
  exact ⟨hstands, hdiffers⟩

/-- What is so of the evidence registry after the calls `ls`, and of whatever
is called from there on. -/
structure EvidenceHistory (D : Deployment) (ls : List LedgerCall) : Prop where
  /-- The versions of each claim are a chain. -/
  chain : ∀ claimKey, VersionChain ((ledgerAfter D ls).evidence.currentVersion claimKey)
    ((ledgerAfter D ls).evidence.evidenceVersions claimKey)
  /-- At most one version of a claim is active. -/
  active : ∀ claimKey v w, ((ledgerAfter D ls).evidence.evidenceVersions claimKey v).status = .active →
    ((ledgerAfter D ls).evidence.evidenceVersions claimKey w).status = .active → v = w
  /-- A revoked current version ends the chain. -/
  ended : ∀ ms claimKey, ((ledgerAfter D ls).evidence.evidenceVersions claimKey
      ((ledgerAfter D ls).evidence.currentVersion claimKey)).status = .revoked →
    (ledgerAfter D (ls ++ ms)).evidence.currentVersion claimKey = (ledgerAfter D ls).evidence.currentVersion claimKey ∧
      (ledgerAfter D (ls ++ ms)).evidence.evidenceVersions claimKey =
        (ledgerAfter D ls).evidence.evidenceVersions claimKey
  /-- Nothing of a version or an assertion changes but its status. -/
  lasting : ∀ ms, Grows (ledgerAfter D ls).evidence (ledgerAfter D (ls ++ ms)).evidence
  /-- The assertions are of other organisations than the issuers. -/
  independent : Independent (ledgerAfter D ls).evidence
  /-- An assertion that was created stands, and is independent, ever after. -/
  created : ∀ msg input ms, Succeeds D ls (msg, .evidence (.createVerificationAssertion input)) →
    ∀ r, r = (ledgerAfter D (ls ++ (msg, .evidence (.createVerificationAssertion input)) :: ms)).evidence →
      Stands (input.assertion msg.sender) (r.assertions input.assertionKey) ∧
        input.verifierOrganizationId ≠ (r.evidenceVersions input.claimKey input.claimVersion).issuerOrganizationId

/-- **The version chains of the evidence registry**, and what every run of it
leaves behind: see `EvidenceHistory`. -/
theorem evidence_version_chain (D : Deployment) (ls : List LedgerCall) : EvidenceHistory D ls where
  chain := after_chain ls
  active claimKey v w hv hw := by
    rw [(after_chain ls claimKey).eq_current hv, (after_chain ls claimKey).eq_current hw]
  ended ms _ hrevoked := run_revoked ls ms hrevoked
  lasting ms := by
    rw [ledgerAfter_append]
    exact run_grows _ ms
  independent := after_independent ls
  created _ _ ms h r hr := by
    rw [hr]
    exact run_created ms h

end Runs

end Contracts
end Evllm
