/-
# The evidence registry

Versions of evidence claims, the assertions of independent verifiers about
them and the disputes opened over them. A version is backed by a confirmed
protected bundle; a new version supersedes the one before it, and its issuer
can revoke the current one.
-/
import Evllm.Contracts.ProtectedBundleRegistry

namespace Evllm
namespace Contracts

open Lib Function

inductive EvidenceStatus where
  | unset
  | active
  | superseded
  | revoked
  deriving DecidableEq, Repr

inductive AssertionType where
  | corroboration
  | certification
  deriving DecidableEq, Repr

inductive AssertionStatus where
  | unset
  | active
  | withdrawn
  | superseded
  deriving DecidableEq, Repr

inductive DisputeStatus where
  | none
  | open
  | withdrawn
  | closedBySupersession
  | closedByAssertionWithdrawal
  | referredExternal
  deriving DecidableEq, Repr

structure EvidenceVersion where
  bundleKey : Bytes32
  domainKey : Bytes32
  payloadCommitment : Bytes32
  issuerOrganizationId : Bytes32
  issuerCredentialId : Bytes32
  issuer : Address
  status : EvidenceStatus

structure VerificationAssertion where
  claimKey : Bytes32
  claimVersion : Uint64
  bundleKey : Bytes32
  verifierOrganizationId : Bytes32
  verifierCredentialId : Bytes32
  verifier : Address
  assertionType : AssertionType
  status : AssertionStatus

structure Dispute where
  claimKey : Bytes32
  claimVersion : Uint64
  bundleKey : Bytes32
  openerOrganizationId : Bytes32
  openerCredentialId : Bytes32
  opener : Address
  status : DisputeStatus

/-- The events the registry emits. -/
inductive EvidenceEvent where
  | evidenceActivated (claimKey : Bytes32) (version : Uint64) (bundleKey issuerOrganizationId : Bytes32)
  | evidenceSuperseded (claimKey : Bytes32) (priorVersion newVersion : Uint64)
  | evidenceRevoked (claimKey : Bytes32) (version : Uint64)
  | verificationAssertionCreated (assertionKey claimKey : Bytes32) (claimVersion : Uint64)
      (assertionType : AssertionType)
  | verificationAssertionWithdrawn (assertionKey : Bytes32)
  | evidenceDisputeOpened (disputeKey claimKey : Bytes32) (claimVersion : Uint64)
  | evidenceDisputeStateChanged (disputeKey : Bytes32) (status : DisputeStatus)
  deriving DecidableEq

/-- The storage of the registry, and what it has emitted, in order. -/
structure EvidenceRegistry where
  currentVersion : Bytes32 → Uint64
  evidenceVersions : Bytes32 → Uint64 → EvidenceVersion
  assertions : Bytes32 → VerificationAssertion
  disputes : Bytes32 → Dispute
  log : List EvidenceEvent

namespace EvidenceRegistry

/-- The registry as its constructor leaves it. -/
def deployed : EvidenceRegistry where
  currentVersion _ := 0
  evidenceVersions _ _ := ⟨0, 0, 0, 0, 0, 0, .unset⟩
  assertions _ := ⟨0, 0, 0, 0, 0, 0, .corroboration, .unset⟩
  disputes _ := ⟨0, 0, 0, 0, 0, 0, .none⟩
  log := []

def evidenceBundleType (crypto : Crypto) : Bytes32 := crypto.hashText "bundle-type:evidence"
def verificationBundleType (crypto : Crypto) : Bytes32 := crypto.hashText "bundle-type:verification"
def disputeBundleType (crypto : Crypto) : Bytes32 := crypto.hashText "bundle-type:dispute"
def issueCapability (crypto : Crypto) : Bytes32 := crypto.hashText "evidence.issue"
def corroborateCapability (crypto : Crypto) : Bytes32 := crypto.hashText "verification.corroborate"
def certifyCapability (crypto : Crypto) : Bytes32 := crypto.hashText "verification.certify"
def disputeCapability (crypto : Crypto) : Bytes32 := crypto.hashText "dispute.open-evidence"

/-! ### Writes -/

section Writes

variable (r : EvidenceRegistry)

/-- `evidenceVersions[claimKey][version] = record`. -/
def setVersion (claimKey : Bytes32) (version : Uint64) (record : EvidenceVersion) : EvidenceRegistry :=
  { r with evidenceVersions := update r.evidenceVersions claimKey (update (r.evidenceVersions claimKey) version record) }

/-- `evidenceVersions[claimKey][version].status = status`. -/
def setStatus (claimKey : Bytes32) (version : Uint64) (status : EvidenceStatus) : EvidenceRegistry :=
  r.setVersion claimKey version { r.evidenceVersions claimKey version with status := status }

def setAssertion (assertionKey : Bytes32) (assertion : VerificationAssertion) : EvidenceRegistry :=
  { r with assertions := update r.assertions assertionKey assertion }

def setDispute (disputeKey : Bytes32) (dispute : Dispute) : EvidenceRegistry :=
  { r with disputes := update r.disputes disputeKey dispute }

def emit (event : EvidenceEvent) : EvidenceRegistry := { r with log := r.log ++ [event] }

end Writes

variable (r : EvidenceRegistry) (crypto : Crypto) (authority : AuthorityProfileRegistry)
variable (bundles : ProtectedBundleRegistry) (msg : Msg)

/-! ### Versions -/

structure ActivateInput where
  claimKey : Bytes32
  version : Uint64
  expectedPriorVersion : Uint64
  bundleKey : Bytes32
  domainKey : Bytes32
  payloadCommitment : Bytes32
  issuerOrganizationId : Bytes32
  issuerCredentialId : Bytes32

/-- The version before the new one is superseded, if there is one. -/
def supersede (claimKey : Bytes32) (prior version : Uint64) : Except Revert EvidenceRegistry :=
  if prior ≠ 0 then do
    throwIf ((r.evidenceVersions claimKey prior).status ≠ .active) .invalidState
    return (r.setStatus claimKey prior .superseded).emit (.evidenceSuperseded claimKey prior version)
  else return r

def activateEvidence (input : ActivateInput) : Except Revert EvidenceRegistry := do
  throwIf (input.claimKey = 0 ∨ input.version = 0 ∨ input.bundleKey = 0 ∨ input.domainKey = 0 ∨
    input.payloadCommitment = 0 ∨ input.issuerOrganizationId = 0 ∨ input.issuerCredentialId = 0) .invalidIdentifier
  throwIf (authority.isCredentialActive input.issuerCredentialId input.issuerOrganizationId msg.sender = false)
    .unauthorized
  throwIf (authority.hasCapability input.issuerCredentialId (issueCapability crypto) input.claimKey
    msg.timestamp64 = false) .unauthorized
  throwIf (bundles.isConfirmedLink input.bundleKey input.domainKey (evidenceBundleType crypto)
    input.payloadCommitment false = false) .invalidProtectedBundleLink
  throwIf ((r.evidenceVersions input.claimKey input.version).status ≠ .unset) .alreadyBound
  let prior := r.currentVersion input.claimKey
  throwIf (prior ≠ input.expectedPriorVersion) .invalidPriorVersion
  -- the sum is only computed, and can only overflow, where the prior version is the expected one
  let next ← checkedAdd prior 1
  throwIf (input.version ≠ next) .invalidPriorVersion
  let superseded ← supersede r input.claimKey prior input.version
  let record : EvidenceVersion :=
    { bundleKey := input.bundleKey
      domainKey := input.domainKey
      payloadCommitment := input.payloadCommitment
      issuerOrganizationId := input.issuerOrganizationId
      issuerCredentialId := input.issuerCredentialId
      issuer := msg.sender
      status := .active }
  let activated := superseded.setVersion input.claimKey input.version record
  return { activated with currentVersion := update activated.currentVersion input.claimKey input.version }.emit
    (.evidenceActivated input.claimKey input.version input.bundleKey input.issuerOrganizationId)

def revokeEvidence (claimKey : Bytes32) (version : Uint64) : Except Revert EvidenceRegistry := do
  let record := r.evidenceVersions claimKey version
  throwIf (record.status ≠ .active ∨ r.currentVersion claimKey ≠ version) .invalidState
  throwIf (record.issuer ≠ msg.sender) .unauthorized
  return (r.setStatus claimKey version .revoked).emit (.evidenceRevoked claimKey version)

/-! ### Assertions -/

structure AssertionInput where
  assertionKey : Bytes32
  claimKey : Bytes32
  claimVersion : Uint64
  bundleKey : Bytes32
  domainKey : Bytes32
  payloadCommitment : Bytes32
  verifierOrganizationId : Bytes32
  verifierCredentialId : Bytes32
  assertionType : AssertionType

def assertionCapability : AssertionType → Bytes32
  | .corroboration => corroborateCapability crypto
  | .certification => certifyCapability crypto

def createVerificationAssertion (input : AssertionInput) : Except Revert EvidenceRegistry := do
  let evidence := r.evidenceVersions input.claimKey input.claimVersion
  throwIf (input.assertionKey = 0 ∨ evidence.status ≠ .active) .invalidState
  throwIf ((r.assertions input.assertionKey).status ≠ .unset) .alreadyBound
  throwIf (evidence.issuerOrganizationId = input.verifierOrganizationId) .selfVerification
  throwIf (authority.isCredentialActive input.verifierCredentialId input.verifierOrganizationId msg.sender = false)
    .unauthorized
  throwIf (authority.hasCapability input.verifierCredentialId (assertionCapability crypto input.assertionType)
    input.claimKey msg.timestamp64 = false) .unauthorized
  throwIf (bundles.isConfirmedLink input.bundleKey input.domainKey (verificationBundleType crypto)
    input.payloadCommitment true = false) .invalidProtectedBundleLink
  let assertion : VerificationAssertion :=
    { claimKey := input.claimKey
      claimVersion := input.claimVersion
      bundleKey := input.bundleKey
      verifierOrganizationId := input.verifierOrganizationId
      verifierCredentialId := input.verifierCredentialId
      verifier := msg.sender
      assertionType := input.assertionType
      status := .active }
  return (r.setAssertion input.assertionKey assertion).emit
    (.verificationAssertionCreated input.assertionKey input.claimKey input.claimVersion input.assertionType)

def withdrawVerificationAssertion (assertionKey : Bytes32) : Except Revert EvidenceRegistry := do
  let assertion := r.assertions assertionKey
  throwIf (assertion.status ≠ .active) .invalidState
  throwIf (assertion.verifier ≠ msg.sender) .unauthorized
  return (r.setAssertion assertionKey { assertion with status := .withdrawn }).emit
    (.verificationAssertionWithdrawn assertionKey)

/-! ### Disputes -/

structure DisputeInput where
  disputeKey : Bytes32
  claimKey : Bytes32
  claimVersion : Uint64
  bundleKey : Bytes32
  domainKey : Bytes32
  payloadCommitment : Bytes32
  openerOrganizationId : Bytes32
  openerCredentialId : Bytes32

def openEvidenceDispute (input : DisputeInput) : Except Revert EvidenceRegistry := do
  throwIf (input.disputeKey = 0 ∨ (r.disputes input.disputeKey).status ≠ .none) .alreadyBound
  throwIf ((r.evidenceVersions input.claimKey input.claimVersion).status ≠ .active) .invalidState
  throwIf (authority.isCredentialActive input.openerCredentialId input.openerOrganizationId msg.sender = false)
    .unauthorized
  throwIf (authority.hasCapability input.openerCredentialId (disputeCapability crypto) input.claimKey
    msg.timestamp64 = false) .unauthorized
  throwIf (bundles.isConfirmedLink input.bundleKey input.domainKey (disputeBundleType crypto)
    input.payloadCommitment true = false) .invalidProtectedBundleLink
  let dispute := ⟨input.claimKey, input.claimVersion, input.bundleKey, input.openerOrganizationId,
    input.openerCredentialId, msg.sender, .open⟩
  return (r.setDispute input.disputeKey dispute).emit
    (.evidenceDisputeOpened input.disputeKey input.claimKey input.claimVersion)

/-- `dispute.status = status`, and its event. -/
def changeDispute (disputeKey : Bytes32) (status : DisputeStatus) : EvidenceRegistry :=
  (r.setDispute disputeKey { r.disputes disputeKey with status := status }).emit
    (.evidenceDisputeStateChanged disputeKey status)

def changeEvidenceDisputeState (disputeKey : Bytes32) (newStatus : DisputeStatus) : Except Revert EvidenceRegistry := do
  let dispute := r.disputes disputeKey
  throwIf (dispute.status ≠ .open) .invalidState
  throwIf (newStatus ≠ .withdrawn ∧ newStatus ≠ .referredExternal) .invalidState
  throwIf (dispute.opener ≠ msg.sender) .unauthorized
  return changeDispute r disputeKey newStatus

def closeEvidenceDisputeForLifecycle (disputeKey : Bytes32) : Except Revert EvidenceRegistry := do
  let dispute := r.disputes disputeKey
  throwIf (dispute.status ≠ .open) .invalidState
  let record := r.evidenceVersions dispute.claimKey dispute.claimVersion
  throwIf (record.issuer ≠ msg.sender) .unauthorized
  match record.status with
  | .superseded => return changeDispute r disputeKey .closedBySupersession
  | .revoked => return changeDispute r disputeKey .referredExternal
  | .unset => throw .invalidState
  | .active => throw .invalidState

end EvidenceRegistry
end Contracts
end Evllm
