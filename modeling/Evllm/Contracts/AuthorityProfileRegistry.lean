/-
# The authority profile registry

Organisations, profiles, approved repositories, credentials and the
capabilities granted to them, all set by governance. The other contracts only
ask it: is this credential active for this organisation and account, and does
it hold this capability at this time.
-/
import Evllm.Contracts.Solidity

namespace Evllm
namespace Contracts

open Lib Function

inductive OrganizationStatus where
  | unregistered
  | active
  | suspended
  | revoked
  deriving DecidableEq, Repr

structure Profile where
  digest : Bytes32
  active : Bool

structure Credential where
  organizationId : Bytes32
  account : Address
  active : Bool
  replicaAttestation : Bool

structure CapabilityGrant where
  resourceScope : Bytes32
  effectiveAt : Uint64
  expiresAt : Uint64
  active : Bool

structure AuthorityProfileRegistry where
  owner : Address
  organizationStatus : Bytes32 → OrganizationStatus
  profiles : Bytes32 → Uint64 → Profile
  approvedRepositories : Bytes32 → Bool
  credentials : Bytes32 → Credential
  capabilityGrants : Bytes32 → Bytes32 → CapabilityGrant

namespace AuthorityProfileRegistry

/-- The registry as its constructor leaves it. -/
def deployed (governance : Address) : AuthorityProfileRegistry where
  owner := governance
  organizationStatus _ := .unregistered
  profiles _ _ := ⟨0, false⟩
  approvedRepositories _ := false
  credentials _ := ⟨0, 0, false, false⟩
  capabilityGrants _ _ := ⟨0, 0, 0, false⟩

variable (registry : AuthorityProfileRegistry) (msg : Msg)

def setOrganizationStatus (organizationId : Bytes32) (status : OrganizationStatus) :
    Except Revert AuthorityProfileRegistry := do
  onlyOwner registry.owner msg
  throwIf (organizationId = 0 ∨ status = .unregistered) .invalidIdentifier
  throwIf (registry.organizationStatus organizationId = .revoked) .terminalOrganization
  return { registry with organizationStatus := update registry.organizationStatus organizationId status }

def setProfile (profileId : Bytes32) (version : Uint64) (digest : Bytes32) (active : Bool) :
    Except Revert AuthorityProfileRegistry := do
  onlyOwner registry.owner msg
  throwIf (profileId = 0 ∨ digest = 0) .invalidIdentifier
  throwIf (version = 0) .invalidVersion
  let existing := registry.profiles profileId version
  throwIf (existing.digest ≠ 0 ∧ existing.digest ≠ digest) .alreadyBound
  let versions := update (registry.profiles profileId) version ⟨digest, active⟩
  return { registry with profiles := update registry.profiles profileId versions }

def setRepositoryApproval (repositoryId : Bytes32) (approved : Bool) :
    Except Revert AuthorityProfileRegistry := do
  onlyOwner registry.owner msg
  throwIf (repositoryId = 0) .invalidIdentifier
  return { registry with approvedRepositories := update registry.approvedRepositories repositoryId approved }

def setCredential (credentialId organizationId : Bytes32) (account : Address)
    (active replicaAttestation : Bool) : Except Revert AuthorityProfileRegistry := do
  onlyOwner registry.owner msg
  throwIf (credentialId = 0 ∨ organizationId = 0 ∨ account = 0) .invalidIdentifier
  let existing := registry.credentials credentialId
  throwIf (existing.account ≠ 0 ∧ (existing.organizationId ≠ organizationId ∨ existing.account ≠ account))
    .alreadyBound
  let credential := ⟨organizationId, account, active, replicaAttestation⟩
  return { registry with credentials := update registry.credentials credentialId credential }

def setCapabilityGrant (credentialId capabilityId resourceScope : Bytes32)
    (effectiveAt expiresAt : Uint64) (active : Bool) : Except Revert AuthorityProfileRegistry := do
  onlyOwner registry.owner msg
  throwIf (credentialId = 0 ∨ capabilityId = 0) .invalidIdentifier
  throwIf ((registry.credentials credentialId).account = 0) .invalidIdentifier
  throwIf (expiresAt ≠ 0 ∧ expiresAt ≤ effectiveAt) .invalidTimeRange
  let grants := update (registry.capabilityGrants credentialId) capabilityId
    ⟨resourceScope, effectiveAt, expiresAt, active⟩
  return { registry with capabilityGrants := update registry.capabilityGrants credentialId grants }

/-! ### What the other contracts ask -/

def isOrganizationActive (organizationId : Bytes32) : Bool :=
  registry.organizationStatus organizationId = .active

def isProfileActive (profileId : Bytes32) (version : Uint64) (digest : Bytes32) : Bool :=
  let profile := registry.profiles profileId version
  profile.active && profile.digest = digest

def isCredentialActive (credentialId organizationId : Bytes32) (account : Address) : Bool :=
  let credential := registry.credentials credentialId
  credential.active && credential.organizationId = organizationId && credential.account = account &&
    registry.organizationStatus organizationId = .active

def hasCapability (credentialId capabilityId resourceScope : Bytes32) (atTime : Uint64) : Bool :=
  let grant := registry.capabilityGrants credentialId capabilityId
  let scopeMatches := decide (grant.resourceScope = 0 ∨ grant.resourceScope = resourceScope)
  let timeMatches := decide (grant.effectiveAt ≤ atTime ∧ (grant.expiresAt = 0 ∨ atTime < grant.expiresAt))
  grant.active && scopeMatches && timeMatches

def isReplicaAttestationCredential (credentialId organizationId : Bytes32) (account : Address) : Bool :=
  (registry.credentials credentialId).replicaAttestation &&
    registry.isCredentialActive credentialId organizationId account

end AuthorityProfileRegistry
end Contracts
end Evllm
