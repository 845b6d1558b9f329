/-
# The battery ownership registry

Who is recorded as the owner of a battery, and which marketplace holds the
lock on it. Registrars register batteries and their components, marketplaces
that governance has authorised lock, unlock and transfer.
-/
import Evllm.Contracts.Solidity

namespace Evllm
namespace Contracts

open Lib Function

inductive SubjectGranularity where
  | pack
  | module
  | cell
  deriving DecidableEq, Repr

/-- `uint8(granularity)`. -/
def SubjectGranularity.toNat : SubjectGranularity → ℕ
  | .pack => 0
  | .module => 1
  | .cell => 2

inductive ProposalStatus where
  | unset
  | pending
  | accepted
  | rejected
  | expired
  deriving DecidableEq, Repr

structure BatterySubject where
  parentId : Bytes32
  rootBatteryId : Bytes32
  granularity : SubjectGranularity
  registered : Bool

structure Battery where
  recordedOwnerOrganizationId : Bytes32
  marketplaceLock : Address
  registered : Bool

structure InitialOwnershipProposal where
  batteryId : Bytes32
  ownerOrganizationId : Bytes32
  ownerAccount : Address
  expiresAt : Uint64
  status : ProposalStatus

structure OwnershipTransition where
  previousOwnerOrganizationId : Bytes32
  newOwnerOrganizationId : Bytes32
  authorizedMarketplace : Address
  recordedAt : Uint64

structure BatteryOwnershipRegistry where
  owner : Address
  registrars : Address → Bool
  marketplaces : Address → Bool
  batteries : Bytes32 → Battery
  subjects : Bytes32 → BatterySubject
  initialOwnershipProposals : Bytes32 → InitialOwnershipProposal
  ownershipTransitionCount : Bytes32 → Uint64
  ownershipTransitions : Bytes32 → Uint64 → OwnershipTransition

namespace BatteryOwnershipRegistry

/-- The registry as its constructor leaves it. -/
def deployed (governance : Address) : BatteryOwnershipRegistry where
  owner := governance
  registrars _ := false
  marketplaces _ := false
  batteries _ := ⟨0, 0, false⟩
  subjects _ := ⟨0, 0, .pack, false⟩
  initialOwnershipProposals _ := ⟨0, 0, 0, 0, .unset⟩
  ownershipTransitionCount _ := 0
  ownershipTransitions _ _ := ⟨0, 0, 0, 0⟩

variable (registry : BatteryOwnershipRegistry) (msg : Msg)

def setRegistrar (registrar : Address) (allowed : Bool) : Except Revert BatteryOwnershipRegistry := do
  onlyOwner registry.owner msg
  return { registry with registrars := update registry.registrars registrar allowed }

def setMarketplace (marketplace : Address) (allowed : Bool) : Except Revert BatteryOwnershipRegistry := do
  onlyOwner registry.owner msg
  return { registry with marketplaces := update registry.marketplaces marketplace allowed }

/-- `_recordOwnershipTransition`. -/
def recordOwnershipTransition (batteryId previousOwner newOwner : Bytes32) (marketplace : Address) :
    Except Revert BatteryOwnershipRegistry := do
  let sequence ← checkedAdd (registry.ownershipTransitionCount batteryId) 1
  let transitions := update (registry.ownershipTransitions batteryId) sequence
    ⟨previousOwner, newOwner, marketplace, msg.timestamp64⟩
  return { registry with
    ownershipTransitionCount := update registry.ownershipTransitionCount batteryId sequence
    ownershipTransitions := update registry.ownershipTransitions batteryId transitions }

/-- The writes that `registerBattery` and `acceptInitialOwnership` share. -/
def recordBattery (batteryId ownerOrganizationId : Bytes32) : Except Revert BatteryOwnershipRegistry :=
  recordOwnershipTransition
    { registry with
      batteries := update registry.batteries batteryId ⟨ownerOrganizationId, 0, true⟩
      subjects := update registry.subjects batteryId ⟨0, batteryId, .pack, true⟩ }
    msg batteryId 0 ownerOrganizationId 0

def registerBattery (batteryId initialOwnerOrganizationId : Bytes32) :
    Except Revert BatteryOwnershipRegistry := do
  throwIf (registry.registrars msg.sender = false) .notRegistrar
  throwIf (batteryId = 0 ∨ initialOwnerOrganizationId = 0) .invalidIdentifier
  throwIf ((registry.batteries batteryId).registered = true) .alreadyRegistered
  recordBattery registry msg batteryId initialOwnerOrganizationId

def proposeInitialOwnership (proposalId batteryId ownerOrganizationId : Bytes32)
    (ownerAccount : Address) (expiresAt : Uint64) : Except Revert BatteryOwnershipRegistry := do
  throwIf (registry.registrars msg.sender = false) .notRegistrar
  throwIf (proposalId = 0 ∨ batteryId = 0 ∨ ownerOrganizationId = 0 ∨ ownerAccount = 0) .invalidIdentifier
  throwIf ((registry.batteries batteryId).registered = true ∨
    (registry.initialOwnershipProposals proposalId).status ≠ .unset) .alreadyRegistered
  throwIf (expiresAt.toNat ≤ msg.timestamp) .proposalExpired
  let proposal := ⟨batteryId, ownerOrganizationId, ownerAccount, expiresAt, .pending⟩
  return { registry with
    initialOwnershipProposals := update registry.initialOwnershipProposals proposalId proposal }

/-- A proposal closed with the status `status`. -/
def closeProposal (proposalId : Bytes32) (status : ProposalStatus) : BatteryOwnershipRegistry :=
  let proposal := { registry.initialOwnershipProposals proposalId with status := status }
  { registry with initialOwnershipProposals := update registry.initialOwnershipProposals proposalId proposal }

def acceptInitialOwnership (proposalId : Bytes32) : Except Revert BatteryOwnershipRegistry := do
  let proposal := registry.initialOwnershipProposals proposalId
  throwIf (proposal.status ≠ .pending ∨ proposal.ownerAccount ≠ msg.sender) .invalidProposalState
  throwIf (proposal.expiresAt.toNat ≤ msg.timestamp) .proposalExpired
  throwIf ((registry.batteries proposal.batteryId).registered = true) .alreadyRegistered
  recordBattery (closeProposal registry proposalId .accepted) msg proposal.batteryId
    proposal.ownerOrganizationId

def rejectInitialOwnership (proposalId : Bytes32) : Except Revert BatteryOwnershipRegistry := do
  let proposal := registry.initialOwnershipProposals proposalId
  throwIf (proposal.status ≠ .pending ∨ proposal.ownerAccount ≠ msg.sender) .invalidProposalState
  return closeProposal registry proposalId .rejected

def expireInitialOwnership (proposalId : Bytes32) : Except Revert BatteryOwnershipRegistry := do
  let proposal := registry.initialOwnershipProposals proposalId
  throwIf (proposal.status ≠ .pending) .invalidProposalState
  throwIf (msg.timestamp < proposal.expiresAt.toNat) .invalidProposalState
  return closeProposal registry proposalId .expired

def registerComponent (subjectId parentId : Bytes32) (granularity : SubjectGranularity) :
    Except Revert BatteryOwnershipRegistry := do
  throwIf (registry.registrars msg.sender = false) .notRegistrar
  throwIf (subjectId = 0 ∨ parentId = 0) .invalidIdentifier
  throwIf ((registry.subjects subjectId).registered = true) .alreadyRegistered
  let parent := registry.subjects parentId
  throwIf (parent.registered = false ∨ granularity.toNat ≠ parent.granularity.toNat + 1) .invalidHierarchy
  let subject := ⟨parentId, parent.rootBatteryId, granularity, true⟩
  return { registry with subjects := update registry.subjects subjectId subject }

/-! ### What marketplaces call -/

def setLock (batteryId : Bytes32) (lock : Address) : BatteryOwnershipRegistry :=
  let battery := { registry.batteries batteryId with marketplaceLock := lock }
  { registry with batteries := update registry.batteries batteryId battery }

def lockForMarketplace (batteryId : Bytes32) : Except Revert BatteryOwnershipRegistry := do
  throwIf (registry.marketplaces msg.sender = false) .notAuthorizedMarketplace
  let battery := registry.batteries batteryId
  throwIf (battery.registered = false) .unknownBattery
  throwIf (battery.marketplaceLock ≠ 0 ∧ battery.marketplaceLock ≠ msg.sender) .lockedByAnotherMarketplace
  return setLock registry batteryId msg.sender

def transferRecordedOwnership (batteryId newOwnerOrganizationId : Bytes32) :
    Except Revert BatteryOwnershipRegistry := do
  let battery := registry.batteries batteryId
  throwIf (battery.registered = false) .unknownBattery
  throwIf (registry.marketplaces msg.sender = false ∨ battery.marketplaceLock ≠ msg.sender)
    .notAuthorizedMarketplace
  throwIf (newOwnerOrganizationId = 0) .invalidIdentifier
  let previousOwner := battery.recordedOwnerOrganizationId
  let transferred := { battery with
    recordedOwnerOrganizationId := newOwnerOrganizationId
    marketplaceLock := 0 }
  recordOwnershipTransition
    { registry with batteries := update registry.batteries batteryId transferred }
    msg batteryId previousOwner newOwnerOrganizationId msg.sender

def unlockForMarketplace (batteryId : Bytes32) : Except Revert BatteryOwnershipRegistry := do
  let battery := registry.batteries batteryId
  throwIf (battery.registered = false) .unknownBattery
  throwIf (registry.marketplaces msg.sender = false ∨ battery.marketplaceLock ≠ msg.sender)
    .notAuthorizedMarketplace
  return setLock registry batteryId 0

end BatteryOwnershipRegistry
end Contracts
end Evllm
