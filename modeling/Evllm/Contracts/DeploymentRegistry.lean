/-
# The deployment registry

Which module of each type is active, and which module an aggregate was created
by. Governance proposes a module, and activates it once the review delay has
passed.
-/
import Evllm.Contracts.Solidity

namespace Evllm
namespace Contracts

open Lib Function

/-- What a contract answers as `IDomainModule`. -/
structure DomainModule where
  moduleType : Bytes32
  compatibilityVersion : Uint64

structure Proposal where
  module : Address
  compatibilityVersion : Uint64
  activateAfter : Uint64

structure DeploymentRegistry where
  owner : Address
  reviewDelay : Uint64
  activeModules : Bytes32 → Address
  proposals : Bytes32 → Proposal
  originModule : Bytes32 → Address

namespace DeploymentRegistry

/-- The registry as its constructor leaves it. -/
def deployed (governance : Address) (reviewDelaySeconds : Uint64) : DeploymentRegistry where
  owner := governance
  reviewDelay := reviewDelaySeconds
  activeModules _ := 0
  proposals _ := ⟨0, 0, 0⟩
  originModule _ := 0

variable (registry : DeploymentRegistry) (msg : Msg)

/-- `answers` is what the code at the address `module` answers when it is
asked, `none` where there is no code. -/
def proposeModule (expectedType : Bytes32) (module : Address) (answers : Option DomainModule) :
    Except Revert DeploymentRegistry := do
  onlyOwner registry.owner msg
  match answers with
  | none => throw .invalidModule
  | some answer =>
    throwIf (answer.moduleType ≠ expectedType) .invalidModule
    throwIf (answer.compatibilityVersion = 0) .invalidModule
    let activateAfter ← checkedAdd msg.timestamp64 registry.reviewDelay
    let proposal := ⟨module, answer.compatibilityVersion, activateAfter⟩
    return { registry with proposals := update registry.proposals expectedType proposal }

def activateModule (moduleType : Bytes32) : Except Revert DeploymentRegistry := do
  onlyOwner registry.owner msg
  let proposal := registry.proposals moduleType
  throwIf (proposal.module = 0) .invalidModule
  throwIf (msg.timestamp < proposal.activateAfter.toNat) .reviewDelayNotElapsed
  return { registry with
    activeModules := update registry.activeModules moduleType proposal.module
    proposals := update registry.proposals moduleType ⟨0, 0, 0⟩ }

/-- The module types of `bindAggregateOrigin`. -/
def originTypes : List Bytes32 :=
  [bytes32Literal "evidence", bytes32Literal "assessment", bytes32Literal "marketplace", bytes32Literal "audit"]

def bindAggregateOrigin (aggregateId : Bytes32) : Except Revert DeploymentRegistry := do
  throwIf (aggregateId = 0) .invalidModule
  throwIf (registry.originModule aggregateId ≠ 0) .originAlreadyBound
  let active := originTypes.any fun moduleType => registry.activeModules moduleType = msg.sender
  throwIf (active = false) .notAggregateOrigin
  return { registry with originModule := update registry.originModule aggregateId msg.sender }

end DeploymentRegistry
end Contracts
end Evllm
