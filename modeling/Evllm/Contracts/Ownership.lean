/-
# What a call does to the battery ownership registry

Every call of the ownership registry that succeeds registers a battery, moves
a proposal, registers a component, sets or clears a lock, hands a battery to a
new owner, or only sets who may call. `OwnershipChange` says which, with the
guards that matter later; a run is any calls of any accounts, and what every
change keeps holds in every state of every run (`ownership_rule`).

Key definitions
- `OwnershipChange msg op r r'`: what a call that succeeds can do
- `ownershipAfter`: the registry after a run
-/
import Evllm.Contracts.Trade

namespace Evllm
namespace Contracts

open Lib Function

/-- A transition of `batteryId` is appended to its history. -/
structure Records (r r' : BatteryOwnershipRegistry) (batteryId previousOwner newOwner : Bytes32) : Prop where
  appended : ∃ sequence transition, sequence.toNat = (r.ownershipTransitionCount batteryId).toNat + 1 ∧
    transition.previousOwnerOrganizationId = previousOwner ∧ transition.newOwnerOrganizationId = newOwner ∧
    r'.ownershipTransitionCount = update r.ownershipTransitionCount batteryId sequence ∧
    r'.ownershipTransitions = update r.ownershipTransitions batteryId
      (update (r.ownershipTransitions batteryId) sequence transition)

/-- No transition is appended. -/
structure KeepsHistory (r r' : BatteryOwnershipRegistry) : Prop where
  count : r'.ownershipTransitionCount = r.ownershipTransitionCount
  transitions : r'.ownershipTransitions = r.ownershipTransitions

/-- The proposal that a registration accepts, if it accepts one. -/
inductive Accepts (r r' : BatteryOwnershipRegistry) (batteryId : Bytes32) : Prop
  | direct (same : r'.initialOwnershipProposals = r.initialOwnershipProposals)
  | proposal (id : Bytes32) (pending : (r.initialOwnershipProposals id).status = .pending)
      (battery : (r.initialOwnershipProposals id).batteryId = batteryId)
      (closed : r'.initialOwnershipProposals =
        update r.initialOwnershipProposals id { r.initialOwnershipProposals id with status := .accepted })

/-- The id of the battery that a call registers, if its caller may. -/
def OwnershipOp.registers (r : BatteryOwnershipRegistry) (msg : Msg) : OwnershipOp → Option Bytes32
  | .registerBattery batteryId owner =>
    if r.registrars msg.sender = true ∧ batteryId ≠ 0 ∧ owner ≠ 0 then some batteryId else none
  | .acceptInitialOwnership proposalId =>
    let proposal := r.initialOwnershipProposals proposalId
    if proposal.status = .pending ∧ proposal.ownerAccount = msg.sender ∧ msg.timestamp < proposal.expiresAt.toNat then
      some proposal.batteryId
    else none
  | _ => none

/-- What a call that succeeds can do. -/
inductive OwnershipChange (msg : Msg) (op : OwnershipOp) (r r' : BatteryOwnershipRegistry) : Prop
  | configured (batteries : r'.batteries = r.batteries) (subjects : r'.subjects = r.subjects)
      (proposals : r'.initialOwnershipProposals = r.initialOwnershipProposals) (history : KeepsHistory r r')
  | registered (batteryId owner : Bytes32) (named : op.registers r msg = some batteryId)
      (fresh : (r.batteries batteryId).registered = false)
      (batteries : r'.batteries = update r.batteries batteryId ⟨owner, 0, true⟩)
      (subjects : r'.subjects = update r.subjects batteryId ⟨0, batteryId, .pack, true⟩)
      (proposals : Accepts r r' batteryId) (history : Records r r' batteryId 0 owner)
  | proposed (id : Bytes32) (proposal : InitialOwnershipProposal)
      (unset : (r.initialOwnershipProposals id).status = .unset) (pending : proposal.status = .pending)
      (batteries : r'.batteries = r.batteries) (subjects : r'.subjects = r.subjects)
      (proposals : r'.initialOwnershipProposals = update r.initialOwnershipProposals id proposal)
      (history : KeepsHistory r r')
  | closed (id : Bytes32) (status : ProposalStatus) (refused : status ≠ .accepted)
      (pending : (r.initialOwnershipProposals id).status = .pending)
      (batteries : r'.batteries = r.batteries) (subjects : r'.subjects = r.subjects)
      (proposals : r'.initialOwnershipProposals =
        update r.initialOwnershipProposals id { r.initialOwnershipProposals id with status := status })
      (history : KeepsHistory r r')
  | component (subjectId parentId : Bytes32) (granularity : SubjectGranularity)
      (fresh : (r.subjects subjectId).registered = false) (parent : (r.subjects parentId).registered = true)
      (below : granularity.toNat = (r.subjects parentId).granularity.toNat + 1)
      (subjects : r'.subjects = update r.subjects subjectId
        ⟨parentId, (r.subjects parentId).rootBatteryId, granularity, true⟩)
      (batteries : r'.batteries = r.batteries)
      (proposals : r'.initialOwnershipProposals = r.initialOwnershipProposals) (history : KeepsHistory r r')
  | locked (batteryId : Bytes32) (lock : Address) (batteries : r'.batteries = withLock r.batteries batteryId lock)
      (subjects : r'.subjects = r.subjects)
      (proposals : r'.initialOwnershipProposals = r.initialOwnershipProposals) (history : KeepsHistory r r')
  | transferred (batteryId newOwner : Bytes32) (known : (r.batteries batteryId).registered = true)
      (batteries : r'.batteries = withOwner r.batteries batteryId newOwner) (subjects : r'.subjects = r.subjects)
      (proposals : r'.initialOwnershipProposals = r.initialOwnershipProposals)
      (history : Records r r' batteryId (r.batteries batteryId).recordedOwnerOrganizationId newOwner)

namespace BatteryOwnershipRegistry

variable {r r' : BatteryOwnershipRegistry} {msg : Msg}

theorem recordOwnershipTransition_ok {batteryId previousOwner newOwner : Bytes32} {marketplace : Address}
    (h : r.recordOwnershipTransition msg batteryId previousOwner newOwner marketplace = .ok r') :
    Records r r' batteryId previousOwner newOwner ∧ r'.batteries = r.batteries ∧ r'.subjects = r.subjects ∧
      r'.initialOwnershipProposals = r.initialOwnershipProposals := by
  simp only [recordOwnershipTransition, bind_eq_ok, pure_eq_ok] at h
  obtain ⟨sequence, hsequence, rfl⟩ := h
  exact ⟨⟨sequence, _, checkedAdd_eq_ok hsequence, rfl, rfl, rfl, rfl⟩, rfl, rfl, rfl⟩

/-- `registerBattery` and `acceptInitialOwnership` end alike; the proposals are
as the caller of `recordBattery` has left them. -/
theorem recordBattery_change {r₀ : BatteryOwnershipRegistry} {op : OwnershipOp} {batteryId owner : Bytes32}
    (hnamed : op.registers r₀ msg = some batteryId) (hfresh : (r₀.batteries batteryId).registered = false)
    (hbatteries : r.batteries = r₀.batteries)
    (hsubjects : r.subjects = r₀.subjects) (hhistory : KeepsHistory r₀ r) (hproposals : Accepts r₀ r batteryId)
    (h : r.recordBattery msg batteryId owner = .ok r') : OwnershipChange msg op r₀ r' := by
  obtain ⟨⟨sequence, transition, hseq, hprevious, hnew, hcount, htransitions⟩, hb, hs, hp⟩ :=
    recordOwnershipTransition_ok h
  dsimp only at hseq hcount htransitions hb hs hp
  rw [hhistory.count] at hseq hcount
  rw [hhistory.transitions] at htransitions
  rw [hbatteries] at hb
  rw [hsubjects] at hs
  refine .registered batteryId owner hnamed hfresh hb hs ?_
    ⟨sequence, transition, hseq, hprevious, hnew, hcount, htransitions⟩
  cases hproposals with
  | direct same => exact .direct (hp.trans same)
  | proposal id pending battery closed => exact .proposal id pending battery (hp.trans closed)

theorem registerBattery_change {batteryId owner : Bytes32} (h : r.registerBattery msg batteryId owner = .ok r') :
    OwnershipChange msg (.registerBattery batteryId owner) r r' := by
  simp only [registerBattery, bind_eq_ok, throwIf_eq_ok] at h
  obtain ⟨_, hregistrar, _, hids, _, hfresh, h⟩ := h
  have hnamed : OwnershipOp.registers r msg (.registerBattery batteryId owner) = some batteryId :=
    if_pos ⟨by simpa using hregistrar, not_or.mp hids⟩
  exact recordBattery_change hnamed (by simpa using hfresh) rfl rfl ⟨rfl, rfl⟩ (.direct rfl) h

theorem acceptInitialOwnership_change {proposalId : Bytes32}
    (h : r.acceptInitialOwnership msg proposalId = .ok r') :
    OwnershipChange msg (.acceptInitialOwnership proposalId) r r' := by
  simp only [acceptInitialOwnership, bind_eq_ok, throwIf_eq_ok] at h
  obtain ⟨_, hstate, _, hexpires, _, hfresh, h⟩ := h
  obtain ⟨hpending, haccount⟩ := not_or.mp hstate
  have hnamed : OwnershipOp.registers r msg (.acceptInitialOwnership proposalId) =
      some (r.initialOwnershipProposals proposalId).batteryId :=
    if_pos ⟨not_not.mp hpending, not_not.mp haccount, not_le.mp hexpires⟩
  exact recordBattery_change (r := r.closeProposal proposalId .accepted) hnamed (by simpa using hfresh) rfl rfl
    ⟨rfl, rfl⟩ (.proposal proposalId (not_not.mp hpending) rfl rfl) h

theorem proposeInitialOwnership_change {proposalId batteryId owner : Bytes32} {account : Address} {expiresAt : Uint64}
    (h : r.proposeInitialOwnership msg proposalId batteryId owner account expiresAt = .ok r') :
    OwnershipChange msg (.proposeInitialOwnership proposalId batteryId owner account expiresAt) r r' := by
  simp only [proposeInitialOwnership, bind_eq_ok, throwIf_eq_ok, pure_eq_ok] at h
  obtain ⟨_, _, _, _, _, hunset, _, _, rfl⟩ := h
  exact .proposed proposalId _ (not_not.mp (not_or.mp hunset).2) rfl rfl rfl rfl ⟨rfl, rfl⟩

theorem registerComponent_change {subjectId parentId : Bytes32} {granularity : SubjectGranularity}
    (h : r.registerComponent msg subjectId parentId granularity = .ok r') :
    OwnershipChange msg (.registerComponent subjectId parentId granularity) r r' := by
  simp only [registerComponent, bind_eq_ok, throwIf_eq_ok, pure_eq_ok] at h
  obtain ⟨_, _, _, _, _, hfresh, _, hparent, rfl⟩ := h
  obtain ⟨hregistered, hbelow⟩ := not_or.mp hparent
  exact .component subjectId parentId granularity (by simpa using hfresh) (by simpa using hregistered)
    (not_not.mp hbelow) rfl rfl rfl ⟨rfl, rfl⟩

theorem transferRecordedOwnership_change {batteryId newOwner : Bytes32}
    (h : r.transferRecordedOwnership msg batteryId newOwner = .ok r') :
    OwnershipChange msg (.transferRecordedOwnership batteryId newOwner) r r' := by
  simp only [transferRecordedOwnership, bind_eq_ok, throwIf_eq_ok] at h
  obtain ⟨_, hknown, _, _, _, _, h⟩ := h
  obtain ⟨⟨hrecorded⟩, hb, hs, hp⟩ := recordOwnershipTransition_ok h
  exact .transferred batteryId newOwner (by simpa using hknown) hb hs hp ⟨hrecorded⟩

end BatteryOwnershipRegistry

/-- **What a call of the ownership registry does.** -/
theorem ownership_change {r r' : BatteryOwnershipRegistry} {msg : Msg} {op : OwnershipOp} (h : op.exec r msg = .ok r') :
    OwnershipChange msg op r r' := by
  cases op with
  | registerBattery => exact BatteryOwnershipRegistry.registerBattery_change h
  | acceptInitialOwnership => exact BatteryOwnershipRegistry.acceptInitialOwnership_change h
  | proposeInitialOwnership => exact BatteryOwnershipRegistry.proposeInitialOwnership_change h
  | registerComponent => exact BatteryOwnershipRegistry.registerComponent_change h
  | transferRecordedOwnership => exact BatteryOwnershipRegistry.transferRecordedOwnership_change h
  | rejectInitialOwnership proposalId =>
    simp only [OwnershipOp.exec, BatteryOwnershipRegistry.rejectInitialOwnership, bind_eq_ok, throwIf_eq_ok,
      pure_eq_ok] at h
    obtain ⟨_, hstate, rfl⟩ := h
    exact .closed proposalId .rejected (by simp) (not_not.mp (not_or.mp hstate).1) rfl rfl rfl ⟨rfl, rfl⟩
  | expireInitialOwnership proposalId =>
    simp only [OwnershipOp.exec, BatteryOwnershipRegistry.expireInitialOwnership, bind_eq_ok, throwIf_eq_ok,
      pure_eq_ok] at h
    obtain ⟨_, hstate, _, _, rfl⟩ := h
    exact .closed proposalId .expired (by simp) (not_not.mp hstate) rfl rfl rfl ⟨rfl, rfl⟩
  | lockForMarketplace batteryId =>
    simp only [OwnershipOp.exec, BatteryOwnershipRegistry.lockForMarketplace, bind_eq_ok, throwIf_eq_ok,
      pure_eq_ok] at h
    obtain ⟨_, _, _, _, _, _, rfl⟩ := h
    exact .locked batteryId msg.sender rfl rfl rfl ⟨rfl, rfl⟩
  | unlockForMarketplace batteryId =>
    simp only [OwnershipOp.exec, BatteryOwnershipRegistry.unlockForMarketplace, bind_eq_ok, throwIf_eq_ok,
      pure_eq_ok] at h
    obtain ⟨_, _, _, _, rfl⟩ := h
    exact .locked batteryId 0 rfl rfl rfl ⟨rfl, rfl⟩
  | setRegistrar | setMarketplace =>
    simp only [OwnershipOp.exec, BatteryOwnershipRegistry.setRegistrar, BatteryOwnershipRegistry.setMarketplace,
      bind_eq_ok, pure_eq_ok] at h
    obtain ⟨_, _, rfl⟩ := h
    exact .configured rfl rfl rfl ⟨rfl, rfl⟩
  | transferOwnership | renounceOwnership =>
    simp only [OwnershipOp.exec, bind_eq_ok, pure_eq_ok] at h
    obtain ⟨_, _, rfl⟩ := h
    exact .configured rfl rfl rfl ⟨rfl, rfl⟩

/-! ### Runs -/

/-- A call of the ownership registry, by any account or contract. -/
def ownershipCall (r : BatteryOwnershipRegistry) (call : Msg × OwnershipOp) : Except Revert BatteryOwnershipRegistry :=
  call.2.exec r call.1

/-- The registry after the calls `ls` since it was deployed. -/
def ownershipAfter (governance : Address) (ls : List (Msg × OwnershipOp)) : BatteryOwnershipRegistry :=
  run (attempt ownershipCall) (.deployed governance) ls

/-- **What every change keeps, every run keeps.** -/
theorem ownership_rule {I : BatteryOwnershipRegistry → Prop}
    (h : ∀ {msg op r r'}, OwnershipChange msg op r r' → I r → I r') (ls : List (Msg × OwnershipOp))
    {r : BatteryOwnershipRegistry} (hr : I r) : I (run (attempt ownershipCall) r ls) :=
  run_invariant (attempt_invariant fun _ _ _ hok => h (ownership_change hok)) ls hr

end Contracts
end Evllm
