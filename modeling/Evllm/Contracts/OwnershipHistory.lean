/-
# The ownership history of a battery

Three calls write the history of a battery: a direct registration, the
acceptance of a proposal and a transfer by a marketplace. Each appends one
transition that begins with the recorded owner, so the transitions are an
unbroken chain from nobody to the recorded owner, nothing is ever written past
the count and nothing written is changed. A registration needs a battery that
is not registered, so at most one proposal of a battery is ever accepted.

Key definitions: `History`, `Proposals`.
Key theorem: `ownership_history`.
-/
import Evllm.Contracts.Ownership

namespace Evllm
namespace Contracts

open Lib Function

/-- The transitions of a battery, in the order of their sequence numbers. -/
structure History (r : BatteryOwnershipRegistry) (batteryId : Bytes32) : Prop where
  registered : (r.batteries batteryId).registered = true ↔ 1 ≤ (r.ownershipTransitionCount batteryId).toNat
  first : 1 ≤ (r.ownershipTransitionCount batteryId).toNat →
    (r.ownershipTransitions batteryId 1).previousOwnerOrganizationId = 0
  linked : ∀ k : Uint64, 1 ≤ k.toNat → k.toNat < (r.ownershipTransitionCount batteryId).toNat →
    (r.ownershipTransitions batteryId (k + 1)).previousOwnerOrganizationId =
      (r.ownershipTransitions batteryId k).newOwnerOrganizationId
  last : 1 ≤ (r.ownershipTransitionCount batteryId).toNat →
    (r.ownershipTransitions batteryId (r.ownershipTransitionCount batteryId)).newOwnerOrganizationId =
      (r.batteries batteryId).recordedOwnerOrganizationId
  past : ∀ k : Uint64, k = 0 ∨ (r.ownershipTransitionCount batteryId).toNat < k.toNat →
    r.ownershipTransitions batteryId k = ⟨0, 0, 0, 0⟩

/-- The accepted proposals. -/
structure Proposals (r : BatteryOwnershipRegistry) : Prop where
  registered : ∀ id, (r.initialOwnershipProposals id).status = .accepted →
    (r.batteries (r.initialOwnershipProposals id).batteryId).registered = true
  unique : ∀ i j, (r.initialOwnershipProposals i).status = .accepted →
    (r.initialOwnershipProposals j).status = .accepted →
    (r.initialOwnershipProposals i).batteryId = (r.initialOwnershipProposals j).batteryId → i = j

/-- The transition numbered `k` of a battery is recorded. -/
def Recorded (batteryId : Bytes32) (k : Uint64) (transition : OwnershipTransition) (r : BatteryOwnershipRegistry) : Prop :=
  1 ≤ k.toNat ∧ k.toNat ≤ (r.ownershipTransitionCount batteryId).toNat ∧
    r.ownershipTransitions batteryId k = transition

theorem deployed_history (governance : Address) (batteryId : Bytes32) : History (.deployed governance) batteryId where
  registered := by simp [BatteryOwnershipRegistry.deployed]
  first h := by simp [BatteryOwnershipRegistry.deployed] at h
  linked _ _ h := by simp [BatteryOwnershipRegistry.deployed] at h
  last h := by simp [BatteryOwnershipRegistry.deployed] at h
  past _ _ := rfl

theorem deployed_proposals (governance : Address) : Proposals (.deployed governance) where
  registered _ h := by simp [BatteryOwnershipRegistry.deployed] at h
  unique _ _ h := by simp [BatteryOwnershipRegistry.deployed] at h

section Changes

variable {r r' : BatteryOwnershipRegistry} {msg : Msg} {op : OwnershipOp} {batteryId : Bytes32}

theorem toNat_add_one {k : Uint64} (h : k.toNat + 1 < 2 ^ 64) : (k + 1).toNat = k.toNat + 1 := by
  have hone : (1 : Uint64).toNat = 1 := rfl
  rw [BitVec.toNat_add, hone, Nat.mod_eq_of_lt h]

/-- Nothing of the battery that its history is about changes. -/
theorem History.of_same (h : History r batteryId)
    (hregistered : (r'.batteries batteryId).registered = (r.batteries batteryId).registered)
    (howner : (r'.batteries batteryId).recordedOwnerOrganizationId =
      (r.batteries batteryId).recordedOwnerOrganizationId)
    (hcount : r'.ownershipTransitionCount batteryId = r.ownershipTransitionCount batteryId)
    (htransitions : r'.ownershipTransitions batteryId = r.ownershipTransitions batteryId) :
    History r' batteryId := by
  constructor
  · rw [hregistered, hcount]
    exact h.registered
  · rw [hcount, htransitions]
    exact h.first
  · rw [hcount, htransitions]
    exact h.linked
  · rw [hcount, htransitions, howner]
    exact h.last
  · rw [hcount, htransitions]
    exact h.past

/-- A transition from the recorded owner is appended. -/
theorem History.of_records {previousOwner newOwner : Bytes32} (h : History r batteryId)
    (hrecords : Records r r' batteryId previousOwner newOwner)
    (hregistered : (r'.batteries batteryId).registered = true)
    (howner : (r'.batteries batteryId).recordedOwnerOrganizationId = newOwner)
    (hfirst : (r.batteries batteryId).registered = false → previousOwner = 0)
    (hnext : (r.batteries batteryId).registered = true →
      previousOwner = (r.batteries batteryId).recordedOwnerOrganizationId) : History r' batteryId := by
  obtain ⟨sequence, transition, hseq, hprevious, hnew, hcount, htransitions⟩ := hrecords.appended
  have hcount' : r'.ownershipTransitionCount batteryId = sequence := by rw [hcount, update_self]
  have hself : r'.ownershipTransitions batteryId sequence = transition := by
    rw [htransitions, update_self, update_self]
  have hother : ∀ k, k ≠ sequence → r'.ownershipTransitions batteryId k = r.ownershipTransitions batteryId k := by
    intro k hk
    rw [htransitions, update_self, update_of_ne hk]
  -- before, the count is zero exactly if the battery is not registered
  have hzero : ¬1 ≤ (r.ownershipTransitionCount batteryId).toNat → (r.batteries batteryId).registered = false := by
    intro hnone
    rw [← h.registered] at hnone
    simpa using hnone
  constructor
  · rw [hcount', hregistered]
    simp only [true_iff]
    omega
  · intro _
    by_cases hold : 1 ≤ (r.ownershipTransitionCount batteryId).toNat
    · rw [hother 1 (by rintro rfl; simp at hseq; omega)]
      exact h.first hold
    · have hone : sequence = 1 := by
        apply BitVec.eq_of_toNat_eq
        rw [hseq]
        simp
        omega
      rw [← hone, hself, hprevious]
      exact hfirst (hzero hold)
  · intro k hk hlt
    rw [hcount', hseq] at hlt
    have hk' : k ≠ sequence := by
      rintro rfl
      omega
    have hsucc : (k + 1).toNat = k.toNat + 1 := toNat_add_one (by have hbound := sequence.isLt; omega)
    rw [hother k hk']
    by_cases hlast : k.toNat = (r.ownershipTransitionCount batteryId).toNat
    · have hkcount : k = r.ownershipTransitionCount batteryId := BitVec.eq_of_toNat_eq hlast
      have hnextk : k + 1 = sequence := by
        apply BitVec.eq_of_toNat_eq
        rw [hsucc, hseq, hlast]
      rw [hnextk, hself, hprevious, hkcount, h.last (hlast ▸ hk)]
      exact hnext (h.registered.mpr (hlast ▸ hk))
    · have hnextk : k + 1 ≠ sequence := by
        intro heq
        have htoNat := congrArg BitVec.toNat heq
        rw [hsucc, hseq] at htoNat
        omega
      rw [hother _ hnextk]
      exact h.linked k hk (by omega)
  · intro _
    rw [hcount', hself, hnew, howner]
  · intro k hk
    rw [hcount', hseq] at hk
    have hk' : k ≠ sequence := by
      rintro rfl
      rcases hk with rfl | hk
      · simp at hseq
      · omega
    rw [hother k hk']
    exact h.past k (hk.imp_right (by omega))

/-- A transition of another battery is appended. -/
theorem Records.other {batteryId' previousOwner newOwner : Bytes32}
    (h : Records r r' batteryId' previousOwner newOwner) (hne : batteryId ≠ batteryId') :
    r'.ownershipTransitionCount batteryId = r.ownershipTransitionCount batteryId ∧
      r'.ownershipTransitions batteryId = r.ownershipTransitions batteryId := by
  obtain ⟨sequence, transition, -, -, -, hcount, htransitions⟩ := h.appended
  rw [hcount, htransitions, update_of_ne hne, update_of_ne hne]
  exact ⟨rfl, rfl⟩

theorem change_history (h : OwnershipChange msg op r r') (hr : History r batteryId) : History r' batteryId := by
  cases h with
  | configured batteries _ _ history | proposed _ _ _ _ batteries _ _ history | closed _ _ _ _ batteries _ _ history
  | component _ _ _ _ _ _ _ batteries _ history =>
    exact hr.of_same (by rw [batteries]) (by rw [batteries]) (by rw [history.count]) (by rw [history.transitions])
  | locked id lock batteries _ _ history =>
    have hkept : (r'.batteries batteryId).registered = (r.batteries batteryId).registered ∧
        (r'.batteries batteryId).recordedOwnerOrganizationId = (r.batteries batteryId).recordedOwnerOrganizationId := by
      rw [batteries, withLock]
      by_cases hid : batteryId = id
      · subst hid
        rw [update_self]
        exact ⟨rfl, rfl⟩
      · rw [update_of_ne hid]
        exact ⟨rfl, rfl⟩
    exact hr.of_same hkept.1 hkept.2 (by rw [history.count]) (by rw [history.transitions])
  | registered id owner _ fresh batteries _ _ history =>
    by_cases hid : batteryId = id
    · subst hid
      refine hr.of_records history (by rw [batteries, update_self]) (by rw [batteries, update_self]) (fun _ => rfl) ?_
      intro hreg
      rw [fresh] at hreg
      cases hreg
    · obtain ⟨hcount, htransitions⟩ := history.other hid
      exact hr.of_same (by rw [batteries, update_of_ne hid]) (by rw [batteries, update_of_ne hid]) hcount htransitions
  | transferred id newOwner known batteries _ _ history =>
    by_cases hid : batteryId = id
    · subst hid
      refine hr.of_records history ?_ (by rw [batteries, withOwner, update_self]) ?_ (fun _ => rfl)
      · rw [batteries, withOwner, update_self]
        exact known
      · intro hunknown
        rw [known] at hunknown
        cases hunknown
    · obtain ⟨hcount, htransitions⟩ := history.other hid
      exact hr.of_same (by rw [batteries, withOwner, update_of_ne hid]) (by rw [batteries, withOwner, update_of_ne hid])
        hcount htransitions

/-- What is recorded is not written again. -/
theorem Recorded.of_records {k : Uint64} {transition : OwnershipTransition} {id previousOwner newOwner : Bytes32}
    (hr : Recorded batteryId k transition r) (h : Records r r' id previousOwner newOwner) :
    Recorded batteryId k transition r' := by
  obtain ⟨hone, hle, htransition⟩ := hr
  by_cases hid : batteryId = id
  · subst hid
    obtain ⟨sequence, new, hseq, -, -, hcount, htransitions⟩ := h.appended
    have hk : k ≠ sequence := by
      rintro rfl
      omega
    refine ⟨hone, ?_, ?_⟩
    · rw [hcount, update_self, hseq]
      omega
    · rw [htransitions, update_self, update_of_ne hk, htransition]
  · obtain ⟨hcount, htransitions⟩ := h.other hid
    exact ⟨hone, by rwa [hcount], by rwa [htransitions]⟩

theorem change_recorded {k : Uint64} {transition : OwnershipTransition} (h : OwnershipChange msg op r r')
    (hr : Recorded batteryId k transition r) : Recorded batteryId k transition r' := by
  cases h with
  | configured _ _ _ history | proposed _ _ _ _ _ _ _ history | closed _ _ _ _ _ _ _ history
  | component _ _ _ _ _ _ _ _ _ history | locked _ _ _ _ _ history =>
    unfold Recorded
    rw [history.count, history.transitions]
    exact hr
  | registered _ _ _ _ _ _ _ history => exact hr.of_records history
  | transferred _ _ _ _ _ _ history => exact hr.of_records history

/-! ### Proposals -/

/-- A battery that is registered stays so. -/
theorem change_registered (h : OwnershipChange msg op r r') (hr : (r.batteries batteryId).registered = true) :
    (r'.batteries batteryId).registered = true := by
  cases h with
  | configured batteries | proposed _ _ _ _ batteries | closed _ _ _ _ batteries | component _ _ _ _ _ _ _ batteries =>
    rwa [batteries]
  | locked id lock batteries =>
    rw [batteries, withLock]
    by_cases hid : batteryId = id
    · subst hid
      rwa [update_self]
    · rwa [update_of_ne hid]
  | registered id owner _ fresh batteries =>
    rw [batteries]
    by_cases hid : batteryId = id
    · rw [hid, update_self]
    · rwa [update_of_ne hid]
  | transferred id newOwner known batteries =>
    rw [batteries, withOwner]
    by_cases hid : batteryId = id
    · subst hid
      rwa [update_self]
    · rwa [update_of_ne hid]

/-- A proposal that is not accepted is written and is not accepted. -/
theorem Proposals.of_unaccepted {id : Bytes32} {proposal : InitialOwnershipProposal} (hr : Proposals r)
    (hregistered : ∀ x, (r.batteries x).registered = true → (r'.batteries x).registered = true)
    (hproposal : proposal.status ≠ .accepted)
    (hproposals : r'.initialOwnershipProposals = update r.initialOwnershipProposals id proposal) : Proposals r' := by
  have hkept : ∀ j, (r'.initialOwnershipProposals j).status = .accepted →
      r'.initialOwnershipProposals j = r.initialOwnershipProposals j := by
    intro j hj
    rw [hproposals] at hj ⊢
    by_cases hid : j = id
    · rw [hid, update_self] at hj
      exact absurd hj hproposal
    · rw [update_of_ne hid]
  constructor
  · intro j hj
    have hsame := hkept j hj
    rw [hsame] at hj ⊢
    exact hregistered _ (hr.registered j hj)
  · intro i j hi hj hij
    have hsamei := hkept i hi
    have hsamej := hkept j hj
    rw [hsamei] at hi hij
    rw [hsamej] at hj hij
    exact hr.unique i j hi hj hij

theorem Proposals.of_same (hr : Proposals r)
    (hregistered : ∀ x, (r.batteries x).registered = true → (r'.batteries x).registered = true)
    (hproposals : r'.initialOwnershipProposals = r.initialOwnershipProposals) : Proposals r' := by
  constructor
  · intro j hj
    rw [hproposals] at hj ⊢
    exact hregistered _ (hr.registered j hj)
  · rw [hproposals]
    exact hr.unique

/-- A pending proposal of a battery that is not registered is accepted. -/
theorem Proposals.of_accepted {id : Bytes32} (hr : Proposals r)
    (hregistered : ∀ x, (r.batteries x).registered = true → (r'.batteries x).registered = true)
    (hfresh : (r.batteries (r.initialOwnershipProposals id).batteryId).registered = false)
    (hnow : (r'.batteries (r.initialOwnershipProposals id).batteryId).registered = true)
    (hproposals : r'.initialOwnershipProposals =
      update r.initialOwnershipProposals id { r.initialOwnershipProposals id with status := .accepted }) :
    Proposals r' := by
  have hself : r'.initialOwnershipProposals id = { r.initialOwnershipProposals id with status := .accepted } := by
    rw [hproposals, update_self]
  have hkept : ∀ j, j ≠ id → r'.initialOwnershipProposals j = r.initialOwnershipProposals j := by
    intro j hj
    rw [hproposals, update_of_ne hj]
  -- a proposal accepted before is of a battery that was registered then
  have hother : ∀ j, j ≠ id → (r'.initialOwnershipProposals j).status = .accepted →
      (r'.initialOwnershipProposals j).batteryId ≠ (r.initialOwnershipProposals id).batteryId := by
    intro j hj haccepted heq
    rw [hkept j hj] at haccepted heq
    have hreg := hr.registered j haccepted
    rw [heq, hfresh] at hreg
    cases hreg
  constructor
  · intro j hj
    by_cases hid : j = id
    · rw [hid, hself]
      exact hnow
    · rw [hkept j hid] at hj ⊢
      exact hregistered _ (hr.registered j hj)
  · intro i j hi hj hij
    by_cases hii : i = id
    · by_cases hjj : j = id
      · rw [hii, hjj]
      · rw [hii, hself] at hij
        exact absurd hij.symm (hother j hjj hj)
    · by_cases hjj : j = id
      · rw [hjj, hself] at hij
        exact absurd hij (hother i hii hi)
      · rw [hkept i hii] at hi hij
        rw [hkept j hjj] at hj hij
        exact hr.unique i j hi hj hij

theorem change_proposals (h : OwnershipChange msg op r r') (hr : Proposals r) : Proposals r' := by
  have hregistered : ∀ x, (r.batteries x).registered = true → (r'.batteries x).registered = true :=
    fun x => change_registered h
  cases h with
  | configured _ _ proposals | component _ _ _ _ _ _ _ _ proposals | locked _ _ _ _ proposals
  | transferred _ _ _ _ _ proposals => exact hr.of_same hregistered proposals
  | proposed id proposal unset pending _ _ proposals =>
    exact hr.of_unaccepted hregistered (by rw [pending]; simp) proposals
  | closed id status refused pending _ _ proposals => exact hr.of_unaccepted hregistered refused proposals
  | registered id owner _ fresh batteries _ proposals =>
    cases proposals with
    | direct same => exact hr.of_same hregistered same
    | proposal p pending battery closed =>
      subst battery
      exact hr.of_accepted hregistered fresh (by rw [batteries, update_self]) closed

/-- An accepted proposal is not written again. -/
theorem change_accepted {id : Bytes32} {proposal : InitialOwnershipProposal} (h : OwnershipChange msg op r r')
    (hr : proposal.status = .accepted ∧ r.initialOwnershipProposals id = proposal) :
    proposal.status = .accepted ∧ r'.initialOwnershipProposals id = proposal := by
  obtain ⟨haccepted, rfl⟩ := hr
  refine ⟨haccepted, ?_⟩
  cases h with
  | configured _ _ proposals | component _ _ _ _ _ _ _ _ proposals | locked _ _ _ _ proposals
  | transferred _ _ _ _ _ proposals => rw [proposals]
  | proposed p proposal unset pending _ _ proposals =>
    have hne : id ≠ p := by
      rintro rfl
      rw [unset] at haccepted
      cases haccepted
    rw [proposals, update_of_ne hne]
  | closed p status refused pending _ _ proposals =>
    have hne : id ≠ p := by
      rintro rfl
      rw [pending] at haccepted
      cases haccepted
    rw [proposals, update_of_ne hne]
  | registered _ _ _ _ _ _ proposals =>
    cases proposals with
    | direct same => rw [same]
    | proposal p pending battery closed =>
      have hne : id ≠ p := by
        rintro rfl
        rw [pending] at haccepted
        cases haccepted
      rw [closed, update_of_ne hne]

end Changes

/-! ### Every run -/

/-- **The ownership history of a battery is an unbroken, append-only chain** in
every state of every run, from nobody to the recorded owner, and at most one
proposal of a battery is ever accepted. -/
theorem ownership_history (governance : Address) (ls : List (Msg × OwnershipOp)) (batteryId : Bytes32) :
    let r := ownershipAfter governance ls
    let count := r.ownershipTransitionCount batteryId
    let transitions := r.ownershipTransitions batteryId
    ((r.batteries batteryId).registered = true ↔ 1 ≤ count.toNat) ∧
    (1 ≤ count.toNat → (transitions 1).previousOwnerOrganizationId = 0 ∧
      (transitions count).newOwnerOrganizationId = (r.batteries batteryId).recordedOwnerOrganizationId) ∧
    (∀ k : Uint64, 1 ≤ k.toNat → k.toNat < count.toNat →
      (transitions (k + 1)).previousOwnerOrganizationId = (transitions k).newOwnerOrganizationId) ∧
    (∀ k : Uint64, k = 0 ∨ count.toNat < k.toNat → transitions k = ⟨0, 0, 0, 0⟩) ∧
    (∀ (ms : List (Msg × OwnershipOp)) (k : Uint64), 1 ≤ k.toNat → k.toNat ≤ count.toNat →
      k.toNat ≤ ((ownershipAfter governance (ls ++ ms)).ownershipTransitionCount batteryId).toNat ∧
      (ownershipAfter governance (ls ++ ms)).ownershipTransitions batteryId k = transitions k) ∧
    (∀ i j, (r.initialOwnershipProposals i).status = .accepted → (r.initialOwnershipProposals j).status = .accepted →
      (r.initialOwnershipProposals i).batteryId = batteryId → (r.initialOwnershipProposals j).batteryId = batteryId →
      i = j) ∧
    ∀ (ms : List (Msg × OwnershipOp)) (id : Bytes32), (r.initialOwnershipProposals id).status = .accepted →
      (ownershipAfter governance (ls ++ ms)).initialOwnershipProposals id = r.initialOwnershipProposals id := by
  intro r count transitions
  have hhistory : History r batteryId :=
    ownership_rule change_history ls (deployed_history governance batteryId)
  have hproposals : Proposals r := ownership_rule change_proposals ls (deployed_proposals governance)
  have hlater : ∀ ms, ownershipAfter governance (ls ++ ms) = run (attempt ownershipCall) r ms :=
    fun ms => run_append _ _ ls ms
  refine ⟨hhistory.registered, fun hone => ⟨hhistory.first hone, hhistory.last hone⟩, hhistory.linked, hhistory.past,
    fun ms k hone hle => ?_, fun i j hi hj hib hjb => hproposals.unique i j hi hj (hib.trans hjb.symm),
    fun ms id haccepted => ?_⟩
  · have hrecorded : Recorded batteryId k (transitions k) (run (attempt ownershipCall) r ms) :=
      ownership_rule change_recorded ms ⟨hone, hle, rfl⟩
    rw [hlater]
    exact hrecorded.2
  · have hkept := ownership_rule (I := fun r' => (r.initialOwnershipProposals id).status = .accepted ∧
      r'.initialOwnershipProposals id = r.initialOwnershipProposals id) change_accepted ms ⟨haccepted, rfl⟩
    rw [hlater]
    exact hkept.2

end Contracts
end Evllm
