/-
# Delivery against payment

A battery changes hands through a marketplace just when one of the
marketplace's agreements settles, from the seller of the agreement to its
buyer, and an agreement settles once. The transitions are in the ownership
registry and the agreements in the marketplace: no call of an account or of
another marketplace records a transition under this one's address, and a call
of this one records a transition only where it settles an agreement.

Key definitions
- `handovers`, `settlements`: the transitions and the agreements between two
  organisations
- `Turn`: what a call of a marketplace does to both
- `Delivered`: there are as many of the one as of the other

Key theorems: `market_turn`, `exec_turn`, `handovers_are_settlements`.
-/
import Evllm.Contracts.Admission
import Evllm.Contracts.Locks
import Evllm.Contracts.Ownership
import Mathlib.Data.FinEnum
import Mathlib.Data.Set.Card

namespace Evllm
namespace Contracts

open Lib Function Marketplace

/-- A transition `transition` of `batteryId` is appended to its history. -/
structure Appends (r r' : BatteryOwnershipRegistry) (batteryId : Bytes32) (transition : OwnershipTransition) : Prop where
  appended : ∃ sequence : Uint64, sequence.toNat = (r.ownershipTransitionCount batteryId).toNat + 1 ∧
    r'.ownershipTransitionCount = update r.ownershipTransitionCount batteryId sequence ∧
    r'.ownershipTransitions = update r.ownershipTransitions batteryId
      (update (r.ownershipTransitions batteryId) sequence transition)

/-- A transition from one owner to another that the marketplace at `self` has
recorded. -/
def Handover (self : Address) (seller buyer : Bytes32) (transition : OwnershipTransition) : Prop :=
  transition.authorizedMarketplace = self ∧ transition.previousOwnerOrganizationId = seller ∧
    transition.newOwnerOrganizationId = buyer

/-- A settled agreement that sells a battery of one organisation to another. -/
def Settlement (batteryId seller buyer : Bytes32) (agreement : Agreement) : Prop :=
  agreement.state = .settled ∧ agreement.batteryId = batteryId ∧ agreement.sellerOrganizationId = seller ∧
    agreement.buyerOrganizationId = buyer

instance (self : Address) (seller buyer : Bytes32) : DecidablePred (Handover self seller buyer) :=
  fun _ => inferInstanceAs (Decidable (_ ∧ _ ∧ _))

instance (batteryId seller buyer : Bytes32) : DecidablePred (Settlement batteryId seller buyer) :=
  fun _ => inferInstanceAs (Decidable (_ ∧ _ ∧ _ ∧ _))

/-- The numbers of the handovers of a battery. -/
def handovers (self : Address) (r : BatteryOwnershipRegistry) (batteryId seller buyer : Bytes32) : Set Uint64 :=
  {k | Handover self seller buyer (r.ownershipTransitions batteryId k)}

/-- The ids of the settlements. -/
def settlements (m : Marketplace) (batteryId seller buyer : Bytes32) : Set Bytes32 :=
  {id | Settlement batteryId seller buyer (m.agreements id)}

/-- No transition past the count bears the marketplace's address. -/
def Unwritten (self : Address) (r : BatteryOwnershipRegistry) : Prop :=
  ∀ batteryId (k : Uint64), (r.ownershipTransitionCount batteryId).toNat < k.toNat →
    (r.ownershipTransitions batteryId k).authorizedMarketplace ≠ self

/-- As many handovers as settlements. -/
def Delivered (self : Address) (m : Marketplace) (r : BatteryOwnershipRegistry) : Prop :=
  ∀ batteryId seller buyer,
    (handovers self r batteryId seller buyer).ncard = (settlements m batteryId seller buyer).ncard

/-! ### What the registry records -/

section Registry

variable {r r' : BatteryOwnershipRegistry} {msg : Msg} {batteryId : Bytes32}

theorem recordOwnershipTransition_appends {previousOwner newOwner : Bytes32} {marketplace : Address}
    (h : r.recordOwnershipTransition msg batteryId previousOwner newOwner marketplace = .ok r') :
    Appends r r' batteryId ⟨previousOwner, newOwner, marketplace, msg.timestamp64⟩ := by
  simp only [BatteryOwnershipRegistry.recordOwnershipTransition, bind_eq_ok, pure_eq_ok] at h
  obtain ⟨sequence, hsequence, rfl⟩ := h
  exact ⟨sequence, checkedAdd_eq_ok hsequence, rfl, rfl⟩

/-- A transfer is recorded under its caller, from the owner recorded before. -/
theorem transfer_appends {newOwner : Bytes32} (h : r.transferRecordedOwnership msg batteryId newOwner = .ok r') :
    Appends r r' batteryId
      ⟨(r.batteries batteryId).recordedOwnerOrganizationId, newOwner, msg.sender, msg.timestamp64⟩ := by
  simp only [BatteryOwnershipRegistry.transferRecordedOwnership, bind_eq_ok, throwIf_eq_ok] at h
  obtain ⟨_, _, _, _, _, _, h⟩ := h
  obtain ⟨happended⟩ := recordOwnershipTransition_appends h
  exact ⟨happended⟩

/-- A registration is recorded under no marketplace. -/
theorem recordBattery_appends {r₀ : BatteryOwnershipRegistry} {owner : Bytes32} (hsame : KeepsHistory r₀ r)
    (h : r.recordBattery msg batteryId owner = .ok r') :
    Appends r₀ r' batteryId ⟨0, owner, 0, msg.timestamp64⟩ := by
  obtain ⟨sequence, hseq, hcount, htransitions⟩ := (recordOwnershipTransition_appends h).appended
  dsimp only at hseq hcount htransitions
  rw [hsame.count] at hseq hcount
  rw [hsame.transitions] at htransitions
  exact ⟨sequence, hseq, hcount, htransitions⟩

theorem lock_keepsHistory (h : r.lockForMarketplace msg batteryId = .ok r') : KeepsHistory r r' := by
  simp only [BatteryOwnershipRegistry.lockForMarketplace, bind_eq_ok, throwIf_eq_ok, pure_eq_ok] at h
  obtain ⟨_, _, _, _, _, _, rfl⟩ := h
  exact ⟨rfl, rfl⟩

theorem unlock_keepsHistory (h : r.unlockForMarketplace msg batteryId = .ok r') : KeepsHistory r r' := by
  simp only [BatteryOwnershipRegistry.unlockForMarketplace, bind_eq_ok, throwIf_eq_ok, pure_eq_ok] at h
  obtain ⟨_, _, _, _, rfl⟩ := h
  exact ⟨rfl, rfl⟩

/-- A call of the registry itself records nothing, or a transition under no
marketplace or under the caller. -/
theorem ownership_appends {op : OwnershipOp} (h : op.exec r msg = .ok r') :
    KeepsHistory r r' ∨ ∃ batteryId transition, Appends r r' batteryId transition ∧
      (transition.authorizedMarketplace = 0 ∨ transition.authorizedMarketplace = msg.sender) := by
  cases op with
  | registerBattery batteryId owner =>
    simp only [OwnershipOp.exec, BatteryOwnershipRegistry.registerBattery, bind_eq_ok, throwIf_eq_ok] at h
    obtain ⟨_, _, _, _, _, _, h⟩ := h
    exact .inr ⟨_, _, recordBattery_appends ⟨rfl, rfl⟩ h, .inl rfl⟩
  | acceptInitialOwnership proposalId =>
    simp only [OwnershipOp.exec, BatteryOwnershipRegistry.acceptInitialOwnership, bind_eq_ok, throwIf_eq_ok] at h
    obtain ⟨_, _, _, _, _, _, h⟩ := h
    exact .inr ⟨_, _, recordBattery_appends (r := r.closeProposal proposalId .accepted) ⟨rfl, rfl⟩ h, .inl rfl⟩
  | transferRecordedOwnership batteryId newOwner => exact .inr ⟨_, _, transfer_appends h, .inr rfl⟩
  | lockForMarketplace => exact .inl (lock_keepsHistory h)
  | unlockForMarketplace => exact .inl (unlock_keepsHistory h)
  | setRegistrar | setMarketplace =>
    simp only [OwnershipOp.exec, BatteryOwnershipRegistry.setRegistrar, BatteryOwnershipRegistry.setMarketplace,
      bind_eq_ok, pure_eq_ok] at h
    obtain ⟨_, _, rfl⟩ := h
    exact .inl ⟨rfl, rfl⟩
  | proposeInitialOwnership | registerComponent =>
    simp only [OwnershipOp.exec, BatteryOwnershipRegistry.proposeInitialOwnership,
      BatteryOwnershipRegistry.registerComponent, bind_eq_ok, throwIf_eq_ok, pure_eq_ok] at h
    obtain ⟨_, _, _, _, _, _, _, _, rfl⟩ := h
    exact .inl ⟨rfl, rfl⟩
  | rejectInitialOwnership =>
    simp only [OwnershipOp.exec, BatteryOwnershipRegistry.rejectInitialOwnership, bind_eq_ok, throwIf_eq_ok,
      pure_eq_ok] at h
    obtain ⟨_, _, rfl⟩ := h
    exact .inl ⟨rfl, rfl⟩
  | expireInitialOwnership =>
    simp only [OwnershipOp.exec, BatteryOwnershipRegistry.expireInitialOwnership, bind_eq_ok, throwIf_eq_ok,
      pure_eq_ok] at h
    obtain ⟨_, _, _, _, rfl⟩ := h
    exact .inl ⟨rfl, rfl⟩
  | transferOwnership | renounceOwnership =>
    simp only [OwnershipOp.exec, bind_eq_ok, pure_eq_ok] at h
    obtain ⟨_, _, rfl⟩ := h
    exact .inl ⟨rfl, rfl⟩

end Registry

/-! ### What a marketplace settles -/

/-- The settled agreements are those that were, with the same terms. -/
def SameSettled (m m' : Marketplace) : Prop :=
  ∀ id, (m.agreements id).state = .settled ∨ (m'.agreements id).state = .settled → m'.agreements id = m.agreements id

/-- An agreement that waits for its settlement, or for a decision about it. -/
def AgreementState.due (state : AgreementState) : Prop :=
  state = .accepted ∨ state = .disputed ∨ state = .timedOutReferred

/-- What a call of the marketplace at `self` does: it records no transition and
settles nothing, or it settles one agreement and records that. -/
inductive Turn (self : Address) (r : BatteryOwnershipRegistry) (m : Marketplace) :
    BatteryOwnershipRegistry → Marketplace → Prop
  | kept {r' m'} (history : KeepsHistory r r') (agreements : SameSettled m m') : Turn self r m r' m'
  | settled {r' m'} (id : Bytes32) (recordedAt : Uint64) (due : (m.agreements id).state.due)
      (agreements : m'.agreements = update m.agreements id { m.agreements id with state := .settled })
      (history : Appends r r' (m.agreements id).batteryId
        ⟨(r.batteries (m.agreements id).batteryId).recordedOwnerOrganizationId, (m.agreements id).buyerOrganizationId,
          self, recordedAt⟩) : Turn self r m r' m'

section Market

variable {im : Immutables} {regs : Registries} {m m' : Marketplace} {msg : Msg} {r r' : BatteryOwnershipRegistry}

theorem sameSettled_of_same (h : m'.agreements = m.agreements) : SameSettled m m' := fun id _ => congrFun h id

/-- An agreement changes that neither was nor is settled. -/
theorem sameSettled_of_agreement {id : Bytes32} {a : Agreement} (hagreements : m'.agreements = update m.agreements id a)
    (hold : (m.agreements id).state ≠ .settled) (hnew : a.state ≠ .settled) : SameSettled m m' := by
  intro x hx
  have hne : x ≠ id := by
    rintro rfl
    rw [hagreements, update_self] at hx
    exact hx.elim hold hnew
  rw [hagreements, update_of_ne hne]

theorem keeping_turn {result : Except Revert Marketplace} (h : Ensures result (SameSettled m)) :
    Ensures (keeping regs result) fun c => Turn im.self regs.ownership m c.1.ownership c.2 :=
  ensures_bind fun m' hm' => ensures_pure (.kept ⟨rfl, rfl⟩ (h m' hm'))

theorem consumeProtectedAction_sameSettled {id bundleType capability : Bytes32} {action : ProtectedAction}
    {f : Marketplace → Except Revert Marketplace} (h : Ensures (f (m.useAction action.actionId)) (SameSettled m)) :
    Ensures (consumeProtectedAction regs m msg id action bundleType capability >>= f) (SameSettled m) :=
  ensures_bind fun m' hm' => by rwa [consumeProtectedAction_ok hm']

theorem releaseAndTransfer_turn {id : Bytes32} (hdue : (m.agreements id).state.due) :
    Ensures (releaseAndTransfer im regs m msg id) fun c => Turn im.self regs.ownership m c.1.ownership c.2 :=
  ensures_bind fun _ _ => ensures_bind fun _ htransfer => ensures_pure
    (.settled id msg.timestamp64 hdue rfl (transfer_appends htransfer))

theorem refundAndCancel_turn {id : Bytes32} (hopen : (m.agreements id).state ≠ .settled) :
    Ensures (refundAndCancel im regs m msg id) fun c => Turn im.self regs.ownership m c.1.ownership c.2 :=
  ensures_bind fun _ _ => ensures_bind fun _ hunlock => ensures_pure
    (.kept (unlock_keepsHistory hunlock) (sameSettled_of_agreement rfl hopen (by simp)))

theorem not_settled_of_eq {state s : AgreementState} (h : ¬state ≠ s) (hs : s ≠ .settled) : state ≠ .settled := by
  rw [not_not.mp h]
  exact hs

/-- **A call of a marketplace settles what it records.** -/
theorem market_turn {op : MarketOp} :
    Ensures (op.exec im regs m msg) fun c => Turn im.self regs.ownership m c.1.ownership c.2 := by
  cases op with
  | createListing =>
    refine ensures_throwIf fun _ => ensures_throwIf fun _ => ensures_throwIf fun _ => ensures_throwIf fun _ =>
      ensures_throwIf fun _ => ensures_throwIf fun _ => ensures_throwIf fun _ => ensures_throwIf fun _ =>
      ensures_throwIf fun _ => ensures_bind fun _ hlock => ensures_bind fun _ _ => ensures_pure ?_
    exact .kept (lock_keepsHistory hlock) (sameSettled_of_same rfl)
  | withdrawListing | expireListing =>
    refine ensures_throwIf fun _ => ensures_throwIf fun _ => ensures_throwIf fun _ => ensures_bind fun _ hunlock =>
      ensures_pure ?_
    exact .kept (unlock_keepsHistory hunlock) (sameSettled_of_same rfl)
  | submitOffer =>
    refine keeping_turn (ensures_throwIf fun _ => ensures_throwIf fun _ => ensures_throwIf fun _ =>
      ensures_throwIf fun _ => ensures_throwIf fun _ => ensures_throwIf fun _ => ensures_throwIf fun _ =>
      ensures_pure ?_)
    exact sameSettled_of_same rfl
  | withdrawOffer | rejectOffer | expireOffer =>
    refine keeping_turn (ensures_throwIf fun _ => ensures_throwIf fun _ => ensures_throwIf fun _ => ensures_pure ?_)
    exact sameSettled_of_same rfl
  | selectOfferAndCreateAgreement input =>
    refine ensures_throwIf fun _ => ensures_throwIf fun _ => ensures_throwIf fun _ => ensures_throwIf fun _ =>
      ensures_throwIf fun _ => ensures_throwIf fun hunset => ensures_throwIf fun _ => ensures_bind fun _ _ =>
      ensures_pure ?_
    exact .kept ⟨rfl, rfl⟩ (sameSettled_of_agreement rfl (not_settled_of_eq hunset (by simp)) (by simp [newAgreement]))
  | confirmAgreement =>
    refine keeping_turn (ensures_throwIf fun _ => ensures_throwIf fun hstate => ensures_throwIf fun _ =>
      ensures_throwIf fun _ => ensures_pure ?_)
    exact sameSettled_of_agreement rfl (not_settled_of_eq hstate (by simp)) (by simp)
  | fundAgreement =>
    refine keeping_turn (ensures_throwIf fun _ => ensures_throwIf fun hstate => ensures_throwIf fun _ =>
      ensures_throwIf fun _ => ensures_throwIf fun _ => ensures_pure ?_)
    exact sameSettled_of_agreement rfl (not_settled_of_eq hstate (by simp)) (by simp)
  | cancelUnfundedAgreement =>
    refine ensures_throwIf fun _ => ensures_throwIf fun hstate => ensures_throwIf fun _ =>
      ensures_bind fun _ hunlock => ensures_pure ?_
    refine .kept (unlock_keepsHistory hunlock) (sameSettled_of_agreement rfl ?_ (by simp))
    intro hsettled
    exact hstate (by simp [hsettled])
  | recordDispatch | recordDelivery =>
    refine keeping_turn (ensures_throwIf fun _ => ensures_throwIf fun hstate =>
      consumeProtectedAction_sameSettled (ensures_pure ?_))
    exact sameSettled_of_agreement rfl (not_settled_of_eq (not_or.mp hstate).1 (by simp)) (by simp)
  | acceptDelivery =>
    refine keeping_turn (ensures_throwIf fun _ => ensures_throwIf fun hstate => ensures_throwIf fun _ =>
      ensures_bind fun _ _ => ensures_throwIf fun _ => ensures_pure ?_)
    exact sameSettled_of_agreement rfl (not_settled_of_eq hstate (by simp)) (by simp)
  | applyDispatchTimeout =>
    refine ensures_throwIf fun _ => ensures_throwIf fun hstate => ensures_throwIf fun _ => ?_
    exact refundAndCancel_turn (not_settled_of_eq hstate (by simp))
  | applyDeliveryOrAcceptanceTimeout =>
    refine keeping_turn (ensures_throwIf fun _ => ensures_bind fun late hlate => ensures_throwIf fun hdue =>
      ensures_pure (sameSettled_of_agreement rfl ?_ (by simp)))
    -- a settled agreement is late in neither way
    intro hsettled
    have hnever : false = late := by simpa [acceptanceLate, hsettled] using hlate
    exact hdue (by simp [hsettled, ← hnever])
  | openTransactionDispute =>
    refine keeping_turn (ensures_throwIf fun _ => ensures_throwIf fun hstate => ensures_throwIf fun _ =>
      ensures_throwIf fun _ => consumeProtectedAction_sameSettled (ensures_pure
        (sameSettled_of_agreement rfl ?_ (by simp))))
    intro hsettled
    exact hstate (by simp [hsettled])
  | resolveAgreement agreementId _ _ resolution =>
    refine ensures_throwIf fun _ => ensures_throwIf fun hstate => ensures_throwIf fun _ => ensures_throwIf fun _ => ?_
    have hdecided : (m.agreements agreementId).state = .disputed ∨
        (m.agreements agreementId).state = .timedOutReferred := by
      by_contra hn
      exact hstate (not_or.mp hn)
    cases resolution with
    | releaseAndTransfer => exact releaseAndTransfer_turn (.inr hdecided)
    | refundAndCancel =>
      refine refundAndCancel_turn fun hsettled => ?_
      simp [hsettled] at hdecided
  | settleAccepted =>
    refine ensures_throwIf fun _ => ensures_throwIf fun hstate => ?_
    exact releaseAndTransfer_turn (.inl (not_not.mp hstate))

end Market

/-! ### Counting -/

/-- How many values satisfy `P` when one that did not is replaced. -/
theorem ncard_update {ι α : Type*} [Finite ι] [DecidableEq ι] {P : α → Prop} [DecidablePred P] {f : ι → α} {i : ι}
    (hold : ¬P (f i)) (v : α) :
    Set.ncard {x | P (update f i v x)} = Set.ncard {x | P (f x)} + if P v then 1 else 0 := by
  by_cases hv : P v
  · have hinsert : {x | P (update f i v x)} = insert i {x | P (f x)} := by
      ext x
      by_cases hx : x = i
      · simp [hx, hv]
      · simp [hx]
    rw [hinsert, Set.ncard_insert_of_notMem (show i ∉ {x | P (f x)} from hold), if_pos hv]
  · have hsame : {x | P (update f i v x)} = {x | P (f x)} := by
      ext x
      by_cases hx : x = i
      · simp [hx, hv, hold]
      · simp [update_of_ne hx]
    rw [hsame, if_neg hv, Nat.add_zero]

section Counting

variable {self : Address} {m m' : Marketplace} {r r' : BatteryOwnershipRegistry}

theorem settlements_of_sameSettled (h : SameSettled m m') (batteryId seller buyer : Bytes32) :
    settlements m' batteryId seller buyer = settlements m batteryId seller buyer := by
  ext id
  simp only [settlements, Set.mem_ofPred_eq]
  constructor
  · intro hid
    rwa [h id (.inr hid.1)] at hid
  · intro hid
    rwa [h id (.inl hid.1)]

theorem handovers_of_keeps (h : KeepsHistory r r') (batteryId seller buyer : Bytes32) :
    handovers self r' batteryId seller buyer = handovers self r batteryId seller buyer := by
  unfold handovers
  rw [h.transitions]

/-- The number that a transition is appended under bears no address yet. -/
theorem handovers_of_appends {x : Bytes32} {transition : OwnershipTransition} (hr : Unwritten self r)
    (h : Appends r r' x transition) (batteryId seller buyer : Bytes32) :
    (handovers self r' batteryId seller buyer).ncard = (handovers self r batteryId seller buyer).ncard +
      if x = batteryId ∧ Handover self seller buyer transition then 1 else 0 := by
  obtain ⟨sequence, hseq, -, htransitions⟩ := h.appended
  unfold handovers
  rw [htransitions]
  by_cases hx : x = batteryId
  · subst hx
    have hfree : ¬Handover self seller buyer (r.ownershipTransitions x sequence) :=
      fun hhandover => hr x sequence (by omega) hhandover.1
    simp only [update_self, true_and]
    exact ncard_update hfree transition
  · rw [update_of_ne (Ne.symm hx), if_neg fun hboth => hx hboth.1, Nat.add_zero]

theorem unwritten_of_keeps (h : KeepsHistory r r') (hr : Unwritten self r) : Unwritten self r' := by
  unfold Unwritten
  rw [h.count, h.transitions]
  exact hr

theorem unwritten_of_appends {x : Bytes32} {transition : OwnershipTransition} (h : Appends r r' x transition)
    (hr : Unwritten self r) : Unwritten self r' := by
  obtain ⟨sequence, hseq, hcount, htransitions⟩ := h.appended
  intro batteryId k hk
  rw [hcount] at hk
  rw [htransitions]
  by_cases hx : batteryId = x
  · subst hx
    rw [update_self] at hk ⊢
    have hne : k ≠ sequence := by
      rintro rfl
      omega
    rw [update_of_ne hne]
    exact hr batteryId k (by omega)
  · rw [update_of_ne hx] at hk ⊢
    exact hr batteryId k hk

theorem AgreementState.due.isSet {a : Agreement} (h : a.state.due) : a.isSet := by
  intro hunset
  rw [hunset] at h
  simp [AgreementState.due] at h

/-- An agreement that is due is of a battery that its seller owns. -/
theorem owner_of_due {id : Bytes32} (hcoherent : Coherent m) (hlocked : Locked self m r.batteries)
    (hdue : (m.agreements id).state.due) :
    (r.batteries (m.agreements id).batteryId).recordedOwnerOrganizationId = (m.agreements id).sellerOrganizationId := by
  have hagrees := hcoherent.agrees id hdue.isSet
  have hmatched : (m.listings (m.agreements id).listingId).state = .matched := by
    rw [hagrees.listingState]
    rcases hdue with h | h | h <;> rw [h] <;> rfl
  rw [hagrees.batteryId, hagrees.sellerOrganizationId]
  exact hlocked.owner _ (.inr hmatched)

theorem turn_delivered (h : Turn self r m r' m') (hcoherent : Coherent m) (hlocked : Locked self m r.batteries)
    (hr : Unwritten self r) (hm : Delivered self m r) : Delivered self m' r' := by
  intro batteryId seller buyer
  cases h with
  | kept history agreements =>
    rw [handovers_of_keeps history, settlements_of_sameSettled agreements]
    exact hm batteryId seller buyer
  | settled id recordedAt due agreements history =>
    have hopen : ¬Settlement batteryId seller buyer (m.agreements id) := by
      intro hsettled
      rw [hsettled.1] at due
      simp [AgreementState.due] at due
    have hcount := ncard_update hopen { m.agreements id with state := .settled }
    have howner := owner_of_due hcoherent hlocked due
    rw [handovers_of_appends hr history, hm batteryId seller buyer]
    unfold settlements
    rw [agreements, hcount, howner]
    simp [Handover, Settlement]

end Counting

/-! ### Every run -/

variable {D : Deployment}

/-- **Every call, as one marketplace sees it**: a turn of its own, or another's
entry in the history of a battery. -/
theorem exec_turn (self : D.Market) {c c' : Chain D} {msg : Msg} {op : Op D} (hsender : msg.sender ≠ self.1)
    (h : exec c msg op = .ok c') :
    Turn self.1 c.registries.ownership (c.markets self) c'.registries.ownership (c'.markets self) ∨
      (c'.markets self = c.markets self ∧ ∃ batteryId transition,
        Appends c.registries.ownership c'.registries.ownership batteryId transition ∧
          transition.authorizedMarketplace ≠ self.1) := by
  cases op with
  | authority | bundles | deployment =>
    simp only [exec, bind_eq_ok, pure_eq_ok] at h
    obtain ⟨_, _, rfl⟩ := h
    exact .inl (.kept ⟨rfl, rfl⟩ (sameSettled_of_same rfl))
  | ownership op =>
    simp only [exec, bind_eq_ok, pure_eq_ok] at h
    obtain ⟨_, hop, rfl⟩ := h
    obtain hkeeps | ⟨batteryId, transition, happends, hby⟩ := ownership_appends hop
    · exact .inl (.kept hkeeps (sameSettled_of_same rfl))
    · refine .inr ⟨rfl, batteryId, transition, happends, ?_⟩
      rcases hby with hby | hby
      · rw [hby]
        exact Ne.symm (market_ne_zero self)
      · rw [hby]
        exact hsender
  | market other op =>
    simp only [exec, bind_eq_ok, pure_eq_ok] at h
    obtain ⟨⟨regs, m⟩, hop, rfl⟩ := h
    have hturn := market_turn _ hop
    by_cases ho : other = self
    · subst ho
      simpa [Deployment.immutables] using Or.inl hturn
    · have hm : update c.markets other m self = c.markets self := update_of_ne (Ne.symm ho) _ _
      cases hturn with
      | kept history agreements => exact .inl (.kept history (sameSettled_of_same (congrArg Marketplace.agreements hm)))
      | settled id recordedAt due agreements history =>
        exact .inr ⟨hm, _, _, history, fun he => ho (Subtype.ext he)⟩

/-- What the run keeps, as one marketplace sees it. -/
structure Handled (market : D.Market) (c : Chain D) : Prop where
  coherent : Coherent (c.markets market)
  locked : Locked market.1 (c.markets market) c.batteries
  unwritten : Unwritten market.1 c.registries.ownership
  delivered : Delivered market.1 (c.markets market) c.registries.ownership

theorem deployed_handled (self : D.Market) : Handled self (.deployed D) where
  coherent := deployed_coherent
  locked := deployed_locked (market_ne_zero self)
  unwritten _ _ _ := Ne.symm (market_ne_zero self)
  delivered batteryId seller buyer := by
    have hnone : handovers self.1 (Chain.deployed D).registries.ownership batteryId seller buyer = ∅ := by
      ext k
      simp only [handovers, Set.mem_ofPred_eq, Set.mem_empty_iff_false, iff_false]
      exact fun h => market_ne_zero self h.1.symm
    have hopen : settlements ((Chain.deployed D).markets self) batteryId seller buyer = ∅ := by
      ext id
      simp [settlements, Settlement, Chain.deployed, Marketplace.deployed]
    rw [hnone, hopen, Set.ncard_empty, Set.ncard_empty]

theorem exec_handled (self : D.Market) {c c' : Chain D} {msg : Msg} {op : Op D} (hsender : msg.sender ≠ self.1)
    (h : exec c msg op = .ok c') (hc : Handled self c) : Handled self c' := by
  have hrecords : Coherent (c'.markets self) ∧ Locked self.1 (c'.markets self) c'.batteries := by
    rcases exec_trade self hsender h with ht | ⟨hm, hf⟩
    · exact ⟨trade_coherent ht hc.coherent, trade_locked (market_ne_zero self) ht hc.coherent hc.locked⟩
    · rw [hm]
      exact ⟨hc.coherent, foreign_locked hf hc.locked⟩
  obtain hturn | ⟨hm, batteryId, transition, happends, hother⟩ := exec_turn self hsender h
  · refine ⟨hrecords.1, hrecords.2, ?_, turn_delivered hturn hc.coherent hc.locked hc.unwritten hc.delivered⟩
    cases hturn with
    | kept history agreements => exact unwritten_of_keeps history hc.unwritten
    | settled id recordedAt due agreements history => exact unwritten_of_appends history hc.unwritten
  · refine ⟨hrecords.1, hrecords.2, unwritten_of_appends happends hc.unwritten, ?_⟩
    intro x seller buyer
    rw [handovers_of_appends hc.unwritten happends, if_neg fun hboth => hother hboth.2.1, hm, Nat.add_zero]
    exact hc.delivered x seller buyer

/-- A withdrawal touches no agreement and no battery. -/
theorem handled_of_same (self : D.Market) {c c' : Chain D} (hregistries : c'.registries = c.registries)
    (hlistings : (c'.markets self).listings = (c.markets self).listings)
    (hoffers : (c'.markets self).offers = (c.markets self).offers)
    (hagreements : (c'.markets self).agreements = (c.markets self).agreements) (hc : Handled self c) :
    Handled self c' := by
  obtain ⟨hcoherent, hlocked, hunwritten, hdelivered⟩ := hc
  refine ⟨coherent_of_same hlistings hoffers hagreements hcoherent, ?_, ?_, ?_⟩
  · unfold Chain.batteries at hlocked ⊢
    rw [hregistries]
    exact locked_of_same hlistings hlocked
  · rwa [hregistries]
  · intro batteryId seller buyer
    rw [hregistries, settlements_of_sameSettled (sameSettled_of_same hagreements)]
    exact hdelivered batteryId seller buyer

/-- **Delivery against payment**: in every state of every run there are, for
every battery and any two organisations, as many transitions from the one to
the other recorded by a marketplace as there are settled agreements of the
marketplace that sell the battery of the one to the other. -/
theorem handovers_are_settlements (D : Deployment) (self : D.Market) (ls : List D.Step)
    (batteryId seller buyer : Bytes32) :
    (handovers self.1 (after D ls).state.registries.ownership batteryId seller buyer).ncard =
      (settlements ((after D ls).state.markets self) batteryId seller buyer).ncard := by
  have h := sound_run (M := machine D) (I := fun c _ => Handled self c) ?_ ?_ ?_ ls
    (c := ⟨Chain.deployed D, []⟩) (deployed_handled self)
  · exact h.now.delivered batteryId seller buyer
  · rintro c c' ws ⟨request, op⟩ hc hI
    have hexec : exec c request.msg op = .ok c' := toOption_eq_some.mp hc
    exact exec_handled self (caller_ne_market request.caller self) hexec hI
  · rintro c c' w ws ⟨request, other⟩ hc hI
    simp only [machine] at hc
    split at hc
    · simp at hc
    · rename_i m amount hw
      obtain ⟨rfl, rfl⟩ := Prod.mk.inj (Option.some.inj hc)
      obtain ⟨_, _, rfl⟩ := withdrawCredits_ok hw
      by_cases ho : other = self
      · subst ho
        refine handled_of_same other (c := c) rfl ?_ ?_ ?_ hI <;> simp
      · refine handled_of_same self (c := c) rfl ?_ ?_ ?_ hI <;> simp [update_of_ne (Ne.symm ho)]
  · rintro c ⟨other, recipient, amount⟩ ws hI
    by_cases ho : other = self
    · subst ho
      refine handled_of_same other (c := c) rfl ?_ ?_ ?_ hI <;> simp [machine]
    · refine handled_of_same self (c := c) rfl ?_ ?_ ?_ hI <;> simp [machine, update_of_ne (Ne.symm ho)]

end Contracts
end Evllm
