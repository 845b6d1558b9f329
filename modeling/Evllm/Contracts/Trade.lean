/-
# What a call can do to a marketplace

Every call that succeeds does one of a few things to a marketplace's storage
and to the batteries: it lists a battery, closes a listing, submits or closes
an offer, turns an offer into an agreement, moves an agreement on, takes its
payment, or closes it. `Trade` says which, with the guards that the call has
passed, and drops who called and when. What holds along every trade holds in
every state of the contracts (`trade_rule`).

Key definitions
- `Trade self m b m' b'`: a call of the marketplace at `self`
- `Foreign self b b'`: what calls of others can do to the batteries
- `exec_trade`: a call is one or the other
-/
import Evllm.Contracts.Chain

namespace Evllm
namespace Contracts

open Lib Function

variable {D : Deployment}

abbrev Batteries := Bytes32 → Battery

/-- The marketplace at `self` holds the lock of a registered battery. -/
def Held (self : Address) (battery : Battery) : Prop :=
  battery.registered = true ∧ battery.marketplaceLock = self

/-- The lock of a battery set. -/
def withLock (b : Batteries) (batteryId : Bytes32) (lock : Address) : Batteries :=
  update b batteryId { b batteryId with marketplaceLock := lock }

/-- A battery handed to a new owner and unlocked. -/
def withOwner (b : Batteries) (batteryId owner : Bytes32) : Batteries :=
  update b batteryId { b batteryId with recordedOwnerOrganizationId := owner, marketplaceLock := 0 }

/-! ### Trades -/

/-- The changes of an agreement's state that move no money. -/
inductive Advance : AgreementState → AgreementState → Prop
  | confirm : Advance .awaitingBuyerConfirmation .awaitingFunding
  | dispatch : Advance .funded .inDelivery
  | deliver : Advance .inDelivery .delivered
  | accept : Advance .delivered .accepted
  | timeOut {s : AgreementState} : s = .inDelivery ∨ s = .delivered → Advance s .timedOutReferred
  | dispute {s : AgreementState} : s = .funded ∨ s = .inDelivery ∨ s = .delivered → Advance s .disputed

/-- The agreement an event credits, with the recipient and the amount. -/
def Event.credit : Event → Option (Bytes32 × Address × Uint256)
  | .creditCreated agreementId recipient amount => some (agreementId, recipient, amount)
  | _ => none

/-- The agreement an event records the payment of. -/
def Event.funding : Event → Option Bytes32
  | .agreementStateChanged agreementId .funded => some agreementId
  | _ => none

/-- The withdrawal an event records. -/
def Event.withdrawal : Event → Option (Address × Uint256)
  | .creditWithdrawn recipient amount => some (recipient, amount)
  | _ => none

/-- Events that record no money. -/
def Quiet (events : List Event) : Prop :=
  ∀ e ∈ events, e.credit = none ∧ e.funding = none ∧ e.withdrawal = none

/-- A call of the marketplace at `self`: its storage `m` and the batteries `b`
before, `m'` and `b'` after. -/
inductive Trade (self : Address) (m : Marketplace) (b : Batteries) : Marketplace → Batteries → Prop
  | list (id : Bytes32) (l : Listing) (hunset : (m.listings id).state = .unset) (hactive : l.state = .active)
      (hreg : (b l.batteryId).registered = true)
      (howner : (b l.batteryId).recordedOwnerOrganizationId = l.sellerOrganizationId)
      (hfree : (b l.batteryId).marketplaceLock = 0) :
      Trade self m b ((m.setListing id l).emit [.listingCreated id l.batteryId l.sellerOrganizationId])
        (withLock b l.batteryId self)
  | closeListing (id : Bytes32) (s : ListingState) (hs : s = .withdrawn ∨ s = .expired)
      (hactive : (m.listings id).state = .active) (hheld : Held self (b (m.listings id).batteryId)) :
      Trade self m b ((m.setListingState id s).emit [.listingStateChanged id s])
        (withLock b (m.listings id).batteryId 0)
  | submit (id : Bytes32) (o : Offer) (hunset : (m.offers id).state = .unset) (hsubmitted : o.state = .submitted)
      (hactive : (m.listings o.listingId).state = .active) (hbuyer : o.buyerOrganizationId ≠ 0) :
      Trade self m b ((m.setOffer id o).emit [.offerSubmitted id o.listingId o.buyerOrganizationId]) b
  | closeOffer (id : Bytes32) (s : OfferState) (hs : s = .withdrawn ∨ s = .rejected ∨ s = .expired)
      (hsubmitted : (m.offers id).state = .submitted) :
      Trade self m b ((m.setOfferState id s).emit [.offerStateChanged id s]) b
  | select (input : AgreementInput) (hactive : (m.listings input.listingId).state = .active)
      (hsubmitted : (m.offers input.offerId).state = .submitted)
      (hlisting : (m.offers input.offerId).listingId = input.listingId)
      (hunset : (m.agreements input.agreementId).state = .unset) :
      Trade self m b
        ((((m.setListing input.listingId
            { m.listings input.listingId with state := .matched, acceptedOfferId := input.offerId }).setOfferState
          input.offerId .accepted).setAgreement input.agreementId
          (Marketplace.newAgreement (m.listings input.listingId) (m.offers input.offerId) input)).emit
          [.agreementCreated input.agreementId input.listingId input.offerId]) b
  | advance (id : Bytes32) (s : AgreementState) (disputeId : Bytes32) (actions : Bytes32 → Bool)
      (events : List Event) (hs : Advance (m.agreements id).state s) (hquiet : Quiet events) :
      Trade self m b
        { (m.setAgreement id { m.agreements id with state := s, disputeId := disputeId }).emit events with
          protectedActions := actions } b
  | fund (id : Bytes32) (hstate : (m.agreements id).state = .awaitingFunding) :
      Trade self m b
        { (m.setAgreementState id .funded).emit [.agreementStateChanged id .funded] with
          balance := m.balance + (m.agreements id).amount.toNat } b
  | release (id : Bytes32) (credit : Uint256)
      (hstate : (m.agreements id).state = .accepted ∨ (m.agreements id).state = .disputed ∨
        (m.agreements id).state = .timedOutReferred)
      (hcredit : checkedAdd (m.withdrawableCredits (m.agreements id).sellerPayoutAddress)
        (m.agreements id).amount = .ok credit)
      (hheld : Held self (b (m.agreements id).batteryId)) :
      Trade self m b
        (((m.closeAgreement id .settled .closedSettled).setCredit
          (m.agreements id).sellerPayoutAddress credit).emit
          [.creditCreated id (m.agreements id).sellerPayoutAddress (m.agreements id).amount,
            .agreementStateChanged id .settled])
        (withOwner b (m.agreements id).batteryId (m.agreements id).buyerOrganizationId)
  | refund (id : Bytes32) (credit : Uint256)
      (hstate : (m.agreements id).state = .funded ∨ (m.agreements id).state = .disputed ∨
        (m.agreements id).state = .timedOutReferred)
      (hcredit : checkedAdd (m.withdrawableCredits (m.agreements id).buyerRefundAddress)
        (m.agreements id).amount = .ok credit)
      (hheld : Held self (b (m.agreements id).batteryId)) :
      Trade self m b
        (((m.closeAgreement id .cancelled .closedCancelled).setCredit
          (m.agreements id).buyerRefundAddress credit).emit
          [.creditCreated id (m.agreements id).buyerRefundAddress (m.agreements id).amount,
            .agreementStateChanged id .cancelled])
        (withLock b (m.agreements id).batteryId 0)
  | cancel (id : Bytes32)
      (hstate : (m.agreements id).state = .awaitingBuyerConfirmation ∨
        (m.agreements id).state = .awaitingFunding)
      (hheld : Held self (b (m.agreements id).batteryId)) :
      Trade self m b
        ((m.closeAgreement id .cancelled .closedCancelled).emit [.agreementStateChanged id .cancelled])
        (withLock b (m.agreements id).batteryId 0)

/-- What calls of others than `self` can do to the batteries: a battery that
`self` holds stays as it is, and none becomes locked by `self`. -/
def Foreign (self : Address) (b b' : Batteries) : Prop :=
  ∀ x, (Held self (b x) → b' x = b x) ∧ ((b' x).marketplaceLock = self → b' x = b x)

theorem foreign_refl (self : Address) (b : Batteries) : Foreign self b b := fun _ => ⟨fun _ => rfl, fun _ => rfl⟩

/-! ### The ownership registry -/

namespace BatteryOwnershipRegistry

variable {r r' : BatteryOwnershipRegistry} {msg : Msg} {batteryId : Bytes32}

theorem lock_ok (h : r.lockForMarketplace msg batteryId = .ok r') :
    ((r.batteries batteryId).marketplaceLock = 0 ∨ (r.batteries batteryId).marketplaceLock = msg.sender) ∧
      r'.batteries = withLock r.batteries batteryId msg.sender := by
  simp only [lockForMarketplace, bind_eq_ok, throwIf_eq_ok, pure_eq_ok] at h
  obtain ⟨_, _, _, _, _, hlock, rfl⟩ := h
  refine ⟨?_, rfl⟩
  by_contra hne
  exact hlock (not_or.mp hne)

theorem unlock_ok (h : r.unlockForMarketplace msg batteryId = .ok r') :
    Held msg.sender (r.batteries batteryId) ∧ r'.batteries = withLock r.batteries batteryId 0 := by
  simp only [unlockForMarketplace, bind_eq_ok, throwIf_eq_ok, pure_eq_ok] at h
  obtain ⟨_, hreg, _, hheld, rfl⟩ := h
  exact ⟨⟨by simpa using hreg, by simpa using (not_or.mp hheld).2⟩, rfl⟩

theorem recordOwnershipTransition_batteries {previousOwner newOwner : Bytes32} {marketplace : Address}
    (h : r.recordOwnershipTransition msg batteryId previousOwner newOwner marketplace = .ok r') :
    r'.batteries = r.batteries := by
  simp only [recordOwnershipTransition, bind_eq_ok, pure_eq_ok] at h
  obtain ⟨_, _, rfl⟩ := h
  rfl

theorem transfer_ok {newOwner : Bytes32} (h : r.transferRecordedOwnership msg batteryId newOwner = .ok r') :
    Held msg.sender (r.batteries batteryId) ∧ r'.batteries = withOwner r.batteries batteryId newOwner := by
  simp only [transferRecordedOwnership, bind_eq_ok, throwIf_eq_ok] at h
  obtain ⟨_, hreg, _, hheld, _, _, h⟩ := h
  refine ⟨⟨by simpa using hreg, by simpa using (not_or.mp hheld).2⟩, ?_⟩
  rw [recordOwnershipTransition_batteries h]
  rfl

theorem recordBattery_ok {owner : Bytes32} (h : r.recordBattery msg batteryId owner = .ok r') :
    r'.batteries = update r.batteries batteryId ⟨owner, 0, true⟩ :=
  recordOwnershipTransition_batteries h

end BatteryOwnershipRegistry

section Others

variable {self : Address} {b : Batteries} {x : Bytes32}

/-- A battery that `self` does not hold may change, but not to be locked by
`self`. -/
theorem foreign_update {battery : Battery} (hheld : ¬Held self (b x)) (hlock : battery.marketplaceLock ≠ self) :
    Foreign self b (update b x battery) := by
  intro y
  by_cases hy : y = x
  · subst hy
    rw [update_self]
    exact ⟨fun h => absurd h hheld, fun h => absurd h hlock⟩
  · rw [update_of_ne hy]
    exact ⟨fun _ => rfl, fun _ => rfl⟩

theorem not_held_of_lock {battery : Battery} (h : battery.marketplaceLock ≠ self) : ¬Held self battery :=
  fun hheld => h hheld.2

theorem not_held_of_unregistered {battery : Battery} (h : ¬battery.registered = true) : ¬Held self battery :=
  fun hheld => h hheld.1

theorem not_held_of_other {other : Address} {battery : Battery} (hne : other ≠ self) (h : Held other battery) :
    ¬Held self battery :=
  fun hheld => hne (h.2.symm.trans hheld.2)

/-- A call of the ownership registry by another than `self`. -/
theorem ownership_foreign {r r' : BatteryOwnershipRegistry} {msg : Msg} (hself : self ≠ 0)
    (hne : msg.sender ≠ self) : ∀ {op : OwnershipOp}, op.exec r msg = .ok r' →
    Foreign self r.batteries r'.batteries := by
  intro op h
  cases op with
  | registerBattery batteryId owner =>
    simp only [OwnershipOp.exec, BatteryOwnershipRegistry.registerBattery, bind_eq_ok, throwIf_eq_ok] at h
    obtain ⟨_, _, _, _, _, hreg, h⟩ := h
    rw [BatteryOwnershipRegistry.recordBattery_ok h]
    exact foreign_update (not_held_of_unregistered hreg) (Ne.symm hself)
  | acceptInitialOwnership proposalId =>
    simp only [OwnershipOp.exec, BatteryOwnershipRegistry.acceptInitialOwnership, bind_eq_ok, throwIf_eq_ok] at h
    obtain ⟨_, _, _, _, _, hreg, h⟩ := h
    rw [BatteryOwnershipRegistry.recordBattery_ok h]
    exact foreign_update (not_held_of_unregistered hreg) (Ne.symm hself)
  | lockForMarketplace batteryId =>
    obtain ⟨hlock, hb⟩ := BatteryOwnershipRegistry.lock_ok h
    rw [hb]
    refine foreign_update (not_held_of_lock ?_) hne
    rcases hlock with hlock | hlock
    · rw [hlock]
      exact Ne.symm hself
    · rw [hlock]
      exact hne
  | transferRecordedOwnership batteryId newOwner =>
    obtain ⟨hheld, hb⟩ := BatteryOwnershipRegistry.transfer_ok h
    rw [hb]
    exact foreign_update (not_held_of_other hne hheld) (Ne.symm hself)
  | unlockForMarketplace batteryId =>
    obtain ⟨hheld, hb⟩ := BatteryOwnershipRegistry.unlock_ok h
    rw [hb]
    exact foreign_update (not_held_of_other hne hheld) (Ne.symm hself)
  | setRegistrar | setMarketplace | proposeInitialOwnership | rejectInitialOwnership | expireInitialOwnership
  | registerComponent | transferOwnership | renounceOwnership =>
    simp only [OwnershipOp.exec, BatteryOwnershipRegistry.setRegistrar, BatteryOwnershipRegistry.setMarketplace,
      BatteryOwnershipRegistry.proposeInitialOwnership, BatteryOwnershipRegistry.rejectInitialOwnership,
      BatteryOwnershipRegistry.expireInitialOwnership, BatteryOwnershipRegistry.registerComponent,
      bind_eq_ok, throwIf_eq_ok, pure_eq_ok] at h
    obtain ⟨_, h⟩ := h
    grind [foreign_refl, BatteryOwnershipRegistry.closeProposal]

end Others

/-! ### The marketplace's functions -/

section Functions

open Marketplace

variable {im : Immutables} {regs regs' : Registries} {m m' : Marketplace} {msg : Msg}

/-- A call that leaves the registries alone trades no battery. -/
theorem keeping_trade {result : Except Revert Marketplace}
    (htrade : ∀ b m', result = .ok m' → Trade im.self m b m' b) (h : keeping regs result = .ok (regs', m')) :
    Trade im.self m regs.ownership.batteries m' regs'.ownership.batteries := by
  simp only [keeping, bind_eq_ok, pure_eq_ok, Prod.mk.injEq] at h
  obtain ⟨_, hresult, rfl, rfl⟩ := h
  exact htrade _ _ hresult

theorem createListing_trade {input : ListingInput} (h : m.createListing im regs msg input = .ok (regs', m')) :
    Trade im.self m regs.ownership.batteries m' regs'.ownership.batteries := by
  simp only [createListing, nonReentrant, requireActiveModule, requireBundle, bind_eq_ok, throwIf_eq_ok,
    pure_eq_ok, Prod.mk.injEq] at h
  obtain ⟨_, _, _, _, _, _, _, _, _, hunset, _, _, _, hbattery, _, hfree, _, _, _, hlock, _, _, rfl, rfl⟩ := h
  obtain ⟨hreg, howner⟩ := not_or.mp hbattery
  rw [(BatteryOwnershipRegistry.lock_ok hlock).2]
  exact .list input.listingId _ (not_not.mp hunset) rfl (by simpa using hreg) (not_not.mp howner)
    (not_not.mp hfree)

theorem withdrawListing_trade {listingId : Bytes32} (h : m.withdrawListing im regs msg listingId = .ok (regs', m')) :
    Trade im.self m regs.ownership.batteries m' regs'.ownership.batteries := by
  simp only [withdrawListing, nonReentrant, bind_eq_ok, throwIf_eq_ok, pure_eq_ok, Prod.mk.injEq] at h
  obtain ⟨_, _, _, hactive, _, _, _, hunlock, rfl, rfl⟩ := h
  obtain ⟨hheld, hb⟩ := BatteryOwnershipRegistry.unlock_ok hunlock
  rw [hb]
  exact .closeListing listingId .withdrawn (.inl rfl) (not_not.mp hactive) hheld

theorem expireListing_trade {listingId : Bytes32} (h : m.expireListing im regs msg listingId = .ok (regs', m')) :
    Trade im.self m regs.ownership.batteries m' regs'.ownership.batteries := by
  simp only [expireListing, nonReentrant, bind_eq_ok, throwIf_eq_ok, pure_eq_ok, Prod.mk.injEq] at h
  obtain ⟨_, _, _, hactive, _, _, _, hunlock, rfl, rfl⟩ := h
  obtain ⟨hheld, hb⟩ := BatteryOwnershipRegistry.unlock_ok hunlock
  rw [hb]
  exact .closeListing listingId .expired (.inr rfl) (not_not.mp hactive) hheld

theorem submitOffer_trade {input : OfferInput} (b : Batteries) (h : m.submitOffer im regs msg input = .ok m') :
    Trade im.self m b m' b := by
  simp only [submitOffer, nonReentrant, requireActiveModule, bind_eq_ok, throwIf_eq_ok, pure_eq_ok] at h
  obtain ⟨_, _, _, _, _, hlisting, _, hidentifiers, _, _, _, hunset, _, _, rfl⟩ := h
  obtain ⟨-, hbuyer, -⟩ := not_or.mp hidentifiers |>.imp_right not_or.mp
  exact .submit input.offerId _ (not_not.mp hunset) rfl (not_not.mp (not_or.mp hlisting).1) hbuyer

theorem withdrawOffer_trade {offerId : Bytes32} (b : Batteries) (h : m.withdrawOffer msg offerId = .ok m') :
    Trade im.self m b m' b := by
  simp only [withdrawOffer, nonReentrant, bind_eq_ok, throwIf_eq_ok, pure_eq_ok] at h
  obtain ⟨_, _, _, hsubmitted, _, _, rfl⟩ := h
  exact .closeOffer offerId .withdrawn (.inl rfl) (not_not.mp hsubmitted)

theorem rejectOffer_trade {offerId : Bytes32} (b : Batteries) (h : m.rejectOffer msg offerId = .ok m') :
    Trade im.self m b m' b := by
  simp only [rejectOffer, nonReentrant, bind_eq_ok, throwIf_eq_ok, pure_eq_ok] at h
  obtain ⟨_, _, _, hstates, _, _, rfl⟩ := h
  exact .closeOffer offerId .rejected (.inr (.inl rfl)) (not_not.mp (not_or.mp hstates).1)

theorem expireOffer_trade {offerId : Bytes32} (b : Batteries) (h : m.expireOffer msg offerId = .ok m') :
    Trade im.self m b m' b := by
  simp only [expireOffer, nonReentrant, bind_eq_ok, throwIf_eq_ok, pure_eq_ok] at h
  obtain ⟨_, _, _, hsubmitted, _, _, rfl⟩ := h
  exact .closeOffer offerId .expired (.inr (.inr rfl)) (not_not.mp hsubmitted)

theorem selectOfferAndCreateAgreement_trade {input : AgreementInput}
    (h : m.selectOfferAndCreateAgreement im regs msg input = .ok (regs', m')) :
    Trade im.self m regs.ownership.batteries m' regs'.ownership.batteries := by
  simp only [selectOfferAndCreateAgreement, nonReentrant, requireActiveModule, requireBundle, bind_eq_ok,
    throwIf_eq_ok, pure_eq_ok, Prod.mk.injEq] at h
  obtain ⟨_, _, _, _, _, hstates, _, _, _, _, _, hunset, _, _, _, _, rfl, rfl⟩ := h
  simp only [not_or, not_not] at hstates
  obtain ⟨hactive, hsubmitted, hlisting, _⟩ := hstates
  exact .select input hactive hsubmitted hlisting (not_not.mp hunset)

theorem confirmAgreement_trade {agreementId digest : Bytes32} (b : Batteries)
    (h : m.confirmAgreement msg agreementId digest = .ok m') : Trade im.self m b m' b := by
  simp only [confirmAgreement, nonReentrant, bind_eq_ok, throwIf_eq_ok, pure_eq_ok] at h
  obtain ⟨_, _, _, hstate, _, _, _, _, rfl⟩ := h
  exact .advance agreementId .awaitingFunding _ m.protectedActions _ (not_not.mp hstate ▸ .confirm)
    (by simp [Quiet, Event.credit, Event.funding, Event.withdrawal])

theorem fundAgreement_trade {agreementId : Bytes32} {value : Uint256} (b : Batteries)
    (h : m.fundAgreement msg agreementId value = .ok m') : Trade im.self m b m' b := by
  simp only [fundAgreement, nonReentrant, bind_eq_ok, throwIf_eq_ok, pure_eq_ok] at h
  obtain ⟨_, _, _, hstate, _, _, _, _, _, hvalue, rfl⟩ := h
  rw [not_not.mp hvalue]
  exact .fund agreementId (not_not.mp hstate)

theorem releaseAndTransfer_trade {agreementId : Bytes32}
    (hstate : (m.agreements agreementId).state = .accepted ∨ (m.agreements agreementId).state = .disputed ∨
      (m.agreements agreementId).state = .timedOutReferred)
    (h : m.releaseAndTransfer im regs msg agreementId = .ok (regs', m')) :
    Trade im.self m regs.ownership.batteries m' regs'.ownership.batteries := by
  simp only [releaseAndTransfer, bind_eq_ok, pure_eq_ok, Prod.mk.injEq] at h
  obtain ⟨credit, hcredit, _, htransfer, rfl, rfl⟩ := h
  obtain ⟨hheld, hb⟩ := BatteryOwnershipRegistry.transfer_ok htransfer
  rw [hb]
  exact .release agreementId credit hstate hcredit hheld

theorem refundAndCancel_trade {agreementId : Bytes32}
    (hstate : (m.agreements agreementId).state = .funded ∨ (m.agreements agreementId).state = .disputed ∨
      (m.agreements agreementId).state = .timedOutReferred)
    (h : m.refundAndCancel im regs msg agreementId = .ok (regs', m')) :
    Trade im.self m regs.ownership.batteries m' regs'.ownership.batteries := by
  simp only [refundAndCancel, bind_eq_ok, pure_eq_ok, Prod.mk.injEq] at h
  obtain ⟨credit, hcredit, _, hunlock, rfl, rfl⟩ := h
  obtain ⟨hheld, hb⟩ := BatteryOwnershipRegistry.unlock_ok hunlock
  rw [hb]
  exact .refund agreementId credit hstate hcredit hheld

theorem cancelUnfundedAgreement_trade {agreementId : Bytes32}
    (h : m.cancelUnfundedAgreement im regs msg agreementId = .ok (regs', m')) :
    Trade im.self m regs.ownership.batteries m' regs'.ownership.batteries := by
  simp only [cancelUnfundedAgreement, cancelWithoutFunds, nonReentrant, bind_eq_ok, throwIf_eq_ok, pure_eq_ok,
    Prod.mk.injEq] at h
  obtain ⟨_, _, _, hstate, _, _, _, hunlock, rfl, rfl⟩ := h
  obtain ⟨hheld, hb⟩ := BatteryOwnershipRegistry.unlock_ok hunlock
  rw [hb]
  refine .cancel agreementId ?_ hheld
  by_contra hne
  exact hstate (not_or.mp hne)

theorem consumeProtectedAction_ok {agreementId bundleType capability : Bytes32} {action : ProtectedAction}
    (h : consumeProtectedAction regs m msg agreementId action bundleType capability = .ok m') :
    m' = m.useAction action.actionId := by
  simp only [consumeProtectedAction, requireBundle, bind_eq_ok, throwIf_eq_ok, pure_eq_ok] at h
  obtain ⟨_, _, _, _, _, _, rfl⟩ := h
  rfl

theorem recordDispatch_trade {agreementId : Bytes32} {action : ProtectedAction} (b : Batteries)
    (h : m.recordDispatch im regs msg agreementId action = .ok m') : Trade im.self m b m' b := by
  simp only [recordDispatch, nonReentrant, bind_eq_ok, throwIf_eq_ok, pure_eq_ok] at h
  obtain ⟨_, _, _, hstate, _, haction, rfl⟩ := h
  rw [consumeProtectedAction_ok haction]
  exact .advance agreementId .inDelivery _ _ _ (not_not.mp (not_or.mp hstate).1 ▸ .dispatch)
    (by simp [Quiet, Event.credit, Event.funding, Event.withdrawal])

theorem recordDelivery_trade {agreementId : Bytes32} {action : ProtectedAction} (b : Batteries)
    (h : m.recordDelivery im regs msg agreementId action = .ok m') : Trade im.self m b m' b := by
  simp only [recordDelivery, nonReentrant, bind_eq_ok, throwIf_eq_ok, pure_eq_ok] at h
  obtain ⟨_, _, _, hstate, _, haction, rfl⟩ := h
  rw [consumeProtectedAction_ok haction]
  exact .advance agreementId .delivered _ _ _ (not_not.mp (not_or.mp hstate).1 ▸ .deliver)
    (by simp [Quiet, Event.credit, Event.funding, Event.withdrawal])

theorem acceptDelivery_trade {agreementId : Bytes32} (b : Batteries)
    (h : m.acceptDelivery im msg agreementId = .ok m') : Trade im.self m b m' b := by
  simp only [acceptDelivery, nonReentrant, bind_eq_ok, throwIf_eq_ok, pure_eq_ok] at h
  obtain ⟨_, _, _, hstate, _, _, _, _, _, _, rfl⟩ := h
  exact .advance agreementId .accepted _ m.protectedActions _ (not_not.mp hstate ▸ .accept)
    (by simp [Quiet, Event.credit, Event.funding, Event.withdrawal])

theorem applyDispatchTimeout_trade {agreementId : Bytes32}
    (h : m.applyDispatchTimeout im regs msg agreementId = .ok (regs', m')) :
    Trade im.self m regs.ownership.batteries m' regs'.ownership.batteries := by
  simp only [applyDispatchTimeout, nonReentrant, bind_eq_ok, throwIf_eq_ok] at h
  obtain ⟨_, _, _, hstate, _, _, h⟩ := h
  exact refundAndCancel_trade (.inl (not_not.mp hstate)) h

/-- Only a delivered agreement can be late for acceptance. -/
theorem acceptanceLate_delivered {agreement : Agreement} (h : acceptanceLate im msg agreement = .ok true) :
    agreement.state = .delivered := by
  unfold acceptanceLate at h
  split_ifs at h with hstate
  · exact hstate
  · simp at h

theorem applyDeliveryOrAcceptanceTimeout_trade {agreementId : Bytes32} (b : Batteries)
    (h : m.applyDeliveryOrAcceptanceTimeout im msg agreementId = .ok m') : Trade im.self m b m' b := by
  simp only [applyDeliveryOrAcceptanceTimeout, nonReentrant, bind_eq_ok, throwIf_eq_ok, pure_eq_ok] at h
  obtain ⟨_, _, late, hlate, _, hdue, rfl⟩ := h
  refine .advance agreementId .timedOutReferred _ m.protectedActions _ (.timeOut ?_)
    (by simp [Quiet, Event.credit, Event.funding, Event.withdrawal])
  rcases late with _ | _
  · by_cases hd : (m.agreements agreementId).state = .inDelivery
    · exact .inl hd
    · exact absurd ⟨decide_eq_false (fun hdelivery => hd hdelivery.1), rfl⟩ hdue
  · exact .inr (acceptanceLate_delivered hlate)

theorem openTransactionDispute_trade {agreementId : Bytes32} {action : ProtectedAction} (b : Batteries)
    (h : m.openTransactionDispute im regs msg agreementId action = .ok m') : Trade im.self m b m' b := by
  simp only [openTransactionDispute, nonReentrant, bind_eq_ok, throwIf_eq_ok, pure_eq_ok] at h
  obtain ⟨_, _, _, hstate, _, _, _, _, _, haction, rfl⟩ := h
  rw [consumeProtectedAction_ok haction]
  refine .advance agreementId .disputed action.actionId _ _ (.dispute ?_)
    (by simp [Quiet, Event.credit, Event.funding, Event.withdrawal])
  by_contra hne
  exact hstate (by simpa only [not_or] using hne)

theorem resolveAgreement_trade {agreementId organizationId credentialId : Bytes32} {resolution : Resolution}
    (h : m.resolveAgreement im regs msg agreementId organizationId credentialId resolution = .ok (regs', m')) :
    Trade im.self m regs.ownership.batteries m' regs'.ownership.batteries := by
  simp only [resolveAgreement, nonReentrant, bind_eq_ok, throwIf_eq_ok] at h
  obtain ⟨_, _, _, hne, _, _, _, _, h⟩ := h
  have hstate : (m.agreements agreementId).state = .disputed ∨
      (m.agreements agreementId).state = .timedOutReferred := by
    by_contra hn
    exact hne (not_or.mp hn)
  cases resolution with
  | releaseAndTransfer => exact releaseAndTransfer_trade (.inr hstate) h
  | refundAndCancel => exact refundAndCancel_trade (.inr hstate) h

theorem settleAccepted_trade {agreementId : Bytes32} (h : m.settleAccepted im regs msg agreementId = .ok (regs', m')) :
    Trade im.self m regs.ownership.batteries m' regs'.ownership.batteries := by
  simp only [settleAccepted, nonReentrant, bind_eq_ok, throwIf_eq_ok] at h
  obtain ⟨_, _, _, hstate, h⟩ := h
  exact releaseAndTransfer_trade (.inl (not_not.mp hstate)) h

/-- A call of a marketplace is a trade. -/
theorem market_trade {op : MarketOp} (h : op.exec im regs m msg = .ok (regs', m')) :
    Trade im.self m regs.ownership.batteries m' regs'.ownership.batteries := by
  cases op with
  | createListing => exact createListing_trade h
  | withdrawListing => exact withdrawListing_trade h
  | expireListing => exact expireListing_trade h
  | selectOfferAndCreateAgreement => exact selectOfferAndCreateAgreement_trade h
  | cancelUnfundedAgreement => exact cancelUnfundedAgreement_trade h
  | applyDispatchTimeout => exact applyDispatchTimeout_trade h
  | resolveAgreement => exact resolveAgreement_trade h
  | settleAccepted => exact settleAccepted_trade h
  | submitOffer => exact keeping_trade (fun b _ => submitOffer_trade b) h
  | withdrawOffer => exact keeping_trade (fun b _ => withdrawOffer_trade b) h
  | rejectOffer => exact keeping_trade (fun b _ => rejectOffer_trade b) h
  | expireOffer => exact keeping_trade (fun b _ => expireOffer_trade b) h
  | confirmAgreement => exact keeping_trade (fun b _ => confirmAgreement_trade b) h
  | fundAgreement => exact keeping_trade (fun b _ => fundAgreement_trade b) h
  | recordDispatch => exact keeping_trade (fun b _ => recordDispatch_trade b) h
  | recordDelivery => exact keeping_trade (fun b _ => recordDelivery_trade b) h
  | acceptDelivery => exact keeping_trade (fun b _ => acceptDelivery_trade b) h
  | applyDeliveryOrAcceptanceTimeout => exact keeping_trade (fun b _ => applyDeliveryOrAcceptanceTimeout_trade b) h
  | openTransactionDispute => exact keeping_trade (fun b _ => openTransactionDispute_trade b) h

/-- A withdrawal clears the credit of its caller and takes it from the balance. -/
theorem withdrawCredits_ok {amount : Uint256} (h : m.withdrawCredits msg = .ok (m', amount)) :
    amount = m.withdrawableCredits msg.sender ∧ amount.toNat ≤ m.balance ∧
      m' = { m.setCredit msg.sender 0 with entered := true, balance := m.balance - amount.toNat } := by
  simp only [withdrawCredits, nonReentrant, bind_eq_ok, throwIf_eq_ok, pure_eq_ok, Prod.mk.injEq] at h
  obtain ⟨_, _, _, _, _, hcovered, rfl, rfl⟩ := h
  exact ⟨rfl, not_lt.mp hcovered, rfl⟩

/-- What a marketplace does to the batteries is foreign to every other. -/
theorem trade_foreign {self other : Address} {b b' : Batteries} (hself : self ≠ 0) (hne : other ≠ self)
    (h : Trade other m b m' b') : Foreign self b b' := by
  cases h with
  | list id l _ _ _ _ hfree =>
    refine foreign_update (not_held_of_lock ?_) hne
    rw [hfree]
    exact Ne.symm hself
  | closeListing id s _ _ hheld => exact foreign_update (not_held_of_other hne hheld) (Ne.symm hself)
  | release id credit _ _ hheld => exact foreign_update (not_held_of_other hne hheld) (Ne.symm hself)
  | refund id credit _ _ hheld => exact foreign_update (not_held_of_other hne hheld) (Ne.symm hself)
  | cancel id _ hheld => exact foreign_update (not_held_of_other hne hheld) (Ne.symm hself)
  | submit | closeOffer | select | advance | fund => exact foreign_refl self b

end Functions

/-! ### The system -/

def Chain.batteries (c : Chain D) : Batteries := c.registries.ownership.batteries

/-- **Every call, as one marketplace sees it**: a trade of its own, or nothing
to its storage and something foreign to the batteries. -/
theorem exec_trade (self : D.Market) {c c' : Chain D} {msg : Msg} {op : Op D} (hsender : msg.sender ≠ self.1)
    (h : exec c msg op = .ok c') :
    Trade self.1 (c.markets self) c.batteries (c'.markets self) c'.batteries ∨
      (c'.markets self = c.markets self ∧ Foreign self.1 c.batteries c'.batteries) := by
  have hself := market_ne_zero self
  cases op with
  | authority op =>
    simp only [exec, bind_eq_ok, pure_eq_ok] at h
    obtain ⟨_, _, rfl⟩ := h
    exact .inr ⟨rfl, foreign_refl _ _⟩
  | bundles op =>
    simp only [exec, bind_eq_ok, pure_eq_ok] at h
    obtain ⟨_, _, rfl⟩ := h
    exact .inr ⟨rfl, foreign_refl _ _⟩
  | deployment op =>
    simp only [exec, bind_eq_ok, pure_eq_ok] at h
    obtain ⟨_, _, rfl⟩ := h
    exact .inr ⟨rfl, foreign_refl _ _⟩
  | ownership op =>
    simp only [exec, bind_eq_ok, pure_eq_ok] at h
    obtain ⟨_, hop, rfl⟩ := h
    exact .inr ⟨rfl, ownership_foreign hself hsender hop⟩
  | market other op =>
    simp only [exec, bind_eq_ok, pure_eq_ok] at h
    obtain ⟨⟨regs, m⟩, hop, rfl⟩ := h
    have htrade := market_trade hop
    by_cases ho : other = self
    · subst ho
      refine .inl ?_
      simpa [Chain.batteries, Deployment.immutables] using htrade
    · refine .inr ⟨update_of_ne (Ne.symm ho) _ _, trade_foreign hself ?_ htrade⟩
      exact fun he => ho (Subtype.ext he)

/-- The payments of the marketplace `self` whose recipients have control. -/
def paying (self : D.Market) (ws : List (Withdrawal D)) : List (Address × Uint256) :=
  (ws.filter fun w => w.self = self).map fun w => (w.recipient, w.amount)

/-- **What trades, foreign changes and withdrawals keep holds in every state of
a marketplace**, with the payments it has under way. -/
theorem trade_rule (self : D.Market) {I : Marketplace → Batteries → List (Address × Uint256) → Prop}
    (htrade : ∀ m b m' b' ps, Trade self.1 m b m' b' → I m b ps → I m' b' ps)
    (hforeign : ∀ m b b' ps, Foreign self.1 b b' → I m b ps → I m b' ps)
    (hpay : ∀ m m' amount b ps msg, m.withdrawCredits msg = .ok (m', amount) → I m b ps →
      I m' b ((msg.sender, amount) :: ps))
    (hpaid : ∀ m b ps recipient amount, I m b ((recipient, amount) :: ps) →
      I (m.creditsWithdrawn recipient amount) b ps)
    (ls : List D.Step) {s : CallState (Chain D) (Withdrawal D)}
    (h : Sound (fun c ws => I (c.markets self) c.batteries (paying self ws)) s.state s.pending) :
    Sound (fun c ws => I (c.markets self) c.batteries (paying self ws))
      (run (machine D).step s ls).state (run (machine D).step s ls).pending := by
  refine sound_run ?_ ?_ ?_ ls h
  · rintro c c' ws ⟨request, op⟩ hc hI
    have hop : exec c request.msg op = .ok c' := toOption_eq_some.mp hc
    rcases exec_trade self (caller_ne_market request.caller self) hop with ht | ⟨hm, hf⟩
    · exact htrade _ _ _ _ _ ht hI
    · rw [hm]
      exact hforeign _ _ _ _ hf hI
  · rintro c c' w ws ⟨request, other⟩ hc hI
    simp only [machine] at hc
    split at hc
    · simp at hc
    · rename_i m amount hw
      obtain ⟨rfl, rfl⟩ := Prod.mk.inj (Option.some.inj hc)
      by_cases ho : other = self
      · subst ho
        simpa [paying, Chain.batteries, Request.msg] using hpay _ _ _ _ _ _ hw hI
      · simpa [paying, Chain.batteries, ho, update_of_ne (Ne.symm ho)] using hI
  · rintro c ⟨other, recipient, amount⟩ ws hI
    by_cases ho : other = self
    · subst ho
      have hI' : I (c.markets other) c.batteries ((recipient, amount) :: paying other ws) := by
        simpa [paying] using hI
      simpa [machine, Chain.batteries] using hpaid _ _ _ _ _ hI'
    · have hI' : I (c.markets self) c.batteries (paying self ws) := by
        simpa [paying, ho] using hI
      simpa [machine, Chain.batteries, update_of_ne (Ne.symm ho)] using hI'

end Contracts
end Evllm
