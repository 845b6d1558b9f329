/-
# Escrow is never stranded

Closing an agreement makes a marketplace call the ownership registry, which
refuses a caller that is not authorised or does not hold the lock, a battery
that is not registered and a new owner that is none; and it adds to a credit,
which must not overflow. In every state that a run can reach none of this
happens while the marketplace is authorised: the battery of an open agreement
is locked by it (`after_locked`), the buyer's organisation was named when the
offer was made (`BuyersNamed`), and a credit and the amount added to it are
both part of the balance (`after_balanced`).

Key definitions: `Closable`, `BuyersNamed`.
Key theorems: `after_closable`, `escrow_never_stranded`.
-/
import Evllm.Contracts.Escrow
import Evllm.Contracts.Locks
import Mathlib.Algebra.Order.BigOperators.Group.Finset

namespace Evllm
namespace Contracts

open Lib Function Marketplace

/-! ### What the calls need -/

theorem checkedAdd_of_lt {w : ℕ} {x y : BitVec w} (h : x.toNat + y.toNat < 2 ^ w) : checkedAdd x y = .ok (x + y) := by
  unfold checkedAdd
  exact if_pos h

/-- All that closing an agreement needs of the registries and the marketplace. -/
structure Closable (im : Immutables) (regs : Registries) (m : Marketplace) (agreement : Agreement) : Prop where
  authorised : regs.ownership.marketplaces im.self = true
  held : Held im.self (regs.ownership.batteries agreement.batteryId)
  buyer : agreement.buyerOrganizationId ≠ 0
  credits : ∀ account, agreement.state.escrowed = true →
    (m.withdrawableCredits account).toNat + agreement.amount.toNat < 2 ^ 256
  transitions : (regs.ownership.ownershipTransitionCount agreement.batteryId).toNat + 1 < 2 ^ 64

variable {im : Immutables} {regs : Registries} {m : Marketplace} (msg : Msg) {agreementId : Bytes32}

theorem unlock_succeeds (h : Closable im regs m (m.agreements agreementId)) :
    ∃ r, regs.ownership.unlockForMarketplace (own im msg) (m.agreements agreementId).batteryId = .ok r := by
  unfold BatteryOwnershipRegistry.unlockForMarketplace
  dsimp only
  rw [throwIf_bind_of_not (by simp [h.held.1]),
    throwIf_bind_of_not (by simp [own, h.authorised, h.held.2])]
  exact ⟨_, rfl⟩

theorem transfer_succeeds (h : Closable im regs m (m.agreements agreementId)) :
    ∃ r, regs.ownership.transferRecordedOwnership (own im msg) (m.agreements agreementId).batteryId
      (m.agreements agreementId).buyerOrganizationId = .ok r := by
  unfold BatteryOwnershipRegistry.transferRecordedOwnership
  dsimp only
  rw [throwIf_bind_of_not (by simp [h.held.1]),
    throwIf_bind_of_not (by simp [own, h.authorised, h.held.2]), throwIf_bind_of_not h.buyer]
  unfold BatteryOwnershipRegistry.recordOwnershipTransition
  dsimp only
  rw [checkedAdd_of_lt h.transitions]
  exact ⟨_, rfl⟩

theorem release_succeeds (h : Closable im regs m (m.agreements agreementId))
    (hescrowed : (m.agreements agreementId).state.escrowed = true) :
    ∃ result, m.releaseAndTransfer im regs msg agreementId = .ok result := by
  obtain ⟨r, hr⟩ := transfer_succeeds msg h
  unfold releaseAndTransfer
  dsimp only
  rw [checkedAdd_of_lt (h.credits _ hescrowed), hr]
  exact ⟨_, rfl⟩

theorem refund_succeeds (h : Closable im regs m (m.agreements agreementId))
    (hescrowed : (m.agreements agreementId).state.escrowed = true) :
    ∃ result, m.refundAndCancel im regs msg agreementId = .ok result := by
  obtain ⟨r, hr⟩ := unlock_succeeds msg h
  unfold refundAndCancel
  dsimp only
  rw [checkedAdd_of_lt (h.credits _ hescrowed), hr]
  exact ⟨_, rfl⟩

theorem cancel_succeeds (h : Closable im regs m (m.agreements agreementId)) :
    ∃ result, m.cancelWithoutFunds im regs msg agreementId = .ok result := by
  obtain ⟨r, hr⟩ := unlock_succeeds msg h
  unfold cancelWithoutFunds
  dsimp only
  rw [hr]
  exact ⟨_, rfl⟩

variable (hguard : ¬m.entered = true)
include hguard

theorem settleAccepted_succeeds (h : Closable im regs m (m.agreements agreementId))
    (hstate : (m.agreements agreementId).state = .accepted) :
    ∃ result, m.settleAccepted im regs msg agreementId = .ok result := by
  unfold settleAccepted nonReentrant
  rw [throwIf_bind_of_not hguard, throwIf_bind_of_not (by simp [hstate])]
  exact release_succeeds msg h (by rw [hstate]; rfl)

theorem applyDispatchTimeout_succeeds (h : Closable im regs m (m.agreements agreementId))
    (hstate : (m.agreements agreementId).state = .funded)
    (hdeadline : (m.agreements agreementId).deliveryDeadline.toNat ≤ msg.timestamp) :
    ∃ result, m.applyDispatchTimeout im regs msg agreementId = .ok result := by
  unfold applyDispatchTimeout nonReentrant
  dsimp only
  rw [throwIf_bind_of_not hguard, throwIf_bind_of_not (by simp [hstate]), throwIf_bind_of_not (by omega)]
  exact refund_succeeds msg h (by rw [hstate]; rfl)

theorem cancelUnfundedAgreement_succeeds (h : Closable im regs m (m.agreements agreementId))
    (hstate : (m.agreements agreementId).state = .awaitingBuyerConfirmation ∨
      (m.agreements agreementId).state = .awaitingFunding)
    (hend : (m.agreements agreementId).confirmationDeadline.toNat ≤ msg.timestamp ∨ isActiveModule im regs = false) :
    ∃ result, m.cancelUnfundedAgreement im regs msg agreementId = .ok result := by
  have hunfunded : ¬((m.agreements agreementId).state ≠ .awaitingBuyerConfirmation ∧
      (m.agreements agreementId).state ≠ .awaitingFunding) := by
    rintro ⟨hne, hne'⟩
    exact hstate.elim hne hne'
  have hended : ¬(msg.timestamp < (m.agreements agreementId).confirmationDeadline.toNat ∧
      isActiveModule im regs = true) := by
    rintro ⟨hlt, hactive⟩
    rcases hend with hle | hinactive
    · omega
    · simp [hinactive] at hactive
  unfold cancelUnfundedAgreement nonReentrant
  dsimp only
  rw [throwIf_bind_of_not hguard, throwIf_bind_of_not hunfunded, throwIf_bind_of_not hended]
  exact cancel_succeeds msg h

theorem resolveAgreement_succeeds (h : Closable im regs m (m.agreements agreementId))
    (hstate : (m.agreements agreementId).state = .disputed ∨ (m.agreements agreementId).state = .timedOutReferred)
    {organizationId credentialId : Bytes32} (resolution : Resolution)
    (hauthorized : authorized regs msg credentialId organizationId (resolveCapability im.crypto) agreementId = true)
    (hbuyer : msg.sender ≠ (m.agreements agreementId).buyer)
    (hseller : msg.sender ≠ (m.agreements agreementId).seller) :
    ∃ result, m.resolveAgreement im regs msg agreementId organizationId credentialId resolution = .ok result := by
  have hescrowed : (m.agreements agreementId).state.escrowed = true := by
    rcases hstate with hs | hs <;> rw [hs] <;> rfl
  have hreferred : ¬((m.agreements agreementId).state ≠ .disputed ∧
      (m.agreements agreementId).state ≠ .timedOutReferred) := by
    rintro ⟨hne, hne'⟩
    exact hstate.elim hne hne'
  unfold resolveAgreement nonReentrant
  dsimp only
  rw [throwIf_bind_of_not hguard, throwIf_bind_of_not hreferred, throwIf_bind_of_not (by simp [hauthorized]),
    throwIf_bind_of_not (not_or.mpr ⟨hbuyer, hseller⟩)]
  cases resolution with
  | releaseAndTransfer => exact release_succeeds msg h hescrowed
  | refundAndCancel => exact refund_succeeds msg h hescrowed

omit hguard

/-! ### What every run keeps -/

/-- Every offer names the organisation of its buyer. -/
def BuyersNamed (m : Marketplace) : Prop :=
  ∀ offerId, (m.offers offerId).state ≠ .unset → (m.offers offerId).buyerOrganizationId ≠ 0

theorem buyersNamed_of_offer {m' : Marketplace} (offerId : Bytes32) (o : Offer) (hbuyer : o.buyerOrganizationId ≠ 0)
    (hoffers : m'.offers = update m.offers offerId o) (hm : BuyersNamed m) : BuyersNamed m' := by
  intro x hx
  rw [hoffers] at hx ⊢
  by_cases hid : x = offerId
  · rw [hid, update_self]
    exact hbuyer
  · rw [update_of_ne hid] at hx ⊢
    exact hm x hx

theorem trade_buyersNamed {self : Address} {m' : Marketplace} {b b' : Batteries} (h : Trade self m b m' b')
    (hm : BuyersNamed m) : BuyersNamed m' := by
  cases h with
  | submit id o _ _ _ hbuyer => exact buyersNamed_of_offer (m := m) id o hbuyer rfl hm
  | closeOffer id s _ hsubmitted =>
    exact buyersNamed_of_offer (m := m) id { m.offers id with state := s } (hm id (by simp [hsubmitted])) rfl hm
  | select input _ hsubmitted =>
    exact buyersNamed_of_offer (m := m) input.offerId { m.offers input.offerId with state := .accepted }
      (hm input.offerId (by simp [hsubmitted])) rfl hm
  | list | closeListing | advance | fund | release | refund | cancel => exact hm

theorem trade_entered {self : Address} {m' : Marketplace} {b b' : Batteries} (h : Trade self m b m' b') :
    m'.entered = m.entered := by
  cases h <;> rfl

variable {D : Deployment}

theorem after_buyersNamed (self : D.Market) (ls : List D.Step) : BuyersNamed ((after D ls).state.markets self) :=
  (records_rule self (I := BuyersNamed)
    (fun m m' _ hoffers _ hm => by unfold BuyersNamed; rw [hoffers]; exact hm)
    (fun _ _ _ _ => trade_buyersNamed) ls (s := ⟨Chain.deployed D, []⟩) fun _ hset => absurd rfl hset).now

theorem after_balanced (self : D.Market) (ls : List D.Step) : Balanced ((after D ls).state.markets self) :=
  (trade_rule self (I := fun m _ _ => Balanced m) (fun _ _ _ _ _ => trade_balanced) (fun _ _ _ _ _ hm => hm)
    (fun _ _ _ _ _ _ => withdrawCredits_balanced)
    (fun m _ _ _ _ hm => balanced_of_same (m := m) rfl rfl rfl hm) ls (s := ⟨Chain.deployed D, []⟩)
    deployed_balanced).now

/-- The reentrancy guard is set only while a withdrawal is under way. -/
theorem after_entered (self : D.Market) (ls : List D.Step)
    (hidle : paying self ((after D ls).pending.map Pending.frame) = []) :
    ((after D ls).state.markets self).entered = false := by
  have h := trade_rule self (I := fun m _ ps => m.entered = true → ps ≠ [])
    (fun _ _ _ _ _ ht hm => by rw [trade_entered ht]; exact hm) (fun _ _ _ _ _ hm => hm)
    (fun _ _ _ _ _ _ _ _ _ => List.cons_ne_nil _ _) (fun _ _ _ _ _ _ hset => by cases hset) ls
    (s := ⟨Chain.deployed D, []⟩) fun hset => by cases hset
  by_contra hset
  have hentered : ((after D ls).state.markets self).entered = true := by simpa using hset
  exact h.now hentered hidle

/-- A credit and an amount in escrow are both in the balance. -/
theorem credit_add_amount_le (h : Balanced m) (account : Address)
    (hescrowed : (m.agreements agreementId).state.escrowed = true) :
    (m.withdrawableCredits account).toNat + (m.agreements agreementId).amount.toNat ≤ m.balance := by
  have hcredit : (m.withdrawableCredits account).toNat ≤ m.creditTotal :=
    Finset.single_le_sum (f := fun x => (m.withdrawableCredits x).toNat) (fun _ _ => Nat.zero_le _) (Finset.mem_univ account)
  have hescrow : escrow (m.agreements agreementId) ≤ m.escrowTotal :=
    Finset.single_le_sum (f := fun x => escrow (m.agreements x)) (fun _ _ => Nat.zero_le _) (Finset.mem_univ agreementId)
  rw [escrow_of_escrowed hescrowed] at hescrow
  unfold Balanced at h
  omega

/-- **An open agreement can be closed**, in every state of every run in which
the marketplace is authorised. -/
theorem after_closable (self : D.Market) (ls : List D.Step)
    (hauthorised : (after D ls).state.registries.ownership.marketplaces self.1 = true)
    (hbalance : ((after D ls).state.markets self).balance < 2 ^ 256)
    {agreementId : Bytes32} (hset : (((after D ls).state.markets self).agreements agreementId).isSet)
    (hopen : (((after D ls).state.markets self).agreements agreementId).state.listingState = .matched)
    (htransitions : ((after D ls).state.registries.ownership.ownershipTransitionCount
      (((after D ls).state.markets self).agreements agreementId).batteryId).toNat < 2 ^ 64 - 1) :
    Closable (D.immutables self) (after D ls).state.registries ((after D ls).state.markets self)
      (((after D ls).state.markets self).agreements agreementId) := by
  have hagrees := (after_coherent D self ls).agrees agreementId hset
  have hlive : (((after D ls).state.markets self).listings
      (((after D ls).state.markets self).agreements agreementId).listingId).state.live :=
    .inr (hagrees.listingState.trans hopen)
  refine ⟨hauthorised, ?_, ?_, fun account hescrowed => ?_, ?_⟩
  · rw [hagrees.batteryId]
    exact (after_locked D self ls).held _ hlive
  · rw [hagrees.buyerOrganizationId]
    refine after_buyersNamed self ls _ ?_
    rw [hagrees.offerState]
    simp
  · have hle := credit_add_amount_le (after_balanced self ls) account hescrowed
    omega
  · omega

/-- A call of a marketplace completes where its function does. -/
theorem market_completes {c : Chain D} {self : D.Market} {msg : Msg} {op : MarketOp}
    (h : ∃ result, op.exec (D.immutables self) c.registries (c.markets self) msg = .ok result) :
    ∃ c', exec c msg (.market self op) = .ok c' := by
  obtain ⟨⟨regs, m⟩, hresult⟩ := h
  refine ⟨{ registries := regs, markets := update c.markets self m }, ?_⟩
  unfold exec
  dsimp only
  rw [hresult]
  rfl

/-- **Escrow is never stranded**: after every run, while the marketplace is
authorised and no withdrawal of it is under way, each open agreement can be
closed by the call that is meant for its state, whoever makes it and whether or
not the marketplace is still the active module. A balance is a word, and no
battery has had `2 ^ 64 - 1` owners. -/
theorem escrow_never_stranded (D : Deployment) (self : D.Market) (ls : List D.Step)
    (hauthorised : (after D ls).state.registries.ownership.marketplaces self.1 = true)
    (hidle : paying self ((after D ls).pending.map Pending.frame) = [])
    (hbalance : ((after D ls).state.markets self).balance < 2 ^ 256) (agreementId : Bytes32)
    (htransitions : ((after D ls).state.registries.ownership.ownershipTransitionCount
      (((after D ls).state.markets self).agreements agreementId).batteryId).toNat < 2 ^ 64 - 1) (msg : Msg) :
    let c := (after D ls).state
    let agreement := (c.markets self).agreements agreementId
    (agreement.state = .accepted → ∃ c', exec c msg (.market self (.settleAccepted agreementId)) = .ok c') ∧
    (agreement.state = .funded → agreement.deliveryDeadline.toNat ≤ msg.timestamp →
      ∃ c', exec c msg (.market self (.applyDispatchTimeout agreementId)) = .ok c') ∧
    (agreement.state = .awaitingBuyerConfirmation ∨ agreement.state = .awaitingFunding →
      agreement.confirmationDeadline.toNat ≤ msg.timestamp ∨
        isActiveModule (D.immutables self) c.registries = false →
      ∃ c', exec c msg (.market self (.cancelUnfundedAgreement agreementId)) = .ok c') ∧
    (agreement.state = .disputed ∨ agreement.state = .timedOutReferred →
      ∀ organizationId credentialId resolution,
        authorized c.registries msg credentialId organizationId (resolveCapability D.crypto) agreementId = true →
        msg.sender ≠ agreement.buyer → msg.sender ≠ agreement.seller →
        ∃ c', exec c msg
          (.market self (.resolveAgreement agreementId organizationId credentialId resolution)) = .ok c') := by
  intro c agreement
  have hguard : ¬(c.markets self).entered = true := by simp [c, after_entered self ls hidle]
  have hclosable : agreement.state.listingState = .matched → agreement.isSet →
      Closable (D.immutables self) c.registries (c.markets self) agreement :=
    fun hopen hset => after_closable self ls hauthorised hbalance hset hopen htransitions
  refine ⟨?_, ?_, ?_, ?_⟩
  · intro hstate
    have hclose := hclosable (by rw [hstate]; rfl) (by simp [Agreement.isSet, hstate])
    exact market_completes (settleAccepted_succeeds msg hguard hclose hstate)
  · intro hstate hdeadline
    have hclose := hclosable (by rw [hstate]; rfl) (by simp [Agreement.isSet, hstate])
    exact market_completes (applyDispatchTimeout_succeeds msg hguard hclose hstate hdeadline)
  · intro hstate hend
    have hclose := hclosable (by rcases hstate with hs | hs <;> rw [hs] <;> rfl)
      (by rcases hstate with hs | hs <;> simp [Agreement.isSet, hs])
    exact market_completes (cancelUnfundedAgreement_succeeds msg hguard hclose hstate hend)
  · intro hstate organizationId credentialId resolution hauthorized hbuyer hseller
    have hclose := hclosable (by rcases hstate with hs | hs <;> rw [hs] <;> rfl)
      (by rcases hstate with hs | hs <;> simp [Agreement.isSet, hs])
    exact market_completes
      (resolveAgreement_succeeds msg hguard hclose hstate resolution hauthorized hbuyer hseller)

namespace Sample

theorem funded_reached : (after deployment funded).state.registries.ownership.marketplaces market.1 = true ∧
    paying market ((after deployment funded).pending.map Pending.frame) = [] ∧
    ((after deployment funded).state.markets market).balance = 90 ∧
    (((after deployment funded).state.markets market).agreements 32).batteryId = 5 ∧
    (after deployment funded).state.registries.ownership.ownershipTransitionCount 5 = 1 ∧
    (((after deployment funded).state.markets market).agreements 32).state = .funded ∧
    (((after deployment funded).state.markets market).agreements 32).deliveryDeadline = 30 := by
  decide +kernel

end Sample

open Sample in
/-- Here at the deadline a stranger's call refunds the buyer. -/
theorem escrow_never_stranded_funded : ∃ c', exec (after deployment funded).state ⟨77, 30⟩
    (.market market (.applyDispatchTimeout 32)) = .ok c' := by
  obtain ⟨hauthorised, hidle, hbalance, hbattery, htransitions, hstate, hdeadline⟩ := funded_reached
  have hclosed := escrow_never_stranded deployment market funded hauthorised hidle (by rw [hbalance]; decide) 32
    (by rw [hbattery, htransitions]; decide) ⟨77, 30⟩
  exact hclosed.2.1 hstate (by rw [hdeadline]; decide)

end Contracts
end Evllm
