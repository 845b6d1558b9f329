/-
# Escrow conservation

The balance of a marketplace is what it owes: the credits of all accounts and
the amounts of the agreements that are paid for and not closed. An agreement
that was paid for is credited once, when it closes, and one that was not is
never credited.
-/
import Evllm.Contracts.Trade
import Mathlib.Algebra.BigOperators.Group.Finset.Basic
import Mathlib.Data.FinEnum

namespace Evllm
namespace Contracts

open Lib Function

variable {D : Deployment}

/-! ### What is owed -/

/-- The agreement's amount is held by the marketplace. -/
def AgreementState.escrowed : AgreementState → Bool
  | .funded | .inDelivery | .delivered | .accepted | .disputed | .timedOutReferred => true
  | .unset | .awaitingBuyerConfirmation | .awaitingFunding | .settled | .cancelled => false

def escrow (agreement : Agreement) : ℕ :=
  if agreement.state.escrowed then agreement.amount.toNat else 0

namespace Marketplace

def escrowTotal (m : Marketplace) : ℕ := ∑ agreementId, escrow (m.agreements agreementId)

def creditTotal (m : Marketplace) : ℕ := ∑ account, (m.withdrawableCredits account).toNat

end Marketplace

/-- The credits recorded in a log: the agreement, the recipient and the amount
of each. -/
def creditsIn (log : List Event) : List (Bytes32 × Address × Uint256) := log.filterMap Event.credit

/-- The credits given for one agreement. -/
def creditsFor (log : List Event) (agreementId : Bytes32) : List (Address × Uint256) :=
  ((creditsIn log).filter fun credit => credit.1 = agreementId).map Prod.snd

/-- How often an agreement was paid for. -/
def fundings (log : List Event) (agreementId : Bytes32) : ℕ := (log.filterMap Event.funding).count agreementId

def withdrawals (log : List Event) : List (Address × Uint256) := log.filterMap Event.withdrawal

/-- What a list of payments pays to one account. -/
def paidTo (account : Address) (payments : List (Address × Uint256)) : ℕ :=
  ((payments.filter fun payment => payment.1 = account).map fun payment => payment.2.toNat).sum

/-- How often an agreement was paid for, and what was credited for it, in each
of its states. -/
def Accounted (agreement : Agreement) (fundings : ℕ) (credits : List (Address × Uint256)) : Prop :=
  match agreement.state with
  | .unset | .awaitingBuyerConfirmation | .awaitingFunding => fundings = 0 ∧ credits = []
  | .funded | .inDelivery | .delivered | .accepted | .disputed | .timedOutReferred =>
    fundings = 1 ∧ credits = []
  | .settled => fundings = 1 ∧ credits = [(agreement.sellerPayoutAddress, agreement.amount)]
  | .cancelled =>
    (fundings = 1 ∧ credits = [(agreement.buyerRefundAddress, agreement.amount)]) ∨
      (fundings = 0 ∧ credits = [])

/-! ### Sums over a mapping -/

theorem sum_update {ι α : Type*} [Fintype ι] [DecidableEq ι] (g : α → ℕ) (f : ι → α) (i : ι) (v : α) :
    ∑ x, g (update f i v x) + g (f i) = ∑ x, g (f x) + g v := by
  have hnew := Finset.add_sum_erase Finset.univ (fun x => g (update f i v x)) (Finset.mem_univ i)
  have hold := Finset.add_sum_erase Finset.univ (fun x => g (f x)) (Finset.mem_univ i)
  have hrest : ∑ x ∈ Finset.univ.erase i, g (update f i v x) = ∑ x ∈ Finset.univ.erase i, g (f x) :=
    Finset.sum_congr rfl fun x hx => by rw [update_of_ne (Finset.ne_of_mem_erase hx)]
  simp only [update_self] at hnew
  omega

theorem escrow_of_escrowed {a : Agreement} (h : a.state.escrowed = true) : escrow a = a.amount.toNat := if_pos h

theorem escrow_of_not_escrowed {a : Agreement} (h : a.state.escrowed = false) : escrow a = 0 := by
  simp [escrow, h]

/-- An agreement that moves on is confirmed, or stays paid for. -/
theorem advance_cases {s s' : AgreementState} (h : Advance s s') :
    (s = .awaitingBuyerConfirmation ∧ s' = .awaitingFunding) ∨ (s.escrowed = true ∧ s'.escrowed = true) := by
  cases h with
  | confirm => exact .inl ⟨rfl, rfl⟩
  | timeOut hs => rcases hs with rfl | rfl <;> exact .inr ⟨rfl, rfl⟩
  | dispute hs => rcases hs with rfl | rfl | rfl <;> exact .inr ⟨rfl, rfl⟩
  | dispatch | deliver | accept => exact .inr ⟨rfl, rfl⟩

/-! ### The balance -/

def Balanced (m : Marketplace) : Prop := m.balance = m.creditTotal + m.escrowTotal

theorem deployed_balanced : Balanced .deployed := by
  simp [Balanced, Marketplace.creditTotal, Marketplace.escrowTotal, Marketplace.deployed, escrow,
    AgreementState.escrowed]

section Balance

variable {m m' : Marketplace}

theorem balanced_of_same (hagreements : m'.agreements = m.agreements)
    (hcredits : m'.withdrawableCredits = m.withdrawableCredits) (hbalance : m'.balance = m.balance)
    (hm : Balanced m) : Balanced m' := by
  unfold Balanced Marketplace.creditTotal Marketplace.escrowTotal at hm ⊢
  rw [hagreements, hcredits, hbalance]
  exact hm

/-- One agreement changes, and the balance by what it holds. -/
theorem balanced_of_agreement (id : Bytes32) (a : Agreement)
    (hagreements : m'.agreements = update m.agreements id a)
    (hcredits : m'.withdrawableCredits = m.withdrawableCredits)
    (hbalance : m'.balance + escrow (m.agreements id) = m.balance + escrow a)
    (hm : Balanced m) : Balanced m' := by
  unfold Balanced Marketplace.creditTotal Marketplace.escrowTotal at hm ⊢
  have hsum := sum_update escrow m.agreements id a
  rw [hagreements, hcredits]
  omega

/-- What an agreement holds becomes a credit. -/
theorem balanced_of_credit (id : Bytes32) (a : Agreement) (account : Address) (credit : Uint256)
    (hagreements : m'.agreements = update m.agreements id a)
    (hcredits : m'.withdrawableCredits = update m.withdrawableCredits account credit)
    (hbalance : m'.balance = m.balance)
    (hmoved : escrow a + credit.toNat = escrow (m.agreements id) + (m.withdrawableCredits account).toNat)
    (hm : Balanced m) : Balanced m' := by
  unfold Balanced Marketplace.creditTotal Marketplace.escrowTotal at hm ⊢
  have hescrow := sum_update escrow m.agreements id a
  have hcredit := sum_update BitVec.toNat m.withdrawableCredits account credit
  rw [hagreements, hcredits, hbalance]
  omega

/-- A paid agreement that closes moves its amount. -/
theorem closed_moves {id : Bytes32} {s : AgreementState} {account : Address} {credit : Uint256}
    (hs : s.escrowed = false) (hold : (m.agreements id).state.escrowed = true)
    (hcredit : checkedAdd (m.withdrawableCredits account) (m.agreements id).amount = .ok credit) :
    escrow { m.agreements id with state := s } + credit.toNat =
      escrow (m.agreements id) + (m.withdrawableCredits account).toNat := by
  rw [escrow_of_not_escrowed hs, escrow_of_escrowed hold, checkedAdd_eq_ok hcredit]
  omega

theorem trade_balanced {self : Address} {b b' : Batteries} (h : Trade self m b m' b') (hm : Balanced m) :
    Balanced m' := by
  cases h with
  | list | closeListing | submit | closeOffer => exact balanced_of_same (m := m) rfl rfl rfl hm
  | select input _ _ _ hunset =>
    refine balanced_of_agreement (m := m) input.agreementId _ rfl rfl ?_ hm
    rw [escrow_of_not_escrowed (show (m.agreements input.agreementId).state.escrowed = false by rw [hunset]; rfl),
      escrow_of_not_escrowed rfl]
    rfl
  | advance id s disputeId actions events hs _ =>
    refine balanced_of_agreement (m := m) id _ rfl rfl ?_ hm
    unfold escrow
    rcases advance_cases hs with ⟨hold, rfl⟩ | ⟨hold, hnew⟩
    · rw [hold]
      rfl
    · rw [hold, hnew]
      rfl
  | fund id hstate =>
    refine balanced_of_agreement (m := m) id _ rfl rfl ?_ hm
    rw [escrow_of_not_escrowed (show (m.agreements id).state.escrowed = false by rw [hstate]; rfl),
      escrow_of_escrowed rfl]
    rfl
  | release id credit hstate hcredit _ =>
    refine balanced_of_credit (m := m) id _ _ credit rfl rfl rfl (closed_moves rfl ?_ hcredit) hm
    rcases hstate with hs | hs | hs <;> rw [hs] <;> rfl
  | refund id credit hstate hcredit _ =>
    refine balanced_of_credit (m := m) id _ _ credit rfl rfl rfl (closed_moves rfl ?_ hcredit) hm
    rcases hstate with hs | hs | hs <;> rw [hs] <;> rfl
  | cancel id hstate _ =>
    refine balanced_of_agreement (m := m) id _ rfl rfl ?_ hm
    have hunpaid : (m.agreements id).state.escrowed = false := by
      rcases hstate with hs | hs <;> rw [hs] <;> rfl
    rw [escrow_of_not_escrowed hunpaid, escrow_of_not_escrowed rfl]
    rfl

/-- A payment leaves the balance with the credit it clears. -/
theorem withdrawCredits_balanced {msg : Msg} {amount : Uint256} (h : m.withdrawCredits msg = .ok (m', amount))
    (hm : Balanced m) : Balanced m' := by
  obtain ⟨rfl, hcovered, rfl⟩ := withdrawCredits_ok h
  unfold Balanced Marketplace.creditTotal Marketplace.escrowTotal at hm ⊢
  have hcredit := sum_update BitVec.toNat m.withdrawableCredits msg.sender 0
  have hzero : BitVec.toNat (0 : Uint256) = 0 := rfl
  simp only [Marketplace.setCredit_withdrawableCredits, Marketplace.setCredit_agreements, hzero] at hcredit ⊢
  omega

end Balance

/-! ### Payments and credits of an agreement -/

@[simp] theorem creditsFor_append (log events : List Event) (id : Bytes32) :
    creditsFor (log ++ events) id = creditsFor log id ++ creditsFor events id := by
  simp [creditsFor, creditsIn]

@[simp] theorem fundings_append (log events : List Event) (id : Bytes32) :
    fundings (log ++ events) id = fundings log id + fundings events id := by
  simp [fundings]

/-- Events that record no credit and no payment for an agreement. -/
def Silent (events : List Event) (id : Bytes32) : Prop := creditsFor events id = [] ∧ fundings events id = 0

theorem quiet_silent {events : List Event} (h : Quiet events) (id : Bytes32) : Silent events id := by
  have hcredit : creditsIn events = [] := List.filterMap_eq_nil_iff.mpr fun e he => (h e he).1
  have hfunding : events.filterMap Event.funding = [] := List.filterMap_eq_nil_iff.mpr fun e he => (h e he).2.1
  exact ⟨by simp [creditsFor, hcredit], by simp [fundings, hfunding]⟩

def AllAccounted (m : Marketplace) : Prop :=
  ∀ id, Accounted (m.agreements id) (fundings m.log id) (creditsFor m.log id)

theorem deployed_accounted : AllAccounted .deployed := fun _ => ⟨rfl, rfl⟩

section Accounts

variable {m m' : Marketplace}

theorem accounted_of_same (events : List Event) (hagreements : m'.agreements = m.agreements)
    (hlog : m'.log = m.log ++ events) (hquiet : Quiet events) (hm : AllAccounted m) : AllAccounted m' := by
  intro id
  obtain ⟨hc, hf⟩ := quiet_silent hquiet id
  rw [hagreements, hlog, creditsFor_append, fundings_append, hc, hf, List.append_nil, Nat.add_zero]
  exact hm id

/-- One agreement changes, with events about it alone. -/
theorem accounted_of_agreement (id : Bytes32) (a : Agreement) (events : List Event)
    (hagreements : m'.agreements = update m.agreements id a) (hlog : m'.log = m.log ++ events)
    (hother : ∀ id', id' ≠ id → Silent events id')
    (hself : Accounted a (fundings m.log id + fundings events id) (creditsFor m.log id ++ creditsFor events id))
    (hm : AllAccounted m) : AllAccounted m' := by
  intro id'
  rw [hagreements, hlog, creditsFor_append, fundings_append]
  by_cases hid : id' = id
  · subst hid
    rw [update_self]
    exact hself
  · obtain ⟨hc, hf⟩ := hother id' hid
    rw [update_of_ne hid, hc, hf, List.append_nil, Nat.add_zero]
    exact hm id'

/-- The payments and credits so far, by whether the agreement holds money. -/
theorem accounted_of_escrowed {a : Agreement} {n : ℕ} {cs : List (Address × Uint256)}
    (hs : a.state.escrowed = true) : Accounted a n cs ↔ n = 1 ∧ cs = [] := by
  unfold Accounted
  cases h : a.state <;> simp_all [AgreementState.escrowed]

theorem accounted_of_open {a : Agreement} {n : ℕ} {cs : List (Address × Uint256)}
    (hs : a.state = .unset ∨ a.state = .awaitingBuyerConfirmation ∨ a.state = .awaitingFunding) :
    Accounted a n cs ↔ n = 0 ∧ cs = [] := by
  unfold Accounted
  rcases hs with hs | hs | hs <;> rw [hs]

theorem advance_accounted {id : Bytes32} {s : AgreementState} {disputeId : Bytes32} {n : ℕ}
    {cs : List (Address × Uint256)} (hs : Advance (m.agreements id).state s)
    (h : Accounted (m.agreements id) n cs) :
    Accounted { m.agreements id with state := s, disputeId := disputeId } n cs := by
  rcases advance_cases hs with ⟨hold, rfl⟩ | ⟨hold, hnew⟩
  · exact (accounted_of_open (.inr (.inr rfl))).mpr ((accounted_of_open (.inr (.inl hold))).mp h)
  · exact (accounted_of_escrowed hnew).mpr ((accounted_of_escrowed hold).mp h)

/-- The events of an agreement that closes with a credit. -/
theorem creditsFor_closing (id id' : Bytes32) (recipient : Address) (amount : Uint256) (s : AgreementState) :
    creditsFor [.creditCreated id recipient amount, .agreementStateChanged id s] id' =
      if id = id' then [(recipient, amount)] else [] := by
  by_cases h : id = id' <;> simp [creditsFor, creditsIn, Event.credit, h]

theorem fundings_closing (id id' : Bytes32) (recipient : Address) (amount : Uint256) {s : AgreementState}
    (hs : s.escrowed = false) :
    fundings [.creditCreated id recipient amount, .agreementStateChanged id s] id' = 0 := by
  cases s <;> first | rfl | simp [AgreementState.escrowed] at hs

/-- A paid agreement closes with one credit. -/
theorem accounted_of_closing (id : Bytes32) (s : AgreementState) (recipient : Address)
    (hold : (m.agreements id).state.escrowed = true) (hs : s.escrowed = false)
    (hagreements : m'.agreements = update m.agreements id { m.agreements id with state := s })
    (hlog : m'.log = m.log ++
      [.creditCreated id recipient (m.agreements id).amount, .agreementStateChanged id s])
    (hnew : Accounted { m.agreements id with state := s } 1 [(recipient, (m.agreements id).amount)])
    (hm : AllAccounted m) : AllAccounted m' := by
  refine accounted_of_agreement (m := m) id _ _ hagreements hlog ?_ ?_ hm
  · intro id' hid
    exact ⟨by rw [creditsFor_closing, if_neg (Ne.symm hid)], fundings_closing id id' _ _ hs⟩
  · obtain ⟨hf, hc⟩ := (accounted_of_escrowed hold).mp (hm id)
    rw [hf, hc, creditsFor_closing, if_pos rfl, fundings_closing id id _ _ hs]
    exact hnew

theorem trade_accounted {self : Address} {b b' : Batteries} (h : Trade self m b m' b') (hm : AllAccounted m) :
    AllAccounted m' := by
  cases h with
  | list | closeListing | submit | closeOffer =>
    refine accounted_of_same (m := m) _ rfl rfl ?_ hm
    simp [Quiet, Event.credit, Event.funding, Event.withdrawal]
  | select input _ _ _ hunset =>
    refine accounted_of_agreement (m := m) input.agreementId _ _ rfl rfl ?_ ?_ hm
    · intro id _
      exact quiet_silent (by simp [Quiet, Event.credit, Event.funding, Event.withdrawal]) id
    · obtain ⟨hf, hc⟩ := (accounted_of_open (.inl hunset)).mp (hm input.agreementId)
      rw [hf, hc]
      exact ⟨rfl, rfl⟩
  | advance id s disputeId actions events hs hquiet =>
    obtain ⟨hc, hf⟩ := quiet_silent hquiet id
    refine accounted_of_agreement (m := m) id _ events rfl rfl (fun id' _ => quiet_silent hquiet id') ?_ hm
    rw [hc, hf, List.append_nil, Nat.add_zero]
    exact advance_accounted hs (hm id)
  | fund id hstate =>
    refine accounted_of_agreement (m := m) id _ _ rfl rfl ?_ ?_ hm
    · intro id' hid
      simp [Silent, creditsFor, creditsIn, fundings, Event.credit, Event.funding, Ne.symm hid]
    · obtain ⟨hf, hc⟩ := (accounted_of_open (.inr (.inr hstate))).mp (hm id)
      rw [hf, hc]
      simp [Accounted, creditsFor, creditsIn, fundings, Event.credit, Event.funding]
  | release id credit hstate _ _ =>
    refine accounted_of_closing (m := m) id .settled _ ?_ rfl rfl rfl ⟨rfl, rfl⟩ hm
    rcases hstate with hs | hs | hs <;> rw [hs] <;> rfl
  | refund id credit hstate _ _ =>
    refine accounted_of_closing (m := m) id .cancelled _ ?_ rfl rfl rfl (.inl ⟨rfl, rfl⟩) hm
    rcases hstate with hs | hs | hs <;> rw [hs] <;> rfl
  | cancel id hstate _ =>
    refine accounted_of_agreement (m := m) id _ _ rfl rfl ?_ ?_ hm
    · intro id' _
      exact quiet_silent (by simp [Quiet, Event.credit, Event.funding, Event.withdrawal]) id'
    · obtain ⟨hf, hc⟩ := (accounted_of_open (.inr hstate)).mp (hm id)
      rw [hf, hc]
      exact .inr ⟨rfl, rfl⟩

theorem withdrawCredits_accounted {msg : Msg} {amount : Uint256} (h : m.withdrawCredits msg = .ok (m', amount))
    (hm : AllAccounted m) : AllAccounted m' := by
  obtain ⟨rfl, _, rfl⟩ := withdrawCredits_ok h
  exact hm

theorem creditsWithdrawn_accounted {recipient : Address} {amount : Uint256} (hm : AllAccounted m) :
    AllAccounted (m.creditsWithdrawn recipient amount) := by
  intro id
  have hsilent : Silent [.creditWithdrawn recipient amount] id := ⟨rfl, rfl⟩
  rw [Marketplace.creditsWithdrawn_agreements, Marketplace.creditsWithdrawn_log, creditsFor_append,
    fundings_append, hsilent.1, hsilent.2, List.append_nil, Nat.add_zero]
  exact hm id

end Accounts

/-! ### The ledger of an account -/

@[simp] theorem paidTo_append (account : Address) (ps qs : List (Address × Uint256)) :
    paidTo account (ps ++ qs) = paidTo account ps + paidTo account qs := by
  simp [paidTo]

@[simp] theorem paidTo_cons (account recipient : Address) (amount : Uint256) (ps : List (Address × Uint256)) :
    paidTo account ((recipient, amount) :: ps) =
      (if recipient = account then amount.toNat else 0) + paidTo account ps := by
  unfold paidTo
  split_ifs with h <;> simp [h]

@[simp] theorem paidTo_nil (account : Address) : paidTo account [] = 0 := rfl

/-- What an account was credited is what it may still withdraw, what it has
withdrawn, and what is on its way. -/
def Settled (m : Marketplace) (underWay : List (Address × Uint256)) : Prop :=
  ∀ account, (m.withdrawableCredits account).toNat + paidTo account (withdrawals m.log) +
    paidTo account underWay = paidTo account ((creditsIn m.log).map Prod.snd)

theorem deployed_settled : Settled .deployed [] := fun _ => rfl

section Ledger

variable {m m' : Marketplace} {ps : List (Address × Uint256)}

theorem settled_of_same (events : List Event) (hcredits : m'.withdrawableCredits = m.withdrawableCredits)
    (hlog : m'.log = m.log ++ events) (hcredit : creditsIn events = []) (hwithdrawal : withdrawals events = [])
    (hm : Settled m ps) : Settled m' ps := by
  intro account
  have h := hm account
  rw [hcredits, hlog]
  simp only [creditsIn, withdrawals, List.filterMap_append, List.map_append, paidTo_append] at h hcredit hwithdrawal ⊢
  rw [hcredit, hwithdrawal]
  simpa using h

theorem settled_of_credit (id : Bytes32) (recipient : Address) (amount credit : Uint256) (s : AgreementState)
    (hcredits : m'.withdrawableCredits = update m.withdrawableCredits recipient credit)
    (hcredit : checkedAdd (m.withdrawableCredits recipient) amount = .ok credit)
    (hlog : m'.log = m.log ++ [.creditCreated id recipient amount, .agreementStateChanged id s])
    (hm : Settled m ps) : Settled m' ps := by
  intro account
  have h := hm account
  have hsum := checkedAdd_eq_ok hcredit
  rw [hcredits, hlog]
  simp only [creditsIn, withdrawals, List.filterMap_append, List.map_append, paidTo_append] at h ⊢
  by_cases ha : recipient = account
  · subst ha
    simp only [update_self, List.filterMap_cons, List.filterMap_nil, Event.credit, Event.withdrawal,
      List.map_cons, List.map_nil, paidTo_cons, paidTo_nil, if_true]
    omega
  · simp only [update_of_ne (Ne.symm ha), List.filterMap_cons, List.filterMap_nil, Event.credit,
      Event.withdrawal, List.map_cons, List.map_nil, paidTo_cons, paidTo_nil, if_neg ha]
    omega

theorem trade_settled {self : Address} {b b' : Batteries} (h : Trade self m b m' b') (hm : Settled m ps) :
    Settled m' ps := by
  cases h with
  | list | closeListing | submit | closeOffer | select | cancel | fund =>
    exact settled_of_same (m := m) _ rfl rfl rfl rfl hm
  | advance id s disputeId actions events _ hquiet =>
    refine settled_of_same (m := m) events rfl rfl ?_ ?_ hm
    · exact List.filterMap_eq_nil_iff.mpr fun e he => (hquiet e he).1
    · exact List.filterMap_eq_nil_iff.mpr fun e he => (hquiet e he).2.2
  | release id credit _ hcredit _ => exact settled_of_credit (m := m) id _ _ credit _ rfl hcredit rfl hm
  | refund id credit _ hcredit _ => exact settled_of_credit (m := m) id _ _ credit _ rfl hcredit rfl hm

theorem withdrawCredits_settled {msg : Msg} {amount : Uint256} (h : m.withdrawCredits msg = .ok (m', amount))
    (hm : Settled m ps) : Settled m' ((msg.sender, amount) :: ps) := by
  obtain ⟨rfl, _, rfl⟩ := withdrawCredits_ok h
  intro account
  have h := hm account
  have hzero : BitVec.toNat (0 : Uint256) = 0 := rfl
  simp only [Marketplace.setCredit_withdrawableCredits, Marketplace.setCredit_log, paidTo_cons]
  by_cases ha : msg.sender = account
  · subst ha
    rw [update_self, if_pos rfl, hzero]
    omega
  · rw [update_of_ne (Ne.symm ha), if_neg ha]
    omega

theorem creditsWithdrawn_settled {recipient : Address} {amount : Uint256}
    (hm : Settled m ((recipient, amount) :: ps)) : Settled (m.creditsWithdrawn recipient amount) ps := by
  intro account
  have h := hm account
  simp only [Marketplace.creditsWithdrawn_withdrawableCredits, Marketplace.creditsWithdrawn_log, creditsIn,
    withdrawals, List.filterMap_append, List.filterMap_cons, List.filterMap_nil, List.append_nil, Event.credit,
    Event.withdrawal, paidTo_append, paidTo_cons, paidTo_nil] at h ⊢
  omega

end Ledger

/-! ### Every run -/

/-- **Escrow is conserved**: whatever calls were made to the contracts, by whom
and when, with withdrawals pending, accepted or rejected, the balance of a
marketplace is the sum of the credits and of the amounts in escrow; an agreement
paid for is credited once, to the seller when it settles or to the buyer when
it is cancelled, and one never paid for is never credited; and every credit
is there to withdraw, withdrawn or on its way. -/
theorem escrow_conserved (D : Deployment) (self : D.Market) (ls : List D.Step) :
    let m := (after D ls).state.markets self
    m.balance = (∑ account, (m.withdrawableCredits account).toNat) +
        ∑ id, (if (m.agreements id).state.escrowed then (m.agreements id).amount.toNat else 0) ∧
      (∀ id, Accounted (m.agreements id) (fundings m.log id) (creditsFor m.log id)) ∧
      ∀ account, (m.withdrawableCredits account).toNat + paidTo account (withdrawals m.log) +
        paidTo account (paying self ((after D ls).pending.map Pending.frame)) =
          paidTo account ((creditsIn m.log).map Prod.snd) := by
  have h := trade_rule self (I := fun m _ ps => Balanced m ∧ AllAccounted m ∧ Settled m ps)
    (fun m b m' b' ps ht hm => ⟨trade_balanced ht hm.1, trade_accounted ht hm.2.1, trade_settled ht hm.2.2⟩)
    (fun m b b' ps _ hm => hm)
    (fun m m' amount b ps msg hw hm =>
      ⟨withdrawCredits_balanced hw hm.1, withdrawCredits_accounted hw hm.2.1, withdrawCredits_settled hw hm.2.2⟩)
    (fun m b ps recipient amount hm =>
      ⟨balanced_of_same (m := m) rfl rfl rfl hm.1, creditsWithdrawn_accounted hm.2.1, creditsWithdrawn_settled hm.2.2⟩)
    ls (s := ⟨Chain.deployed D, []⟩) ⟨deployed_balanced, deployed_accounted, deployed_settled⟩
  exact h.now

end Contracts
end Evllm
