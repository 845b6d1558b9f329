/-
# What creates offers and agreements

A trade says what happens to a marketplace, not by which function. Offers come
from `submitOffer` alone and agreements from `selectOfferAndCreateAgreement`
alone: every other call leaves an id without an offer or an agreement as it is
(`market_noneNew`). So the times of an offer and of an agreement are those that
these two have checked.

Key definitions: `NoneNew`.
Key theorems: `market_noneNew`, `market_offer_new`, `market_agreement_new`,
`market_rule`.
-/
import Evllm.Contracts.Coherence

namespace Evllm
namespace Contracts

open Lib Function Marketplace

variable {im : Immutables} {regs regs' : Registries} {m m' : Marketplace} {msg : Msg}

/-- No offer and no agreement is new. -/
structure NoneNew (m m' : Marketplace) : Prop where
  offers : ∀ id, (m.offers id).state = .unset → (m'.offers id).state = .unset
  agreements : ∀ id, (m.agreements id).state = .unset → (m'.agreements id).state = .unset

theorem noneNew_of_same (hoffers : m'.offers = m.offers) (hagreements : m'.agreements = m.agreements) : NoneNew m m' := by
  constructor
  · rw [hoffers]
    exact fun _ h => h
  · rw [hagreements]
    exact fun _ h => h

/-- An offer that is there changes. -/
theorem noneNew_of_offer {id : Bytes32} (hset : (m.offers id).state = .submitted) (o : Offer)
    (hoffers : m'.offers = update m.offers id o) (hagreements : m'.agreements = m.agreements) : NoneNew m m' := by
  constructor
  · intro x hx
    have hne : x ≠ id := by
      rintro rfl
      rw [hset] at hx
      cases hx
    rwa [hoffers, update_of_ne hne]
  · rw [hagreements]
    exact fun _ h => h

/-- An agreement that is there changes. -/
theorem noneNew_of_agreement {id : Bytes32} (hset : (m.agreements id).isSet) (a : Agreement)
    (hagreements : m'.agreements = update m.agreements id a) (hoffers : m'.offers = m.offers) : NoneNew m m' := by
  constructor
  · rw [hoffers]
    exact fun _ h => h
  · intro x hx
    have hne : x ≠ id := by
      rintro rfl
      exact hset hx
    rwa [hagreements, update_of_ne hne]

theorem isSet_of_eq {agreement : Agreement} {s : AgreementState} (h : agreement.state = s) (hs : s ≠ .unset) :
    agreement.isSet := by
  rw [Agreement.isSet, h]
  exact hs

theorem keeping_noneNew {result : Except Revert Marketplace} (h : Ensures result (NoneNew m)) :
    Ensures (keeping regs result) fun r => NoneNew m r.2 :=
  ensures_bind fun m' hm' => ensures_pure (h m' hm')

theorem releaseAndTransfer_noneNew {id : Bytes32} (hset : (m.agreements id).isSet) :
    Ensures (releaseAndTransfer im regs m msg id) fun r => NoneNew m r.2 :=
  ensures_bind fun _ _ => ensures_bind fun _ _ => ensures_pure (noneNew_of_agreement hset _ rfl rfl)

theorem refundAndCancel_noneNew {id : Bytes32} (hset : (m.agreements id).isSet) :
    Ensures (refundAndCancel im regs m msg id) fun r => NoneNew m r.2 :=
  ensures_bind fun _ _ => ensures_bind fun _ _ => ensures_pure (noneNew_of_agreement hset _ rfl rfl)

theorem consumeProtectedAction_noneNew {id bundleType capability : Bytes32} {action : ProtectedAction}
    {f : Marketplace → Except Revert Marketplace} (h : Ensures (f (m.useAction action.actionId)) (NoneNew m)) :
    Ensures (consumeProtectedAction regs m msg id action bundleType capability >>= f) (NoneNew m) :=
  ensures_bind fun m' hm' => by rwa [consumeProtectedAction_ok hm']

/-- **Other calls create no offer and no agreement.** -/
theorem market_noneNew {op : MarketOp} (hsubmit : ∀ input, op ≠ .submitOffer input)
    (hselect : ∀ input, op ≠ .selectOfferAndCreateAgreement input) :
    Ensures (op.exec im regs m msg) fun r => NoneNew m r.2 := by
  cases op with
  | submitOffer input => exact absurd rfl (hsubmit input)
  | selectOfferAndCreateAgreement input => exact absurd rfl (hselect input)
  | createListing =>
    repeat refine ensures_bind fun _ _ => ?_
    exact ensures_pure (noneNew_of_same rfl rfl)
  | withdrawListing =>
    repeat refine ensures_bind fun _ _ => ?_
    exact ensures_pure (noneNew_of_same rfl rfl)
  | expireListing =>
    repeat refine ensures_bind fun _ _ => ?_
    exact ensures_pure (noneNew_of_same rfl rfl)
  | withdrawOffer =>
    refine keeping_noneNew (ensures_throwIf fun _ => ensures_throwIf fun hstate => ensures_throwIf fun _ => ensures_pure ?_)
    exact noneNew_of_offer (not_not.mp hstate) _ rfl rfl
  | rejectOffer =>
    refine keeping_noneNew (ensures_throwIf fun _ => ensures_throwIf fun hstate => ensures_throwIf fun _ => ensures_pure ?_)
    exact noneNew_of_offer (not_not.mp (not_or.mp hstate).1) _ rfl rfl
  | expireOffer =>
    refine keeping_noneNew (ensures_throwIf fun _ => ensures_throwIf fun hstate => ensures_throwIf fun _ => ensures_pure ?_)
    exact noneNew_of_offer (not_not.mp hstate) _ rfl rfl
  | confirmAgreement =>
    refine keeping_noneNew (ensures_throwIf fun _ => ensures_throwIf fun hstate => ensures_throwIf fun _ =>
      ensures_throwIf fun _ => ensures_pure ?_)
    exact noneNew_of_agreement (isSet_of_eq (not_not.mp hstate) (by simp)) _ rfl rfl
  | fundAgreement =>
    refine keeping_noneNew (ensures_throwIf fun _ => ensures_throwIf fun hstate => ensures_throwIf fun _ =>
      ensures_throwIf fun _ => ensures_throwIf fun _ => ensures_pure ?_)
    exact noneNew_of_agreement (isSet_of_eq (not_not.mp hstate) (by simp)) _ rfl rfl
  | cancelUnfundedAgreement =>
    refine ensures_throwIf fun _ => ensures_throwIf fun hstate => ensures_throwIf fun _ => ensures_bind fun _ _ =>
      ensures_pure (noneNew_of_agreement ?_ _ rfl rfl)
    intro hunset
    exact hstate (by simp [hunset])
  | recordDispatch =>
    refine keeping_noneNew (ensures_throwIf fun _ => ensures_throwIf fun hstate =>
      consumeProtectedAction_noneNew (ensures_pure ?_))
    exact noneNew_of_agreement (isSet_of_eq (not_not.mp (not_or.mp hstate).1) (by simp)) _ rfl rfl
  | recordDelivery =>
    refine keeping_noneNew (ensures_throwIf fun _ => ensures_throwIf fun hstate =>
      consumeProtectedAction_noneNew (ensures_pure ?_))
    exact noneNew_of_agreement (isSet_of_eq (not_not.mp (not_or.mp hstate).1) (by simp)) _ rfl rfl
  | acceptDelivery =>
    refine keeping_noneNew (ensures_throwIf fun _ => ensures_throwIf fun hstate => ensures_throwIf fun _ =>
      ensures_bind fun _ _ => ensures_throwIf fun _ => ensures_pure ?_)
    exact noneNew_of_agreement (isSet_of_eq (not_not.mp hstate) (by simp)) _ rfl rfl
  | applyDispatchTimeout =>
    refine ensures_throwIf fun _ => ensures_throwIf fun hstate => ensures_throwIf fun _ => ?_
    exact refundAndCancel_noneNew (isSet_of_eq (not_not.mp hstate) (by simp))
  | applyDeliveryOrAcceptanceTimeout =>
    refine keeping_noneNew (ensures_throwIf fun _ => ensures_bind fun late hlate => ensures_throwIf fun hdue =>
      ensures_pure (noneNew_of_agreement ?_ _ rfl rfl))
    intro hunset
    have hnever : false = late := by simpa [acceptanceLate, hunset] using hlate
    exact hdue (by simp [hunset, ← hnever])
  | openTransactionDispute =>
    refine keeping_noneNew (ensures_throwIf fun _ => ensures_throwIf fun hstate => ensures_throwIf fun _ =>
      ensures_throwIf fun _ => consumeProtectedAction_noneNew (ensures_pure (noneNew_of_agreement ?_ _ rfl rfl)))
    intro hunset
    exact hstate (by simp [hunset])
  | resolveAgreement agreementId _ _ resolution =>
    refine ensures_throwIf fun _ => ensures_throwIf fun hstate => ensures_throwIf fun _ => ensures_throwIf fun _ => ?_
    have hset : (m.agreements agreementId).isSet := fun hunset => hstate (by simp [hunset])
    cases resolution with
    | releaseAndTransfer => exact releaseAndTransfer_noneNew hset
    | refundAndCancel => exact refundAndCancel_noneNew hset
  | settleAccepted =>
    refine ensures_throwIf fun _ => ensures_throwIf fun hstate => ?_
    exact releaseAndTransfer_noneNew (isSet_of_eq (not_not.mp hstate) (by simp))

/-- **A new offer was submitted**, to an active listing that it expires with or
before. -/
theorem market_offer_new {op : MarketOp} (h : op.exec im regs m msg = .ok (regs', m')) {id : Bytes32}
    (hunset : (m.offers id).state = .unset) (hset : (m'.offers id).state ≠ .unset) :
    (m.listings (m'.offers id).listingId).state = .active ∧
      (m'.offers id).expiresAt ≤ (m.listings (m'.offers id).listingId).expiresAt ∧ m'.listings = m.listings := by
  by_cases hsubmit : ∃ input, op = .submitOffer input
  · obtain ⟨input, rfl⟩ := hsubmit
    simp only [MarketOp.exec, keeping, submitOffer, nonReentrant, requireActiveModule, bind_eq_ok, throwIf_eq_ok,
      pure_eq_ok, Prod.mk.injEq] at h
    obtain ⟨_, ⟨_, _, _, _, _, hlisting, _, _, _, hexpiry, _, _, _, _, rfl⟩, _, rfl⟩ := h
    by_cases hid : id = input.offerId
    · subst hid
      simp only [emit_offers, setOffer_offers, update_self]
      exact ⟨not_not.mp (not_or.mp hlisting).1, BitVec.not_lt.mp (not_or.mp hexpiry).2, rfl⟩
    · simp only [emit_offers, setOffer_offers, update_of_ne hid] at hset
      exact absurd hunset hset
  · by_cases hselect : ∃ input, op = .selectOfferAndCreateAgreement input
    · obtain ⟨input, rfl⟩ := hselect
      simp only [MarketOp.exec, selectOfferAndCreateAgreement, bind_eq_ok, throwIf_eq_ok, pure_eq_ok,
        Prod.mk.injEq] at h
      obtain ⟨_, _, _, _, _, hstates, _, _, _, _, _, _, _, _, _, _, _, rfl⟩ := h
      simp only [not_or, not_not] at hstates
      by_cases hid : id = input.offerId
      · rw [hid, hstates.2.1] at hunset
        cases hunset
      · simp only [emit_offers, setAgreement_offers, setOfferState_offers, update_of_ne hid] at hset
        exact absurd hunset hset
    · have hnone := market_noneNew (fun input hop => hsubmit ⟨input, hop⟩) (fun input hop => hselect ⟨input, hop⟩) _ h
      exact absurd (hnone.offers id hunset) hset

/-- **A new agreement was selected**, with the deadline of the call. -/
theorem market_agreement_new {op : MarketOp} (h : op.exec im regs m msg = .ok (regs', m')) {id : Bytes32}
    (hunset : ¬(m.agreements id).isSet) (hset : (m'.agreements id).isSet) :
    ∃ input, op = .selectOfferAndCreateAgreement input ∧
      (m'.agreements id).deliveryDeadline = input.deliveryDeadline := by
  by_cases hselect : ∃ input, op = .selectOfferAndCreateAgreement input
  · obtain ⟨input, rfl⟩ := hselect
    refine ⟨input, rfl, ?_⟩
    simp only [MarketOp.exec, selectOfferAndCreateAgreement, bind_eq_ok, throwIf_eq_ok, pure_eq_ok,
      Prod.mk.injEq] at h
    obtain ⟨_, _, _, _, _, _, _, _, _, _, _, _, _, _, _, _, _, rfl⟩ := h
    by_cases hid : id = input.agreementId
    · subst hid
      simp [newAgreement]
    · simp only [emit_agreements, setAgreement_agreements, update_of_ne hid] at hset
      exact absurd hset hunset
  · by_cases hsubmit : ∃ input, op = .submitOffer input
    · obtain ⟨input, rfl⟩ := hsubmit
      simp only [MarketOp.exec, keeping, submitOffer, bind_eq_ok, pure_eq_ok, Prod.mk.injEq] at h
      obtain ⟨_, ⟨_, _, _, _, _, _, _, _, _, _, _, _, _, _, rfl⟩, _, rfl⟩ := h
      exact absurd hset hunset
    · have hnone := market_noneNew (fun input hop => hsubmit ⟨input, hop⟩) (fun input hop => hselect ⟨input, hop⟩) _ h
      exact absurd (hnone.agreements id (not_not.mp hunset)) hset

/-! ### Every run -/

variable {D : Deployment}

/-- A call leaves a marketplace alone, or is one of its own. -/
theorem exec_market (self : D.Market) {c c' : Chain D} {op : Op D} (h : exec c msg op = .ok c') :
    c'.markets self = c.markets self ∨ ∃ own, op = .market self own ∧
      own.exec (D.immutables self) c.registries (c.markets self) msg = .ok (c'.registries, c'.markets self) := by
  cases op with
  | market other own =>
    simp only [exec, bind_eq_ok, pure_eq_ok] at h
    obtain ⟨⟨regs, m⟩, hop, rfl⟩ := h
    by_cases ho : other = self
    · subst ho
      exact .inr ⟨own, rfl, by simpa using hop⟩
    · exact .inl (update_of_ne (Ne.symm ho) _ _)
  | authority | bundles | ownership | deployment =>
    simp only [exec, bind_eq_ok, pure_eq_ok] at h
    obtain ⟨_, _, rfl⟩ := h
    exact .inl rfl

/-- A fact about the listings, offers and agreements of a marketplace holds in
every state of a run whose calls keep it. -/
theorem market_rule (self : D.Market) {I : Marketplace → Prop} {P : MarketOp → Prop}
    (hsame : ∀ m m', m'.listings = m.listings → m'.offers = m.offers → m'.agreements = m.agreements → I m → I m')
    (hcall : ∀ regs regs' m m' msg op, P op → msg.sender ≠ self.1 →
      op.exec (D.immutables self) regs m msg = .ok (regs', m') → I m → I m') (ls : List D.Step)
    (hls : ∀ request op, Act.call (request, Op.market self op) ∈ ls → P op)
    {s : CallState (Chain D) (Withdrawal D)} (h : Sound (fun c _ => I (c.markets self)) s.state s.pending) :
    Sound (fun c _ => I (c.markets self)) (run (machine D).step s ls).state (run (machine D).step s ls).pending := by
  refine sound_run_of (P := fun call => ∀ op, call.2 = .market self op → P op) ?_ ?_ ?_ ls ?_ h
  · rintro c c' ws ⟨request, op⟩ hP hc hI
    have hexec : exec c request.msg op = .ok c' := toOption_eq_some.mp hc
    obtain hm | ⟨own, rfl, hown⟩ := exec_market self hexec
    · rwa [hm]
    · exact hcall _ _ _ _ _ own (hP own rfl) (caller_ne_market request.caller self) hown hI
  · rintro c c' w ws ⟨request, other⟩ hc hI
    simp only [machine] at hc
    split at hc
    · simp at hc
    · rename_i m amount hw
      obtain ⟨rfl, rfl⟩ := Prod.mk.inj (Option.some.inj hc)
      dsimp only
      by_cases ho : other = self
      · subst ho
        obtain ⟨_, _, rfl⟩ := withdrawCredits_ok hw
        rw [update_self]
        exact hsame (c.markets other) _ rfl rfl rfl hI
      · rwa [update_of_ne (Ne.symm ho)]
  · rintro c ⟨other, recipient, amount⟩ ws hI
    by_cases ho : other = self
    · subst ho
      simp only [machine, update_self]
      exact hsame (c.markets other) _ rfl rfl rfl hI
    · simpa only [machine, update_of_ne (Ne.symm ho)] using hI
  · rintro ⟨request, op⟩ hop own rfl
    exact hls request own hop

end Contracts
end Evllm
