/-
# The effective state of an offer

`effectiveOfferState` tells what has become of an offer from the offer and its
listing, without a write to every other offer when one is selected. It asks
only for the offer's own expiry: an offer expires with its listing or before,
from its submission on (`OffersWithin`), so it is submitted still just if it
can be selected. Listings and offers only go onward (`Onward`), and with them
the answer.

Key definitions: `Marketplace.effectiveOfferState`, `Marketplace.selectGuard`,
`OffersWithin`, `Onward`.
Key theorems: `trade_onward`, `after_offersWithin`, `effective_offers`.
-/
import Evllm.Contracts.Admission

namespace Evllm
namespace Contracts

open Lib Function

namespace Marketplace

variable (m : Marketplace)

/-- The view at a time. -/
def effectiveOfferState (timestamp : ℕ) (offerId : Bytes32) : OfferState :=
  let offer := m.offers offerId
  if offer.state ≠ .submitted then offer.state
  else
    let listing := m.listings offer.listingId
    if listing.state = .matched ∨ listing.state = .closedSettled ∨ listing.state = .closedCancelled then
      if listing.acceptedOfferId = offerId then .accepted else .rejected
    else if listing.state = .withdrawn ∨ listing.state = .expired then .rejected
    else if offer.expiresAt.toNat ≤ timestamp then .expired
    else .submitted

/-- The check of states and times in `selectOfferAndCreateAgreement`. -/
def selectGuard (timestamp : ℕ) (listingId offerId : Bytes32) : Except Revert Unit :=
  let listing := m.listings listingId
  let offer := m.offers offerId
  throwIf (listing.state ≠ .active ∨ offer.state ≠ .submitted ∨ offer.listingId ≠ listingId ∨
    listing.expiresAt.toNat ≤ timestamp ∨ offer.expiresAt.toNat ≤ timestamp) .invalidState

/-- The check is made once the module is known to be active, and what follows
is reached just if it passes. -/
theorem select_guard {im : Immutables} {regs : Registries} {msg : Msg} {input : AgreementInput}
    (hguard : m.entered = false) (hactive : isActiveModule im regs = true) {e : Revert}
    (h : m.selectGuard msg.timestamp input.listingId input.offerId = .error e) :
    m.selectOfferAndCreateAgreement im regs msg input = .error e := by
  unfold selectOfferAndCreateAgreement nonReentrant requireActiveModule
  dsimp only
  rw [throwIf_bind_of_not (by simp [hguard]), throwIf_bind_of_not (by simp [hactive])]
  unfold selectGuard at h
  dsimp only at h
  rw [h]
  rfl

theorem selectGuard_of_ok {im : Immutables} {regs : Registries} {msg : Msg} {input : AgreementInput}
    {result : Registries × Marketplace} (h : m.selectOfferAndCreateAgreement im regs msg input = .ok result) :
    m.selectGuard msg.timestamp input.listingId input.offerId = .ok () := by
  unfold selectOfferAndCreateAgreement at h
  obtain ⟨_, _, h⟩ := bind_eq_ok.mp h
  obtain ⟨_, _, h⟩ := bind_eq_ok.mp h
  obtain ⟨_, hstates, _⟩ := bind_eq_ok.mp h
  exact hstates

end Marketplace

/-! ### Onward -/

/-- A listing that is there stays there, and does not become active again. -/
structure ListingOnward (l l' : Listing) : Prop where
  set : l.state ≠ .unset → l'.state ≠ .unset ∧ l'.expiresAt = l.expiresAt
  inactive : l.state ≠ .unset → l.state ≠ .active → l'.state ≠ .active

/-- An offer that is there keeps its terms, and its state once it is closed. -/
structure OfferOnward (o o' : Offer) : Prop where
  set : o.state ≠ .unset → o'.state ≠ .unset ∧ o'.listingId = o.listingId ∧ o'.expiresAt = o.expiresAt
  closed : o.state ≠ .unset → o.state ≠ .submitted → o'.state = o.state

theorem listingOnward_refl (l : Listing) : ListingOnward l l := ⟨fun h => ⟨h, rfl⟩, fun _ h => h⟩

theorem offerOnward_refl (o : Offer) : OfferOnward o o := ⟨fun h => ⟨h, rfl, rfl⟩, fun _ _ => rfl⟩

theorem ListingOnward.trans {l l' l'' : Listing} (h : ListingOnward l l') (h' : ListingOnward l' l'') :
    ListingOnward l l'' := by
  constructor
  · intro hset
    obtain ⟨hset', hexpires⟩ := h.set hset
    obtain ⟨hset'', hexpires'⟩ := h'.set hset'
    exact ⟨hset'', hexpires'.trans hexpires⟩
  · intro hset hinactive
    exact h'.inactive (h.set hset).1 (h.inactive hset hinactive)

theorem OfferOnward.trans {o o' o'' : Offer} (h : OfferOnward o o') (h' : OfferOnward o' o'') : OfferOnward o o'' := by
  constructor
  · intro hset
    obtain ⟨hset', hlisting, hexpires⟩ := h.set hset
    obtain ⟨hset'', hlisting', hexpires'⟩ := h'.set hset'
    exact ⟨hset'', hlisting'.trans hlisting, hexpires'.trans hexpires⟩
  · intro hset hclosed
    have hstate := h.closed hset hclosed
    rw [← hstate] at hclosed ⊢
    exact h'.closed (h.set hset).1 hclosed

structure Onward (m m' : Marketplace) : Prop where
  listings : ∀ id, ListingOnward (m.listings id) (m'.listings id)
  offers : ∀ id, OfferOnward (m.offers id) (m'.offers id)

theorem onward_refl (m : Marketplace) : Onward m m := ⟨fun _ => listingOnward_refl _, fun _ => offerOnward_refl _⟩

theorem Onward.trans {m m' m'' : Marketplace} (h : Onward m m') (h' : Onward m' m'') : Onward m m'' :=
  ⟨fun id => (h.listings id).trans (h'.listings id), fun id => (h.offers id).trans (h'.offers id)⟩

section Trades

variable {m m' : Marketplace} {self : Address} {b b' : Batteries}

/-- A listing changes. -/
theorem onward_of_listing {id : Bytes32} {l : Listing} (hl : ListingOnward (m.listings id) l)
    (hlistings : m'.listings = update m.listings id l) (hoffers : m'.offers = m.offers) : Onward m m' := by
  constructor
  · rw [hlistings, forall_update_iff m.listings fun x l => ListingOnward (m.listings x) l]
    exact ⟨hl, fun x _ => listingOnward_refl _⟩
  · rw [hoffers]
    exact fun _ => offerOnward_refl _

/-- An offer changes. -/
theorem onward_of_offer {id : Bytes32} {o : Offer} (ho : OfferOnward (m.offers id) o)
    (hoffers : m'.offers = update m.offers id o) (hlistings : m'.listings = m.listings) : Onward m m' := by
  constructor
  · rw [hlistings]
    exact fun _ => listingOnward_refl _
  · rw [hoffers, forall_update_iff m.offers fun x o => OfferOnward (m.offers x) o]
    exact ⟨ho, fun x _ => offerOnward_refl _⟩

/-- Where there was no listing, any may be. -/
theorem listingOnward_of_unset {l l' : Listing} (h : l.state = .unset) : ListingOnward l l' :=
  ⟨fun hset => absurd h hset, fun hset => absurd h hset⟩

theorem offerOnward_of_unset {o o' : Offer} (h : o.state = .unset) : OfferOnward o o' :=
  ⟨fun hset => absurd h hset, fun hset => absurd h hset⟩

/-- A listing ends. -/
theorem listingOnward_state {l : Listing} (s : ListingState) (hset : s ≠ .unset) (hinactive : s ≠ .active) :
    ListingOnward l { l with state := s } :=
  ⟨fun _ => ⟨hset, rfl⟩, fun _ _ => hinactive⟩

/-- A submitted offer is closed. -/
theorem offerOnward_state {o : Offer} (s : OfferState) (hset : s ≠ .unset) (hsubmitted : o.state = .submitted) :
    OfferOnward o { o with state := s } :=
  ⟨fun _ => ⟨hset, rfl, rfl⟩, fun _ hclosed => absurd hsubmitted hclosed⟩

theorem trade_onward (h : Trade self m b m' b') : Onward m m' := by
  cases h with
  | list id l hunset => exact onward_of_listing (listingOnward_of_unset hunset) rfl rfl
  | closeListing id s hs =>
    refine onward_of_listing (listingOnward_state s ?_ ?_) rfl rfl <;>
      (rcases hs with rfl | rfl <;> simp)
  | submit id o hunset => exact onward_of_offer (offerOnward_of_unset hunset) rfl rfl
  | closeOffer id s hs hsubmitted =>
    refine onward_of_offer (offerOnward_state s ?_ hsubmitted) rfl rfl
    rcases hs with rfl | rfl | rfl <;> simp
  | select input hactive hsubmitted =>
    have hlisting : ListingOnward (m.listings input.listingId)
        { m.listings input.listingId with state := .matched, acceptedOfferId := input.offerId } :=
      ⟨fun _ => ⟨by simp, rfl⟩, fun _ _ => by simp⟩
    have hmatched : Onward m (m.setListing input.listingId _) := onward_of_listing hlisting rfl rfl
    exact hmatched.trans (onward_of_offer (offerOnward_state .accepted (by simp) hsubmitted) rfl rfl)
  | advance => exact ⟨fun _ => listingOnward_refl _, fun _ => offerOnward_refl _⟩
  | fund => exact ⟨fun _ => listingOnward_refl _, fun _ => offerOnward_refl _⟩
  | release id => exact onward_of_listing (listingOnward_state .closedSettled (by simp) (by simp)) rfl rfl
  | refund id => exact onward_of_listing (listingOnward_state .closedCancelled (by simp) (by simp)) rfl rfl
  | cancel id => exact onward_of_listing (listingOnward_state .closedCancelled (by simp) (by simp)) rfl rfl

end Trades

/-! ### An offer expires with its listing or before -/

def OffersWithin (m : Marketplace) : Prop :=
  ∀ id, (m.offers id).state ≠ .unset → (m.listings (m.offers id).listingId).state ≠ .unset ∧
    (m.offers id).expiresAt ≤ (m.listings (m.offers id).listingId).expiresAt

theorem market_offersWithin {im : Immutables} {regs regs' : Registries} {m m' : Marketplace} {msg : Msg} {op : MarketOp}
    (h : op.exec im regs m msg = .ok (regs', m')) (hm : OffersWithin m) : OffersWithin m' := by
  have honward : Onward m m' := trade_onward (market_trade h)
  intro id hset
  by_cases hold : (m.offers id).state = .unset
  · obtain ⟨hactive, hexpires, hlistings⟩ := market_offer_new h hold hset
    rw [hlistings]
    exact ⟨by simp [hactive], hexpires⟩
  · obtain ⟨hlisting, hexpires⟩ := hm id hold
    obtain ⟨-, hlistingId, hoffer⟩ := (honward.offers id).set hold
    obtain ⟨hlisting', hends⟩ := (honward.listings (m.offers id).listingId).set hlisting
    rw [hlistingId, hoffer, hends]
    exact ⟨hlisting', hexpires⟩

variable {D : Deployment}

theorem after_offersWithin (self : D.Market) (ls : List D.Step) : OffersWithin ((after D ls).state.markets self) := by
  refine (market_rule self (I := OffersWithin) (P := fun _ => True) ?_ ?_ ls (fun _ _ _ => trivial)
    (s := ⟨Chain.deployed D, []⟩) fun id hset => absurd rfl hset).now
  · intro m m' hlistings hoffers _ hm
    unfold OffersWithin
    rw [hlistings, hoffers]
    exact hm
  · exact fun _ _ _ _ _ _ _ _ hop hm => market_offersWithin hop hm

/-- From a state with no call pending a marketplace only goes onward. -/
theorem after_onward (self : D.Market) {ls : List D.Step} (hrest : (after D ls).pending = []) (ls' : List D.Step) :
    Onward ((after D ls).state.markets self) ((after D (ls ++ ls')).state.markets self) := by
  have h := records_rule self (I := Onward ((after D ls).state.markets self))
    (fun m m' hlistings hoffers _ hm => by
      constructor
      · rw [hlistings]
        exact hm.listings
      · rw [hoffers]
        exact hm.offers)
    (fun _ _ _ _ ht hm => hm.trans (trade_onward ht)) ls' (s := after D ls) (by rw [hrest]; exact onward_refl _)
  have hafter : after D (ls ++ ls') = run (machine D).step (after D ls) ls' := run_append _ _ _ _
  rw [hafter]
  exact h.now

/-! ### What the view answers -/

section View

variable {m m' : Marketplace} {t t' : ℕ} {id : Bytes32}

theorem effective_submitted_iff :
    m.effectiveOfferState t id = .submitted ↔
      (m.offers id).state = .submitted ∧
        ((m.listings (m.offers id).listingId).state = .active ∨
          (m.listings (m.offers id).listingId).state = .unset) ∧
        t < (m.offers id).expiresAt.toNat := by
  unfold Marketplace.effectiveOfferState
  dsimp only
  split_ifs with hoffer htaken hchosen hclosed hexpired
  · exact iff_of_false hoffer fun h => hoffer h.1
  · refine iff_of_false (by simp) fun h => ?_
    rcases h.2.1 with hs | hs <;> simp [hs] at htaken
  · refine iff_of_false (by simp) fun h => ?_
    rcases h.2.1 with hs | hs <;> simp [hs] at htaken
  · refine iff_of_false (by simp) fun h => ?_
    rcases h.2.1 with hs | hs <;> simp [hs] at hclosed
  · exact iff_of_false (by simp) fun h => absurd h.2.2 (not_lt.mpr hexpired)
  · refine iff_of_true rfl ⟨not_not.mp hoffer, ?_, not_le.mp hexpired⟩
    cases hs : (m.listings (m.offers id).listingId).state <;> simp_all

/-- **An offer is effectively submitted just if it can be selected.** -/
theorem effective_submitted_iff_guard (hm : OffersWithin m) :
    m.effectiveOfferState t id = .submitted ↔ m.selectGuard t (m.offers id).listingId id = .ok () := by
  rw [effective_submitted_iff]
  unfold Marketplace.selectGuard
  dsimp only
  rw [throwIf_eq_ok]
  simp only [not_or, not_not, not_le]
  constructor
  · rintro ⟨hsubmitted, hlisting, htime⟩
    obtain ⟨hset, hexpires⟩ := hm id (by simp [hsubmitted])
    have hexpires' : (m.offers id).expiresAt.toNat ≤ (m.listings (m.offers id).listingId).expiresAt.toNat := hexpires
    exact ⟨hlisting.resolve_right hset, hsubmitted, trivial, by omega, htime⟩
  · rintro ⟨hactive, hsubmitted, -, -, htime⟩
    exact ⟨hsubmitted, .inl hactive, htime⟩

/-- An offer is effectively accepted just if it is accepted: the offer that a
taken listing names is. -/
theorem effective_accepted_iff (hm : Coherent m) :
    m.effectiveOfferState t id = .accepted ↔ (m.offers id).state = .accepted := by
  unfold Marketplace.effectiveOfferState
  dsimp only
  split_ifs with hoffer htaken hchosen hclosed hexpired
  · rfl
  · have htaken' : (m.listings (m.offers id).listingId).state.taken = true := by
      rcases htaken with hs | hs | hs <;> rw [hs] <;> rfl
    obtain ⟨agreementId, hset, hlisting⟩ := hm.covered _ htaken'
    have hagrees := hm.agrees agreementId hset
    rw [hlisting] at hagrees
    have hid : (m.agreements agreementId).offerId = id := hagrees.acceptedOfferId.symm.trans hchosen
    have haccepted := hagrees.offerState
    rw [hid] at haccepted
    exact iff_of_true rfl haccepted
  all_goals
    have hsubmitted := not_not.mp hoffer
    simp [hsubmitted]

/-- What is submitted later was submitted before, if it was there. -/
theorem effective_submitted_of_onward (hm : OffersWithin m) (h : Onward m m') (hset : (m.offers id).state ≠ .unset)
    (htime : t ≤ t') (hlater : m'.effectiveOfferState t' id = .submitted) :
    m.effectiveOfferState t id = .submitted := by
  obtain ⟨hsubmitted', hlisting', htime'⟩ := effective_submitted_iff.mp hlater
  obtain ⟨-, hlistingId, hexpires⟩ := (h.offers id).set hset
  rw [hlistingId] at hlisting'
  rw [hexpires] at htime'
  have hsubmitted : (m.offers id).state = .submitted := by
    by_contra hclosed
    exact hclosed ((h.offers id).closed hset hclosed ▸ hsubmitted')
  have hlisting := (hm id hset).1
  have hactive : (m.listings (m.offers id).listingId).state = .active := by
    by_contra hinactive
    obtain hactive' | hunset' := hlisting'
    · exact (h.listings _).inactive hlisting hinactive hactive'
    · exact ((h.listings _).set hlisting).1 hunset'
  exact effective_submitted_iff.mpr ⟨hsubmitted, .inl hactive, htime.trans_lt htime'⟩

end View

/-- **`effectiveOfferState` is the availability of an offer**, in every state of
every run: it answers `Submitted` just if the offer can be selected then, it
answers `Accepted` for one offer of a listing at most, and from a state with no
call pending it neither answers `Submitted` again once it has stopped, nor
anything but `Accepted` once it has answered so. -/
theorem effective_offers (D : Deployment) (self : D.Market) (ls : List D.Step) :
    let m := (after D ls).state.markets self
    (∀ offerId timestamp, m.effectiveOfferState timestamp offerId = .submitted ↔
      m.selectGuard timestamp (m.offers offerId).listingId offerId = .ok ()) ∧
    (∀ i j timestamp timestamp', m.effectiveOfferState timestamp i = .accepted →
      m.effectiveOfferState timestamp' j = .accepted → (m.offers i).listingId = (m.offers j).listingId → i = j) ∧
    ((after D ls).pending = [] → ∀ offerId timestamp,
      (m.effectiveOfferState timestamp offerId = .submitted → ∀ ls' timestamp', (after D (ls ++ ls')).pending = [] →
        ((after D (ls ++ ls')).state.markets self).effectiveOfferState timestamp' offerId ≠ .submitted →
        ∀ ls'' timestamp'', timestamp' ≤ timestamp'' →
          ((after D (ls ++ ls' ++ ls'')).state.markets self).effectiveOfferState timestamp'' offerId ≠ .submitted) ∧
      (m.effectiveOfferState timestamp offerId = .accepted → ∀ ls' timestamp',
        ((after D (ls ++ ls')).state.markets self).effectiveOfferState timestamp' offerId = .accepted)) := by
  intro m
  have hcoherent : Coherent m := after_coherent D self ls
  refine ⟨fun offerId timestamp => effective_submitted_iff_guard (after_offersWithin self ls), ?_,
    fun hrest offerId timestamp => ⟨?_, ?_⟩⟩
  · intro i j timestamp timestamp' hi hj hlisting
    obtain ⟨-, hchosen⟩ := hcoherent.chosen i ((effective_accepted_iff hcoherent).mp hi)
    obtain ⟨-, hchosen'⟩ := hcoherent.chosen j ((effective_accepted_iff hcoherent).mp hj)
    rw [← hchosen, hlisting, hchosen']
  · intro hsubmitted ls' timestamp' hrest' hstopped ls'' timestamp'' htime hagain
    have hset : (m.offers offerId).state ≠ .unset := by simp [(effective_submitted_iff.mp hsubmitted).1]
    have hset' := ((after_onward self hrest ls').offers offerId).set hset
    exact hstopped (effective_submitted_of_onward (after_offersWithin self (ls ++ ls'))
      (after_onward self hrest' ls'') hset'.1 htime hagain)
  · intro haccepted ls' timestamp'
    have hstate := (effective_accepted_iff hcoherent).mp haccepted
    have honward : OfferOnward (m.offers offerId) _ := (after_onward self hrest ls').offers offerId
    rw [effective_accepted_iff (after_coherent D self (ls ++ ls')),
      honward.closed (by simp [hstate]) (by simp [hstate])]
    exact hstate

open Sample in
/-- In the sample run the offer 33 is accepted, and its buyer cannot withdraw it. -/
theorem effective_offers_funded :
    ((after deployment (funded ++ [call buyer 7 (.market market (.withdrawOffer 33))])).state.markets
      market).effectiveOfferState 100 33 = .accepted := by
  have hrest : (after deployment funded).pending = [] := by decide +kernel
  have haccepted : ((after deployment funded).state.markets market).effectiveOfferState 6 33 = .accepted := by
    decide +kernel
  exact ((effective_offers deployment market funded).2.2 hrest 33 6).2 haccepted _ 100

end Contracts
end Evllm
