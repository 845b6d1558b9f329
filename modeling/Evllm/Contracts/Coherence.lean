/-
# Listings, offers and agreements agree

An agreement joins one listing with one offer: the listing is taken by it and
follows its state, the offer is the one accepted for the listing, and the
agreement repeats their terms. No listing is taken twice, and the terms of an
agreement never change.
-/
import Evllm.Contracts.Trade

namespace Evllm
namespace Contracts

open Lib Function

variable {D : Deployment}

/-! ### The relation -/

/-- A listing with an agreement. -/
def ListingState.taken : ListingState → Bool
  | .matched | .closedSettled | .closedCancelled => true
  | .unset | .active | .withdrawn | .expired => false

/-- The state of a listing whose agreement is in a given state. -/
def AgreementState.listingState : AgreementState → ListingState
  | .settled => .closedSettled
  | .cancelled => .closedCancelled
  | _ => .matched

theorem listingState_taken (s : AgreementState) : s.listingState.taken = true := by cases s <;> rfl

/-- An agreement that exists. -/
def Agreement.isSet (agreement : Agreement) : Prop := agreement.state ≠ .unset

/-- An agreement, the listing it names and the offer it names. -/
structure Agrees (agreement : Agreement) (listing : Listing) (offer : Offer) : Prop where
  listingState : listing.state = agreement.state.listingState
  acceptedOfferId : listing.acceptedOfferId = agreement.offerId
  offerState : offer.state = .accepted
  offerListing : offer.listingId = agreement.listingId
  batteryId : agreement.batteryId = listing.batteryId
  sellerOrganizationId : agreement.sellerOrganizationId = listing.sellerOrganizationId
  seller : agreement.seller = listing.seller
  sellerPayoutAddress : agreement.sellerPayoutAddress = listing.sellerPayoutAddress
  buyerOrganizationId : agreement.buyerOrganizationId = offer.buyerOrganizationId
  buyer : agreement.buyer = offer.buyer
  buyerRefundAddress : agreement.buyerRefundAddress = offer.buyerRefundAddress
  amount : agreement.amount = offer.amount

structure Coherent (m : Marketplace) : Prop where
  agrees : ∀ id, (m.agreements id).isSet →
    Agrees (m.agreements id) (m.listings (m.agreements id).listingId) (m.offers (m.agreements id).offerId)
  unique : ∀ i j, (m.agreements i).isSet → (m.agreements j).isSet →
    (m.agreements i).listingId = (m.agreements j).listingId → i = j
  covered : ∀ id, (m.listings id).state.taken = true →
    ∃ agreementId, (m.agreements agreementId).isSet ∧ (m.agreements agreementId).listingId = id
  chosen : ∀ id, (m.offers id).state = .accepted →
    (m.listings (m.offers id).listingId).state.taken = true ∧
      (m.listings (m.offers id).listingId).acceptedOfferId = id

/-- What is fixed when an agreement is made: all but its state and dispute. -/
def Agreement.terms (agreement : Agreement) : Agreement := { agreement with state := .unset, disputeId := 0 }

/-! ### Changes that keep it -/

theorem deployed_coherent : Coherent .deployed where
  agrees _ h := absurd rfl h
  unique _ _ h := absurd rfl h
  covered _ h := by simp [Marketplace.deployed, ListingState.taken] at h
  chosen _ h := by simp [Marketplace.deployed] at h

section Changes

variable {m m' : Marketplace}

/-- The listing of an agreement is taken. -/
theorem Coherent.taken (hm : Coherent m) {id : Bytes32} (h : (m.agreements id).isSet) :
    (m.listings (m.agreements id).listingId).state.taken = true := by
  rw [(hm.agrees id h).listingState]
  exact listingState_taken _

/-- A free listing changes and stays free. -/
theorem coherent_of_listing (id : Bytes32) (l : Listing) (hold : (m.listings id).state.taken = false)
    (hnew : l.state.taken = false) (hlistings : m'.listings = update m.listings id l)
    (hoffers : m'.offers = m.offers) (hagreements : m'.agreements = m.agreements) (hm : Coherent m) :
    Coherent m' := by
  have hne : ∀ x, (m.listings x).state.taken = true → x ≠ id := by
    rintro x hx rfl
    rw [hold] at hx
    simp at hx
  constructor
  · intro x hx
    rw [hagreements] at hx ⊢
    rw [hlistings, hoffers, update_of_ne (hne _ (hm.taken hx))]
    exact hm.agrees x hx
  · rw [hagreements]
    exact hm.unique
  · intro x hx
    rw [hagreements]
    rw [hlistings] at hx
    by_cases hid : x = id
    · subst hid
      rw [update_self, hnew] at hx
      simp at hx
    · rw [update_of_ne hid] at hx
      exact hm.covered x hx
  · intro x hx
    rw [hoffers] at hx ⊢
    obtain ⟨htaken, hchosen⟩ := hm.chosen x hx
    rw [hlistings, update_of_ne (hne _ htaken)]
    exact ⟨htaken, hchosen⟩

/-- An offer that is not accepted changes and is not accepted. -/
theorem coherent_of_offer (id : Bytes32) (o : Offer) (hold : (m.offers id).state ≠ .accepted)
    (hnew : o.state ≠ .accepted) (hoffers : m'.offers = update m.offers id o)
    (hlistings : m'.listings = m.listings) (hagreements : m'.agreements = m.agreements) (hm : Coherent m) :
    Coherent m' := by
  constructor
  · intro x hx
    rw [hagreements] at hx ⊢
    have hne : (m.agreements x).offerId ≠ id := fun h => hold (h ▸ (hm.agrees x hx).offerState)
    rw [hlistings, hoffers, update_of_ne hne]
    exact hm.agrees x hx
  · rw [hagreements]
    exact hm.unique
  · rw [hagreements, hlistings]
    exact hm.covered
  · intro x hx
    rw [hoffers] at hx ⊢
    by_cases hid : x = id
    · subst hid
      rw [update_self] at hx
      exact absurd hx hnew
    · rw [update_of_ne hid] at hx ⊢
      rw [hlistings]
      exact hm.chosen x hx

theorem terms_listingId {a a' : Agreement} (h : a'.terms = a.terms) : a'.listingId = a.listingId := by
  have hlisting := congrArg Agreement.listingId h
  exact hlisting

theorem terms_offerId {a a' : Agreement} (h : a'.terms = a.terms) : a'.offerId = a.offerId := by
  have hoffer := congrArg Agreement.offerId h
  exact hoffer

theorem agrees_of_terms {a a' : Agreement} {l l' : Listing} {o : Offer} (h : Agrees a l o)
    (hterms : a'.terms = a.terms) (hl : l' = { l with state := a'.state.listingState }) : Agrees a' l' o := by
  subst hl
  simp only [Agreement.terms, Agreement.mk.injEq] at hterms
  obtain ⟨h1, h2, h3, h4, h5, _, _, _, _, h6, h7, h8, h9, h10, _⟩ := hterms
  exact ⟨rfl, h.acceptedOfferId.trans h2.symm, h.offerState, h.offerListing.trans h1.symm, h3.trans h.batteryId,
    h4.trans h.sellerOrganizationId, h6.trans h.seller, h8.trans h.sellerPayoutAddress,
    h5.trans h.buyerOrganizationId, h7.trans h.buyer, h9.trans h.buyerRefundAddress, h10.trans h.amount⟩

/-- An agreement moves to another state, and takes its listing along. -/
theorem coherent_of_agreement (id : Bytes32) (a : Agreement) (hset : (m.agreements id).isSet) (hnew : a.isSet)
    (hterms : a.terms = (m.agreements id).terms) (hagreements : m'.agreements = update m.agreements id a)
    (hlistings : m'.listings = update m.listings (m.agreements id).listingId
      { m.listings (m.agreements id).listingId with state := a.state.listingState })
    (hoffers : m'.offers = m.offers) (hm : Coherent m) : Coherent m' := by
  have hlisting : ∀ x, (m'.agreements x).listingId = (m.agreements x).listingId := by
    intro x
    rw [hagreements]
    by_cases hx : x = id
    · subst hx
      rw [update_self]
      exact terms_listingId hterms
    · rw [update_of_ne hx]
  have hisSet : ∀ x, (m'.agreements x).isSet ↔ (m.agreements x).isSet := by
    intro x
    rw [hagreements]
    by_cases hx : x = id
    · subst hx
      rw [update_self]
      exact iff_of_true hnew hset
    · rw [update_of_ne hx]
  constructor
  · intro x hx
    rw [hlisting, hlistings, hoffers, hagreements]
    rw [hisSet] at hx
    by_cases hid : x = id
    · subst hid
      have hoffer : a.offerId = (m.agreements x).offerId := terms_offerId hterms
      rw [update_self, update_self, hoffer]
      exact agrees_of_terms (hm.agrees x hx) hterms rfl
    · rw [update_of_ne hid, update_of_ne fun h => hid (hm.unique x id hx hset h)]
      exact hm.agrees x hx
  · intro i j hi hj hij
    rw [hisSet] at hi hj
    rw [hlisting, hlisting] at hij
    exact hm.unique i j hi hj hij
  · intro x hx
    have hold : (m.listings x).state.taken = true := by
      rw [hlistings] at hx
      by_cases hid : x = (m.agreements id).listingId
      · subst hid
        exact hm.taken hset
      · rwa [update_of_ne hid] at hx
    obtain ⟨y, hy, hyx⟩ := hm.covered x hold
    exact ⟨y, (hisSet y).mpr hy, (hlisting y).trans hyx⟩
  · intro x hx
    rw [hoffers] at hx ⊢
    obtain ⟨htaken, hchosen⟩ := hm.chosen x hx
    rw [hlistings]
    by_cases hid : (m.offers x).listingId = (m.agreements id).listingId
    · rw [hid, update_self]
      exact ⟨listingState_taken _, hid ▸ hchosen⟩
    · rw [update_of_ne hid]
      exact ⟨htaken, hchosen⟩

/-- A listing written with the state it has. -/
theorem update_listing_self {m : Marketplace} {id : Bytes32} {s : ListingState} (h : (m.listings id).state = s) :
    update m.listings id { m.listings id with state := s } = m.listings := by
  subst h
  exact update_eq_self id m.listings

/-- An agreement moves to another state in which its listing stays as it is. -/
theorem coherent_of_state (id : Bytes32) (a : Agreement) (hset : (m.agreements id).isSet) (hnew : a.isSet)
    (hterms : a.terms = (m.agreements id).terms)
    (hstate : a.state.listingState = (m.agreements id).state.listingState)
    (hagreements : m'.agreements = update m.agreements id a) (hlistings : m'.listings = m.listings)
    (hoffers : m'.offers = m.offers) (hm : Coherent m) : Coherent m' := by
  refine coherent_of_agreement id a hset hnew hterms hagreements ?_ hoffers hm
  rw [hlistings, update_listing_self]
  exact (hm.agrees id hset).listingState.trans hstate.symm

/-- An offer is accepted for a free listing. -/
theorem coherent_of_select {listingId offerId agreementId : Bytes32} {l : Listing} {o : Offer} {a : Agreement}
    (hfree : (m.listings listingId).state.taken = false) (hopen : (m.offers offerId).state ≠ .accepted)
    (hunset : ¬(m.agreements agreementId).isSet) (hset : a.isSet) (hlisting : a.listingId = listingId)
    (hoffer : a.offerId = offerId) (hagrees : Agrees a l o)
    (hlistings : m'.listings = update m.listings listingId l) (hoffers : m'.offers = update m.offers offerId o)
    (hagreements : m'.agreements = update m.agreements agreementId a) (hm : Coherent m) : Coherent m' := by
  have htaken : l.state.taken = true := by
    rw [hagrees.listingState]
    exact listingState_taken _
  have hne : ∀ x, (m.listings x).state.taken = true → x ≠ listingId := by
    rintro x hx rfl
    rw [hfree] at hx
    simp at hx
  -- an agreement that was there keeps its listing and its offer
  have hkept : ∀ x, x ≠ agreementId → (m'.agreements x).isSet →
      m'.agreements x = m.agreements x ∧ (m.agreements x).isSet := by
    intro x hx h
    rw [hagreements, update_of_ne hx] at h ⊢
    exact ⟨rfl, h⟩
  have hnew : m'.agreements agreementId = a := by rw [hagreements, update_self]
  constructor
  · intro x hx
    by_cases hid : x = agreementId
    · subst hid
      rw [hnew, hlisting, hoffer, hlistings, hoffers, update_self, update_self]
      exact hagrees
    · obtain ⟨heq, hold⟩ := hkept x hid hx
      have ha := hm.agrees x hold
      have ho : (m.agreements x).offerId ≠ offerId := fun h => hopen (h ▸ ha.offerState)
      rw [heq, hlistings, hoffers, update_of_ne (hne _ (hm.taken hold)), update_of_ne ho]
      exact ha
  · intro i j hi hj hij
    by_cases hia : i = agreementId
    · by_cases hja : j = agreementId
      · rw [hia, hja]
      · obtain ⟨heq, hold⟩ := hkept j hja hj
        rw [hia, hnew, hlisting, heq] at hij
        exact absurd hij.symm (hne _ (hm.taken hold))
    · obtain ⟨heqi, holdi⟩ := hkept i hia hi
      by_cases hja : j = agreementId
      · rw [hja, hnew, hlisting, heqi] at hij
        exact absurd hij (hne _ (hm.taken holdi))
      · obtain ⟨heqj, holdj⟩ := hkept j hja hj
        rw [heqi, heqj] at hij
        exact hm.unique i j holdi holdj hij
  · intro x hx
    by_cases hid : x = listingId
    · exact ⟨agreementId, by rw [hnew]; exact hset, by rw [hnew, hlisting, hid]⟩
    · rw [hlistings, update_of_ne hid] at hx
      obtain ⟨y, hy, hyx⟩ := hm.covered x hx
      have hya : y ≠ agreementId := fun h => hunset (h ▸ hy)
      exact ⟨y, by rwa [hagreements, update_of_ne hya], by rwa [hagreements, update_of_ne hya]⟩
  · intro x hx
    by_cases hid : x = offerId
    · subst hid
      rw [hoffers, update_self, hagrees.offerListing, hlisting, hlistings, update_self]
      exact ⟨htaken, hagrees.acceptedOfferId.trans hoffer⟩
    · rw [hoffers, update_of_ne hid] at hx ⊢
      obtain ⟨ht, hchosen⟩ := hm.chosen x hx
      rw [hlistings, update_of_ne (hne _ ht)]
      exact ⟨ht, hchosen⟩

end Changes

/-! ### Every trade -/

/-- An agreement that moves on keeps its listing matched. -/
theorem advance_listingState {s s' : AgreementState} (h : Advance s s') :
    s ≠ .unset ∧ s' ≠ .unset ∧ s'.listingState = s.listingState := by
  cases h with
  | timeOut hs => rcases hs with rfl | rfl <;> simp [AgreementState.listingState]
  | dispute hs => rcases hs with rfl | rfl | rfl <;> simp [AgreementState.listingState]
  | confirm | dispatch | deliver | accept => simp [AgreementState.listingState]

section Trades

variable {self : Address} {m m' : Marketplace} {b b' : Batteries}

theorem trade_coherent (h : Trade self m b m' b') (hm : Coherent m) : Coherent m' := by
  cases h with
  | list id l hunset hactive =>
    refine coherent_of_listing (m := m) id l ?_ ?_ rfl rfl rfl hm
    · rw [hunset]
      rfl
    · rw [hactive]
      rfl
  | closeListing id s hs hactive =>
    refine coherent_of_listing (m := m) id _ ?_ ?_ rfl rfl rfl hm
    · rw [hactive]
      rfl
    · rcases hs with rfl | rfl <;> rfl
  | submit id o hunset hsubmitted =>
    exact coherent_of_offer (m := m) id o (by rw [hunset]; simp) (by rw [hsubmitted]; simp) rfl rfl rfl hm
  | closeOffer id s hs hsubmitted =>
    refine coherent_of_offer (m := m) id _ (by rw [hsubmitted]; simp) ?_ rfl rfl rfl hm
    rcases hs with rfl | rfl | rfl <;> simp
  | select input hactive hsubmitted hlisting hunset =>
    have hagrees : Agrees (Marketplace.newAgreement (m.listings input.listingId) (m.offers input.offerId) input)
        { m.listings input.listingId with state := .matched, acceptedOfferId := input.offerId }
        { m.offers input.offerId with state := .accepted } :=
      ⟨rfl, rfl, rfl, hlisting, rfl, rfl, rfl, rfl, rfl, rfl, rfl, rfl⟩
    have hfree : (m.listings input.listingId).state.taken = false := by rw [hactive]; rfl
    have hopen : (m.offers input.offerId).state ≠ .accepted := by rw [hsubmitted]; simp
    refine coherent_of_select (m := m) hfree hopen (not_not.mpr hunset) ?_ rfl rfl hagrees rfl rfl rfl hm
    simp [Agreement.isSet, Marketplace.newAgreement]
  | advance id s disputeId actions events hs =>
    obtain ⟨hset, hnew, hlisting⟩ := advance_listingState hs
    exact coherent_of_state (m := m) id { m.agreements id with state := s, disputeId := disputeId } hset hnew
      rfl hlisting rfl rfl rfl hm
  | fund id hstate =>
    refine coherent_of_state (m := m) id { m.agreements id with state := .funded } ?_ (by simp [Agreement.isSet])
      rfl ?_ rfl rfl rfl hm
    · simp [Agreement.isSet, hstate]
    · rw [hstate]
      rfl
  | release id credit hstate =>
    refine coherent_of_agreement (m := m) id { m.agreements id with state := .settled } ?_
      (by simp [Agreement.isSet]) rfl rfl rfl rfl hm
    rcases hstate with hs | hs | hs <;> simp [Agreement.isSet, hs]
  | refund id credit hstate =>
    refine coherent_of_agreement (m := m) id { m.agreements id with state := .cancelled } ?_
      (by simp [Agreement.isSet]) rfl rfl rfl rfl hm
    rcases hstate with hs | hs | hs <;> simp [Agreement.isSet, hs]
  | cancel id hstate =>
    refine coherent_of_agreement (m := m) id { m.agreements id with state := .cancelled } ?_
      (by simp [Agreement.isSet]) rfl rfl rfl rfl hm
    rcases hstate with hs | hs <;> simp [Agreement.isSet, hs]

/-- An agreement of given terms. -/
def HasTerms (id : Bytes32) (terms : Agreement) (m : Marketplace) : Prop :=
  (m.agreements id).isSet ∧ (m.agreements id).terms = terms

theorem hasTerms_of_agreement {terms : Agreement} (id id' : Bytes32) (a : Agreement) (hnew : a.isSet)
    (hterms : a.terms = (m.agreements id').terms) (hagreements : m'.agreements = update m.agreements id' a)
    (hm : HasTerms id terms m) : HasTerms id terms m' := by
  unfold HasTerms
  rw [hagreements]
  by_cases hid : id = id'
  · subst hid
    rw [update_self]
    exact ⟨hnew, hterms.trans hm.2⟩
  · rw [update_of_ne hid]
    exact hm

theorem trade_hasTerms {id : Bytes32} {terms : Agreement} (h : Trade self m b m' b') (hm : HasTerms id terms m) :
    HasTerms id terms m' := by
  cases h with
  | list | closeListing | submit | closeOffer => exact hm
  | select input _ _ _ hunset =>
    have hne : id ≠ input.agreementId := by
      rintro rfl
      exact hm.1 hunset
    refine ⟨?_, ?_⟩
    · simpa [update_of_ne hne] using hm.1
    · simpa [update_of_ne hne] using hm.2
  | advance id' s disputeId actions events hs =>
    exact hasTerms_of_agreement (m := m) id id' { m.agreements id' with state := s, disputeId := disputeId }
      (advance_listingState hs).2.1 rfl rfl hm
  | fund id' =>
    exact hasTerms_of_agreement (m := m) id id' { m.agreements id' with state := .funded }
      (by simp [Agreement.isSet]) rfl rfl hm
  | release id' =>
    exact hasTerms_of_agreement (m := m) id id' { m.agreements id' with state := .settled }
      (by simp [Agreement.isSet]) rfl rfl hm
  | refund id' | cancel id' =>
    exact hasTerms_of_agreement (m := m) id id' { m.agreements id' with state := .cancelled }
      (by simp [Agreement.isSet]) rfl rfl hm

end Trades

/-! ### Every run -/

/-- A fact about the listings, offers and agreements that trades keep holds in
every state of a run. -/
theorem records_rule (self : D.Market) {I : Marketplace → Prop}
    (hsame : ∀ m m', m'.listings = m.listings → m'.offers = m.offers → m'.agreements = m.agreements → I m → I m')
    (htrade : ∀ m b m' b', Trade self.1 m b m' b' → I m → I m') (ls : List D.Step)
    {s : CallState (Chain D) (Withdrawal D)} (h : Sound (fun c _ => I (c.markets self)) s.state s.pending) :
    Sound (fun c _ => I (c.markets self)) (run (machine D).step s ls).state (run (machine D).step s ls).pending := by
  refine trade_rule self (I := fun m _ _ => I m) (fun m b m' b' ps => htrade m b m' b') (fun m b b' ps _ hm => hm)
    (fun m m' amount b ps msg hw hm => ?_) (fun m b ps recipient amount hm => hsame m _ rfl rfl rfl hm) ls h
  obtain ⟨_, _, rfl⟩ := withdrawCredits_ok hw
  exact hsame m _ rfl rfl rfl hm

theorem coherent_of_same {m m' : Marketplace} (hl : m'.listings = m.listings) (ho : m'.offers = m.offers)
    (ha : m'.agreements = m.agreements) (hm : Coherent m) : Coherent m' := by
  constructor
  · rw [hl, ho, ha]
    exact hm.agrees
  · rw [ha]
    exact hm.unique
  · rw [hl, ha]
    exact hm.covered
  · rw [hl, ho]
    exact hm.chosen

theorem after_coherent (D : Deployment) (self : D.Market) (ls : List D.Step) :
    Coherent ((after D ls).state.markets self) :=
  (records_rule self (fun _ _ => coherent_of_same) (fun _ _ _ _ => trade_coherent) ls
    (s := ⟨Chain.deployed D, []⟩) deployed_coherent).now

/-- A listing is in the state of the agreement it has. -/
theorem Coherent.listing_iff {m : Marketplace} (hm : Coherent m) {s : ListingState} (hs : s.taken = true)
    (listingId : Bytes32) :
    (m.listings listingId).state = s ↔ ∃ id, (m.agreements id).isSet ∧
      (m.agreements id).listingId = listingId ∧ (m.agreements id).state.listingState = s := by
  constructor
  · intro h
    obtain ⟨id, hset, hid⟩ := hm.covered listingId (by rw [h]; exact hs)
    refine ⟨id, hset, hid, ?_⟩
    rw [← (hm.agrees id hset).listingState, hid]
    exact h
  · rintro ⟨id, hset, rfl, rfl⟩
    exact (hm.agrees id hset).listingState

/-- **Listings, offers and agreements agree** in every state of every run: a
listing has at most one agreement and follows its state; the agreement repeats
the terms of its listing and of the offer accepted for it, the only one; and
once it is made, no withdrawal being pending, its terms never change. -/
theorem records_coherent (D : Deployment) (self : D.Market) (ls : List D.Step) :
    let m := (after D ls).state.markets self
    (∀ i j, (m.agreements i).isSet → (m.agreements j).isSet →
      (m.agreements i).listingId = (m.agreements j).listingId → i = j) ∧
    (∀ listingId,
      ((m.listings listingId).state = .matched ↔ ∃ id, (m.agreements id).isSet ∧
        (m.agreements id).listingId = listingId ∧ (m.agreements id).state ≠ .settled ∧
        (m.agreements id).state ≠ .cancelled) ∧
      ((m.listings listingId).state = .closedSettled ↔ ∃ id, (m.agreements id).listingId = listingId ∧
        (m.agreements id).state = .settled) ∧
      ((m.listings listingId).state = .closedCancelled ↔ ∃ id, (m.agreements id).listingId = listingId ∧
        (m.agreements id).state = .cancelled)) ∧
    (∀ id, (m.agreements id).isSet →
      Agrees (m.agreements id) (m.listings (m.agreements id).listingId) (m.offers (m.agreements id).offerId) ∧
      ∀ offerId, (m.offers offerId).state = .accepted →
        (m.offers offerId).listingId = (m.agreements id).listingId → offerId = (m.agreements id).offerId) ∧
    ((after D ls).pending = [] → ∀ (ls' : List D.Step) (id : Bytes32), (m.agreements id).isSet →
      (((after D (ls ++ ls')).state.markets self).agreements id).isSet ∧
      (((after D (ls ++ ls')).state.markets self).agreements id).terms = (m.agreements id).terms) := by
  intro m
  have hm : Coherent m := after_coherent D self ls
  refine ⟨hm.unique, fun listingId => ⟨?_, ?_, ?_⟩, fun id hset => ⟨hm.agrees id hset, ?_⟩, ?_⟩
  · rw [hm.listing_iff rfl]
    refine exists_congr fun id => and_congr_right fun _ => and_congr_right fun _ => ?_
    cases (m.agreements id).state <;> simp [AgreementState.listingState]
  · rw [hm.listing_iff rfl]
    refine exists_congr fun id => ?_
    unfold Agreement.isSet
    cases (m.agreements id).state <;> simp [AgreementState.listingState]
  · rw [hm.listing_iff rfl]
    refine exists_congr fun id => ?_
    unfold Agreement.isSet
    cases (m.agreements id).state <;> simp [AgreementState.listingState]
  · intro offerId haccepted hlisting
    obtain ⟨_, hchosen⟩ := hm.chosen offerId haccepted
    rw [hlisting, (hm.agrees id hset).acceptedOfferId] at hchosen
    exact hchosen.symm
  · intro hrest ls' id hset
    have hnow : HasTerms id (m.agreements id).terms m := ⟨hset, rfl⟩
    have h := records_rule self (I := HasTerms id (m.agreements id).terms)
      (fun m m' _ _ ha hI => by unfold HasTerms; rw [ha]; exact hI)
      (fun _ _ _ _ => trade_hasTerms) ls' (s := after D ls) (by rw [hrest]; exact hnow)
    rw [after, run_append]
    exact h.now

end Contracts
end Evllm
