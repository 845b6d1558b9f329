/-
# One bundle, one record

A listing, an agreement and an action of a marketplace each link a protected
bundle. The bundle is confirmed for the id of the record that links it, and the
id of a listing or an agreement is bound to one marketplace for good. So no
bundle is linked from two records of a marketplace, however often modules are
replaced.

What matters of a marketplace here is little (`RecordView`), and a call changes
it in few ways (`RecordChange`). The actions that a marketplace has consumed are
not all in its storage: they are noted beside the run (`consumed`).

Key definitions: `Marketplace.aggregateBundle`, `RecordChange`, `RecordsLinked`, `consumed`.
Key theorems: `market_records`, `after_recordsLinked`, `one_bundle_one_record`.
-/
import Evllm.Contracts.Bundles
import Evllm.Contracts.Coherence

namespace Evllm
namespace Contracts

open Lib Function

/-! ### Records -/

/-- What a marketplace holds under an id that it is the origin of. -/
inductive AggregateKind where
  | listing
  | agreement
  deriving DecidableEq

/-- The type of the bundles that aggregates of a kind link. -/
def AggregateKind.bundleType (crypto : Crypto) : AggregateKind → Bytes32
  | .listing => Marketplace.listingBundleType crypto
  | .agreement => Marketplace.agreementBundleType crypto

/-- The marketplace holds an aggregate of the kind under the id. -/
def Marketplace.Holds (m : Marketplace) : AggregateKind → Bytes32 → Prop
  | .listing, id => (m.listings id).state ≠ .unset
  | .agreement, id => (m.agreements id).state ≠ .unset

/-- The bundle that an aggregate links. -/
def Marketplace.aggregateBundle (m : Marketplace) : AggregateKind → Bytes32 → Option Bytes32
  | .listing, id => if (m.listings id).state = .unset then none else some (m.listings id).bundleKey
  | .agreement, id => if (m.agreements id).state = .unset then none else some (m.agreements id).bundleKey

theorem holds_iff {m : Marketplace} {kind : AggregateKind} {id : Bytes32} :
    m.Holds kind id ↔ ∃ key, m.aggregateBundle kind id = some key := by
  cases kind with
  | listing => by_cases h : (m.listings id).state = .unset <;> simp [Marketplace.Holds, Marketplace.aggregateBundle, h]
  | agreement =>
    by_cases h : (m.agreements id).state = .unset <;> simp [Marketplace.Holds, Marketplace.aggregateBundle, h]

/-- The action that a call consumes: a dispatch, a delivery or a dispute. -/
def MarketOp.consumes : MarketOp → Option ProtectedAction
  | .recordDispatch _ action => some action
  | .recordDelivery _ action => some action
  | .openTransactionDispute _ action => some action
  | _ => none

/-- The type of the bundles that actions link. -/
def IsActionType (crypto : Crypto) (bundleType : Bytes32) : Prop :=
  bundleType = Marketplace.logisticsBundleType crypto ∨ bundleType = Marketplace.disputeBundleType crypto

/-- The bundle is confirmed for the domain key, as one of the type. -/
structure ConfirmedFor (r : ProtectedBundleRegistry) (bundleKey domainKey bundleType : Bytes32) : Prop where
  confirmed : (r.commitments bundleKey).confirmed = true
  domain : (r.commitments bundleKey).domainKey = domainKey
  type : (r.commitments bundleKey).bundleType = bundleType

theorem confirmedFor_of_require {regs : Registries} {bundleKey domainKey bundleType payload : Bytes32}
    {controller : Address}
    (h : Marketplace.requireBundle regs bundleKey domainKey bundleType payload controller = .ok ()) :
    ConfirmedFor regs.bundles bundleKey domainKey bundleType := by
  simp only [Marketplace.requireBundle, throwIf_eq_ok, not_or, Bool.not_eq_false] at h
  have hlink := h.1
  simp only [ProtectedBundleRegistry.isConfirmedLink, Bool.and_eq_true, decide_eq_true_eq] at hlink
  exact ⟨hlink.1.1.1.1, hlink.1.1.1.2, hlink.1.1.2⟩

theorem Extends.confirmedFor {r r' : ProtectedBundleRegistry} (h : Extends r r')
    {bundleKey domainKey bundleType : Bytes32} (hc : ConfirmedFor r bundleKey domainKey bundleType) :
    ConfirmedFor r' bundleKey domainKey bundleType := by
  have hfields := (h bundleKey hc.confirmed).fields
  constructor
  · rw [hfields]
    exact hc.confirmed
  · rw [hfields]
    exact hc.domain
  · rw [hfields]
    exact hc.type

/-! ### What a call does to them -/

/-- The registries and a marketplace, as far as records go. -/
structure RecordView where
  bundles : ProtectedBundleRegistry
  origin : Bytes32 → Address
  bundle : AggregateKind → Bytes32 → Option Bytes32
  actions : Bytes32 → Bool

def recordView (regs : Registries) (m : Marketplace) : RecordView :=
  ⟨regs.bundles, regs.deployment.originModule, m.aggregateBundle, m.protectedActions⟩

/-- A call of the marketplace at `im.self`, with the action it consumes. -/
inductive RecordChange (im : Immutables) (v : RecordView) : Option ProtectedAction → RecordView → Prop
  | same : RecordChange im v none v
  | created (kind : AggregateKind) (id bundleKey : Bytes32) (hfresh : v.origin id = 0)
      (hlink : ConfirmedFor v.bundles bundleKey id (kind.bundleType im.crypto)) :
      RecordChange im v none { v with
        origin := update v.origin id im.self
        bundle := update v.bundle kind (update (v.bundle kind) id (some bundleKey)) }
  | consumed (action : ProtectedAction) (bundleType : Bytes32) (htype : IsActionType im.crypto bundleType)
      (hunused : v.actions action.actionId = false)
      (hlink : ConfirmedFor v.bundles action.bundleKey action.actionId bundleType) :
      RecordChange im v (some action) { v with actions := update v.actions action.actionId true }

section Views

variable {m m' : Marketplace} (id : Bytes32)

theorem aggregateBundle_of_same (hlistings : m'.listings = m.listings) (hagreements : m'.agreements = m.agreements) :
    m'.aggregateBundle = m.aggregateBundle := by
  funext kind id
  cases kind with
  | listing => simp only [Marketplace.aggregateBundle, hlistings]
  | agreement => simp only [Marketplace.aggregateBundle, hagreements]

/-- A listing is written. -/
theorem aggregateBundle_listing {key : Bytes32} (l : Listing) (hset : l.state ≠ .unset)
    (hlistings : m'.listings = update m.listings id l) (hkey : l.bundleKey = key)
    (hagreements : m'.agreements = m.agreements) :
    m'.aggregateBundle =
      update m.aggregateBundle .listing (update (m.aggregateBundle .listing) id (some key)) := by
  funext kind x
  cases kind with
  | listing =>
    rw [update_self]
    by_cases hx : x = id
    · subst hx
      rw [update_self]
      simp [Marketplace.aggregateBundle, hlistings, hset, hkey]
    · rw [update_of_ne hx]
      simp [Marketplace.aggregateBundle, hlistings, hx]
  | agreement => simp [Marketplace.aggregateBundle, hagreements]

/-- An agreement is written. -/
theorem aggregateBundle_agreement {key : Bytes32} (a : Agreement) (hset : a.state ≠ .unset)
    (hagreements : m'.agreements = update m.agreements id a) (hkey : a.bundleKey = key)
    (hlistings : m'.listings = m.listings) :
    m'.aggregateBundle =
      update m.aggregateBundle .agreement (update (m.aggregateBundle .agreement) id (some key)) := by
  funext kind x
  cases kind with
  | agreement =>
    rw [update_self]
    by_cases hx : x = id
    · subst hx
      rw [update_self]
      simp [Marketplace.aggregateBundle, hagreements, hset, hkey]
    · rw [update_of_ne hx]
      simp [Marketplace.aggregateBundle, hagreements, hx]
  | listing => simp [Marketplace.aggregateBundle, hlistings]

/-- A listing that is there changes, and links the bundle it linked. -/
theorem aggregateBundle_listing_kept (l : Listing) (hset : l.state ≠ .unset) (hold : (m.listings id).state ≠ .unset)
    (hkey : l.bundleKey = (m.listings id).bundleKey) (hlistings : m'.listings = update m.listings id l)
    (hagreements : m'.agreements = m.agreements) : m'.aggregateBundle = m.aggregateBundle := by
  have hbundle : some (m.listings id).bundleKey = m.aggregateBundle .listing id := by
    simp [Marketplace.aggregateBundle, hold]
  rw [aggregateBundle_listing id l hset hlistings hkey hagreements, hbundle, update_eq_self, update_eq_self]

/-- An agreement that is there changes, and links the bundle it linked. -/
theorem aggregateBundle_agreement_kept (a : Agreement) (hset : a.state ≠ .unset)
    (hold : (m.agreements id).state ≠ .unset) (hkey : a.bundleKey = (m.agreements id).bundleKey)
    (hagreements : m'.agreements = update m.agreements id a) (hlistings : m'.listings = m.listings) :
    m'.aggregateBundle = m.aggregateBundle := by
  have hbundle : some (m.agreements id).bundleKey = m.aggregateBundle .agreement id := by
    simp [Marketplace.aggregateBundle, hold]
  rw [aggregateBundle_agreement id a hset hagreements hkey hlistings, hbundle, update_eq_self, update_eq_self]

/-- An agreement is closed with its listing, which is there as every listing of
an agreement is. -/
theorem aggregateBundle_close {s : AgreementState} {l : ListingState} (hm : Coherent m)
    (hold : (m.agreements id).state ≠ .unset) (hs : s ≠ .unset) (hl : l ≠ .unset) :
    (m.closeAgreement id s l).aggregateBundle = m.aggregateBundle := by
  have hlisting : (m.listings (m.agreements id).listingId).state ≠ .unset := by
    intro hunset
    have hagreement : (m.agreements id).isSet := hold
    have htaken := hm.taken hagreement
    rw [hunset] at htaken
    cases htaken
  have hfirst : (m.setAgreementState id s).aggregateBundle = m.aggregateBundle :=
    aggregateBundle_agreement_kept id { m.agreements id with state := s } hs hold rfl rfl rfl
  rw [← hfirst]
  exact aggregateBundle_listing_kept (m.agreements id).listingId
    { m.listings (m.agreements id).listingId with state := l } hl hlisting rfl rfl rfl

end Views

section Functions

open Marketplace

variable {im : Immutables} {regs regs' : Registries} {m m' : Marketplace} {msg : Msg}

theorem records_same (hbundles : regs'.bundles = regs.bundles) (hdeployment : regs'.deployment = regs.deployment)
    (haggregates : m'.aggregateBundle = m.aggregateBundle) (hactions : m'.protectedActions = m.protectedActions) :
    RecordChange im (recordView regs m) none (recordView regs' m') := by
  unfold recordView
  rw [hbundles, hdeployment, haggregates, hactions]
  exact .same

/-- Neither listings, agreements nor actions change. -/
theorem records_aside (hlistings : m'.listings = m.listings) (hagreements : m'.agreements = m.agreements)
    (hactions : m'.protectedActions = m.protectedActions) :
    RecordChange im (recordView regs m) none (recordView regs m') :=
  records_same rfl rfl (aggregateBundle_of_same hlistings hagreements) hactions

theorem records_created (kind : AggregateKind) (id bundleKey : Bytes32)
    (hlink : ConfirmedFor regs.bundles bundleKey id (kind.bundleType im.crypto))
    (hbundles : regs'.bundles = regs.bundles)
    (horigin : regs.deployment.originModule id = 0 ∧
      regs'.deployment.originModule = update regs.deployment.originModule id im.self)
    (haggregates : m'.aggregateBundle =
      update m.aggregateBundle kind (update (m.aggregateBundle kind) id (some bundleKey)))
    (hactions : m'.protectedActions = m.protectedActions) :
    RecordChange im (recordView regs m) none (recordView regs' m') := by
  unfold recordView
  rw [hbundles, horigin.2, haggregates, hactions]
  exact .created kind id bundleKey horigin.1 hlink

theorem bindAggregateOrigin_ok {r r' : DeploymentRegistry} {aggregateId : Bytes32}
    (h : r.bindAggregateOrigin msg aggregateId = .ok r') :
    r.originModule aggregateId = 0 ∧ r'.originModule = update r.originModule aggregateId msg.sender := by
  simp only [DeploymentRegistry.bindAggregateOrigin, bind_eq_ok, throwIf_eq_ok, pure_eq_ok] at h
  obtain ⟨_, _, _, hfree, _, _, rfl⟩ := h
  exact ⟨not_not.mp hfree, rfl⟩

theorem createListing_records {input : ListingInput} (h : m.createListing im regs msg input = .ok (regs', m')) :
    RecordChange im (recordView regs m) none (recordView regs' m') := by
  simp only [createListing, bind_eq_ok, throwIf_eq_ok, pure_eq_ok, Prod.mk.injEq] at h
  obtain ⟨_, _, _, _, _, _, _, _, _, _, _, _, _, _, _, _, _, hbundle, _, _, _, hbind, rfl, rfl⟩ := h
  refine records_created .listing input.listingId input.bundleKey (confirmedFor_of_require hbundle) rfl
    (bindAggregateOrigin_ok hbind) ?_ rfl
  refine aggregateBundle_listing input.listingId _ ?_ rfl rfl rfl
  simp

theorem selectOfferAndCreateAgreement_records {input : AgreementInput}
    (h : m.selectOfferAndCreateAgreement im regs msg input = .ok (regs', m')) :
    RecordChange im (recordView regs m) none (recordView regs' m') := by
  simp only [selectOfferAndCreateAgreement, bind_eq_ok, throwIf_eq_ok, pure_eq_ok, Prod.mk.injEq] at h
  obtain ⟨_, _, _, _, _, hstates, _, _, _, _, _, _, _, hbundle, _, hbind, rfl, rfl⟩ := h
  simp only [not_or, not_not] at hstates
  obtain ⟨hactive, -⟩ := hstates
  refine records_created .agreement input.agreementId input.bundleKey (confirmedFor_of_require hbundle) rfl
    (bindAggregateOrigin_ok hbind) ?_ rfl
  -- the listing is matched first, which changes no bundle
  have hmatched : (m.setListing input.listingId
      { m.listings input.listingId with state := .matched, acceptedOfferId := input.offerId }).aggregateBundle =
      m.aggregateBundle :=
    aggregateBundle_listing_kept input.listingId
      { m.listings input.listingId with state := .matched, acceptedOfferId := input.offerId } (by simp)
      (by simp [hactive]) rfl rfl rfl
  rw [← hmatched]
  exact aggregateBundle_agreement input.agreementId
    (newAgreement (m.listings input.listingId) (m.offers input.offerId) input) (by simp [newAgreement]) rfl rfl rfl

theorem consumeProtectedAction_records {agreementId bundleType capability : Bytes32} {action : ProtectedAction}
    (htype : IsActionType im.crypto bundleType) {used : Marketplace}
    (h : consumeProtectedAction regs m msg agreementId action bundleType capability = .ok used)
    (haggregates : m'.aggregateBundle = used.aggregateBundle) (hactions : m'.protectedActions = used.protectedActions) :
    RecordChange im (recordView regs m) (some action) (recordView regs m') := by
  simp only [consumeProtectedAction, bind_eq_ok, throwIf_eq_ok, pure_eq_ok] at h
  obtain ⟨_, hunused, _, _, _, hbundle, rfl⟩ := h
  have hkept : (m.useAction action.actionId).aggregateBundle = m.aggregateBundle := aggregateBundle_of_same rfl rfl
  unfold recordView
  rw [haggregates, hkept, hactions]
  exact .consumed action bundleType htype (by simpa using (not_or.mp hunused).2) (confirmedFor_of_require hbundle)

/-- A call that leaves the registries alone. -/
theorem keeping_records {result : Except Revert Marketplace} {act : Option ProtectedAction}
    (hresult : ∀ m', result = .ok m' → RecordChange im (recordView regs m) act (recordView regs m'))
    (h : keeping regs result = .ok (regs', m')) : RecordChange im (recordView regs m) act (recordView regs' m') := by
  simp only [keeping, bind_eq_ok, pure_eq_ok, Prod.mk.injEq] at h
  obtain ⟨_, hok, rfl, rfl⟩ := h
  exact hresult _ hok

/-- A listing's state changes. -/
theorem records_listingState {listingId : Bytes32} {s : ListingState} (hs : s ≠ .unset)
    (hold : (m.listings listingId).state ≠ .unset) (hbundles : regs'.bundles = regs.bundles)
    (hdeployment : regs'.deployment = regs.deployment) (events : List Event) :
    RecordChange im (recordView regs m) none (recordView regs' ((m.setListingState listingId s).emit events)) :=
  records_same hbundles hdeployment
    (aggregateBundle_listing_kept listingId { m.listings listingId with state := s } hs hold rfl rfl rfl) rfl

/-- An agreement's state changes. -/
theorem records_agreementState {agreementId : Bytes32} {s : AgreementState} (hs : s ≠ .unset)
    (hold : (m.agreements agreementId).state ≠ .unset) (events : List Event) :
    RecordChange im (recordView regs m) none (recordView regs ((m.setAgreementState agreementId s).emit events)) :=
  records_same rfl rfl
    (aggregateBundle_agreement_kept agreementId { m.agreements agreementId with state := s } hs hold rfl rfl rfl) rfl

theorem releaseAndTransfer_records {agreementId : Bytes32} (hm : Coherent m)
    (hold : (m.agreements agreementId).state ≠ .unset)
    (h : m.releaseAndTransfer im regs msg agreementId = .ok (regs', m')) :
    RecordChange im (recordView regs m) none (recordView regs' m') := by
  simp only [releaseAndTransfer, bind_eq_ok, pure_eq_ok, Prod.mk.injEq] at h
  obtain ⟨_, _, _, _, rfl, rfl⟩ := h
  exact records_same rfl rfl (aggregateBundle_close agreementId hm hold (by simp) (by simp)) rfl

theorem refundAndCancel_records {agreementId : Bytes32} (hm : Coherent m)
    (hold : (m.agreements agreementId).state ≠ .unset)
    (h : m.refundAndCancel im regs msg agreementId = .ok (regs', m')) :
    RecordChange im (recordView regs m) none (recordView regs' m') := by
  simp only [refundAndCancel, bind_eq_ok, pure_eq_ok, Prod.mk.injEq] at h
  obtain ⟨_, _, _, _, rfl, rfl⟩ := h
  exact records_same rfl rfl (aggregateBundle_close agreementId hm hold (by simp) (by simp)) rfl

/-- **What a call of a marketplace does to its records.** -/
theorem market_records {op : MarketOp} (hm : Coherent m) (h : op.exec im regs m msg = .ok (regs', m')) :
    RecordChange im (recordView regs m) op.consumes (recordView regs' m') := by
  cases op with
  | createListing => exact createListing_records h
  | selectOfferAndCreateAgreement => exact selectOfferAndCreateAgreement_records h
  | withdrawListing listingId =>
    simp only [MarketOp.exec, withdrawListing, bind_eq_ok, throwIf_eq_ok, pure_eq_ok, Prod.mk.injEq] at h
    obtain ⟨_, _, _, hactive, _, _, _, _, rfl, rfl⟩ := h
    exact records_listingState (by simp) (by simp [not_not.mp hactive]) rfl rfl _
  | expireListing listingId =>
    simp only [MarketOp.exec, expireListing, bind_eq_ok, throwIf_eq_ok, pure_eq_ok, Prod.mk.injEq] at h
    obtain ⟨_, _, _, hactive, _, _, _, _, rfl, rfl⟩ := h
    exact records_listingState (by simp) (by simp [not_not.mp hactive]) rfl rfl _
  | submitOffer input =>
    refine keeping_records (fun m' hok => ?_) h
    simp only [submitOffer, bind_eq_ok, throwIf_eq_ok, pure_eq_ok] at hok
    obtain ⟨_, _, _, _, _, _, _, _, _, _, _, _, _, _, rfl⟩ := hok
    exact records_aside rfl rfl rfl
  | withdrawOffer offerId =>
    refine keeping_records (fun m' hok => ?_) h
    simp only [withdrawOffer, bind_eq_ok, throwIf_eq_ok, pure_eq_ok] at hok
    obtain ⟨_, _, _, _, _, _, rfl⟩ := hok
    exact records_aside rfl rfl rfl
  | rejectOffer offerId =>
    refine keeping_records (fun m' hok => ?_) h
    simp only [rejectOffer, bind_eq_ok, throwIf_eq_ok, pure_eq_ok] at hok
    obtain ⟨_, _, _, _, _, _, rfl⟩ := hok
    exact records_aside rfl rfl rfl
  | expireOffer offerId =>
    refine keeping_records (fun m' hok => ?_) h
    simp only [expireOffer, bind_eq_ok, throwIf_eq_ok, pure_eq_ok] at hok
    obtain ⟨_, _, _, _, _, _, rfl⟩ := hok
    exact records_aside rfl rfl rfl
  | confirmAgreement agreementId digest =>
    refine keeping_records (fun m' hok => ?_) h
    simp only [confirmAgreement, bind_eq_ok, throwIf_eq_ok, pure_eq_ok] at hok
    obtain ⟨_, _, _, hstate, _, _, _, _, rfl⟩ := hok
    exact records_agreementState (by simp) (by simp [not_not.mp hstate]) _
  | fundAgreement agreementId value =>
    refine keeping_records (fun m' hok => ?_) h
    simp only [fundAgreement, bind_eq_ok, throwIf_eq_ok, pure_eq_ok] at hok
    obtain ⟨_, _, _, hstate, _, _, _, _, _, _, rfl⟩ := hok
    refine records_same rfl rfl ?_ rfl
    exact aggregateBundle_agreement_kept agreementId { m.agreements agreementId with state := .funded } (by simp)
      (by simp [not_not.mp hstate]) rfl rfl rfl
  | cancelUnfundedAgreement agreementId =>
    simp only [MarketOp.exec, cancelUnfundedAgreement, cancelWithoutFunds, bind_eq_ok, throwIf_eq_ok, pure_eq_ok,
      Prod.mk.injEq] at h
    obtain ⟨_, _, _, hstate, _, _, _, _, rfl, rfl⟩ := h
    have hold : (m.agreements agreementId).state ≠ .unset := fun hunset => hstate (by simp [hunset])
    exact records_same rfl rfl (aggregateBundle_close agreementId hm hold (by simp) (by simp)) rfl
  | recordDispatch agreementId action =>
    refine keeping_records (fun m' hok => ?_) h
    simp only [recordDispatch, bind_eq_ok, throwIf_eq_ok, pure_eq_ok] at hok
    obtain ⟨_, _, _, hstate, used, haction, rfl⟩ := hok
    refine consumeProtectedAction_records (.inl rfl) haction ?_ rfl
    rw [consumeProtectedAction_ok haction]
    exact aggregateBundle_agreement_kept (m := m.useAction action.actionId) agreementId
      { m.agreements agreementId with state := .inDelivery } (by simp) (by simp [not_not.mp (not_or.mp hstate).1])
      rfl rfl rfl
  | recordDelivery agreementId action =>
    refine keeping_records (fun m' hok => ?_) h
    simp only [recordDelivery, bind_eq_ok, throwIf_eq_ok, pure_eq_ok] at hok
    obtain ⟨_, _, _, hstate, used, haction, rfl⟩ := hok
    refine consumeProtectedAction_records (.inl rfl) haction ?_ rfl
    rw [consumeProtectedAction_ok haction]
    exact aggregateBundle_agreement_kept (m := m.useAction action.actionId) agreementId
      { m.agreements agreementId with state := .delivered } (by simp) (by simp [not_not.mp (not_or.mp hstate).1])
      rfl rfl rfl
  | openTransactionDispute agreementId action =>
    refine keeping_records (fun m' hok => ?_) h
    simp only [openTransactionDispute, bind_eq_ok, throwIf_eq_ok, pure_eq_ok] at hok
    obtain ⟨_, _, _, hstate, _, _, _, _, used, haction, rfl⟩ := hok
    refine consumeProtectedAction_records (.inr rfl) haction ?_ rfl
    rw [consumeProtectedAction_ok haction]
    have hold : (m.agreements agreementId).state ≠ .unset := fun hunset => hstate (by simp [hunset])
    exact aggregateBundle_agreement_kept (m := m.useAction action.actionId) agreementId
      { m.agreements agreementId with disputeId := action.actionId, state := .disputed } (by simp) hold rfl rfl rfl
  | acceptDelivery agreementId =>
    refine keeping_records (fun m' hok => ?_) h
    simp only [acceptDelivery, bind_eq_ok, throwIf_eq_ok, pure_eq_ok] at hok
    obtain ⟨_, _, _, hstate, _, _, _, _, _, _, rfl⟩ := hok
    exact records_agreementState (by simp) (by simp [not_not.mp hstate]) _
  | applyDispatchTimeout agreementId =>
    simp only [MarketOp.exec, applyDispatchTimeout, bind_eq_ok, throwIf_eq_ok] at h
    obtain ⟨_, _, _, hstate, _, _, h⟩ := h
    exact refundAndCancel_records hm (by simp [not_not.mp hstate]) h
  | applyDeliveryOrAcceptanceTimeout agreementId =>
    refine keeping_records (fun m' hok => ?_) h
    simp only [applyDeliveryOrAcceptanceTimeout, bind_eq_ok, throwIf_eq_ok, pure_eq_ok] at hok
    obtain ⟨_, _, late, hlate, _, hdue, rfl⟩ := hok
    refine records_agreementState (by simp) (fun hunset => hdue ?_) _
    have hnot : false = late := by simpa [acceptanceLate, hunset, pure_eq_ok] using hlate
    simp [hunset, ← hnot]
  | resolveAgreement agreementId organizationId credentialId resolution =>
    simp only [MarketOp.exec, resolveAgreement, bind_eq_ok, throwIf_eq_ok] at h
    obtain ⟨_, _, _, hstate, _, _, _, _, h⟩ := h
    have hold : (m.agreements agreementId).state ≠ .unset := fun hunset => hstate (by simp [hunset])
    cases resolution with
    | releaseAndTransfer => exact releaseAndTransfer_records hm hold h
    | refundAndCancel => exact refundAndCancel_records hm hold h
  | settleAccepted agreementId =>
    simp only [MarketOp.exec, settleAccepted, bind_eq_ok, throwIf_eq_ok] at h
    obtain ⟨_, _, _, hstate, h⟩ := h
    exact releaseAndTransfer_records hm (by simp [not_not.mp hstate]) h

end Functions

/-! ### What every run keeps -/

/-- The records of the marketplace at `holder`, with the actions it has consumed. -/
structure RecordsLinked (crypto : Crypto) (holder : Address) (v : RecordView) (consumed : List ProtectedAction) :
    Prop where
  origin : ∀ kind id key, v.bundle kind id = some key → v.origin id = holder
  aggregate : ∀ kind id key, v.bundle kind id = some key → ConfirmedFor v.bundles key id (kind.bundleType crypto)
  kinds : ∀ kind kind' id key key', v.bundle kind id = some key → v.bundle kind' id = some key' → kind = kind'
  action : ∀ action ∈ consumed, ∃ bundleType, IsActionType crypto bundleType ∧
    ConfirmedFor v.bundles action.bundleKey action.actionId bundleType
  used : ∀ id, v.actions id = true ↔ id ∈ consumed.map ProtectedAction.actionId
  once : (consumed.map ProtectedAction.actionId).Nodup

theorem deployed_recordsLinked (crypto : Crypto) (self : Address) (regs : Registries) :
    RecordsLinked crypto self (recordView regs .deployed) [] where
  origin kind id key h := by cases kind <;> simp [recordView, Marketplace.aggregateBundle, Marketplace.deployed] at h
  aggregate kind id key h := by cases kind <;> simp [recordView, Marketplace.aggregateBundle, Marketplace.deployed] at h
  kinds kind _ id key _ h := by
    cases kind <;> simp [recordView, Marketplace.aggregateBundle, Marketplace.deployed] at h
  action _ h := by simp at h
  used _ := by simp [recordView, Marketplace.deployed]
  once := List.nodup_nil

section Steps

variable {im : Immutables} {v v' : RecordView} {consumed : List ProtectedAction}

/-- Bundles are only added, and an origin that is bound stays. -/
structure RecordsGrow (v v' : RecordView) : Prop where
  bundles : Extends v.bundles v'.bundles
  origin : ∀ id, v.origin id ≠ 0 → v'.origin id = v.origin id

theorem recordsGrow_of_bound {id : Bytes32} {module : Address} (hfree : v.origin id = 0)
    (hbundles : v'.bundles = v.bundles) (horigin : v'.origin = update v.origin id module) : RecordsGrow v v' := by
  refine ⟨?_, fun x hx => ?_⟩
  · rw [hbundles]
    exact .refl _
  · have hne : x ≠ id := by
      rintro rfl
      exact hx hfree
    rw [horigin, update_of_ne hne]

theorem change_recordsGrow {act : Option ProtectedAction} (h : RecordChange im v act v') : RecordsGrow v v' := by
  cases h with
  | same => exact ⟨.refl _, fun _ _ => rfl⟩
  | created kind id key hfresh _ => exact recordsGrow_of_bound hfresh rfl rfl
  | consumed => exact ⟨.refl _, fun _ _ => rfl⟩

/-- What others do keeps the records of a marketplace. -/
theorem recordsGrow_recordsLinked {crypto : Crypto} {self : Address} (hself : self ≠ 0) (h : RecordsGrow v v')
    (hbundle : v'.bundle = v.bundle) (hactions : v'.actions = v.actions) (hv : RecordsLinked crypto self v consumed) :
    RecordsLinked crypto self v' consumed where
  origin kind id key hkey := by
    rw [hbundle] at hkey
    have horigin := hv.origin kind id key hkey
    rw [h.origin id (by rw [horigin]; exact hself)]
    exact horigin
  aggregate kind id key hkey := by
    rw [hbundle] at hkey
    exact h.bundles.confirmedFor (hv.aggregate kind id key hkey)
  kinds kind kind' id key key' hkey hkey' := by
    rw [hbundle] at hkey hkey'
    exact hv.kinds kind kind' id key key' hkey hkey'
  action action haction := by
    obtain ⟨bundleType, htype, hlink⟩ := hv.action action haction
    exact ⟨bundleType, htype, h.bundles.confirmedFor hlink⟩
  used := by
    rw [hactions]
    exact hv.used
  once := hv.once

/-- A new aggregate has a fresh id, so it is the only one under it. -/
theorem created_recordsLinked (hself : im.self ≠ 0) (kind : AggregateKind) (id bundleKey : Bytes32)
    (hfresh : v.origin id = 0) (hlink : ConfirmedFor v.bundles bundleKey id (kind.bundleType im.crypto))
    (hv : RecordsLinked im.crypto im.self v consumed) :
    RecordsLinked im.crypto im.self { v with
      origin := update v.origin id im.self
      bundle := update v.bundle kind (update (v.bundle kind) id (some bundleKey)) } consumed := by
  -- the aggregates after are those before, and this one
  have hcases : ∀ k x key, update v.bundle kind (update (v.bundle kind) id (some bundleKey)) k x = some key →
      (k = kind ∧ x = id ∧ key = bundleKey) ∨ (x ≠ id ∧ v.bundle k x = some key) := by
    intro k x key hkey
    have hnone : x = id → v.bundle k x ≠ some key := by
      rintro rfl hold
      exact hself ((hv.origin k x key hold).symm.trans hfresh)
    by_cases hk : k = kind
    · subst hk
      rw [update_self] at hkey
      by_cases hx : x = id
      · subst hx
        rw [update_self] at hkey
        exact .inl ⟨rfl, rfl, (Option.some.inj hkey).symm⟩
      · rw [update_of_ne hx] at hkey
        exact .inr ⟨hx, hkey⟩
    · rw [update_of_ne hk] at hkey
      exact .inr ⟨fun hx => hnone hx hkey, hkey⟩
  constructor
  · intro k x key hkey
    rcases hcases k x key hkey with ⟨_, rfl, _⟩ | ⟨hx, hold⟩
    · exact update_self ..
    · exact (update_of_ne hx ..).trans (hv.origin k x key hold)
  · intro k x key hkey
    rcases hcases k x key hkey with ⟨rfl, rfl, rfl⟩ | ⟨_, hold⟩
    · exact hlink
    · exact hv.aggregate k x key hold
  · intro k k' x key key' hkey hkey'
    rcases hcases k x key hkey with ⟨rfl, rfl, _⟩ | ⟨hx, hold⟩
    · rcases hcases k' x key' hkey' with ⟨rfl, _, _⟩ | ⟨hx, _⟩
      · rfl
      · exact absurd rfl hx
    · rcases hcases k' x key' hkey' with ⟨_, hx', _⟩ | ⟨_, hold'⟩
      · exact absurd hx' hx
      · exact hv.kinds k k' x key key' hold hold'
  · exact hv.action
  · exact hv.used
  · exact hv.once

/-- An action is consumed for the first time. -/
theorem consumed_recordsLinked (action : ProtectedAction) (bundleType : Bytes32)
    (htype : IsActionType im.crypto bundleType) (hunused : v.actions action.actionId = false)
    (hlink : ConfirmedFor v.bundles action.bundleKey action.actionId bundleType)
    (hv : RecordsLinked im.crypto im.self v consumed) :
    RecordsLinked im.crypto im.self { v with actions := update v.actions action.actionId true }
      (consumed ++ [action]) where
  origin := hv.origin
  aggregate := hv.aggregate
  kinds := hv.kinds
  action a ha := by
    rcases List.mem_append.mp ha with ha | ha
    · exact hv.action a ha
    · rw [List.mem_singleton.mp ha]
      exact ⟨bundleType, htype, hlink⟩
  used x := by
    rw [List.map_append, List.mem_append, List.map_singleton, List.mem_singleton]
    by_cases hid : x = action.actionId
    · rw [hid]
      exact iff_of_true (update_self ..) (.inr rfl)
    · rw [or_iff_left hid, ← hv.used x]
      exact iff_of_eq (congrArg (· = true) (update_of_ne hid ..))
  once := by
    have hnew : action.actionId ∉ consumed.map ProtectedAction.actionId := by
      rw [← hv.used, hunused]
      simp
    rw [List.map_append, List.map_singleton, ← List.concat_eq_append]
    exact hv.once.concat hnew

theorem change_recordsLinked {act : Option ProtectedAction} (hself : im.self ≠ 0) (h : RecordChange im v act v')
    (hv : RecordsLinked im.crypto im.self v consumed) :
    RecordsLinked im.crypto im.self v' (consumed ++ act.toList) := by
  cases h with
  | same => simpa using hv
  | created kind id key hfresh hlink =>
    simpa using created_recordsLinked hself kind id key hfresh hlink hv
  | consumed action bundleType htype hunused hlink =>
    exact consumed_recordsLinked action bundleType htype hunused hlink hv

end Steps

/-! ### The system -/

variable {D : Deployment}

/-- The action that a call consumes is noted under the marketplace called. -/
def noteAction (call : Request D × Op D) (notes : D.Market → List ProtectedAction) :
    D.Market → List ProtectedAction :=
  match call.2 with
  | .market self op => update notes self (notes self ++ op.consumes.toList)
  | _ => notes

/-- A run with the actions consumed in it. -/
def noted (D : Deployment) (ls : List D.Step) :
    CallState (Chain D × (D.Market → List ProtectedAction)) (Withdrawal D) :=
  run ((machine D).noting noteAction).step ⟨(Chain.deployed D, fun _ => []), []⟩ ls

/-- The actions that the marketplace has consumed in the run, in order; those of
calls undone by a payment that was rejected are not among them. -/
def consumed (D : Deployment) (ls : List D.Step) (self : D.Market) : List ProtectedAction := (noted D ls).state.2 self

theorem noted_after (D : Deployment) (ls : List D.Step) : (noted D ls).state.1 = (after D ls).state :=
  congrArg CallState.state (noting_run (machine D) noteAction ls ⟨(Chain.deployed D, fun _ => []), []⟩)

theorem deployment_origin {r r' : DeploymentRegistry} {msg : Msg} {op : DeploymentOp} (h : op.exec D r msg = .ok r') :
    r'.originModule = r.originModule ∨
      ∃ id, r.originModule id = 0 ∧ r'.originModule = update r.originModule id msg.sender := by
  cases op with
  | proposeModule expectedType module answers =>
    simp only [DeploymentOp.exec, DeploymentRegistry.proposeModule, bind_eq_ok] at h
    obtain ⟨_, _, h⟩ := h
    split at h
    · cases h
    · simp only [bind_eq_ok, pure_eq_ok] at h
      obtain ⟨_, _, _, _, _, _, rfl⟩ := h
      exact .inl rfl
  | activateModule moduleType =>
    simp only [DeploymentOp.exec, DeploymentRegistry.activateModule, bind_eq_ok, pure_eq_ok] at h
    obtain ⟨_, _, _, _, _, _, rfl⟩ := h
    exact .inl rfl
  | bindAggregateOrigin aggregateId => exact .inr ⟨aggregateId, bindAggregateOrigin_ok h⟩
  | transferOwnership newOwner =>
    simp only [DeploymentOp.exec, bind_eq_ok, pure_eq_ok] at h
    obtain ⟨_, _, rfl⟩ := h
    exact .inl rfl
  | renounceOwnership =>
    simp only [DeploymentOp.exec, bind_eq_ok, pure_eq_ok] at h
    obtain ⟨_, _, rfl⟩ := h
    exact .inl rfl

section Exec

variable {c c' : Chain D} {request : Request D} {op : Op D}

theorem exec_coherent (h : exec c request.msg op = .ok c') (hc : ∀ m, Coherent (c.markets m)) (m : D.Market) :
    Coherent (c'.markets m) := by
  rcases exec_trade m (caller_ne_market request.caller m) h with htrade | ⟨hsame, -⟩
  · exact trade_coherent htrade (hc m)
  · rw [hsame]
    exact hc m

theorem exec_recordsLinked (self : D.Market) {notes : D.Market → List ProtectedAction}
    (h : exec c request.msg op = .ok c') (hc : ∀ m, Coherent (c.markets m))
    (hr : RecordsLinked D.crypto self.1 (recordView c.registries (c.markets self)) (notes self)) :
    RecordsLinked D.crypto self.1 (recordView c'.registries (c'.markets self))
      (noteAction (request, op) notes self) := by
  have hself := market_ne_zero self
  cases op with
  | authority op =>
    simp only [exec, bind_eq_ok, pure_eq_ok] at h
    obtain ⟨_, _, rfl⟩ := h
    exact hr
  | ownership op =>
    simp only [exec, bind_eq_ok, pure_eq_ok] at h
    obtain ⟨_, _, rfl⟩ := h
    exact hr
  | bundles op =>
    simp only [exec, bind_eq_ok, pure_eq_ok] at h
    obtain ⟨bundles, hop, rfl⟩ := h
    have hgrows : RecordsGrow (recordView c.registries (c.markets self))
        (recordView { c.registries with bundles := bundles } (c.markets self)) :=
      ⟨change_extends (bundle_change hop), fun _ _ => rfl⟩
    exact recordsGrow_recordsLinked hself hgrows rfl rfl hr
  | deployment op =>
    simp only [exec, bind_eq_ok, pure_eq_ok] at h
    obtain ⟨deployment, hop, rfl⟩ := h
    have hgrows : RecordsGrow (recordView c.registries (c.markets self))
        (recordView { c.registries with deployment := deployment } (c.markets self)) := by
      obtain hsame | ⟨id, hfree, hbound⟩ := deployment_origin hop
      · exact ⟨.refl _, fun id _ => congrFun hsame id⟩
      · exact recordsGrow_of_bound hfree rfl hbound
    exact recordsGrow_recordsLinked hself hgrows rfl rfl hr
  | market other op =>
    simp only [exec, bind_eq_ok, pure_eq_ok] at h
    obtain ⟨⟨regs, m⟩, hop, rfl⟩ := h
    have hchange := market_records (hc other) hop
    by_cases ho : other = self
    · subst ho
      have hnext := change_recordsLinked hself hchange hr
      simpa [noteAction, Deployment.immutables] using hnext
    · have hgrows : RecordsGrow (recordView c.registries (c.markets self)) (recordView regs (c.markets self)) :=
        ⟨(change_recordsGrow hchange).bundles, (change_recordsGrow hchange).origin⟩
      have hnext := recordsGrow_recordsLinked hself hgrows rfl rfl hr
      simpa [noteAction, update_of_ne (Ne.symm ho)] using hnext

end Exec

/-! ### Payments -/

/-- A payment changes none of the listings, offers, agreements and actions. -/
structure SameRecords (m m' : Marketplace) : Prop where
  listings : m'.listings = m.listings
  offers : m'.offers = m.offers
  agreements : m'.agreements = m.agreements
  actions : m'.protectedActions = m.protectedActions

theorem machine_enter {c c' : Chain D} {request : Request D} {other : D.Market} {w : Withdrawal D}
    (h : (machine D).enter c (request, other) = some (c', w)) :
    ∃ m, c' = { c with markets := update c.markets other m } ∧ SameRecords (c.markets other) m := by
  simp only [machine] at h
  split at h
  · simp at h
  · rename_i m amount hw
    obtain ⟨rfl, rfl⟩ := Prod.mk.inj (Option.some.inj h)
    obtain ⟨-, -, rfl⟩ := withdrawCredits_ok hw
    exact ⟨_, rfl, rfl, rfl, rfl, rfl⟩

section Payments

variable {c : Chain D} {other : D.Market} {m : Marketplace} (h : SameRecords (c.markets other) m)
include h

theorem markets_of_same (hc : ∀ m, Coherent (c.markets m)) (self : D.Market) :
    Coherent (update c.markets other m self) := by
  by_cases ho : self = other
  · subst ho
    rw [update_self]
    exact coherent_of_same h.listings h.offers h.agreements (hc self)
  · rw [update_of_ne ho]
    exact hc self

theorem recordsLinked_of_same {self : D.Market} {notes : List ProtectedAction}
    (hr : RecordsLinked D.crypto self.1 (recordView c.registries (c.markets self)) notes) :
    RecordsLinked D.crypto self.1 (recordView c.registries (update c.markets other m self)) notes := by
  by_cases ho : self = other
  · subst ho
    rw [update_self]
    unfold recordView
    rw [aggregateBundle_of_same h.listings h.agreements, h.actions]
    exact hr
  · rw [update_of_ne ho]
    exact hr

end Payments

/-- **Every run keeps the records.** -/
theorem after_recordsLinked (D : Deployment) (ls : List D.Step) (self : D.Market) :
    RecordsLinked D.crypto self.1 (recordView (after D ls).state.registries ((after D ls).state.markets self))
      (consumed D ls self) := by
  rw [← noted_after]
  refine (sound_run (M := (machine D).noting noteAction)
    (I := fun s _ => (∀ m, Coherent (s.1.markets m)) ∧
      RecordsLinked D.crypto self.1 (recordView s.1.registries (s.1.markets self)) (s.2 self))
    ?_ ?_ ?_ ls (c := ⟨(Chain.deployed D, fun _ => []), []⟩) ?_).now.2
  · rintro ⟨c, notes⟩ s' ws ⟨request, op⟩ hexec ⟨hc, hr⟩
    obtain ⟨c', hc', rfl⟩ := Option.map_eq_some_iff.mp hexec
    have hop : exec c request.msg op = .ok c' := toOption_eq_some.mp hc'
    exact ⟨exec_coherent hop hc, exec_recordsLinked self hop hc hr⟩
  · rintro ⟨c, notes⟩ s' w ws ⟨request, other⟩ henter ⟨hc, hr⟩
    obtain ⟨⟨c', w'⟩, hc', hpair⟩ := Option.map_eq_some_iff.mp henter
    obtain ⟨rfl, rfl⟩ := Prod.mk.inj hpair
    obtain ⟨m, rfl, hsame⟩ := machine_enter hc'
    exact ⟨markets_of_same hsame hc, recordsLinked_of_same hsame hr⟩
  · rintro ⟨c, notes⟩ ⟨other, recipient, amount⟩ ws ⟨hc, hr⟩
    have hsame : SameRecords (c.markets other) ((c.markets other).creditsWithdrawn recipient amount) :=
      ⟨rfl, rfl, rfl, rfl⟩
    exact ⟨markets_of_same hsame hc, recordsLinked_of_same hsame hr⟩
  · exact ⟨fun _ => deployed_coherent, deployed_recordsLinked D.crypto self.1 _⟩

/-! ### One bundle, one record -/

/-- A record of a marketplace: an aggregate, or one of the actions it has
consumed, by its place among them. -/
inductive MarketRecord where
  | aggregate (kind : AggregateKind) (id : Bytes32)
  | action (index : ℕ)

/-- The bundle that a record links, where there is such a record. -/
def MarketRecord.bundle (m : Marketplace) (consumed : List ProtectedAction) : MarketRecord → Option Bytes32
  | .aggregate kind id => m.aggregateBundle kind id
  | .action index => (consumed[index]?).map ProtectedAction.bundleKey

/-- The bundle types of actions are not those of aggregates: Keccak-256 has no
collision among their names. -/
def BundleTypesDiffer (crypto : Crypto) : Prop :=
  ∀ kind bundleType, IsActionType crypto bundleType → AggregateKind.bundleType crypto kind ≠ bundleType

/-- The record a confirmed bundle is linked from has the id that the bundle is
confirmed for, and is of the bundle's type. -/
theorem RecordsLinked.unique {crypto : Crypto} {holder : Address} {regs : Registries} {m : Marketplace}
    {consumed : List ProtectedAction} (h : RecordsLinked crypto holder (recordView regs m) consumed)
    (htypes : BundleTypesDiffer crypto) {r r' : MarketRecord} {key : Bytes32}
    (hr : r.bundle m consumed = some key) (hr' : r'.bundle m consumed = some key) : r = r' := by
  have hmixed : ∀ kind id action, action ∈ consumed → m.aggregateBundle kind id = some key →
      action.bundleKey ≠ key := by
    rintro kind id action haction hkey rfl
    have haggregate := h.aggregate kind id _ hkey
    obtain ⟨bundleType, htype, hlink⟩ := h.action action haction
    exact htypes kind bundleType htype (haggregate.type.symm.trans hlink.type)
  cases r with
  | aggregate kind id =>
    cases r' with
    | aggregate kind' id' =>
      have hid : id = id' := (h.aggregate kind id key hr).domain.symm.trans (h.aggregate kind' id' key hr').domain
      subst hid
      rw [h.kinds kind kind' id key key hr hr']
    | action j =>
      obtain ⟨action, hj, hkey⟩ := Option.map_eq_some_iff.mp hr'
      exact absurd hkey (hmixed kind id action (List.mem_of_getElem? hj) hr)
  | action i =>
    obtain ⟨action, hi, hkey⟩ := Option.map_eq_some_iff.mp hr
    cases r' with
    | aggregate kind' id' => exact absurd hkey (hmixed kind' id' action (List.mem_of_getElem? hi) hr')
    | action j =>
      obtain ⟨action', hj, hkey'⟩ := Option.map_eq_some_iff.mp hr'
      obtain ⟨_, _, hlink⟩ := h.action action (List.mem_of_getElem? hi)
      obtain ⟨_, _, hlink'⟩ := h.action action' (List.mem_of_getElem? hj)
      have hid : action.actionId = action'.actionId := by
        rw [← hlink.domain, ← hlink'.domain, hkey, hkey']
      -- the ids are distinct, so the places are the same
      have hat : (consumed.map ProtectedAction.actionId)[i]? = (consumed.map ProtectedAction.actionId)[j]? := by
        rw [List.getElem?_map, List.getElem?_map, hi, hj, Option.map_some, Option.map_some, hid]
      have hlt : i < (consumed.map ProtectedAction.actionId).length := by
        rw [List.length_map]
        exact (List.getElem?_eq_some_iff.mp hi).1
      rw [(List.getElem?_inj hlt h.once).mp hat]

/-- **One protected bundle, one marketplace record**: after every run, whatever
modules were proposed and activated in it, an id of a listing or an agreement is
held by one marketplace only, which is its origin, and as one of the two only;
a marketplace has consumed no action twice; and no two of its records link the
same bundle. -/
theorem one_bundle_one_record (D : Deployment) (htypes : BundleTypesDiffer D.crypto) (ls : List D.Step) :
    let c := (after D ls).state
    (∀ self kind id, (c.markets self).Holds kind id → c.registries.deployment.originModule id = self.1) ∧
    (∀ self self' kind kind' id, (c.markets self).Holds kind id → (c.markets self').Holds kind' id →
      self = self' ∧ kind = kind') ∧
    (∀ self, ((consumed D ls self).map ProtectedAction.actionId).Nodup ∧ ∀ id,
      (c.markets self).protectedActions id = true ↔ id ∈ (consumed D ls self).map ProtectedAction.actionId) ∧
    (∀ self r r' key, MarketRecord.bundle (c.markets self) (consumed D ls self) r = some key →
      MarketRecord.bundle (c.markets self) (consumed D ls self) r' = some key → r = r') := by
  intro c
  have horigin : ∀ self kind id, (c.markets self).Holds kind id →
      c.registries.deployment.originModule id = self.1 := by
    intro self kind id hholds
    obtain ⟨key, hkey⟩ := holds_iff.mp hholds
    exact (after_recordsLinked D ls self).origin kind id key hkey
  refine ⟨horigin, ?_, fun self => ⟨(after_recordsLinked D ls self).once, (after_recordsLinked D ls self).used⟩,
    fun self r r' key hr hr' => (after_recordsLinked D ls self).unique htypes hr hr'⟩
  intro self self' kind kind' id hholds hholds'
  have hself : self = self' := Subtype.ext ((horigin self kind id hholds).symm.trans (horigin self' kind' id hholds'))
  subst hself
  obtain ⟨key, hkey⟩ := holds_iff.mp hholds
  obtain ⟨key', hkey'⟩ := holds_iff.mp hholds'
  exact ⟨rfl, (after_recordsLinked D ls self).kinds kind kind' id key key' hkey hkey'⟩

namespace Sample

/-- The agreement of the sample run goes into delivery. -/
def dispatched : List deployment.Step :=
  funded ++ bundle 23 34 (Marketplace.logisticsBundleType deployment.crypto) ++
    [call seller 7 (.market market (.recordDispatch 32 ⟨34, 23, 41, 1, 11⟩))]

theorem bundleTypesDiffer : BundleTypesDiffer deployment.crypto := by
  rintro kind bundleType (rfl | rfl) <;> cases kind <;> decide +kernel

theorem dispatched_holds : (((after deployment dispatched).state.markets market).listings 31).state ≠ .unset ∧
    MarketRecord.bundle ((after deployment dispatched).state.markets market) (consumed deployment dispatched market)
      (.action 0) = some 23 := by
  decide +kernel

end Sample

open Sample in
/-- The listing is bound to the marketplace, and does not link the bundle of the
dispatch. -/
theorem one_bundle_one_record_dispatched :
    (after deployment dispatched).state.registries.deployment.originModule 31 = market.1 ∧
    MarketRecord.bundle ((after deployment dispatched).state.markets market) (consumed deployment dispatched market)
      (.aggregate .listing 31) ≠ some 23 := by
  obtain ⟨hlisting, haction⟩ := dispatched_holds
  have hmain := one_bundle_one_record deployment bundleTypesDiffer dispatched
  refine ⟨hmain.1 market .listing 31 hlisting, fun hsame => ?_⟩
  cases hmain.2.2.2 market _ _ 23 hsame haction

end Contracts
end Evllm
