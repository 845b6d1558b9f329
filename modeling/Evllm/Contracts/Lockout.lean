/-
# Revocation locks an organisation out

Governance sets the status of an organisation, and never again once it is
revoked. Every call that acts in an organisation's name presents a credential
that is active only while the organisation is. So from the end of the
transaction that revokes it on, no call acts in its name, no listing or offer
is made in it and no bundle comes under its control.

What needs no credential stays open to its accounts: to take back a listing or
an offer, to match the offers it has with its listings, and to go on with
agreements.

Key definitions: `Op.actsFor`, `LockedOut`.
Key theorems: `exec_active`, `exec_lockedOut`, `revoked_locked_out`.
-/
import Evllm.Contracts.Admission
import Evllm.Contracts.Bundles

namespace Evllm
namespace Contracts

open Lib Function

variable {D : Deployment}

/-! ### Acting for an organisation -/

/-- The organisations that sign and control a commitment, or attest a replica. -/
def BundleOp.actsFor : BundleOp → List Bytes32
  | .commitProtectedBundle input => [input.controllerOrganizationId]
  | .commitAttestedProtectedBundle input => [input.attestation.signerOrgId, input.controllerOrganizationId]
  | .submitReplicaReceipt input => [input.replicaCustodianOrganizationId]
  | .closeBootstrap | .promoteToDecisionCritical _ => []

/-- The organisation that sells, buys, handles, disputes or resolves. -/
def MarketOp.actsFor : MarketOp → List Bytes32
  | .createListing input => [input.sellerOrganizationId]
  | .submitOffer input => [input.buyerOrganizationId]
  | .recordDispatch _ action | .recordDelivery _ action | .openTransactionDispute _ action => [action.organizationId]
  | .resolveAgreement _ organizationId _ _ => [organizationId]
  | _ => []

/-- The organisations in whose name a call acts. -/
def Op.actsFor : Op D → List Bytes32
  | .bundles op => op.actsFor
  | .market _ op => op.actsFor
  | .authority _ | .ownership _ | .deployment _ => []

/-! ### Such calls need the organisation to be active -/

section Active

open ProtectedBundleRegistry Marketplace

variable {a : AuthorityProfileRegistry} {msg : Msg} {organizationId : Bytes32}

theorem active_of_credential {credentialId : Bytes32} {account : Address}
    (h : a.isCredentialActive credentialId organizationId account = true) :
    a.organizationStatus organizationId = .active := by
  simp only [AuthorityProfileRegistry.isCredentialActive, Bool.and_eq_true, decide_eq_true_eq] at h
  exact h.2

theorem active_of_authorized {regs : Registries} {credentialId capability scope : Bytes32}
    (h : ¬authorized regs msg credentialId organizationId capability scope = false) :
    regs.authority.organizationStatus organizationId = .active := by
  rw [authorized, Bool.not_eq_false, Bool.and_eq_true] at h
  exact active_of_credential h.1

theorem commit_active {r r' : ProtectedBundleRegistry} {input : CommitInput} (h : r.commit a msg input = .ok r') :
    a.organizationStatus input.controllerOrganizationId = .active := by
  simp only [commit, bind_eq_ok, throwIf_eq_ok] at h
  obtain ⟨_, _, _, hactive, _⟩ := h
  simpa [AuthorityProfileRegistry.isOrganizationActive] using hactive

theorem bundles_active {r r' : ProtectedBundleRegistry} {op : BundleOp} (h : op.exec D a r msg = .ok r')
    (hacts : organizationId ∈ op.actsFor) : a.organizationStatus organizationId = .active := by
  cases op with
  | closeBootstrap => exact absurd hacts List.not_mem_nil
  | promoteToDecisionCritical => exact absurd hacts List.not_mem_nil
  | commitProtectedBundle input =>
    simp only [BundleOp.exec, commitProtectedBundle, bind_eq_ok] at h
    obtain ⟨_, _, hcommit⟩ := h
    rw [List.mem_singleton.mp hacts]
    exact commit_active hcommit
  | commitAttestedProtectedBundle input =>
    simp only [BundleOp.exec, commitAttestedProtectedBundle, bind_eq_ok, throwIf_eq_ok] at h
    obtain ⟨_, _, _, _, _, hsigner, _, _, _, _, hcommit⟩ := h
    rcases List.mem_pair.mp hacts with rfl | rfl
    · exact active_of_credential ((Bool.not_eq_false _).mp hsigner)
    · have hactive := commit_active hcommit
      exact hactive
  | submitReplicaReceipt input =>
    simp only [BundleOp.exec, submitReplicaReceipt, bind_eq_ok, throwIf_eq_ok, not_or] at h
    obtain ⟨_, _, _, _, _, ⟨_, _, hcredential⟩, _⟩ := h
    rw [Bool.not_eq_false, AuthorityProfileRegistry.isReplicaAttestationCredential,
      Bool.and_eq_true] at hcredential
    rw [List.mem_singleton.mp hacts]
    exact active_of_credential hcredential.2

/-- A call of a marketplace that leaves the registries alone. -/
theorem keeping_ok {regs regs' : Registries} {result : Except Revert Marketplace} {m' : Marketplace}
    (h : keeping regs result = .ok (regs', m')) : result = .ok m' ∧ regs' = regs := by
  simp only [keeping, bind_eq_ok, pure_eq_ok, Prod.mk.injEq] at h
  obtain ⟨_, hok, rfl, rfl⟩ := h
  exact ⟨hok, rfl⟩

theorem consume_active {regs : Registries} {m m' : Marketplace} {agreementId bundleType capability : Bytes32}
    {action : ProtectedAction} (h : consumeProtectedAction regs m msg agreementId action bundleType capability = .ok m') :
    regs.authority.organizationStatus action.organizationId = .active := by
  simp only [consumeProtectedAction, bind_eq_ok, throwIf_eq_ok] at h
  obtain ⟨_, _, _, hauthorized, _⟩ := h
  exact active_of_authorized hauthorized

theorem market_active {im : Immutables} {regs regs' : Registries} {m m' : Marketplace} {op : MarketOp}
    (h : op.exec im regs m msg = .ok (regs', m')) (hacts : organizationId ∈ op.actsFor) :
    regs.authority.organizationStatus organizationId = .active := by
  cases op with
  | createListing input =>
    simp only [MarketOp.exec, createListing, bind_eq_ok, throwIf_eq_ok] at h
    obtain ⟨_, _, _, _, _, _, _, _, _, _, _, hauthorized, _⟩ := h
    rw [List.mem_singleton.mp hacts]
    exact active_of_authorized hauthorized
  | submitOffer input =>
    obtain ⟨h, -⟩ := keeping_ok h
    simp only [submitOffer, bind_eq_ok, throwIf_eq_ok] at h
    obtain ⟨_, _, _, _, _, _, _, _, _, _, _, _, _, hauthorized, _⟩ := h
    rw [List.mem_singleton.mp hacts]
    exact active_of_authorized hauthorized
  | recordDispatch agreementId action =>
    obtain ⟨h, -⟩ := keeping_ok h
    simp only [recordDispatch, bind_eq_ok] at h
    obtain ⟨_, _, _, _, _, hconsumed, _⟩ := h
    rw [List.mem_singleton.mp hacts]
    exact consume_active hconsumed
  | recordDelivery agreementId action =>
    obtain ⟨h, -⟩ := keeping_ok h
    simp only [recordDelivery, bind_eq_ok] at h
    obtain ⟨_, _, _, _, _, hconsumed, _⟩ := h
    rw [List.mem_singleton.mp hacts]
    exact consume_active hconsumed
  | openTransactionDispute agreementId action =>
    obtain ⟨h, -⟩ := keeping_ok h
    simp only [openTransactionDispute, bind_eq_ok] at h
    obtain ⟨_, _, _, _, _, _, _, _, _, hconsumed, _⟩ := h
    rw [List.mem_singleton.mp hacts]
    exact consume_active hconsumed
  | resolveAgreement agreementId resolver credentialId resolution =>
    simp only [MarketOp.exec, resolveAgreement, bind_eq_ok, throwIf_eq_ok] at h
    obtain ⟨_, _, _, _, _, hauthorized, _⟩ := h
    rw [List.mem_singleton.mp hacts]
    exact active_of_authorized hauthorized
  | withdrawListing | expireListing | withdrawOffer | rejectOffer | expireOffer | selectOfferAndCreateAgreement
  | confirmAgreement | fundAgreement | cancelUnfundedAgreement | acceptDelivery | applyDispatchTimeout
  | applyDeliveryOrAcceptanceTimeout | settleAccepted => exact absurd hacts List.not_mem_nil

/-- **A call acts only for organisations that are active.** -/
theorem exec_active {c c' : Chain D} {op : Op D} (h : exec c msg op = .ok c') (hacts : organizationId ∈ op.actsFor) :
    c.registries.authority.organizationStatus organizationId = .active := by
  cases op with
  | bundles op =>
    simp only [exec, bind_eq_ok] at h
    obtain ⟨_, hop, _⟩ := h
    exact bundles_active hop hacts
  | market self op =>
    simp only [exec, bind_eq_ok] at h
    obtain ⟨⟨regs, m⟩, hop, _⟩ := h
    exact market_active hop hacts
  | authority | ownership | deployment => exact absurd hacts List.not_mem_nil

end Active

/-! ### What an organisation has -/

section Parties

open Marketplace

variable {im : Immutables} {regs regs' : Registries} {m m' : Marketplace} {msg : Msg}

/-- The listings are for the organisations they were for, the offers too. -/
structure SameParties (m m' : Marketplace) : Prop where
  sellers : ∀ id, (m'.listings id).sellerOrganizationId = (m.listings id).sellerOrganizationId
  buyers : ∀ id, (m'.offers id).buyerOrganizationId = (m.offers id).buyerOrganizationId

theorem sameParties_of_same (hlistings : m'.listings = m.listings) (hoffers : m'.offers = m.offers) :
    SameParties m m' := by
  constructor
  · rw [hlistings]
    exact fun _ => rfl
  · rw [hoffers]
    exact fun _ => rfl

theorem sameParties_of_listing {id : Bytes32} {l : Listing}
    (hlistings : m'.listings = update m.listings id l) (hoffers : m'.offers = m.offers)
    (hl : l.sellerOrganizationId = (m.listings id).sellerOrganizationId) : SameParties m m' := by
  constructor
  · intro x
    by_cases hx : x = id
    · subst hx
      rw [hlistings, update_self, hl]
    · rw [hlistings, update_of_ne hx]
  · rw [hoffers]
    exact fun _ => rfl

theorem sameParties_of_offer {id : Bytes32} {o : Offer}
    (hoffers : m'.offers = update m.offers id o) (hlistings : m'.listings = m.listings)
    (ho : o.buyerOrganizationId = (m.offers id).buyerOrganizationId) : SameParties m m' := by
  constructor
  · rw [hlistings]
    exact fun _ => rfl
  · intro x
    by_cases hx : x = id
    · subst hx
      rw [hoffers, update_self, ho]
    · rw [hoffers, update_of_ne hx]

theorem SameParties.trans {m'' : Marketplace} (h : SameParties m m') (h' : SameParties m' m'') : SameParties m m'' :=
  ⟨fun id => (h'.sellers id).trans (h.sellers id), fun id => (h'.buyers id).trans (h.buyers id)⟩

theorem keeping_sameParties {result : Except Revert Marketplace} (h : Ensures result (SameParties m)) :
    Ensures (keeping regs result) fun r => SameParties m r.2 :=
  ensures_bind fun m' hm' => ensures_pure (h m' hm')

theorem releaseAndTransfer_sameParties {id : Bytes32} :
    Ensures (releaseAndTransfer im regs m msg id) fun r => SameParties m r.2 :=
  ensures_bind fun _ _ => ensures_bind fun _ _ => ensures_pure (sameParties_of_listing rfl rfl rfl)

theorem refundAndCancel_sameParties {id : Bytes32} :
    Ensures (refundAndCancel im regs m msg id) fun r => SameParties m r.2 :=
  ensures_bind fun _ _ => ensures_bind fun _ _ => ensures_pure (sameParties_of_listing rfl rfl rfl)

theorem consumeProtectedAction_sameParties {id bundleType capability : Bytes32} {action : ProtectedAction}
    {f : Marketplace → Except Revert Marketplace} (h : Ensures (f (m.useAction action.actionId)) (SameParties m)) :
    Ensures (consumeProtectedAction regs m msg id action bundleType capability >>= f) (SameParties m) :=
  ensures_bind fun m' hm' => by rwa [consumeProtectedAction_ok hm']

/-- **Only a new listing and a new offer bring in an organisation.** -/
theorem market_sameParties {op : MarketOp} (hcreate : ∀ input, op ≠ .createListing input)
    (hsubmit : ∀ input, op ≠ .submitOffer input) : Ensures (op.exec im regs m msg) fun r => SameParties m r.2 := by
  cases op with
  | createListing input => exact absurd rfl (hcreate input)
  | submitOffer input => exact absurd rfl (hsubmit input)
  | withdrawListing | expireListing =>
    repeat refine ensures_bind fun _ _ => ?_
    exact ensures_pure (sameParties_of_listing rfl rfl rfl)
  | withdrawOffer | rejectOffer | expireOffer =>
    refine keeping_sameParties ?_
    repeat refine ensures_bind fun _ _ => ?_
    exact ensures_pure (sameParties_of_offer rfl rfl rfl)
  | selectOfferAndCreateAgreement input =>
    repeat refine ensures_bind fun _ _ => ?_
    refine ensures_pure ?_
    have hmatched : SameParties m (m.setListing input.listingId
        { m.listings input.listingId with state := .matched, acceptedOfferId := input.offerId }) :=
      sameParties_of_listing rfl rfl rfl
    exact hmatched.trans (sameParties_of_offer rfl rfl rfl)
  | confirmAgreement | fundAgreement | acceptDelivery | applyDeliveryOrAcceptanceTimeout =>
    refine keeping_sameParties ?_
    repeat refine ensures_bind fun _ _ => ?_
    exact ensures_pure (sameParties_of_same rfl rfl)
  | recordDispatch | recordDelivery =>
    exact keeping_sameParties (ensures_throwIf fun _ => ensures_throwIf fun _ =>
      consumeProtectedAction_sameParties (ensures_pure (sameParties_of_same rfl rfl)))
  | openTransactionDispute =>
    exact keeping_sameParties (ensures_throwIf fun _ => ensures_throwIf fun _ => ensures_throwIf fun _ =>
      ensures_throwIf fun _ => consumeProtectedAction_sameParties (ensures_pure (sameParties_of_same rfl rfl)))
  | cancelUnfundedAgreement =>
    repeat refine ensures_bind fun _ _ => ?_
    exact ensures_pure (sameParties_of_listing rfl rfl rfl)
  | applyDispatchTimeout =>
    exact ensures_throwIf fun _ => ensures_throwIf fun _ => ensures_throwIf fun _ => refundAndCancel_sameParties
  | resolveAgreement agreementId _ _ resolution =>
    refine ensures_throwIf fun _ => ensures_throwIf fun _ => ensures_throwIf fun _ => ensures_throwIf fun _ => ?_
    cases resolution with
    | releaseAndTransfer => exact releaseAndTransfer_sameParties
    | refundAndCancel => exact refundAndCancel_sameParties
  | settleAccepted => exact ensures_throwIf fun _ => ensures_throwIf fun _ => releaseAndTransfer_sameParties

/-- The organisation of a listing or an offer is the one it had, or one that
the call acts for. -/
theorem market_parties {op : MarketOp} (h : op.exec im regs m msg = .ok (regs', m')) (id : Bytes32) :
    ((m'.listings id).sellerOrganizationId = (m.listings id).sellerOrganizationId ∨
      (m'.listings id).sellerOrganizationId ∈ op.actsFor) ∧
    ((m'.offers id).buyerOrganizationId = (m.offers id).buyerOrganizationId ∨
      (m'.offers id).buyerOrganizationId ∈ op.actsFor) := by
  by_cases hcreate : ∃ input, op = .createListing input
  · obtain ⟨input, rfl⟩ := hcreate
    simp only [MarketOp.exec, createListing, bind_eq_ok, pure_eq_ok, Prod.mk.injEq] at h
    obtain ⟨_, _, _, _, _, _, _, _, _, _, _, _, _, _, _, _, _, _, _, _, _, _, _, rfl⟩ := h
    refine ⟨?_, .inl rfl⟩
    by_cases hid : id = input.listingId
    · subst hid
      simp [MarketOp.actsFor]
    · simp [update_of_ne hid]
  · by_cases hsubmit : ∃ input, op = .submitOffer input
    · obtain ⟨input, rfl⟩ := hsubmit
      obtain ⟨h, -⟩ := keeping_ok h
      simp only [submitOffer, bind_eq_ok, pure_eq_ok] at h
      obtain ⟨_, _, _, _, _, _, _, _, _, _, _, _, _, _, rfl⟩ := h
      refine ⟨.inl rfl, ?_⟩
      by_cases hid : id = input.offerId
      · subst hid
        simp [MarketOp.actsFor]
      · simp [update_of_ne hid]
    · have hsame := market_sameParties (fun input hop => hcreate ⟨input, hop⟩) (fun input hop => hsubmit ⟨input, hop⟩) _ h
      exact ⟨.inl (hsame.sellers id), .inl (hsame.buyers id)⟩

/-! ### The other registries -/

/-- A marketplace writes neither the authorities nor the bundles. -/
def Leaves (regs regs' : Registries) : Prop := regs'.authority = regs.authority ∧ regs'.bundles = regs.bundles

theorem keeping_leaves {result : Except Revert Marketplace} : Ensures (keeping regs result) fun r => Leaves regs r.1 :=
  ensures_bind fun _ _ => ensures_pure ⟨rfl, rfl⟩

theorem releaseAndTransfer_leaves {id : Bytes32} :
    Ensures (releaseAndTransfer im regs m msg id) fun r => Leaves regs r.1 :=
  ensures_bind fun _ _ => ensures_bind fun _ _ => ensures_pure ⟨rfl, rfl⟩

theorem refundAndCancel_leaves {id : Bytes32} :
    Ensures (refundAndCancel im regs m msg id) fun r => Leaves regs r.1 :=
  ensures_bind fun _ _ => ensures_bind fun _ _ => ensures_pure ⟨rfl, rfl⟩

theorem market_leaves {op : MarketOp} : Ensures (op.exec im regs m msg) fun r => Leaves regs r.1 := by
  cases op with
  | createListing | withdrawListing | expireListing | selectOfferAndCreateAgreement | cancelUnfundedAgreement =>
    repeat refine ensures_bind fun _ _ => ?_
    exact ensures_pure ⟨rfl, rfl⟩
  | applyDispatchTimeout =>
    exact ensures_throwIf fun _ => ensures_throwIf fun _ => ensures_throwIf fun _ => refundAndCancel_leaves
  | resolveAgreement agreementId _ _ resolution =>
    refine ensures_throwIf fun _ => ensures_throwIf fun _ => ensures_throwIf fun _ => ensures_throwIf fun _ => ?_
    cases resolution with
    | releaseAndTransfer => exact releaseAndTransfer_leaves
    | refundAndCancel => exact refundAndCancel_leaves
  | settleAccepted => exact ensures_throwIf fun _ => ensures_throwIf fun _ => releaseAndTransfer_leaves
  | submitOffer | withdrawOffer | rejectOffer | expireOffer | confirmAgreement | fundAgreement | recordDispatch
  | recordDelivery | acceptDelivery | applyDeliveryOrAcceptanceTimeout | openTransactionDispute => exact keeping_leaves

end Parties

/-- A revoked status is not set again. -/
theorem authority_revoked {a : AuthorityProfileRegistry} {msg : Msg} {op : AuthorityOp} {organizationId : Bytes32}
    (hrevoked : a.organizationStatus organizationId = .revoked) :
    Ensures (op.exec a msg) fun a' => a'.organizationStatus organizationId = .revoked := by
  cases op with
  | setOrganizationStatus other status =>
    refine ensures_bind fun _ _ => ensures_throwIf fun _ => ensures_throwIf fun hterminal => ensures_pure ?_
    have hne : organizationId ≠ other := by
      rintro rfl
      exact hterminal hrevoked
    dsimp only
    rwa [update_of_ne hne]
  | setProfile | setRepositoryApproval | setCredential | setCapabilityGrant | transferOwnership | renounceOwnership =>
    repeat refine ensures_bind fun _ _ => ?_
    exact ensures_pure hrevoked

/-- A bundle comes under the control of the organisation that commits it. -/
theorem controller_of_bundle {a : AuthorityProfileRegistry} {r r' : ProtectedBundleRegistry} {msg : Msg}
    {op : BundleOp} (h : op.exec D a r msg = .ok r') (bundleKey : Bytes32) :
    (r'.commitments bundleKey).controllerOrganizationId = (r.commitments bundleKey).controllerOrganizationId ∨
      (r'.commitments bundleKey).controllerOrganizationId ∈ op.actsFor := by
  cases bundle_change h with
  | closed => exact .inl rfl
  | committed input nonces commits =>
    by_cases hkey : bundleKey = input.bundleKey
    · right
      subst hkey
      simp only [update_self]
      cases commits with
      | bootstrap => exact List.mem_singleton_self _
      | attested input => exact List.mem_cons_of_mem _ (List.mem_singleton_self _)
    · left
      simp only [update_of_ne hkey]
  | promoted key =>
    left
    by_cases hkey : bundleKey = key
    · subst hkey
      simp only [update_self]
    · simp only [update_of_ne hkey]
  | received => exact .inl rfl

/-! ### Locked out -/

/-- The organisation is revoked, and has no listing, offer or bundle that it
did not have. -/
structure LockedOut (organizationId : Bytes32) (c c' : Chain D) : Prop where
  revoked : c'.registries.authority.organizationStatus organizationId = .revoked
  listings : ∀ self id, ((c'.markets self).listings id).sellerOrganizationId = organizationId →
    ((c.markets self).listings id).sellerOrganizationId = organizationId
  offers : ∀ self id, ((c'.markets self).offers id).buyerOrganizationId = organizationId →
    ((c.markets self).offers id).buyerOrganizationId = organizationId
  bundles : ∀ bundleKey, (c'.registries.bundles.commitments bundleKey).controllerOrganizationId = organizationId →
    (c.registries.bundles.commitments bundleKey).controllerOrganizationId = organizationId

variable {organizationId : Bytes32} {c c' c'' : Chain D} {msg : Msg}

theorem LockedOut.trans (h : LockedOut organizationId c c') (h' : LockedOut organizationId c' c'') :
    LockedOut organizationId c c'' :=
  ⟨h'.revoked, fun self id hid => h.listings self id (h'.listings self id hid),
    fun self id hid => h.offers self id (h'.offers self id hid), fun key hkey => h.bundles key (h'.bundles key hkey)⟩

/-- Where the parties of all marketplaces stay. -/
theorem lockedOut_of_sameParties (hrevoked : c.registries.authority.organizationStatus organizationId = .revoked)
    (hauthority : c'.registries.authority = c.registries.authority) (hbundles : c'.registries.bundles = c.registries.bundles)
    (hparties : ∀ self, SameParties (c.markets self) (c'.markets self)) : LockedOut organizationId c c' := by
  refine ⟨by rwa [hauthority], fun self id hid => ?_, fun self id hid => ?_, fun key hkey => ?_⟩
  · rwa [(hparties self).sellers id] at hid
  · rwa [(hparties self).buyers id] at hid
  · rwa [hbundles] at hkey

/-- **One call**: it acts for no revoked organisation, so it gives it nothing. -/
theorem exec_lockedOut {op : Op D} (hrevoked : c.registries.authority.organizationStatus organizationId = .revoked)
    (h : exec c msg op = .ok c') : LockedOut organizationId c c' := by
  have hnot : organizationId ∉ op.actsFor := by
    intro hacts
    rw [exec_active h hacts] at hrevoked
    cases hrevoked
  cases op with
  | authority op =>
    simp only [exec, bind_eq_ok, pure_eq_ok] at h
    obtain ⟨_, hop, rfl⟩ := h
    exact ⟨authority_revoked hrevoked _ hop, fun _ _ hid => hid, fun _ _ hid => hid, fun _ hkey => hkey⟩
  | bundles op =>
    simp only [exec, bind_eq_ok, pure_eq_ok] at h
    obtain ⟨_, hop, rfl⟩ := h
    refine ⟨hrevoked, fun _ _ hid => hid, fun _ _ hid => hid, fun key hkey => ?_⟩
    dsimp only at hkey
    rcases controller_of_bundle hop key with hsame | hacts
    · rwa [hsame] at hkey
    · rw [hkey] at hacts
      exact absurd hacts hnot
  | ownership | deployment =>
    simp only [exec, bind_eq_ok, pure_eq_ok] at h
    obtain ⟨_, _, rfl⟩ := h
    exact lockedOut_of_sameParties hrevoked rfl rfl fun _ => sameParties_of_same rfl rfl
  | market self op =>
    simp only [exec, bind_eq_ok, pure_eq_ok] at h
    obtain ⟨⟨regs, m⟩, hop, rfl⟩ := h
    obtain ⟨hauthority, hbundles⟩ := market_leaves _ hop
    have hparties := market_parties hop
    refine ⟨?_, fun other id hid => ?_, fun other id hid => ?_, fun key hkey => ?_⟩
    · dsimp only
      rwa [hauthority]
    · by_cases hother : other = self
      · subst hother
        simp only [update_self] at hid
        rcases (hparties id).1 with hsame | hacts
        · rwa [hsame] at hid
        · rw [hid] at hacts
          exact absurd hacts hnot
      · simpa only [update_of_ne hother] using hid
    · by_cases hother : other = self
      · subst hother
        simp only [update_self] at hid
        rcases (hparties id).2 with hsame | hacts
        · rwa [hsame] at hid
        · rw [hid] at hacts
          exact absurd hacts hnot
      · simpa only [update_of_ne hother] using hid
    · dsimp only at hkey
      rwa [hbundles] at hkey

/-- A withdrawal, begun or ended, writes no listing and no offer. -/
theorem lockedOut_of_withdrawal {self : D.Market} {m : Marketplace}
    (hrevoked : c.registries.authority.organizationStatus organizationId = .revoked)
    (hlistings : m.listings = (c.markets self).listings) (hoffers : m.offers = (c.markets self).offers) :
    LockedOut organizationId c { c with markets := update c.markets self m } := by
  refine lockedOut_of_sameParties hrevoked rfl rfl fun other => ?_
  by_cases hother : other = self
  · subst hother
    simp only [update_self]
    exact sameParties_of_same hlistings hoffers
  · simp only [update_of_ne hother]
    exact sameParties_of_same rfl rfl

/-- **A revoked organisation is locked out for good.** From any state between
transactions in which it is revoked, whatever is called afterwards: it stays
revoked, no call that acts in its name succeeds, no listing or offer is made in
its name and no bundle comes under its control. -/
theorem revoked_locked_out (D : Deployment) (organizationId : Bytes32) (ls ms : List D.Step)
    (hbetween : (after D ls).pending = [])
    (hrevoked : (after D ls).state.registries.authority.organizationStatus organizationId = .revoked) :
    let before := (after D ls).state
    let now := (after D (ls ++ ms)).state
    now.registries.authority.organizationStatus organizationId = .revoked ∧
    (∀ op : Op D, organizationId ∈ op.actsFor → ∀ msg c, exec now msg op ≠ .ok c) ∧
    (∀ self id, ((now.markets self).listings id).sellerOrganizationId = organizationId →
      ((before.markets self).listings id).sellerOrganizationId = organizationId) ∧
    (∀ self id, ((now.markets self).offers id).buyerOrganizationId = organizationId →
      ((before.markets self).offers id).buyerOrganizationId = organizationId) ∧
    ∀ bundleKey, (now.registries.bundles.commitments bundleKey).controllerOrganizationId = organizationId →
      (before.registries.bundles.commitments bundleKey).controllerOrganizationId = organizationId := by
  intro before now
  have hstart : Sound (fun c _ => LockedOut organizationId before c) (after D ls).state (after D ls).pending := by
    rw [hbetween]
    exact ⟨hrevoked, fun _ _ hid => hid, fun _ _ hid => hid, fun _ hkey => hkey⟩
  have hrun : Sound (fun c _ => LockedOut organizationId before c) now (after D (ls ++ ms)).pending := by
    simp only [now, after, run_append]
    refine sound_run (M := machine D) ?_ ?_ ?_ ms hstart
    · rintro c c' _ ⟨request, op⟩ hc hI
      have hexec : exec c request.msg op = .ok c' := toOption_eq_some.mp hc
      exact hI.trans (exec_lockedOut hI.revoked hexec)
    · rintro c c' _ _ ⟨request, other⟩ hc hI
      simp only [machine] at hc
      split at hc
      · simp at hc
      · rename_i m amount hw
        obtain ⟨rfl, -⟩ := Prod.mk.inj (Option.some.inj hc)
        obtain ⟨_, _, rfl⟩ := withdrawCredits_ok hw
        exact hI.trans (lockedOut_of_withdrawal hI.revoked rfl rfl)
    · rintro c ⟨other, recipient, amount⟩ _ hI
      exact hI.trans (lockedOut_of_withdrawal hI.revoked rfl rfl)
  have hnow := hrun.now
  refine ⟨hnow.revoked, fun op hacts msg c hexec => ?_, hnow.listings, hnow.offers, hnow.bundles⟩
  have hactive := exec_active hexec hacts
  rw [hnow.revoked] at hactive
  cases hactive

/-- The seller is revoked once its listing is made. -/
theorem revoked_locked_out_seller :
    let revoked := Sample.accounts ++ Sample.modules ++
      [Sample.call Sample.seller 2 (.authority (.setOrganizationStatus 1 .revoked))]
    let again := [Sample.call Sample.seller 3 (.authority (.setOrganizationStatus 1 .active))]
    (after Sample.deployment (revoked ++ again)).state.registries.authority.organizationStatus 1 = .revoked ∧
      ∀ input : ListingInput, input.sellerOrganizationId = 1 → ∀ msg c,
        exec (after Sample.deployment (revoked ++ again)).state msg (.market Sample.market (.createListing input)) ≠ .ok c := by
  intro revoked again
  have h := revoked_locked_out Sample.deployment 1 revoked again (by decide +kernel) (by decide +kernel)
  refine ⟨h.1, fun input hinput => h.2.1 (.market Sample.market (.createListing input)) ?_⟩
  rw [← hinput]
  exact List.mem_singleton_self _

end Contracts
end Evllm
