/-
# The marketplace

Listings, offers and agreements of one `Marketplace` contract, the money it
holds for its agreements, and the credits it owes. A function is given the
registries it asks and the contract's own storage, and returns both.

`withdrawCredits` hands control to the recipient in its middle: it is split
there into `withdrawCredits`, which ends with the payment sent, and
`creditsWithdrawn`, which is what follows when the recipient has accepted.
-/
import Evllm.Contracts.BatteryOwnershipRegistry
import Evllm.Contracts.DeploymentRegistry
import Evllm.Contracts.ProtectedBundleRegistry
import Mathlib.Tactic.Simps.Basic

namespace Evllm
namespace Contracts

open Lib Function

inductive ListingState where
  | unset
  | active
  | matched
  | withdrawn
  | expired
  | closedSettled
  | closedCancelled
  deriving DecidableEq, Repr

inductive OfferState where
  | unset
  | submitted
  | accepted
  | rejected
  | withdrawn
  | expired
  deriving DecidableEq, Repr

inductive AgreementState where
  | unset
  | awaitingBuyerConfirmation
  | awaitingFunding
  | funded
  | inDelivery
  | delivered
  | accepted
  | disputed
  | timedOutReferred
  | settled
  | cancelled
  deriving DecidableEq, Repr

inductive Resolution where
  | releaseAndTransfer
  | refundAndCancel
  deriving DecidableEq, Repr

structure ListingInput where
  listingId : Bytes32
  batteryId : Bytes32
  sellerOrganizationId : Bytes32
  sellerCredentialId : Bytes32
  bundleKey : Bytes32
  payloadCommitment : Bytes32
  testPrice : Uint256
  sellerPayoutAddress : Address
  expiresAt : Uint64

structure Listing where
  batteryId : Bytes32
  sellerOrganizationId : Bytes32
  sellerCredentialId : Bytes32
  bundleKey : Bytes32
  payloadCommitment : Bytes32
  acceptedOfferId : Bytes32
  seller : Address
  sellerPayoutAddress : Address
  testPrice : Uint256
  expiresAt : Uint64
  state : ListingState

structure OfferInput where
  offerId : Bytes32
  listingId : Bytes32
  buyerOrganizationId : Bytes32
  buyerCredentialId : Bytes32
  amount : Uint256
  buyerRefundAddress : Address
  termsCommitment : Bytes32
  expiresAt : Uint64

structure Offer where
  listingId : Bytes32
  buyerOrganizationId : Bytes32
  buyerCredentialId : Bytes32
  termsCommitment : Bytes32
  buyer : Address
  buyerRefundAddress : Address
  amount : Uint256
  expiresAt : Uint64
  state : OfferState

structure AgreementInput where
  agreementId : Bytes32
  listingId : Bytes32
  offerId : Bytes32
  bundleKey : Bytes32
  payloadCommitment : Bytes32
  buyerAccessAuthorizationDigest : Bytes32
  confirmationDeadline : Uint64
  deliveryDeadline : Uint64

structure Agreement where
  listingId : Bytes32
  offerId : Bytes32
  batteryId : Bytes32
  sellerOrganizationId : Bytes32
  buyerOrganizationId : Bytes32
  bundleKey : Bytes32
  payloadCommitment : Bytes32
  buyerAccessAuthorizationDigest : Bytes32
  disputeId : Bytes32
  seller : Address
  buyer : Address
  sellerPayoutAddress : Address
  buyerRefundAddress : Address
  amount : Uint256
  confirmationDeadline : Uint64
  deliveryDeadline : Uint64
  state : AgreementState

structure ProtectedAction where
  actionId : Bytes32
  bundleKey : Bytes32
  payloadCommitment : Bytes32
  organizationId : Bytes32
  credentialId : Bytes32

/-- The events a marketplace emits. -/
inductive Event where
  | listingCreated (listingId batteryId sellerOrganizationId : Bytes32)
  | listingStateChanged (listingId : Bytes32) (state : ListingState)
  | offerSubmitted (offerId listingId buyerOrganizationId : Bytes32)
  | offerStateChanged (offerId : Bytes32) (state : OfferState)
  | agreementCreated (agreementId listingId offerId : Bytes32)
  | agreementStateChanged (agreementId : Bytes32) (state : AgreementState)
  | logisticsRecorded (agreementId actionId : Bytes32) (delivered : Bool)
  | transactionDisputeOpened (agreementId disputeId : Bytes32)
  | creditCreated (agreementId : Bytes32) (recipient : Address) (amount : Uint256)
  | creditWithdrawn (recipient : Address) (amount : Uint256)
  deriving DecidableEq

/-- The storage of a marketplace, the reentrancy guard included, its balance,
and what it has emitted, in order. -/
structure Marketplace where
  listings : Bytes32 → Listing
  offers : Bytes32 → Offer
  agreements : Bytes32 → Agreement
  protectedActions : Bytes32 → Bool
  withdrawableCredits : Address → Uint256
  entered : Bool
  balance : ℕ
  log : List Event

/-- The registries a marketplace calls. -/
structure Registries where
  authority : AuthorityProfileRegistry
  bundles : ProtectedBundleRegistry
  ownership : BatteryOwnershipRegistry
  deployment : DeploymentRegistry

/-- `address(this)`, the immutable `acceptanceWindow`, and the hash function. -/
structure Immutables where
  crypto : Crypto
  self : Address
  acceptanceWindow : Uint64

namespace Marketplace

/-- The marketplace as its constructor leaves it. -/
def deployed : Marketplace where
  listings _ := ⟨0, 0, 0, 0, 0, 0, 0, 0, 0, 0, .unset⟩
  offers _ := ⟨0, 0, 0, 0, 0, 0, 0, 0, .unset⟩
  agreements _ := ⟨0, 0, 0, 0, 0, 0, 0, 0, 0, 0, 0, 0, 0, 0, 0, 0, .unset⟩
  protectedActions _ := false
  withdrawableCredits _ := 0
  entered := false
  balance := 0
  log := []

def marketplaceType : Bytes32 := bytes32Literal "marketplace"

/-- What a marketplace answers as `IDomainModule`. -/
def domainModule : DomainModule := ⟨marketplaceType, 1⟩

def listingBundleType (crypto : Crypto) : Bytes32 := crypto.hashText "bundle-type:listing"
def agreementBundleType (crypto : Crypto) : Bytes32 := crypto.hashText "bundle-type:agreement"
def logisticsBundleType (crypto : Crypto) : Bytes32 := crypto.hashText "bundle-type:logistics"
def disputeBundleType (crypto : Crypto) : Bytes32 := crypto.hashText "bundle-type:dispute"
def listingCapability (crypto : Crypto) : Bytes32 := crypto.hashText "marketplace.listing.create"
def offerCapability (crypto : Crypto) : Bytes32 := crypto.hashText "marketplace.offer.submit"
def logisticsCapability (crypto : Crypto) : Bytes32 := crypto.hashText "logistics.record"
def disputeCapability (crypto : Crypto) : Bytes32 := crypto.hashText "dispute.open-transaction"
def resolveCapability (crypto : Crypto) : Bytes32 := crypto.hashText "dispute.resolve-transaction"

/-! ### Writes -/

section Writes

variable (m : Marketplace)

@[simps -fullyApplied]
def setListing (listingId : Bytes32) (listing : Listing) : Marketplace :=
  { m with listings := update m.listings listingId listing }

@[simps -fullyApplied]
def setOffer (offerId : Bytes32) (offer : Offer) : Marketplace :=
  { m with offers := update m.offers offerId offer }

@[simps -fullyApplied]
def setAgreement (agreementId : Bytes32) (agreement : Agreement) : Marketplace :=
  { m with agreements := update m.agreements agreementId agreement }

@[simps -fullyApplied]
def setCredit (recipient : Address) (credit : Uint256) : Marketplace :=
  { m with withdrawableCredits := update m.withdrawableCredits recipient credit }

@[simps -fullyApplied]
def useAction (actionId : Bytes32) : Marketplace :=
  { m with protectedActions := update m.protectedActions actionId true }

@[simps -fullyApplied]
def emit (events : List Event) : Marketplace := { m with log := m.log ++ events }

/-- `listing.state = state`. -/
@[simps! -fullyApplied]
def setListingState (listingId : Bytes32) (state : ListingState) : Marketplace :=
  m.setListing listingId { m.listings listingId with state := state }

/-- `offer.state = state`. -/
@[simps! -fullyApplied]
def setOfferState (offerId : Bytes32) (state : OfferState) : Marketplace :=
  m.setOffer offerId { m.offers offerId with state := state }

/-- `agreement.state = state`. -/
@[simps! -fullyApplied]
def setAgreementState (agreementId : Bytes32) (state : AgreementState) : Marketplace :=
  m.setAgreement agreementId { m.agreements agreementId with state := state }

end Writes

/-! ### Checks -/

variable (im : Immutables) (regs : Registries) (m : Marketplace) (msg : Msg)

/-- The `nonReentrant` modifier. Only `withdrawCredits` gives up control before
it ends, so only there the guard is seen set. -/
def nonReentrant : Except Revert Unit := throwIf (m.entered = true) .reentrancyGuardReentrantCall

/-- The call context of a call that the marketplace itself makes. -/
def own : Msg := { msg with sender := im.self }

def isActiveModule : Bool := regs.deployment.activeModules marketplaceType = im.self

def requireActiveModule : Except Revert Unit := throwIf (isActiveModule im regs = false) .inactiveModule

/-- `_authorized`. -/
def authorized (credentialId organizationId capability scope : Bytes32) : Bool :=
  regs.authority.isCredentialActive credentialId organizationId msg.sender &&
    regs.authority.hasCapability credentialId capability scope msg.timestamp64

/-- `_requireBundle`. -/
def requireBundle (bundleKey domainKey bundleType payloadCommitment : Bytes32)
    (expectedController : Address) : Except Revert Unit :=
  throwIf (regs.bundles.isConfirmedLink bundleKey domainKey bundleType payloadCommitment true = false ∨
    regs.bundles.controllerOf bundleKey ≠ expectedController) .invalidProtectedBundleLink

/-- `_partyOrganization`. -/
def partyOrganization (agreement : Agreement) (party : Address) : Bytes32 :=
  if party = agreement.buyer then agreement.buyerOrganizationId else agreement.sellerOrganizationId

/-- `_consumeProtectedAction`. -/
def consumeProtectedAction (agreementId : Bytes32) (action : ProtectedAction)
    (bundleType capability : Bytes32) : Except Revert Marketplace := do
  throwIf (action.actionId = 0 ∨ m.protectedActions action.actionId = true) .alreadyBound
  throwIf (authorized regs msg action.credentialId action.organizationId capability agreementId = false)
    .unauthorized
  requireBundle regs action.bundleKey action.actionId bundleType action.payloadCommitment msg.sender
  return m.useAction action.actionId

/-! ### Listings -/

def createListing (input : ListingInput) : Except Revert (Registries × Marketplace) := do
  nonReentrant m
  requireActiveModule im regs
  throwIf (input.listingId = 0 ∨ input.batteryId = 0 ∨ input.sellerOrganizationId = 0 ∨
    input.sellerCredentialId = 0 ∨ input.testPrice = 0 ∨ input.sellerPayoutAddress = 0) .invalidIdentifier
  throwIf (input.expiresAt.toNat ≤ msg.timestamp) .expired
  throwIf ((m.listings input.listingId).state ≠ .unset) .alreadyBound
  throwIf (authorized regs msg input.sellerCredentialId input.sellerOrganizationId
    (listingCapability im.crypto) input.batteryId = false) .unauthorized
  let battery := regs.ownership.batteries input.batteryId
  throwIf (battery.registered = false ∨ battery.recordedOwnerOrganizationId ≠ input.sellerOrganizationId)
    .unauthorized
  throwIf (battery.marketplaceLock ≠ 0) .invalidState
  requireBundle regs input.bundleKey input.listingId (listingBundleType im.crypto)
    input.payloadCommitment msg.sender
  let listing : Listing :=
    { batteryId := input.batteryId
      sellerOrganizationId := input.sellerOrganizationId
      sellerCredentialId := input.sellerCredentialId
      bundleKey := input.bundleKey
      payloadCommitment := input.payloadCommitment
      acceptedOfferId := 0
      seller := msg.sender
      sellerPayoutAddress := input.sellerPayoutAddress
      testPrice := input.testPrice
      expiresAt := input.expiresAt
      state := .active }
  let ownership ← regs.ownership.lockForMarketplace (own im msg) input.batteryId
  let deployment ← regs.deployment.bindAggregateOrigin (own im msg) input.listingId
  return ({ regs with ownership := ownership, deployment := deployment },
    (m.setListing input.listingId listing).emit
      [.listingCreated input.listingId input.batteryId input.sellerOrganizationId])

def withdrawListing (listingId : Bytes32) : Except Revert (Registries × Marketplace) := do
  nonReentrant m
  let listing := m.listings listingId
  throwIf (listing.state ≠ .active) .invalidState
  throwIf (listing.seller ≠ msg.sender) .unauthorized
  let ownership ← regs.ownership.unlockForMarketplace (own im msg) listing.batteryId
  return ({ regs with ownership := ownership },
    (m.setListingState listingId .withdrawn).emit [.listingStateChanged listingId .withdrawn])

def expireListing (listingId : Bytes32) : Except Revert (Registries × Marketplace) := do
  nonReentrant m
  let listing := m.listings listingId
  throwIf (listing.state ≠ .active) .invalidState
  throwIf (msg.timestamp < listing.expiresAt.toNat) .deadlineNotReached
  let ownership ← regs.ownership.unlockForMarketplace (own im msg) listing.batteryId
  return ({ regs with ownership := ownership },
    (m.setListingState listingId .expired).emit [.listingStateChanged listingId .expired])

/-! ### Offers -/

def submitOffer (input : OfferInput) : Except Revert Marketplace := do
  nonReentrant m
  requireActiveModule im regs
  let listing := m.listings input.listingId
  throwIf (listing.state ≠ .active ∨ listing.expiresAt.toNat ≤ msg.timestamp) .invalidState
  throwIf (input.offerId = 0 ∨ input.buyerOrganizationId = 0 ∨ input.buyerCredentialId = 0 ∨
    input.amount = 0 ∨ input.buyerRefundAddress = 0 ∨ input.termsCommitment = 0) .invalidIdentifier
  throwIf (input.expiresAt.toNat ≤ msg.timestamp ∨ listing.expiresAt < input.expiresAt) .expired
  throwIf ((m.offers input.offerId).state ≠ .unset) .alreadyBound
  throwIf (authorized regs msg input.buyerCredentialId input.buyerOrganizationId
    (offerCapability im.crypto) input.listingId = false) .unauthorized
  let offer : Offer :=
    { listingId := input.listingId
      buyerOrganizationId := input.buyerOrganizationId
      buyerCredentialId := input.buyerCredentialId
      termsCommitment := input.termsCommitment
      buyer := msg.sender
      buyerRefundAddress := input.buyerRefundAddress
      amount := input.amount
      expiresAt := input.expiresAt
      state := .submitted }
  return (m.setOffer input.offerId offer).emit
    [.offerSubmitted input.offerId input.listingId input.buyerOrganizationId]

def withdrawOffer (offerId : Bytes32) : Except Revert Marketplace := do
  nonReentrant m
  let offer := m.offers offerId
  throwIf (offer.state ≠ .submitted) .invalidState
  throwIf (offer.buyer ≠ msg.sender) .unauthorized
  return (m.setOfferState offerId .withdrawn).emit [.offerStateChanged offerId .withdrawn]

def rejectOffer (offerId : Bytes32) : Except Revert Marketplace := do
  nonReentrant m
  let offer := m.offers offerId
  let listing := m.listings offer.listingId
  throwIf (offer.state ≠ .submitted ∨ listing.state ≠ .active) .invalidState
  throwIf (listing.seller ≠ msg.sender) .unauthorized
  return (m.setOfferState offerId .rejected).emit [.offerStateChanged offerId .rejected]

def expireOffer (offerId : Bytes32) : Except Revert Marketplace := do
  nonReentrant m
  let offer := m.offers offerId
  throwIf (offer.state ≠ .submitted) .invalidState
  throwIf (msg.timestamp < offer.expiresAt.toNat) .deadlineNotReached
  return (m.setOfferState offerId .expired).emit [.offerStateChanged offerId .expired]

/-! ### Agreements -/

/-- The agreement that selecting an offer creates. -/
def newAgreement (listing : Listing) (offer : Offer) (input : AgreementInput) : Agreement where
  listingId := input.listingId
  offerId := input.offerId
  batteryId := listing.batteryId
  sellerOrganizationId := listing.sellerOrganizationId
  buyerOrganizationId := offer.buyerOrganizationId
  bundleKey := input.bundleKey
  payloadCommitment := input.payloadCommitment
  buyerAccessAuthorizationDigest := input.buyerAccessAuthorizationDigest
  disputeId := 0
  seller := listing.seller
  buyer := offer.buyer
  sellerPayoutAddress := listing.sellerPayoutAddress
  buyerRefundAddress := offer.buyerRefundAddress
  amount := offer.amount
  confirmationDeadline := input.confirmationDeadline
  deliveryDeadline := input.deliveryDeadline
  state := .awaitingBuyerConfirmation

def selectOfferAndCreateAgreement (input : AgreementInput) : Except Revert (Registries × Marketplace) := do
  nonReentrant m
  requireActiveModule im regs
  let listing := m.listings input.listingId
  let offer := m.offers input.offerId
  throwIf (listing.state ≠ .active ∨ offer.state ≠ .submitted ∨ offer.listingId ≠ input.listingId ∨
    listing.expiresAt.toNat ≤ msg.timestamp ∨ offer.expiresAt.toNat ≤ msg.timestamp) .invalidState
  throwIf (listing.seller ≠ msg.sender) .unauthorized
  throwIf (input.agreementId = 0 ∨ input.buyerAccessAuthorizationDigest = 0 ∨
    input.confirmationDeadline.toNat ≤ msg.timestamp ∨
    input.deliveryDeadline ≤ input.confirmationDeadline) .invalidIdentifier
  throwIf ((m.agreements input.agreementId).state ≠ .unset) .alreadyBound
  requireBundle regs input.bundleKey input.agreementId (agreementBundleType im.crypto)
    input.payloadCommitment msg.sender
  let matched := { listing with state := .matched, acceptedOfferId := input.offerId }
  let deployment ← regs.deployment.bindAggregateOrigin (own im msg) input.agreementId
  return ({ regs with deployment := deployment },
    (((m.setListing input.listingId matched).setOfferState input.offerId .accepted).setAgreement
      input.agreementId (newAgreement listing offer input)).emit
      [.agreementCreated input.agreementId input.listingId input.offerId])

def confirmAgreement (agreementId accessAuthorizationDigest : Bytes32) : Except Revert Marketplace := do
  nonReentrant m
  let agreement := m.agreements agreementId
  throwIf (agreement.state ≠ .awaitingBuyerConfirmation) .invalidState
  throwIf (agreement.buyer ≠ msg.sender) .unauthorized
  throwIf (agreement.confirmationDeadline.toNat ≤ msg.timestamp ∨
    accessAuthorizationDigest ≠ agreement.buyerAccessAuthorizationDigest) .expired
  return (m.setAgreementState agreementId .awaitingFunding).emit
    [.agreementStateChanged agreementId .awaitingFunding]

/-- `value` is `msg.value`. -/
def fundAgreement (agreementId : Bytes32) (value : Uint256) : Except Revert Marketplace := do
  nonReentrant m
  let agreement := m.agreements agreementId
  throwIf (agreement.state ≠ .awaitingFunding) .invalidState
  throwIf (agreement.buyer ≠ msg.sender) .unauthorized
  throwIf (agreement.confirmationDeadline.toNat ≤ msg.timestamp) .expired
  throwIf (value ≠ agreement.amount) .invalidPayment
  let paid := { m with balance := m.balance + value.toNat }
  return (paid.setAgreementState agreementId .funded).emit [.agreementStateChanged agreementId .funded]

/-- The agreement reaches a terminal state and closes its listing. -/
@[simps! -fullyApplied]
def closeAgreement (agreementId : Bytes32) (state : AgreementState) (listingState : ListingState) : Marketplace :=
  (m.setAgreementState agreementId state).setListingState (m.agreements agreementId).listingId listingState

/-- `_releaseAndTransfer`. -/
def releaseAndTransfer (agreementId : Bytes32) : Except Revert (Registries × Marketplace) := do
  let agreement := m.agreements agreementId
  let credit ← checkedAdd (m.withdrawableCredits agreement.sellerPayoutAddress) agreement.amount
  let ownership ← regs.ownership.transferRecordedOwnership (own im msg) agreement.batteryId
    agreement.buyerOrganizationId
  return ({ regs with ownership := ownership },
    ((m.closeAgreement agreementId .settled .closedSettled).setCredit
      agreement.sellerPayoutAddress credit).emit
      [.creditCreated agreementId agreement.sellerPayoutAddress agreement.amount,
        .agreementStateChanged agreementId .settled])

/-- `_refundAndCancel`. -/
def refundAndCancel (agreementId : Bytes32) : Except Revert (Registries × Marketplace) := do
  let agreement := m.agreements agreementId
  let credit ← checkedAdd (m.withdrawableCredits agreement.buyerRefundAddress) agreement.amount
  let ownership ← regs.ownership.unlockForMarketplace (own im msg) agreement.batteryId
  return ({ regs with ownership := ownership },
    ((m.closeAgreement agreementId .cancelled .closedCancelled).setCredit
      agreement.buyerRefundAddress credit).emit
      [.creditCreated agreementId agreement.buyerRefundAddress agreement.amount,
        .agreementStateChanged agreementId .cancelled])

/-- `_cancelWithoutFunds`. -/
def cancelWithoutFunds (agreementId : Bytes32) : Except Revert (Registries × Marketplace) := do
  let agreement := m.agreements agreementId
  let ownership ← regs.ownership.unlockForMarketplace (own im msg) agreement.batteryId
  return ({ regs with ownership := ownership },
    (m.closeAgreement agreementId .cancelled .closedCancelled).emit
      [.agreementStateChanged agreementId .cancelled])

def cancelUnfundedAgreement (agreementId : Bytes32) : Except Revert (Registries × Marketplace) := do
  nonReentrant m
  let agreement := m.agreements agreementId
  throwIf (agreement.state ≠ .awaitingBuyerConfirmation ∧ agreement.state ≠ .awaitingFunding) .invalidState
  throwIf (msg.timestamp < agreement.confirmationDeadline.toNat ∧ isActiveModule im regs = true)
    .deadlineNotReached
  cancelWithoutFunds im regs m msg agreementId

def recordDispatch (agreementId : Bytes32) (action : ProtectedAction) : Except Revert Marketplace := do
  nonReentrant m
  let agreement := m.agreements agreementId
  throwIf (agreement.state ≠ .funded ∨ agreement.deliveryDeadline.toNat ≤ msg.timestamp) .invalidState
  let m ← consumeProtectedAction regs m msg agreementId action (logisticsBundleType im.crypto)
    (logisticsCapability im.crypto)
  return (m.setAgreementState agreementId .inDelivery).emit
    [.logisticsRecorded agreementId action.actionId false, .agreementStateChanged agreementId .inDelivery]

def recordDelivery (agreementId : Bytes32) (action : ProtectedAction) : Except Revert Marketplace := do
  nonReentrant m
  let agreement := m.agreements agreementId
  throwIf (agreement.state ≠ .inDelivery ∨ agreement.deliveryDeadline.toNat ≤ msg.timestamp) .invalidState
  let m ← consumeProtectedAction regs m msg agreementId action (logisticsBundleType im.crypto)
    (logisticsCapability im.crypto)
  return (m.setAgreementState agreementId .delivered).emit
    [.logisticsRecorded agreementId action.actionId true, .agreementStateChanged agreementId .delivered]

def acceptDelivery (agreementId : Bytes32) : Except Revert Marketplace := do
  nonReentrant m
  let agreement := m.agreements agreementId
  throwIf (agreement.state ≠ .delivered) .invalidState
  throwIf (agreement.buyer ≠ msg.sender) .unauthorized
  let deadline ← checkedAdd agreement.deliveryDeadline im.acceptanceWindow
  throwIf (deadline.toNat ≤ msg.timestamp) .expired
  return (m.setAgreementState agreementId .accepted).emit [.agreementStateChanged agreementId .accepted]

def applyDispatchTimeout (agreementId : Bytes32) : Except Revert (Registries × Marketplace) := do
  nonReentrant m
  let agreement := m.agreements agreementId
  throwIf (agreement.state ≠ .funded) .invalidState
  throwIf (msg.timestamp < agreement.deliveryDeadline.toNat) .deadlineNotReached
  refundAndCancel im regs m msg agreementId

/-- The sum of `acceptanceLate` is only computed, and can only overflow, where
the agreement is delivered. -/
def acceptanceLate (agreement : Agreement) : Except Revert Bool :=
  if agreement.state = .delivered then do
    let deadline ← checkedAdd agreement.deliveryDeadline im.acceptanceWindow
    return decide (deadline.toNat ≤ msg.timestamp)
  else
    return false

def applyDeliveryOrAcceptanceTimeout (agreementId : Bytes32) : Except Revert Marketplace := do
  nonReentrant m
  let agreement := m.agreements agreementId
  let deliveryLate := decide (agreement.state = .inDelivery ∧ agreement.deliveryDeadline.toNat ≤ msg.timestamp)
  let late ← acceptanceLate im msg agreement
  throwIf (deliveryLate = false ∧ late = false) .deadlineNotReached
  return (m.setAgreementState agreementId .timedOutReferred).emit
    [.agreementStateChanged agreementId .timedOutReferred]

def openTransactionDispute (agreementId : Bytes32) (action : ProtectedAction) : Except Revert Marketplace := do
  nonReentrant m
  let agreement := m.agreements agreementId
  throwIf (agreement.state ≠ .funded ∧ agreement.state ≠ .inDelivery ∧ agreement.state ≠ .delivered)
    .invalidState
  throwIf (msg.sender ≠ agreement.buyer ∧ msg.sender ≠ agreement.seller) .unauthorized
  throwIf (action.organizationId ≠ partyOrganization agreement msg.sender) .unauthorized
  let m ← consumeProtectedAction regs m msg agreementId action (disputeBundleType im.crypto)
    (disputeCapability im.crypto)
  let disputed := { agreement with disputeId := action.actionId, state := .disputed }
  return (m.setAgreement agreementId disputed).emit
    [.transactionDisputeOpened agreementId action.actionId, .agreementStateChanged agreementId .disputed]

def resolveAgreement (agreementId resolverOrganizationId resolverCredentialId : Bytes32)
    (resolution : Resolution) : Except Revert (Registries × Marketplace) := do
  nonReentrant m
  let agreement := m.agreements agreementId
  throwIf (agreement.state ≠ .disputed ∧ agreement.state ≠ .timedOutReferred) .invalidState
  throwIf (authorized regs msg resolverCredentialId resolverOrganizationId
    (resolveCapability im.crypto) agreementId = false) .unauthorized
  throwIf (msg.sender = agreement.buyer ∨ msg.sender = agreement.seller) .unauthorized
  match resolution with
  | .releaseAndTransfer => releaseAndTransfer im regs m msg agreementId
  | .refundAndCancel => refundAndCancel im regs m msg agreementId

def settleAccepted (agreementId : Bytes32) : Except Revert (Registries × Marketplace) := do
  nonReentrant m
  throwIf ((m.agreements agreementId).state ≠ .accepted) .invalidState
  releaseAndTransfer im regs m msg agreementId

/-! ### Withdrawals -/

/-- `withdrawCredits` up to the payment, and the amount sent. The payment fails
where the balance does not cover it. -/
def withdrawCredits : Except Revert (Marketplace × Uint256) := do
  nonReentrant m
  let amount := m.withdrawableCredits msg.sender
  throwIf (amount = 0) .invalidPayment
  throwIf (m.balance < amount.toNat) .invalidPayment
  let cleared := m.setCredit msg.sender 0
  return ({ cleared with entered := true, balance := m.balance - amount.toNat }, amount)

/-- What follows the payment in `withdrawCredits`. -/
@[simps! -fullyApplied]
def creditsWithdrawn (recipient : Address) (amount : Uint256) : Marketplace :=
  { m with entered := false }.emit [.creditWithdrawn recipient amount]

end Marketplace
end Contracts
end Evllm
