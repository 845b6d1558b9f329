/-
# The contracts together

The registries and any number of marketplaces over them, and every call that
can be made to them. Accounts and contracts outside the system may call
anything, in any order and at any time; a marketplace calls the registries
only in its own functions.

Key definitions
- `Deployment`: what is fixed when the contracts are deployed
- `Chain`: the state of all of them
- `Op`, `exec`: a call of an outside account, and what it does
- `machine`: the calls with the withdrawals, which hand control to the recipient
- `after`: the contracts and the pending withdrawals after a run
-/
import Evllm.Contracts.Marketplace
import Evllm.Lib.Calls

namespace Evllm
namespace Contracts

open Lib Function

/-- What the constructors are given, and where the contracts are. -/
structure Deployment where
  crypto : Crypto
  authorityGovernance : Address
  bundleGovernance : Address
  ownershipGovernance : Address
  deploymentGovernance : Address
  bundleSite : ProtectedBundleRegistry.Site
  reviewDelay : Uint64
  isMarketplace : Address → Bool
  acceptanceWindow : Address → Uint64
  /-- No contract has the address zero. -/
  zero_not_marketplace : isMarketplace 0 = false
  /-- The constructor refuses an empty window. -/
  acceptanceWindow_ne_zero : ∀ a, acceptanceWindow a ≠ 0

variable {D : Deployment}

/-- The address of a marketplace. -/
abbrev Deployment.Market (D : Deployment) := { a : Address // D.isMarketplace a = true }

/-- An account, or a contract other than the marketplaces: the callers from
outside. Another module that governance authorises as a marketplace is one. -/
abbrev Deployment.Caller (D : Deployment) := { a : Address // D.isMarketplace a = false }

theorem market_ne_zero (self : D.Market) : self.1 ≠ 0 := by
  intro h
  have hm := self.2
  rw [h, D.zero_not_marketplace] at hm
  simp at hm

theorem caller_ne_market (caller : D.Caller) (self : D.Market) : caller.1 ≠ self.1 := by
  intro h
  have hm := self.2
  rw [← h, caller.2] at hm
  simp at hm

def Deployment.immutables (D : Deployment) (self : D.Market) : Immutables where
  crypto := D.crypto
  self := self.1
  acceptanceWindow := D.acceptanceWindow self.1

structure Chain (D : Deployment) where
  registries : Registries
  markets : D.Market → Marketplace

/-- The contracts as their constructors leave them. -/
def Chain.deployed (D : Deployment) : Chain D where
  registries :=
    { authority := .deployed D.authorityGovernance
      bundles := .deployed D.bundleGovernance
      ownership := .deployed D.ownershipGovernance
      deployment := .deployed D.deploymentGovernance D.reviewDelay }
  markets _ := .deployed

/-! ### Calls -/

/-- The calls of the authority profile registry. -/
inductive AuthorityOp where
  | setOrganizationStatus (organizationId : Bytes32) (status : OrganizationStatus)
  | setProfile (profileId : Bytes32) (version : Uint64) (digest : Bytes32) (active : Bool)
  | setRepositoryApproval (repositoryId : Bytes32) (approved : Bool)
  | setCredential (credentialId organizationId : Bytes32) (account : Address) (active replicaAttestation : Bool)
  | setCapabilityGrant (credentialId capabilityId resourceScope : Bytes32) (effectiveAt expiresAt : Uint64)
      (active : Bool)
  | transferOwnership (newOwner : Address)
  | renounceOwnership

/-- The calls of the protected bundle registry. -/
inductive BundleOp where
  | closeBootstrap
  | commitProtectedBundle (input : ProtectedBundleRegistry.CommitInput)
  | commitAttestedProtectedBundle (input : ProtectedBundleRegistry.AttestedInput)
  | promoteToDecisionCritical (bundleKey : Bytes32)
  | submitReplicaReceipt (input : ProtectedBundleRegistry.ReceiptInput)

/-- The calls of the battery ownership registry. -/
inductive OwnershipOp where
  | setRegistrar (registrar : Address) (allowed : Bool)
  | setMarketplace (marketplace : Address) (allowed : Bool)
  | registerBattery (batteryId initialOwnerOrganizationId : Bytes32)
  | proposeInitialOwnership (proposalId batteryId ownerOrganizationId : Bytes32) (ownerAccount : Address)
      (expiresAt : Uint64)
  | acceptInitialOwnership (proposalId : Bytes32)
  | rejectInitialOwnership (proposalId : Bytes32)
  | expireInitialOwnership (proposalId : Bytes32)
  | registerComponent (subjectId parentId : Bytes32) (granularity : SubjectGranularity)
  | lockForMarketplace (batteryId : Bytes32)
  | transferRecordedOwnership (batteryId newOwnerOrganizationId : Bytes32)
  | unlockForMarketplace (batteryId : Bytes32)
  | transferOwnership (newOwner : Address)
  | renounceOwnership

/-- The calls of the deployment registry. `answers` is what the module answers
as `IDomainModule`; it is not asked where the module is a marketplace. -/
inductive DeploymentOp where
  | proposeModule (expectedType : Bytes32) (module : Address) (answers : Option DomainModule)
  | activateModule (moduleType : Bytes32)
  | bindAggregateOrigin (aggregateId : Bytes32)
  | transferOwnership (newOwner : Address)
  | renounceOwnership

/-- The calls of a marketplace, but for `withdrawCredits`. -/
inductive MarketOp where
  | createListing (input : ListingInput)
  | withdrawListing (listingId : Bytes32)
  | expireListing (listingId : Bytes32)
  | submitOffer (input : OfferInput)
  | withdrawOffer (offerId : Bytes32)
  | rejectOffer (offerId : Bytes32)
  | expireOffer (offerId : Bytes32)
  | selectOfferAndCreateAgreement (input : AgreementInput)
  | confirmAgreement (agreementId accessAuthorizationDigest : Bytes32)
  | fundAgreement (agreementId : Bytes32) (value : Uint256)
  | cancelUnfundedAgreement (agreementId : Bytes32)
  | recordDispatch (agreementId : Bytes32) (action : ProtectedAction)
  | recordDelivery (agreementId : Bytes32) (action : ProtectedAction)
  | acceptDelivery (agreementId : Bytes32)
  | applyDispatchTimeout (agreementId : Bytes32)
  | applyDeliveryOrAcceptanceTimeout (agreementId : Bytes32)
  | openTransactionDispute (agreementId : Bytes32) (action : ProtectedAction)
  | resolveAgreement (agreementId resolverOrganizationId resolverCredentialId : Bytes32) (resolution : Resolution)
  | settleAccepted (agreementId : Bytes32)

inductive Op (D : Deployment) where
  | authority (op : AuthorityOp)
  | bundles (op : BundleOp)
  | ownership (op : OwnershipOp)
  | deployment (op : DeploymentOp)
  | market (self : D.Market) (op : MarketOp)

/-! ### What a call does -/

def AuthorityOp.exec (r : AuthorityProfileRegistry) (msg : Msg) : AuthorityOp → Except Revert AuthorityProfileRegistry
  | .setOrganizationStatus organizationId status => r.setOrganizationStatus msg organizationId status
  | .setProfile profileId version digest active => r.setProfile msg profileId version digest active
  | .setRepositoryApproval repositoryId approved => r.setRepositoryApproval msg repositoryId approved
  | .setCredential credentialId organizationId account active replicaAttestation =>
    r.setCredential msg credentialId organizationId account active replicaAttestation
  | .setCapabilityGrant credentialId capabilityId resourceScope effectiveAt expiresAt active =>
    r.setCapabilityGrant msg credentialId capabilityId resourceScope effectiveAt expiresAt active
  | .transferOwnership newOwner => do return { r with owner := ← Contracts.transferOwnership r.owner msg newOwner }
  | .renounceOwnership => do return { r with owner := ← Contracts.renounceOwnership r.owner msg }

def BundleOp.exec (D : Deployment) (a : AuthorityProfileRegistry) (r : ProtectedBundleRegistry) (msg : Msg) :
    BundleOp → Except Revert ProtectedBundleRegistry
  | .closeBootstrap => r.closeBootstrap msg
  | .commitProtectedBundle input => r.commitProtectedBundle a msg input
  | .commitAttestedProtectedBundle input => r.commitAttestedProtectedBundle a msg D.crypto D.bundleSite input
  | .promoteToDecisionCritical bundleKey => r.promoteToDecisionCritical msg bundleKey
  | .submitReplicaReceipt input => r.submitReplicaReceipt a msg D.crypto input

def OwnershipOp.exec (r : BatteryOwnershipRegistry) (msg : Msg) : OwnershipOp → Except Revert BatteryOwnershipRegistry
  | .setRegistrar registrar allowed => r.setRegistrar msg registrar allowed
  | .setMarketplace marketplace allowed => r.setMarketplace msg marketplace allowed
  | .registerBattery batteryId owner => r.registerBattery msg batteryId owner
  | .proposeInitialOwnership proposalId batteryId owner account expiresAt =>
    r.proposeInitialOwnership msg proposalId batteryId owner account expiresAt
  | .acceptInitialOwnership proposalId => r.acceptInitialOwnership msg proposalId
  | .rejectInitialOwnership proposalId => r.rejectInitialOwnership msg proposalId
  | .expireInitialOwnership proposalId => r.expireInitialOwnership msg proposalId
  | .registerComponent subjectId parentId granularity => r.registerComponent msg subjectId parentId granularity
  | .lockForMarketplace batteryId => r.lockForMarketplace msg batteryId
  | .transferRecordedOwnership batteryId newOwner => r.transferRecordedOwnership msg batteryId newOwner
  | .unlockForMarketplace batteryId => r.unlockForMarketplace msg batteryId
  | .transferOwnership newOwner => do return { r with owner := ← Contracts.transferOwnership r.owner msg newOwner }
  | .renounceOwnership => do return { r with owner := ← Contracts.renounceOwnership r.owner msg }

def DeploymentOp.exec (D : Deployment) (r : DeploymentRegistry) (msg : Msg) :
    DeploymentOp → Except Revert DeploymentRegistry
  | .proposeModule expectedType module answers =>
    r.proposeModule msg expectedType module
      (if D.isMarketplace module = true then some Marketplace.domainModule else answers)
  | .activateModule moduleType => r.activateModule msg moduleType
  | .bindAggregateOrigin aggregateId => r.bindAggregateOrigin msg aggregateId
  | .transferOwnership newOwner => do return { r with owner := ← Contracts.transferOwnership r.owner msg newOwner }
  | .renounceOwnership => do return { r with owner := ← Contracts.renounceOwnership r.owner msg }

/-- A call that leaves the registries as they are. -/
def keeping (regs : Registries) (result : Except Revert Marketplace) : Except Revert (Registries × Marketplace) := do
  return (regs, ← result)

def MarketOp.exec (im : Immutables) (regs : Registries) (m : Marketplace) (msg : Msg) :
    MarketOp → Except Revert (Registries × Marketplace)
  | .createListing input => m.createListing im regs msg input
  | .withdrawListing listingId => m.withdrawListing im regs msg listingId
  | .expireListing listingId => m.expireListing im regs msg listingId
  | .submitOffer input => keeping regs (m.submitOffer im regs msg input)
  | .withdrawOffer offerId => keeping regs (m.withdrawOffer msg offerId)
  | .rejectOffer offerId => keeping regs (m.rejectOffer msg offerId)
  | .expireOffer offerId => keeping regs (m.expireOffer msg offerId)
  | .selectOfferAndCreateAgreement input => m.selectOfferAndCreateAgreement im regs msg input
  | .confirmAgreement agreementId digest => keeping regs (m.confirmAgreement msg agreementId digest)
  | .fundAgreement agreementId value => keeping regs (m.fundAgreement msg agreementId value)
  | .cancelUnfundedAgreement agreementId => m.cancelUnfundedAgreement im regs msg agreementId
  | .recordDispatch agreementId action => keeping regs (m.recordDispatch im regs msg agreementId action)
  | .recordDelivery agreementId action => keeping regs (m.recordDelivery im regs msg agreementId action)
  | .acceptDelivery agreementId => keeping regs (m.acceptDelivery im msg agreementId)
  | .applyDispatchTimeout agreementId => m.applyDispatchTimeout im regs msg agreementId
  | .applyDeliveryOrAcceptanceTimeout agreementId =>
    keeping regs (m.applyDeliveryOrAcceptanceTimeout im msg agreementId)
  | .openTransactionDispute agreementId action => keeping regs (m.openTransactionDispute im regs msg agreementId action)
  | .resolveAgreement agreementId organizationId credentialId resolution =>
    m.resolveAgreement im regs msg agreementId organizationId credentialId resolution
  | .settleAccepted agreementId => m.settleAccepted im regs msg agreementId

def exec (c : Chain D) (msg : Msg) : Op D → Except Revert (Chain D)
  | .authority op => do
    let authority ← op.exec c.registries.authority msg
    return { c with registries := { c.registries with authority := authority } }
  | .bundles op => do
    let bundles ← op.exec D c.registries.authority c.registries.bundles msg
    return { c with registries := { c.registries with bundles := bundles } }
  | .ownership op => do
    let ownership ← op.exec c.registries.ownership msg
    return { c with registries := { c.registries with ownership := ownership } }
  | .deployment op => do
    let deployment ← op.exec D c.registries.deployment msg
    return { c with registries := { c.registries with deployment := deployment } }
  | .market self op => do
    let (regs, m) ← op.exec (D.immutables self) c.registries (c.markets self) msg
    return { registries := regs, markets := update c.markets self m }

/-! ### The machine -/

/-- A call from outside: who makes it, and when. -/
structure Request (D : Deployment) where
  caller : D.Caller
  timestamp : ℕ

def Request.msg (request : Request D) : Msg := ⟨request.caller.1, request.timestamp⟩

/-- A withdrawal whose recipient has control. -/
structure Withdrawal (D : Deployment) where
  self : D.Market
  recipient : Address
  amount : Uint256

def machine (D : Deployment) :
    CallMachine (Chain D) (Withdrawal D) (Request D × Op D) (Request D × D.Market) where
  exec c call := (exec c call.1.msg call.2).toOption
  enter c call :=
    match (c.markets call.2).withdrawCredits call.1.msg with
    | .error _ => none
    | .ok (m, amount) => some ({ c with markets := update c.markets call.2 m }, ⟨call.2, call.1.caller.1, amount⟩)
  leave c w := { c with markets := update c.markets w.self ((c.markets w.self).creditsWithdrawn w.recipient w.amount) }

/-- A step of a run: a call, a withdrawal begun, or a recipient's answer. -/
abbrev Deployment.Step (D : Deployment) := Act (Request D × Op D) (Request D × D.Market)

/-- The contracts, with the withdrawals pending, after the steps `ls` since
they were deployed. -/
def after (D : Deployment) (ls : List D.Step) : CallState (Chain D) (Withdrawal D) :=
  run (machine D).step ⟨Chain.deployed D, []⟩ ls

/-! ### A run -/

namespace Sample

/-- Keccak-256 of what the run below hashes. -/
def hashes : List (Bytes × Bytes32) :=
  [(utf8 "bundle-type:listing", 0xb9da9a54d2d025534ae0bcf4858f9d3e2718fcf4129b31feca1800c3fc31ffee),
    (utf8 "bundle-type:agreement", 0x018f056133b809b49362de441cf7d7f569c71dfc4118d0a7b9e9b3de22251f9f),
    (utf8 "bundle-type:logistics", 0xf90d218c3d6651df132d1e073e80a05d2a8ca3612b138f8a18ce7a7f1f938dd4),
    (utf8 "bundle-type:dispute", 0xe3f1e882646a33a72439ad26761ef65bdaf12623b9337cd7251df6dabfd166f4),
    (utf8 "marketplace.listing.create", 0xc895b853ef7918b3d4001832ded2fedc55f5cd0897c51ab51e7663f4ac0bf3a8),
    (utf8 "marketplace.offer.submit", 0x081a1d89f2d7a91c99a29d2538fbf177bd0100ad8a3c3da9877c0c5b653ea074),
    (utf8 "logistics.record", 0xe0881205a33e6f53882ea7a74e1619c14c3ba0776598196ff77247db4d0fdbb2),
    (abiEncode [13, 21], 0xe3e3bb3f660b5aca6f44f8cdafd6456c07cd53888341ab748ffc02d532ccc70e),
    (abiEncode [13, 22], 0x1f3872f63ca641494b685e4fa2176636d028d8c80f254656e89768cf27243273),
    (abiEncode [13, 23], 0xd4f117696427b3170ffd20740156ca83422b10d4acca400a7ad7659ba482c094)]

/-- One marketplace, at the address 60, with the account 9 as governance. -/
def deployment : Deployment where
  crypto := ⟨fun bytes => (hashes.lookup bytes).getD 0, fun _ _ _ _ => 0⟩
  authorityGovernance := 9
  bundleGovernance := 9
  ownershipGovernance := 9
  deploymentGovernance := 9
  bundleSite := ⟨1, 50⟩
  reviewDelay := 1
  isMarketplace a := decide (a = 60)
  acceptanceWindow _ := 10
  zero_not_marketplace := by decide
  acceptanceWindow_ne_zero _ := by decide

def market : deployment.Market := ⟨60, by decide⟩

/-- The seller, who is governance too. -/
def seller : deployment.Caller := ⟨9, by decide⟩
def buyer : deployment.Caller := ⟨8, by decide⟩
def custodian : deployment.Caller := ⟨7, by decide⟩

def call (caller : deployment.Caller) (timestamp : ℕ) (op : Op deployment) : deployment.Step :=
  .call (⟨caller, timestamp⟩, op)

/-- The organisations of the three accounts, and what they may do. -/
def accounts : List deployment.Step :=
  [call seller 0 (.authority (.setOrganizationStatus 1 .active)),
    call seller 0 (.authority (.setOrganizationStatus 2 .active)),
    call seller 0 (.authority (.setOrganizationStatus 3 .active)),
    call seller 0 (.authority (.setCredential 11 1 9 true false)),
    call seller 0 (.authority (.setCredential 12 2 8 true false)),
    call seller 0 (.authority (.setCredential 13 3 7 true true)),
    call seller 0 (.authority
      (.setCapabilityGrant 11 (Marketplace.listingCapability deployment.crypto) 0 0 0 true)),
    call seller 0 (.authority
      (.setCapabilityGrant 11 (Marketplace.logisticsCapability deployment.crypto) 0 0 0 true)),
    call seller 0 (.authority
      (.setCapabilityGrant 12 (Marketplace.offerCapability deployment.crypto) 0 0 0 true))]

/-- The battery 5 registered, and the marketplace made the active module. -/
def modules : List deployment.Step :=
  [call seller 0 (.ownership (.setRegistrar 9 true)),
    call seller 0 (.ownership (.setMarketplace 60 true)),
    call seller 0 (.ownership (.registerBattery 5 1)),
    call seller 0 (.deployment (.proposeModule Marketplace.marketplaceType 60 none)),
    call seller 1 (.deployment (.activateModule Marketplace.marketplaceType))]

/-- A bundle committed, received by the custodian and promoted. -/
def bundle (bundleKey domainKey bundleType : Bytes32) : List deployment.Step :=
  [call seller 1 (.bundles (.commitProtectedBundle
      ⟨bundleKey, domainKey, 1, bundleType, 41, 42, 10, 43, .supplementary⟩)),
    call custodian 1 (.bundles (.submitReplicaReceipt ⟨bundleKey, 51, 3, 13, 42, 10, bundleKey⟩)),
    call seller 1 (.bundles (.promoteToDecisionCritical bundleKey))]

/-- The listing 31, the offer 33 and the agreement 32, which the buyer funds. -/
def trades : List deployment.Step :=
  [call seller 2 (.market market (.createListing ⟨31, 5, 1, 11, 21, 41, 100, 9, 10⟩)),
    call buyer 3 (.market market (.submitOffer ⟨33, 31, 2, 12, 90, 8, 44, 9⟩)),
    call seller 4 (.market market (.selectOfferAndCreateAgreement ⟨32, 31, 33, 22, 41, 45, 20, 30⟩)),
    call buyer 5 (.market market (.confirmAgreement 32 45)),
    call buyer 6 (.market market (.fundAgreement 32 90))]

/-- A run up to an agreement that is funded. -/
def funded : List deployment.Step :=
  accounts ++ modules ++ bundle 21 31 (Marketplace.listingBundleType deployment.crypto) ++
    bundle 22 32 (Marketplace.agreementBundleType deployment.crypto) ++ trades

end Sample

end Contracts
end Evllm
