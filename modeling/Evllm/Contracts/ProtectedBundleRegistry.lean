/-
# The protected bundle registry

One commitment per bundle and one bundle per domain key. A bundle is committed
by bootstrap governance or with a signed domain attestation, as
supplementary; a verified replica receipt lets its controller promote it to
decision critical.
-/
import Evllm.Contracts.AuthorityProfileRegistry

namespace Evllm
namespace Contracts

open Lib Function

inductive CriticalityClass where
  | supplementary
  | decisionCritical
  deriving DecidableEq, Repr

structure Commitment where
  domainKey : Bytes32
  controllerOrganizationId : Bytes32
  controller : Address
  bundleType : Bytes32
  domainPayloadCommitment : Bytes32
  contentEnvelopeDigest : Bytes32
  storedEnvelopeLength : Uint64
  replicaPolicyDigest : Bytes32
  criticalityClass : CriticalityClass
  confirmed : Bool

structure DomainAttestation where
  bundleId : Bytes32
  bundleVersion : Uint64
  bundleType : Bytes32
  domainResourceId : Bytes32
  domainResourceVersion : Uint64
  authorBindingProfileId : Bytes32
  authorBindingProfileVersion : Uint64
  domainPayloadCommitment : Bytes32
  signerActorId : Bytes32
  signerOrgId : Bytes32
  signerCredentialId : Bytes32
  nonce : Uint256
  issuedAt : Uint64
  expiresAt : Uint64

/-- The type string of `DOMAIN_ATTESTATION_TYPEHASH`. -/
def domainAttestationType : String :=
  "DomainManifestAttestation(bytes32 bundleId,uint64 bundleVersion,bytes32 bundleType,bytes32 domainResourceId,uint64 domainResourceVersion,bytes32 authorBindingProfileId,uint64 authorBindingProfileVersion,bytes32 domainPayloadCommitment,bytes32 signerActorId,bytes32 signerOrgId,bytes32 signerCredentialId,uint256 nonce,uint64 issuedAt,uint64 expiresAt)"

/-- The attestation as the words `abi.encode` writes. -/
def DomainAttestation.words (attestation : DomainAttestation) : List Bytes32 :=
  [attestation.bundleId, attestation.bundleVersion.setWidth 256, attestation.bundleType,
    attestation.domainResourceId, attestation.domainResourceVersion.setWidth 256,
    attestation.authorBindingProfileId, attestation.authorBindingProfileVersion.setWidth 256,
    attestation.domainPayloadCommitment, attestation.signerActorId, attestation.signerOrgId,
    attestation.signerCredentialId, attestation.nonce, attestation.issuedAt.setWidth 256,
    attestation.expiresAt.setWidth 256]

structure ProtectedBundleRegistry where
  bootstrapGovernance : Address
  bootstrapClosed : Bool
  commitments : Bytes32 → Commitment
  bundleForDomain : Bytes32 → Bytes32
  consumedReceiptNonces : Bytes32 → Bool
  verifiedReplicaReceipt : Bytes32 → Bool
  consumedAttestationNonces : Bytes32 → Bool

namespace ProtectedBundleRegistry

/-- The registry as its constructor leaves it. -/
def deployed (deployer : Address) : ProtectedBundleRegistry where
  bootstrapGovernance := deployer
  bootstrapClosed := false
  commitments _ := ⟨0, 0, 0, 0, 0, 0, 0, 0, .supplementary, false⟩
  bundleForDomain _ := 0
  consumedReceiptNonces _ := false
  verifiedReplicaReceipt _ := false
  consumedAttestationNonces _ := false

/-! ### The typed-data digest -/

/-- The chain and the address the registry is deployed at: `block.chainid` and
`address(this)`. -/
structure Site where
  chainId : Uint256
  address : Address

/-- `EIP712._domainSeparatorV4` for the name and version of the constructor. -/
def domainSeparator (crypto : Crypto) (site : Site) : Bytes32 :=
  crypto.keccak256 (abiEncode
    [crypto.hashText "EIP712Domain(string name,string version,uint256 chainId,address verifyingContract)",
      crypto.hashText "EVLLM Domain Manifest", crypto.hashText "1", site.chainId, site.address.setWidth 256])

/-- `_attestationStructHash`. -/
def attestationStructHash (crypto : Crypto) (attestation : DomainAttestation) : Bytes32 :=
  crypto.keccak256 (abiEncode (crypto.hashText domainAttestationType :: attestation.words))

/-- `_hashTypedDataV4`: the digest of a separator and a struct hash. -/
def typedDataHash (crypto : Crypto) (separator structHash : Bytes32) : Bytes32 :=
  crypto.keccak256 ([0x19, 0x01] ++ wordBytes separator ++ wordBytes structHash)

/-! ### Committing -/

variable (registry : ProtectedBundleRegistry) (authority : AuthorityProfileRegistry) (msg : Msg)

def closeBootstrap : Except Revert ProtectedBundleRegistry := do
  throwIf (msg.sender ≠ registry.bootstrapGovernance ∨ registry.bootstrapClosed = true) .bootstrapUnavailable
  return { registry with bootstrapClosed := true }

/-- The arguments of a commit besides the caller. -/
structure CommitInput where
  bundleKey : Bytes32
  domainKey : Bytes32
  controllerOrganizationId : Bytes32
  bundleType : Bytes32
  domainPayloadCommitment : Bytes32
  contentEnvelopeDigest : Bytes32
  storedEnvelopeLength : Uint64
  replicaPolicyDigest : Bytes32
  initialCriticalityClass : CriticalityClass

/-- `_commitProtectedBundle`. -/
def commit (input : CommitInput) : Except Revert ProtectedBundleRegistry := do
  throwIf (input.bundleKey = 0 ∨ input.domainKey = 0 ∨ input.controllerOrganizationId = 0 ∨
    input.bundleType = 0 ∨ input.domainPayloadCommitment = 0 ∨ input.contentEnvelopeDigest = 0 ∨
    input.storedEnvelopeLength = 0 ∨ input.replicaPolicyDigest = 0) .invalidCommitment
  throwIf (authority.isOrganizationActive input.controllerOrganizationId = false)
    .inactiveControllerOrganization
  throwIf (input.initialCriticalityClass = .decisionCritical) .replicaReceiptRequired
  throwIf ((registry.commitments input.bundleKey).confirmed = true ∨
    registry.bundleForDomain input.domainKey ≠ 0) .alreadyBound
  let commitment : Commitment :=
    { domainKey := input.domainKey
      controllerOrganizationId := input.controllerOrganizationId
      controller := msg.sender
      bundleType := input.bundleType
      domainPayloadCommitment := input.domainPayloadCommitment
      contentEnvelopeDigest := input.contentEnvelopeDigest
      storedEnvelopeLength := input.storedEnvelopeLength
      replicaPolicyDigest := input.replicaPolicyDigest
      criticalityClass := input.initialCriticalityClass
      confirmed := true }
  return { registry with
    commitments := update registry.commitments input.bundleKey commitment
    bundleForDomain := update registry.bundleForDomain input.domainKey input.bundleKey }

def commitProtectedBundle (input : CommitInput) : Except Revert ProtectedBundleRegistry := do
  throwIf (msg.sender ≠ registry.bootstrapGovernance ∨ registry.bootstrapClosed = true) .bootstrapUnavailable
  commit registry authority msg input

/-- The arguments of `commitAttestedProtectedBundle`. -/
structure AttestedInput where
  attestation : DomainAttestation
  signature : Bytes
  controllerOrganizationId : Bytes32
  controllerCredentialId : Bytes32
  contentEnvelopeDigest : Bytes32
  storedEnvelopeLength : Uint64
  replicaPolicyDigest : Bytes32

/-- What an attested commit passes to `_commitProtectedBundle`. -/
def AttestedInput.toCommitInput (input : AttestedInput) : CommitInput where
  bundleKey := input.attestation.bundleId
  domainKey := input.attestation.domainResourceId
  controllerOrganizationId := input.controllerOrganizationId
  bundleType := input.attestation.bundleType
  domainPayloadCommitment := input.attestation.domainPayloadCommitment
  contentEnvelopeDigest := input.contentEnvelopeDigest
  storedEnvelopeLength := input.storedEnvelopeLength
  replicaPolicyDigest := input.replicaPolicyDigest
  initialCriticalityClass := .supplementary

/-- The scope an attestation's nonce is used up in. -/
def attestationNonceScope (crypto : Crypto) (attestation : DomainAttestation) : Bytes32 :=
  crypto.keccak256 (abiEncode [attestation.signerCredentialId, attestation.nonce])

def commitAttestedProtectedBundle (crypto : Crypto) (site : Site) (input : AttestedInput) :
    Except Revert ProtectedBundleRegistry := do
  let attestation := input.attestation
  throwIf (attestation.bundleVersion = 0 ∨ attestation.domainResourceVersion = 0 ∨
    attestation.expiresAt ≤ attestation.issuedAt ∨ msg.timestamp < attestation.issuedAt.toNat ∨
    attestation.expiresAt.toNat < msg.timestamp) .invalidAttestation
  let typedDataDigest :=
    typedDataHash crypto (domainSeparator crypto site) (attestationStructHash crypto attestation)
  let signer ← ecdsaRecover crypto typedDataDigest input.signature
  throwIf (authority.isCredentialActive attestation.signerCredentialId attestation.signerOrgId signer = false)
    .invalidAttestation
  throwIf (authority.isCredentialActive input.controllerCredentialId input.controllerOrganizationId msg.sender = false)
    .invalidAttestation
  let nonceScope := attestationNonceScope crypto attestation
  throwIf (registry.consumedAttestationNonces nonceScope = true) .attestationReplay
  let consumed := { registry with
    consumedAttestationNonces := update registry.consumedAttestationNonces nonceScope true }
  commit consumed authority msg input.toCommitInput

/-! ### Promotion -/

def promoteToDecisionCritical (bundleKey : Bytes32) : Except Revert ProtectedBundleRegistry := do
  let commitment := registry.commitments bundleKey
  throwIf (commitment.confirmed = false) .unknownBundle
  throwIf (commitment.controller ≠ msg.sender) .notController
  throwIf (commitment.criticalityClass = .decisionCritical) .alreadyDecisionCritical
  throwIf (registry.verifiedReplicaReceipt bundleKey = false) .replicaReceiptRequired
  let promoted := { commitment with criticalityClass := .decisionCritical }
  return { registry with commitments := update registry.commitments bundleKey promoted }

/-- The arguments of `submitReplicaReceipt`. -/
structure ReceiptInput where
  bundleKey : Bytes32
  replicaRepositoryId : Bytes32
  replicaCustodianOrganizationId : Bytes32
  signerCredentialId : Bytes32
  observedContentEnvelopeDigest : Bytes32
  observedStoredEnvelopeLength : Uint64
  nonce : Bytes32

def submitReplicaReceipt (crypto : Crypto) (input : ReceiptInput) :
    Except Revert ProtectedBundleRegistry := do
  let commitment := registry.commitments input.bundleKey
  throwIf (commitment.confirmed = false) .unknownBundle
  throwIf (input.replicaRepositoryId = 0 ∨ input.nonce = 0) .invalidReplicaReceipt
  throwIf (input.observedContentEnvelopeDigest ≠ commitment.contentEnvelopeDigest ∨
    input.observedStoredEnvelopeLength ≠ commitment.storedEnvelopeLength ∨
    authority.isReplicaAttestationCredential input.signerCredentialId
      input.replicaCustodianOrganizationId msg.sender = false) .invalidReplicaReceipt
  let scope := crypto.keccak256 (abiEncode [input.signerCredentialId, input.nonce])
  throwIf (registry.consumedReceiptNonces scope = true) .receiptReplay
  return { registry with
    consumedReceiptNonces := update registry.consumedReceiptNonces scope true
    verifiedReplicaReceipt := update registry.verifiedReplicaReceipt input.bundleKey true }

/-! ### What the other contracts ask -/

def isConfirmedLink (bundleKey domainKey bundleType domainPayloadCommitment : Bytes32)
    (requireDecisionCritical : Bool) : Bool :=
  let commitment := registry.commitments bundleKey
  commitment.confirmed && commitment.domainKey = domainKey && commitment.bundleType = bundleType &&
    commitment.domainPayloadCommitment = domainPayloadCommitment &&
    (!requireDecisionCritical || commitment.criticalityClass = .decisionCritical)

def controllerOf (bundleKey : Bytes32) : Address := (registry.commitments bundleKey).controller

end ProtectedBundleRegistry
end Contracts
end Evllm
