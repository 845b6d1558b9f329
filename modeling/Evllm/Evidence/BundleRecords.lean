/-
# What an evidence bundle service keeps, and what it has signed

The records of `src/evidence/evidence-bundle-service.ts`, the messages it
expects an author, a controller, an authorizer or a key holder to have signed
for a record, and the checks of the proofs it is given.

SHA-256 over canonical JSON is the digest of a `CanonicalObject`, one
constructor for each object the service digests. Of a prepared record the
fields that the source declares `readonly` are a structure of their own,
`Preparation`.

Key definitions: `Preparation`, `PreparedInternal`, `BundleService`,
`domainAttestationMessage`, `finalizationMessage`, `keyOperationBinding`,
`prepareKeyOperationAuthorization`, `verifyKeyMaterialAcknowledgement`.
-/
import Evllm.Evidence.KeyOperations
import Evllm.Keys.Lifecycle
import Evllm.Lib.JsString

namespace Evllm
namespace Evidence

open Lib Contracts

/-! ### Inputs -/

structure ServicePrincipal where
  actorId : String
  credentialId : String
  organizationId : String
  deriving DecidableEq, Repr

structure KeyOperationAuthorizationClaims where
  authorizationId : String
  authorizationVersion : ℕ
  policyId : String
  policyVersion : ℕ
  purposeId : String
  requester : ServicePrincipal
  deriving DecidableEq, Repr

structure SignedKeyOperationAuthorization where
  claims : KeyOperationAuthorizationClaims
  proof : SignedProof KeyOperationAuthorizationMessage
  deriving DecidableEq, Repr

structure SignedKeyMaterialAcknowledgement where
  acknowledgementId : String
  acknowledgementVersion : ℕ
  keyPossessionProof : Bytes
  proof : SignedProof KeyMaterialAcknowledgementMessage
  signer : ServicePrincipal
  deriving DecidableEq, Repr

inductive Criticality where
  | decisionCritical
  | supplementary
  deriving DecidableEq, Repr

def Criticality.text : Criticality → String
  | .decisionCritical => "decision-critical"
  | .supplementary => "supplementary"

/-- A public key, as its PEM text. -/
abbrev PublicKey := String

/-- The parsed evidence claim: the fields that `prepare` reads, and the whole
payload as canonical JSON. -/
structure EvidenceClaimPayload where
  evidenceId : String
  evidenceVersion : ℕ
  bundleId : String
  contentSchemaId : String
  contentSchemaVersion : String
  criticalityProfileId : String
  criticalityProfileVersion : ℕ
  text : String
  deriving DecidableEq, Repr

structure PrepareEvidenceInput where
  authorBindingProfileId : String
  authorBindingProfileVersion : ℕ
  content : Bytes
  contentMediaType : String
  controllerActorId : String
  controllerAuthorizationId : String
  controllerCredentialId : String
  controllerEncryptionKeyId : String
  controllerKid : String
  controllerOrganizationId : String
  controllerPublicKey : PublicKey
  evidencePayload : EvidenceClaimPayload
  idempotencyKey : Bytes
  initialCriticality : Criticality
  intendedAuthorActorId : String
  intendedAuthorCredentialId : String
  intendedAuthorOrganizationId : String
  deriving DecidableEq, Repr

/-! ### Records -/

structure ContentAad where
  bundleId : String
  domainResourceId : String
  domainResourceVersion : ℕ
  custodyControllerOrgId : String
  primaryRepositoryId : String
  contentSchemaId : String
  contentSchemaVersion : String
  initialCriticalityClass : Criticality
  criticalityProfileId : String
  criticalityProfileVersion : ℕ
  deriving DecidableEq, Repr

inductive WrapScope where
  | keyAdministration
  | decrypt
  deriving DecidableEq, Repr

structure DekWrapContext where
  envelopeId : String
  bundleId : String
  domainResourceId : String
  domainResourceVersion : ℕ
  domainPayloadCommitment : Bytes32
  contentCommitment : Bytes32
  contentEnvelopeDigest : Bytes32
  recipientOrgId : String
  recipientKid : String
  purpose : String
  authorizationId : String
  scope : WrapScope
  deriving DecidableEq, Repr

/-- The `readonly` fields of `PreparedInternal`; `bundleVersion` is 1 and
`envelopeDigestBase64Url` is the value of `contentEnvelopeDigest`. -/
structure Preparation where
  aad : ContentAad
  authorBindingProfileId : String
  authorBindingProfileVersion : ℕ
  bundleId : String
  contentCommitment : Bytes32
  contentEnvelopeDigest : Bytes32
  controllerActorId : String
  controllerCredentialId : String
  controllerOrganizationId : String
  descriptorDigest : Bytes32
  domainPayload : Bytes
  domainPayloadCommitment : Bytes32
  finalObjectId : String
  idempotencyFingerprint : Bytes32
  initialCriticality : Criticality
  intendedAuthorActorId : String
  intendedAuthorCredentialId : String
  intendedAuthorOrganizationId : String
  resourceId : String
  resourceVersion : ℕ
  signatureRecordId : String
  stagingId : String
  stagingObjectId : String
  storedEnvelopeLength : ℕ
  deriving DecidableEq, Repr

structure PreparedInternal extends Preparation where
  controllerAuthorizationId : String
  controllerEncryptionKeyId : String
  controllerKid : String
  controllerPublicKeySpkiSha256 : Bytes32
  wrapContext : DekWrapContext
  controllerEnvelope : Bytes
  controllerEnvelopeId : String
  finalized : Bool
  critical : Bool
  replicaObjectId : Option String
  deriving DecidableEq, Repr

structure RecipientEnvelopeRecord where
  bytes : Bytes
  commitment : Bytes32
  context : DekWrapContext
  grantId : String
  policyId : String
  policyVersion : ℕ
  purpose : String
  purposeId : String
  recipientKeyId : String
  recipientKid : String
  recipientOrganizationId : String
  recipientPublicKeySpkiSha256 : Bytes32
  deriving DecidableEq, Repr

structure FinalizedEvidenceBundleRecord where
  attestation : SignedProof DomainManifestAttestation
  bundleId : String
  contentCommitment : Bytes32
  contentEnvelopeDigest : Bytes32
  domainPayloadCommitment : Bytes32
  finalization : SignedProof FinalizeProtectedBundle
  finalizedAt : ℕ
  primaryObjectId : String
  replicaObjectId : Option String
  storedEnvelopeLength : ℕ
  deriving DecidableEq, Repr

inductive NonceStoreName where
  | domain
  | controller
  | keyMaterialAcknowledgement
  deriving DecidableEq, Repr

/-- A service. `byIdempotency` and `byBundle` hold references to the same
objects; `nonces` are the three nonce stores. -/
structure BundleService where
  byIdempotency : JsMap Bytes32 Ref
  byBundle : ObjectMap String PreparedInternal
  nonces : NonceStoreName → NonceStore
  finalizedRecords : JsMap String FinalizedEvidenceBundleRecord
  keyLifecycle : Keys.Lifecycle
  recipientEnvelopes : JsMap String RecipientEnvelopeRecord

/-- A service over a new key registry. -/
def BundleService.new : BundleService where
  byIdempotency := .empty
  byBundle := .empty
  nonces _ := ∅
  finalizedRecords := .empty
  keyLifecycle := .new
  recipientEnvelopes := .empty

/-- The codes of `EvidenceBundleServiceError`. -/
inductive ServiceError where
  | conflict
  | invalidProof
  | invalidState
  | notFound
  | policyDenied
  deriving DecidableEq, Repr

/-- The private method `record`, with the reference it returns. -/
def BundleService.record (service : BundleService) (bundleId : String) : Except ServiceError (Ref × PreparedInternal) :=
  match service.byBundle.ref bundleId with
  | none => .error .notFound
  | some ref =>
    match service.byBundle.deref ref with
    | none => .error .notFound
    | some record => .ok (ref, record)

def BundleService.finalizedRecord (service : BundleService) (bundleId : String) :
    Except ServiceError FinalizedEvidenceBundleRecord :=
  match service.finalizedRecords.get bundleId with
  | none => .error .notFound
  | some record => .ok record

/-! ### Key operations -/

structure ControllerEnvelopeRotationTarget where
  bundleId : String
  currentTime : ℕ
  predecessorAuthorizationId : String
  successorAuthorizationId : String
  successorEnvelopeId : String
  successorKeyId : String
  successorKid : String
  successorPublicKeySpkiSha256 : Bytes32
  deriving DecidableEq, Repr

structure GrantEnvelopeTarget where
  bundleId : String
  currentTime : ℕ
  effectiveAt : ℕ
  expiresAt : ℕ
  grantId : String
  purpose : String
  recipientEnvelopeId : String
  recipientKeyId : String
  recipientKid : String
  recipientOrganizationId : String
  recipientPublicKeySpkiSha256 : Bytes32
  deriving DecidableEq, Repr

structure DecryptTarget where
  bundleId : String
  currentTime : ℕ
  grantId : String
  recipientEnvelopeId : String
  deriving DecidableEq, Repr

inductive KeyOperationTarget where
  | finalize (bundleId : String) (finalization : SignedProof FinalizeProtectedBundle)
  | rotate (target : ControllerEnvelopeRotationTarget)
  | grant (target : GrantEnvelopeTarget)
  | decrypt (target : DecryptTarget)
  deriving DecidableEq, Repr

def KeyOperationTarget.bundleId : KeyOperationTarget → String
  | .finalize bundleId _ => bundleId
  | .rotate target => target.bundleId
  | .grant target => target.bundleId
  | .decrypt target => target.bundleId

def KeyOperationTarget.operation : KeyOperationTarget → KeyOperation
  | .finalize _ _ => .verifyAndFinalizeStaging
  | .rotate _ => .rotateControllerEnvelope
  | .grant _ => .createGrantEnvelope
  | .decrypt _ => .decryptWithGrant

/-- `operationContext` of `keyOperationBinding`. -/
inductive OperationContext where
  | finalize (stagingId stagingObjectId : String) (stagingDescriptorDigest : Bytes32)
      (controllerAuthorizationId controllerEnvelopeId controllerEncryptionKeyId : String)
      (contentEnvelopeDigest : Bytes32) (storedEnvelopeLength : ℕ) (finalizationProofDigest : Bytes32)
  | rotate (predecessorAuthorizationId predecessorEnvelopeId predecessorKeyId : String)
      (predecessorPublicKeySpkiSha256 : Bytes32)
      (successorAuthorizationId successorEnvelopeId successorKeyId successorKid : String)
      (successorPublicKeySpkiSha256 : Bytes32)
  | grant (controllerAuthorizationId controllerEnvelopeId : String) (contentEnvelopeDigest : Bytes32)
      (effectiveAt expiresAt : ℕ)
      (grantId purpose recipientEnvelopeId recipientKeyId recipientKid recipientOrganizationId : String)
      (recipientPublicKeySpkiSha256 : Bytes32)
  | decrypt (contentEnvelopeDigest : Bytes32) (grantId policyId : String) (policyVersion : ℕ) (purposeId : String)
      (recipientEnvelopeCommitment : Bytes32)
      (recipientEnvelopeId recipientKeyId recipientKid recipientOrganizationId : String)
      (recipientPublicKeySpkiSha256 : Bytes32) (purpose : String)
  deriving DecidableEq, Repr

/-- The object whose digest tells two preparations under one key apart. -/
structure PreparationFingerprint where
  authorBindingProfileId : String
  authorBindingProfileVersion : ℕ
  contentSha256 : Bytes32
  controllerActorId : String
  controllerAuthorizationId : String
  controllerEncryptionKeyId : String
  controllerOrganizationId : String
  domainPayloadSha256 : Bytes32
  initialCriticality : Criticality
  intendedAuthorActorId : String
  intendedAuthorCredentialId : String
  intendedAuthorOrganizationId : String
  deriving DecidableEq, Repr

structure StagingDescriptor where
  bundleId : String
  contentEnvelopeDigest : Bytes32
  controllerEnvelopeCommitment : Bytes32
  finalObjectId : String
  stagingId : String
  stagingObjectId : String
  storedEnvelopeLength : ℕ
  deriving DecidableEq, Repr

/-- The objects whose canonical JSON the service digests. -/
inductive CanonicalObject where
  | evidenceClaim (payload : EvidenceClaimPayload)
  | fingerprint (fingerprint : PreparationFingerprint)
  | descriptor (descriptor : StagingDescriptor)
  | attestation (proof : SignedProof DomainManifestAttestation)
  | finalization (proof : SignedProof FinalizeProtectedBundle)
  | contentSchemaBinding (id version : String)
  | replicaPolicy (repositoryId : String)
  | sourceAuthorityIds (ids : List String)
  | operationContext (context : OperationContext)
  deriving DecidableEq, Repr

/-- What the service is configured with. -/
structure Config where
  chainId : ℕ
  controllerRepositoryId : String
  credentialAt : Bytes32 → ℕ → CredentialAcceptance
  keyOperationAuthorizer : ServicePrincipal
  keyOperationAuthorizerAddress : Address
  /-- `none` where it throws. -/
  keyMaterialAcknowledgementCredentialAt : ServicePrincipal → ℕ → Option (CredentialAcceptance × Address)
  maxProofLifetimeSeconds : ℕ
  protectedBundleRegistryAddress : Address
  replicaRepositoryId : String

/-- The functions outside of the service: hashing and recovery, RSA keys, and
the schema of an authorization record. -/
structure Externals where
  crypto : Crypto
  sha256 : Bytes → Bytes32
  /-- `createHash("sha256").update(canonicalJsonBytes(object))`. -/
  digest : CanonicalObject → Bytes32
  rsaPublicKeySpkiSha256 : PublicKey → Bytes32
  verifyRsaKeyPossessionProof : PublicKey → SignedProof KeyMaterialAcknowledgementMessage → Bytes → Bool
  /-- `keyOperationAuthorization.parse` accepts the record. -/
  acceptsAuthorization : KeyOperationAuthorizationRecord → Bool

variable (F : Externals) (config : Config) (service : BundleService)

def idHash (value : String) : Bytes32 := F.crypto.hashText ("EVLLM_ID_V1\x00" ++ value)

/-- The text that `bundleTypeHash("evidence")` hashes. -/
def bundleTypeText : String := "EVLLM_LITERAL_V1\x00bundle-type\x00evidence"

def bundleTypeHash : Bytes32 := F.crypto.hashText bundleTypeText

def keyOperationHash (operation : KeyOperation) : Bytes32 :=
  F.crypto.hashText ("EVLLM_LITERAL_V1\x00key-operation\x00" ++ operation.text)

/-- The private method `domain`. -/
def proofDomain (name : String) : ProofDomain := ⟨name, config.chainId, config.protectedBundleRegistryAddress⟩

/-! ### Expected messages -/

/-- The bundle fields of every message about a record. -/
def recordFields (record : PreparedInternal) : BundleFields where
  bundleId := idHash F record.bundleId
  bundleVersion := 1
  bundleType := bundleTypeHash F
  domainResourceId := idHash F record.resourceId
  domainResourceVersion := record.resourceVersion

def domainAttestationMessage (record : PreparedInternal) (signer : ServicePrincipal) (window : ProofWindow) :
    DomainManifestAttestation where
  toBundleFields := recordFields F record
  toProofWindow := window
  authorBindingProfileId := idHash F record.authorBindingProfileId
  authorBindingProfileVersion := record.authorBindingProfileVersion
  domainPayloadCommitment := record.domainPayloadCommitment
  signerActorId := idHash F signer.actorId
  signerOrgId := idHash F signer.organizationId
  signerCredentialId := idHash F signer.credentialId

/-- `finalizationMessage`; the command id is not compared and is passed hashed. -/
def finalizationMessage (record : PreparedInternal) (attestation : SignedProof DomainManifestAttestation)
    (controller : ServicePrincipal) (commandId idempotencyKeyHash : Bytes32) (window : ProofWindow) :
    FinalizeProtectedBundle where
  toBundleFields := recordFields F record
  toProofWindow := window
  commandId := commandId
  stagingDescriptorDigest := record.descriptorDigest
  domainManifestEnvelopeDigest := F.digest (.attestation attestation)
  controllerActorId := idHash F controller.actorId
  controllerOrgId := idHash F controller.organizationId
  controllerCredentialId := idHash F controller.credentialId
  contentCommitment := record.contentCommitment
  contentEnvelopeDigest := record.contentEnvelopeDigest
  storedEnvelopeLength := record.storedEnvelopeLength
  contentSchemaBindingDigest := F.digest (.contentSchemaBinding record.aad.contentSchemaId record.aad.contentSchemaVersion)
  encryptionProfileId := idHash F "urn:evllm:profile:00000000-0000-4000-8000-000000000001"
  encryptionProfileVersion := 1
  criticalityProfileId := idHash F record.aad.criticalityProfileId
  criticalityProfileVersion := record.aad.criticalityProfileVersion
  initialCriticalityClass := F.crypto.hashText ("criticality-class:" ++ record.initialCriticality.text)
  replicaPolicyDigest := F.digest (.replicaPolicy config.replicaRepositoryId)
  idempotencyKeyHash := idempotencyKeyHash

structure KeyOperationBinding where
  operationContext : OperationContext
  record : PreparedInternal
  sourceAuthorityIds : List String

/-- The recipient envelope of a grant. -/
def BundleService.recipient (grantId recipientEnvelopeId : String) : Except ServiceError RecipientEnvelopeRecord :=
  match service.recipientEnvelopes.get recipientEnvelopeId with
  | none => .error .policyDenied
  | some recipient => if recipient.grantId ≠ grantId then .error .policyDenied else .ok recipient

/-- The branch of `keyOperationBinding` for the operation of the target. -/
def bindRecord (record : PreparedInternal) : KeyOperationTarget → Except ServiceError KeyOperationBinding
  | .finalize _ finalization =>
    .ok ⟨.finalize record.stagingId record.stagingObjectId record.descriptorDigest record.controllerAuthorizationId
      record.controllerEnvelopeId record.controllerEncryptionKeyId record.contentEnvelopeDigest
      record.storedEnvelopeLength (F.digest (.finalization finalization)), record, [record.controllerAuthorizationId]⟩
  | .rotate target =>
    .ok ⟨.rotate target.predecessorAuthorizationId record.controllerEnvelopeId record.controllerEncryptionKeyId
      record.controllerPublicKeySpkiSha256 target.successorAuthorizationId target.successorEnvelopeId
      target.successorKeyId target.successorKid target.successorPublicKeySpkiSha256, record,
      [target.predecessorAuthorizationId]⟩
  | .grant target =>
    .ok ⟨.grant record.controllerAuthorizationId record.controllerEnvelopeId record.contentEnvelopeDigest
      target.effectiveAt target.expiresAt target.grantId target.purpose target.recipientEnvelopeId
      target.recipientKeyId target.recipientKid target.recipientOrganizationId target.recipientPublicKeySpkiSha256,
      record, sortStrings [record.controllerAuthorizationId, target.grantId]⟩
  | .decrypt target => do
    let recipient ← service.recipient target.grantId target.recipientEnvelopeId
    return ⟨.decrypt record.contentEnvelopeDigest recipient.grantId recipient.policyId recipient.policyVersion
      recipient.purposeId recipient.commitment target.recipientEnvelopeId recipient.recipientKeyId
      recipient.recipientKid recipient.recipientOrganizationId recipient.recipientPublicKeySpkiSha256
      recipient.purpose, record, [recipient.grantId]⟩

def keyOperationBinding (target : KeyOperationTarget) : Except ServiceError KeyOperationBinding := do
  let (_, record) ← service.record target.bundleId
  bindRecord F service record target

def keyOperationAuthorizationMessage (operation : KeyOperation) (binding : KeyOperationBinding)
    (claims : KeyOperationAuthorizationClaims) (idempotencyKeyHash : Bytes32) (window : ProofWindow) :
    KeyOperationAuthorizationMessage where
  toBundleFields := recordFields F binding.record
  toProofWindow := window
  authorizationId := idHash F claims.authorizationId
  authorizationVersion := claims.authorizationVersion
  issuerServiceActorId := idHash F config.keyOperationAuthorizer.actorId
  issuerServiceOrgId := idHash F config.keyOperationAuthorizer.organizationId
  issuerServiceCredentialId := idHash F config.keyOperationAuthorizer.credentialId
  issuerServiceAddress := config.keyOperationAuthorizerAddress
  repositoryId := idHash F config.controllerRepositoryId
  operation := keyOperationHash F operation
  requestingActorId := idHash F claims.requester.actorId
  requestingOrgId := idHash F claims.requester.organizationId
  requestingCredentialId := idHash F claims.requester.credentialId
  purposeId := idHash F claims.purposeId
  policyId := idHash F claims.policyId
  policyVersion := claims.policyVersion
  sourceAuthorityDigest := F.digest (.sourceAuthorityIds binding.sourceAuthorityIds)
  operationContextDigest := F.digest (.operationContext binding.operationContext)
  idempotencyKeyHash := idempotencyKeyHash

/-- The fields of a target that `keyMaterialTargetFields` picks. -/
structure KeyMaterial where
  authorityId : String
  encryptionKeyId : String
  envelopeId : String
  publicKeySpkiSha256 : Bytes32
  recipientKid : String

def ControllerEnvelopeRotationTarget.keyMaterial (target : ControllerEnvelopeRotationTarget) : KeyMaterial :=
  ⟨target.successorAuthorizationId, target.successorKeyId, target.successorEnvelopeId,
    target.successorPublicKeySpkiSha256, target.successorKid⟩

def GrantEnvelopeTarget.keyMaterial (target : GrantEnvelopeTarget) : KeyMaterial :=
  ⟨target.grantId, target.recipientKeyId, target.recipientEnvelopeId, target.recipientPublicKeySpkiSha256,
    target.recipientKid⟩

def keyMaterialAcknowledgementMessage (operation : KeyOperation) (binding : KeyOperationBinding)
    (material : KeyMaterial) (signer : ServicePrincipal) (acknowledgementId : String) (acknowledgementVersion : ℕ)
    (window : ProofWindow) : KeyMaterialAcknowledgementMessage where
  toBundleFields := recordFields F binding.record
  toProofWindow := window
  acknowledgementId := idHash F acknowledgementId
  acknowledgementVersion := acknowledgementVersion
  signerActorId := idHash F signer.actorId
  signerOrgId := idHash F signer.organizationId
  signerCredentialId := idHash F signer.credentialId
  repositoryId := idHash F config.controllerRepositoryId
  operation := keyOperationHash F operation
  authorityId := idHash F material.authorityId
  envelopeId := idHash F material.envelopeId
  encryptionKeyId := idHash F material.encryptionKeyId
  recipientKid := idHash F material.recipientKid
  publicKeySpkiSha256 := material.publicKeySpkiSha256
  operationContextDigest := F.digest (.operationContext binding.operationContext)

/-! ### Checks -/

/-- `try { ... } catch { throw new EvidenceBundleServiceError("invalid-proof") }`. -/
def orInvalidProof {ε α : Type} : Except ε α → Except ServiceError α
  | .ok a => .ok a
  | .error _ => .error .invalidProof

@[simp] theorem orInvalidProof_eq_ok {ε α : Type} {x : Except ε α} {a : α} : orInvalidProof x = .ok a ↔ x = .ok a := by
  cases x <;> simp [orInvalidProof]

/-- `verifyProtectedProof` in the service's domain. -/
def verifyProof {μ : Type} (profile : Profile μ) (credentialAt : Bytes32 → ℕ → CredentialAcceptance)
    (expectedSignerAddress : Address) (proof : SignedProof μ) (time : ℕ) : Except ServiceError VerifiedProof :=
  orInvalidProof (verifyProtectedProof F.crypto F.sha256 profile credentialAt
    (proofDomain config profile.domainName) expectedSignerAddress config.maxProofLifetimeSeconds proof time)

theorem verifyProof_eq_ok {μ : Type} {F : Externals} {config : Config} {profile : Profile μ}
    {credentialAt : Bytes32 → ℕ → CredentialAcceptance} {signer : Address} {proof : SignedProof μ} {time : ℕ}
    {verified : VerifiedProof} : verifyProof F config profile credentialAt signer proof time = .ok verified ↔
      Verifies F.crypto profile credentialAt (proofDomain config profile.domainName) signer
        config.maxProofLifetimeSeconds proof time ∧
      verified = ⟨signer, F.sha256 proof.signature,
        hashTypedData F.crypto profile (proofDomain config profile.domainName) proof.message⟩ := by
  rw [verifyProof, orInvalidProof_eq_ok, verifyProtectedProof_eq_ok]

/-- `validateKeyOperationClaims` passes. -/
def acceptsClaims (claims : KeyOperationAuthorizationClaims) : KeyOperationTarget → Bool
  | .decrypt target =>
    match service.recipient target.grantId target.recipientEnvelopeId with
    | .error _ => false
    | .ok recipient =>
      claims.policyId = recipient.policyId ∧ claims.policyVersion = recipient.policyVersion ∧
        claims.purposeId = recipient.purposeId ∧
        claims.requester.organizationId = recipient.recipientOrganizationId
  | _ => true

/-- The record that a verified authorization is consumed with. -/
def consumedRecord (operation : KeyOperation) (binding : KeyOperationBinding)
    (authorization : SignedKeyOperationAuthorization) (verified : VerifiedProof) : KeyOperationAuthorizationRecord where
  authorizationId := authorization.claims.authorizationId
  authorizationVersion := authorization.claims.authorizationVersion
  issuerServiceActorId := config.keyOperationAuthorizer.actorId
  issuerServiceOrganizationId := config.keyOperationAuthorizer.organizationId
  issuerServiceCredentialId := config.keyOperationAuthorizer.credentialId
  issuerServiceAddress := config.keyOperationAuthorizerAddress
  repositoryId := config.controllerRepositoryId
  operation := operation
  requestingActorId := authorization.claims.requester.actorId
  requestingOrganizationId := authorization.claims.requester.organizationId
  requestingCredentialId := authorization.claims.requester.credentialId
  bundleId := binding.record.bundleId
  bundleVersion := 1
  domainResourceId := binding.record.resourceId
  domainResourceVersion := binding.record.resourceVersion
  purposeId := authorization.claims.purposeId
  policyId := authorization.claims.policyId
  policyVersion := authorization.claims.policyVersion
  sourceAuthorityIds := binding.sourceAuthorityIds
  sourceAuthorityDigest := F.digest (.sourceAuthorityIds binding.sourceAuthorityIds)
  operationContextDigest := F.digest (.operationContext binding.operationContext)
  nonce := authorization.proof.message.nonce
  issuedAt := authorization.proof.message.issuedAt
  expiresAt := authorization.proof.message.expiresAt
  idempotencyKeyHash := authorization.proof.message.idempotencyKeyHash
  signature := authorization.proof.signature
  typedDataDigest := verified.typedDataDigest
  signatureDigest := verified.signatureDigest

def prepareKeyOperationAuthorization (target : KeyOperationTarget) (authorization : SignedKeyOperationAuthorization)
    (currentTime : ℕ) : Except ServiceError ConsumeRequest := do
  let message := authorization.proof.message
  throwIf (¬acceptsClaims service authorization.claims target) ServiceError.invalidProof
  let binding ← orInvalidProof (keyOperationBinding F service target)
  throwIf (message ≠ keyOperationAuthorizationMessage F config target.operation binding authorization.claims
    message.idempotencyKeyHash message.toProofWindow) ServiceError.invalidProof
  let verified ← verifyProof F config keyOperationAuthorizationProfile config.credentialAt
    config.keyOperationAuthorizerAddress authorization.proof currentTime
  let record := consumedRecord F config target.operation binding authorization verified
  throwIf (¬F.acceptsAuthorization record) ServiceError.invalidProof
  return ⟨record, nonceScope keyOperationAuthorizationProfile message⟩

theorem prepareKeyOperationAuthorization_eq_ok {F : Externals} {config : Config} {service : BundleService}
    {target : KeyOperationTarget} {authorization : SignedKeyOperationAuthorization} {time : ℕ} {request : ConsumeRequest} :
    prepareKeyOperationAuthorization F config service target authorization time = .ok request ↔
      acceptsClaims service authorization.claims target ∧
      ∃ binding, keyOperationBinding F service target = .ok binding ∧
        authorization.proof.message = keyOperationAuthorizationMessage F config target.operation binding
          authorization.claims authorization.proof.message.idempotencyKeyHash authorization.proof.message.toProofWindow ∧
        ∃ verified, verifyProof F config keyOperationAuthorizationProfile config.credentialAt
            config.keyOperationAuthorizerAddress authorization.proof time = .ok verified ∧
          F.acceptsAuthorization (consumedRecord F config target.operation binding authorization verified) ∧
          request = ⟨consumedRecord F config target.operation binding authorization verified,
            nonceScope keyOperationAuthorizationProfile authorization.proof.message⟩ := by
  simp only [prepareKeyOperationAuthorization, bind_eq_ok, throwIf_eq_ok, pure_eq_ok, not_not, ne_eq,
    orInvalidProof_eq_ok]
  constructor
  · rintro ⟨-, hclaims, binding, hbinding, -, hmessage, verified, hverified, -, haccepts, rfl⟩
    exact ⟨hclaims, binding, hbinding, hmessage, verified, hverified, haccepts, rfl⟩
  · rintro ⟨hclaims, binding, hbinding, hmessage, verified, hverified, haccepts, rfl⟩
    exact ⟨(), hclaims, binding, hbinding, (), hmessage, verified, hverified, (), haccepts, rfl⟩

/-- The target and what is acknowledged of it. -/
structure AcknowledgedTarget where
  target : KeyOperationTarget
  material : KeyMaterial
  /-- The organisation that must have signed. -/
  organizationId : String

/-- `verifyKeyMaterialAcknowledgement`: the scope of its nonce. -/
def verifyKeyMaterialAcknowledgement (acknowledged : AcknowledgedTarget)
    (acknowledgement : SignedKeyMaterialAcknowledgement) (publicKey : PublicKey) (currentTime : ℕ) :
    Except ServiceError NonceScope := do
  let message := acknowledgement.proof.message
  throwIf (acknowledgement.signer.organizationId ≠ acknowledged.organizationId) ServiceError.invalidProof
  let (credential, address) ←
    (config.keyMaterialAcknowledgementCredentialAt acknowledgement.signer currentTime).elim
      (.error ServiceError.invalidProof) .ok
  let binding ← orInvalidProof (keyOperationBinding F service acknowledged.target)
  throwIf (message ≠ keyMaterialAcknowledgementMessage F config acknowledged.target.operation binding
    acknowledged.material acknowledgement.signer acknowledgement.acknowledgementId
    acknowledgement.acknowledgementVersion message.toProofWindow) ServiceError.invalidProof
  throwIf (¬F.verifyRsaKeyPossessionProof publicKey acknowledgement.proof acknowledgement.keyPossessionProof)
    ServiceError.invalidProof
  let _ ← verifyProof F config keyMaterialAcknowledgementProfile (fun _ _ => credential) address
    acknowledgement.proof currentTime
  return nonceScope keyMaterialAcknowledgementProfile message

end Evidence
end Evllm
