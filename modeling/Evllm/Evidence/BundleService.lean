/-
# The evidence bundle service

The operations of `src/evidence/evidence-bundle-service.ts` as calls that run
from one `await` to the next. A system is any number of services, each with its
configuration, that share one repository of key-operation authorizations; a
call belongs to one service. Its events start a call, settle what a call awaits
(with what the stores, the cryptography and the generator of ids returned), let
the repository go on, or use the key registry that a service exposes.

Key definitions: `Call`, `System`, `Event`, `step`, `after`.
-/
import Evllm.Evidence.BundleRecords

namespace Evllm
namespace Evidence

open Lib Contracts Function

/-! ### Inputs of the calls -/

structure FinalizeInput where
  attestation : SignedProof DomainManifestAttestation
  authorAddress : Address
  bundleId : String
  controllerAddress : Address
  finalization : SignedProof FinalizeProtectedBundle
  keyOperationAuthorization : SignedKeyOperationAuthorization
  now : ℕ
  deriving DecidableEq, Repr

structure RotateInput where
  bundleId : String
  currentTime : ℕ
  keyMaterialAcknowledgement : SignedKeyMaterialAcknowledgement
  keyOperationAuthorization : SignedKeyOperationAuthorization
  predecessorAuthorizationId : String
  successorAuthorizationId : String
  successorEnvelopeId : String
  successorKeyId : String
  successorKid : String
  successorPublicKey : PublicKey
  deriving DecidableEq, Repr

structure GrantInput where
  bundleId : String
  currentTime : ℕ
  effectiveAt : ℕ
  expiresAt : ℕ
  grantId : String
  keyMaterialAcknowledgement : SignedKeyMaterialAcknowledgement
  keyOperationAuthorization : SignedKeyOperationAuthorization
  purpose : String
  recipientEnvelopeId : String
  recipientKeyId : String
  recipientKid : String
  recipientOrganizationId : String
  recipientPublicKey : PublicKey
  deriving DecidableEq, Repr

structure RetrieveInput where
  bundleId : String
  currentTime : ℕ
  grantId : String
  keyOperationAuthorization : SignedKeyOperationAuthorization
  recipientEnvelopeId : String
  deriving DecidableEq, Repr

/-! ### Calls -/

/-- A nonce that a call consumes in one of its service's stores. -/
structure PendingNonceConsumption where
  store : NonceStoreName
  scope : NonceScope
  deriving DecidableEq, Repr

/-- What a call was made for, with the record it holds. -/
inductive Operation where
  | prepare (input : PrepareEvidenceInput) (fingerprint idempotencyHash : Bytes32)
  | finalize (input : FinalizeInput) (record : Ref)
  | rotate (input : RotateInput) (record : Ref)
  | grant (input : GrantInput) (record : Ref)
  | retrieve (input : RetrieveInput) (record : Ref)
  | promote (bundleId : String) (record : Ref)
  deriving DecidableEq, Repr

/-- Where a call stands. -/
inductive Phase where
  /-- `prepare` protects the content, wraps the key and stores the envelope. -/
  | preparing
  /-- `consumeValidatedProofs` awaits the repository. -/
  | consuming
  /-- The repository has refused; the nonces are not yet rolled back. -/
  | rejected
  /-- The proofs are consumed; the call opens envelopes or fetches objects. -/
  | working
  /-- A key is being wrapped for `context`. -/
  | wrapping (context : DekWrapContext)
  /-- `replicateExact` is awaited. -/
  | replicating
  /-- The key registry awaits the verification of the wrapped envelope. -/
  | verifying (suspended : Keys.Suspended) (envelope : Bytes) (context : DekWrapContext)
  /-- The registry has rotated; the record is not yet written. -/
  | rotated (envelope : Bytes) (context : DekWrapContext)
  | returned
  | failed

/-- A call of a service: `nonces` are those it has consumed and not rolled
back, `request` the authorization it consumes. -/
structure Call where
  service : ℕ
  operation : Operation
  nonces : List PendingNonceConsumption
  request : Option ConsumeRequest
  phase : Phase

structure System where
  services : ℕ → BundleService
  repository : Repository
  calls : List Call

namespace System

variable (S : System)

def setService (i : ℕ) (service : BundleService) : System := { S with services := update S.services i service }

def addCall (call : Call) : System := { S with calls := S.calls ++ [call] }

def setPhase (c : ℕ) (call : Call) (phase : Phase) : System := { S with calls := S.calls.set c { call with phase } }

end System

/-! ### Consuming proofs -/

/-- The loop of `consumeValidatedProofs` over the local nonces: the stores, the
nonces consumed, and whether all were. -/
def consumeLocalNonces (stores : NonceStoreName → NonceStore) (consumed : List PendingNonceConsumption) :
    List PendingNonceConsumption → (NonceStoreName → NonceStore) × List PendingNonceConsumption × Bool
  | [] => (stores, consumed, true)
  | pending :: rest =>
    match (stores pending.store).consume pending.scope with
    | .error _ => (stores, consumed, false)
    | .ok store => consumeLocalNonces (update stores pending.store store) (consumed ++ [pending]) rest

/-- The `catch` clause of `consumeValidatedProofs`. -/
def rollbackLocalNonces (stores : NonceStoreName → NonceStore) (consumed : List PendingNonceConsumption) :
    NonceStoreName → NonceStore :=
  consumed.foldl (fun stores pending =>
    update stores pending.store ((stores pending.store).rollback pending.scope)) stores

def BundleService.setNonces (service : BundleService) (nonces : NonceStoreName → NonceStore) : BundleService :=
  { service with nonces }

/-- `consumeValidatedProofs` up to its `await`. An error of the loop, or one
that the repository throws at once, rolls the nonces back and ends the call. -/
def consumeValidatedProofs (S : System) (i : ℕ) (operation : Operation) (localNonces : List PendingNonceConsumption)
    (request : ConsumeRequest) : System :=
  let service := S.services i
  match consumeLocalNonces service.nonces [] localNonces with
  | (stores, consumed, false) =>
    (S.setService i (service.setNonces (rollbackLocalNonces stores consumed))).addCall
      ⟨i, operation, [], some request, .failed⟩
  | (stores, consumed, true) =>
    match S.repository.submit S.calls.length request with
    | (repository, some (.error _)) =>
      ({ S with repository }.setService i (service.setNonces (rollbackLocalNonces stores consumed))).addCall
        ⟨i, operation, [], some request, .failed⟩
    | (repository, some (.ok _)) =>
      ({ S with repository }.setService i (service.setNonces stores)).addCall
        ⟨i, operation, consumed, some request, .working⟩
    | (repository, none) =>
      ({ S with repository }.setService i (service.setNonces stores)).addCall
        ⟨i, operation, consumed, some request, .consuming⟩

/-- The continuation of `consumeValidatedProofs` after the repository refused. -/
def rollbackProofs (S : System) (c : ℕ) (call : Call) : System :=
  let service := S.services call.service
  let restored := service.setNonces (rollbackLocalNonces service.nonces call.nonces)
  { S.setService call.service restored with calls := S.calls.set c { call with nonces := [], phase := .failed } }

variable (F : Externals) (config : Config)

/-! ### Checks before the first `await` -/

/-- What `finalize` checks of the two proofs, against the record. -/
def checkFinalizationProofs (record : PreparedInternal) (input : FinalizeInput) : Except ServiceError Unit := do
  let attestation := input.attestation.message
  let finalization := input.finalization.message
  let _ ← verifyProof F config domainManifestAttestationProfile config.credentialAt input.authorAddress
    input.attestation input.now
  let _ ← verifyProof F config finalizeProtectedBundleProfile config.credentialAt input.controllerAddress
    input.finalization input.now
  throwIf (attestation ≠ domainAttestationMessage F record
    ⟨record.intendedAuthorActorId, record.intendedAuthorCredentialId, record.intendedAuthorOrganizationId⟩
    attestation.toProofWindow) ServiceError.invalidProof
  throwIf (finalization ≠ finalizationMessage F config record input.attestation
    ⟨record.controllerActorId, record.controllerCredentialId, record.controllerOrganizationId⟩
    finalization.commandId finalization.idempotencyKeyHash finalization.toProofWindow) ServiceError.invalidProof

/-- `finalize` up to `consumeValidatedProofs`. -/
def checkFinalize (service : BundleService) (input : FinalizeInput) : Except ServiceError (Ref × ConsumeRequest) := do
  let (ref, record) ← service.record input.bundleId
  throwIf record.finalized ServiceError.invalidState
  checkFinalizationProofs F config record input
  let request ← prepareKeyOperationAuthorization F config service (.finalize input.bundleId input.finalization)
    input.keyOperationAuthorization input.now
  return (ref, request)

theorem checkFinalizationProofs_eq_ok {F : Externals} {config : Config} {record : PreparedInternal}
    {input : FinalizeInput} : checkFinalizationProofs F config record input = .ok () ↔
      Verifies F.crypto domainManifestAttestationProfile config.credentialAt
        (proofDomain config domainManifestAttestationProfile.domainName) input.authorAddress
        config.maxProofLifetimeSeconds input.attestation input.now ∧
      Verifies F.crypto finalizeProtectedBundleProfile config.credentialAt
        (proofDomain config finalizeProtectedBundleProfile.domainName) input.controllerAddress
        config.maxProofLifetimeSeconds input.finalization input.now ∧
      input.attestation.message = domainAttestationMessage F record
        ⟨record.intendedAuthorActorId, record.intendedAuthorCredentialId, record.intendedAuthorOrganizationId⟩
        input.attestation.message.toProofWindow ∧
      input.finalization.message = finalizationMessage F config record input.attestation
        ⟨record.controllerActorId, record.controllerCredentialId, record.controllerOrganizationId⟩
        input.finalization.message.commandId input.finalization.message.idempotencyKeyHash
        input.finalization.message.toProofWindow := by
  simp only [checkFinalizationProofs, bind_eq_ok, throwIf_eq_ok, not_not, ne_eq, verifyProof_eq_ok]
  constructor
  · rintro ⟨-, ⟨hattestation, -⟩, -, ⟨hfinalization, -⟩, -, hauthor, hcontroller⟩
    exact ⟨hattestation, hfinalization, hauthor, hcontroller⟩
  · rintro ⟨hattestation, hfinalization, hauthor, hcontroller⟩
    exact ⟨_, ⟨hattestation, rfl⟩, _, ⟨hfinalization, rfl⟩, (), hauthor, hcontroller⟩

theorem checkFinalize_eq_ok {F : Externals} {config : Config} {service : BundleService} {input : FinalizeInput} {ref : Ref}
    {request : ConsumeRequest} : checkFinalize F config service input = .ok (ref, request) ↔
      ∃ record, service.record input.bundleId = .ok (ref, record) ∧ record.finalized = false ∧
        checkFinalizationProofs F config record input = .ok () ∧
        prepareKeyOperationAuthorization F config service (.finalize input.bundleId input.finalization)
          input.keyOperationAuthorization input.now = .ok request := by
  simp only [checkFinalize, bind_eq_ok, throwIf_eq_ok, pure_eq_ok, Bool.not_eq_true, Prod.mk.injEq, Prod.exists]
  constructor
  · rintro ⟨ref', record, hrecord, -, hopen, _, hproofs, request', hrequest, rfl, rfl⟩
    exact ⟨record, hrecord, hopen, hproofs, hrequest⟩
  · rintro ⟨record, hrecord, hopen, hproofs, hrequest⟩
    exact ⟨ref, record, hrecord, (), hopen, (), hproofs, request, hrequest, rfl, rfl⟩

def finalizeNonces (input : FinalizeInput) : List PendingNonceConsumption :=
  [⟨.domain, nonceScope domainManifestAttestationProfile input.attestation.message⟩,
    ⟨.controller, nonceScope finalizeProtectedBundleProfile input.finalization.message⟩]

def RotateInput.target (input : RotateInput) : ControllerEnvelopeRotationTarget :=
  ⟨input.bundleId, input.currentTime, input.predecessorAuthorizationId, input.successorAuthorizationId,
    input.successorEnvelopeId, input.successorKeyId, input.successorKid,
    F.rsaPublicKeySpkiSha256 input.successorPublicKey⟩

/-- `rotateControllerEnvelope` up to `consumeValidatedProofs`. -/
def checkRotate (service : BundleService) (input : RotateInput) :
    Except ServiceError (Ref × NonceScope × ConsumeRequest) := do
  let (ref, record) ← service.record input.bundleId
  throwIf (¬record.finalized ∨ record.controllerAuthorizationId ≠ input.predecessorAuthorizationId)
    ServiceError.invalidState
  let target := input.target F
  let scope ← verifyKeyMaterialAcknowledgement F config service
    ⟨.rotate target, target.keyMaterial, record.controllerOrganizationId⟩ input.keyMaterialAcknowledgement
    input.successorPublicKey input.currentTime
  let request ← prepareKeyOperationAuthorization F config service (.rotate target) input.keyOperationAuthorization
    input.currentTime
  return (ref, scope, request)

def GrantInput.target (input : GrantInput) : GrantEnvelopeTarget :=
  ⟨input.bundleId, input.currentTime, input.effectiveAt, input.expiresAt, input.grantId, input.purpose,
    input.recipientEnvelopeId, input.recipientKeyId, input.recipientKid, input.recipientOrganizationId,
    F.rsaPublicKeySpkiSha256 input.recipientPublicKey⟩

/-- `grantRecipient` up to `consumeValidatedProofs`. -/
def checkGrant (service : BundleService) (input : GrantInput) :
    Except ServiceError (Ref × NonceScope × ConsumeRequest) := do
  let (ref, record) ← service.record input.bundleId
  throwIf (¬record.finalized) ServiceError.invalidState
  let target := input.target F
  let scope ← verifyKeyMaterialAcknowledgement F config service
    ⟨.grant target, target.keyMaterial, input.recipientOrganizationId⟩ input.keyMaterialAcknowledgement
    input.recipientPublicKey input.currentTime
  let request ← prepareKeyOperationAuthorization F config service (.grant target) input.keyOperationAuthorization
    input.currentTime
  return (ref, scope, request)

/-- The errors of the key registry leave a call as they are. -/
def registryError {α : Type} : Except Keys.KeyLifecycleError α → Except ServiceError α
  | .ok a => .ok a
  | .error _ => .error .policyDenied

/-- `retrieveWithGrant` up to `consumeValidatedProofs`. -/
def checkRetrieve (service : BundleService) (input : RetrieveInput) : Except ServiceError (Ref × ConsumeRequest) := do
  let (ref, _) ← service.record input.bundleId
  registryError (service.keyLifecycle.registry.authorizeRetrieval input.grantId input.currentTime)
  let _ ← service.recipient input.grantId input.recipientEnvelopeId
  let request ← prepareKeyOperationAuthorization F config service
    (.decrypt ⟨input.bundleId, input.currentTime, input.grantId, input.recipientEnvelopeId⟩)
    input.keyOperationAuthorization input.currentTime
  return (ref, request)

/-! ### Preparing -/

def preparationFingerprint (input : PrepareEvidenceInput) : Bytes32 :=
  F.digest (.fingerprint {
    authorBindingProfileId := input.authorBindingProfileId
    authorBindingProfileVersion := input.authorBindingProfileVersion
    contentSha256 := F.sha256 input.content
    controllerActorId := input.controllerActorId
    controllerAuthorizationId := input.controllerAuthorizationId
    controllerEncryptionKeyId := input.controllerEncryptionKeyId
    controllerOrganizationId := input.controllerOrganizationId
    domainPayloadSha256 := F.digest (.evidenceClaim input.evidencePayload)
    initialCriticality := input.initialCriticality
    intendedAuthorActorId := input.intendedAuthorActorId
    intendedAuthorCredentialId := input.intendedAuthorCredentialId
    intendedAuthorOrganizationId := input.intendedAuthorOrganizationId })

/-- What `prepare` gets from the cryptography, the primary store and the
generators of ids. -/
structure ProtectionResult where
  contentCommitment : Bytes32
  contentEnvelopeDigest : Bytes32
  domainPayloadCommitment : Bytes32
  storedEnvelopeLength : ℕ
  controllerEnvelope : Bytes
  controllerEnvelopeCommitment : Bytes32
  stagingObjectId : String
  finalObjectId : String
  stagingId : String
  controllerEnvelopeId : String
  signatureRecordId : String
  deriving DecidableEq, Repr

/-- The fields of the record that never change. -/
def preparation (input : PrepareEvidenceInput) (fingerprint : Bytes32) (result : ProtectionResult) : Preparation where
  aad := {
    bundleId := input.evidencePayload.bundleId
    domainResourceId := input.evidencePayload.evidenceId
    domainResourceVersion := input.evidencePayload.evidenceVersion
    custodyControllerOrgId := input.controllerOrganizationId
    primaryRepositoryId := config.controllerRepositoryId
    contentSchemaId := input.evidencePayload.contentSchemaId
    contentSchemaVersion := input.evidencePayload.contentSchemaVersion
    initialCriticalityClass := input.initialCriticality
    criticalityProfileId := input.evidencePayload.criticalityProfileId
    criticalityProfileVersion := input.evidencePayload.criticalityProfileVersion }
  authorBindingProfileId := input.authorBindingProfileId
  authorBindingProfileVersion := input.authorBindingProfileVersion
  bundleId := input.evidencePayload.bundleId
  contentCommitment := result.contentCommitment
  contentEnvelopeDigest := result.contentEnvelopeDigest
  controllerActorId := input.controllerActorId
  controllerCredentialId := input.controllerCredentialId
  controllerOrganizationId := input.controllerOrganizationId
  descriptorDigest := F.digest (.descriptor {
    bundleId := input.evidencePayload.bundleId
    contentEnvelopeDigest := result.contentEnvelopeDigest
    controllerEnvelopeCommitment := result.controllerEnvelopeCommitment
    finalObjectId := result.finalObjectId
    stagingId := result.stagingId
    stagingObjectId := result.stagingObjectId
    storedEnvelopeLength := result.storedEnvelopeLength })
  domainPayload := utf8 input.evidencePayload.text
  domainPayloadCommitment := result.domainPayloadCommitment
  finalObjectId := result.finalObjectId
  idempotencyFingerprint := fingerprint
  initialCriticality := input.initialCriticality
  intendedAuthorActorId := input.intendedAuthorActorId
  intendedAuthorCredentialId := input.intendedAuthorCredentialId
  intendedAuthorOrganizationId := input.intendedAuthorOrganizationId
  resourceId := input.evidencePayload.evidenceId
  resourceVersion := input.evidencePayload.evidenceVersion
  signatureRecordId := result.signatureRecordId
  stagingId := result.stagingId
  stagingObjectId := result.stagingObjectId
  storedEnvelopeLength := result.storedEnvelopeLength

def preparedRecord (input : PrepareEvidenceInput) (fingerprint : Bytes32) (result : ProtectionResult) :
    PreparedInternal where
  toPreparation := preparation F config input fingerprint result
  controllerAuthorizationId := input.controllerAuthorizationId
  controllerEncryptionKeyId := input.controllerEncryptionKeyId
  controllerKid := input.controllerKid
  controllerPublicKeySpkiSha256 := F.rsaPublicKeySpkiSha256 input.controllerPublicKey
  wrapContext := {
    envelopeId := result.controllerEnvelopeId
    bundleId := input.evidencePayload.bundleId
    domainResourceId := input.evidencePayload.evidenceId
    domainResourceVersion := input.evidencePayload.evidenceVersion
    domainPayloadCommitment := result.domainPayloadCommitment
    contentCommitment := result.contentCommitment
    contentEnvelopeDigest := result.contentEnvelopeDigest
    recipientOrgId := input.controllerOrganizationId
    recipientKid := input.controllerKid
    purpose := "controller-custody"
    authorizationId := input.controllerAuthorizationId
    scope := .keyAdministration }
  controllerEnvelope := result.controllerEnvelope
  controllerEnvelopeId := result.controllerEnvelopeId
  finalized := false
  critical := input.initialCriticality = .decisionCritical
  replicaObjectId := none

/-- `prepare` up to its first `await`: a repeated key returns the record it was
first used for, or is refused. -/
def startPrepare (S : System) (i : ℕ) (input : PrepareEvidenceInput) : System :=
  let service := S.services i
  let fingerprint := preparationFingerprint F input
  let idempotencyHash := F.sha256 input.idempotencyKey
  let call (phase : Phase) : Call := ⟨i, .prepare input fingerprint idempotencyHash, [], none, phase⟩
  if input.idempotencyKey.length ≠ 32 then S.addCall (call .failed)
  else
    match (service.byIdempotency.get idempotencyHash).bind service.byBundle.deref with
    | some existing =>
      S.addCall (call (if existing.idempotencyFingerprint ≠ fingerprint then .failed else .returned))
    | none => S.addCall (call .preparing)

/-- The end of `prepare`: the controller authorization is staged and the record
stored under both keys, whatever was stored under them before. -/
def commitPreparation (service : BundleService) (input : PrepareEvidenceInput) (fingerprint idempotencyHash : Bytes32)
    (result : ProtectionResult) : Except ServiceError BundleService := do
  let registry ← registryError (service.keyLifecycle.registry.stageControllerAuthorization
    ⟨input.controllerAuthorizationId, result.controllerEnvelopeId, input.controllerEncryptionKeyId, .staged⟩)
  return { service with
    byIdempotency := service.byIdempotency.set idempotencyHash service.byBundle.heap.length
    byBundle := service.byBundle.insert input.evidencePayload.bundleId (preparedRecord F config input fingerprint result)
    keyLifecycle := { service.keyLifecycle with registry } }

/-! ### Finalizing -/

def finalizedEvidenceBundleRecord (record : PreparedInternal) (input : FinalizeInput) :
    FinalizedEvidenceBundleRecord where
  attestation := input.attestation
  bundleId := record.bundleId
  contentCommitment := record.contentCommitment
  contentEnvelopeDigest := record.contentEnvelopeDigest
  domainPayloadCommitment := record.domainPayloadCommitment
  finalization := input.finalization
  finalizedAt := input.now
  primaryObjectId := record.finalObjectId
  replicaObjectId := record.replicaObjectId
  storedEnvelopeLength := record.storedEnvelopeLength

/-- What follows the last `await` of `finalize`. -/
def completeFinalize (service : BundleService) (input : FinalizeInput) (ref : Ref) : Except ServiceError BundleService :=
  match service.byBundle.deref ref with
  | none => .error .notFound
  | some record => do
    let registry ← registryError
      (service.keyLifecycle.registry.activateControllerAuthorization record.controllerAuthorizationId)
    return { service with
      byBundle := service.byBundle.mutate ref fun record => { record with finalized := true }
      finalizedRecords := service.finalizedRecords.set record.bundleId (finalizedEvidenceBundleRecord record input)
      keyLifecycle := { service.keyLifecycle with registry } }

/-! ### Rotating and granting -/

/-- The context in which a rotation wraps the key for its successor. -/
def RotateInput.successorContext (input : RotateInput) (record : PreparedInternal) : DekWrapContext :=
  { record.wrapContext with
    envelopeId := input.successorEnvelopeId
    recipientKid := input.successorKid
    authorizationId := input.successorAuthorizationId }

/-- The writes at the end of `rotateControllerEnvelope`. -/
def RotateInput.write (input : RotateInput) (envelope : Bytes) (context : DekWrapContext) (record : PreparedInternal) :
    PreparedInternal :=
  { record with
    controllerAuthorizationId := input.successorAuthorizationId
    controllerEnvelope := envelope
    controllerEnvelopeId := input.successorEnvelopeId
    controllerEncryptionKeyId := input.successorKeyId
    controllerKid := input.successorKid
    controllerPublicKeySpkiSha256 := F.rsaPublicKeySpkiSha256 input.successorPublicKey
    wrapContext := context }

/-- The context in which a grant wraps the key for its recipient. -/
def GrantInput.context (input : GrantInput) (record : PreparedInternal) : DekWrapContext :=
  { record.wrapContext with
    envelopeId := input.recipientEnvelopeId
    recipientOrgId := input.recipientOrganizationId
    recipientKid := input.recipientKid
    purpose := input.purpose
    authorizationId := input.grantId
    scope := .decrypt }

def GrantInput.envelopeRecord (input : GrantInput) (envelope : Bytes) (commitment : Bytes32) (context : DekWrapContext) :
    RecipientEnvelopeRecord where
  bytes := envelope
  commitment := commitment
  context := context
  grantId := input.grantId
  policyId := input.keyOperationAuthorization.claims.policyId
  policyVersion := input.keyOperationAuthorization.claims.policyVersion
  purpose := input.purpose
  purposeId := input.keyOperationAuthorization.claims.purposeId
  recipientKeyId := input.recipientKeyId
  recipientKid := input.recipientKid
  recipientOrganizationId := input.recipientOrganizationId
  recipientPublicKeySpkiSha256 := F.rsaPublicKeySpkiSha256 input.recipientPublicKey

/-- `grantRecipient` after the key is wrapped: the grant is prepared and its
envelope stored. -/
def storeGrant (service : BundleService) (input : GrantInput) (envelope : Bytes) (commitment : Bytes32)
    (context : DekWrapContext) : Except ServiceError BundleService := do
  let registry ← registryError (service.keyLifecycle.registry.prepareGrant
    ⟨input.effectiveAt, input.recipientEnvelopeId, input.expiresAt, input.grantId, input.recipientKeyId, .prepared⟩)
  return { service with
    recipientEnvelopes :=
      service.recipientEnvelopes.set input.recipientEnvelopeId (input.envelopeRecord F envelope commitment context)
    keyLifecycle := { service.keyLifecycle with registry } }

/-! ### Continuations -/

/-- What a call that goes on was given by what it awaited. -/
inductive AwaitResult where
  | failed
  | done
  | stored (result : ProtectionResult)
  /-- The staged object is promoted; `replicaObjectId` is a fresh id. -/
  | promoted (replicaObjectId : String)
  | wrapped (envelope : Bytes) (commitment : Bytes32)
  | verified (answer : Bool)

/-- The service and the phase after an operation that may throw. -/
def orFail (service : BundleService) (outcome : Except ServiceError BundleService) (phase : Phase) :
    BundleService × Phase :=
  match outcome with
  | .error _ => (service, .failed)
  | .ok service' => (service', phase)

/-- The suspended operation of the key registry, once the callback answered. -/
def resumeRegistry (service : BundleService) (suspended : Keys.Suspended) (answer : Bool) :
    Except ServiceError BundleService := do
  let registry ← registryError (service.keyLifecycle.registry.resume answer suspended)
  return { service with keyLifecycle := { service.keyLifecycle with registry } }

def BundleService.mutateRecord (service : BundleService) (ref : Ref) (f : PreparedInternal → PreparedInternal) :
    BundleService :=
  { service with byBundle := service.byBundle.mutate ref f }

/-- `finalize` once the staged object is promoted. -/
def finalizePromoted (service : BundleService) (input : FinalizeInput) (ref : Ref) (replicaObjectId : String) :
    BundleService × Phase :=
  if (service.byBundle.deref ref).any PreparedInternal.critical then
    (service.mutateRecord ref fun record => { record with replicaObjectId := some replicaObjectId }, .replicating)
  else orFail service (completeFinalize service input ref) .returned

def continueFinalize (service : BundleService) (input : FinalizeInput) (ref : Ref) :
    Phase → AwaitResult → BundleService × Phase
  | .working, .promoted replicaObjectId => finalizePromoted service input ref replicaObjectId
  | .replicating, .done => orFail service (completeFinalize service input ref) .returned
  | _, .failed => (service, .failed)
  | phase, _ => (service, phase)

/-- `rotateControllerEnvelope` once the key is wrapped for its successor. -/
def rotationWrapped (service : BundleService) (input : RotateInput) (context : DekWrapContext) (envelope : Bytes) :
    Phase :=
  match service.keyLifecycle.registry.rotateControllerAuthorization input.predecessorAuthorizationId
      ⟨input.successorAuthorizationId, input.successorEnvelopeId, input.successorKeyId, .staged⟩ with
  | .error _ => .failed
  | .ok suspended => .verifying suspended envelope context

def continueRotate (service : BundleService) (input : RotateInput) (ref : Ref) :
    Phase → AwaitResult → BundleService × Phase
  | .rotated envelope context, _ => (service.mutateRecord ref (input.write F envelope context), .returned)
  | .working, .done =>
    (service, ((service.byBundle.deref ref).map fun record => Phase.wrapping (input.successorContext record)).getD .working)
  | .wrapping context, .wrapped envelope _ => (service, rotationWrapped service input context envelope)
  | .verifying suspended envelope context, .verified answer =>
    orFail service (resumeRegistry service suspended answer) (.rotated envelope context)
  | _, .failed => (service, .failed)
  | phase, _ => (service, phase)

/-- `grantRecipient` once the key is wrapped for its recipient. A grant that is
prepared stays prepared if its activation is refused. -/
def grantWrapped (service : BundleService) (input : GrantInput) (context : DekWrapContext) (envelope : Bytes)
    (commitment : Bytes32) : BundleService × Phase :=
  match storeGrant F service input envelope commitment context with
  | .error _ => (service, .failed)
  | .ok stored =>
    match stored.keyLifecycle.registry.activateGrant input.grantId input.effectiveAt with
    | .error _ => (stored, .failed)
    | .ok suspended => (stored, .verifying suspended envelope context)

def continueGrant (service : BundleService) (input : GrantInput) (ref : Ref) :
    Phase → AwaitResult → BundleService × Phase
  | .working, .done =>
    (service, ((service.byBundle.deref ref).map fun record => Phase.wrapping (input.context record)).getD .working)
  | .wrapping context, .wrapped envelope commitment => grantWrapped F service input context envelope commitment
  | .verifying suspended _ _, .verified answer => orFail service (resumeRegistry service suspended answer) .returned
  | _, .failed => (service, .failed)
  | phase, _ => (service, phase)

def continuePromote (service : BundleService) (ref : Ref) : Phase → AwaitResult → BundleService × Phase
  | .replicating, .done => (service.mutateRecord ref fun record => { record with critical := true }, .returned)
  | _, .failed => (service, .failed)
  | phase, _ => (service, phase)

/-- A call of `service` goes on from an `await` outside of the repository. -/
def continueCall (service : BundleService) (phase : Phase) (result : AwaitResult) :
    Operation → BundleService × Phase
  | .prepare input fingerprint idempotencyHash =>
    match result with
    | .stored stored => orFail service (commitPreparation F config service input fingerprint idempotencyHash stored) .returned
    | .failed => (service, .failed)
    | _ => (service, phase)
  | .finalize input ref => continueFinalize service input ref phase result
  | .rotate input ref => continueRotate F service input ref phase result
  | .grant input ref => continueGrant F service input ref phase result
  | .retrieve _ _ =>
    match result with
    | .done => (service, .returned)
    | .failed => (service, .failed)
    | _ => (service, phase)
  | .promote _ ref => continuePromote service ref phase result

/-! ### Steps -/

inductive Event where
  | prepare (service : ℕ) (input : PrepareEvidenceInput)
  | finalize (service : ℕ) (input : FinalizeInput)
  | rotateControllerEnvelope (service : ℕ) (input : RotateInput)
  | grantRecipient (service : ℕ) (input : GrantInput)
  | retrieveWithGrant (service : ℕ) (input : RetrieveInput)
  /-- `replicaObjectId` is a fresh id. -/
  | promoteToDecisionCritical (service : ℕ) (bundleId replicaObjectId : String)
  | repository (event : RepositoryEvent)
  | resume (call : ℕ) (result : AwaitResult)
  | keyLifecycle (service : ℕ) (event : Keys.Event)

/-- A call whose check throws ends there; otherwise its proofs are consumed. -/
def startChecked {α : Type} (S : System) (i : ℕ) (checked : Except ServiceError α)
    (operation : α → Operation) (localNonces : α → List PendingNonceConsumption) (request : α → ConsumeRequest) :
    System :=
  match checked with
  | .error _ => S
  | .ok a => consumeValidatedProofs S i (operation a) (localNonces a) (request a)

/-- `promoteToDecisionCritical` up to its `await`. -/
def startPromote (S : System) (i : ℕ) (bundleId replicaObjectId : String) : System :=
  match (S.services i).record bundleId with
  | .error _ => S
  | .ok (ref, record) =>
    if ¬record.finalized ∨ record.critical then S
    else
      (S.setService i ((S.services i).mutateRecord ref fun record =>
        { record with replicaObjectId := some replicaObjectId })).addCall
        ⟨i, .promote bundleId ref, [], none, .replicating⟩

/-- The phase of a call whose promise the repository has settled. -/
def settledPhase : Except RepositoryError Unit → Phase
  | .ok _ => .working
  | .error _ => .rejected

/-- A settled promise moves its call. -/
def settleCall (S : System) : Option Settlement → System
  | none => S
  | some (c, result) =>
    match S.calls[c]? with
    | some ⟨i, operation, nonces, request, .consuming⟩ =>
      S.setPhase c ⟨i, operation, nonces, request, .consuming⟩ (settledPhase result)
    | _ => S

def stepRepository (S : System) (event : RepositoryEvent) : System :=
  settleCall { S with repository := (S.repository.step event).1 } (S.repository.step event).2

/-- A call goes on, unless it has ended or still awaits the repository. -/
def resumeCall (configs : ℕ → Config) (S : System) (c : ℕ) (call : Call) (result : AwaitResult) : System :=
  match call.phase with
  | .rejected => rollbackProofs S c call
  | .consuming => S
  | .returned => S
  | .failed => S
  | phase =>
    let next := continueCall F (configs call.service) (S.services call.service) phase result call.operation
    (S.setService call.service next.1).setPhase c call next.2

def step (configs : ℕ → Config) (S : System) : Event → System
  | .prepare i input => startPrepare F S i input
  | .finalize i input =>
    startChecked S i (checkFinalize F (configs i) (S.services i) input) (fun a => .finalize input a.1)
      (fun _ => finalizeNonces input) Prod.snd
  | .rotateControllerEnvelope i input =>
    startChecked S i (checkRotate F (configs i) (S.services i) input) (fun a => .rotate input a.1)
      (fun a => [⟨.keyMaterialAcknowledgement, a.2.1⟩]) (fun a => a.2.2)
  | .grantRecipient i input =>
    startChecked S i (checkGrant F (configs i) (S.services i) input) (fun a => .grant input a.1)
      (fun a => [⟨.keyMaterialAcknowledgement, a.2.1⟩]) (fun a => a.2.2)
  | .retrieveWithGrant i input =>
    startChecked S i (checkRetrieve F (configs i) (S.services i) input) (fun a => .retrieve input a.1) (fun _ => [])
      Prod.snd
  | .promoteToDecisionCritical i bundleId replicaObjectId => startPromote S i bundleId replicaObjectId
  | .repository event => stepRepository S event
  | .resume c result =>
    match S.calls[c]? with
    | none => S
    | some call => resumeCall F configs S c call result
  | .keyLifecycle i event =>
    S.setService i { S.services i with keyLifecycle := (S.services i).keyLifecycle.step event }

/-- New services over a repository. -/
def newSystem (repository : Repository) : System := ⟨fun _ => .new, repository, []⟩

/-- The system after the events `ls`. -/
def after (configs : ℕ → Config) (repository : Repository) (ls : List Event) : System :=
  run (step F configs) (newSystem repository) ls

end Evidence
end Evllm
