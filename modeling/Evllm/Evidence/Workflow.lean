/-
# What a call changes in its service

A continuation of a call leaves the records of its service as they are, stores
the record of a preparation, finalizes a record, or writes fields of one that
are not `readonly` (`Change`); it leaves the nonce stores alone, and no
authorization that has left the staging state of the key registry returns to
it (`Moves`). So a record, once made, keeps its preparation and stays finalized
(`Keeps`).

A bundle of one organisation, with its signed proofs, is followed through a
service; hashes, digests and signatures of the bundle are the real ones.

Key definitions: `Change`, `Moves`, `Keeps`, `Sample`.
Key theorems: `moves_call`, `Change.keeps`.
-/
import Evllm.Evidence.BundleService
import Evllm.Lib.Keccak

namespace Evllm
namespace Evidence

open Lib Contracts

/-! ### Continuations, by what they change -/

def BundleService.Settled (service : BundleService) (authorizationId : String) : Prop :=
  Keys.Settled service.keyLifecycle.registry.authorizations authorizationId

/-- The key registry stages the authorization of a preparation. -/
def BundleService.stages (service : BundleService) (input : PrepareEvidenceInput) (result : ProtectionResult) : Bool :=
  (service.keyLifecycle.registry.stageControllerAuthorization
    ⟨input.controllerAuthorizationId, result.controllerEnvelopeId, input.controllerEncryptionKeyId, .staged⟩).toBool

/-- The key registry activates the authorization of a record. -/
def BundleService.activates (service : BundleService) (record : PreparedInternal) : Bool :=
  (service.keyLifecycle.registry.activateControllerAuthorization record.controllerAuthorizationId).toBool

/-- What `finalize` awaits last has succeeded: the promotion of the staged
object, or its replication if the record is critical. -/
def LastAwait (record : PreparedInternal) : Phase → AwaitResult → Prop
  | .working, .promoted _ => record.critical = false
  | .replicating, .done => True
  | _, _ => False

/-- A write to a record: it keeps the preparation and whether it is finalized,
and another authorization is the successor of a rotation that has succeeded. -/
structure RecordWrite (operation : Operation) (phase : Phase) (ref : Ref) (f : PreparedInternal → PreparedInternal) :
    Prop where
  preparation : ∀ record, (f record).toPreparation = record.toPreparation
  finalized : ∀ record, (f record).finalized = record.finalized
  authorization : (∀ record, (f record).controllerAuthorizationId = record.controllerAuthorizationId) ∨
    ∃ input envelope context, operation = .rotate input ref ∧ phase = .rotated envelope context ∧
      ∀ record, (f record).controllerAuthorizationId = input.successorAuthorizationId

section

variable (F : Externals) (config : Config)

/-- What a continuation does to the records of a service. -/
inductive Change (service : BundleService) (phase : Phase) (result : AwaitResult) :
    Operation → BundleService → Prop where
  | none {operation : Operation} {service' : BundleService} (records : service'.byBundle = service.byBundle)
      (finalizedRecords : service'.finalizedRecords = service.finalizedRecords) :
      Change service phase result operation service'
  | prepared {input : PrepareEvidenceInput} {fingerprint idempotencyHash : Bytes32} {service' : BundleService}
      (stored : ProtectionResult) (awaited : result = .stored stored) (stages : service.stages input stored)
      (records : service'.byBundle = service.byBundle.insert input.evidencePayload.bundleId
        (preparedRecord F config input fingerprint stored))
      (finalizedRecords : service'.finalizedRecords = service.finalizedRecords) :
      Change service phase result (.prepare input fingerprint idempotencyHash) service'
  | finalized {input : FinalizeInput} {ref : Ref} {service' : BundleService} (record : PreparedInternal)
      (stored : service.byBundle.deref ref = some record) (awaited : LastAwait record phase result)
      (activates : service.activates record) (settled : service'.Settled record.controllerAuthorizationId)
      (records : service'.byBundle = service.byBundle.mutate ref fun record => { record with finalized := true })
      (finalizedRecords : service'.finalizedRecords =
        service.finalizedRecords.set record.bundleId (finalizedEvidenceBundleRecord record input)) :
      Change service phase result (.finalize input ref) service'
  | written {operation : Operation} {service' : BundleService} (ref : Ref) (f : PreparedInternal → PreparedInternal)
      (write : RecordWrite operation phase ref f) (records : service'.byBundle = service.byBundle.mutate ref f)
      (finalizedRecords : service'.finalizedRecords = service.finalizedRecords) :
      Change service phase result operation service'

/-- A continuation of an operation gives `service'`: it changes the records as
`Change` says, leaves the nonce stores alone and no settled authorization
staged. -/
structure Moves (service : BundleService) (phase : Phase) (result : AwaitResult) (operation : Operation)
    (service' : BundleService) : Prop where
  change : Change F config service phase result operation service'
  nonces : service'.nonces = service.nonces
  settled : ∀ id, service.Settled id → service'.Settled id

end

section Changes

variable {F : Externals} {config : Config} {service service' : BundleService} {phase : Phase} {result : AwaitResult}
variable {operation : Operation}

theorem registryError_eq_ok {α : Type} {x : Except Keys.KeyLifecycleError α} {a : α} :
    registryError x = .ok a ↔ x = .ok a := by
  cases x <;> simp [registryError]

theorem Moves.refl : Moves F config service phase result operation service :=
  ⟨.none rfl rfl, rfl, fun _ h => h⟩

theorem Moves.orFail {outcome : Except ServiceError BundleService} {next : Phase}
    (h : ∀ service', outcome = .ok service' → Moves F config service phase result operation service') :
    Moves F config service phase result operation (orFail service outcome next).1 := by
  rcases outcome with e | service'
  · exact .refl
  · exact h service' rfl

theorem moves_commitPreparation {input : PrepareEvidenceInput} {fingerprint idempotencyHash : Bytes32}
    {stored : ProtectionResult}
    (h : commitPreparation F config service input fingerprint idempotencyHash stored = .ok service') :
    Moves F config service phase (.stored stored) (.prepare input fingerprint idempotencyHash) service' := by
  simp only [commitPreparation, bind_eq_ok, pure_eq_ok, registryError_eq_ok] at h
  obtain ⟨registry, hstage, rfl⟩ := h
  have hstages : service.stages input stored = true := by
    unfold BundleService.stages
    rw [hstage]
    rfl
  exact ⟨.prepared stored rfl hstages rfl rfl, rfl, fun id => Keys.KeyLifecycleRegistry.settled_stage hstage⟩

/-- `finalize` has come to its end: its record is allocated. -/
theorem moves_completeFinalize {input : FinalizeInput} {ref : Ref}
    (hlast : ∀ record, service.byBundle.deref ref = some record → LastAwait record phase result)
    (h : completeFinalize service input ref = .ok service') :
    Moves F config service phase result (.finalize input ref) service' := by
  unfold completeFinalize at h
  rcases hrecord : service.byBundle.deref ref with _ | record
  · simp [hrecord] at h
  simp only [hrecord, bind_eq_ok, pure_eq_ok, registryError_eq_ok] at h
  obtain ⟨registry, hactivate, rfl⟩ := h
  have hactivates : service.activates record = true := by
    unfold BundleService.activates
    rw [hactivate]
    rfl
  have hsettled : Keys.Settled registry.authorizations record.controllerAuthorizationId :=
    Keys.KeyLifecycleRegistry.settled_activate hactivate (.inr rfl)
  exact ⟨.finalized record hrecord (hlast record hrecord) hactivates hsettled rfl rfl, rfl,
    fun id hid => Keys.KeyLifecycleRegistry.settled_activate hactivate (.inl hid)⟩

theorem moves_finalize (input : FinalizeInput) (ref : Ref) :
    Moves F config service phase result (.finalize input ref) (continueFinalize service input ref phase result).1 := by
  unfold continueFinalize
  split
  next replicaObjectId =>
    unfold finalizePromoted
    split_ifs with hcritical
    · refine ⟨?_, rfl, fun _ h => h⟩
      refine .written ref (fun record => { record with replicaObjectId := some replicaObjectId }) ?_ rfl rfl
      exact ⟨fun _ => rfl, fun _ => rfl, .inl fun _ => rfl⟩
    · refine .orFail fun service' h => moves_completeFinalize (fun record hrecord => ?_) h
      have hlast : record.critical = false := by simpa [hrecord] using hcritical
      exact hlast
  · exact .orFail fun service' h => moves_completeFinalize (fun _ _ => trivial) h
  · exact .refl
  · exact .refl

/-- The authorization that a rotation awaits is settled once it has succeeded. -/
theorem settled_resumeRegistry {suspended : Keys.Suspended} {answer : Bool} {id : String}
    (hid : service.Settled id ∨ ∃ predecessor successor,
      suspended = .rotateControllerAuthorization predecessor successor ∧ successor.authorizationId = id)
    (h : resumeRegistry service suspended answer = .ok service') : service'.Settled id := by
  simp only [resumeRegistry, bind_eq_ok, pure_eq_ok, registryError_eq_ok] at h
  obtain ⟨registry, hresume, rfl⟩ := h
  exact Keys.KeyLifecycleRegistry.settled_resume hresume hid

theorem moves_resumeRegistry {suspended : Keys.Suspended} {answer : Bool}
    (h : resumeRegistry service suspended answer = .ok service') :
    Moves F config service phase result operation service' := by
  have hsettled : ∀ id, service.Settled id → service'.Settled id := fun id hid => settled_resumeRegistry (.inl hid) h
  simp only [resumeRegistry, bind_eq_ok, pure_eq_ok] at h
  obtain ⟨registry, -, rfl⟩ := h
  exact ⟨.none rfl rfl, rfl, hsettled⟩

theorem moves_rotate (input : RotateInput) (ref : Ref) :
    Moves F config service phase result (.rotate input ref) (continueRotate F service input ref phase result).1 := by
  unfold continueRotate
  split
  next envelope context =>
    refine ⟨?_, rfl, fun _ h => h⟩
    refine .written ref (input.write F envelope context) ?_ rfl rfl
    exact ⟨fun _ => rfl, fun _ => rfl, .inr ⟨input, envelope, context, rfl, rfl, fun _ => rfl⟩⟩
  · exact .refl
  · exact .refl
  · exact .orFail fun service' h => moves_resumeRegistry h
  · exact .refl
  · exact .refl

theorem moves_storeGrant {input : GrantInput} {envelope : Bytes} {commitment : Bytes32} {context : DekWrapContext}
    (h : storeGrant F service input envelope commitment context = .ok service') :
    Moves F config service phase result operation service' := by
  simp only [storeGrant, bind_eq_ok, pure_eq_ok, registryError_eq_ok] at h
  obtain ⟨registry, hgrant, rfl⟩ := h
  obtain ⟨-, rfl⟩ := Keys.KeyLifecycleRegistry.prepareGrant_ok hgrant
  exact ⟨.none rfl rfl, rfl, fun _ h => h⟩

theorem moves_grant (input : GrantInput) (ref : Ref) :
    Moves F config service phase result (.grant input ref) (continueGrant F service input ref phase result).1 := by
  unfold continueGrant
  split
  · exact .refl
  · unfold grantWrapped
    split
    · exact .refl
    next stored hstored =>
      split
      · exact moves_storeGrant hstored
      · exact moves_storeGrant hstored
  · exact .orFail fun service' h => moves_resumeRegistry h
  · exact .refl
  · exact .refl

/-- **What a continuation does.** -/
theorem moves_call (operation : Operation) :
    Moves F config service phase result operation (continueCall F config service phase result operation).1 := by
  cases operation with
  | prepare input fingerprint idempotencyHash =>
    simp only [continueCall]
    split
    · exact .orFail fun service' h => moves_commitPreparation h
    · exact .refl
    · exact .refl
  | finalize input ref => exact moves_finalize input ref
  | rotate input ref => exact moves_rotate input ref
  | grant input ref => exact moves_grant input ref
  | retrieve input ref =>
    simp only [continueCall]
    split
    · exact .refl
    · exact .refl
    · exact .refl
  | promote bundleId ref =>
    simp only [continueCall, continuePromote]
    split
    · refine ⟨?_, rfl, fun _ h => h⟩
      refine .written ref (fun record => { record with critical := true }) ?_ rfl rfl
      exact ⟨fun _ => rfl, fun _ => rfl, .inl fun _ => rfl⟩
    · exact .refl
    · exact .refl

theorem settleCall_cases (S : System) (settled : Option Settlement) :
    settleCall S settled = S ∨ ∃ c a result, settled = some (c, result) ∧ S.calls[c]? = some a ∧ a.phase = .consuming ∧
      settleCall S settled = S.setPhase c a (settledPhase result) := by
  rcases settled with _ | ⟨c, result⟩
  · exact .inl rfl
  · generalize hS' : settleCall S (some (c, result)) = S'
    simp only [settleCall] at hS'
    split at hS'
    next i operation nonces request hc => exact .inr ⟨c, _, result, rfl, hc, rfl, hS'.symm⟩
    · exact .inl hS'.symm

end Changes

/-! ### Records are kept -/

section Keeps

variable {F : Externals} {config : Config} {service service' service'' : BundleService} {phase : Phase}
variable {result : AwaitResult} {operation : Operation}

/-- Every record is still there, with its preparation, and finalized if it was. -/
def Keeps (service service' : BundleService) : Prop :=
  ∀ ref record, service.byBundle.deref ref = some record → ∃ record', service'.byBundle.deref ref = some record' ∧
    record'.toPreparation = record.toPreparation ∧ (record.finalized → record'.finalized)

theorem Keeps.of_eq (h : service'.byBundle = service.byBundle) : Keeps service service' := by
  intro ref record hrecord
  exact ⟨record, by rw [h, hrecord], rfl, id⟩

theorem Keeps.trans (h : Keeps service service') (h' : Keeps service' service'') : Keeps service service'' := by
  intro ref record hrecord
  obtain ⟨record', hrecord', hsame, hfinal⟩ := h ref record hrecord
  obtain ⟨record'', hrecord'', hsame', hfinal'⟩ := h' ref record' hrecord'
  exact ⟨record'', hrecord'', hsame'.trans hsame, fun hf => hfinal' (hfinal hf)⟩

theorem Keeps.insert {bundleId : String} {record : PreparedInternal}
    (h : service'.byBundle = service.byBundle.insert bundleId record) : Keeps service service' := by
  intro ref old hold
  exact ⟨old, by rw [h, ObjectMap.deref_insert_of_some _ hold], rfl, id⟩

theorem Keeps.mutate {ref : Ref} {f : PreparedInternal → PreparedInternal}
    (h : service'.byBundle = service.byBundle.mutate ref f)
    (hf : ∀ record, (f record).toPreparation = record.toPreparation ∧ (record.finalized → (f record).finalized)) :
    Keeps service service' := by
  intro ref' record hrecord
  rw [h, ObjectMap.deref_mutate, hrecord]
  by_cases href : ref = ref'
  · exact ⟨f record, by simp [href], hf record⟩
  · exact ⟨record, by simp [href], rfl, id⟩

theorem Change.keeps (h : Change F config service phase result operation service') : Keeps service service' := by
  cases h with
  | none records => exact .of_eq records
  | prepared stored awaited stages records => exact .insert records
  | finalized record stored awaited activates settled records => exact .mutate records fun _ => ⟨rfl, fun _ => rfl⟩
  | written ref f write records =>
    refine .mutate records fun record => ⟨write.preparation record, fun hfinal => ?_⟩
    rwa [write.finalized record]

end Keeps

/-! ### A bundle of one organisation

The organisation authors the evidence, controls the bundle and authorizes the
key operations, all with one credential whose key signs every proof. -/

namespace Sample

def bundleId : String := "urn:evllm:bundle:00000000-0000-4000-8000-000000000004"
def evidenceId : String := "urn:evllm:evidence:00000000-0000-4000-8000-000000000010"
def schemaId : String := "urn:evllm:schema:00000000-0000-4000-8000-000000000017"
def profileId : String := "urn:evllm:profile:00000000-0000-4000-8000-000000000001"
def policyId : String := "urn:evllm:policy:00000000-0000-4000-8000-000000000026"
def repositoryId : String := "urn:evllm:repository:00000000-0000-4000-8000-000000000014"
def replicaRepositoryId : String := "urn:evllm:repository:00000000-0000-4000-8000-000000000016"
def keyId : String := "urn:evllm:key:00000000-0000-4000-8000-000000000008"
def controllerAuthorizationId : String := "urn:evllm:authorization:00000000-0000-4000-8000-000000000006"
def otherAuthorizationId : String := "urn:evllm:authorization:00000000-0000-4000-8000-000000000007"
def authorizationId : String := "urn:evllm:authorization:00000000-0000-4000-8000-000000001100"
def actorId : String := "urn:evllm:actor:00000000-0000-4000-8000-000000000002"
def organizationId : String := "urn:evllm:org:00000000-0000-4000-8000-000000000009"
def credentialId : String := "urn:evllm:credential:00000000-0000-4000-8000-000000000007"

def principal : ServicePrincipal := ⟨actorId, credentialId, organizationId⟩

def address : Address := 0x7e5f4552091a69125d5dfcb7b8c2659029395bdf

def publicKey : PublicKey :=
  "-----BEGIN PUBLIC KEY-----\n" ++
  "MIIBojANBgkqhkiG9w0BAQEFAAOCAY8AMIIBigKCAYEA7eVe4i4JyQCRStDE6ULw\n" ++
  "MawM8J0bbnR07sZkNePQyPP6rTO/bF7L+RFidI7avJJ17H8Bv1VyodHlKfMX1CGZ\n" ++
  "EVYmhEAp7KU9HtN/3uKGXffWgO4+JfTvq4jTCmEERkXu15bK709K6MHWgK29Uf09\n" ++
  "UvGmT6GnD+VS+zvR//QxUxOcAD91KdWVkUewxlBw/U0yNnAwz2ZHnwULeBb695Ee\n" ++
  "Pb6b3zayIzw/n/H02p2z1Vyhek0FVLbV3ov6VMmDsZlwOuLYWPWXDKOYT+RWuDOw\n" ++
  "LlVUchyEjn3Ygaju3Dj2WGN6EzCDOj0Ht/8+PSItk1Cu3KbXqopQU2ZzGF0Ap8V6\n" ++
  "+mwphiAR+JiZTs06Ih9fAfZT+e6sIRMetEnF/1UFe73DpXIZ7/GUZfv62shnCBY8\n" ++
  "x+QDnID8poMoIfDIhnfiiDR4TmDjtvvuhkrNVcDZxM7QJYDIj7DZxyKNb9LSLwMg\n" ++
  "h3JOcaAw1iwqwNCWvpamWF2X9qav1wWQsjMoTra4cZdvAgMBAAE=\n" ++
  "-----END PUBLIC KEY-----\n"

def payload : EvidenceClaimPayload where
  evidenceId := evidenceId
  evidenceVersion := 1
  bundleId := bundleId
  contentSchemaId := schemaId
  contentSchemaVersion := "1.0.0"
  criticalityProfileId := profileId
  criticalityProfileVersion := 1
  text :=
    "\x7b\"capture_method\":\x7b\"id\":\"capacity-test\",\"version\":1\x7d," ++
    "\"claim_id\":\"urn:evllm:claim:00000000-0000-4000-8000-000000000005\"," ++
    "\"claim_type\":\"remaining-capacity\",\"claim_version\":1," ++
    "\"evidence_id\":\"urn:evllm:evidence:00000000-0000-4000-8000-000000000010\"," ++
    "\"evidence_version\":1," ++
    "\"issuer_organization_id\":\"urn:evllm:org:00000000-0000-4000-8000-000000000009\"," ++
    "\"issuer_role_id\":\"urn:evllm:role:00000000-0000-4000-8000-000000000031\",\"observed_at\":50," ++
    "\"protected_bundle_ref\":\x7b\"bundle_id\":\"urn:evllm:bundle:00000000-0000-4000-8000-000000000004\"," ++
    "\"bundle_type\":\"evidence\",\"bundle_version\":1," ++
    "\"content_schema_id\":\"urn:evllm:schema:00000000-0000-4000-8000-000000000017\"," ++
    "\"content_schema_version\":\"1.0.0\"," ++
    "\"criticality_profile_id\":\"urn:evllm:profile:00000000-0000-4000-8000-000000000001\"," ++
    "\"criticality_profile_version\":1," ++
    "\"custody_controller_org_id\":\"urn:evllm:org:00000000-0000-4000-8000-000000000009\"," ++
    "\"domain_resource_id\":\"urn:evllm:evidence:00000000-0000-4000-8000-000000000010\"," ++
    "\"domain_resource_version\":1,\"initial_criticality_class\":\"supplementary\"," ++
    "\"schema\":\"EVLLM_PROTECTED_BUNDLE_REF_V1\"\x7d,\"provenance\":[]," ++
    "\"schema\":\"EVLLM_EVIDENCE_CLAIM_PAYLOAD_V1\",\"source_class\":\"primary\"," ++
    "\"subject_granularity\":\"pack\"," ++
    "\"subject_id\":\"urn:evllm:battery:00000000-0000-4000-8000-000000000030\",\"submitted_at\":60," ++
    "\"uncertainty\":\x7b\"range\":\x7b\"lower\":\"72\",\"upper\":\"73\"\x7d,\"type\":\"range\"\x7d," ++
    "\"value\":\x7b\"quantity\":\x7b\"unit_id\":\"urn:evllm:unit:00000000-0000-4000-8000-000000000032\"," ++
    "\"unit_version\":1,\"value\":\"72.5\"\x7d,\"type\":\"quantity\"\x7d\x7d"

def prepareInput (controllerAuthorizationId : String) (idempotencyKey : Bytes) : PrepareEvidenceInput where
  authorBindingProfileId := profileId
  authorBindingProfileVersion := 1
  content := utf8 "private battery capacity report"
  contentMediaType := "application/pdf"
  controllerActorId := actorId
  controllerAuthorizationId := controllerAuthorizationId
  controllerCredentialId := credentialId
  controllerEncryptionKeyId := keyId
  controllerKid := "urn:ietf:params:oauth:jwk-thumbprint:sha-256:wUchNbFMd8i--Y5z9wIIMl-g3PHmvWaK6bManOopX-c"
  controllerOrganizationId := organizationId
  controllerPublicKey := publicKey
  evidencePayload := payload
  idempotencyKey := idempotencyKey
  initialCriticality := .supplementary
  intendedAuthorActorId := actorId
  intendedAuthorCredentialId := credentialId
  intendedAuthorOrganizationId := organizationId

def firstInput : PrepareEvidenceInput := prepareInput controllerAuthorizationId (List.replicate 32 7)

def firstResult : ProtectionResult where
  contentCommitment := 0xb7e8fffb61fd12781ee945ef607486cd9647350f4ed596bad7e717cc3032f91e
  contentEnvelopeDigest := 0xf493a2a33f72c5d2f8dea31e3e9076a895927b9cf25078d0b635ffe117c6de55
  domainPayloadCommitment := 0xa8eed2ea194bc62bf42a1210e4fa325b7240fc0388ac0a4cd88a35f758c52f9d
  storedEnvelopeLength := 18
  controllerEnvelope := [1]
  controllerEnvelopeCommitment := 0x4bf5122f344554c53bde2ebb8cd2b7e3d1600ad631c385a5d7cce23c7785459a
  stagingObjectId := "fXg97n1ErCwC5lZ89QKpdE6O8tZcFBWS0QUR0T3zekU"
  finalObjectId := "w1VRxI3s_7s-QtR136o3k_xgwwkpqNaKTHJva_Z6ZCI"
  stagingId := "urn:evllm:staging:00000000-0000-4000-8000-000000000041"
  controllerEnvelopeId := "urn:evllm:envelope:00000000-0000-4000-8000-000000000051"
  signatureRecordId := "urn:evllm:assertion:00000000-0000-4000-8000-000000000061"

def signature (r s : ℕ) (v : UInt8) : Bytes := bytesOfNat 32 r ++ bytesOfNat 32 s ++ [v]

def attestationSignature : Bytes :=
  signature 0x2e569075b3afa9cfb7f2886213878609cb79e4fd3282aaa871707023d0136dd6
    0x7cce51c79d103f7eb7deebaec40c2db7ea0a1219afba0269f4c3da73b5a76112 27

def finalizationSignature : Bytes :=
  signature 0xcbe53f4830a4d1263d7ce206127ed3223967059ca0d2afd3e19634b70b040d46
    0x189a24218e81ac84772ec3735557a6e923818338000b973c500ef6389f2e7ea1 27

def authorizationSignature : Bytes :=
  signature 0x46b40c14ba450fcce23d6332fd97c484097715d282695b805d89ff297f15bb03
    0x7aef93631a4482ce455de1ecdd2255e7eaf1d94d779d1674a58674865b6c5923 27

/-- The content of the bundle as it is stored. -/
def envelopeBytes : Bytes := [99, 111, 110, 116, 101, 110, 116, 32, 101, 110, 118, 101, 108, 111, 112, 101, 32, 49]

/-- The SHA-256 digests of the bytes of this bundle. -/
def sha256 (bytes : Bytes) : Bytes32 :=
  if bytes = List.replicate 32 7 then 0x4bb06f8e4e3a7715d201d573d0aa423762e55dabd61a2c02278fa56cc6d294e0
  else if bytes = List.replicate 32 8 then 0x2578ccf8645b2d1dc10c465eff843585970f3a7e22296a92cad55d489a272072
  else if bytes = envelopeBytes then 0xf493a2a33f72c5d2f8dea31e3e9076a895927b9cf25078d0b635ffe117c6de55
  else if bytes = attestationSignature then 0xfac43445022d18216745983893cd639475471d8f4f38ff335a3d2d41e86e932c
  else if bytes = finalizationSignature then 0x6809c4e8ed42276614e64ea3e7a67ab0897eddc159cb8b9d717b9f276ac653f5
  else if bytes = authorizationSignature then 0x9a673adf54e1e08b5cb31d900ae527fce1f7d0132a2d2aac01442ac5adcc960c
  else 0xbc4ddb964ec584e8ecc5e88e54bd0ac9e0c33c296b913ad84cefa4d488c595b6

/-- The SHA-256 digests of the objects of this bundle, as canonical JSON. -/
def digest : CanonicalObject → Bytes32
  | .evidenceClaim _ => 0xf44ddc8271098f29e058f01d1596883f89f03863914a16c73d419050c1781cb0
  | .fingerprint fingerprint =>
    if fingerprint.controllerAuthorizationId = controllerAuthorizationId then
      0x77f803d552819574a36ae35e149fb833e8fca27e1cad93ce1e5bad239a616cf8
    else 0xd82c68e4fd2a137be161546bec9a514eec18b387dbe16841456b5999a5c25790
  | .descriptor descriptor =>
    if descriptor.stagingId = firstResult.stagingId then
      0x6205351fca73b05e5af17a15ba5373272f8409c3b24895a1a152ce920bb32233
    else 0xf0a61230ecc95ebe9469098360cf19140549740eee3c08240a17aa0a051ff77e
  | .attestation _ => 0x9763247cd3fdae819390479f52f41ba5b47718ac4c1aba37dc0282fdefe7cde2
  | .finalization _ => 0x2c69d5cce21961a290e406347f7302c339523b94a6538b819d0ba5b5ad486cac
  | .contentSchemaBinding _ _ => 0x7a44b814fa488fd159684945b9a45ec25c7ad12309faf87d92b2fb1eebbf685e
  | .replicaPolicy _ => 0xf2f86f070715947f4dd15770ee91ba9e6a176c479a9e832e86712ac5a303eeb3
  | .sourceAuthorityIds _ => 0x314c1d121bc28a3e31cd81a97416d17524183ffcbbd1caae496279893de0c413
  | .operationContext _ => 0xb17f69f7f69ff6716dbe9111447e834894a938e135ed5f8a3048806878d75afd

/-- The functions outside of the service, but for the recovery of signers. -/
def unsigned : Externals where
  crypto := ⟨fun bytes => BitVec.ofNat 256 (Keccak.keccak256 bytes), fun _ _ _ _ => 0⟩
  sha256 := sha256
  digest := digest
  rsaPublicKeySpkiSha256 _ := 0x02363aef317203d9522d1cf45b1bfb1193c4732609b5774030ea8d85b6b3c90c
  verifyRsaKeyPossessionProof _ _ _ := false
  acceptsAuthorization _ := true

def config : Config where
  chainId := 31337
  controllerRepositoryId := repositoryId
  credentialAt _ _ := ⟨true, 0, none⟩
  keyOperationAuthorizer := principal
  keyOperationAuthorizerAddress := address
  keyMaterialAcknowledgementCredentialAt _ _ := none
  maxProofLifetimeSeconds := 600
  protectedBundleRegistryAddress := 0x1111111111111111111111111111111111111111
  replicaRepositoryId := replicaRepositoryId

def record : PreparedInternal :=
  preparedRecord unsigned config firstInput (preparationFingerprint unsigned firstInput) firstResult

def attestation : SignedProof DomainManifestAttestation :=
  ⟨domainAttestationMessage unsigned record principal ⟨1, 99, 160⟩, attestationSignature⟩

def finalization : SignedProof FinalizeProtectedBundle :=
  ⟨finalizationMessage unsigned config record attestation principal
      (idHash unsigned "urn:evllm:command:00000000-0000-4000-8000-000000000100")
      0xc298bcd33a750eb2d0008345fc74c220d8cbf40030606a2673ec241fcc96f23f ⟨2, 99, 160⟩,
    finalizationSignature⟩

def claims : KeyOperationAuthorizationClaims := ⟨authorizationId, 1, policyId, 1, policyId, principal⟩

def operationContext : OperationContext :=
  .finalize record.stagingId record.stagingObjectId record.descriptorDigest record.controllerAuthorizationId
    record.controllerEnvelopeId record.controllerEncryptionKeyId record.contentEnvelopeDigest
    record.storedEnvelopeLength (digest (.finalization finalization))

def authorization : SignedKeyOperationAuthorization where
  claims := claims
  proof := ⟨keyOperationAuthorizationMessage unsigned config .verifyAndFinalizeStaging
      ⟨operationContext, record, [controllerAuthorizationId]⟩ claims
      0xf00996250c335dd1dcae9718d2be81d08a6118441a549ef42adc08123071ab94 ⟨1100, 99, 160⟩,
    authorizationSignature⟩

/-- The key of the organisation has signed the digest of the proof. -/
def signed {μ : Type} (profile : Profile μ) (proof : SignedProof μ) (digest : Bytes32) (v : BitVec 8) (r s : Bytes32) :
    Bool :=
  digest = hashTypedData unsigned.crypto profile (proofDomain config profile.domainName) proof.message ∧
    v = signatureV proof.signature ∧ r = signatureR proof.signature ∧ s = signatureS proof.signature

def crypto : Crypto where
  keccak256 := unsigned.crypto.keccak256
  ecrecover digest v r s :=
    if signed domainManifestAttestationProfile attestation digest v r s ∨
      signed finalizeProtectedBundleProfile finalization digest v r s ∨
      signed keyOperationAuthorizationProfile authorization.proof digest v r s then address
    else 0

def externals : Externals := { unsigned with crypto }

def finalizeInput : FinalizeInput where
  attestation := attestation
  authorAddress := address
  bundleId := bundleId
  controllerAddress := address
  finalization := finalization
  keyOperationAuthorization := authorization
  now := 100

/-- The request that the authorization is consumed with. -/
def request : ConsumeRequest :=
  ⟨consumedRecord externals config .verifyAndFinalizeStaging ⟨operationContext, record, [controllerAuthorizationId]⟩
      authorization ⟨address, sha256 authorizationSignature,
        hashTypedData unsigned.crypto keyOperationAuthorizationProfile
          (proofDomain config keyOperationAuthorizationProfile.domainName) authorization.proof.message⟩,
    nonceScope keyOperationAuthorizationProfile authorization.proof.message⟩

/-- Every proof that is valid from 99 to 160 and signed by the organisation is
accepted at 100, wherever its credential is and its digest is the real one. -/
theorem verifies {μ : Type} {C : Crypto} {credentialAt : Bytes32 → ℕ → CredentialAcceptance} {profile : Profile μ}
    {proof : SignedProof μ} (hcredential : ∀ id, acceptsCredential (credentialAt id 100) 100 = true)
    (hhash : hashTypedData C profile (proofDomain config profile.domainName) proof.message =
      hashTypedData unsigned.crypto profile (proofDomain config profile.domainName) proof.message)
    (hnumbers : (profile.numbers proof.message).all isPositiveSafeInteger = true)
    (hissued : profile.issuedAt proof.message = 99) (hexpires : profile.expiresAt proof.message = 160)
    (hcanonical : isCanonicalSignature proof.signature = true)
    (hsigned : ∀ digest v r s, signed profile proof digest v r s = true → C.ecrecover digest v r s = address) :
    Verifies C profile credentialAt (proofDomain config profile.domainName) address config.maxProofLifetimeSeconds
      proof 100 := by
  have haddress : C.ecrecover (hashTypedData C profile (proofDomain config profile.domainName) proof.message)
      (signatureV proof.signature) (signatureR proof.signature) (signatureS proof.signature) = address := by
    apply hsigned
    exact decide_eq_true ⟨hhash, rfl, rfl, rfl⟩
  have hchain : isPositiveSafeInteger 31337 = true := by decide
  refine ⟨rfl, hchain, hnumbers, ?_, ?_, by decide, ?_, hcredential _, hcanonical, ?_⟩
  · rw [hissued, hexpires]
    omega
  · rw [hissued, hexpires]
    decide
  · unfold withinWindow
    rw [hissued, hexpires]
    cases profile.expiresOnLastSecond <;> decide
  · unfold recoverAddress
    simp only [haddress]
    rfl

theorem check_proofs : checkFinalizationProofs externals config record finalizeInput = .ok () := by
  have hattestation : Verifies externals.crypto domainManifestAttestationProfile config.credentialAt
      (proofDomain config domainManifestAttestationProfile.domainName) address config.maxProofLifetimeSeconds
      attestation 100 := by
    refine verifies (fun _ => rfl) rfl (by decide +kernel) rfl rfl (by decide +kernel) fun digest v r s h => ?_
    simp [externals, crypto, h]
  have hfinalization : Verifies externals.crypto finalizeProtectedBundleProfile config.credentialAt
      (proofDomain config finalizeProtectedBundleProfile.domainName) address config.maxProofLifetimeSeconds
      finalization 100 := by
    refine verifies (fun _ => rfl) rfl (by decide +kernel) rfl rfl (by decide +kernel) fun digest v r s h => ?_
    simp [externals, crypto, h]
  exact checkFinalizationProofs_eq_ok.mpr ⟨hattestation, hfinalization, rfl, rfl⟩

/-- `finalize` accepts the proofs wherever the bundle is as it was prepared. -/
theorem check {service : BundleService} {ref : Ref} (h : service.record bundleId = .ok (ref, record)) :
    checkFinalize externals config service finalizeInput = .ok (ref, request) := by
  have hverified : Verifies externals.crypto keyOperationAuthorizationProfile config.credentialAt
      (proofDomain config keyOperationAuthorizationProfile.domainName) address config.maxProofLifetimeSeconds
      authorization.proof 100 := by
    refine verifies (fun _ => rfl) rfl (by decide +kernel) rfl rfl (by decide +kernel) fun digest v r s h => ?_
    simp [externals, crypto, h]
  have hbinding : keyOperationBinding externals service (.finalize bundleId finalization) =
      .ok ⟨operationContext, record, [controllerAuthorizationId]⟩ := by
    simp only [keyOperationBinding, KeyOperationTarget.bundleId, h]
    rfl
  refine checkFinalize_eq_ok.mpr ⟨record, h, rfl, check_proofs, prepareKeyOperationAuthorization_eq_ok.mpr ?_⟩
  exact ⟨rfl, _, hbinding, rfl, _, verifyProof_eq_ok.mpr ⟨hverified, rfl⟩, rfl, rfl⟩

/-- The bundle is prepared. -/
def preparation : List Event :=
  [.keyLifecycle 0 (.addKey ⟨keyId, organizationId, .active⟩), .prepare 0 firstInput, .resume 0 (.stored firstResult)]

/-- The system in which the bundle is prepared. -/
def prepared (repository : Repository) : System := after externals (fun _ => config) repository preparation

theorem step_finalize (repository : Repository) :
    step externals (fun _ => config) (prepared repository) (.finalize 0 finalizeInput) =
      consumeValidatedProofs (prepared repository) 0 (.finalize finalizeInput 0) (finalizeNonces finalizeInput) request := by
  have hrecord : ((prepared repository).services 0).record bundleId = .ok (0, record) := rfl
  rw [step, check hrecord, startChecked]

end Sample

end Evidence
end Evllm
