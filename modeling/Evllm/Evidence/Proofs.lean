/-
# Signed proofs

`src/schemas/eip712.ts` and `src/protected-bundles/signatures/eip712.ts`: the
messages that actors sign as typed data, their profiles (the field order and
the field types of the struct that is hashed), `verifyProtectedProof`, and the
store of used nonces.

A message is a record of 32-byte words and numbers; a number is what
`positiveSafeInteger` accepts once `parseMessage` has passed it.

Key definitions: `Profile`, `hashTypedData`, `verifyProtectedProof`,
`NonceStore`.
-/
import Evllm.Contracts.Solidity
import Mathlib.Data.Finset.Basic

namespace Evllm
namespace Evidence

open Lib Contracts

/-! ### Typed data -/

inductive FieldType where
  | bytes32
  | uint64
  | uint256
  | address
  deriving DecidableEq, Repr

def FieldType.text : FieldType → String
  | .bytes32 => "bytes32"
  | .uint64 => "uint64"
  | .uint256 => "uint256"
  | .address => "address"

/-- A field of a typed-data struct with its value as a word. -/
structure Field where
  name : String
  type : FieldType
  value : Bytes32

/-- A profile of `eip712Profiles`, for the messages `μ`. -/
structure Profile (μ : Type) where
  domainName : String
  primaryType : String
  fields : μ → List Field
  /-- The fields that the schema parses as `positiveSafeInteger`. -/
  numbers : μ → List ℕ
  /-- The field that `credentialField` names. -/
  credentialId : μ → Bytes32
  nonce : μ → Uint256
  issuedAt : μ → ℕ
  expiresAt : μ → ℕ
  /-- A proof of this type has expired when its last second is reached. -/
  expiresOnLastSecond : Bool

def bytes32Field (name : String) (value : Bytes32) : Field := ⟨name, .bytes32, value⟩

def uint64Field (name : String) (value : ℕ) : Field := ⟨name, .uint64, BitVec.ofNat 256 value⟩

def uint256Field (name : String) (value : Uint256) : Field := ⟨name, .uint256, value⟩

def addressField (name : String) (value : Address) : Field := ⟨name, .address, value.setWidth 256⟩

/-- The type string of a struct: `Name(type field,type field,...)`. -/
def encodeType (primaryType : String) (fields : List Field) : String :=
  primaryType ++ "(" ++ ",".intercalate (fields.map fun field => field.type.text ++ " " ++ field.name) ++ ")"

def hashStruct (crypto : Crypto) (primaryType : String) (fields : List Field) : Bytes32 :=
  crypto.keccak256 (abiEncode (crypto.hashText (encodeType primaryType fields) :: fields.map Field.value))

/-- The domain `{ name, version: "1", chainId, verifyingContract }`. -/
structure ProofDomain where
  name : String
  chainId : ℕ
  verifyingContract : Address

/-- The separator of a domain: its four fields as a struct, the texts hashed. -/
def hashDomain (crypto : Crypto) (domain : ProofDomain) : Bytes32 :=
  crypto.keccak256 (abiEncode
    [crypto.hashText "EIP712Domain(string name,string version,uint256 chainId,address verifyingContract)",
      crypto.hashText domain.name, crypto.hashText "1", BitVec.ofNat 256 domain.chainId,
      domain.verifyingContract.setWidth 256])

/-- `TypedDataEncoder.hash`. -/
def hashTypedData {μ : Type} (crypto : Crypto) (profile : Profile μ) (domain : ProofDomain) (message : μ) : Bytes32 :=
  crypto.keccak256 ([0x19, 0x01] ++ wordBytes (hashDomain crypto domain) ++
    wordBytes (hashStruct crypto profile.primaryType (profile.fields message)))

/-! ### Messages -/

structure BundleFields where
  bundleId : Bytes32
  bundleVersion : ℕ
  bundleType : Bytes32
  domainResourceId : Bytes32
  domainResourceVersion : ℕ
  deriving DecidableEq, Repr

structure ProofWindow where
  nonce : Uint256
  issuedAt : ℕ
  expiresAt : ℕ
  deriving DecidableEq, Repr

structure DomainManifestAttestation extends BundleFields, ProofWindow where
  authorBindingProfileId : Bytes32
  authorBindingProfileVersion : ℕ
  domainPayloadCommitment : Bytes32
  signerActorId : Bytes32
  signerOrgId : Bytes32
  signerCredentialId : Bytes32
  deriving DecidableEq, Repr

structure FinalizeProtectedBundle extends BundleFields, ProofWindow where
  commandId : Bytes32
  stagingDescriptorDigest : Bytes32
  domainManifestEnvelopeDigest : Bytes32
  controllerActorId : Bytes32
  controllerOrgId : Bytes32
  controllerCredentialId : Bytes32
  contentCommitment : Bytes32
  contentEnvelopeDigest : Bytes32
  storedEnvelopeLength : ℕ
  contentSchemaBindingDigest : Bytes32
  encryptionProfileId : Bytes32
  encryptionProfileVersion : ℕ
  criticalityProfileId : Bytes32
  criticalityProfileVersion : ℕ
  initialCriticalityClass : Bytes32
  replicaPolicyDigest : Bytes32
  idempotencyKeyHash : Bytes32
  deriving DecidableEq, Repr

structure KeyOperationAuthorizationMessage extends BundleFields, ProofWindow where
  authorizationId : Bytes32
  authorizationVersion : ℕ
  issuerServiceActorId : Bytes32
  issuerServiceOrgId : Bytes32
  issuerServiceCredentialId : Bytes32
  issuerServiceAddress : Address
  repositoryId : Bytes32
  operation : Bytes32
  requestingActorId : Bytes32
  requestingOrgId : Bytes32
  requestingCredentialId : Bytes32
  purposeId : Bytes32
  policyId : Bytes32
  policyVersion : ℕ
  sourceAuthorityDigest : Bytes32
  operationContextDigest : Bytes32
  idempotencyKeyHash : Bytes32
  deriving DecidableEq, Repr

structure KeyMaterialAcknowledgementMessage extends BundleFields, ProofWindow where
  acknowledgementId : Bytes32
  acknowledgementVersion : ℕ
  signerActorId : Bytes32
  signerOrgId : Bytes32
  signerCredentialId : Bytes32
  repositoryId : Bytes32
  operation : Bytes32
  authorityId : Bytes32
  envelopeId : Bytes32
  encryptionKeyId : Bytes32
  recipientKid : Bytes32
  publicKeySpkiSha256 : Bytes32
  operationContextDigest : Bytes32
  deriving DecidableEq, Repr

/-- `bundleFields` of the profiles. -/
def bundleFields (m : BundleFields) : List Field :=
  [bytes32Field "bundleId" m.bundleId, uint64Field "bundleVersion" m.bundleVersion,
    bytes32Field "bundleType" m.bundleType, bytes32Field "domainResourceId" m.domainResourceId,
    uint64Field "domainResourceVersion" m.domainResourceVersion]

/-- `proofWindow` of the profiles. -/
def proofWindow (m : ProofWindow) : List Field :=
  [uint256Field "nonce" m.nonce, uint64Field "issuedAt" m.issuedAt, uint64Field "expiresAt" m.expiresAt]

def domainManifestAttestationProfile : Profile DomainManifestAttestation where
  domainName := "EVLLM Domain Manifest"
  primaryType := "DomainManifestAttestation"
  fields m := bundleFields m.toBundleFields ++
    [bytes32Field "authorBindingProfileId" m.authorBindingProfileId,
      uint64Field "authorBindingProfileVersion" m.authorBindingProfileVersion,
      bytes32Field "domainPayloadCommitment" m.domainPayloadCommitment,
      bytes32Field "signerActorId" m.signerActorId, bytes32Field "signerOrgId" m.signerOrgId,
      bytes32Field "signerCredentialId" m.signerCredentialId] ++ proofWindow m.toProofWindow
  numbers m := [m.bundleVersion, m.domainResourceVersion, m.authorBindingProfileVersion, m.issuedAt, m.expiresAt]
  credentialId m := m.signerCredentialId
  nonce m := m.nonce
  issuedAt m := m.issuedAt
  expiresAt m := m.expiresAt
  expiresOnLastSecond := false

def finalizeProtectedBundleProfile : Profile FinalizeProtectedBundle where
  domainName := "EVLLM Protected Bundle Command"
  primaryType := "FinalizeProtectedBundle"
  fields m := [bytes32Field "commandId" m.commandId, bytes32Field "stagingDescriptorDigest" m.stagingDescriptorDigest,
      bytes32Field "domainManifestEnvelopeDigest" m.domainManifestEnvelopeDigest] ++ bundleFields m.toBundleFields ++
    [bytes32Field "controllerActorId" m.controllerActorId, bytes32Field "controllerOrgId" m.controllerOrgId,
      bytes32Field "controllerCredentialId" m.controllerCredentialId,
      bytes32Field "contentCommitment" m.contentCommitment,
      bytes32Field "contentEnvelopeDigest" m.contentEnvelopeDigest,
      uint64Field "storedEnvelopeLength" m.storedEnvelopeLength,
      bytes32Field "contentSchemaBindingDigest" m.contentSchemaBindingDigest,
      bytes32Field "encryptionProfileId" m.encryptionProfileId,
      uint64Field "encryptionProfileVersion" m.encryptionProfileVersion,
      bytes32Field "criticalityProfileId" m.criticalityProfileId,
      uint64Field "criticalityProfileVersion" m.criticalityProfileVersion,
      bytes32Field "initialCriticalityClass" m.initialCriticalityClass,
      bytes32Field "replicaPolicyDigest" m.replicaPolicyDigest] ++ proofWindow m.toProofWindow ++
    [bytes32Field "idempotencyKeyHash" m.idempotencyKeyHash]
  numbers m := [m.bundleVersion, m.domainResourceVersion, m.storedEnvelopeLength, m.encryptionProfileVersion,
    m.criticalityProfileVersion, m.issuedAt, m.expiresAt]
  credentialId m := m.controllerCredentialId
  nonce m := m.nonce
  issuedAt m := m.issuedAt
  expiresAt m := m.expiresAt
  expiresOnLastSecond := false

def keyOperationAuthorizationProfile : Profile KeyOperationAuthorizationMessage where
  domainName := "EVLLM Key Operation Authorization"
  primaryType := "KeyOperationAuthorization"
  fields m := [bytes32Field "authorizationId" m.authorizationId,
      uint64Field "authorizationVersion" m.authorizationVersion,
      bytes32Field "issuerServiceActorId" m.issuerServiceActorId,
      bytes32Field "issuerServiceOrgId" m.issuerServiceOrgId,
      bytes32Field "issuerServiceCredentialId" m.issuerServiceCredentialId,
      addressField "issuerServiceAddress" m.issuerServiceAddress, bytes32Field "repositoryId" m.repositoryId,
      bytes32Field "operation" m.operation, bytes32Field "requestingActorId" m.requestingActorId,
      bytes32Field "requestingOrgId" m.requestingOrgId,
      bytes32Field "requestingCredentialId" m.requestingCredentialId] ++ bundleFields m.toBundleFields ++
    [bytes32Field "purposeId" m.purposeId, bytes32Field "policyId" m.policyId,
      uint64Field "policyVersion" m.policyVersion, bytes32Field "sourceAuthorityDigest" m.sourceAuthorityDigest,
      bytes32Field "operationContextDigest" m.operationContextDigest] ++ proofWindow m.toProofWindow ++
    [bytes32Field "idempotencyKeyHash" m.idempotencyKeyHash]
  numbers m := [m.authorizationVersion, m.bundleVersion, m.domainResourceVersion, m.policyVersion, m.issuedAt, m.expiresAt]
  credentialId m := m.issuerServiceCredentialId
  nonce m := m.nonce
  issuedAt m := m.issuedAt
  expiresAt m := m.expiresAt
  expiresOnLastSecond := true

def keyMaterialAcknowledgementProfile : Profile KeyMaterialAcknowledgementMessage where
  domainName := "EVLLM Key Material Acknowledgement"
  primaryType := "KeyMaterialAcknowledgement"
  fields m := [bytes32Field "acknowledgementId" m.acknowledgementId,
      uint64Field "acknowledgementVersion" m.acknowledgementVersion, bytes32Field "signerActorId" m.signerActorId,
      bytes32Field "signerOrgId" m.signerOrgId, bytes32Field "signerCredentialId" m.signerCredentialId,
      bytes32Field "repositoryId" m.repositoryId, bytes32Field "operation" m.operation] ++
    bundleFields m.toBundleFields ++
    [bytes32Field "authorityId" m.authorityId, bytes32Field "envelopeId" m.envelopeId,
      bytes32Field "encryptionKeyId" m.encryptionKeyId, bytes32Field "recipientKid" m.recipientKid,
      bytes32Field "publicKeySpkiSha256" m.publicKeySpkiSha256,
      bytes32Field "operationContextDigest" m.operationContextDigest] ++ proofWindow m.toProofWindow
  numbers m := [m.acknowledgementVersion, m.bundleVersion, m.domainResourceVersion, m.issuedAt, m.expiresAt]
  credentialId m := m.signerCredentialId
  nonce m := m.nonce
  issuedAt m := m.issuedAt
  expiresAt m := m.expiresAt
  expiresOnLastSecond := true

/-! ### Verification -/

structure SignedProof (μ : Type) where
  message : μ
  signature : Bytes
  deriving DecidableEq, Repr

structure CredentialAcceptance where
  active : Bool
  validFrom : ℕ
  validUntil : Option ℕ

/-- The codes of `SignatureVerificationError`, and the error of a schema. -/
inductive SignatureError where
  | authority
  | domain
  | expiry
  | replay
  | signature
  | schema
  deriving DecidableEq, Repr

structure VerifiedProof where
  recoveredAddress : Address
  signatureDigest : Bytes32
  typedDataDigest : Bytes32

/-- `Number.MAX_SAFE_INTEGER`. -/
def maxSafeInteger : ℕ := 2 ^ 53 - 1

/-- What `positiveSafeInteger` accepts. -/
def isPositiveSafeInteger (n : ℕ) : Bool := 0 < n ∧ n ≤ maxSafeInteger

def signatureR (signature : Bytes) : Bytes32 := BitVec.ofNat 256 (natOfBytes (signature.take 32))
def signatureS (signature : Bytes) : Bytes32 := BitVec.ofNat 256 (natOfBytes ((signature.drop 32).take 32))
def signatureV (signature : Bytes) : BitVec 8 := BitVec.ofNat 8 (natOfBytes (signature.drop 64))

/-- `validateCanonicalSignature` accepts: 65 bytes, `r` and `s` not zero, `s` in
the lower half of the order, `v` 27 or 28. -/
def isCanonicalSignature (signature : Bytes) : Bool :=
  signature.length = 65 ∧ signatureR signature ≠ 0 ∧ signatureS signature ≠ 0 ∧
    (signatureS signature).toNat ≤ secp256k1HalfN ∧ (signatureV signature = 27 ∨ signatureV signature = 28)

/-- The time window of a proof contains `time`. -/
def withinWindow {μ : Type} (profile : Profile μ) (message : μ) (time : ℕ) : Bool :=
  profile.issuedAt message ≤ time ∧
    (if profile.expiresOnLastSecond then time < profile.expiresAt message else time ≤ profile.expiresAt message)

def acceptsCredential (credential : CredentialAcceptance) (time : ℕ) : Bool :=
  credential.active ∧ credential.validFrom ≤ time ∧ credential.validUntil.all (time ≤ ·)

/-- `verifyTypedData(...)`: ethers throws where the curve has no such point. -/
def recoverAddress (crypto : Crypto) (digest : Bytes32) (signature : Bytes) : Except SignatureError Address :=
  let address := crypto.ecrecover digest (signatureV signature) (signatureR signature) (signatureS signature)
  if address = 0 then .error .signature else .ok address

/-- `verifyProtectedProof`, in a mode that does not consume the nonce, at the
evaluation time `time`. `sha256` is the digest of the signature's bytes. -/
def verifyProtectedProof {μ : Type} (crypto : Crypto) (sha256 : Bytes → Bytes32) (profile : Profile μ)
    (credentialAt : Bytes32 → ℕ → CredentialAcceptance) (domain : ProofDomain) (expectedSignerAddress : Address)
    (maxLifetimeSeconds : ℕ) (proof : SignedProof μ) (time : ℕ) : Except SignatureError VerifiedProof := do
  let message := proof.message
  throwIf (domain.name ≠ profile.domainName) SignatureError.domain
  throwIf (¬isPositiveSafeInteger domain.chainId) SignatureError.schema
  throwIf (¬(profile.numbers message).all isPositiveSafeInteger) SignatureError.schema
  throwIf (profile.expiresAt message ≤ profile.issuedAt message ∨
    maxLifetimeSeconds < profile.expiresAt message - profile.issuedAt message ∨ maxLifetimeSeconds = 0)
    SignatureError.expiry
  throwIf (¬withinWindow profile message time) SignatureError.expiry
  throwIf (¬acceptsCredential (credentialAt (profile.credentialId message) time) time) SignatureError.authority
  throwIf (¬isCanonicalSignature proof.signature) SignatureError.signature
  let digest := hashTypedData crypto profile domain message
  let recovered ← recoverAddress crypto digest proof.signature
  throwIf (recovered ≠ expectedSignerAddress) SignatureError.signature
  return ⟨recovered, sha256 proof.signature, digest⟩

/-- What `verifyProtectedProof` accepts. -/
structure Verifies {μ : Type} (crypto : Crypto) (profile : Profile μ) (credentialAt : Bytes32 → ℕ → CredentialAcceptance)
    (domain : ProofDomain) (signer : Address) (maxLifetimeSeconds : ℕ) (proof : SignedProof μ) (time : ℕ) : Prop where
  name : domain.name = profile.domainName
  chainId : isPositiveSafeInteger domain.chainId
  numbers : (profile.numbers proof.message).all isPositiveSafeInteger
  ordered : profile.issuedAt proof.message < profile.expiresAt proof.message
  lifetime : profile.expiresAt proof.message - profile.issuedAt proof.message ≤ maxLifetimeSeconds
  positive : maxLifetimeSeconds ≠ 0
  window : withinWindow profile proof.message time
  credential : acceptsCredential (credentialAt (profile.credentialId proof.message) time) time
  canonical : isCanonicalSignature proof.signature
  signer : recoverAddress crypto (hashTypedData crypto profile domain proof.message) proof.signature = .ok signer

theorem verifyProtectedProof_eq_ok {μ : Type} {crypto : Crypto} {sha256 : Bytes → Bytes32} {profile : Profile μ}
    {credentialAt : Bytes32 → ℕ → CredentialAcceptance} {domain : ProofDomain} {signer : Address}
    {maxLifetimeSeconds : ℕ} {proof : SignedProof μ} {time : ℕ} {verified : VerifiedProof} :
    verifyProtectedProof crypto sha256 profile credentialAt domain signer maxLifetimeSeconds proof time = .ok verified ↔
      Verifies crypto profile credentialAt domain signer maxLifetimeSeconds proof time ∧
        verified = ⟨signer, sha256 proof.signature, hashTypedData crypto profile domain proof.message⟩ := by
  simp only [verifyProtectedProof, bind_eq_ok, throwIf_eq_ok, pure_eq_ok, not_not, not_or, ne_eq, not_le, not_lt]
  constructor
  · rintro ⟨-, hname, -, hchain, -, hnumbers, -, ⟨hordered, hlifetime, hpositive⟩, -, hwindow, -, hcredential, -,
      hcanonical, recovered, hrecovered, -, rfl, rfl⟩
    exact ⟨⟨hname, hchain, hnumbers, hordered, hlifetime, hpositive, hwindow, hcredential, hcanonical, hrecovered⟩, rfl⟩
  · rintro ⟨h, rfl⟩
    exact ⟨(), h.name, (), h.chainId, (), h.numbers, (), ⟨h.ordered, h.lifetime, h.positive⟩, (), h.window, (),
      h.credential, (), h.canonical, signer, h.signer, (), rfl, rfl⟩

/-! ### Nonces -/

/-- `${type}:${credentialId}:${nonce}`. -/
structure NonceScope where
  type : String
  credentialId : Bytes32
  nonce : Uint256
  deriving DecidableEq, Repr

def nonceScope {μ : Type} (profile : Profile μ) (message : μ) : NonceScope :=
  ⟨profile.primaryType, profile.credentialId message, profile.nonce message⟩

abbrev NonceStore := Finset NonceScope

namespace NonceStore

def consume (store : NonceStore) (scope : NonceScope) : Except SignatureError NonceStore :=
  if scope ∈ store then .error .replay else .ok (insert scope store)

def rollback (store : NonceStore) (scope : NonceScope) : NonceStore := store.erase scope

end NonceStore

end Evidence
end Evllm
