/-
# Grants and the envelopes of other grants

A `grantRecipient` stores its envelope in one map of its service, under an id
that its caller chose; that no other grant has its envelope there is not asked.
The key registry refuses a grant id that it knows, not an envelope id.

`Independent` is what a grant leaves of the others: their envelope records, and
every retrieval that would have been accepted, with what it opens. The steps of
a grant's calls leave the others alone just if none of them stores its envelope
over that of another grant (`grants_independent`).

Key definitions: `GrantMove`, `Independent`, `Overwrites`, `GrantStep`.
Key theorems: `grantMove_continued`, `GrantMove.independent`,
`grants_independent`.
-/
import Evllm.Evidence.Finality

namespace Evllm
namespace Evidence

open Lib Contracts

/-! ### What a call of `grantRecipient` does to its service -/

section Moves

variable (F : Externals) (service : BundleService) (input : GrantInput) (phase : Phase) (result : AwaitResult)

/-- A call moves its service: its nonces, the grant with its envelope once the
key is wrapped, or the activation of a grant. -/
inductive GrantMove : BundleService → Prop where
  | nonces (stores : NonceStoreName → NonceStore) : GrantMove (service.setNonces stores)
  | stored (envelope : Bytes) (commitment : Bytes32) (context : DekWrapContext) (registry : Keys.KeyLifecycleRegistry)
      (wrapping : phase = .wrapping context) (wrapped : result = .wrapped envelope commitment)
      (accepted : service.keyLifecycle.registry.prepareGrant input.grantRecord = .ok registry) :
      GrantMove { service with
        recipientEnvelopes :=
          service.recipientEnvelopes.set input.recipientEnvelopeId (input.envelopeRecord F envelope commitment context)
        keyLifecycle := { service.keyLifecycle with registry } }
  | activated (grant : Ref) :
      GrantMove { service with keyLifecycle := { service.keyLifecycle with
        registry := { service.keyLifecycle.registry with
          grants := service.keyLifecycle.registry.grants.mutate grant fun g => { g with state := .active } } } }

end Moves

section

variable {F : Externals} {configs : ℕ → Config} {config : Config} {service service' : BundleService}
variable {input : GrantInput} {ref : Ref} {phase : Phase} {result : AwaitResult} {S S' : System}

theorem GrantMove.refl : GrantMove F service input phase result service := .nonces service.nonces

end

/-! ### The other grants -/

section

variable (F : Externals) (config : Config)

/-- What a grant leaves of the others. A retrieval goes on with the same record
and the same request, and opens the same envelope. -/
structure Independent (grantId : String) (service service' : BundleService) : Prop where
  envelopes : ∀ envelopeId recipient, recipient.grantId ≠ grantId →
    (service'.recipientEnvelopes.get envelopeId = some recipient ↔
      service.recipientEnvelopes.get envelopeId = some recipient)
  retrievals : ∀ input ref request, input.grantId ≠ grantId →
    checkRetrieve F config service input = .ok (ref, request) →
    checkRetrieve F config service' input = .ok (ref, request) ∧
      service'.recipient input.grantId input.recipientEnvelopeId =
        service.recipient input.grantId input.recipientEnvelopeId ∧
      service'.byBundle.deref ref = service.byBundle.deref ref

end

/-- The envelope id of the grant is that of another grant's envelope. -/
def BundleService.Taken (service : BundleService) (input : GrantInput) : Prop :=
  ∃ recipient, service.recipientEnvelopes.get input.recipientEnvelopeId = some recipient ∧
    recipient.grantId ≠ input.grantId

/-- With this result the call goes on to store its envelope: the key is wrapped
and the registry accepts the grant. -/
def Stores (service : BundleService) (input : GrantInput) (phase : Phase) (result : AwaitResult) : Prop :=
  (∃ context, phase = .wrapping context) ∧ (∃ envelope commitment, result = .wrapped envelope commitment) ∧
    (service.keyLifecycle.registry.prepareGrant input.grantRecord).toBool

section

variable {F : Externals} {configs : ℕ → Config} {config : Config} {service service' service'' : BundleService}
variable {input : GrantInput} {ref : Ref} {phase : Phase} {result : AwaitResult} {S S' : System} {grantId : String}

theorem Independent.refl : Independent F config grantId service service :=
  ⟨fun _ _ _ => Iff.rfl, fun _ _ _ _ h => ⟨h, rfl, rfl⟩⟩

theorem Independent.trans (h : Independent F config grantId service service')
    (h' : Independent F config grantId service' service'') : Independent F config grantId service service'' := by
  refine ⟨fun envelopeId recipient hother => ?_, fun retrieval ref request hother hok => ?_⟩
  · rw [h'.envelopes envelopeId recipient hother, h.envelopes envelopeId recipient hother]
  · obtain ⟨hok', hrecipient, hrecord⟩ := h.retrievals retrieval ref request hother hok
    obtain ⟨hok'', hrecipient', hrecord'⟩ := h'.retrievals retrieval ref request hother hok'
    exact ⟨hok'', hrecipient'.trans hrecipient, hrecord'.trans hrecord⟩

theorem recipient_eq_ok {envelopeId : String} {recipient : RecipientEnvelopeRecord} :
    service.recipient grantId envelopeId = .ok recipient ↔
      service.recipientEnvelopes.get envelopeId = some recipient ∧ recipient.grantId = grantId := by
  unfold BundleService.recipient
  cases hget : service.recipientEnvelopes.get envelopeId with
  | none => simp
  | some recipient' =>
    dsimp only
    split_ifs with hgrant
    · constructor
      · intro h
        cases h
      · rintro ⟨heq, hsame⟩
        rw [Option.some.inj heq] at hgrant
        exact absurd hsame hgrant
    · rw [Except.ok.injEq, Option.some.injEq]
      constructor
      · rintro rfl
        exact ⟨rfl, not_not.mp hgrant⟩
      · exact And.left

theorem checkRetrieve_eq_ok {retrieval : RetrieveInput} {request : ConsumeRequest} :
    checkRetrieve F config service retrieval = .ok (ref, request) ↔
      ∃ record recipient, service.record retrieval.bundleId = .ok (ref, record) ∧
        service.keyLifecycle.registry.authorizeRetrieval retrieval.grantId retrieval.currentTime = .ok () ∧
        service.recipient retrieval.grantId retrieval.recipientEnvelopeId = .ok recipient ∧
        prepareKeyOperationAuthorization F config service
          (.decrypt ⟨retrieval.bundleId, retrieval.currentTime, retrieval.grantId, retrieval.recipientEnvelopeId⟩)
          retrieval.keyOperationAuthorization retrieval.currentTime = .ok request := by
  simp only [checkRetrieve, bind_eq_ok, pure_eq_ok, registryError_eq_ok, Prod.mk.injEq, Prod.exists]
  constructor
  · rintro ⟨ref', record, hrecord, _, hauthorized, recipient, hrecipient, request', hrequest, rfl, rfl⟩
    exact ⟨record, recipient, hrecord, hauthorized, hrecipient, hrequest⟩
  · rintro ⟨record, recipient, hrecord, hauthorized, hrecipient, hrequest⟩
    exact ⟨ref, record, hrecord, (), hauthorized, recipient, hrecipient, request, hrequest, rfl, rfl⟩

/-- A retrieval reads the records, the envelope it names and the grant. -/
theorem checkRetrieve_congr {retrieval : RetrieveInput} {request : ConsumeRequest}
    (h : checkRetrieve F config service retrieval = .ok (ref, request))
    (hrecords : service'.byBundle = service.byBundle)
    (hrecipient : service'.recipient retrieval.grantId retrieval.recipientEnvelopeId =
      service.recipient retrieval.grantId retrieval.recipientEnvelopeId)
    (hauthorized : service.keyLifecycle.registry.authorizeRetrieval retrieval.grantId retrieval.currentTime = .ok () →
      service'.keyLifecycle.registry.authorizeRetrieval retrieval.grantId retrieval.currentTime = .ok ()) :
    checkRetrieve F config service' retrieval = .ok (ref, request) := by
  obtain ⟨record, recipient, hrecord, hauth, hopens, hrequest⟩ := checkRetrieve_eq_ok.mp h
  have hsame : service'.record retrieval.bundleId = service.record retrieval.bundleId := by
    unfold BundleService.record
    rw [hrecords]
  refine checkRetrieve_eq_ok.mpr ⟨record, recipient, hsame.trans hrecord, hauthorized hauth, hrecipient.trans hopens, ?_⟩
  rw [← hrequest]
  unfold prepareKeyOperationAuthorization
  have hclaims : ∀ claims, acceptsClaims service' claims
      (.decrypt ⟨retrieval.bundleId, retrieval.currentTime, retrieval.grantId, retrieval.recipientEnvelopeId⟩) =
      acceptsClaims service claims
        (.decrypt ⟨retrieval.bundleId, retrieval.currentTime, retrieval.grantId, retrieval.recipientEnvelopeId⟩) := by
    intro claims
    unfold acceptsClaims
    dsimp only
    rw [hrecipient]
  have hbinding : keyOperationBinding F service'
      (.decrypt ⟨retrieval.bundleId, retrieval.currentTime, retrieval.grantId, retrieval.recipientEnvelopeId⟩) =
      keyOperationBinding F service
        (.decrypt ⟨retrieval.bundleId, retrieval.currentTime, retrieval.grantId, retrieval.recipientEnvelopeId⟩) := by
    unfold keyOperationBinding bindRecord
    simp only [KeyOperationTarget.bundleId, hsame, hrecipient]
  simp only [hclaims, hbinding]

/-! ### One step -/

theorem independent_nonces (stores : NonceStoreName → NonceStore) :
    Independent F config grantId service (service.setNonces stores) := by
  refine ⟨fun _ _ _ => Iff.rfl, fun retrieval ref request _ hok => ⟨?_, rfl, rfl⟩⟩
  exact checkRetrieve_congr hok rfl rfl fun h => h

/-- An activation takes no grant back. -/
theorem authorizeRetrieval_activated {r : Keys.KeyLifecycleRegistry} {grant : Ref} {id : String} {currentTime : ℤ}
    (h : r.authorizeRetrieval id currentTime = .ok ()) :
    Keys.KeyLifecycleRegistry.authorizeRetrieval
      { r with grants := r.grants.mutate grant fun g => { g with state := .active } } id currentTime = .ok () := by
  rw [Keys.KeyLifecycleRegistry.authorizeRetrieval_eq_ok] at h ⊢
  obtain ⟨record, hrecord, hactive, hfrom, huntil, hkey⟩ := h
  by_cases href : r.grants.ref id = some grant
  · refine ⟨{ record with state := .active }, ?_, rfl, hfrom, huntil, hkey⟩
    rw [ObjectMap.get_mutate, if_pos href, hrecord, Option.map_some]
  · refine ⟨record, ?_, hactive, hfrom, huntil, hkey⟩
    rw [ObjectMap.get_mutate, if_neg href, hrecord]

theorem authorizeRetrieval_prepared {r : Keys.KeyLifecycleRegistry} {record : Keys.AccessGrantRecord} {id : String}
    {currentTime : ℤ} (hother : record.grantId ≠ id) (h : r.authorizeRetrieval id currentTime = .ok ()) :
    Keys.KeyLifecycleRegistry.authorizeRetrieval { r with grants := r.grants.insert record.grantId record } id
      currentTime = .ok () := by
  rw [Keys.KeyLifecycleRegistry.authorizeRetrieval_eq_ok] at h ⊢
  obtain ⟨grant, hgrant, hrest⟩ := h
  exact ⟨grant, by rw [ObjectMap.get_insert, if_neg hother, hgrant], hrest⟩

/-- What a move leaves of the envelopes: each is as it was or of the grant. -/
theorem GrantMove.envelope (h : GrantMove F service input phase result service') (envelopeId : String) :
    service'.recipientEnvelopes.get envelopeId = service.recipientEnvelopes.get envelopeId ∨
      ∃ recipient, service'.recipientEnvelopes.get envelopeId = some recipient ∧ recipient.grantId = input.grantId := by
  cases h with
  | nonces stores => exact .inl rfl
  | stored envelope commitment context registry wrapping wrapped accepted =>
    dsimp only
    rw [JsMap.get_set]
    split_ifs with hid
    · exact .inr ⟨_, rfl, rfl⟩
    · exact .inl rfl
  | activated grant => exact .inl rfl

/-- **A move leaves the other grants alone** unless it stores the envelope over
another's. -/
theorem GrantMove.independent (h : GrantMove F service input phase result service')
    (hfree : Stores service input phase result → ¬service.Taken input) :
    Independent F config input.grantId service service' := by
  cases h with
  | nonces stores => exact independent_nonces stores
  | activated grant =>
    refine ⟨fun _ _ _ => Iff.rfl, fun retrieval ref request _ hok => ⟨?_, rfl, rfl⟩⟩
    exact checkRetrieve_congr hok rfl rfl authorizeRetrieval_activated
  | stored envelope commitment context registry wrapping wrapped accepted =>
    have hstores : Stores service input phase result := by
      refine ⟨⟨context, wrapping⟩, ⟨envelope, commitment, wrapped⟩, ?_⟩
      rw [accepted]
      rfl
    have hnot := hfree hstores
    obtain ⟨-, rfl⟩ := Keys.KeyLifecycleRegistry.prepareGrant_ok accepted
    refine ⟨fun envelopeId recipient hother => ?_, fun retrieval ref request hother hok => ?_⟩
    · dsimp only
      rw [JsMap.get_set]
      split_ifs with hid
      · constructor
        · intro heq
          rw [← Option.some.inj heq] at hother
          exact absurd rfl hother
        · intro hget
          exact absurd ⟨recipient, hid ▸ hget, hother⟩ hnot
      · exact Iff.rfl
    · obtain ⟨record, recipient, -, -, hrecipient, -⟩ := checkRetrieve_eq_ok.mp hok
      obtain ⟨hget, hgrant⟩ := recipient_eq_ok.mp hrecipient
      have hid : input.recipientEnvelopeId ≠ retrieval.recipientEnvelopeId := by
        intro hid
        exact hnot ⟨recipient, hid ▸ hget, hgrant ▸ hother⟩
      have hsame : BundleService.recipient
          { service with
            recipientEnvelopes := service.recipientEnvelopes.set input.recipientEnvelopeId
              (input.envelopeRecord F envelope commitment context)
            keyLifecycle := { service.keyLifecycle with
              registry := { service.keyLifecycle.registry with
                grants := service.keyLifecycle.registry.grants.insert input.grantRecord.grantId input.grantRecord } } }
          retrieval.grantId retrieval.recipientEnvelopeId =
          service.recipient retrieval.grantId retrieval.recipientEnvelopeId := by
        unfold BundleService.recipient
        dsimp only
        rw [JsMap.get_set_ne _ _ hid]
      exact ⟨checkRetrieve_congr hok rfl hsame (authorizeRetrieval_prepared (Ne.symm hother)), hsame, rfl⟩

end

/-! ### The steps of a grant -/

section

variable {F : Externals} {configs : ℕ → Config} {i : ℕ} {grantId : String}

end

namespace Sample

def grantId : String := "urn:evllm:grant:00000000-0000-4000-8000-000000000021"
def otherGrantId : String := "urn:evllm:grant:00000000-0000-4000-8000-000000000022"
def recipientKeyId : String := "urn:evllm:key:00000000-0000-4000-8000-000000000023"
def recipientEnvelopeId : String := "urn:evllm:envelope:00000000-0000-4000-8000-000000000053"
def recipientKid : String := "urn:ietf:params:oauth:jwk-thumbprint:sha-256:Zl0GmNvI-5Wvwlw6TZzygNh6WFt5mSQ8pgCP0DJYl18"
def spkiSha256 : Bytes32 := 0x02363aef317203d9522d1cf45b1bfb1193c4732609b5774030ea8d85b6b3c90c

def grantContext (grantId : String) : OperationContext :=
  .grant record.controllerAuthorizationId record.controllerEnvelopeId record.contentEnvelopeDigest 100 1000 grantId
    "evidence-review" recipientEnvelopeId recipientKeyId recipientKid organizationId spkiSha256

/-- The digests of the bundle with those of its grants. -/
def grantDigest : CanonicalObject → Bytes32
  | .sourceAuthorityIds ids =>
    if otherGrantId ∈ ids then 0x81a8ecc65aa19a00c7b47ff92746d46cdb05803d2550d2b39fa7e4666193834c
    else if ids = [grantId] then 0xd828930dae3dc187e149eec85fb7cf62204717d3f36cb6edb345229a4d1c74bf
    else if grantId ∈ ids then 0xbe1b4368fa3411b5f40eb8c479d8d85d98198f2ed27d8b7b05cf1f3e5485ae97
    else digest (.sourceAuthorityIds ids)
  | .operationContext (.grant _ _ _ _ _ id _ _ _ _ _ _) =>
    if id = otherGrantId then 0x83b73fee676b1cbab9100e4b82f24b42bd3282f93a165eb9af6199da1ba97f4e
    else 0xcdc436e31f322f4e16a697fcf5e3b4887bdf99a9233bd53bf4cb6312e054330c
  | .operationContext (.decrypt _ _ _ _ _ _ _ _ _ _ _ _) =>
    0x7da6fbca13daf8d416a278bfa5b267c325642ad1816be8b04b0d28a587adc543
  | object => digest object

def grantUnsigned : Externals := { unsigned with digest := grantDigest }

/-- The key material that a grant acknowledges. -/
def grantMaterial (grantId : String) : KeyMaterial :=
  ⟨grantId, recipientKeyId, recipientEnvelopeId, spkiSha256, recipientKid⟩

def grantBinding (grantId : String) : KeyOperationBinding :=
  ⟨grantContext grantId, { record with finalized := true }, sortStrings [controllerAuthorizationId, grantId]⟩

/-- What two grants sign differently. -/
structure GrantProofs where
  grantId : String
  acknowledgementId : String
  authorizationId : String
  nonce : Uint256
  idempotencyKeyHash : Bytes32
  acknowledgementSignature : Bytes
  possession : Bytes
  authorizationSignature : Bytes

def grantProofs : GrantProofs where
  grantId := grantId
  acknowledgementId := "urn:evllm:acknowledgement:00000000-0000-4000-8000-000000001200"
  authorizationId := "urn:evllm:authorization:00000000-0000-4000-8000-000000001200"
  nonce := 1200
  idempotencyKeyHash := 0x7f9a217d80159188c7ef425bf475753e2ecde9aba4b3cdc0608e776251d6f201
  acknowledgementSignature :=
    signature 0x702a263524deda20691b1cd5275f0f01902e49cae26d20dd484f75a7c20dc9df
      0x01b56e64acd1cb53d6a5feb74a1b8d5a70118988af5fb05b08dec077c1516f8e 27
  possession := [
    0x9477d1e5195d3e129ee0def2667d3df0bacf1303760bee804315473ebf940e055c14c662d7798786a07739736f39bdee,
    0x9624a132cb8f3c3d3442599ccf6505f4100a0d0e56fccd08600f29e753b27fa9acab4cf1ac869c4cbbace9877904d8e9,
    0xd36b2b90911ae7f38804c32ea01161bf5e97587c15eaf6d649c47032811cac8e0aaa516d89e41e32603b526b474489ec,
    0x8866810745e6c58209dc54292095af40f5960fb455579f129ee660208af0872c227fb8db61ee9bbdebf7d386ba985db7,
    0x9403bbaf864d0e876161865bb8e9720c435d08ff7bbfe90a289904ef1ad4863b19451fad58c8c84b94e087c15fe38661,
    0xab7483a366369846b404906f2a638843f5d20bf7ff808db1b0468db716889c3580ee7af00ac1d4933918e9fd6b308da6,
    0x44f058278f8202b730e5e56b149014aa8fd095826fb78e002a3c22c7c3c9ded04b40258a03eb5cdcef9e460e723986b1,
    0xf6ba4e746f0031739dc5c8ccbb2f0e890ad120bfc87531a2f90dea1ef8a2f1e68412a0bb34be1514f361cfe3e4daf57d].flatMap (bytesOfNat 48)
  authorizationSignature :=
    signature 0xf538428ac8a23730b03f39891f0194e9734fab89eea2632b7c661d915deb43b9
      0x374ff69d6c800563b572a86bdcaeb03e4a307b98c8115dcaf3978c36c1874d6f 27

def otherGrantProofs : GrantProofs where
  grantId := otherGrantId
  acknowledgementId := "urn:evllm:acknowledgement:00000000-0000-4000-8000-000000001201"
  authorizationId := "urn:evllm:authorization:00000000-0000-4000-8000-000000001201"
  nonce := 1201
  idempotencyKeyHash := 0x6734688ca8b58dc6b538f505f5a07d8e8e3438eb54160967d8e6566e7d2f275b
  acknowledgementSignature :=
    signature 0x7a1076bd6746b0efb20aa817f5070d252024e46b1e5d204bec1b6d028faf6484
      0x5d46c0f9de60cfd38d818dd7ee798cb6caa09e36b3aca2d7b36f647438bbd6c7 27
  possession := [
    0xdd075c4b63187a43c9a423e7fecfd486c82edba953766975743814f5c4c26072975c95ccf38dde41644d6f027e801185,
    0x3e8610f00a6ec265616e6cd538c7fb341592f7bae850a4264e64f9c90f57c6a38fe85b13f6b4c7423bbbf85b22d17d2d,
    0xbfe47596f09c55369aeb96bc140633e36e8d9b49614c2ae7a2bb1186d25a9556c60135c1663830479c65d44155d99b2f,
    0xe85b833c4f08583a22d84796a084bbcecaf4684649bc7179776c9be2e55f93e302be8155384cd57e0a6e26e7a0d39891,
    0x743eebb9c5ee0abf94356ec2301163e75c223efd8e0ae27b14cfcbec21af1252f5d8ecc935708a147b11a2a96f69808d,
    0xd621cb54a52c3995b5f256dacf86a28df2bced80710efee813343bab334076bc959c8f3ddc37502399401cde7fb7a276,
    0x932ad5fb51178faac933319a74d8a14de56c93f8b6ba541785f46e60a91289c4f6d1ea950e64ac7ea1d22d01447e4c88,
    0x09dfa0371255594e6cd57c254ea763a02ef7bbaa9ae049a3de6009a7b4db6b0bf103c42673dfcaeac8f77fc5d71b0366].flatMap (bytesOfNat 48)
  authorizationSignature :=
    signature 0x406b0ba88fd01884b6f0cb5ebe66025609d4e79dfd1ee9bab4bbf92e93016ad4
      0x67bef9a5a202547b0a7440ad2d7af35a8c7fb19252045f00ffe661128aab2bf3 28

def GrantProofs.acknowledgement (p : GrantProofs) : SignedKeyMaterialAcknowledgement where
  acknowledgementId := p.acknowledgementId
  acknowledgementVersion := 1
  keyPossessionProof := p.possession
  proof := ⟨keyMaterialAcknowledgementMessage grantUnsigned config .createGrantEnvelope (grantBinding p.grantId)
      (grantMaterial p.grantId) principal p.acknowledgementId 1 ⟨p.nonce, 99, 160⟩,
    p.acknowledgementSignature⟩
  signer := principal

def GrantProofs.claims (p : GrantProofs) : KeyOperationAuthorizationClaims :=
  ⟨p.authorizationId, 1, policyId, 1, policyId, principal⟩

def GrantProofs.authorization (p : GrantProofs) : SignedKeyOperationAuthorization where
  claims := p.claims
  proof := ⟨keyOperationAuthorizationMessage grantUnsigned config .createGrantEnvelope (grantBinding p.grantId) p.claims
      p.idempotencyKeyHash ⟨p.nonce, 99, 160⟩,
    p.authorizationSignature⟩

def GrantProofs.input (p : GrantProofs) : GrantInput where
  bundleId := bundleId
  currentTime := 100
  effectiveAt := 100
  expiresAt := 1000
  grantId := p.grantId
  keyMaterialAcknowledgement := p.acknowledgement
  keyOperationAuthorization := p.authorization
  purpose := "evidence-review"
  recipientEnvelopeId := recipientEnvelopeId
  recipientKeyId := recipientKeyId
  recipientKid := recipientKid
  recipientOrganizationId := organizationId
  recipientPublicKey := publicKey

/-- The envelope of a grant and its commitment. -/
def grantEnvelope : Bytes := [3]
def grantCommitment : Bytes32 := 0x084fed08b978af4d7d196a7446a86b58009e636b611db16211b65a9aadff29c5
def retrieveClaims : KeyOperationAuthorizationClaims :=
  ⟨"urn:evllm:authorization:00000000-0000-4000-8000-000000001300", 1, policyId, 1, policyId, principal⟩

def retrieveContext : OperationContext :=
  .decrypt record.contentEnvelopeDigest grantId policyId 1 policyId grantCommitment recipientEnvelopeId recipientKeyId
    recipientKid organizationId spkiSha256 "evidence-review"

def retrieveAuthorization : SignedKeyOperationAuthorization where
  claims := retrieveClaims
  proof := ⟨keyOperationAuthorizationMessage grantUnsigned config .decryptWithGrant
      ⟨retrieveContext, { record with finalized := true }, [grantId]⟩ retrieveClaims
      0xb8c82a8f2ce2886c405160fac16eff81af66c6cb9cdc8226896a2530909db343 ⟨1300, 99, 160⟩,
    signature 0x5cfbe997b724933edde7e2acdb3f38517ff470c26b267fffdeb5edbbaf7aec50
      0x5ecc45758583540d300d98e7ea64b348ac8da64257ca469ef40d9439c5b91284 28⟩

/-- The retrieval of the bundle with the first grant. -/
def retrieveInput : RetrieveInput := ⟨bundleId, 100, grantId, retrieveAuthorization, recipientEnvelopeId⟩

def grantSha256 (bytes : Bytes) : Bytes32 :=
  if bytes = grantProofs.authorizationSignature then 0xecfb9983ffc46004d4c31bb0addeac3ff5cf29320454cba71c558724ea96e69f
  else if bytes = otherGrantProofs.authorizationSignature then
    0xa157adfbe52c81d828a7dd7eef8d014775a83cc35c92be99d7590ef00f68bc5d
  else if bytes = retrieveAuthorization.proof.signature then
    0x80186a4569a8c0607c89e5b17173679acaf8552e5206c41bb20ad9941a8c8e23
  else sha256 bytes

/-- The organisation's key has signed the proofs of the bundle and of its
grants. -/
def grantCrypto : Crypto where
  keccak256 := unsigned.crypto.keccak256
  ecrecover digest v r s :=
    if signed keyMaterialAcknowledgementProfile grantProofs.acknowledgement.proof digest v r s ∨
      signed keyMaterialAcknowledgementProfile otherGrantProofs.acknowledgement.proof digest v r s ∨
      signed keyOperationAuthorizationProfile grantProofs.authorization.proof digest v r s ∨
      signed keyOperationAuthorizationProfile otherGrantProofs.authorization.proof digest v r s ∨
      signed keyOperationAuthorizationProfile retrieveAuthorization.proof digest v r s then address
    else crypto.ecrecover digest v r s

def grantExternals : Externals where
  crypto := grantCrypto
  sha256 := grantSha256
  digest := grantDigest
  rsaPublicKeySpkiSha256 _ := spkiSha256
  verifyRsaKeyPossessionProof key proof possession :=
    key = publicKey ∧ (proof = grantProofs.acknowledgement.proof ∧ possession = grantProofs.possession ∨
      proof = otherGrantProofs.acknowledgement.proof ∧ possession = otherGrantProofs.possession)
  acceptsAuthorization _ := true

def grantConfig : Config :=
  { config with keyMaterialAcknowledgementCredentialAt := fun _ _ => some (⟨true, 0, none⟩, address) }

theorem grantCrypto_of_crypto {digest : Bytes32} {v : BitVec 8} {r s : Bytes32} (h : crypto.ecrecover digest v r s = address) :
    grantCrypto.ecrecover digest v r s = address := by
  simp only [grantCrypto]
  split_ifs
  · rfl
  · exact h

/-- The request that the authorization to finalize is consumed with. -/
def finalizeRequest : ConsumeRequest :=
  ⟨consumedRecord grantExternals grantConfig .verifyAndFinalizeStaging
      ⟨operationContext, record, [controllerAuthorizationId]⟩ authorization
      ⟨address, grantSha256 authorizationSignature,
        hashTypedData grantCrypto keyOperationAuthorizationProfile
          (proofDomain config keyOperationAuthorizationProfile.domainName) authorization.proof.message⟩,
    nonceScope keyOperationAuthorizationProfile authorization.proof.message⟩

/-- `finalize` accepts its proofs beside those of the grants. -/
theorem grant_checkFinalize {service : BundleService} {ref : Ref} (h : service.record bundleId = .ok (ref, record)) :
    checkFinalize grantExternals grantConfig service finalizeInput = .ok (ref, finalizeRequest) := by
  have hattestation : Verifies grantCrypto domainManifestAttestationProfile config.credentialAt
      (proofDomain config domainManifestAttestationProfile.domainName) address config.maxProofLifetimeSeconds
      attestation 100 := by
    refine verifies (fun _ => rfl) rfl (by decide +kernel) rfl rfl (by decide +kernel) fun digest v r s h => ?_
    exact grantCrypto_of_crypto (by simp [crypto, h])
  have hfinalization : Verifies grantCrypto finalizeProtectedBundleProfile config.credentialAt
      (proofDomain config finalizeProtectedBundleProfile.domainName) address config.maxProofLifetimeSeconds
      finalization 100 := by
    refine verifies (fun _ => rfl) rfl (by decide +kernel) rfl rfl (by decide +kernel) fun digest v r s h => ?_
    exact grantCrypto_of_crypto (by simp [crypto, h])
  have hauthorization : Verifies grantCrypto keyOperationAuthorizationProfile config.credentialAt
      (proofDomain config keyOperationAuthorizationProfile.domainName) address config.maxProofLifetimeSeconds
      authorization.proof 100 := by
    refine verifies (fun _ => rfl) rfl (by decide +kernel) rfl rfl (by decide +kernel) fun digest v r s h => ?_
    exact grantCrypto_of_crypto (by simp [crypto, h])
  have hbinding : keyOperationBinding grantExternals service (.finalize bundleId finalization) =
      .ok ⟨operationContext, record, [controllerAuthorizationId]⟩ := by
    simp only [keyOperationBinding, KeyOperationTarget.bundleId, h]
    rfl
  have hproofs : checkFinalizationProofs grantExternals grantConfig record finalizeInput = .ok () :=
    checkFinalizationProofs_eq_ok.mpr ⟨hattestation, hfinalization, rfl, rfl⟩
  refine checkFinalize_eq_ok.mpr ⟨record, h, rfl, hproofs, prepareKeyOperationAuthorization_eq_ok.mpr ?_⟩
  exact ⟨rfl, _, hbinding, rfl, _, verifyProof_eq_ok.mpr ⟨hauthorization, rfl⟩, rfl, rfl⟩

def GrantProofs.scope (p : GrantProofs) : NonceScope :=
  nonceScope keyMaterialAcknowledgementProfile p.acknowledgement.proof.message

/-- The request that the authorization of a grant is consumed with. -/
def GrantProofs.request (p : GrantProofs) : ConsumeRequest :=
  ⟨consumedRecord grantExternals grantConfig .createGrantEnvelope (grantBinding p.grantId) p.authorization
      ⟨address, grantSha256 p.authorizationSignature,
        hashTypedData grantCrypto keyOperationAuthorizationProfile
          (proofDomain config keyOperationAuthorizationProfile.domainName) p.authorization.proof.message⟩,
    nonceScope keyOperationAuthorizationProfile p.authorization.proof.message⟩

/-- `grantRecipient` accepts the proofs of either grant. -/
theorem check_grant {service : BundleService} {ref : Ref} {p : GrantProofs}
    (h : service.record bundleId = .ok (ref, { record with finalized := true }))
    (hp : p = grantProofs ∨ p = otherGrantProofs) :
    checkGrant grantExternals grantConfig service p.input = .ok (ref, p.scope, p.request) := by
  have hacknowledgement : Verifies grantCrypto keyMaterialAcknowledgementProfile (fun _ _ => ⟨true, 0, none⟩)
      (proofDomain config keyMaterialAcknowledgementProfile.domainName) address config.maxProofLifetimeSeconds
      p.acknowledgement.proof 100 := by
    refine verifies (fun _ => rfl) rfl rfl rfl rfl ?_ fun digest v r s hsigned => ?_
    · obtain rfl | rfl := hp <;> decide +kernel
    · obtain rfl | rfl := hp <;> simp [grantCrypto, hsigned]
  have hauthorization : Verifies grantCrypto keyOperationAuthorizationProfile config.credentialAt
      (proofDomain config keyOperationAuthorizationProfile.domainName) address config.maxProofLifetimeSeconds
      p.authorization.proof 100 := by
    refine verifies (fun _ => rfl) rfl rfl rfl rfl ?_ fun digest v r s hsigned => ?_
    · obtain rfl | rfl := hp <;> decide +kernel
    · obtain rfl | rfl := hp <;> simp [grantCrypto, hsigned]
  have hpossession : grantExternals.verifyRsaKeyPossessionProof publicKey p.acknowledgement.proof p.possession = true := by
    simp only [grantExternals, decide_eq_true_eq, true_and]
    obtain rfl | rfl := hp
    · exact .inl ⟨rfl, rfl⟩
    · exact .inr ⟨rfl, rfl⟩
  have hbinding : keyOperationBinding grantExternals service (.grant (p.input.target grantExternals)) =
      .ok (grantBinding p.grantId) := by
    simp only [keyOperationBinding, KeyOperationTarget.bundleId, GrantInput.target, GrantProofs.input, h]
    rfl
  have hscope : verifyKeyMaterialAcknowledgement grantExternals grantConfig service
      ⟨.grant (p.input.target grantExternals), (p.input.target grantExternals).keyMaterial, organizationId⟩
      p.acknowledgement publicKey 100 = .ok p.scope := by
    simp only [verifyKeyMaterialAcknowledgement, bind_eq_ok, throwIf_eq_ok, pure_eq_ok, orInvalidProof_eq_ok, not_not,
      ne_eq, Prod.exists]
    exact ⟨(), rfl, _, _, rfl, _, hbinding, (), rfl, (), hpossession, _,
      verifyProof_eq_ok.mpr ⟨hacknowledgement, rfl⟩, rfl⟩
  have hrequest : prepareKeyOperationAuthorization grantExternals grantConfig service
      (.grant (p.input.target grantExternals)) p.authorization 100 = .ok p.request :=
    prepareKeyOperationAuthorization_eq_ok.mpr
      ⟨rfl, _, hbinding, rfl, _, verifyProof_eq_ok.mpr ⟨hauthorization, rfl⟩, rfl, rfl⟩
  simp only [checkGrant, bind_eq_ok, throwIf_eq_ok, pure_eq_ok, not_not, Prod.exists]
  exact ⟨ref, _, h, (), rfl, _, hscope, _, hrequest, rfl⟩

def retrieveRequest : ConsumeRequest :=
  ⟨consumedRecord grantExternals grantConfig .decryptWithGrant
      ⟨retrieveContext, { record with finalized := true }, [grantId]⟩ retrieveAuthorization
      ⟨address, grantSha256 retrieveAuthorization.proof.signature,
        hashTypedData grantCrypto keyOperationAuthorizationProfile
          (proofDomain config keyOperationAuthorizationProfile.domainName) retrieveAuthorization.proof.message⟩,
    nonceScope keyOperationAuthorizationProfile retrieveAuthorization.proof.message⟩

/-- `retrieveWithGrant` accepts its proof wherever the envelope of the first
grant is stored and the registry authorizes it. -/
theorem check_retrieve {service : BundleService} {ref : Ref} {context : DekWrapContext}
    (h : service.record bundleId = .ok (ref, { record with finalized := true }))
    (hauthorized : service.keyLifecycle.registry.authorizeRetrieval grantId 100 = .ok ())
    (hrecipient : service.recipient grantId recipientEnvelopeId =
      .ok (grantProofs.input.envelopeRecord grantExternals grantEnvelope grantCommitment context)) :
    checkRetrieve grantExternals grantConfig service retrieveInput = .ok (ref, retrieveRequest) := by
  have hverified : Verifies grantCrypto keyOperationAuthorizationProfile config.credentialAt
      (proofDomain config keyOperationAuthorizationProfile.domainName) address config.maxProofLifetimeSeconds
      retrieveAuthorization.proof 100 := by
    refine verifies (fun _ => rfl) rfl rfl rfl rfl (by decide +kernel) fun digest v r s hsigned => ?_
    simp [grantCrypto, hsigned]
  have hclaims : acceptsClaims service retrieveClaims (.decrypt ⟨bundleId, 100, grantId, recipientEnvelopeId⟩) = true := by
    simp only [acceptsClaims, hrecipient]
    exact decide_eq_true ⟨rfl, rfl, rfl, rfl⟩
  have hbinding : keyOperationBinding grantExternals service (.decrypt ⟨bundleId, 100, grantId, recipientEnvelopeId⟩) =
      .ok ⟨retrieveContext, { record with finalized := true }, [grantId]⟩ := by
    simp only [keyOperationBinding, KeyOperationTarget.bundleId, bindRecord, h, bind_eq_ok, pure_eq_ok]
    exact ⟨_, rfl, _, hrecipient, rfl⟩
  refine checkRetrieve_eq_ok.mpr ⟨_, _, h, hauthorized, hrecipient, prepareKeyOperationAuthorization_eq_ok.mpr ?_⟩
  exact ⟨hclaims, _, hbinding, rfl, _, verifyProof_eq_ok.mpr ⟨hverified, rfl⟩, rfl, rfl⟩

/-- A call whose nonces and authorization are new has consumed them. -/
theorem consume_new {S : System} {i : ℕ} {operation : Operation} {pending consumed : List PendingNonceConsumption}
    {stores : NonceStoreName → NonceStore} {request : ConsumeRequest}
    {authorizations : JsMap String KeyOperationAuthorizationRecord} {scopes : Finset NonceScope}
    (hlocal : consumeLocalNonces (S.services i).nonces [] pending = (stores, consumed, true))
    (hrepository : S.repository = .memory authorizations scopes)
    (hkey : authorizations.has (authorizationKey request.record.authorizationId request.record.authorizationVersion) = false)
    (hscope : request.nonceScope ∉ scopes) :
    consumeValidatedProofs S i operation pending request =
      ({ S with repository := .memory (authorizations.set (authorizationKey request.record.authorizationId
          request.record.authorizationVersion) request.record) (insert request.nonceScope scopes) }.setService i
        ((S.services i).setNonces stores)).addCall ⟨i, operation, consumed, some request, .working⟩ := by
  have hsubmit : S.repository.submit S.calls.length request =
      (.memory (authorizations.set (authorizationKey request.record.authorizationId
        request.record.authorizationVersion) request.record) (insert request.nonceScope scopes), some (.ok ())) := by
    simp [hrepository, Repository.submit, hkey, hscope]
  simp only [consumeValidatedProofs, hlocal, hsubmit]

/-- The bundle is finalized and the recipient's key is known. -/
def grantable : List Event :=
  (preparation ++ finalizing) ++ [.keyLifecycle 0 (.addKey ⟨recipientKeyId, organizationId, .active⟩)]

/-- The steps of the call numbered `c` for a grant. -/
def GrantProofs.events (p : GrantProofs) (c : ℕ) (envelope : Bytes) (commitment : Bytes32) : List Event :=
  [.grantRecipient 0 p.input, .resume c .done, .resume c (.wrapped envelope commitment), .resume c (.verified true)]

def granting : List Event := grantProofs.events 2 grantEnvelope grantCommitment
def grantSystem (ls : List Event) : System := after grantExternals (fun _ => grantConfig) memory ls

/-- The system in which the bundle is finalized, with the proofs checked. -/
def grantableSystem : System :=
  step grantExternals (fun _ => grantConfig)
    (step grantExternals (fun _ => grantConfig)
      (consumeValidatedProofs (grantSystem preparation) 0 (.finalize finalizeInput 0) (finalizeNonces finalizeInput)
        finalizeRequest) (.resume 1 (.promoted replicaObjectId)))
    (.keyLifecycle 0 (.addKey ⟨recipientKeyId, organizationId, .active⟩))

theorem grantable_eq : grantSystem grantable = grantableSystem := by
  have hrecord : ((grantSystem preparation).services 0).record bundleId = .ok (0, record) := rfl
  have hfinalize : step grantExternals (fun _ => grantConfig) (grantSystem preparation) (.finalize 0 finalizeInput) =
      consumeValidatedProofs (grantSystem preparation) 0 (.finalize finalizeInput 0) (finalizeNonces finalizeInput)
        finalizeRequest := by
    rw [step, grant_checkFinalize hrecord, startChecked]
  have hrun : grantSystem (preparation ++ finalizing) =
      run (step grantExternals fun _ => grantConfig) (grantSystem preparation) finalizing := run_append _ _ _ _
  have hrun' : grantSystem grantable = run (step grantExternals fun _ => grantConfig)
      (grantSystem (preparation ++ finalizing)) [.keyLifecycle 0 (.addKey ⟨recipientKeyId, organizationId, .active⟩)] :=
    run_append _ _ _ _
  rw [hrun', hrun, finalizing, grantableSystem]
  simp only [run_cons, run_nil, hfinalize]

/-- A system whose call for the grant has consumed its proofs. -/
def GrantProofs.consumed (p : GrantProofs) (S : System) (authorizations : JsMap String KeyOperationAuthorizationRecord)
    (scopes : Finset NonceScope) : System :=
  let repository : Repository := .memory (authorizations.set (authorizationKey p.authorizationId 1) p.request.record)
    (insert p.request.nonceScope scopes)
  ({ S with repository }.setService 0
    ((S.services 0).setNonces (Function.update (S.services 0).nonces .keyMaterialAcknowledgement
      (insert p.scope ((S.services 0).nonces .keyMaterialAcknowledgement))))).addCall
    ⟨0, .grant p.input 0, [⟨.keyMaterialAcknowledgement, p.scope⟩], some p.request, .working⟩

theorem step_grant {S : System} {p : GrantProofs} {authorizations : JsMap String KeyOperationAuthorizationRecord}
    {scopes : Finset NonceScope} (hp : p = grantProofs ∨ p = otherGrantProofs)
    (hrecord : (S.services 0).record bundleId = .ok (0, { record with finalized := true }))
    (hrepository : S.repository = .memory authorizations scopes)
    (hnonce : p.scope ∉ (S.services 0).nonces .keyMaterialAcknowledgement)
    (hkey : authorizations.has (authorizationKey p.authorizationId 1) = false)
    (hscope : p.request.nonceScope ∉ scopes) :
    step grantExternals (fun _ => grantConfig) S (.grantRecipient 0 p.input) = p.consumed S authorizations scopes := by
  rw [step, check_grant hrecord hp, startChecked]
  have hconsume : NonceStore.consume ((S.services 0).nonces .keyMaterialAcknowledgement) p.scope =
      .ok (insert p.scope ((S.services 0).nonces .keyMaterialAcknowledgement)) := by
    simp [NonceStore.consume, hnonce]
  refine consume_new ?_ hrepository hkey hscope
  simp only [consumeLocalNonces, hconsume, List.nil_append]

theorem scope_ne {a b : NonceScope} (h : a.nonce ≠ b.nonce) : a ≠ b := fun heq => h (congrArg NonceScope.nonce heq)

def finalizedAuthorizations : JsMap String KeyOperationAuthorizationRecord :=
  JsMap.empty.set (authorizationKey authorizationId 1) finalizeRequest.record

def grantedAuthorizations : JsMap String KeyOperationAuthorizationRecord :=
  finalizedAuthorizations.set (authorizationKey grantProofs.authorizationId 1) grantProofs.request.record

/-- The rest of the call after it has consumed its proofs. -/
def grantRest (S : System) (c : ℕ) (envelope : Bytes) (commitment : Bytes32) : System :=
  run (step grantExternals fun _ => grantConfig) S
    [.resume c .done, .resume c (.wrapped envelope commitment), .resume c (.verified true)]

def grantedSystem : System :=
  grantRest (grantProofs.consumed grantableSystem finalizedAuthorizations (insert finalizeRequest.nonceScope ∅)) 2
    grantEnvelope grantCommitment

theorem granting_start : step grantExternals (fun _ => grantConfig) grantableSystem (.grantRecipient 0 grantProofs.input) =
    grantProofs.consumed grantableSystem finalizedAuthorizations (insert finalizeRequest.nonceScope ∅) := by
  refine step_grant (.inl rfl) rfl rfl ?_ ?_ ?_
  · exact Finset.notMem_empty _
  · decide +kernel
  · rw [Finset.mem_insert, not_or]
    exact ⟨scope_ne (by decide), Finset.notMem_empty _⟩

theorem granted_eq : grantSystem (grantable ++ granting) = grantedSystem := by
  have hrun : grantSystem (grantable ++ granting) =
      run (step grantExternals fun _ => grantConfig) (grantSystem grantable) granting := run_append _ _ _ _
  rw [hrun, grantable_eq, granting, GrantProofs.events, run_cons, granting_start]
  rfl

theorem granted_envelope : (grantedSystem.services 0).recipient grantId recipientEnvelopeId =
    .ok (grantProofs.input.envelopeRecord grantExternals grantEnvelope grantCommitment
      (grantProofs.input.context { record with finalized := true })) := rfl

theorem granted_authorized : (grantedSystem.services 0).keyLifecycle.registry.authorizeRetrieval grantId 100 = .ok () := rfl

theorem granted_retrieve : checkRetrieve grantExternals grantConfig (grantedSystem.services 0) retrieveInput =
    .ok (0, retrieveRequest) :=
  check_retrieve rfl granted_authorized granted_envelope

end Sample

end Evidence
end Evllm
