/-
# Finalized bundles on the chain

The service verifies the attestation of each bundle that it finalizes, and the
registry of protected bundles verifies the same attestation when it is
committed. On that the two sides agree: they hash the same bytes, and a proof
that the service accepts at a time is one that the registry accepts at that
time (`attested_commit_succeeds`). On the type of a bundle of evidence they do
not: the service hashes one text for it, the evidence registry another. So a
committed bundle is linked under a type that `activateEvidence` never asks for.

Key definitions: `DomainManifestAttestation.onChain`, `Committable`, `LinkedAsEvidence`.
Key theorems: `attestation_digest`, `attested_commit_succeeds`, `finalize_checked`,
`evidence_bundle_never_linked`.
-/
import Evllm.Contracts.Attestation
import Evllm.Contracts.EvidenceRegistry
import Evllm.Evidence.Finality

namespace Evllm
namespace Evidence

open Lib Contracts Function

/-! ### One attestation, two encodings -/

/-- The attestation as the registry is given it. -/
def DomainManifestAttestation.onChain (message : DomainManifestAttestation) : DomainAttestation where
  bundleId := message.bundleId
  bundleVersion := BitVec.ofNat 64 message.bundleVersion
  bundleType := message.bundleType
  domainResourceId := message.domainResourceId
  domainResourceVersion := BitVec.ofNat 64 message.domainResourceVersion
  authorBindingProfileId := message.authorBindingProfileId
  authorBindingProfileVersion := BitVec.ofNat 64 message.authorBindingProfileVersion
  domainPayloadCommitment := message.domainPayloadCommitment
  signerActorId := message.signerActorId
  signerOrgId := message.signerOrgId
  signerCredentialId := message.signerCredentialId
  nonce := message.nonce
  issuedAt := BitVec.ofNat 64 message.issuedAt
  expiresAt := BitVec.ofNat 64 message.expiresAt

/-- The registry that the service is configured with. -/
def Config.site (config : Config) : ProtectedBundleRegistry.Site :=
  ⟨BitVec.ofNat 256 config.chainId, config.protectedBundleRegistryAddress⟩

theorem toNat_of_safe {n : ℕ} (h : isPositiveSafeInteger n = true) : (BitVec.ofNat 64 n).toNat = n := by
  have hsafe : n ≤ 2 ^ 53 - 1 := (of_decide_eq_true h).2
  rw [BitVec.toNat_ofNat]
  omega

theorem setWidth_of_safe {n : ℕ} (h : isPositiveSafeInteger n = true) :
    (BitVec.ofNat 64 n).setWidth 256 = BitVec.ofNat 256 n := by
  apply BitVec.eq_of_toNat_eq
  rw [BitVec.toNat_setWidth, toNat_of_safe h, BitVec.toNat_ofNat]

/-- The two sides hash one type string. -/
theorem encodeType_attestation (message : DomainManifestAttestation) :
    encodeType domainManifestAttestationProfile.primaryType (domainManifestAttestationProfile.fields message) =
      domainAttestationType := by
  have hnames : ((domainManifestAttestationProfile.fields message).map fun field => (field.type, field.name)) =
      [(.bytes32, "bundleId"), (.uint64, "bundleVersion"), (.bytes32, "bundleType"), (.bytes32, "domainResourceId"),
        (.uint64, "domainResourceVersion"), (.bytes32, "authorBindingProfileId"),
        (.uint64, "authorBindingProfileVersion"), (.bytes32, "domainPayloadCommitment"), (.bytes32, "signerActorId"),
        (.bytes32, "signerOrgId"), (.bytes32, "signerCredentialId"), (.uint256, "nonce"), (.uint64, "issuedAt"),
        (.uint64, "expiresAt")] := rfl
  have htexts : ((domainManifestAttestationProfile.fields message).map fun field => field.type.text ++ " " ++ field.name) =
      ((domainManifestAttestationProfile.fields message).map fun field => (field.type, field.name)).map
        fun field => field.1.text ++ " " ++ field.2 := by
    rw [List.map_map]
    rfl
  unfold encodeType
  rw [htexts, hnames]
  decide +kernel

/-- The numbers of the attestation, once a schema has passed it. -/
structure SafeNumbers (message : DomainManifestAttestation) : Prop where
  bundleVersion : isPositiveSafeInteger message.bundleVersion = true
  domainResourceVersion : isPositiveSafeInteger message.domainResourceVersion = true
  authorBindingProfileVersion : isPositiveSafeInteger message.authorBindingProfileVersion = true
  issuedAt : isPositiveSafeInteger message.issuedAt = true
  expiresAt : isPositiveSafeInteger message.expiresAt = true

theorem safeNumbers_of_numbers {message : DomainManifestAttestation}
    (h : (domainManifestAttestationProfile.numbers message).all isPositiveSafeInteger = true) : SafeNumbers message := by
  simp only [domainManifestAttestationProfile, List.all_cons, List.all_nil, Bool.and_true, Bool.and_eq_true] at h
  obtain ⟨hbundle, hresource, hprofile, hissued, hexpires⟩ := h
  exact ⟨hbundle, hresource, hprofile, hissued, hexpires⟩

/-- The two sides write the same words, in the same order. -/
theorem words_attestation {message : DomainManifestAttestation} (h : SafeNumbers message) :
    (domainManifestAttestationProfile.fields message).map Field.value = message.onChain.words := by
  unfold DomainAttestation.words DomainManifestAttestation.onChain
  dsimp only
  rw [setWidth_of_safe h.bundleVersion, setWidth_of_safe h.domainResourceVersion,
    setWidth_of_safe h.authorBindingProfileVersion, setWidth_of_safe h.issuedAt, setWidth_of_safe h.expiresAt]
  rfl

/-- **The service and the registry hash the same bytes.** -/
theorem attestation_digest (crypto : Crypto) (config : Config) {message : DomainManifestAttestation}
    (h : SafeNumbers message) :
    ProtectedBundleRegistry.typedDataHash crypto (ProtectedBundleRegistry.domainSeparator crypto config.site)
        (ProtectedBundleRegistry.attestationStructHash crypto message.onChain) =
      hashTypedData crypto domainManifestAttestationProfile
        (proofDomain config domainManifestAttestationProfile.domainName) message := by
  unfold ProtectedBundleRegistry.typedDataHash hashTypedData ProtectedBundleRegistry.attestationStructHash hashStruct
  rw [encodeType_attestation, words_attestation h]
  rfl

/-! ### What the service accepts, the registry accepts -/

/-- The commit carries the attestation of the input and its signature, at the
time that the input names. -/
structure Submits (input : FinalizeInput) (msg : Msg) (submitted : ProtectedBundleRegistry.AttestedInput) : Prop where
  attestation : submitted.attestation = input.attestation.message.onChain
  signature : submitted.signature = input.attestation.signature
  time : msg.timestamp = input.now

/-- What the registry asks for besides a valid attestation: both credentials
are active on the chain, the nonce is unused and the keys are unbound. -/
structure Committable (authority : AuthorityProfileRegistry) (r : ProtectedBundleRegistry) (crypto : Crypto) (msg : Msg)
    (signer : Address) (submitted : ProtectedBundleRegistry.AttestedInput) : Prop where
  signer : authority.isCredentialActive submitted.attestation.signerCredentialId submitted.attestation.signerOrgId
    signer = true
  controller : authority.isCredentialActive submitted.controllerCredentialId submitted.controllerOrganizationId
    msg.sender = true
  unused : r.consumedAttestationNonces
    (ProtectedBundleRegistry.attestationNonceScope crypto submitted.attestation) = false
  unconfirmed : (r.commitments submitted.attestation.bundleId).confirmed = false
  unbound : r.bundleForDomain submitted.attestation.domainResourceId = 0

/-- Nothing that is committed is zero. -/
def Nonzero (input : ProtectedBundleRegistry.CommitInput) : Prop :=
  ¬(input.bundleKey = 0 ∨ input.domainKey = 0 ∨ input.controllerOrganizationId = 0 ∨ input.bundleType = 0 ∨
    input.domainPayloadCommitment = 0 ∨ input.contentEnvelopeDigest = 0 ∨ input.storedEnvelopeLength = 0 ∨
    input.replicaPolicyDigest = 0)

section Commit

variable {authority : AuthorityProfileRegistry} {r : ProtectedBundleRegistry} {crypto : Crypto} {msg : Msg}
  {submitted : ProtectedBundleRegistry.AttestedInput}

theorem commit_succeeds {input : ProtectedBundleRegistry.CommitInput} (hnonzero : Nonzero input)
    (hactive : authority.isOrganizationActive input.controllerOrganizationId = true)
    (hclass : input.initialCriticalityClass = .supplementary)
    (hconfirmed : (r.commitments input.bundleKey).confirmed = false) (hfree : r.bundleForDomain input.domainKey = 0) :
    ∃ r', r.commit authority msg input = .ok r' := by
  unfold ProtectedBundleRegistry.commit
  rw [throwIf_bind_of_not hnonzero, throwIf_bind_of_not (by simp [hactive]), throwIf_bind_of_not (by simp [hclass]),
    throwIf_bind_of_not (by simp [hconfirmed, hfree])]
  exact ⟨_, rfl⟩

/-- A canonical signature recovers on the chain to the signer it recovers to
in the service. -/
theorem ecdsaRecover_of_canonical {digest : Bytes32} {signature : Bytes} {signer : Address}
    (hcanonical : isCanonicalSignature signature = true)
    (hsigner : recoverAddress crypto digest signature = .ok signer) :
    ecdsaRecover crypto digest signature = .ok signer := by
  obtain ⟨hlength, -, -, hlow, -⟩ := of_decide_eq_true hcanonical
  unfold recoverAddress signatureV signatureR signatureS at hsigner
  dsimp only at hsigner
  split_ifs at hsigner with hzero
  have haddress := Except.ok.inj hsigner
  unfold ecdsaRecover
  dsimp only
  unfold signatureS at hlow
  rw [throwIf_bind_of_not (by simp [hlength]), throwIf_bind_of_not (by omega), throwIf_bind_of_not hzero]
  exact congrArg Except.ok haddress

/-- The registry's window contains the times that the service's contains. -/
theorem window_onChain {message : DomainManifestAttestation} {time : ℕ} (hnumbers : SafeNumbers message)
    (hordered : message.issuedAt < message.expiresAt)
    (hwindow : withinWindow domainManifestAttestationProfile message time = true) :
    ¬(message.onChain.bundleVersion = 0 ∨ message.onChain.domainResourceVersion = 0 ∨
      message.onChain.expiresAt ≤ message.onChain.issuedAt ∨ time < message.onChain.issuedAt.toNat ∨
      message.onChain.expiresAt.toNat < time) := by
  have hpositive : ∀ n, isPositiveSafeInteger n = true → BitVec.ofNat 64 n ≠ 0 := by
    intro n hn hzero
    have htoNat := toNat_of_safe hn
    rw [hzero] at htoNat
    exact absurd (of_decide_eq_true hn).1 (by simp [← htoNat])
  obtain ⟨hissued, hexpires⟩ : message.issuedAt ≤ time ∧ time ≤ message.expiresAt := of_decide_eq_true hwindow
  have hissuedAt : message.onChain.issuedAt.toNat = message.issuedAt := toNat_of_safe hnumbers.issuedAt
  have hexpiresAt : message.onChain.expiresAt.toNat = message.expiresAt := toNat_of_safe hnumbers.expiresAt
  rw [BitVec.le_def, hissuedAt, hexpiresAt]
  rintro (h | h | h | h | h)
  · exact hpositive _ hnumbers.bundleVersion h
  · exact hpositive _ hnumbers.domainResourceVersion h
  · omega
  · omega
  · omega

/-- **What the service accepts the registry accepts**, where the rest of the
commit is in order. -/
theorem attested_commit_succeeds {config : Config} {input : FinalizeInput}
    (hverifies : Verifies crypto domainManifestAttestationProfile config.credentialAt
      (proofDomain config domainManifestAttestationProfile.domainName) input.authorAddress
      config.maxProofLifetimeSeconds input.attestation input.now)
    (hsubmits : Submits input msg submitted)
    (hready : Committable authority r crypto msg input.authorAddress submitted)
    (hnonzero : Nonzero submitted.toCommitInput) :
    ∃ r', r.commitAttestedProtectedBundle authority msg crypto config.site submitted = .ok r' := by
  have hnumbers := safeNumbers_of_numbers hverifies.numbers
  have hrecovered : ecdsaRecover crypto
      (ProtectedBundleRegistry.typedDataHash crypto (ProtectedBundleRegistry.domainSeparator crypto config.site)
        (ProtectedBundleRegistry.attestationStructHash crypto submitted.attestation)) submitted.signature =
      .ok input.authorAddress := by
    rw [hsubmits.attestation, hsubmits.signature, attestation_digest crypto config hnumbers]
    exact ecdsaRecover_of_canonical hverifies.canonical hverifies.signer
  have hwindow := window_onChain hnumbers hverifies.ordered hverifies.window
  rw [← hsubmits.attestation, ← hsubmits.time] at hwindow
  have horganization : authority.isOrganizationActive submitted.controllerOrganizationId = true := by
    have hcontroller := hready.controller
    simp only [AuthorityProfileRegistry.isCredentialActive, Bool.and_eq_true] at hcontroller
    exact hcontroller.2
  unfold ProtectedBundleRegistry.commitAttestedProtectedBundle
  dsimp only
  rw [throwIf_bind_of_not hwindow, hrecovered]
  dsimp only [bind, Except.bind]
  rw [throwIf_of_not (by simp [hready.signer]), throwIf_of_not (by simp [hready.controller]),
    throwIf_of_not (by simp [hready.unused])]
  exact commit_succeeds hnonzero horganization rfl hready.unconfirmed hready.unbound

end Commit

/-! ### What `finalize` has checked -/

section Checked

variable {F : Externals} {configs : ℕ → Config} {S : System}

/-- A call of `finalize` has passed the check of its proofs. -/
def Call.Checked (F : Externals) (configs : ℕ → Config) (a : Call) : Prop :=
  ∀ input ref, a.operation = .finalize input ref →
    ∃ record, checkFinalizationProofs F (configs a.service) record input = .ok ()

theorem checked_other {a : Call} (h : ∀ input ref, a.operation ≠ .finalize input ref) : a.Checked F configs :=
  fun input ref heq => absurd heq (h input ref)

/-- Every call of `finalize` has. -/
def CallsChecked (F : Externals) (configs : ℕ → Config) (S : System) : Prop := ∀ a ∈ S.calls, a.Checked F configs

theorem CallsChecked.addCall {a : Call} {services : ℕ → BundleService} {repository : Repository}
    (h : CallsChecked F configs S) (ha : a.Checked F configs) :
    CallsChecked F configs ⟨services, repository, S.calls ++ [a]⟩ := by
  intro x hx
  rcases List.mem_append.mp hx with hold | hnew
  · exact h x hold
  · rw [List.mem_singleton.mp hnew]
    exact ha

theorem CallsChecked.setCall {c : ℕ} {a b : Call} {services : ℕ → BundleService} {repository : Repository}
    (h : CallsChecked F configs S) (hc : S.calls[c]? = some a) (hservice : b.service = a.service)
    (hoperation : b.operation = a.operation) : CallsChecked F configs ⟨services, repository, S.calls.set c b⟩ := by
  intro x hx
  rcases List.mem_or_eq_of_mem_set hx with hold | rfl
  · exact h x hold
  · intro input ref heq
    rw [hservice]
    exact h a (List.mem_of_getElem? hc) input ref (hoperation.symm.trans heq)

theorem CallsChecked.consumeValidatedProofs (h : CallsChecked F configs S) (i : ℕ) {operation : Operation}
    (hchecked : ∀ nonces request phase, Call.Checked F configs ⟨i, operation, nonces, request, phase⟩)
    (localNonces : List PendingNonceConsumption) (request : ConsumeRequest) :
    CallsChecked F configs (consumeValidatedProofs S i operation localNonces request) := by
  unfold Evidence.consumeValidatedProofs
  dsimp only
  split
  · exact h.addCall (hchecked _ _ _)
  · split
    · exact h.addCall (hchecked _ _ _)
    · exact h.addCall (hchecked _ _ _)
    · exact h.addCall (hchecked _ _ _)

theorem CallsChecked.startChecked {α : Type} {checked : Except ServiceError α} {operation : α → Operation}
    {localNonces : α → List PendingNonceConsumption} {request : α → ConsumeRequest} (h : CallsChecked F configs S)
    (i : ℕ)
    (hok : ∀ x, checked = .ok x →
      ∀ nonces request phase, Call.Checked F configs ⟨i, operation x, nonces, request, phase⟩) :
    CallsChecked F configs (startChecked S i checked operation localNonces request) := by
  unfold Evidence.startChecked
  split
  · exact h
  · exact h.consumeValidatedProofs i (hok _ rfl) _ _

theorem CallsChecked.resumeCall {c : ℕ} {a : Call} (h : CallsChecked F configs S) (hc : S.calls[c]? = some a)
    (result : AwaitResult) : CallsChecked F configs (resumeCall F configs S c a result) := by
  unfold Evidence.resumeCall
  split
  · exact h.setCall hc rfl rfl
  · exact h
  · exact h
  · exact h
  · exact h.setCall hc rfl rfl

theorem CallsChecked.step (h : CallsChecked F configs S) (event : Event) :
    CallsChecked F configs (step F configs S event) := by
  cases event with
  | prepare i input =>
    simp only [Evidence.step, startPrepare]
    split_ifs
    · exact h.addCall (checked_other (by simp))
    · split
      · exact h.addCall (checked_other (by simp))
      · exact h.addCall (checked_other (by simp))
  | finalize i input =>
    refine h.startChecked i ?_
    rintro ⟨ref, request⟩ hcheck nonces _ phase _ _ ⟨⟩
    obtain ⟨record, -, -, hproofs, -⟩ := checkFinalize_eq_ok.mp hcheck
    exact ⟨record, hproofs⟩
  | rotateControllerEnvelope i input => exact h.startChecked i fun _ _ _ _ _ => checked_other (by simp)
  | grantRecipient i input => exact h.startChecked i fun _ _ _ _ _ => checked_other (by simp)
  | retrieveWithGrant i input => exact h.startChecked i fun _ _ _ _ _ => checked_other (by simp)
  | promoteToDecisionCritical i bundleId replicaObjectId =>
    simp only [Evidence.step, startPromote]
    split
    · exact h
    · split_ifs
      · exact h
      · exact h.addCall (checked_other (by simp))
  | repository event =>
    simp only [Evidence.step, stepRepository]
    obtain hsame | ⟨c, a, result, -, hc, -, hset⟩ :=
      settleCall_cases { S with repository := (S.repository.step event).1 } (S.repository.step event).2
    · rw [hsame]
      exact h
    · rw [hset]
      exact h.setCall hc rfl rfl
  | resume c result =>
    rcases hc : S.calls[c]? with _ | a
    · simp only [Evidence.step, hc]
      exact h
    · simp only [Evidence.step, hc]
      exact h.resumeCall hc result
  | keyLifecycle i event => exact h

/-- In every run, whatever the repository, the proofs of each call of `finalize`
have been checked. -/
theorem finalize_checked (F : Externals) (configs : ℕ → Config) (repository : Repository) (ls : List Event) :
    CallsChecked F configs (after F configs repository ls) := by
  refine run_invariant (I := CallsChecked F configs) (fun S event h => h.step event) ls ?_
  intro a ha
  cases ha

end Checked

/-! ### The type of a bundle of evidence -/

/-- The commit succeeds, and the bundle is then linked as evidence: with this
`activateEvidence` accepts it. -/
def LinkedAsEvidence (crypto : Crypto) (site : ProtectedBundleRegistry.Site) (authority : AuthorityProfileRegistry)
    (r : ProtectedBundleRegistry) (msg : Msg) (submitted : ProtectedBundleRegistry.AttestedInput)
    (message : DomainManifestAttestation) : Prop :=
  ∃ r', r.commitAttestedProtectedBundle authority msg crypto site submitted = .ok r' ∧
    r'.isConfirmedLink message.bundleId message.domainResourceId (EvidenceRegistry.evidenceBundleType crypto)
      message.domainPayloadCommitment false = true

section Types

variable {crypto : Crypto} {site : ProtectedBundleRegistry.Site} {authority : AuthorityProfileRegistry}
  {r r' : ProtectedBundleRegistry} {msg : Msg} {submitted : ProtectedBundleRegistry.AttestedInput}
  {input : FinalizeInput}

/-- The bundle of the attestation has the commitment. -/
theorem committed_bundle (hsubmits : Submits input msg submitted)
    (h : r.commitAttestedProtectedBundle authority msg crypto site submitted = .ok r') :
    r'.commitments input.attestation.message.bundleId = submitted.toCommitInput.commitment msg.sender := by
  have hcommitment := (attested_ok h).2.commitment
  rw [hsubmits.attestation] at hcommitment
  exact hcommitment

/-- A committed bundle is linked, under the type that the attestation names. -/
theorem linked_of_commit (hsubmits : Submits input msg submitted)
    (h : r.commitAttestedProtectedBundle authority msg crypto site submitted = .ok r') (bundleType : Bytes32) :
    r'.isConfirmedLink input.attestation.message.bundleId input.attestation.message.domainResourceId bundleType
      input.attestation.message.domainPayloadCommitment false =
        decide (input.attestation.message.bundleType = bundleType) := by
  unfold ProtectedBundleRegistry.isConfirmedLink
  dsimp only
  rw [committed_bundle hsubmits h]
  simp [ProtectedBundleRegistry.CommitInput.commitment, ProtectedBundleRegistry.AttestedInput.toCommitInput,
    hsubmits.attestation, DomainManifestAttestation.onChain]

theorem not_linkedAsEvidence (hsubmits : Submits input msg submitted)
    (htype : input.attestation.message.bundleType ≠ EvidenceRegistry.evidenceBundleType crypto) :
    ¬LinkedAsEvidence crypto site authority r msg submitted input.attestation.message := by
  rintro ⟨r', hcommit, hlink⟩
  rw [linked_of_commit hsubmits hcommit, decide_eq_true_eq] at hlink
  exact htype hlink

theorem activateEvidence_asks {e e' : EvidenceRegistry} {activation : EvidenceRegistry.ActivateInput}
    (h : e.activateEvidence crypto authority r msg activation = .ok e') :
    (r.commitments activation.bundleKey).bundleType = EvidenceRegistry.evidenceBundleType crypto := by
  simp only [EvidenceRegistry.activateEvidence, bind_eq_ok, throwIf_eq_ok, Bool.not_eq_false] at h
  obtain ⟨_, _, _, _, _, _, _, hlink, -⟩ := h
  simp only [ProtectedBundleRegistry.isConfirmedLink, Bool.and_eq_true, decide_eq_true_eq] at hlink
  exact hlink.1.1.2

end Types

/-- **No bundle that `finalize` accepts is ever linked as evidence**: in every
run of the services, for every call of `finalize` whose proofs were accepted,
the attestation that was verified can be committed, where the rest of the commit
is in order, and links the bundle under the type it names; but the type is not
the one of the evidence registry, which refuses to activate the bundle. Keccak-256
does not take the two texts to one word. -/
theorem evidence_bundle_never_linked (F : Externals) (configs : ℕ → Config) (repository : Repository) (ls : List Event)
    (htypes : bundleTypeHash F ≠ EvidenceRegistry.evidenceBundleType F.crypto) {a : Call}
    (ha : a ∈ (after F configs repository ls).calls) {input : FinalizeInput} {ref : Ref}
    (hfinalize : a.operation = .finalize input ref) (authority : AuthorityProfileRegistry) (r : ProtectedBundleRegistry)
    {msg : Msg} {submitted : ProtectedBundleRegistry.AttestedInput} (hsubmits : Submits input msg submitted) :
    ¬LinkedAsEvidence F.crypto (configs a.service).site authority r msg submitted input.attestation.message ∧
    (Committable authority r F.crypto msg input.authorAddress submitted → Nonzero submitted.toCommitInput →
      ∃ r', r.commitAttestedProtectedBundle authority msg F.crypto (configs a.service).site submitted = .ok r' ∧
        r'.isConfirmedLink input.attestation.message.bundleId input.attestation.message.domainResourceId
          input.attestation.message.bundleType input.attestation.message.domainPayloadCommitment false = true) ∧
    ∀ r', r.commitAttestedProtectedBundle authority msg F.crypto (configs a.service).site submitted = .ok r' →
      ∀ (e e' : EvidenceRegistry) (authority' : AuthorityProfileRegistry) (msg' : Msg)
        (activation : EvidenceRegistry.ActivateInput), activation.bundleKey = input.attestation.message.bundleId →
        e.activateEvidence F.crypto authority' r' msg' activation ≠ .ok e' := by
  obtain ⟨record, hproofs⟩ := finalize_checked F configs repository ls a ha input ref hfinalize
  obtain ⟨hverifies, -, hmessage, -⟩ := checkFinalizationProofs_eq_ok.mp hproofs
  have htype : input.attestation.message.bundleType ≠ EvidenceRegistry.evidenceBundleType F.crypto := by
    rw [hmessage]
    exact htypes
  refine ⟨not_linkedAsEvidence hsubmits htype, fun hready hnonzero => ?_,
    fun r' hcommit e e' authority' msg' activation hkey hok => ?_⟩
  · obtain ⟨r', hcommit⟩ := attested_commit_succeeds hverifies hsubmits hready hnonzero
    exact ⟨r', hcommit, by rw [linked_of_commit hsubmits hcommit, decide_eq_true_eq]⟩
  · have hasked := activateEvidence_asks hok
    rw [hkey, committed_bundle hsubmits hcommit] at hasked
    have hcommitted : submitted.attestation.bundleType = EvidenceRegistry.evidenceBundleType F.crypto := hasked
    rw [hsubmits.attestation] at hcommitted
    exact htype hcommitted

/-! ### A bundle that is finalized and committed -/

namespace Sample

def organizationHash : Bytes32 := idHash unsigned organizationId
def credentialHash : Bytes32 := idHash unsigned credentialId

/-- The organisation is active on the chain, and its credential is that of its account. -/
def authority : AuthorityProfileRegistry :=
  { AuthorityProfileRegistry.deployed 9 with
    organizationStatus := update (fun _ => .unregistered) organizationHash .active
    credentials := update (fun _ => ⟨0, 0, false, false⟩) credentialHash ⟨organizationHash, address, true, false⟩ }

/-- The commit that the finalized bundle is for. -/
def submitted : ProtectedBundleRegistry.AttestedInput where
  attestation := attestation.message.onChain
  signature := attestationSignature
  controllerOrganizationId := organizationHash
  controllerCredentialId := credentialHash
  contentEnvelopeDigest := firstResult.contentEnvelopeDigest
  storedEnvelopeLength := 18
  replicaPolicyDigest := digest (.replicaPolicy replicaRepositoryId)

theorem submits : Submits finalizeInput ⟨address, 100⟩ submitted := ⟨rfl, rfl, rfl⟩

theorem types_differ : bundleTypeHash unsigned ≠ EvidenceRegistry.evidenceBundleType unsigned.crypto := by
  decide +kernel

theorem credential_active : authority.isCredentialActive credentialHash organizationHash address = true := by
  simp [authority, AuthorityProfileRegistry.isCredentialActive]

theorem committable : Committable authority (.deployed 9) externals.crypto ⟨address, 100⟩ address submitted where
  signer := credential_active
  controller := credential_active
  unused := rfl
  unconfirmed := rfl
  unbound := rfl

theorem finished_call : finished.calls[1]? = some ⟨0, .finalize finalizeInput 0, finalizeNonces finalizeInput,
    some request, .returned⟩ := by
  rw [finished_eq]
  rfl

end Sample

open Sample in
/-- Here `finalize` has returned, the registry is ready, and the bundle is not
linked as evidence. -/
theorem finalized_bundle_unlinked :
    finished.calls[1]? = some ⟨0, .finalize finalizeInput 0, finalizeNonces finalizeInput, some request, .returned⟩ ∧
    Submits finalizeInput ⟨address, 100⟩ submitted ∧
    Committable authority (.deployed 9) externals.crypto ⟨address, 100⟩ finalizeInput.authorAddress submitted ∧
    ¬LinkedAsEvidence externals.crypto config.site authority (.deployed 9) ⟨address, 100⟩ submitted
      finalizeInput.attestation.message :=
  ⟨finished_call, submits, committable, not_linkedAsEvidence submits types_differ⟩

open Sample in
theorem evidence_bundle_never_linked_finished :
    ¬LinkedAsEvidence externals.crypto config.site authority (.deployed 9) ⟨address, 100⟩ submitted
      finalizeInput.attestation.message := by
  have hcall := List.mem_of_getElem? finished_call
  exact (evidence_bundle_never_linked externals (fun _ => config) memory (Sample.preparation ++ finalizing)
    types_differ hcall rfl authority (.deployed 9) submits).1

end Evidence
end Evllm
