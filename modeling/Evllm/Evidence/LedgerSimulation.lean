/-
# The ledger and the registry

The evidence ledger keeps the versions of a claim in an array that it searches,
the registry contract in a counter and a mapping, and they guard their calls
differently. Both keep what `ClaimVersions` says, and change it alike, so a run
of activations and revocations that is sent to both is accepted and refused by
both alike, and leaves them in agreement (`Agree`).

The contract asks for more than the ledger does: who sends the call, and which
bundle backs the version. So a call here is one that meets what the contract
asks of its sender (`Sent`). Everything else may happen at either side at any
time.

Key definitions: `claimOf`, `Joint`, `Sent`, `Agree`.
Key theorems: `activateEvidence_iff`, `revokeEvidence_iff`, `step_related`,
`ledger_simulates_registry`.
-/
import Evllm.Contracts.EvidenceLinks
import Evllm.Evidence.EvidenceLedger
import Mathlib.Data.Set.Function

namespace Evllm
namespace Evidence

open Lib Function Contracts Contracts.EvidenceRegistry

/-! ### The versions in the contract -/

/-- What the ledger calls a status of the contract. -/
def lifecycle : EvidenceStatus → Option EvidenceLifecycle
  | .unset => none
  | .active => some .active
  | .superseded => some .superseded
  | .revoked => some .revoked

/-- The versions of a claim in the contract. -/
def claimOf (r : EvidenceRegistry) (claimKey : Bytes32) : ClaimVersions where
  current := (r.currentVersion claimKey).toNat
  revoked := decide (0 < (r.currentVersion claimKey).toNat ∧
    (r.evidenceVersions claimKey (r.currentVersion claimKey)).status = .revoked)
  ended h := (of_decide_eq_true h).1

/-- Every claim's versions are a chain. -/
def ChainsOf (r : EvidenceRegistry) : Prop :=
  ∀ claimKey, VersionChain (r.currentVersion claimKey) (r.evidenceVersions claimKey)

variable {r r' : EvidenceRegistry} {claimKey : Bytes32}

theorem status_claimOf (h : ChainsOf r) (claimKey : Bytes32) (version : Uint64) :
    lifecycle (r.evidenceVersions claimKey version).status = (claimOf r claimKey).status version.toNat := by
  have hchain := h claimKey
  unfold ClaimVersions.status claimOf
  dsimp only
  by_cases hset : version.toNat = 0 ∨ (r.currentVersion claimKey).toNat < version.toNat
  · rw [if_pos hset, (hchain.unset version).mpr hset]
    rfl
  · rw [if_neg hset]
    by_cases hlt : version.toNat < (r.currentVersion claimKey).toNat
    · rw [if_pos hlt, hchain.superseded version (by omega) hlt]
      rfl
    · have hcurrent : version = r.currentVersion claimKey := BitVec.eq_of_toNat_eq (by omega)
      have hpos : 0 < (r.currentVersion claimKey).toNat := by omega
      rw [if_neg hlt, hcurrent]
      obtain hactive | hrevoked := hchain.current hpos
      · simp [hactive, lifecycle]
      · simp [hrevoked, hpos, lifecycle]

theorem active_claimOf (h : ChainsOf r) {version : Uint64} :
    (claimOf r claimKey).status version.toNat = some .active ↔ (r.evidenceVersions claimKey version).status = .active := by
  rw [← status_claimOf h claimKey version]
  cases (r.evidenceVersions claimKey version).status <;> simp [lifecycle]

/-- A current version that is not revoked is active. -/
theorem current_active (h : ChainsOf r) (hpos : 0 < (r.currentVersion claimKey).toNat)
    (hrevoked : (claimOf r claimKey).revoked = false) :
    (r.evidenceVersions claimKey (r.currentVersion claimKey)).status = .active := by
  rw [← active_claimOf h, ClaimVersions.status_eq_active]
  exact ⟨hpos, rfl, hrevoked⟩

/-! ### What the contract accepts -/

/-- The claim whose versions a call changes. -/
def claimKey? : EvidenceOp → Option Bytes32
  | .activateEvidence input => some input.claimKey
  | .revokeEvidence claimKey _ => some claimKey
  | _ => none

section Calls

variable {crypto : Crypto} {authority : AuthorityProfileRegistry} {bundles : ProtectedBundleRegistry} {msg : Msg}

theorem claimOf_congr (hcurrent : r'.currentVersion claimKey = r.currentVersion claimKey)
    (hversions : r'.evidenceVersions claimKey = r.evidenceVersions claimKey) :
    claimOf r' claimKey = claimOf r claimKey := by
  unfold claimOf
  simp only [hcurrent, hversions]

/-- A call changes the versions of its own claim only. -/
theorem claimOf_other {op : EvidenceOp} (h : EvidenceChange crypto bundles msg r op r')
    (hother : claimKey? op ≠ some claimKey) : claimOf r' claimKey = claimOf r claimKey := by
  cases h with
  | first input =>
    have hne : claimKey ≠ input.claimKey := fun heq => hother (congrArg some heq.symm)
    exact claimOf_congr (update_of_ne hne _ _) (update_of_ne hne _ _)
  | next input =>
    have hne : claimKey ≠ input.claimKey := fun heq => hother (congrArg some heq.symm)
    refine claimOf_congr (update_of_ne hne _ _) ?_
    simp only [activated, emit, setStatus, setVersion, update_of_ne hne]
  | revoked key version =>
    have hne : claimKey ≠ key := fun heq => hother (congrArg some heq.symm)
    exact claimOf_congr rfl (update_of_ne hne _ _)
  | asserted => rfl
  | withdrawn => rfl
  | disputeOpened => rfl
  | disputeChanged => rfl
  | disputeClosed => rfl

/-- The activated version is the last one, and active. -/
theorem claimOf_activated {input : ActivateInput} :
    (claimOf (r.activated input msg.sender) input.claimKey).current = input.version.toNat ∧
      (claimOf (r.activated input msg.sender) input.claimKey).revoked = false := by
  simp [claimOf, activated, emit, setVersion, ActivateInput.record]

theorem activateEvidence_claim {input : ActivateInput}
    (hok : r.activateEvidence crypto authority bundles msg input = .ok r') :
    (claimOf r input.claimKey).activate input.version.toNat input.expectedPriorVersion.toNat =
      some (claimOf r' input.claimKey) := by
  have hexpected : r.currentVersion input.claimKey = input.expectedPriorVersion := by
    simp only [activateEvidence, bind_eq_ok, throwIf_eq_ok, not_not] at hok
    obtain ⟨_, _, _, _, _, _, _, _, _, _, _, hprior, _⟩ := hok
    exact hprior
  rw [ClaimVersions.activate_eq_some, ← hexpected]
  cases activate_change hok with
  | first _ none version unset link =>
    have hone : input.version.toNat = 1 := by
      rw [version]
      rfl
    refine ⟨rfl, ?_, ?_, claimOf_activated⟩
    · rw [hone, none]
      rfl
    · simp [claimOf, none]
  | next _ prior active version unset link =>
    refine ⟨rfl, version, ?_, claimOf_activated⟩
    simp [claimOf, active]

theorem revokeEvidence_claim {version : Uint64} (h : ChainsOf r)
    (hok : r.revokeEvidence msg claimKey version = .ok r') :
    (claimOf r claimKey).revoke version.toNat = some (claimOf r' claimKey) := by
  simp only [revokeEvidence, bind_eq_ok, throwIf_eq_ok, pure_eq_ok, not_or, not_not] at hok
  obtain ⟨_, ⟨hstatus, hcurrent⟩, _, _, rfl⟩ := hok
  have hactive := (active_claimOf h).mpr hstatus
  have hpos := (ClaimVersions.status_eq_active.mp hactive).1
  rw [ClaimVersions.revoke_eq_some]
  refine ⟨hactive, ?_, ?_⟩
  · simp [claimOf, emit, setStatus, setVersion, hcurrent]
  · simp [claimOf, emit, setStatus, setVersion, hcurrent, hpos]

/-- The contract's checks of an activation that are not about the versions of
the claim: its identifiers, the sender and the bundle. -/
structure Authorised (crypto : Crypto) (authority : AuthorityProfileRegistry) (bundles : ProtectedBundleRegistry)
    (msg : Msg) (input : ActivateInput) : Prop where
  credential : authority.isCredentialActive input.issuerCredentialId input.issuerOrganizationId msg.sender = true
  capability : authority.hasCapability input.issuerCredentialId (issueCapability crypto) input.claimKey
    msg.timestamp64 = true
  link : bundles.isConfirmedLink input.bundleKey input.domainKey (evidenceBundleType crypto) input.payloadCommitment
    false = true

/-- The identifiers that a confirmed link and an active credential are under. -/
structure Identified (input : ActivateInput) : Prop where
  claimKey : input.claimKey ≠ 0
  bundleKey : input.bundleKey ≠ 0
  domainKey : input.domainKey ≠ 0
  payloadCommitment : input.payloadCommitment ≠ 0
  issuerOrganizationId : input.issuerOrganizationId ≠ 0
  issuerCredentialId : input.issuerCredentialId ≠ 0

/-- An authorised activation is accepted just where the claim's versions allow
it. -/
theorem activateEvidence_iff {input : ActivateInput} (h : ChainsOf r) (hids : Identified input)
    (hauthorised : Authorised crypto authority bundles msg input) :
    (∃ r', r.activateEvidence crypto authority bundles msg input = .ok r') ↔
      ∃ c, (claimOf r input.claimKey).activate input.version.toNat input.expectedPriorVersion.toNat = some c := by
  constructor
  · rintro ⟨r', hok⟩
    exact ⟨_, activateEvidence_claim hok⟩
  · rintro ⟨c, hc⟩
    obtain ⟨hprior, hversion, hrevoked, -⟩ := ClaimVersions.activate_eq_some.mp hc
    have hcurrent : r.currentVersion input.claimKey = input.expectedPriorVersion := BitVec.eq_of_toNat_eq hprior
    have hnonzero : input.version ≠ 0 := by
      intro hzero
      rw [hzero] at hversion
      cases hversion
    have hunset : (r.evidenceVersions input.claimKey input.version).status = .unset := by
      rw [(h input.claimKey).unset, hcurrent]
      omega
    have hadd : checkedAdd (r.currentVersion input.claimKey) 1 = .ok input.version := by
      have hone : (1 : Uint64).toNat = 1 := rfl
      have hlt := input.version.isLt
      unfold checkedAdd
      rw [hcurrent, if_pos (by omega), Except.ok.injEq]
      apply BitVec.eq_of_toNat_eq
      rw [BitVec.toNat_add, hone, ← hversion, Nat.mod_eq_of_lt hlt]
    obtain ⟨superseded, hsuperseded⟩ : ∃ superseded, EvidenceRegistry.supersede r input.claimKey
        (r.currentVersion input.claimKey) input.version = .ok superseded := by
      unfold EvidenceRegistry.supersede
      split_ifs with hzero
      · have hpos : 0 < (r.currentVersion input.claimKey).toNat := Nat.pos_of_ne_zero (toNat_ne hzero)
        simp only [bind_eq_ok, throwIf_eq_ok, pure_eq_ok, not_not]
        exact ⟨_, ⟨⟩, current_active h hpos hrevoked, rfl⟩
      · exact ⟨r, rfl⟩
    have hfields : ¬(input.claimKey = 0 ∨ input.version = 0 ∨ input.bundleKey = 0 ∨ input.domainKey = 0 ∨
        input.payloadCommitment = 0 ∨ input.issuerOrganizationId = 0 ∨ input.issuerCredentialId = 0) := by
      simp only [not_or]
      exact ⟨hids.claimKey, hnonzero, hids.bundleKey, hids.domainKey, hids.payloadCommitment,
        hids.issuerOrganizationId, hids.issuerCredentialId⟩
    simp only [activateEvidence, bind_eq_ok, throwIf_eq_ok, pure_eq_ok, not_not, Bool.not_eq_false]
    exact ⟨_, ⟨⟩, hfields, ⟨⟩, hauthorised.credential, ⟨⟩, hauthorised.capability, ⟨⟩, hauthorised.link, ⟨⟩, hunset, ⟨⟩,
      hcurrent, _, hadd, ⟨⟩, rfl, _, hsuperseded, rfl⟩

/-- A revocation by the issuer is accepted just where the version is active. -/
theorem revokeEvidence_iff {version : Uint64} (h : ChainsOf r)
    (hissuer : (r.evidenceVersions claimKey version).status ≠ .unset →
      (r.evidenceVersions claimKey version).issuer = msg.sender) :
    (∃ r', r.revokeEvidence msg claimKey version = .ok r') ↔
      ∃ c, (claimOf r claimKey).revoke version.toNat = some c := by
  constructor
  · rintro ⟨r', hok⟩
    exact ⟨_, revokeEvidence_claim h hok⟩
  · rintro ⟨c, hc⟩
    have hactive := (active_claimOf h).mp (ClaimVersions.revoke_eq_some.mp hc).1
    have hcurrent := (h claimKey).eq_current hactive
    have hsender := hissuer (by simp [hactive])
    simp only [revokeEvidence, bind_eq_ok, throwIf_eq_ok, pure_eq_ok, not_not, not_or]
    exact ⟨_, ⟨⟩, ⟨hactive, hcurrent.symm⟩, ⟨⟩, hsender, rfl⟩

end Calls

/-! ### Identifiers are not zero -/

section Identifiers

variable {D : Deployment} {c c' : Contracts.Ledger}

/-- What is active or confirmed has identifiers that are not zero. -/
structure Named (c : Contracts.Ledger) : Prop where
  credentials : ∀ credentialId, (c.authority.credentials credentialId).active = true →
    credentialId ≠ 0 ∧ (c.authority.credentials credentialId).organizationId ≠ 0
  commitments : ∀ bundleKey, (c.bundles.commitments bundleKey).confirmed = true →
    bundleKey ≠ 0 ∧ (c.bundles.commitments bundleKey).domainKey ≠ 0 ∧
      (c.bundles.commitments bundleKey).domainPayloadCommitment ≠ 0

/-- A call of the authority registry leaves the credentials as they are, or
sets one under identifiers that are not zero. -/
theorem authority_credentials {authority authority' : AuthorityProfileRegistry} {msg : Msg} {op : AuthorityOp}
    (hok : op.exec authority msg = .ok authority') :
    authority'.credentials = authority.credentials ∨ ∃ credentialId credential, credentialId ≠ 0 ∧
      credential.organizationId ≠ 0 ∧ authority'.credentials = update authority.credentials credentialId credential := by
  cases op with
  | setOrganizationStatus organizationId status =>
    simp only [AuthorityOp.exec, AuthorityProfileRegistry.setOrganizationStatus, bind_eq_ok, pure_eq_ok] at hok
    obtain ⟨_, _, _, _, _, _, rfl⟩ := hok
    exact .inl rfl
  | setProfile profileId version digest active =>
    simp only [AuthorityOp.exec, AuthorityProfileRegistry.setProfile, bind_eq_ok, pure_eq_ok] at hok
    obtain ⟨_, _, _, _, _, _, _, _, rfl⟩ := hok
    exact .inl rfl
  | setRepositoryApproval repositoryId approved =>
    simp only [AuthorityOp.exec, AuthorityProfileRegistry.setRepositoryApproval, bind_eq_ok, pure_eq_ok] at hok
    obtain ⟨_, _, _, _, rfl⟩ := hok
    exact .inl rfl
  | setCredential credentialId organizationId account active replicaAttestation =>
    simp only [AuthorityOp.exec, AuthorityProfileRegistry.setCredential, bind_eq_ok, throwIf_eq_ok, pure_eq_ok,
      not_or] at hok
    obtain ⟨_, _, _, ⟨hcredential, horganization, -⟩, _, _, rfl⟩ := hok
    exact .inr ⟨credentialId, _, hcredential, horganization, rfl⟩
  | setCapabilityGrant credentialId capabilityId resourceScope effectiveAt expiresAt active =>
    simp only [AuthorityOp.exec, AuthorityProfileRegistry.setCapabilityGrant, bind_eq_ok, pure_eq_ok] at hok
    obtain ⟨_, _, _, _, _, _, _, _, rfl⟩ := hok
    exact .inl rfl
  | transferOwnership newOwner =>
    simp only [AuthorityOp.exec, bind_eq_ok, pure_eq_ok] at hok
    obtain ⟨_, _, rfl⟩ := hok
    exact .inl rfl
  | renounceOwnership =>
    simp only [AuthorityOp.exec, bind_eq_ok, pure_eq_ok] at hok
    obtain ⟨_, _, rfl⟩ := hok
    exact .inl rfl

theorem commit_payload {authority : AuthorityProfileRegistry} {bundles bundles' : ProtectedBundleRegistry} {msg : Msg}
    {input : ProtectedBundleRegistry.CommitInput} (hok : bundles.commit authority msg input = .ok bundles') :
    input.domainPayloadCommitment ≠ 0 := by
  simp only [ProtectedBundleRegistry.commit, bind_eq_ok, throwIf_eq_ok, not_or] at hok
  obtain ⟨_, ⟨-, -, -, -, hpayload, -⟩, -⟩ := hok
  exact hpayload

/-- A bundle is committed under identifiers that are not zero. -/
theorem committed_named {authority : AuthorityProfileRegistry} {bundles bundles' : ProtectedBundleRegistry} {msg : Msg}
    {op : BundleOp} (hok : op.exec D authority bundles msg = .ok bundles') {bundleKey : Bytes32}
    (hnew : (bundles.commitments bundleKey).confirmed = false)
    (hconfirmed : (bundles'.commitments bundleKey).confirmed = true) :
    bundleKey ≠ 0 ∧ (bundles'.commitments bundleKey).domainKey ≠ 0 ∧
      (bundles'.commitments bundleKey).domainPayloadCommitment ≠ 0 := by
  have hinput : ∀ {r : ProtectedBundleRegistry} {input : ProtectedBundleRegistry.CommitInput},
      r.commitments = bundles.commitments → r.commit authority msg input = .ok bundles' →
      bundleKey ≠ 0 ∧ (bundles'.commitments bundleKey).domainKey ≠ 0 ∧
        (bundles'.commitments bundleKey).domainPayloadCommitment ≠ 0 := by
    intro r input hsame hcommit
    have hpayload := commit_payload hcommit
    obtain ⟨⟨hkey, hdomain, -⟩, rfl⟩ := commit_ok hcommit
    dsimp only at hconfirmed ⊢
    by_cases heq : bundleKey = input.bundleKey
    · subst heq
      rw [update_self]
      exact ⟨hkey, hdomain, hpayload⟩
    · rw [update_of_ne heq, hsame, hnew] at hconfirmed
      cases hconfirmed
  cases op with
  | closeBootstrap =>
    simp only [BundleOp.exec, ProtectedBundleRegistry.closeBootstrap, bind_eq_ok, pure_eq_ok] at hok
    obtain ⟨_, _, rfl⟩ := hok
    rw [hnew] at hconfirmed
    cases hconfirmed
  | commitProtectedBundle input =>
    simp only [BundleOp.exec, ProtectedBundleRegistry.commitProtectedBundle, bind_eq_ok] at hok
    obtain ⟨_, _, hcommit⟩ := hok
    exact hinput rfl hcommit
  | commitAttestedProtectedBundle input =>
    simp only [BundleOp.exec, ProtectedBundleRegistry.commitAttestedProtectedBundle, bind_eq_ok] at hok
    obtain ⟨_, _, _, _, _, _, _, _, _, _, hcommit⟩ := hok
    refine hinput ?_ hcommit
    rfl
  | promoteToDecisionCritical promoted =>
    cases bundle_change hok with
    | committed _ _ commits => cases commits
    | promoted _ confirmed _ _ =>
      by_cases heq : bundleKey = promoted
      · rw [heq, confirmed] at hnew
        cases hnew
      · dsimp only at hconfirmed
        rw [update_of_ne heq, hnew] at hconfirmed
        cases hconfirmed
  | submitReplicaReceipt input =>
    cases bundle_change hok with
    | committed _ _ commits => cases commits
    | received =>
      rw [hnew] at hconfirmed
      cases hconfirmed

theorem call_named {call : LedgerCall} (hok : ledgerCall D c call = .ok c') (h : Named c) : Named c' := by
  obtain ⟨msg, op⟩ := call
  cases op with
  | authority op =>
    simp only [ledgerCall, bind_eq_ok, pure_eq_ok] at hok
    obtain ⟨authority', hop, rfl⟩ := hok
    refine ⟨fun credentialId hactive => ?_, h.commitments⟩
    dsimp only at hactive ⊢
    obtain hsame | ⟨key, credential, hkey, horganization, hset⟩ := authority_credentials hop
    · rw [hsame] at hactive ⊢
      exact h.credentials credentialId hactive
    · rw [hset] at hactive ⊢
      by_cases heq : credentialId = key
      · subst heq
        rw [update_self]
        exact ⟨hkey, horganization⟩
      · rw [update_of_ne heq] at hactive ⊢
        exact h.credentials credentialId hactive
  | bundles op =>
    simp only [ledgerCall, bind_eq_ok, pure_eq_ok] at hok
    obtain ⟨bundles', hop, rfl⟩ := hok
    refine ⟨h.credentials, fun bundleKey hconfirmed => ?_⟩
    cases hold : (c.bundles.commitments bundleKey).confirmed with
    | false => exact committed_named hop hold hconfirmed
    | true =>
      have hkept := change_extends (bundle_change hop) bundleKey hold
      dsimp only
      rw [hkept.fields]
      exact h.commitments bundleKey hold
  | evidence op =>
    simp only [ledgerCall, bind_eq_ok, pure_eq_ok] at hok
    obtain ⟨_, _, rfl⟩ := hok
    exact ⟨h.credentials, h.commitments⟩

theorem deployed_named : Named (.deployed D) := by
  constructor
  · intro credentialId hactive
    cases hactive
  · intro bundleKey hconfirmed
    cases hconfirmed

/-- An authorised activation is under identifiers that are not zero. -/
theorem Named.identified {msg : Msg} {input : ActivateInput} (h : Named c)
    (hauthorised : Authorised D.crypto c.authority c.bundles msg input) (hclaim : input.claimKey ≠ 0) :
    Identified input := by
  have hcredential := hauthorised.credential
  have hlink := hauthorised.link
  simp only [AuthorityProfileRegistry.isCredentialActive, Bool.and_eq_true, decide_eq_true_eq] at hcredential
  simp only [ProtectedBundleRegistry.isConfirmedLink, Bool.and_eq_true, decide_eq_true_eq] at hlink
  obtain ⟨⟨⟨hactive, horganization⟩, -⟩, -⟩ := hcredential
  obtain ⟨⟨⟨⟨hconfirmed, hdomain⟩, -⟩, hpayload⟩, -⟩ := hlink
  obtain ⟨hid, horg⟩ := h.credentials _ hactive
  obtain ⟨hkey, hdom, hpay⟩ := h.commitments _ hconfirmed
  rw [horganization] at horg
  rw [hdomain] at hdom
  rw [hpayload] at hpay
  exact ⟨hclaim, hkey, hdom, hpay, horg, hid⟩

end Identifiers

/-! ### Both at once -/

/-- The ledger and the contracts. -/
structure Joint where
  ledger : EvidenceLedger
  contracts : Contracts.Ledger

/-- What happens: an activation or a revocation that is sent to both, or a call
of only one of them. -/
inductive JointEvent where
  | activate (payload : EvidencePayload) (expectedPriorVersion : ℕ) (activatedAt : ℤ) (msg : Msg)
      (input : ActivateInput)
  | revoke (claimId : String) (version : ℕ) (msg : Msg) (claimKey : Bytes32) (claimVersion : Uint64)
  | ledger (op : EvidenceLedger.Op)
  | contracts (call : LedgerCall)

/-- What an event asks of the ledger. -/
def JointEvent.op? : JointEvent → Option EvidenceLedger.Op
  | .activate payload expectedPriorVersion activatedAt _ _ => some (.activate payload expectedPriorVersion activatedAt)
  | .revoke claimId version _ _ _ => some (.revoke claimId version)
  | .ledger op => some op
  | .contracts _ => none

/-- What an event asks of the contracts. -/
def JointEvent.call? : JointEvent → Option LedgerCall
  | .activate _ _ _ msg input => some (msg, .evidence (.activateEvidence input))
  | .revoke _ _ msg claimKey claimVersion => some (msg, .evidence (.revokeEvidence claimKey claimVersion))
  | .ledger _ => none
  | .contracts call => some call

/-- The event is sent to both. -/
def JointEvent.Shared (event : JointEvent) : Prop := event.op?.isSome ∧ event.call?.isSome

namespace Joint

variable (D : Deployment) (s : Joint)

def initial : Joint := ⟨.new, .deployed D⟩

/-- The state after an event: what either side refuses leaves it as it is. -/
def step (event : JointEvent) : Joint where
  ledger := (event.op?.map (attempt EvidenceLedger.exec s.ledger)).getD s.ledger
  contracts := (event.call?.map (attempt (ledgerCall D) s.contracts)).getD s.contracts

def after (events : List JointEvent) : Joint := run (step D) (initial D) events

/-- The ledger accepts the event. -/
def LedgerAccepts (event : JointEvent) : Prop := ∃ op l, event.op? = some op ∧ s.ledger.exec op = .ok l

/-- The contracts accept the event. -/
def ContractsAccept (event : JointEvent) : Prop := ∃ call c, event.call? = some call ∧ ledgerCall D s.contracts call = .ok c

end Joint

/-- Claims and their keys in the contract: no two claims have the same key, and
none has the key zero. -/
structure ClaimKeys where
  claims : Set String
  key : String → Bytes32
  injective : Set.InjOn key claims
  nonzero : ∀ claimId ∈ claims, key claimId ≠ 0

/-- The largest version that is sent to both, and one more. -/
def versionBound : ℕ := 2 ^ 53 - 1

/-- The condition on what is sent to both: it is the same call, of a claim among
`keys` and with versions below the bound, an activation by an authorised issuer
with a confirmed bundle, a revocation by the issuer of the version. Nothing is
activated or revoked at one side only. -/
def Sent (D : Deployment) (keys : ClaimKeys) (s : Joint) : JointEvent → Prop
  | .activate payload expectedPriorVersion _ msg input =>
    payload.claimId ∈ keys.claims ∧ payload.claimVersion < versionBound ∧ expectedPriorVersion < versionBound ∧
      input.claimKey = keys.key payload.claimId ∧ input.version = BitVec.ofNat 64 payload.claimVersion ∧
      input.expectedPriorVersion = BitVec.ofNat 64 expectedPriorVersion ∧
      Authorised D.crypto s.contracts.authority s.contracts.bundles msg input
  | .revoke claimId version msg claimKey claimVersion =>
    claimId ∈ keys.claims ∧ version < versionBound ∧ claimKey = keys.key claimId ∧
      claimVersion = BitVec.ofNat 64 version ∧
      ((s.contracts.evidence.evidenceVersions claimKey claimVersion).status ≠ .unset →
        (s.contracts.evidence.evidenceVersions claimKey claimVersion).issuer = msg.sender)
  | .ledger op => op.claimId? = none
  | .contracts call => ∀ op, call.2 = .evidence op → claimKey? op = none

/-- The ledger and the contract have the same current version and the same
status of every version, of every claim. -/
def Agree (keys : ClaimKeys) (s : Joint) : Prop :=
  ∀ claimId ∈ keys.claims,
    s.ledger.current claimId = (s.contracts.evidence.currentVersion (keys.key claimId)).toNat ∧
    (∀ version : Uint64, s.ledger.status claimId version.toNat =
      lifecycle (s.contracts.evidence.evidenceVersions (keys.key claimId) version).status) ∧
    ∀ version : ℕ, 2 ^ 64 ≤ version → s.ledger.status claimId version = none

/-- What every run of such events keeps. -/
structure Related (keys : ClaimKeys) (s : Joint) : Prop where
  chained : s.ledger.AllChained
  chains : ChainsOf s.contracts.evidence
  named : Named s.contracts
  same : ∀ claimId ∈ keys.claims, s.ledger.claim claimId = claimOf s.contracts.evidence (keys.key claimId)

variable {D : Deployment} {keys : ClaimKeys} {s : Joint}

theorem Related.agree (h : Related keys s) : Agree keys s := by
  intro claimId hclaim
  have hsame := h.same claimId hclaim
  refine ⟨?_, fun version => ?_, fun version hversion => ?_⟩
  · rw [EvidenceLedger.current_eq h.chained, hsame]
    rfl
  · rw [EvidenceLedger.status_claim h.chained, hsame, status_claimOf h.chains]
  · have hlt : (claimOf s.contracts.evidence (keys.key claimId)).current < 2 ^ 64 :=
      (s.contracts.evidence.currentVersion (keys.key claimId)).isLt
    rw [EvidenceLedger.status_claim h.chained, hsame, ClaimVersions.status, if_pos (by omega)]

/-! ### One side -/

section Ledger

variable {l : EvidenceLedger}

theorem attempt_chained (h : l.AllChained) (op : EvidenceLedger.Op) : (attempt EvidenceLedger.exec l op).AllChained :=
  attempt_invariant (fun _ _ _ hok hl => EvidenceLedger.change_chained (EvidenceLedger.op_change hl hok) hl) l op h

theorem attempt_claim_other (h : l.AllChained) (op : EvidenceLedger.Op) {claimId : String}
    (hother : op.claimId? ≠ some claimId) : (attempt EvidenceLedger.exec l op).claim claimId = l.claim claimId := by
  obtain heq | ⟨l', hok, heq⟩ := attempt_cases EvidenceLedger.exec l op
  · rw [heq]
  · rw [heq, EvidenceLedger.claim, EvidenceLedger.change_other (EvidenceLedger.op_change h hok) hother,
      EvidenceLedger.claim]

/-- The ledger takes an activation as `ClaimVersions` says. -/
theorem ledger_activate_iff (h : l.AllChained) {payload : EvidencePayload} (prior : ℕ) (activatedAt : ℤ)
    (hbound : payload.claimVersion < versionBound) :
    (∃ l', l.activate payload prior activatedAt = .ok l') ↔
      ∃ c, (l.claim payload.claimId).activate payload.claimVersion prior = some c := by
  rw [EvidenceLedger.activate_iff h]
  constructor
  · rintro ⟨-, hc⟩
    exact hc
  · rintro ⟨c, hc⟩
    refine ⟨?_, c, hc⟩
    have hversion := (ClaimVersions.activate_eq_some.mp hc).2.1
    unfold versionBound at hbound
    refine decide_eq_true ⟨by omega, ?_⟩
    unfold maxSafeInteger
    omega

theorem attempt_activate (h : l.AllChained) {payload : EvidencePayload} (prior : ℕ) (activatedAt : ℤ)
    (hbound : payload.claimVersion < versionBound) :
    (attempt EvidenceLedger.exec l (.activate payload prior activatedAt)).claim payload.claimId =
      ((l.claim payload.claimId).activate payload.claimVersion prior).getD (l.claim payload.claimId) :=
  attempt_view (EvidenceLedger.claim · payload.claimId) (fun _ hok => EvidenceLedger.activate_claim h hok)
    (ledger_activate_iff h prior activatedAt hbound).mpr

theorem attempt_revoke (h : l.AllChained) (claimId : String) (version : ℕ) :
    (attempt EvidenceLedger.exec l (.revoke claimId version)).claim claimId =
      ((l.claim claimId).revoke version).getD (l.claim claimId) :=
  attempt_view (EvidenceLedger.claim · claimId) (fun _ hok => EvidenceLedger.revoke_claim h hok)
    (EvidenceLedger.revoke_iff h).mpr

end Ledger

section Registry

variable {c : Contracts.Ledger} {msg : Msg}

theorem attempt_named (h : Named c) (call : LedgerCall) : Named (attempt (ledgerCall D) c call) :=
  attempt_invariant (fun _ _ _ hok hc => call_named hok hc) c call h

theorem attempt_chains (h : ChainsOf c.evidence) (call : LedgerCall) :
    ChainsOf (attempt (ledgerCall D) c call).evidence := by
  refine attempt_invariant (I := fun c : Contracts.Ledger => ChainsOf c.evidence) (fun c call c' hok hc => ?_) c call h
  obtain ⟨msg, op⟩ := call
  obtain hsame | ⟨evidenceOp, -, hop⟩ := ledger_evidence hok
  · rwa [hsame]
  · exact fun claimKey => change_chain (claim_change (evidence_change hop) claimKey) (hc claimKey)

theorem attempt_claimOf_other {call : LedgerCall} {claimKey : Bytes32}
    (hother : ∀ op, call.2 = .evidence op → claimKey? op ≠ some claimKey) :
    claimOf (attempt (ledgerCall D) c call).evidence claimKey = claimOf c.evidence claimKey := by
  obtain heq | ⟨c', hok, heq⟩ := attempt_cases (ledgerCall D) c call
  · rw [heq]
  · rw [heq]
    obtain ⟨msg, op⟩ := call
    obtain hsame | ⟨evidenceOp, rfl, hop⟩ := ledger_evidence hok
    · rw [hsame]
    · exact claimOf_other (evidence_change hop) (hother evidenceOp rfl)

/-- An evidence call is accepted just where the registry accepts it. -/
theorem evidence_ok (op : EvidenceOp) :
    (∃ c', ledgerCall D c (msg, .evidence op) = .ok c') ↔
      ∃ r, op.exec D.crypto c.authority c.bundles c.evidence msg = .ok r := by
  simp only [ledgerCall, bind_eq_ok, pure_eq_ok]
  constructor
  · rintro ⟨c', r, hr, -⟩
    exact ⟨r, hr⟩
  · rintro ⟨r, hr⟩
    exact ⟨_, r, hr, rfl⟩

theorem evidence_exec {c' : Contracts.Ledger} {op : EvidenceOp} (hok : ledgerCall D c (msg, .evidence op) = .ok c') :
    op.exec D.crypto c.authority c.bundles c.evidence msg = .ok c'.evidence := by
  simp only [ledgerCall, bind_eq_ok, pure_eq_ok] at hok
  obtain ⟨r, hr, rfl⟩ := hok
  exact hr

theorem attempt_activateEvidence (h : ChainsOf c.evidence) {input : ActivateInput} (hids : Identified input)
    (hauthorised : Authorised D.crypto c.authority c.bundles msg input) :
    claimOf (attempt (ledgerCall D) c (msg, .evidence (.activateEvidence input))).evidence input.claimKey =
      ((claimOf c.evidence input.claimKey).activate input.version.toNat input.expectedPriorVersion.toNat).getD
        (claimOf c.evidence input.claimKey) :=
  attempt_view (fun c : Contracts.Ledger => claimOf c.evidence input.claimKey)
    (fun _ hok => activateEvidence_claim (evidence_exec hok))
    fun haccepts => (evidence_ok _).mpr ((activateEvidence_iff h hids hauthorised).mpr haccepts)

theorem attempt_revokeEvidence (h : ChainsOf c.evidence) {claimKey : Bytes32} {version : Uint64}
    (hissuer : (c.evidence.evidenceVersions claimKey version).status ≠ .unset →
      (c.evidence.evidenceVersions claimKey version).issuer = msg.sender) :
    claimOf (attempt (ledgerCall D) c (msg, .evidence (.revokeEvidence claimKey version))).evidence claimKey =
      ((claimOf c.evidence claimKey).revoke version.toNat).getD (claimOf c.evidence claimKey) :=
  attempt_view (fun c : Contracts.Ledger => claimOf c.evidence claimKey)
    (fun _ hok => revokeEvidence_claim h (evidence_exec hok))
    fun haccepts => (evidence_ok _).mpr ((revokeEvidence_iff h hissuer).mpr haccepts)

end Registry

/-! ### Every run -/

theorem toNat_of_bound {version : ℕ} (h : version < versionBound) : (BitVec.ofNat 64 version).toNat = version := by
  unfold versionBound at h
  rw [BitVec.toNat_ofNat]
  omega

/-- **What is sent to both leaves them related.** -/
theorem step_related {event : JointEvent} (hsent : Sent D keys s event) (h : Related keys s) :
    Related keys (s.step D event) := by
  cases event with
  | activate payload prior activatedAt msg input =>
    obtain ⟨hclaim, hversion, hprior, hkey, hnumber, hexpected, hauthorised⟩ := hsent
    have hids := h.named.identified hauthorised (hkey ▸ keys.nonzero _ hclaim)
    refine ⟨attempt_chained h.chained _, attempt_chains h.chains _, attempt_named h.named _, fun claimId hmem => ?_⟩
    have hsame := h.same claimId hmem
    by_cases heq : payload.claimId = claimId
    · subst heq
      have hledger := attempt_activate h.chained prior activatedAt hversion
      have hcontract := attempt_activateEvidence h.chains hids hauthorised
      rw [hnumber, hexpected, toNat_of_bound hversion, toNat_of_bound hprior, hkey, ← hsame] at hcontract
      exact hledger.trans hcontract.symm
    · have hother : ∀ op, LedgerOp.evidence (.activateEvidence input) = .evidence op →
          claimKey? op ≠ some (keys.key claimId) := by
        rintro op ⟨⟩ hop
        exact heq (keys.injective hclaim hmem (hkey ▸ Option.some.inj hop))
      have hkept := attempt_claim_other h.chained (.activate payload prior activatedAt)
        fun hop => heq (Option.some.inj hop)
      exact hkept.trans (hsame.trans (attempt_claimOf_other hother).symm)
  | revoke claimId version msg claimKey claimVersion =>
    obtain ⟨hclaim, hversion, hkey, hnumber, hissuer⟩ := hsent
    refine ⟨attempt_chained h.chained _, attempt_chains h.chains _, attempt_named h.named _, fun other hmem => ?_⟩
    have hsame := h.same other hmem
    by_cases heq : claimId = other
    · subst heq
      have hledger := attempt_revoke h.chained claimId version
      have hcontract := attempt_revokeEvidence (D := D) h.chains hissuer
      rw [hnumber, toNat_of_bound hversion, hkey, ← hsame] at hcontract
      refine hledger.trans (hcontract.symm.trans ?_)
      simp only [Joint.step, JointEvent.call?, Option.map_some, Option.getD_some, hkey, hnumber]
    · have hother : ∀ op, LedgerOp.evidence (.revokeEvidence claimKey claimVersion) = .evidence op →
          claimKey? op ≠ some (keys.key other) := by
        rintro op ⟨⟩ hop
        exact heq (keys.injective hclaim hmem (hkey ▸ Option.some.inj hop))
      have hkept := attempt_claim_other h.chained (.revoke claimId version)
        fun hop => heq (Option.some.inj hop)
      exact hkept.trans (hsame.trans (attempt_claimOf_other hother).symm)
  | ledger op =>
    refine ⟨attempt_chained h.chained _, h.chains, h.named, fun claimId hmem => ?_⟩
    have hother : op.claimId? ≠ some claimId := by
      rw [show op.claimId? = none from hsent]
      simp
    exact (attempt_claim_other h.chained op hother).trans (h.same claimId hmem)
  | contracts call =>
    refine ⟨h.chained, attempt_chains h.chains _, attempt_named h.named _, fun claimId hmem => ?_⟩
    have hother : ∀ op, call.2 = .evidence op → claimKey? op ≠ some (keys.key claimId) := by
      intro op hop
      rw [hsent op hop]
      simp
    exact (h.same claimId hmem).trans (attempt_claimOf_other hother).symm

/-- **What is sent to both is accepted by both or by none.** -/
theorem accepts_iff {event : JointEvent} (hsent : Sent D keys s event) (hshared : event.Shared) (h : Related keys s) :
    s.LedgerAccepts event ↔ s.ContractsAccept D event := by
  unfold Joint.LedgerAccepts Joint.ContractsAccept
  cases event with
  | activate payload prior activatedAt msg input =>
    obtain ⟨hclaim, hversion, hprior, hkey, hnumber, hexpected, hauthorised⟩ := hsent
    have hids := h.named.identified hauthorised (hkey ▸ keys.nonzero _ hclaim)
    have hledger := ledger_activate_iff h.chained prior activatedAt hversion
    have hcontract := activateEvidence_iff h.chains hids hauthorised
    rw [hnumber, hexpected, toNat_of_bound hversion, toNat_of_bound hprior, hkey, ← h.same _ hclaim, ← hledger]
      at hcontract
    simp only [JointEvent.op?, JointEvent.call?, Option.some.injEq, exists_and_left, exists_eq_left']
    exact hcontract.symm.trans (evidence_ok (.activateEvidence input)).symm
  | revoke claimId version msg claimKey claimVersion =>
    obtain ⟨hclaim, hversion, hkey, hnumber, hissuer⟩ := hsent
    have hledger : (∃ l', s.ledger.revoke claimId version = .ok l') ↔ _ := EvidenceLedger.revoke_iff h.chained
    have hcontract := revokeEvidence_iff h.chains hissuer
    rw [hnumber, toNat_of_bound hversion, hkey, ← h.same _ hclaim, ← hledger] at hcontract
    simp only [JointEvent.op?, JointEvent.call?, Option.some.injEq, exists_and_left, exists_eq_left', hkey, hnumber]
    exact hcontract.symm.trans (evidence_ok (.revokeEvidence _ _)).symm
  | ledger op => cases hshared.2
  | contracts call => cases hshared.1

theorem initial_related (D : Deployment) (keys : ClaimKeys) : Related keys (.initial D) where
  chained _ := EvidenceLedger.chained_nil
  chains claimKey := after_chain (D := D) [] claimKey
  named := deployed_named
  same _ _ := rfl

theorem guarded_related {events : List JointEvent}
    (h : Guarded (Joint.step D) (Sent D keys) (.initial D) events) : Related keys (Joint.after D events) :=
  run_guarded (fun _ _ hsent hs => step_related hsent hs) events h (initial_related D keys)

/-- What is so of a run of events that are sent to both. -/
structure Simulates (D : Deployment) (keys : ClaimKeys) (events : List JointEvent) : Prop where
  /-- Each event of the run is accepted by one just if by the other. -/
  accepted : ∀ before event rest, events = before ++ event :: rest → event.Shared →
    ((Joint.after D before).LedgerAccepts event ↔ (Joint.after D before).ContractsAccept D event)
  /-- They agree after every beginning of the run. -/
  agree : ∀ before rest, events = before ++ rest → Agree keys (Joint.after D before)

/-- **The ledger simulates the registry**, and in every state the ledger can
reach every open dispute is about an active version and a dispute that has left
open never changes. -/
theorem ledger_simulates_registry (D : Deployment) (keys : ClaimKeys) (events : List JointEvent)
    (hsent : Guarded (Joint.step D) (Sent D keys) (.initial D) events) :
    Simulates D keys events ∧ (∀ ops, (EvidenceLedger.after ops).Supported) ∧
      ∀ ops more, (EvidenceLedger.after ops).Settled (EvidenceLedger.after (ops ++ more)) := by
  refine ⟨⟨?_, ?_⟩, EvidenceLedger.after_supported, EvidenceLedger.run_settled⟩
  · rintro before event rest rfl hshared
    obtain ⟨hbefore, hevent, -⟩ := (guarded_append before (event :: rest) _).mp hsent
    exact accepts_iff hevent hshared (guarded_related hbefore)
  · rintro before rest rfl
    obtain ⟨hbefore, -⟩ := (guarded_append before rest _).mp hsent
    exact (guarded_related hbefore).agree

/-! ### A run of both -/

/-- One claim, with the key one. -/
def oneClaim : ClaimKeys where
  claims := {"claim:1"}
  key _ := 1
  injective := Set.injOn_singleton _ _
  nonzero _ _ := by decide

/-- The activation of a version of that claim, with the bundle of `oneBundle`. -/
def activationInput (version prior : ℕ) : ActivateInput :=
  ⟨1, BitVec.ofNat 64 version, BitVec.ofNat 64 prior, 21, 23, 25, 1, 11⟩

def activation (version prior : ℕ) : JointEvent :=
  .activate ⟨"claim:1", version, "org:1"⟩ prior 5 ⟨101, 1⟩ (activationInput version prior)

def revocation (version : ℕ) : JointEvent :=
  .revoke "claim:1" version ⟨101, 1⟩ 1 (BitVec.ofNat 64 version)

/-- Two versions, the second revoked, and a third that both refuse. -/
def activations : List JointEvent := [activation 1 0, activation 2 1, revocation 2, activation 3 2]

/-- The contracts with the issuer and the bundle. -/
def withBundle : Joint := Joint.after sampleDeployment (oneBundle.map .contracts)

/-- The issuer may activate any version. -/
theorem withBundle_authorised (version prior : ℕ) :
    Authorised sampleDeployment.crypto withBundle.contracts.authority withBundle.contracts.bundles ⟨101, 1⟩
      (activationInput version prior) := by
  have hcredential : withBundle.contracts.authority.isCredentialActive 11 1 101 = true := by decide +kernel
  have hcapability : withBundle.contracts.authority.hasCapability 11 (issueCapability sampleDeployment.crypto) 1 1 =
      true := by decide +kernel
  have hlink : withBundle.contracts.bundles.isConfirmedLink 21 23 (evidenceBundleType sampleDeployment.crypto) 25
      false = true := by decide +kernel
  exact ⟨hcredential, hcapability, hlink⟩

/-- An evidence call leaves the other registries as they are. -/
theorem evidence_frame (c : Contracts.Ledger) (msg : Msg) (op : EvidenceOp) :
    (attempt (ledgerCall D) c (msg, .evidence op)).authority = c.authority ∧
      (attempt (ledgerCall D) c (msg, .evidence op)).bundles = c.bundles := by
  obtain heq | ⟨c', hok, heq⟩ := attempt_cases (ledgerCall D) c (msg, .evidence op)
  · rw [heq]
    exact ⟨rfl, rfl⟩
  · simp only [ledgerCall, bind_eq_ok, pure_eq_ok] at hok
    obtain ⟨r, -, rfl⟩ := hok
    rw [heq]
    exact ⟨rfl, rfl⟩

/-- The registries that the issuer and the bundle are in are those of
`withBundle`. -/
def SameBundle (s : Joint) : Prop :=
  s.contracts.authority = withBundle.contracts.authority ∧ s.contracts.bundles = withBundle.contracts.bundles

theorem SameBundle.activated (h : SameBundle s) (version prior : ℕ) :
    SameBundle (s.step sampleDeployment (activation version prior)) := by
  have hframe := evidence_frame (D := sampleDeployment) s.contracts ⟨101, 1⟩
    (.activateEvidence (activationInput version prior))
  have hstep : (s.step sampleDeployment (activation version prior)).contracts =
      attempt (ledgerCall sampleDeployment) s.contracts
        (⟨101, 1⟩, .evidence (.activateEvidence (activationInput version prior))) := rfl
  unfold SameBundle
  rw [hstep, hframe.1, hframe.2]
  exact h

theorem SameBundle.revoked (h : SameBundle s) (version : ℕ) :
    SameBundle (s.step sampleDeployment (revocation version)) := by
  have hframe := evidence_frame (D := sampleDeployment) s.contracts ⟨101, 1⟩
    (.revokeEvidence 1 (BitVec.ofNat 64 version))
  have hstep : (s.step sampleDeployment (revocation version)).contracts =
      attempt (ledgerCall sampleDeployment) s.contracts
        (⟨101, 1⟩, .evidence (.revokeEvidence 1 (BitVec.ofNat 64 version))) := rfl
  unfold SameBundle
  rw [hstep, hframe.1, hframe.2]
  exact h

theorem SameBundle.sent (h : SameBundle s) {version prior : ℕ} (hversion : version < versionBound)
    (hprior : prior < versionBound) : Sent sampleDeployment oneClaim s (activation version prior) := by
  refine ⟨rfl, hversion, hprior, rfl, rfl, rfl, ?_⟩
  rw [h.1, h.2]
  exact withBundle_authorised version prior

theorem contracts_sent {calls : List LedgerCall} (s : Joint)
    (h : ∀ call ∈ calls, ∀ op, call.2 = LedgerOp.evidence op → claimKey? op = none) :
    Guarded (Joint.step D) (Sent D keys) s (calls.map .contracts) := by
  induction calls generalizing s with
  | nil => trivial
  | cons call calls ih =>
    exact ⟨h call List.mem_cons_self, ih _ fun other hother => h other (List.mem_cons_of_mem _ hother)⟩

theorem activations_sent : Guarded (Joint.step sampleDeployment) (Sent sampleDeployment oneClaim)
    (.initial sampleDeployment) (oneBundle.map .contracts ++ activations) := by
  rw [guarded_append]
  constructor
  · apply contracts_sent
    intro call hcall op hop
    simp only [oneBundle, List.mem_cons, List.not_mem_nil, or_false] at hcall
    rcases hcall with rfl | rfl | rfl | rfl <;> cases hop
  · have hbase : SameBundle withBundle := ⟨rfl, rfl⟩
    have hone := hbase.activated 1 0
    have htwo := hone.activated 2 1
    have hthree := htwo.revoked 2
    refine ⟨hbase.sent (by decide) (by decide), hone.sent (by decide) (by decide), ?_,
      hthree.sent (by decide) (by decide), trivial⟩
    exact ⟨rfl, by decide, rfl, rfl, fun _ => by decide +kernel⟩

theorem activations_agree :
    Simulates sampleDeployment oneClaim (oneBundle.map .contracts ++ activations) ∧
      (Joint.after sampleDeployment (oneBundle.map .contracts ++ activations)).ledger.status "claim:1" 1 =
        some .superseded ∧
      (Joint.after sampleDeployment (oneBundle.map .contracts ++ activations)).ledger.status "claim:1" 2 =
        some .revoked := by
  refine ⟨(ledger_simulates_registry _ _ _ activations_sent).1, ?_, ?_⟩ <;> decide +kernel

end Evidence
end Evllm
