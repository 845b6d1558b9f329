/-
# Assertions on live evidence

A verifier asserts something about an active version, and the assertion is
active until its verifier withdraws it. Both the ledger and the registry end a
version when the next one is activated or when it is revoked, and neither looks
at the assertions about it then, though both have a status for assertions that
are superseded. So active assertions are about active versions just as long as
no accepted call ends a version that an active assertion is about.

Key definitions: `Certified`, `SparesAsserted`.
Key theorems: `active_assertions_on_live_evidence`.
-/
import Evllm.Evidence.LedgerSimulation

namespace Evllm
namespace Evidence

open Lib Function Contracts Contracts.EvidenceRegistry

/-! ### The ledger -/

namespace EvidenceLedger

variable {l l' : EvidenceLedger} {op : Op}

/-- Every active assertion is about an active version. -/
def Certified (l : EvidenceLedger) : Prop :=
  ∀ key assertion, l.assertions.get key = some assertion → assertion.status = .active →
    l.status assertion.payload.claimId assertion.payload.claimVersion = some .active

/-- If the call is accepted, it does not end a version that an active assertion
is about. -/
def SparesAsserted (l : EvidenceLedger) (op : Op) : Prop :=
  ∀ l', l.exec op = .ok l' → ∀ key assertion, l.assertions.get key = some assertion → assertion.status = .active →
    ¬op.Ends assertion.payload.claimId assertion.payload.claimVersion

/-- An active assertion was there before, or is about an active version. -/
theorem change_assertion (h : Change l op l') {key : String × ℕ} {assertion : AssertionRecord}
    (hget : l'.assertions.get key = some assertion) (hactive : assertion.status = .active) :
    l.assertions.get key = some assertion ∨
      l'.status assertion.payload.claimId assertion.payload.claimVersion = some .active := by
  cases h with
  | first => exact .inl hget
  | next => exact .inl hget
  | revoked => exact .inl hget
  | verified payload active new =>
    rw [JsMap.get_set] at hget
    split_ifs at hget with hkey
    · obtain rfl := Option.some.inj hget
      exact .inr active
    · exact .inl hget
  | withdrawn id version record stored =>
    rw [JsMap.get_set] at hget
    split_ifs at hget with hkey
    · obtain rfl := Option.some.inj hget
      cases hactive
    · exact .inl hget
  | opened => exact .inl hget
  | changed => exact .inl hget

/-- A call that ends a version leaves the assertions as they are. -/
theorem ends_assertions (h : Change l op l') {claimId : String} {version : ℕ} (hends : op.Ends claimId version) :
    l'.assertions = l.assertions := by
  cases h with
  | first => rfl
  | next => rfl
  | revoked => rfl
  | verified => cases hends
  | withdrawn => cases hends
  | opened => rfl
  | changed => rfl

/-- A call keeps the assertions on live evidence just if it spares what is
asserted. -/
theorem certified_iff (hl : AllChained l) (h : Certified l) (op : Op) :
    SparesAsserted l op ↔ Certified (attempt exec l op) := by
  cases hok : l.exec op with
  | error e =>
    rw [attempt_of_error hok]
    refine ⟨fun _ => h, fun _ l' hok' => ?_⟩
    rw [hok] at hok'
    cases hok'
  | ok l' =>
    have hchange := op_change hl hok
    rw [attempt_of_ok hok]
    constructor
    · intro hspares key assertion hget hactive
      obtain hbefore | hlive := change_assertion hchange hget hactive
      · obtain hlive | hends := change_active hchange hl (h key assertion hbefore hactive)
        · exact hlive
        · exact absurd hends (hspares l' hok key assertion hbefore hactive)
      · exact hlive
    · intro hcertified _ _ key assertion hget hactive hends
      have hkept : l'.assertions.get key = some assertion := by
        rw [ends_assertions hchange hends]
        exact hget
      exact change_ends hchange hl hends (hcertified key assertion hkept hactive)

/-- The assertions are on live evidence throughout a run just if every call of
it spares what is asserted. -/
theorem run_certified_iff (ops : List Op) :
    Guarded (attempt exec) SparesAsserted .new ops ↔ ∀ before, before <+: ops → Certified (after before) :=
  guarded_iff (I := AllChained) (attempt_invariant fun _ _ _ hok hl => change_chained (op_change hl hok) hl)
    (fun _ op hl h => certified_iff hl h op) ops (fun _ => chained_nil) fun _ _ hget => by cases hget

end EvidenceLedger

/-! ### The registry -/

section Registry

variable {crypto : Crypto} {bundles : ProtectedBundleRegistry} {msg : Msg} {r r' : EvidenceRegistry} {op : EvidenceOp}

/-- Every active assertion is about an active version. -/
def Certified (r : EvidenceRegistry) : Prop :=
  ∀ key, (r.assertions key).status = .active →
    (r.evidenceVersions (r.assertions key).claimKey (r.assertions key).claimVersion).status = .active

/-- The call supersedes or revokes the version. -/
def Ends (r : EvidenceRegistry) : EvidenceOp → Bytes32 → Uint64 → Prop
  | .activateEvidence input, claimKey, version =>
    input.claimKey = claimKey ∧ r.currentVersion claimKey = version ∧ version ≠ 0
  | .revokeEvidence revoked number, claimKey, version => revoked = claimKey ∧ number = version
  | _, _, _ => False

/-- If the call is accepted, it does not end a version that an active assertion
is about. -/
def SparesAsserted (D : Deployment) (c : Contracts.Ledger) (call : LedgerCall) : Prop :=
  ∀ op c', call.2 = .evidence op → ledgerCall D c call = .ok c' → ∀ key, (c.evidence.assertions key).status = .active →
    ¬Ends c.evidence op (c.evidence.assertions key).claimKey (c.evidence.assertions key).claimVersion

/-- An active assertion was there before, or is about an active version. -/
theorem registry_assertion (h : EvidenceChange crypto bundles msg r op r') {key : Bytes32}
    (hactive : (r'.assertions key).status = .active) :
    r'.assertions key = r.assertions key ∨
      (r'.evidenceVersions (r'.assertions key).claimKey (r'.assertions key).claimVersion).status = .active := by
  cases h with
  | asserted input active _ _ =>
    by_cases hkey : key = input.assertionKey
    · subst hkey
      simp only [emit, setAssertion, update_self]
      exact .inr active
    · exact .inl (update_of_ne hkey _ _)
  | withdrawn assertionKey active =>
    by_cases hkey : key = assertionKey
    · subst hkey
      simp only [emit, setAssertion, update_self, reduceCtorEq] at hactive
    · exact .inl (update_of_ne hkey _ _)
  | first => exact .inl rfl
  | next => exact .inl rfl
  | revoked => exact .inl rfl
  | disputeOpened => exact .inl rfl
  | disputeChanged => exact .inl rfl
  | disputeClosed => exact .inl rfl

/-- An active version stays so unless the call ends it. -/
theorem registry_active (h : EvidenceChange crypto bundles msg r op r') (hr : ChainsOf r) {claimKey : Bytes32}
    {version : Uint64} (hactive : (r.evidenceVersions claimKey version).status = .active) :
    (r'.evidenceVersions claimKey version).status = .active ∨ Ends r op claimKey version := by
  have hcurrent := (hr claimKey).eq_current hactive
  cases h with
  | first input none one unset link =>
    by_cases hkey : claimKey = input.claimKey
    · subst hkey
      rw [hcurrent, none, ((hr input.claimKey).unset 0).mpr (.inl rfl)] at hactive
      cases hactive
    · simp only [activated, emit, setVersion, update_of_ne hkey]
      exact .inl hactive
  | next input prior _ _ _ _ =>
    by_cases hkey : claimKey = input.claimKey
    · subst hkey
      exact .inr ⟨rfl, hcurrent.symm, hcurrent ▸ prior⟩
    · simp only [activated, emit, setStatus, setVersion, update_of_ne hkey]
      exact .inl hactive
  | revoked key number current _ =>
    by_cases hkey : claimKey = key
    · subst hkey
      exact .inr ⟨rfl, current.symm.trans hcurrent.symm⟩
    · simp only [emit, setStatus, setVersion, update_of_ne hkey]
      exact .inl hactive
  | asserted => exact .inl hactive
  | withdrawn => exact .inl hactive
  | disputeOpened => exact .inl hactive
  | disputeChanged => exact .inl hactive
  | disputeClosed => exact .inl hactive

/-- A version that a call ends is not active after it, and the assertions are
as they were. -/
theorem registry_ends (h : EvidenceChange crypto bundles msg r op r') (hr : ChainsOf r) {claimKey : Bytes32}
    {version : Uint64} (hends : Ends r op claimKey version) :
    (r'.evidenceVersions claimKey version).status ≠ .active ∧ r'.assertions = r.assertions := by
  have hchain := change_chain (claim_change h claimKey) (hr claimKey)
  cases h with
  | first input none _ _ _ =>
    obtain ⟨rfl, hcurrent, hzero⟩ := hends
    exact absurd (hcurrent.symm.trans none) hzero
  | next input prior _ succ _ _ =>
    obtain ⟨rfl, rfl, -⟩ := hends
    refine ⟨fun hactive => ?_, rfl⟩
    have hcurrent := hchain.eq_current hactive
    simp only [activated, emit, update_self] at hcurrent
    rw [← hcurrent] at succ
    omega
  | revoked key number _ _ =>
    obtain ⟨rfl, rfl⟩ := hends
    refine ⟨?_, rfl⟩
    simp [emit, setStatus, setVersion]
  | asserted => cases hends
  | withdrawn => cases hends
  | disputeOpened => cases hends
  | disputeChanged => cases hends
  | disputeClosed => cases hends

variable {D : Deployment}

theorem registry_certified_iff {c : Contracts.Ledger} (hc : ChainsOf c.evidence) (h : Certified c.evidence)
    (call : LedgerCall) : SparesAsserted D c call ↔ Certified (attempt (ledgerCall D) c call).evidence := by
  obtain ⟨msg, op⟩ := call
  cases hok : ledgerCall D c (msg, op) with
  | error e =>
    rw [attempt_of_error hok]
    refine ⟨fun _ => h, fun _ op c' _ hok' => ?_⟩
    rw [hok] at hok'
    cases hok'
  | ok c' =>
    rw [attempt_of_ok hok]
    cases op with
    | authority authorityOp =>
      simp only [ledgerCall, bind_eq_ok, pure_eq_ok] at hok
      obtain ⟨_, _, rfl⟩ := hok
      exact ⟨fun _ => h, fun _ op c' hop => by cases hop⟩
    | bundles bundleOp =>
      simp only [ledgerCall, bind_eq_ok, pure_eq_ok] at hok
      obtain ⟨_, _, rfl⟩ := hok
      exact ⟨fun _ => h, fun _ op c' hop => by cases hop⟩
    | evidence evidenceOp =>
      have hchange := evidence_call hok
      constructor
      · intro hspares key hactive
        obtain hbefore | hlive := registry_assertion hchange hactive
        · rw [hbefore] at hactive ⊢
          obtain hlive | hends := registry_active hchange hc (h key hactive)
          · exact hlive
          · exact absurd hends (hspares evidenceOp c' rfl hok key hactive)
        · exact hlive
      · rintro hcertified _ _ ⟨⟩ - key hactive hends
        obtain ⟨hdead, hkept⟩ := registry_ends hchange hc hends
        have hlive := hcertified key
        rw [hkept] at hlive
        exact hdead (hlive hactive)

theorem run_registry_certified_iff (D : Deployment) (ls : List LedgerCall) :
    Guarded (attempt (ledgerCall D)) (SparesAsserted D) (.deployed D) ls ↔
      ∀ before, before <+: ls → Certified (ledgerAfter D before).evidence :=
  guarded_iff (I := fun c : Contracts.Ledger => ChainsOf c.evidence) (P := fun c : Contracts.Ledger => Certified c.evidence)
    (fun _ call hc => attempt_chains hc call) (fun _ call hc h => registry_certified_iff hc h call) ls
    (fun claimKey => after_chain (D := D) [] claimKey) fun _ hactive => by cases hactive

end Registry

/-- **Active assertions certify live evidence** throughout a run of the ledger,
and of the registry, just if no accepted call of it ends a version that an
active assertion is about. -/
theorem active_assertions_on_live_evidence (D : Deployment) (ops : List EvidenceLedger.Op) (ls : List LedgerCall) :
    ((∀ before, before <+: ops → (EvidenceLedger.after before).Certified) ↔
        Guarded (attempt EvidenceLedger.exec) EvidenceLedger.SparesAsserted .new ops) ∧
      ((∀ before, before <+: ls → Certified (ledgerAfter D before).evidence) ↔
        Guarded (attempt (ledgerCall D)) (SparesAsserted D) (.deployed D) ls) :=
  ⟨(EvidenceLedger.run_certified_iff ops).symm, (run_registry_certified_iff D ls).symm⟩

/-! ### An assertion that outlives its version -/

/-- A verification of the first version, and then a second version. -/
def verifiedThenSuperseded : List EvidenceLedger.Op :=
  [.activate ⟨"claim:1", 1, "org:1"⟩ 0 5, .addVerification ⟨"verification:1", 1, "claim:1", 1, "org:2"⟩,
    .activate ⟨"claim:1", 2, "org:1"⟩ 1 6]

/-- A verifier of another organisation, with a decision-critical bundle of its
verification. -/
def verifier : List LedgerCall :=
  [(⟨9, 0⟩, .authority (.setOrganizationStatus 2 .active)), (⟨9, 0⟩, .authority (.setCredential 12 2 102 true true)),
    (⟨9, 0⟩, .authority (.setCapabilityGrant 12 (corroborateCapability sampleDeployment.crypto) 0 0 0 true)),
    (⟨9, 0⟩, .bundles (.commitProtectedBundle
      ⟨31, 33, 1, verificationBundleType sampleDeployment.crypto, 35, 36, 10, 37, .supplementary⟩)),
    (⟨102, 0⟩, .bundles (.submitReplicaReceipt ⟨31, 38, 2, 12, 36, 10, 39⟩)),
    (⟨9, 0⟩, .bundles (.promoteToDecisionCritical 31))]

/-- The same in the registry. -/
def assertedThenSuperseded : List LedgerCall :=
  [(⟨101, 1⟩, .evidence (.activateEvidence ⟨1, 1, 0, 21, 23, 25, 1, 11⟩)),
    (⟨102, 2⟩, .evidence (.createVerificationAssertion ⟨41, 1, 1, 31, 33, 35, 2, 12, .corroboration⟩)),
    (⟨101, 3⟩, .evidence (.activateEvidence ⟨1, 2, 1, 21, 23, 25, 1, 11⟩))]

/-- The registry after it. -/
def supersededRegistry : EvidenceRegistry :=
  (ledgerAfter sampleDeployment (oneBundle ++ verifier ++ assertedThenSuperseded)).evidence

theorem assertion_outlives_version :
    ¬((∀ ops : List EvidenceLedger.Op, (EvidenceLedger.after ops).Certified) ∧
      ∀ (D : Deployment) (ls : List LedgerCall), Certified (ledgerAfter D ls).evidence) ∧
    ¬(EvidenceLedger.after verifiedThenSuperseded).Certified ∧ ¬Certified supersededRegistry := by
  have hledger : ¬(EvidenceLedger.after verifiedThenSuperseded).Certified := by
    intro h
    have hlive := h ("verification:1", 1) ⟨⟨"verification:1", 1, "claim:1", 1, "org:2"⟩, .active⟩ (by decide +kernel) rfl
    have hdead : (EvidenceLedger.after verifiedThenSuperseded).status "claim:1" 1 = some .superseded := by decide +kernel
    rw [hdead] at hlive
    cases hlive
  have hregistry : ¬Certified supersededRegistry := by
    have hdead : (supersededRegistry.assertions 41).status = .active ∧
        (supersededRegistry.evidenceVersions (supersededRegistry.assertions 41).claimKey
          (supersededRegistry.assertions 41).claimVersion).status = .superseded := by decide +kernel
    intro h
    have hlive := h 41 hdead.1
    rw [hdead.2] at hlive
    cases hlive
  exact ⟨fun h => hledger (h.1 _), hledger, hregistry⟩

end Evidence
end Evllm
