/-
# The evidence registry over the registries it asks

The authority profile registry, the protected bundle registry and the evidence
registry, and every call that any account can make to them, in any order and at
any time. A call of one contract asks the others and writes only its own
storage.

Key definitions
- `Ledger`: the state of the three contracts
- `LedgerOp`, `ledgerCall`: a call, and what it does
- `ledgerAfter`: the contracts after a run
- `Succeeds`: a call that is accepted where a run has led
-/
import Evllm.Contracts.Bundles
import Evllm.Contracts.EvidenceRegistry
import Evllm.Lib.Keccak

namespace Evllm
namespace Contracts

open Lib

/-- The calls of the evidence registry. -/
inductive EvidenceOp where
  | activateEvidence (input : EvidenceRegistry.ActivateInput)
  | revokeEvidence (claimKey : Bytes32) (version : Uint64)
  | createVerificationAssertion (input : EvidenceRegistry.AssertionInput)
  | withdrawVerificationAssertion (assertionKey : Bytes32)
  | openEvidenceDispute (input : EvidenceRegistry.DisputeInput)
  | changeEvidenceDisputeState (disputeKey : Bytes32) (newStatus : DisputeStatus)
  | closeEvidenceDisputeForLifecycle (disputeKey : Bytes32)

def EvidenceOp.exec (crypto : Crypto) (authority : AuthorityProfileRegistry) (bundles : ProtectedBundleRegistry)
    (r : EvidenceRegistry) (msg : Msg) : EvidenceOp → Except Revert EvidenceRegistry
  | .activateEvidence input => r.activateEvidence crypto authority bundles msg input
  | .revokeEvidence claimKey version => r.revokeEvidence msg claimKey version
  | .createVerificationAssertion input => r.createVerificationAssertion crypto authority bundles msg input
  | .withdrawVerificationAssertion assertionKey => r.withdrawVerificationAssertion msg assertionKey
  | .openEvidenceDispute input => r.openEvidenceDispute crypto authority bundles msg input
  | .changeEvidenceDisputeState disputeKey newStatus => r.changeEvidenceDisputeState msg disputeKey newStatus
  | .closeEvidenceDisputeForLifecycle disputeKey => r.closeEvidenceDisputeForLifecycle msg disputeKey

structure Ledger where
  authority : AuthorityProfileRegistry
  bundles : ProtectedBundleRegistry
  evidence : EvidenceRegistry

inductive LedgerOp where
  | authority (op : AuthorityOp)
  | bundles (op : BundleOp)
  | evidence (op : EvidenceOp)

/-- A call, with its sender and time. -/
abbrev LedgerCall := Msg × LedgerOp

variable (D : Deployment)

/-- The contracts as their constructors leave them. -/
def Ledger.deployed : Ledger := ⟨.deployed D.authorityGovernance, .deployed D.bundleGovernance, .deployed⟩

def ledgerCall (c : Ledger) (call : LedgerCall) : Except Revert Ledger :=
  match call.2 with
  | .authority op => do return { c with authority := ← op.exec c.authority call.1 }
  | .bundles op => do return { c with bundles := ← op.exec D c.authority c.bundles call.1 }
  | .evidence op => do return { c with evidence := ← op.exec D.crypto c.authority c.bundles c.evidence call.1 }

/-- The contracts after the calls `ls` since they were deployed. -/
def ledgerAfter (ls : List LedgerCall) : Ledger := run (attempt (ledgerCall D)) (.deployed D) ls

/-- The call succeeds where it is made after the calls `ls`. -/
def Succeeds (ls : List LedgerCall) (call : LedgerCall) : Prop := ∃ c, ledgerCall D (ledgerAfter D ls) call = .ok c

variable {D} {c c' : Ledger} {msg : Msg}

theorem ledgerAfter_append (ls ms : List LedgerCall) :
    ledgerAfter D (ls ++ ms) = run (attempt (ledgerCall D)) (ledgerAfter D ls) ms :=
  run_append _ _ ls ms

theorem ledgerAfter_call {ls : List LedgerCall} {call : LedgerCall}
    (h : ledgerCall D (ledgerAfter D ls) call = .ok c) (ms : List LedgerCall) :
    ledgerAfter D (ls ++ call :: ms) = run (attempt (ledgerCall D)) c ms := by
  rw [ledgerAfter_append, run_cons, attempt_of_ok h]

/-- A call leaves the bundles as they are, or is one of the bundle registry. -/
theorem ledger_bundles {op : LedgerOp} (h : ledgerCall D c (msg, op) = .ok c') :
    c'.bundles = c.bundles ∨ ∃ bundleOp, op = .bundles bundleOp ∧
      BundleChange D c.authority msg c.bundles bundleOp c'.bundles := by
  cases op with
  | authority op =>
    simp only [ledgerCall, bind_eq_ok, pure_eq_ok] at h
    obtain ⟨_, _, rfl⟩ := h
    exact .inl rfl
  | bundles op =>
    simp only [ledgerCall, bind_eq_ok, pure_eq_ok] at h
    obtain ⟨_, hop, rfl⟩ := h
    exact .inr ⟨op, rfl, bundle_change hop⟩
  | evidence op =>
    simp only [ledgerCall, bind_eq_ok, pure_eq_ok] at h
    obtain ⟨_, _, rfl⟩ := h
    exact .inl rfl

/-- A call leaves the evidence as it is, or is one of the evidence registry. -/
theorem ledger_evidence {op : LedgerOp} (h : ledgerCall D c (msg, op) = .ok c') :
    c'.evidence = c.evidence ∨ ∃ evidenceOp, op = .evidence evidenceOp ∧
      evidenceOp.exec D.crypto c.authority c.bundles c.evidence msg = .ok c'.evidence := by
  cases op with
  | authority op =>
    simp only [ledgerCall, bind_eq_ok, pure_eq_ok] at h
    obtain ⟨_, _, rfl⟩ := h
    exact .inl rfl
  | bundles op =>
    simp only [ledgerCall, bind_eq_ok, pure_eq_ok] at h
    obtain ⟨_, _, rfl⟩ := h
    exact .inl rfl
  | evidence op =>
    simp only [ledgerCall, bind_eq_ok, pure_eq_ok] at h
    obtain ⟨_, hop, rfl⟩ := h
    exact .inr ⟨op, rfl, hop⟩

/-- **Every run extends the bundles.** -/
theorem run_extends (c : Ledger) (ls : List LedgerCall) :
    Extends c.bundles (run (attempt (ledgerCall D)) c ls).bundles := by
  refine run_related (I := fun _ => True) (R := fun c c' : Ledger => Extends c.bundles c'.bundles)
    (fun _ => .refl _) (fun _ _ _ h h' => h.trans h') (fun _ _ _ => trivial) (fun c call _ => ?_) ls trivial
  obtain heq | ⟨c', hok, heq⟩ := attempt_cases (ledgerCall D) c call
  · rw [heq]
    exact .refl _
  · rw [heq]
    obtain hsame | ⟨op, -, hchange⟩ := ledger_bundles hok
    · rw [hsame]
      exact .refl _
    · exact change_extends hchange

/-- A fact about the bundles that every change keeps holds after every run. -/
theorem bundles_rule {I : ProtectedBundleRegistry → Prop}
    (h : ∀ {authority msg op r r'}, BundleChange D authority msg r op r' → I r → I r') (ls : List LedgerCall) {c : Ledger}
    (hc : I c.bundles) : I (run (attempt (ledgerCall D)) c ls).bundles := by
  refine run_invariant (I := fun c : Ledger => I c.bundles) (attempt_invariant fun c call c' hok hI => ?_) ls hc
  obtain hsame | ⟨op, -, hchange⟩ := ledger_bundles hok
  · rwa [hsame]
  · exact h hchange hI

theorem after_binding (ls : List LedgerCall) : Binding (ledgerAfter D ls).bundles :=
  bundles_rule change_binding ls (deployed_binding D.bundleGovernance)

/-- A deployment under the governance of one account, where every signature is
that of the account 101. -/
def sampleDeployment : Deployment where
  crypto := ⟨fun bytes => BitVec.ofNat 256 (Keccak.keccak256 bytes), fun _ _ _ _ => 101⟩
  authorityGovernance := 9
  bundleGovernance := 9
  ownershipGovernance := 9
  deploymentGovernance := 9
  bundleSite := ⟨1, 50⟩
  reviewDelay := 1
  isMarketplace _ := false
  acceptanceWindow _ := 1
  zero_not_marketplace := rfl
  acceptanceWindow_ne_zero _ := by decide

end Contracts
end Evllm
