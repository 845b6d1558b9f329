/-
# The versions of a claim, as a whole

What the ledger, the repository and the contract keep of an evidence claim is a
chain of versions: the first version is number one, a new version takes the
next number and supersedes the one before it, and only the last version can be
revoked, after which there are no more. How many versions there are and whether
the last is revoked says it all (`ClaimVersions`).

Key definitions: `ClaimVersions`, `status`, `activate`, `revoke`.
Key theorems: `status_eq_active`, `activate_eq_some`, `revoke_eq_some`.
-/
import Mathlib.Data.Nat.Basic
import Mathlib.Tactic.Common
import Mathlib.Tactic.SplitIfs

namespace Evllm
namespace Evidence

inductive EvidenceLifecycle where
  | active
  | revoked
  | superseded
  deriving DecidableEq, Repr

/-- The versions of a claim: the number of the last one, zero where there is
none, and whether it is revoked. -/
@[ext]
structure ClaimVersions where
  current : ℕ
  revoked : Bool
  ended : revoked = true → 0 < current

namespace ClaimVersions

/-- A claim without versions. -/
def unclaimed : ClaimVersions := ⟨0, false, by simp⟩

variable (c c' : ClaimVersions)

/-- The status of a version, if it is one. -/
def status (version : ℕ) : Option EvidenceLifecycle :=
  if version = 0 ∨ c.current < version then none
  else if version < c.current then some .superseded
  else if c.revoked then some .revoked
  else some .active

/-- The versions with the next one, where that may be activated. -/
def activate (version expectedPriorVersion : ℕ) : Option ClaimVersions :=
  if c.current = expectedPriorVersion ∧ version = expectedPriorVersion + 1 ∧ c.revoked = false then
    some ⟨version, false, by simp⟩
  else none

/-- The versions with the last one revoked, where `version` is that one and
active. -/
def revoke (version : ℕ) : Option ClaimVersions :=
  if h : 0 < version ∧ version = c.current ∧ c.revoked = false then some ⟨version, true, fun _ => h.1⟩ else none

variable {c c'} {version expectedPriorVersion : ℕ}

/-- The active version is the last one, where that is not revoked. -/
theorem status_eq_active : c.status version = some .active ↔ 0 < version ∧ version = c.current ∧ c.revoked = false := by
  unfold status
  split_ifs with hnone hlt hrevoked
  · simp only [false_iff]
    omega
  · simp only [Option.some.injEq, reduceCtorEq, false_iff]
    omega
  · simp [hrevoked]
  · have heq : version = c.current := by omega
    have hpos : 0 < version := by omega
    simp [heq, heq ▸ hpos, hrevoked]

theorem status_current (h : 0 < c.current) :
    c.status c.current = some (if c.revoked then .revoked else .active) := by
  have hnone : ¬(c.current = 0 ∨ c.current < c.current) := by omega
  unfold status
  rw [if_neg hnone, if_neg (lt_irrefl _)]
  split_ifs <;> rfl

theorem activate_eq_some : c.activate version expectedPriorVersion = some c' ↔
    c.current = expectedPriorVersion ∧ version = expectedPriorVersion + 1 ∧ c.revoked = false ∧
      c'.current = version ∧ c'.revoked = false := by
  unfold activate
  split_ifs with h
  · obtain ⟨hprior, hversion, hrevoked⟩ := h
    simp only [Option.some.injEq, ClaimVersions.ext_iff, hprior, hversion, hrevoked, true_and]
    exact ⟨fun h => ⟨h.1.symm, h.2.symm⟩, fun h => ⟨h.1.symm, h.2.symm⟩⟩
  · simp only [false_iff]
    rintro ⟨hprior, hversion, hrevoked, -⟩
    exact h ⟨hprior, hversion, hrevoked⟩

theorem revoke_eq_some : c.revoke version = some c' ↔
    c.status version = some .active ∧ c'.current = version ∧ c'.revoked = true := by
  rw [status_eq_active]
  unfold revoke
  split_ifs with h
  · obtain ⟨hpos, hcurrent, hrevoked⟩ := h
    simp only [Option.some.injEq, ClaimVersions.ext_iff, hpos, hrevoked, ← hcurrent, true_and]
    exact ⟨fun h => ⟨h.1.symm, h.2.symm⟩, fun h => ⟨h.1.symm, h.2.symm⟩⟩
  · simp only [false_iff]
    rintro ⟨hactive, -⟩
    exact h hactive

end ClaimVersions
end Evidence
end Evllm
