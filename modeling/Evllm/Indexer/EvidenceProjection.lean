/-
# The evidence projection agrees with the contract

`src/indexer/canonical-projector.ts`, the reducer of the evidence events: the
last event about a claim gives its entry, whatever its version. The registry
emits the supersession of a version before the activation of the next, and
only the current version can be revoked, so the last event about a claim is
always about its current version; folded over what the registry has emitted,
the reducer has an entry for exactly the claims that have a version, with the
status the contract has for it.

Key definitions: `evidenceProjectionReducer`, `projectionEvents`.
Key theorems: `change_agrees`, `projection_agrees`.
-/
import Evllm.Indexer.CanonicalProjector
import Evllm.Contracts.EvidenceVersions

namespace Evllm
namespace Indexer

open Lib Function Contracts Contracts.EvidenceRegistry

inductive EvidenceEventKind where
  | activated
  | revoked
  | superseded
  deriving DecidableEq, Repr

inductive ProjectedStatus where
  | active
  | revoked
  | superseded
  deriving DecidableEq, Repr

structure EvidenceProjectionEvent where
  claimId : String
  kind : EvidenceEventKind
  version : ℕ

structure ProjectedClaim where
  status : ProjectedStatus
  version : ℕ

/-- `claims` is an object with the claim ids as its properties. -/
structure EvidenceProjectionState where
  claims : JsMap String ProjectedClaim

def EvidenceEventKind.status : EvidenceEventKind → ProjectedStatus
  | .activated => .active
  | .revoked => .revoked
  | .superseded => .superseded

/-- The `apply` of the reducer. -/
def applyEvidence (state : EvidenceProjectionState) (event : EvidenceProjectionEvent) : EvidenceProjectionState :=
  ⟨state.claims.set event.claimId ⟨event.kind.status, event.version⟩⟩

def evidenceProjectionReducer : ProjectionReducer EvidenceProjectionEvent EvidenceProjectionState :=
  .total ⟨.empty⟩ applyEvidence

/-! ### The events of the contract -/

/-- The last `n` hexadecimal digits of a number. -/
def hexDigits : ℕ → ℕ → List Char
  | 0, _ => []
  | n + 1, x => hexDigits n (x / 16) ++ [Nat.digitChar (x % 16)]

/-- A claim key as a chain client writes it. -/
def claimId (claimKey : Bytes32) : String := String.ofList ('0' :: 'x' :: hexDigits 64 claimKey.toNat)

/-- A version as a number: the nearest one that a double can hold, of two the
even one. Below `2 ^ 53` it is the version itself. -/
def toNumber (version : Uint64) : ℕ :=
  let n := version.toNat
  if n < 2 ^ 53 then n
  else
    let step := 2 ^ (Nat.log2 n - 52)
    let down := n / step * step
    if n % step * 2 < step ∨ n % step * 2 = step ∧ n / step % 2 = 0 then down else down + step

/-- What the projection reads of an event: the three about versions. -/
def projectionEvent : EvidenceEvent → Option EvidenceProjectionEvent
  | .evidenceActivated claimKey version _ _ => some ⟨claimId claimKey, .activated, toNumber version⟩
  | .evidenceSuperseded claimKey priorVersion _ => some ⟨claimId claimKey, .superseded, toNumber priorVersion⟩
  | .evidenceRevoked claimKey version => some ⟨claimId claimKey, .revoked, toNumber version⟩
  | .verificationAssertionCreated .. => none
  | .verificationAssertionWithdrawn .. => none
  | .evidenceDisputeOpened .. => none
  | .evidenceDisputeStateChanged .. => none

def projectionEvents (log : List EvidenceEvent) : List EvidenceProjectionEvent := log.filterMap projectionEvent

/-- The claims that the reducer has after what was emitted. -/
def projectedClaims (log : List EvidenceEvent) : JsMap String ProjectedClaim :=
  ((projectionEvents log).foldl applyEvidence ⟨.empty⟩).claims

theorem digitChar_inj : ∀ a < 16, ∀ b < 16, Nat.digitChar a = Nat.digitChar b → a = b := by decide

theorem hexDigits_inj : ∀ (n : ℕ) {x y : ℕ}, x < 16 ^ n → y < 16 ^ n → hexDigits n x = hexDigits n y → x = y
  | 0, x, y, hx, hy, _ => by
    rw [pow_zero] at hx hy
    omega
  | n + 1, x, y, hx, hy, h => by
    rw [pow_succ] at hx hy
    obtain ⟨hhigh, hlow⟩ := List.append_inj' h rfl
    have hquot : x / 16 = y / 16 := hexDigits_inj n (by omega) (by omega) hhigh
    have hdigit := (List.cons.inj hlow).1
    have hrem : x % 16 = y % 16 := digitChar_inj _ (Nat.mod_lt _ (by omega)) _ (Nat.mod_lt _ (by omega)) hdigit
    omega

theorem claimId_injective : Injective claimId := by
  intro x y h
  have hlist := congrArg String.toList h
  simp only [claimId, String.toList_ofList, List.cons.injEq, true_and] at hlist
  have hbound : (16 : ℕ) ^ 64 = 2 ^ 256 := by norm_num
  refine BitVec.eq_of_toNat_eq (hexDigits_inj 64 ?_ ?_ hlist)
  · rw [hbound]
    exact x.isLt
  · rw [hbound]
    exact y.isLt

/-! ### What one event does -/

theorem projectedClaims_none (log : List EvidenceEvent) {event : EvidenceEvent} (h : projectionEvent event = none) :
    projectedClaims (log ++ [event]) = projectedClaims log := by
  simp only [projectedClaims, projectionEvents, List.filterMap_append, List.filterMap_cons, h, List.filterMap_nil,
    List.append_nil]

theorem projectedClaims_some (log : List EvidenceEvent) {event : EvidenceEvent} {e : EvidenceProjectionEvent}
    (h : projectionEvent event = some e) :
    projectedClaims (log ++ [event]) = (projectedClaims log).set e.claimId ⟨e.kind.status, e.version⟩ := by
  simp only [projectedClaims, projectionEvents, List.filterMap_append, List.filterMap_cons, h, List.filterMap_nil,
    List.foldl_append, List.foldl_cons, List.foldl_nil, applyEvidence]

/-- The status that the projection has for one of the contract; a version that
is not set has no entry. -/
def projectedStatus : EvidenceStatus → Option ProjectedStatus
  | .unset => none
  | .active => some .active
  | .superseded => some .superseded
  | .revoked => some .revoked

/-- The entry that a claim of the contract should have. -/
def contractEntry (current : Uint64) (versions : Uint64 → EvidenceVersion) : Option ProjectedClaim :=
  (projectedStatus (versions current).status).map fun status => ⟨status, toNumber current⟩

/-- The projection of what was emitted has the contract's entries, and no
others. -/
structure Agrees (r : EvidenceRegistry) : Prop where
  entry : ∀ claimKey, (projectedClaims r.log).get (claimId claimKey) =
    contractEntry (r.currentVersion claimKey) (r.evidenceVersions claimKey)
  known : ∀ id, (projectedClaims r.log).get id ≠ none → ∃ claimKey, id = claimId claimKey

variable {crypto : Crypto} {bundles : ProtectedBundleRegistry} {msg : Msg} {r r' : EvidenceRegistry}

/-- A change that no event of a version comes of. -/
theorem Agrees.quiet (h : Agrees r) {event : EvidenceEvent} (hevent : projectionEvent event = none)
    (hlog : r'.log = r.log ++ [event]) (hcurrent : r'.currentVersion = r.currentVersion)
    (hversions : r'.evidenceVersions = r.evidenceVersions) : Agrees r' := by
  have hclaims : projectedClaims r'.log = projectedClaims r.log := by
    rw [hlog, projectedClaims_none r.log hevent]
  constructor
  · intro claimKey
    rw [hclaims, hcurrent, hversions]
    exact h.entry claimKey
  · intro id
    rw [hclaims]
    exact h.known id

/-- A change of one claim after which its entry is what was last set. -/
theorem Agrees.set (h : Agrees r) (claimKey : Bytes32) (claim : ProjectedClaim)
    (hclaims : ∀ id, (projectedClaims r'.log).get id =
      if claimId claimKey = id then some claim else (projectedClaims r.log).get id)
    (hentry : contractEntry (r'.currentVersion claimKey) (r'.evidenceVersions claimKey) = some claim)
    (hothers : ∀ other, other ≠ claimKey → r'.currentVersion other = r.currentVersion other ∧
      r'.evidenceVersions other = r.evidenceVersions other) : Agrees r' := by
  constructor
  · intro other
    rw [hclaims]
    by_cases hkey : other = claimKey
    · rw [if_pos (congrArg claimId hkey.symm), hkey, hentry]
    · rw [if_neg fun heq => hkey (claimId_injective heq).symm, (hothers other hkey).1, (hothers other hkey).2]
      exact h.entry other
  · intro id hid
    by_cases hclaim : claimId claimKey = id
    · exact ⟨claimKey, hclaim.symm⟩
    · rw [hclaims, if_neg hclaim] at hid
      exact h.known id hid

/-- **What a call emits keeps the projection true.** -/
theorem change_agrees {op : EvidenceOp} (h : EvidenceChange crypto bundles msg r op r') (hr : Agrees r) : Agrees r' := by
  cases h with
  | first input none version unset link =>
    refine hr.set input.claimKey ⟨.active, toNumber input.version⟩ (fun id => ?_) ?_
      fun other hother => ?_
    · simp only [activated, emit, setVersion]
      rw [projectedClaims_some r.log rfl, JsMap.get_set]
      rfl
    · simp only [activated, emit, setVersion, contractEntry, update_self]
      rfl
    · simp only [activated, emit, setVersion, update_of_ne hother, and_self]
  | next input prior active version unset link =>
    -- the entry that the supersession sets is set again by the activation
    refine hr.set input.claimKey ⟨.active, toNumber input.version⟩ (fun id => ?_) ?_
      fun other hother => ?_
    · simp only [activated, emit, setStatus, setVersion]
      rw [projectedClaims_some _ rfl, projectedClaims_some r.log rfl, JsMap.get_set, JsMap.get_set]
      by_cases hid : claimId input.claimKey = id
      · simp [hid, EvidenceEventKind.status]
      · simp [hid]
    · simp only [activated, emit, setStatus, setVersion, contractEntry, update_self]
      rfl
    · simp only [activated, emit, setStatus, setVersion, update_of_ne hother, and_self]
  | revoked claimKey version current active =>
    subst current
    refine hr.set claimKey ⟨.revoked, toNumber (r.currentVersion claimKey)⟩ (fun id => ?_) ?_
      fun other hother => ?_
    · simp only [emit, setStatus, setVersion]
      rw [projectedClaims_some r.log rfl, JsMap.get_set]
      rfl
    · simp only [emit, setStatus, setVersion, contractEntry, update_self]
      rfl
    · simp only [emit, setStatus, setVersion, update_of_ne hother, and_self]
  | asserted => exact hr.quiet rfl rfl rfl rfl
  | withdrawn => exact hr.quiet rfl rfl rfl rfl
  | disputeOpened => exact hr.quiet rfl rfl rfl rfl
  | disputeChanged => exact hr.quiet rfl rfl rfl rfl
  | disputeClosed => exact hr.quiet rfl rfl rfl rfl

/-! ### Every run -/

theorem after_agrees (D : Deployment) (ls : List LedgerCall) : Agrees (ledgerAfter D ls).evidence := by
  refine evidence_rule (D := D) change_agrees ls ⟨fun _ => rfl, fun id hid => ?_⟩
  exact absurd rfl hid

/-- A status of the projection as one of the contract. -/
def ProjectedStatus.contract : ProjectedStatus → EvidenceStatus
  | .active => .active
  | .revoked => .revoked
  | .superseded => .superseded

theorem projectedStatus_eq_some {status : EvidenceStatus} (h : status ≠ .unset) :
    ∃ projected, projectedStatus status = some projected ∧ projected.contract = status := by
  cases status with
  | unset => exact absurd rfl h
  | active => exact ⟨.active, rfl, rfl⟩
  | superseded => exact ⟨.superseded, rfl, rfl⟩
  | revoked => exact ⟨.revoked, rfl, rfl⟩

theorem toNumber_of_lt {version : Uint64} (h : version.toNat < 2 ^ 53) : toNumber version = version.toNat := by
  unfold toNumber
  exact if_pos h

/-- **The projection agrees with the contract.** After every run the reducer,
folded over what the evidence registry has emitted, throws nowhere; every entry
is that of a claim with a version, and every claim with a version, as long as
that is below `2 ^ 53`, has an entry with its current version and the status
the contract has for it. -/
theorem projection_agrees (D : Deployment) (ls : List LedgerCall) :
    ∃ state : EvidenceProjectionState,
      CanonicalProjector.applyAll evidenceProjectionReducer evidenceProjectionReducer.initialState
        (projectionEvents (ledgerAfter D ls).evidence.log) = (state, false) ∧
      (∀ id entry, state.claims.get id = some entry →
        ∃ claimKey, id = claimId claimKey ∧ 1 ≤ ((ledgerAfter D ls).evidence.currentVersion claimKey).toNat) ∧
      ∀ claimKey, 1 ≤ ((ledgerAfter D ls).evidence.currentVersion claimKey).toNat →
        ((ledgerAfter D ls).evidence.currentVersion claimKey).toNat < 2 ^ 53 →
        ∃ entry, state.claims.get (claimId claimKey) = some entry ∧
          entry.version = ((ledgerAfter D ls).evidence.currentVersion claimKey).toNat ∧
          entry.status.contract = ((ledgerAfter D ls).evidence.evidenceVersions claimKey
            ((ledgerAfter D ls).evidence.currentVersion claimKey)).status := by
  have hagrees := after_agrees D ls
  refine ⟨_, applyAll_total _ _, fun id entry hentry => ?_, fun claimKey hpos hsafe => ?_⟩
  · have hget : (projectedClaims (ledgerAfter D ls).evidence.log).get id = some entry := hentry
    obtain ⟨claimKey, rfl⟩ := hagrees.known id (by simp [hget])
    refine ⟨claimKey, rfl, ?_⟩
    by_contra hzero
    have hunset := ((after_chain (D := D) ls claimKey).unset _).mpr (.inl (Nat.lt_one_iff.mp (not_le.mp hzero)))
    rw [hagrees.entry claimKey, contractEntry, hunset] at hget
    cases hget
  · have hset : ((ledgerAfter D ls).evidence.evidenceVersions claimKey
        ((ledgerAfter D ls).evidence.currentVersion claimKey)).status ≠ .unset := by
      rw [Ne, (after_chain (D := D) ls claimKey).unset]
      omega
    obtain ⟨status, hstatus, hcontract⟩ := projectedStatus_eq_some hset
    refine ⟨⟨status, toNumber ((ledgerAfter D ls).evidence.currentVersion claimKey)⟩, ?_, toNumber_of_lt hsafe, hcontract⟩
    have hentry := hagrees.entry claimKey
    rw [contractEntry, hstatus] at hentry
    exact hentry

end Indexer
end Evllm
