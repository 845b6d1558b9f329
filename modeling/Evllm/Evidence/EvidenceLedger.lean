/-
# The evidence ledger

`src/evidence/evidence-ledger.ts`: versions of evidence claims, the assertions
of verifiers about them and the disputes over them, in memory. A new version
supersedes the one before it and closes its open disputes; so does a revocation.

Key definitions: `EvidenceLedger`, `Op`, `exec`, `Chained`, `Supported`.
Key theorems: `activate_iff`, `revoke_iff`, `op_change`, `after_chained`,
`after_supported`, `run_settled`.
-/
import Evllm.Evidence.ClaimVersions
import Evllm.Evidence.Proofs
import Evllm.Lib.JsMap
import Evllm.Lib.Numbered
import Evllm.Lib.Run

namespace Evllm
namespace Evidence

open Lib

inductive AssertionLifecycle where
  | active
  | superseded
  | withdrawn
  deriving DecidableEq, Repr

inductive DisputeLifecycle where
  | closedByAssertionWithdrawal
  | closedBySupersession
  | open
  | referredExternal
  | withdrawn
  deriving DecidableEq, Repr

/-- The fields of an evidence claim that the ledger reads. -/
structure EvidencePayload where
  claimId : String
  claimVersion : ℕ
  issuerOrganizationId : String
  deriving DecidableEq, Repr

/-- The fields of a verification that the ledger reads. -/
structure VerificationPayload where
  verificationId : String
  verificationVersion : ℕ
  claimId : String
  claimVersion : ℕ
  verifierOrganizationId : String
  deriving DecidableEq, Repr

structure EvidenceRecord where
  activatedAt : ℤ
  payload : EvidencePayload
  status : EvidenceLifecycle
  deriving DecidableEq, Repr

structure AssertionRecord where
  payload : VerificationPayload
  status : AssertionLifecycle
  deriving DecidableEq, Repr

structure DisputeInput where
  claimId : String
  claimVersion : ℕ
  disputeId : String
  openedByOrganizationId : String
  reason : String
  deriving DecidableEq, Repr

structure DisputeRecord extends DisputeInput where
  status : DisputeLifecycle
  deriving DecidableEq, Repr

/-- The codes of `EvidenceLedgerError`, and the error of a schema. -/
inductive EvidenceLedgerError where
  | conflict
  | invalidPrior
  | invalidState
  | notFound
  | selfVerification
  | schema
  deriving DecidableEq, Repr

/-- What a caller may change an open dispute to. -/
inductive DisputeChange where
  | referredExternal
  | withdrawn
  deriving DecidableEq, Repr

def DisputeChange.status : DisputeChange → DisputeLifecycle
  | .referredExternal => .referredExternal
  | .withdrawn => .withdrawn

/-- The key `id:version` of an assertion is the pair: a version is written
without a colon. -/
structure EvidenceLedger where
  assertions : JsMap (String × ℕ) AssertionRecord
  disputes : JsMap String DisputeRecord
  versions : JsMap String (List EvidenceRecord)

/-- `evidenceClaimPayload.parse`, of the fields read here. -/
def EvidencePayload.parse (payload : EvidencePayload) : Except EvidenceLedgerError EvidencePayload := do
  throwIf (¬isPositiveSafeInteger payload.claimVersion) .schema
  return payload

/-- `verificationPayload.parse`, of the fields read here. -/
def VerificationPayload.parse (payload : VerificationPayload) : Except EvidenceLedgerError VerificationPayload := do
  throwIf (¬isPositiveSafeInteger payload.verificationVersion ∨ ¬isPositiveSafeInteger payload.claimVersion) .schema
  return payload

namespace EvidenceLedger

def new : EvidenceLedger := ⟨.empty, .empty, .empty⟩

variable (l : EvidenceLedger)

/-- `this.#versions.get(claimId) ?? []`. -/
def records (claimId : String) : List EvidenceRecord := (l.versions.get claimId).getD []

def version (claimId : String) (version : ℕ) : Except EvidenceLedgerError EvidenceRecord :=
  match (l.records claimId).find? (·.payload.claimVersion = version) with
  | none => .error .notFound
  | some record => .ok record

def replaceVersion (claimId : String) (version : ℕ) (changed : EvidenceRecord) :
    Except EvidenceLedgerError EvidenceLedger :=
  match (l.records claimId).findIdx? (·.payload.claimVersion = version) with
  | none => .error .notFound
  | some index => .ok { l with versions := l.versions.set claimId ((l.records claimId).set index changed) }

/-- The dispute after `closeDisputes`. -/
def closeDispute (claimId : String) (version : ℕ) (status : DisputeLifecycle) (dispute : DisputeRecord) :
    DisputeRecord :=
  if dispute.claimId = claimId ∧ dispute.claimVersion = version ∧ dispute.status = .open then { dispute with status }
  else dispute

def closeDisputes (claimId : String) (version : ℕ) (status : DisputeLifecycle) : EvidenceLedger :=
  { l with disputes := l.disputes.mapValues (closeDispute claimId version status) }

/-- The version before a new one is superseded, if there is one. -/
def supersede (payload : EvidencePayload) (expectedPriorVersion : ℕ) :
    Except EvidenceLedgerError (EvidenceLedger × List EvidenceRecord) :=
  let versions := l.records payload.claimId
  match versions.getLast? with
  | none => .ok (l, versions)
  | some prior => do
    throwIf (prior.status ≠ .active) .invalidState
    return (l.closeDisputes payload.claimId expectedPriorVersion .closedBySupersession,
      versions.set (versions.length - 1) { prior with status := .superseded })

def activate (payloadInput : EvidencePayload) (expectedPriorVersion : ℕ) (activatedAt : ℤ) :
    Except EvidenceLedgerError EvidenceLedger := do
  let payload ← payloadInput.parse
  let versions := l.records payload.claimId
  throwIf ((versions.getLast?.map (·.payload.claimVersion)).getD 0 ≠ expectedPriorVersion) .invalidPrior
  throwIf (payload.claimVersion ≠ expectedPriorVersion + 1 ∨
    versions.any (·.payload.claimVersion = payload.claimVersion)) .conflict
  let (l, versions) ← l.supersede payload expectedPriorVersion
  return { l with versions := l.versions.set payload.claimId (versions ++ [⟨activatedAt, payload, .active⟩]) }

def revoke (claimId : String) (version : ℕ) : Except EvidenceLedgerError EvidenceLedger := do
  let record ← l.version claimId version
  throwIf (record.status ≠ .active) .invalidState
  let replaced ← l.replaceVersion claimId version { record with status := .revoked }
  return replaced.closeDisputes claimId version .referredExternal

def addVerification (payloadInput : VerificationPayload) : Except EvidenceLedgerError EvidenceLedger := do
  let payload ← payloadInput.parse
  let evidence ← l.version payload.claimId payload.claimVersion
  throwIf (evidence.status ≠ .active) .invalidState
  throwIf (evidence.payload.issuerOrganizationId = payload.verifierOrganizationId) .selfVerification
  let key := (payload.verificationId, payload.verificationVersion)
  throwIf (l.assertions.has key) .conflict
  return { l with assertions := l.assertions.set key ⟨payload, .active⟩ }

def withdrawVerification (verificationId : String) (version : ℕ) : Except EvidenceLedgerError EvidenceLedger :=
  match l.assertions.get (verificationId, version) with
  | none => .error .notFound
  | some record => do
    throwIf (record.status ≠ .active) .invalidState
    return { l with assertions := l.assertions.set (verificationId, version) { record with status := .withdrawn } }

def openDispute (input : DisputeInput) : Except EvidenceLedgerError EvidenceLedger := do
  throwIf (l.disputes.has input.disputeId) .conflict
  let evidence ← l.version input.claimId input.claimVersion
  throwIf (evidence.status ≠ .active) .invalidState
  return { l with disputes := l.disputes.set input.disputeId ⟨input, .open⟩ }

def changeDispute (disputeId : String) (state : DisputeChange) : Except EvidenceLedgerError EvidenceLedger :=
  match l.disputes.get disputeId with
  | none => .error .notFound
  | some record => do
    throwIf (record.status ≠ .open) .invalidState
    return { l with disputes := l.disputes.set disputeId { record with status := state.status } }

/-- The calls that write. -/
inductive Op where
  | activate (payload : EvidencePayload) (expectedPriorVersion : ℕ) (activatedAt : ℤ)
  | revoke (claimId : String) (version : ℕ)
  | addVerification (payload : VerificationPayload)
  | withdrawVerification (verificationId : String) (version : ℕ)
  | openDispute (input : DisputeInput)
  | changeDispute (disputeId : String) (state : DisputeChange)

def exec : Op → Except EvidenceLedgerError EvidenceLedger
  | .activate payload expectedPriorVersion activatedAt => l.activate payload expectedPriorVersion activatedAt
  | .revoke claimId version => l.revoke claimId version
  | .addVerification payload => l.addVerification payload
  | .withdrawVerification verificationId version => l.withdrawVerification verificationId version
  | .openDispute input => l.openDispute input
  | .changeDispute disputeId state => l.changeDispute disputeId state

/-- The ledger after the calls `ops`. -/
def after (ops : List Op) : EvidenceLedger := run (attempt exec) .new ops

/-- The number of the last version of a claim, zero where there is none. -/
def current (claimId : String) : ℕ := ((l.records claimId).getLast?.map (·.payload.claimVersion)).getD 0

/-- The status of a version, if there is one of that number. -/
def status (claimId : String) (version : ℕ) : Option EvidenceLifecycle := (l.version claimId version).toOption.map (·.status)

/-! ### What a call does -/

/-- The records of a claim are numbered from one on; all but the last are
superseded, and that is not. -/
structure Chained (records : List EvidenceRecord) : Prop where
  numbered : Numbered (·.payload.claimVersion) records
  older : ∀ record ∈ records.dropLast, record.status = .superseded
  last : ∀ record ∈ records.getLast?, record.status ≠ .superseded

theorem chained_nil : Chained [] := ⟨numbered_nil, by simp, by simp⟩

theorem chained_concat {older : List EvidenceRecord} {last : EvidenceRecord} :
    Chained (older ++ [last]) ↔ Numbered (·.payload.claimVersion) (older ++ [last]) ∧
      (∀ record ∈ older, record.status = .superseded) ∧ last.status ≠ .superseded := by
  constructor
  · rintro ⟨hnumbered, holder, hlast⟩
    rw [List.dropLast_concat] at holder
    exact ⟨hnumbered, holder, hlast last (by simp)⟩
  · rintro ⟨hnumbered, holder, hlast⟩
    refine ⟨hnumbered, by rwa [List.dropLast_concat], fun record hrecord => ?_⟩
    have heq : last = record := by simpa using hrecord
    rwa [← heq]

/-- Every claim's records are chained. -/
def AllChained : Prop := ∀ claimId, Chained (l.records claimId)

variable {l} {l' : EvidenceLedger} {claimId : String} {version : ℕ}

theorem version_eq_ok {record : EvidenceRecord} : l.version claimId version = .ok record ↔
    (l.records claimId).find? (·.payload.claimVersion = version) = some record := by
  unfold EvidenceLedger.version
  split
  · rename_i hnone
    simp [hnone]
  · rename_i found hfound
    simp [hfound]

theorem status_eq : l.status claimId version =
    ((l.records claimId).find? (·.payload.claimVersion = version)).map (·.status) := by
  unfold status EvidenceLedger.version
  cases (l.records claimId).find? (·.payload.claimVersion = version) <;> rfl

/-- An active version is the last one. -/
theorem Chained.active_last {records : List EvidenceRecord} {record : EvidenceRecord} (h : Chained records)
    (hfind : records.find? (·.payload.claimVersion = version) = some record) (hactive : record.status = .active) :
    ∃ older, records = older ++ [record] ∧ version = older.length + 1 := by
  cases version with
  | zero =>
    rw [h.numbered.find?_zero] at hfind
    cases hfind
  | succ v =>
    rw [h.numbered.find?_succ] at hfind
    obtain rfl | ⟨older, last, rfl⟩ := List.eq_nil_or_concat' records
    · simp at hfind
    · obtain ⟨hlen, hget⟩ := List.getElem?_eq_some_iff.mp hfind
      rw [List.length_append, List.length_singleton] at hlen
      by_cases hv : v = older.length
      · subst hv
        have heq : last = record := by simpa using hfind
        rw [heq]
        exact ⟨older, rfl, rfl⟩
      · rw [List.getElem?_append_left (by omega)] at hfind
        have hsuperseded := (chained_concat.mp h).2.1 record (List.mem_of_getElem? hfind)
        rw [hactive] at hsuperseded
        cases hsuperseded

/-- What a call that succeeds can do. -/
inductive Change (l : EvidenceLedger) : Op → EvidenceLedger → Prop
  | first (payload : EvidencePayload) (activatedAt : ℤ) (none : l.records payload.claimId = [])
      (one : payload.claimVersion = 1) :
      Change l (.activate payload 0 activatedAt)
        { l with versions := l.versions.set payload.claimId [⟨activatedAt, payload, .active⟩] }
  | next (payload : EvidencePayload) (activatedAt : ℤ) (older : List EvidenceRecord) (last : EvidenceRecord)
      (records : l.records payload.claimId = older ++ [last]) (active : last.status = .active)
      (succ : payload.claimVersion = last.payload.claimVersion + 1) :
      Change l (.activate payload last.payload.claimVersion activatedAt)
        { l.closeDisputes payload.claimId last.payload.claimVersion .closedBySupersession with
          versions := l.versions.set payload.claimId
            (older ++ [{ last with status := .superseded }] ++ [⟨activatedAt, payload, .active⟩]) }
  | revoked (claimId : String) (older : List EvidenceRecord) (last : EvidenceRecord)
      (records : l.records claimId = older ++ [last]) (active : last.status = .active) :
      Change l (.revoke claimId last.payload.claimVersion)
        ({ l with versions := l.versions.set claimId (older ++ [{ last with status := .revoked }]) }.closeDisputes
          claimId last.payload.claimVersion .referredExternal)
  | verified (payload : VerificationPayload) (active : l.status payload.claimId payload.claimVersion = some .active)
      (new : l.assertions.get (payload.verificationId, payload.verificationVersion) = Option.none) :
      Change l (.addVerification payload)
        { l with assertions :=
            l.assertions.set (payload.verificationId, payload.verificationVersion) ⟨payload, .active⟩ }
  | withdrawn (verificationId : String) (version : ℕ) (record : AssertionRecord)
      (stored : l.assertions.get (verificationId, version) = some record) :
      Change l (.withdrawVerification verificationId version)
        { l with assertions := l.assertions.set (verificationId, version) { record with status := .withdrawn } }
  | opened (input : DisputeInput) (active : l.status input.claimId input.claimVersion = some .active)
      (new : l.disputes.get input.disputeId = Option.none) :
      Change l (.openDispute input) { l with disputes := l.disputes.set input.disputeId ⟨input, .open⟩ }
  | changed (disputeId : String) (state : DisputeChange) (record : DisputeRecord)
      (stored : l.disputes.get disputeId = some record) (pending : record.status = .open) :
      Change l (.changeDispute disputeId state)
        { l with disputes := l.disputes.set disputeId { record with status := state.status } }

theorem set_last {older : List EvidenceRecord} {last changed : EvidenceRecord} :
    (older ++ [last]).set older.length changed = older ++ [changed] := by
  rw [List.set_append_right _ _ (le_refl _)]
  simp

theorem supersede_concat (payload : EvidencePayload) (prior : ℕ) {older : List EvidenceRecord} {last : EvidenceRecord}
    (hrecords : l.records payload.claimId = older ++ [last]) (hactive : last.status = .active) :
    l.supersede payload prior = .ok (l.closeDisputes payload.claimId prior .closedBySupersession,
      older ++ [{ last with status := .superseded }]) := by
  unfold supersede
  simp only [hrecords, List.getLast?_concat, bind_eq_ok, throwIf_eq_ok, pure_eq_ok, not_not]
  refine ⟨⟨⟩, hactive, ?_⟩
  rw [List.length_append, List.length_singleton, Nat.add_sub_cancel, set_last]

theorem replaceVersion_last {older : List EvidenceRecord} {last : EvidenceRecord} (h : AllChained l)
    (hrecords : l.records claimId = older ++ [last]) (changed : EvidenceRecord) :
    l.replaceVersion claimId (older.length + 1) changed =
      .ok { l with versions := l.versions.set claimId (older ++ [changed]) } := by
  have hnumbered : Numbered (·.payload.claimVersion) (older ++ [last]) := hrecords ▸ (h claimId).numbered
  have hindex := hnumbered.findIdx?_succ (v := older.length) (by simp)
  unfold replaceVersion
  rw [hrecords, hindex]
  simp only [set_last]

theorem activate_change {payload : EvidencePayload} {prior : ℕ} {activatedAt : ℤ}
    (hok : l.activate payload prior activatedAt = .ok l') : Change l (.activate payload prior activatedAt) l' := by
  simp only [activate, EvidencePayload.parse, bind_eq_ok, throwIf_eq_ok, pure_eq_ok, not_or, not_not] at hok
  obtain ⟨_, ⟨-, -, rfl⟩, _, hprior, _, ⟨hversion, -⟩, ⟨superseded, versions⟩, hsupersede, rfl⟩ := hok
  unfold supersede at hsupersede
  obtain hnil | ⟨older, last, hrecords⟩ := List.eq_nil_or_concat' (l.records payload.claimId)
  · rw [hnil] at hsupersede hprior
    obtain ⟨rfl, rfl⟩ : l = superseded ∧ [] = versions := by simpa using hsupersede
    have hzero : prior = 0 := by simpa using hprior.symm
    subst hzero
    exact .first payload activatedAt hnil hversion
  · rw [hrecords] at hsupersede hprior
    simp only [List.getLast?_concat, bind_eq_ok, throwIf_eq_ok, pure_eq_ok, not_not, Prod.mk.injEq] at hsupersede
    obtain ⟨_, hactive, rfl, rfl⟩ := hsupersede
    have hlast : last.payload.claimVersion = prior := by simpa using hprior
    subst hlast
    rw [List.length_append, List.length_singleton, Nat.add_sub_cancel, set_last]
    exact .next payload activatedAt older last hrecords hactive hversion

theorem revoke_change (h : AllChained l) (hok : l.revoke claimId version = .ok l') :
    Change l (.revoke claimId version) l' := by
  simp only [revoke, bind_eq_ok, throwIf_eq_ok, pure_eq_ok, not_not] at hok
  obtain ⟨record, hrecord, _, hactive, replaced, hreplaced, rfl⟩ := hok
  obtain ⟨older, hrecords, hversion⟩ := (h claimId).active_last (version_eq_ok.mp hrecord) hactive
  rw [hversion, replaceVersion_last h hrecords] at hreplaced
  obtain rfl := Except.ok.inj hreplaced
  have hnumbered : Numbered (·.payload.claimVersion) (older ++ [record]) := hrecords ▸ (h claimId).numbered
  rw [hversion, ← (numbered_concat.mp hnumbered).2]
  exact .revoked claimId older record hrecords hactive

theorem active_of_version {record : EvidenceRecord} (h : l.version claimId version = .ok record)
    (hactive : record.status = .active) : l.status claimId version = some .active := by
  rw [status_eq, version_eq_ok.mp h, Option.map_some, hactive]

/-- **What a call of the ledger does.** -/
theorem op_change {op : Op} (h : AllChained l) (hok : l.exec op = .ok l') : Change l op l' := by
  cases op with
  | activate payload prior activatedAt => exact activate_change hok
  | revoke claimId version => exact revoke_change h hok
  | addVerification payload =>
    simp only [exec, addVerification, VerificationPayload.parse, bind_eq_ok, throwIf_eq_ok, pure_eq_ok, not_not] at hok
    obtain ⟨_, ⟨-, -, rfl⟩, evidence, hversion, _, hactive, _, -, _, hnew, rfl⟩ := hok
    rw [Bool.not_eq_true, JsMap.has_eq_false_iff] at hnew
    exact .verified payload (active_of_version hversion hactive) hnew
  | withdrawVerification verificationId version =>
    simp only [exec, withdrawVerification] at hok
    split at hok
    · cases hok
    · rename_i record hstored
      simp only [bind_eq_ok, throwIf_eq_ok, pure_eq_ok] at hok
      obtain ⟨_, -, rfl⟩ := hok
      exact .withdrawn verificationId version record hstored
  | openDispute input =>
    simp only [exec, openDispute, bind_eq_ok, throwIf_eq_ok, pure_eq_ok, not_not] at hok
    obtain ⟨_, hnew, evidence, hversion, _, hactive, rfl⟩ := hok
    rw [Bool.not_eq_true, JsMap.has_eq_false_iff] at hnew
    exact .opened input (active_of_version hversion hactive) hnew
  | changeDispute disputeId state =>
    simp only [exec, changeDispute] at hok
    split at hok
    · cases hok
    · rename_i record hstored
      simp only [bind_eq_ok, throwIf_eq_ok, pure_eq_ok, not_not] at hok
      obtain ⟨_, hopen, rfl⟩ := hok
      exact .changed disputeId state record hstored hopen

/-! ### The records of a claim -/

theorem records_set {records : List EvidenceRecord} (h : l'.versions = l.versions.set claimId records) :
    l'.records claimId = records := by
  unfold EvidenceLedger.records
  rw [h, JsMap.get_set_self]
  rfl

theorem records_set_ne {records : List EvidenceRecord} (h : l'.versions = l.versions.set claimId records)
    {other : String} (hne : claimId ≠ other) : l'.records other = l.records other := by
  unfold EvidenceLedger.records
  rw [h, JsMap.get_set_ne _ _ hne]

/-- What a call does to the records of a claim. -/
inductive RecordsChange (records : List EvidenceRecord) : List EvidenceRecord → Prop
  | same : RecordsChange records records
  | first (record : EvidenceRecord) (none : records = []) (one : record.payload.claimVersion = 1)
      (active : record.status = .active) : RecordsChange records [record]
  | next (record : EvidenceRecord) (older : List EvidenceRecord) (last : EvidenceRecord) (eq : records = older ++ [last])
      (lastActive : last.status = .active) (succ : record.payload.claimVersion = last.payload.claimVersion + 1)
      (active : record.status = .active) :
      RecordsChange records (older ++ [{ last with status := .superseded }] ++ [record])
  | revoked (older : List EvidenceRecord) (last : EvidenceRecord) (eq : records = older ++ [last])
      (lastActive : last.status = .active) : RecordsChange records (older ++ [{ last with status := .revoked }])

theorem set_records {records : List EvidenceRecord} (h : l'.versions = l.versions.set claimId records)
    (hchange : RecordsChange (l.records claimId) records) (other : String) :
    RecordsChange (l.records other) (l'.records other) := by
  by_cases heq : claimId = other
  · subst heq
    rwa [records_set h]
  · rw [records_set_ne h heq]
    exact .same

theorem change_records {op : Op} (h : Change l op l') (other : String) :
    RecordsChange (l.records other) (l'.records other) := by
  cases h with
  | first payload activatedAt none one => exact set_records rfl (.first _ none one rfl) other
  | next payload activatedAt older last records active succ =>
    exact set_records rfl (.next _ older last records active succ rfl) other
  | revoked claimId older last records active => exact set_records rfl (.revoked older last records active) other
  | verified => exact .same
  | withdrawn => exact .same
  | opened => exact .same
  | changed => exact .same

/-- The records with another status of the last one are numbered as before. -/
theorem numbered_status {older : List EvidenceRecord} {last : EvidenceRecord}
    (h : Numbered (·.payload.claimVersion) (older ++ [last])) (status : EvidenceLifecycle) :
    Numbered (·.payload.claimVersion) (older ++ [{ last with status := status }]) :=
  numbered_concat.mpr ⟨(numbered_concat.mp h).1, (numbered_concat.mp h).2⟩

theorem records_chained {records records' : List EvidenceRecord} (h : RecordsChange records records')
    (hchained : Chained records) : Chained records' := by
  cases h with
  | same => exact hchained
  | first record _ one active =>
    refine (chained_concat : Chained ([] ++ [record]) ↔ _).mpr ⟨numbered_concat.mpr ⟨numbered_nil, one⟩, by simp, ?_⟩
    rw [active]
    simp
  | next record older last eq lastActive succ active =>
    subst eq
    obtain ⟨hnumbered, holder, -⟩ := chained_concat.mp hchained
    have hlast := (numbered_concat.mp hnumbered).2
    refine chained_concat.mpr ⟨numbered_concat.mpr ⟨numbered_status hnumbered _, ?_⟩, ?_, ?_⟩
    · rw [succ, hlast, List.length_append, List.length_singleton]
    · intro other hother
      obtain hmem | hmem := List.mem_append.mp hother
      · exact holder other hmem
      · rw [List.mem_singleton.mp hmem]
    · rw [active]
      simp
  | revoked older last eq lastActive =>
    subst eq
    obtain ⟨hnumbered, holder, -⟩ := chained_concat.mp hchained
    exact chained_concat.mpr ⟨numbered_status hnumbered _, holder, by simp⟩

theorem change_chained {op : Op} (h : Change l op l') (hl : AllChained l) : AllChained l' :=
  fun claimId => records_chained (change_records h claimId) (hl claimId)

/-- **The versions of every claim are a chain after every run.** -/
theorem after_chained (ops : List Op) : AllChained (after ops) := by
  refine run_invariant (attempt_invariant fun l op l' hok hl => change_chained (op_change hl hok) hl) ops ?_
  intro claimId
  exact chained_nil

/-! ### The versions of a claim as a whole -/

/-- How many records there are and whether the last is revoked. -/
def summary (records : List EvidenceRecord) : ClaimVersions where
  current := records.length
  revoked := records.getLast?.any (·.status = .revoked)
  ended h := by
    cases records with
    | nil => cases h
    | cons => simp

@[simp] theorem summary_concat (older : List EvidenceRecord) (last : EvidenceRecord) :
    (summary (older ++ [last])).current = older.length + 1 ∧
      (summary (older ++ [last])).revoked = decide (last.status = .revoked) := by
  simp [summary]

theorem Chained.status {records : List EvidenceRecord} (h : Chained records) (version : ℕ) :
    (records.find? (·.payload.claimVersion = version)).map (·.status) = (summary records).status version := by
  unfold ClaimVersions.status
  cases version with
  | zero =>
    rw [h.numbered.find?_zero]
    simp
  | succ v =>
    rw [h.numbered.find?_succ]
    obtain rfl | ⟨older, last, rfl⟩ := List.eq_nil_or_concat' records
    · simp [summary]
    · obtain ⟨-, holder, hlast⟩ := chained_concat.mp h
      rw [(summary_concat older last).1, (summary_concat older last).2]
      obtain hlt | heq | hgt := Nat.lt_trichotomy v older.length
      · rw [List.getElem?_append_left hlt, List.getElem?_eq_getElem hlt, Option.map_some,
          holder _ (List.getElem_mem hlt), if_neg (by omega), if_pos (by omega)]
      · subst heq
        simp only [List.getElem?_concat_length, Option.map_some, lt_irrefl, if_false, decide_eq_true_eq]
        cases hstatus : last.status with
        | active => simp
        | revoked => simp
        | superseded => exact absurd hstatus hlast
      · have hout : (older ++ [last])[v]? = Option.none := by
          rw [List.getElem?_eq_none_iff, List.length_append, List.length_singleton]
          omega
        rw [hout, if_pos (by omega)]
        rfl

/-- The versions of a claim. -/
def claim (l : EvidenceLedger) (claimId : String) : ClaimVersions := summary (l.records claimId)

theorem current_eq (h : AllChained l) (claimId : String) : l.current claimId = (l.claim claimId).current :=
  (h claimId).numbered.last

theorem status_claim (h : AllChained l) (claimId : String) (version : ℕ) :
    l.status claimId version = (l.claim claimId).status version := by
  rw [status_eq]
  exact (h claimId).status version

/-- The claim whose versions a call changes. -/
def Op.claimId? : Op → Option String
  | .activate payload _ _ => some payload.claimId
  | .revoke claimId _ => some claimId
  | _ => none

theorem change_other {op : Op} (h : Change l op l') {other : String} (hother : op.claimId? ≠ some other) :
    l'.records other = l.records other := by
  cases h with
  | first payload _ _ _ => exact records_set_ne rfl fun heq => hother (congrArg some heq)
  | next payload _ _ _ _ _ _ => exact records_set_ne rfl fun heq => hother (congrArg some heq)
  | revoked claimId _ _ _ _ => exact records_set_ne rfl fun heq => hother (congrArg some heq)
  | verified => rfl
  | withdrawn => rfl
  | opened => rfl
  | changed => rfl

/-! ### What the ledger accepts -/

theorem activate_claim {payload : EvidencePayload} {prior : ℕ} {activatedAt : ℤ} (h : AllChained l)
    (hok : l.activate payload prior activatedAt = .ok l') :
    (l.claim payload.claimId).activate payload.claimVersion prior = some (l'.claim payload.claimId) := by
  have hset : ∀ records, l'.versions = l.versions.set payload.claimId records → l'.records payload.claimId = records :=
    fun _ heq => records_set heq
  rw [ClaimVersions.activate_eq_some]
  cases activate_change hok with
  | first _ _ none one =>
    unfold claim
    rw [none, hset _ rfl, one]
    simp [summary]
  | next _ _ older last records active succ =>
    have hnumbered : Numbered (·.payload.claimVersion) (older ++ [last]) := records ▸ (h payload.claimId).numbered
    have hlast := (numbered_concat.mp hnumbered).2
    unfold claim
    rw [records, hset _ rfl, succ, hlast]
    simp [summary, active]

theorem revoke_claim (h : AllChained l) (hok : l.revoke claimId version = .ok l') :
    (l.claim claimId).revoke version = some (l'.claim claimId) := by
  have hset : ∀ records, l'.versions = l.versions.set claimId records → l'.records claimId = records :=
    fun _ heq => records_set heq
  rw [ClaimVersions.revoke_eq_some, ClaimVersions.status_eq_active]
  cases revoke_change h hok with
  | revoked _ older last records active =>
    have hnumbered : Numbered (·.payload.claimVersion) (older ++ [last]) := records ▸ (h claimId).numbered
    have hlast := (numbered_concat.mp hnumbered).2
    unfold claim
    rw [records, hset _ rfl, hlast]
    simp [summary, active]

/-- An activation is accepted just where the claim's versions allow it. -/
theorem activate_iff {payload : EvidencePayload} {prior : ℕ} {activatedAt : ℤ} (h : AllChained l) :
    (∃ l', l.activate payload prior activatedAt = .ok l') ↔ isPositiveSafeInteger payload.claimVersion = true ∧
      ∃ c, (l.claim payload.claimId).activate payload.claimVersion prior = some c := by
  constructor
  · rintro ⟨l', hok⟩
    refine ⟨?_, _, activate_claim h hok⟩
    simp only [activate, EvidencePayload.parse, bind_eq_ok, throwIf_eq_ok, pure_eq_ok, not_not] at hok
    obtain ⟨_, ⟨-, hsafe, rfl⟩, -⟩ := hok
    exact hsafe
  · rintro ⟨hsafe, c, hc⟩
    obtain ⟨hprior, hversion, hrevoked, -⟩ := ClaimVersions.activate_eq_some.mp hc
    have hchained := h payload.claimId
    have hlast := hchained.numbered.last
    have hnext := hchained.numbered.any_next
    have hlength : (l.records payload.claimId).length = prior := hprior
    rw [hlength] at hlast hnext
    simp only [activate, EvidencePayload.parse, bind_eq_ok, throwIf_eq_ok, pure_eq_ok, not_not, not_or]
    obtain hnil | ⟨older, last, hrecords⟩ := List.eq_nil_or_concat' (l.records payload.claimId)
    · refine ⟨_, payload, ⟨⟨⟩, hsafe, rfl⟩, ⟨⟩, hlast, ⟨⟩, ⟨hversion, ?_⟩, (l, []), ?_, rfl⟩
      · rw [hversion, hnext]
        simp
      · simp [supersede, hnil]
    · have hactive : last.status = .active := by
        have hends := (chained_concat.mp (hrecords ▸ hchained)).2.2
        unfold claim at hrevoked
        rw [hrecords, (summary_concat older last).2, decide_eq_false_iff_not] at hrevoked
        cases hstatus : last.status with
        | active => rfl
        | revoked => exact absurd hstatus hrevoked
        | superseded => exact absurd hstatus hends
      have hsupersede := supersede_concat payload prior hrecords hactive
      refine ⟨_, payload, ⟨⟨⟩, hsafe, rfl⟩, ⟨⟩, hlast, ⟨⟩, ⟨hversion, ?_⟩, _, hsupersede, rfl⟩
      rw [hversion, hnext]
      simp

/-- A revocation is accepted just where the version is active. -/
theorem revoke_iff (h : AllChained l) :
    (∃ l', l.revoke claimId version = .ok l') ↔ ∃ c, (l.claim claimId).revoke version = some c := by
  constructor
  · rintro ⟨l', hok⟩
    exact ⟨_, revoke_claim h hok⟩
  · rintro ⟨c, hc⟩
    have hactive := (ClaimVersions.revoke_eq_some.mp hc).1
    unfold claim at hactive
    rw [← (h claimId).status, Option.map_eq_some_iff] at hactive
    obtain ⟨record, hfind, hstatus⟩ := hactive
    obtain ⟨older, hrecords, hversion⟩ := (h claimId).active_last hfind hstatus
    have hreplaced := replaceVersion_last h hrecords { record with status := .revoked }
    rw [← hversion] at hreplaced
    simp only [revoke, bind_eq_ok, throwIf_eq_ok, pure_eq_ok, not_not]
    exact ⟨_, record, version_eq_ok.mpr hfind, ⟨⟩, hstatus, _, hreplaced, rfl⟩

/-! ### What ends a version -/

/-- The call supersedes or revokes the version. -/
def Op.Ends : Op → String → ℕ → Prop
  | .activate payload expectedPriorVersion _, claimId, version =>
    payload.claimId = claimId ∧ expectedPriorVersion = version ∧ 0 < version
  | .revoke revoked number, claimId, version => revoked = claimId ∧ number = version
  | _, _, _ => False

instance decidableEnds : ∀ (op : Op) (claimId : String) (version : ℕ), Decidable (op.Ends claimId version)
  | .activate payload prior _, claimId, version =>
    inferInstanceAs (Decidable (payload.claimId = claimId ∧ prior = version ∧ 0 < version))
  | .revoke revoked number, claimId, version => inferInstanceAs (Decidable (revoked = claimId ∧ number = version))
  | .addVerification _, _, _ => inferInstanceAs (Decidable False)
  | .withdrawVerification _ _, _, _ => inferInstanceAs (Decidable False)
  | .openDispute _, _, _ => inferInstanceAs (Decidable False)
  | .changeDispute _ _, _, _ => inferInstanceAs (Decidable False)

theorem status_congr (h : l'.records claimId = l.records claimId) (version : ℕ) :
    l'.status claimId version = l.status claimId version := by
  rw [status_eq, status_eq, h]

/-- The active version of a claim is the last one. -/
theorem active_number {older : List EvidenceRecord} {last : EvidenceRecord} (h : AllChained l)
    (hrecords : l.records claimId = older ++ [last]) (hactive : l.status claimId version = some .active) :
    last.payload.claimVersion = version ∧ 0 < version := by
  rw [status_eq, Option.map_eq_some_iff] at hactive
  obtain ⟨record, hfind, hstatus⟩ := hactive
  obtain ⟨older', heq, hversion⟩ := (h claimId).active_last hfind hstatus
  rw [hrecords] at heq
  obtain ⟨rfl, hlast⟩ := List.append_inj' heq rfl
  have hnumbered : Numbered (·.payload.claimVersion) (older ++ [last]) := hrecords ▸ (h claimId).numbered
  rw [(numbered_concat.mp hnumbered).2, hversion]
  exact ⟨rfl, by omega⟩

/-- An active version stays so unless the call ends it. -/
theorem change_active {op : Op} (h : Change l op l') (hl : AllChained l)
    (hactive : l.status claimId version = some .active) :
    l'.status claimId version = some .active ∨ op.Ends claimId version := by
  by_cases hclaim : op.claimId? = some claimId
  · cases h with
    | first payload _ none _ =>
      obtain rfl : payload.claimId = claimId := Option.some.inj hclaim
      rw [status_eq, none] at hactive
      cases hactive
    | next payload _ older last records _ _ =>
      obtain rfl : payload.claimId = claimId := Option.some.inj hclaim
      exact .inr ⟨rfl, active_number hl records hactive⟩
    | revoked revoked older last records _ =>
      obtain rfl : revoked = claimId := Option.some.inj hclaim
      exact .inr ⟨rfl, (active_number hl records hactive).1⟩
    | verified => cases hclaim
    | withdrawn => cases hclaim
    | opened => cases hclaim
    | changed => cases hclaim
  · rw [status_congr (change_other h hclaim)]
    exact .inl hactive

/-- A version that a call ends is not active after it. -/
theorem change_ends {op : Op} (h : Change l op l') (hl : AllChained l) (hends : op.Ends claimId version) :
    l'.status claimId version ≠ some .active := by
  have hl' := change_chained h hl
  intro hactive
  cases h with
  | first payload _ none one =>
    obtain ⟨-, rfl, hpos⟩ := hends
    exact absurd hpos (lt_irrefl _)
  | next payload activatedAt older last records active succ =>
    obtain ⟨rfl, rfl, -⟩ := hends
    have hnumber := (active_number hl' (records_set rfl) hactive).1
    have hsucc : payload.claimVersion = last.payload.claimVersion := hnumber
    omega
  | revoked claimId older last records active =>
    obtain ⟨rfl, rfl⟩ := hends
    obtain ⟨record, hfind, hstatus⟩ := Option.map_eq_some_iff.mp (status_eq ▸ hactive)
    obtain ⟨older', heq, -⟩ := (hl' claimId).active_last hfind hstatus
    have hrecords := heq.symm.trans (records_set (l := l) rfl)
    obtain ⟨-, hlast⟩ := List.append_inj' hrecords rfl
    obtain rfl := List.singleton_inj.mp hlast
    cases hstatus
  | verified => exact hends
  | withdrawn => exact hends
  | opened => exact hends
  | changed => exact hends

/-! ### Disputes -/

/-- Every open dispute is about an active version. -/
def Supported (l : EvidenceLedger) : Prop :=
  ∀ disputeId dispute, l.disputes.get disputeId = some dispute → dispute.status = .open →
    l.status dispute.claimId dispute.claimVersion = some .active

/-- A dispute that has left open is as it was. -/
def Settled (l l' : EvidenceLedger) : Prop :=
  ∀ disputeId dispute, l.disputes.get disputeId = some dispute → dispute.status ≠ .open →
    l'.disputes.get disputeId = some dispute

theorem closeDispute_settled {status : DisputeLifecycle} {dispute : DisputeRecord} (h : dispute.status ≠ .open) :
    closeDispute claimId version status dispute = dispute := by
  unfold closeDispute
  rw [if_neg fun hmatch => h hmatch.2.2]

/-- What is open after `closeDisputes` was open before, and is not of the
version it closed. -/
theorem closeDispute_open {status : DisputeLifecycle} {dispute dispute' : DisputeRecord} (hstatus : status ≠ .open)
    (h : closeDispute claimId version status dispute = dispute') (hopen : dispute'.status = .open) :
    dispute = dispute' ∧ ¬(claimId = dispute'.claimId ∧ version = dispute'.claimVersion) := by
  unfold closeDispute at h
  split_ifs at h with hmatch
  · subst h
    exact absurd hopen hstatus
  · subst h
    refine ⟨rfl, ?_⟩
    rintro ⟨rfl, rfl⟩
    exact hmatch ⟨rfl, rfl, hopen⟩

/-- An open dispute was there before and the call does not end its version, or
it is about an active version. -/
theorem change_open {op : Op} (h : Change l op l') {disputeId : String} {dispute : DisputeRecord}
    (hget : l'.disputes.get disputeId = some dispute) (hopen : dispute.status = .open) :
    (l.disputes.get disputeId = some dispute ∧ ¬op.Ends dispute.claimId dispute.claimVersion) ∨
      l'.status dispute.claimId dispute.claimVersion = some .active := by
  cases h with
  | first payload _ _ _ =>
    refine .inl ⟨hget, ?_⟩
    rintro ⟨-, hzero, hpos⟩
    omega
  | next payload _ older last _ _ _ =>
    simp only [closeDisputes, JsMap.get_mapValues, Option.map_eq_some_iff] at hget
    obtain ⟨before, hbefore, hclose⟩ := hget
    obtain ⟨rfl, hother⟩ := closeDispute_open (by simp) hclose hopen
    exact .inl ⟨hbefore, fun hends => hother ⟨hends.1, hends.2.1⟩⟩
  | revoked claimId older last _ _ =>
    simp only [closeDisputes, JsMap.get_mapValues, Option.map_eq_some_iff] at hget
    obtain ⟨before, hbefore, hclose⟩ := hget
    obtain ⟨rfl, hother⟩ := closeDispute_open (by simp) hclose hopen
    exact .inl ⟨hbefore, hother⟩
  | verified => exact .inl ⟨hget, id⟩
  | withdrawn => exact .inl ⟨hget, id⟩
  | opened input active _ =>
    rw [JsMap.get_set] at hget
    split_ifs at hget with hid
    · obtain rfl := Option.some.inj hget
      exact .inr active
    · exact .inl ⟨hget, id⟩
  | changed changedId state record _ _ =>
    rw [JsMap.get_set] at hget
    split_ifs at hget with hid
    · obtain rfl := Option.some.inj hget
      cases state <;> cases hopen
    · exact .inl ⟨hget, id⟩

theorem change_supported {op : Op} (h : Change l op l') (hl : AllChained l) (hsupported : Supported l) :
    Supported l' := by
  intro disputeId dispute hget hopen
  obtain ⟨hbefore, hkept⟩ | hactive := change_open h hget hopen
  · obtain hactive | hends := change_active h hl (hsupported disputeId dispute hbefore hopen)
    · exact hactive
    · exact absurd hends hkept
  · exact hactive

theorem change_settled {op : Op} (h : Change l op l') : Settled l l' := by
  intro disputeId dispute hget hleft
  cases h with
  | first => exact hget
  | next =>
    simp only [closeDisputes, JsMap.get_mapValues, hget, Option.map_some, closeDispute_settled hleft]
  | revoked =>
    simp only [closeDisputes, JsMap.get_mapValues, hget, Option.map_some, closeDispute_settled hleft]
  | verified => exact hget
  | withdrawn => exact hget
  | opened input _ new =>
    have hne : input.disputeId ≠ disputeId := by
      rintro rfl
      rw [new] at hget
      cases hget
    simpa only [JsMap.get_set_ne _ _ hne] using hget
  | changed id state record stored pending =>
    have hne : id ≠ disputeId := by
      rintro rfl
      rw [stored] at hget
      obtain rfl := Option.some.inj hget
      exact hleft pending
    simpa only [JsMap.get_set_ne _ _ hne] using hget

/-- **Every open dispute is about an active version, after every run.** -/
theorem after_supported (ops : List Op) : Supported (after ops) := by
  have hboth : AllChained (after ops) ∧ Supported (after ops) := by
    refine run_invariant (I := fun l => AllChained l ∧ Supported l)
      (attempt_invariant fun l op l' hok hl => ?_) ops ⟨fun _ => chained_nil, fun _ _ hget => by cases hget⟩
    have hchange := op_change hl.1 hok
    exact ⟨change_chained hchange hl.1, change_supported hchange hl.1 hl.2⟩
  exact hboth.2

/-- **A dispute that has left open stays as it is.** -/
theorem run_settled (ops more : List Op) : Settled (after ops) (after (ops ++ more)) := by
  unfold after
  rw [run_append]
  refine run_related (I := AllChained) (R := Settled) (fun _ _ _ hget _ => hget)
    (fun s t u hst htu id dispute hget hleft => htu id dispute (hst id dispute hget hleft) hleft)
    (attempt_invariant fun l op l' hok hl => change_chained (op_change hl hok) hl) (fun l op hl => ?_) more
    (after_chained ops)
  obtain heq | ⟨l', hok, heq⟩ := attempt_cases exec l op
  · rw [heq]
    exact fun _ _ hget _ => hget
  · rw [heq]
    exact change_settled (op_change hl hok)

end EvidenceLedger
end Evidence
end Evllm
