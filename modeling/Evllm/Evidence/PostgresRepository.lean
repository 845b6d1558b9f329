/-
# Evidence in PostgreSQL

`src/evidence/postgres-evidence-repository.ts` over the tables that
`db/migrations/000002_central_groups.cjs` creates. An activation is a
transaction of several statements under an advisory lock of its claim; it writes
to `battery_evidence.claims` and to `battery_evidence.evidence_versions`. A
revocation is one statement, without the advisory lock, and writes to the first
table only.

Transactions run one statement at a time, in any order, and any of them can
fail between statements. A statement that finds a lock taken waits: it does not
happen until the lock is free. As under `READ COMMITTED`, a statement sees what
is committed and what its own transaction wrote.

Key definitions: `Tables`, `Transaction`, `Repository`, `step`, `TwoTables`.
Key theorems: `step_sound`, `step_sameStatus`, `evidence_tables_agree`.
-/
import Evllm.Evidence.EvidenceLedger
import Mathlib.Data.List.Forall2

namespace Evllm
namespace Evidence
namespace PostgresEvidenceRepository

open Lib

/-- The fields of an evidence claim that the repository reads. -/
structure ClaimPayload extends EvidencePayload where
  evidenceId : String
  deriving DecidableEq, Repr

/-- A row of either table; `createdAt` in milliseconds. -/
structure Row where
  recordId : String
  recordVersion : ℕ
  status : EvidenceLifecycle
  payload : ClaimPayload
  createdAt : ℤ
  deriving DecidableEq, Repr

/-- `battery_evidence.claims` and `battery_evidence.evidence_versions`. -/
structure Tables where
  claims : List Row
  versions : List Row
  deriving DecidableEq, Repr

/-- `UPDATE … SET status = … WHERE …`. -/
def setStatus (status : EvidenceLifecycle) (where_ : Row → Bool) (rows : List Row) : List Row :=
  rows.map fun row => if where_ row then { row with status := status } else row

/-- The rows of a claim. -/
def Tables.rows (t : Tables) (claimId : String) : List Row := t.claims.filter (·.recordId = claimId)

/-- `… WHERE record_id = $1 ORDER BY record_version`. -/
def Tables.ordered (t : Tables) (claimId : String) : List Row :=
  (t.rows claimId).mergeSort fun row row' => row.recordVersion ≤ row'.recordVersion

/-! ### Statements -/

/-- `record_id = $1 AND record_version = $2 AND status = 'active'`. -/
def Row.isActiveRecord (claimId : String) (version : ℕ) (row : Row) : Bool :=
  row.recordId = claimId ∧ row.recordVersion = version ∧ row.status = .active

/-- `payload->>'claim_id' = $1 AND payload->>'claim_version' = $2 AND status = 'active'`. -/
def Row.isActivePayload (claimId : String) (version : ℕ) (row : Row) : Bool :=
  row.payload.claimId = claimId ∧ row.payload.claimVersion = version ∧ row.status = .active

/-- The statements of an activation that write. -/
inductive Write where
  | supersedeClaim (claimId : String) (version : ℕ)
  | supersedeVersion (claimId : String) (version : ℕ)
  | insertClaim (row : Row)
  | insertVersion (row : Row)
  deriving DecidableEq, Repr

def Write.apply (t : Tables) : Write → Tables
  | .supersedeClaim claimId version =>
    { t with claims := setStatus .superseded (Row.isActiveRecord claimId version) t.claims }
  | .supersedeVersion claimId version =>
    { t with versions := setStatus .superseded (Row.isActivePayload claimId version) t.versions }
  | .insertClaim row => { t with claims := t.claims ++ [row] }
  | .insertVersion row => { t with versions := t.versions ++ [row] }

/-- The primary key of the row is taken already. -/
def Write.Violates (t : Tables) : Write → Prop
  | .insertClaim row => ∃ other ∈ t.claims, other.recordId = row.recordId ∧ other.recordVersion = row.recordVersion
  | .insertVersion row => ∃ other ∈ t.versions, other.recordId = row.recordId ∧ other.recordVersion = row.recordVersion
  | _ => False

/-- Both insert a row of the same primary key in the same table. -/
def Write.Clashes : Write → Write → Prop
  | .insertClaim row, .insertClaim row' => row.recordId = row'.recordId ∧ row.recordVersion = row'.recordVersion
  | .insertVersion row, .insertVersion row' => row.recordId = row'.recordId ∧ row.recordVersion = row'.recordVersion
  | _, _ => False

instance decidableViolates (t : Tables) : ∀ write : Write, Decidable (write.Violates t)
  | .supersedeClaim _ _ => inferInstanceAs (Decidable False)
  | .supersedeVersion _ _ => inferInstanceAs (Decidable False)
  | .insertClaim row => inferInstanceAs (Decidable
      (∃ other ∈ t.claims, other.recordId = row.recordId ∧ other.recordVersion = row.recordVersion))
  | .insertVersion row => inferInstanceAs (Decidable
      (∃ other ∈ t.versions, other.recordId = row.recordId ∧ other.recordVersion = row.recordVersion))

instance decidableClashes : ∀ write write' : Write, Decidable (write.Clashes write')
  | .insertClaim row, .insertClaim row' =>
    inferInstanceAs (Decidable (row.recordId = row'.recordId ∧ row.recordVersion = row'.recordVersion))
  | .insertVersion row, .insertVersion row' =>
    inferInstanceAs (Decidable (row.recordId = row'.recordId ∧ row.recordVersion = row'.recordVersion))
  | .supersedeClaim _ _, _ => inferInstanceAs (Decidable False)
  | .supersedeVersion _ _, _ => inferInstanceAs (Decidable False)
  | .insertClaim _, .supersedeClaim _ _ => inferInstanceAs (Decidable False)
  | .insertClaim _, .supersedeVersion _ _ => inferInstanceAs (Decidable False)
  | .insertClaim _, .insertVersion _ => inferInstanceAs (Decidable False)
  | .insertVersion _, .supersedeClaim _ _ => inferInstanceAs (Decidable False)
  | .insertVersion _, .supersedeVersion _ _ => inferInstanceAs (Decidable False)
  | .insertVersion _, .insertClaim _ => inferInstanceAs (Decidable False)

/-! ### Transactions -/

/-- How far an activation is: begun, under the advisory lock of its claim, or
with the row of the prior version locked and `done` of its statements made. -/
inductive Phase where
  | begun
  | locked
  | writing (priorVersion done : ℕ)
  deriving DecidableEq, Repr

structure Transaction where
  payload : ClaimPayload
  expectedPriorVersion : ℕ
  activatedAt : ℤ
  phase : Phase
  deriving DecidableEq, Repr

/-- The row that an activation inserts into `battery_evidence.claims`. -/
def Transaction.row (tx : Transaction) : Row :=
  ⟨tx.payload.claimId, tx.payload.claimVersion, .active, tx.payload, tx.activatedAt⟩

/-- The row that it inserts into `battery_evidence.evidence_versions`. -/
def Transaction.versionRow (tx : Transaction) : Row := { tx.row with recordId := tx.payload.evidenceId }

/-- The statements after the checks, in their order. -/
def Transaction.statements (tx : Transaction) (priorVersion : ℕ) : List Write :=
  (if 0 < priorVersion then
    [.supersedeClaim tx.payload.claimId priorVersion, .supersedeVersion tx.payload.claimId priorVersion] else []) ++
    [.insertClaim tx.row, .insertVersion tx.versionRow]

/-- What the transaction has written so far. -/
def Transaction.written (tx : Transaction) : List Write :=
  match tx.phase with
  | .writing priorVersion done => (tx.statements priorVersion).take done
  | _ => []

/-- The transaction holds the row of that version since its `SELECT … FOR UPDATE`. -/
def Transaction.LocksRow (tx : Transaction) (claimId : String) (version : ℕ) : Prop :=
  match tx.phase with
  | .writing priorVersion _ => tx.payload.claimId = claimId ∧ priorVersion = version
  | _ => False

instance (tx : Transaction) (claimId : String) (version : ℕ) : Decidable (tx.LocksRow claimId version) :=
  match h : tx.phase with
  | .begun => isFalse (by simp [Transaction.LocksRow, h])
  | .locked => isFalse (by simp [Transaction.LocksRow, h])
  | .writing priorVersion _ => decidable_of_iff (tx.payload.claimId = claimId ∧ priorVersion = version)
      (by simp [Transaction.LocksRow, h])

/-- The committed tables and the transactions that are open. -/
structure Repository where
  tables : Tables
  transactions : JsMap ℕ Transaction
  nextTransaction : ℕ

def Repository.new : Repository := ⟨⟨[], []⟩, .empty, 0⟩

/-- Another open transaction is so. -/
def Repository.Other (s : Repository) (id : ℕ) (P : Transaction → Prop) : Prop :=
  ∃ e ∈ s.transactions.entries, e.1 ≠ id ∧ P e.2

instance (s : Repository) (id : ℕ) (P : Transaction → Prop) [DecidablePred P] : Decidable (s.Other id P) :=
  inferInstanceAs (Decidable (∃ e ∈ s.transactions.entries, e.1 ≠ id ∧ P e.2))

def Repository.rollback (s : Repository) (id : ℕ) : Repository :=
  { s with transactions := s.transactions.delete id }

def Repository.toPhase (s : Repository) (id : ℕ) (tx : Transaction) (phase : Phase) : Repository :=
  { s with transactions := s.transactions.set id { tx with phase := phase } }

/-- `SELECT record_version, status … FOR UPDATE`, and the checks of what it
finds. -/
def Repository.read (s : Repository) (id : ℕ) (tx : Transaction) : Repository :=
  let current := (s.tables.ordered tx.payload.claimId).getLast?
  let priorVersion := (current.map (·.recordVersion)).getD 0
  if priorVersion ≠ tx.expectedPriorVersion ∨ tx.payload.claimVersion ≠ priorVersion + 1 then s.rollback id
  else if 0 < priorVersion ∧ current.map (·.status) ≠ some .active then s.rollback id
  else s.toPhase id tx (.writing priorVersion 0)

def Repository.commit (s : Repository) (id : ℕ) (writes : List Write) : Repository :=
  { s.rollback id with tables := writes.foldl Write.apply s.tables }

/-- The next statement of a transaction. -/
def Repository.advance (lockKey : String → UInt64) (s : Repository) (id : ℕ) : Repository :=
  match s.transactions.get id with
  | none => s
  | some tx =>
    match tx.phase with
    | .begun =>
      if s.Other id fun other => other.phase ≠ .begun ∧ lockKey other.payload.claimId = lockKey tx.payload.claimId then s
      else s.toPhase id tx .locked
    | .locked =>
      if s.Other id fun other => other.LocksRow tx.payload.claimId
          (((s.tables.ordered tx.payload.claimId).getLast?.map (·.recordVersion)).getD 0) then s
      else s.read id tx
    | .writing priorVersion done =>
      match (tx.statements priorVersion)[done]? with
      | none => s.commit id (tx.statements priorVersion)
      | some write =>
        if write.Violates s.tables then s.rollback id
        else if s.Other id fun other => ∃ pending ∈ other.written, write.Clashes pending then s
        else s.toPhase id tx (.writing priorVersion (done + 1))

/-- The `UPDATE` of `revoke`. -/
def Tables.revoked (t : Tables) (claimId : String) (version : ℕ) : Tables :=
  { t with claims := setStatus .revoked (Row.isActiveRecord claimId version) t.claims }

/-- `revoke`: the `UPDATE` waits for a transaction that holds the row. -/
def Repository.revoke (s : Repository) (claimId : String) (version : ℕ) : Repository :=
  if ∃ e ∈ s.transactions.entries, e.2.LocksRow claimId version then s
  else { s with tables := s.tables.revoked claimId version }

/-- What can happen: a call of `activate`, a statement of an open transaction,
the failure of one, a call of `revoke`. -/
inductive Action where
  | activate (payload : ClaimPayload) (expectedPriorVersion : ℕ) (activatedAt : ℤ)
  | advance (id : ℕ)
  | fail (id : ℕ)
  | revoke (claimId : String) (version : ℕ)

def step (lockKey : String → UInt64) (s : Repository) : Action → Repository
  | .activate payload expectedPriorVersion activatedAt =>
    if isPositiveSafeInteger payload.claimVersion then
      { s with
        transactions := s.transactions.set s.nextTransaction ⟨payload, expectedPriorVersion, activatedAt, .begun⟩
        nextTransaction := s.nextTransaction + 1 }
    else s
  | .advance id => s.advance lockKey id
  | .fail id => s.rollback id
  | .revoke claimId version => s.revoke claimId version

def after (lockKey : String → UInt64) (actions : List Action) : Repository := run (step lockKey) .new actions

/-- What a row is to the callers of `history`. -/
def Row.record (row : Row) : EvidenceRecord := ⟨row.createdAt / 1000, row.payload.toEvidencePayload, row.status⟩

/-- `history`: the payloads that are stored are parsed again. -/
def history (t : Tables) (claimId : String) : Except EvidenceLedgerError (List EvidenceRecord) :=
  (t.ordered claimId).mapM fun row => do
    let payload ← row.payload.toEvidencePayload.parse
    return ⟨row.createdAt / 1000, payload, row.status⟩

/-! ### What is to hold -/

/-- The row is of that version of the claim. -/
def Row.carries (claimId : String) (version : ℕ) (row : Row) : Bool :=
  row.payload.claimId = claimId ∧ row.payload.claimVersion = version

/-- The two tables say the same: every claim version has one row in each, of
the same status; at most one version of a claim is active; and `history` lists
the versions of a claim from one on, all but the last superseded. -/
structure TwoTables (t : Tables) : Prop where
  rows : ∀ claimId version, (∃ row ∈ t.claims ++ t.versions, row.carries claimId version = true) →
    ∃ claim evidence, t.claims.filter (Row.carries claimId version) = [claim] ∧
      t.versions.filter (Row.carries claimId version) = [evidence] ∧ claim.status = evidence.status
  active : ∀ row ∈ t.claims, ∀ row' ∈ t.claims, row.recordId = row'.recordId → row.status = .active →
    row'.status = .active → row.recordVersion = row'.recordVersion
  history : ∀ claimId, ∃ records, history t claimId = .ok records ∧ Numbered (·.payload.claimVersion) records ∧
    ∀ record ∈ records.dropLast, record.status = .superseded

/-- The call does not revoke: it finds no active row, or waits for the
transaction that holds it. -/
def Unrevoking (s : Repository) : Action → Prop
  | .revoke claimId version =>
    (∃ row ∈ s.tables.claims, row.isActiveRecord claimId version = true) →
      ∃ e ∈ s.transactions.entries, e.2.LocksRow claimId version
  | _ => True

/-! ### Rows -/

section Rows

variable {t : Tables} {rows : List Row} {status : EvidenceLifecycle} {claimId other : String} {version : ℕ}

/-- The rows that an activation inserts. -/
structure Pair (claim evidence : Row) : Prop where
  payload : evidence.payload = claim.payload
  recordId : claim.recordId = claim.payload.claimId
  recordVersion : claim.recordVersion = claim.payload.claimVersion
  safe : isPositiveSafeInteger claim.payload.claimVersion = true

/-- The records of a claim, in the order of the table. -/
def Tables.records (t : Tables) (claimId : String) : List EvidenceRecord := (t.rows claimId).map Row.record

/-- What the committed tables are at all times. -/
structure Stored (t : Tables) : Prop where
  paired : List.Forall₂ Pair t.claims t.versions
  chained : ∀ claimId, EvidenceLedger.Chained (t.records claimId)

theorem Stored.row (h : Stored t) {row : Row} (hrow : row ∈ t.claims) :
    row.recordId = row.payload.claimId ∧ row.recordVersion = row.payload.claimVersion ∧
      isPositiveSafeInteger row.payload.claimVersion = true := by
  obtain ⟨i, hi, hget⟩ := List.getElem_of_mem hrow
  have hlength := h.paired.length_eq
  have hpair := h.paired.get hi (hlength ▸ hi)
  rw [List.get_eq_getElem, hget] at hpair
  exact ⟨hpair.recordId, hpair.recordVersion, hpair.safe⟩

theorem mem_rows {row : Row} : row ∈ t.rows claimId ↔ row ∈ t.claims ∧ row.recordId = claimId := by
  simp [Tables.rows]

theorem Stored.numbered (h : Stored t) (claimId : String) : Numbered (·.recordVersion) (t.rows claimId) := by
  intro i row hrow
  have hmem := mem_rows.mp (List.mem_of_getElem? hrow)
  have hrecord : (t.records claimId)[i]? = some row.record := by
    rw [Tables.records, List.getElem?_map, hrow, Option.map_some]
  have hversion : row.recordVersion = row.payload.claimVersion := (h.row hmem.1).2.1
  exact hversion.trans ((h.chained claimId).numbered i row.record hrecord)

/-- The rows of a claim are in the order of their versions. -/
theorem Stored.ordered (h : Stored t) (claimId : String) : t.ordered claimId = t.rows claimId := by
  have hnumbered := h.numbered claimId
  unfold Tables.ordered
  apply List.mergeSort_of_pairwise
  rw [List.pairwise_iff_getElem]
  intro i j hi hj hlt
  have hleft : (t.rows claimId)[i].recordVersion = i + 1 := hnumbered i _ (List.getElem?_eq_getElem hi)
  have hright : (t.rows claimId)[j].recordVersion = j + 1 := hnumbered j _ (List.getElem?_eq_getElem hj)
  simp only [decide_eq_true_eq]
  omega

theorem Stored.priorVersion (h : Stored t) (claimId : String) :
    ((t.ordered claimId).getLast?.map (·.recordVersion)).getD 0 = (t.rows claimId).length := by
  rw [h.ordered claimId]
  exact (h.numbered claimId).last

theorem setStatus_of_none {where_ : Row → Bool} (h : ∀ row ∈ rows, where_ row = false) :
    setStatus status where_ rows = rows := by
  unfold setStatus
  rw [List.map_congr_left (g := id), List.map_id]
  intro row hrow
  simp [h row hrow]

/-- The rows of a claim after an `UPDATE` of the table. -/
theorem rows_setStatus (where_ : Row → Bool) :
    (setStatus status where_ t.claims).filter (·.recordId = claimId) = setStatus status where_ (t.rows claimId) := by
  unfold setStatus Tables.rows
  rw [List.filter_map]
  congr 1
  apply List.filter_congr
  intro row _
  simp only [Function.comp_apply]
  split_ifs <;> rfl

theorem rows_setStatus_other (h : other ≠ claimId) :
    (setStatus status (Row.isActiveRecord claimId version) t.claims).filter (·.recordId = other) = t.rows other := by
  rw [rows_setStatus]
  apply setStatus_of_none
  intro row hrow
  have hid := (mem_rows.mp hrow).2
  simp [Row.isActiveRecord, hid, h]

/-- An active row is the last of its claim. -/
theorem Stored.active_last (h : Stored t) {row : Row} (hrow : row ∈ t.claims)
    (hactive : row.isActiveRecord claimId version = true) :
    ∃ older, t.rows claimId = older ++ [row] ∧ version = older.length + 1 := by
  obtain ⟨hid, hversion, hstatus⟩ := of_decide_eq_true hactive
  obtain ⟨i, hi⟩ := List.mem_iff_getElem?.mp (mem_rows.mpr ⟨hrow, hid⟩)
  have hnumber : row.recordVersion = i + 1 := h.numbered claimId i row hi
  have hrecord : (t.records claimId)[i]? = some row.record := by
    rw [Tables.records, List.getElem?_map, hi, Option.map_some]
  have hfind : (t.records claimId).find? (·.payload.claimVersion = i + 1) = some row.record := by
    rw [(h.chained claimId).numbered.find?_succ, hrecord]
  obtain ⟨records, heq, hlength⟩ := (h.chained claimId).active_last hfind hstatus
  have hcount : (t.rows claimId).length = i + 1 := by
    have hmap := congrArg List.length heq
    rw [Tables.records, List.length_map, List.length_append, List.length_singleton] at hmap
    omega
  obtain hnil | ⟨older, last, hrows⟩ := List.eq_nil_or_concat' (t.rows claimId)
  · rw [hnil] at hi
    simp at hi
  · rw [hrows, List.length_append, List.length_singleton] at hcount
    have hplace : i = older.length := by omega
    rw [hrows, hplace, List.getElem?_concat_length] at hi
    obtain rfl := Option.some.inj hi
    exact ⟨older, hrows, by omega⟩

/-- An `UPDATE` of the active version of a claim changes its last row. -/
theorem Stored.rows_updated (h : Stored t) (status : EvidenceLifecycle) {older : List Row} {last : Row} (hrows : t.rows claimId = older ++ [last])
    (hstatus : last.status = .active) :
    (setStatus status (Row.isActiveRecord claimId (older.length + 1)) t.claims).filter (·.recordId = claimId) =
      older ++ [{ last with status := status }] := by
  have hnumbered := h.numbered claimId
  rw [hrows] at hnumbered
  have hlast : last.recordVersion = older.length + 1 := (numbered_concat.mp hnumbered).2
  have hid : last.recordId = claimId := (mem_rows.mp (hrows ▸ List.mem_concat_self)).2
  have holder : setStatus status (Row.isActiveRecord claimId (older.length + 1)) older = older := by
    apply setStatus_of_none
    intro row hrow
    obtain ⟨i, hi⟩ := List.mem_iff_getElem?.mp hrow
    have hlt : i < older.length := (List.getElem?_eq_some_iff.mp hi).1
    have hnumber : row.recordVersion = i + 1 := (numbered_concat.mp hnumbered).1 i row hi
    have hne : row.recordVersion ≠ older.length + 1 := by omega
    simp [Row.isActiveRecord, hne]
  rw [rows_setStatus, hrows]
  unfold setStatus at holder ⊢
  rw [List.map_append, holder, List.map_singleton, if_pos]
  simp [Row.isActiveRecord, hid, hlast, hstatus]

end Rows

/-! ### The two tables -/

section Agreement

variable {t : Tables} {claimId : String} {version : ℕ}

/-- The rows of the two tables are of the same status. -/
def SameStatus (t : Tables) : Prop :=
  List.Forall₂ (fun claim evidence => Pair claim evidence ∧ claim.status = evidence.status) t.claims t.versions

/-- A claim version has one row. -/
theorem Stored.one_row (h : Stored t) {row : Row} (hrow : row ∈ t.claims)
    (hcarries : row.carries claimId version = true) : t.claims.filter (Row.carries claimId version) = [row] := by
  obtain ⟨hid, hversion⟩ := of_decide_eq_true hcarries
  obtain ⟨hrecordId, hrecordVersion, -⟩ := h.row hrow
  obtain ⟨i, hi⟩ := List.mem_iff_getElem?.mp (mem_rows.mpr ⟨hrow, hrecordId.trans hid⟩)
  have hnumber : row.recordVersion = i + 1 := h.numbered claimId i row hi
  have hfilter := (h.numbered claimId).filter_succ hi
  rw [Tables.rows, List.filter_filter] at hfilter
  rw [← hfilter]
  apply List.filter_congr
  intro other hother
  obtain ⟨hotherId, hotherVersion, -⟩ := h.row hother
  have hplace : i + 1 = version := by omega
  simp only [Row.carries, hotherId, hotherVersion, hplace]
  rw [Bool.eq_iff_iff]
  simp [and_comm]

/-- The rows of a claim version in the two tables. -/
theorem SameStatus.filter (h : SameStatus t) (claimId : String) (version : ℕ) :
    List.Forall₂ (fun claim evidence => Pair claim evidence ∧ claim.status = evidence.status)
      (t.claims.filter (Row.carries claimId version)) (t.versions.filter (Row.carries claimId version)) := by
  refine List.rel_filter ?_ h
  rintro claim evidence ⟨hpair, -⟩
  simp only [Row.carries, hpair.payload]

theorem Stored.history (h : Stored t) (claimId : String) : history t claimId = .ok (t.records claimId) := by
  have hparse : ∀ rows : List Row, (∀ row ∈ rows, isPositiveSafeInteger row.payload.claimVersion = true) →
      rows.mapM (fun row => do
        let payload ← row.payload.toEvidencePayload.parse
        return (⟨row.createdAt / 1000, payload, row.status⟩ : EvidenceRecord)) =
        (.ok (rows.map Row.record) : Except EvidenceLedgerError (List EvidenceRecord)) := by
    intro rows hrows
    induction rows with
    | nil => rfl
    | cons row rows ih =>
      have hsafe := hrows row List.mem_cons_self
      rw [List.mapM_cons, ih fun other hother => hrows other (List.mem_cons_of_mem _ hother)]
      simp only [EvidencePayload.parse, bind_eq_ok, throwIf_eq_ok, pure_eq_ok]
      exact ⟨_, ⟨_, ⟨⟨⟩, not_not.mpr hsafe, rfl⟩, rfl⟩, _, rfl, rfl⟩
  unfold PostgresEvidenceRepository.history
  rw [h.ordered claimId]
  exact hparse _ fun row hrow => (h.row (mem_rows.mp hrow).1).2.2

/-- The two tables say the same just if their rows are of the same status. -/
theorem Stored.twoTables_iff (h : Stored t) : TwoTables t ↔ SameStatus t := by
  constructor
  · intro htables
    refine List.forall₂_iff_zip.mpr ⟨h.paired.length_eq, fun {claim evidence} hzip => ?_⟩
    have hpair : Pair claim evidence := List.forall₂_zip h.paired hzip
    obtain ⟨hclaim, hevidence⟩ := List.of_mem_zip hzip
    have hcarries : claim.carries claim.payload.claimId claim.payload.claimVersion = true := by simp [Row.carries]
    have hcarries' : evidence.carries claim.payload.claimId claim.payload.claimVersion = true := by
      simp [Row.carries, hpair.payload]
    obtain ⟨one, two, hone, htwo, hstatus⟩ := htables.rows _ _
      ⟨claim, List.mem_append_left _ hclaim, hcarries⟩
    have hmem : claim ∈ [one] := hone ▸ List.mem_filter.mpr ⟨hclaim, hcarries⟩
    have hmem' : evidence ∈ [two] := htwo ▸ List.mem_filter.mpr ⟨hevidence, hcarries'⟩
    rw [List.mem_singleton.mp hmem, List.mem_singleton.mp hmem'] at hpair ⊢
    exact ⟨hpair, hstatus⟩
  · intro hsame
    refine ⟨fun claimId version hrow => ?_, fun row hrow row' hrow' hid hactive hactive' => ?_, fun claimId => ?_⟩
    · have hfilter := hsame.filter claimId version
      have hclaims : ∃ row ∈ t.claims, row.carries claimId version = true := by
        obtain ⟨row, hmem, hcarries⟩ := hrow
        obtain hmem | hmem := List.mem_append.mp hmem
        · exact ⟨row, hmem, hcarries⟩
        · have hne : t.versions.filter (Row.carries claimId version) ≠ [] :=
            List.ne_nil_of_mem (List.mem_filter.mpr ⟨hmem, hcarries⟩)
          have hne' : t.claims.filter (Row.carries claimId version) ≠ [] := by
            rw [← List.length_pos_iff, hfilter.length_eq, List.length_pos_iff]
            exact hne
          obtain ⟨claim, hclaim⟩ := List.exists_mem_of_ne_nil _ hne'
          exact ⟨claim, (List.mem_filter.mp hclaim).1, (List.mem_filter.mp hclaim).2⟩
      obtain ⟨claim, hclaim, hcarries⟩ := hclaims
      have hone := h.one_row hclaim hcarries
      rw [hone] at hfilter
      generalize hversions : t.versions.filter (Row.carries claimId version) = versions at hfilter
      obtain ⟨evidence, rfl, hstatus⟩ : ∃ evidence, versions = [evidence] ∧ claim.status = evidence.status := by
        cases hfilter with
        | cons hpair hnil =>
          cases hnil
          exact ⟨_, rfl, hpair.2⟩
      exact ⟨claim, evidence, hone, rfl, hstatus⟩
    · have hlast : row.isActiveRecord row.recordId row.recordVersion = true := by simp [Row.isActiveRecord, hactive]
      have hlast' : row'.isActiveRecord row.recordId row'.recordVersion = true := by
        simp [Row.isActiveRecord, hid, hactive']
      obtain ⟨older, hrows, hversion⟩ := h.active_last hrow hlast
      obtain ⟨older', hrows', hversion'⟩ := h.active_last hrow' hlast'
      rw [hrows] at hrows'
      have hlength := congrArg List.length hrows'
      rw [List.length_append, List.length_append] at hlength
      simp only [List.length_singleton] at hlength
      omega
    · have hchained := h.chained claimId
      exact ⟨_, h.history claimId, hchained.numbered, hchained.older⟩

end Agreement

/-! ### A commit -/

section Commit

variable {t : Tables} {tx : Transaction} {priorVersion : ℕ}

/-- What the `SELECT` of an activation found, and its checks let pass. -/
structure Reads (t : Tables) (tx : Transaction) (priorVersion : ℕ) : Prop where
  version : tx.payload.claimVersion = priorVersion + 1
  prior : (t.rows tx.payload.claimId).length = priorVersion
  active : ∀ row ∈ (t.rows tx.payload.claimId).getLast?, row.status = .active

theorem Reads.congr {t' : Tables} (h : Reads t tx priorVersion)
    (hrows : t'.rows tx.payload.claimId = t.rows tx.payload.claimId) : Reads t' tx priorVersion := by
  refine ⟨h.version, ?_, ?_⟩
  · rw [hrows]
    exact h.prior
  · rw [hrows]
    exact h.active

/-- The tables after the transaction. -/
def Transaction.committed (tx : Transaction) (priorVersion : ℕ) (t : Tables) : Tables :=
  (tx.statements priorVersion).foldl Write.apply t

theorem committed_first (tx : Transaction) (t : Tables) :
    tx.committed 0 t = ⟨t.claims ++ [tx.row], t.versions ++ [tx.versionRow]⟩ := rfl

theorem committed_next (tx : Transaction) (v : ℕ) (t : Tables) : tx.committed (v + 1) t =
    ⟨setStatus .superseded (Row.isActiveRecord tx.payload.claimId (v + 1)) t.claims ++ [tx.row],
      setStatus .superseded (Row.isActivePayload tx.payload.claimId (v + 1)) t.versions ++ [tx.versionRow]⟩ := rfl

theorem pair_row (h : isPositiveSafeInteger tx.payload.claimVersion = true) : Pair tx.row tx.versionRow :=
  ⟨rfl, rfl, rfl, h⟩

theorem pair_setStatus (status status' : EvidenceLifecycle) (where_ where' : Row → Bool)
    {claims versions : List Row} (h : List.Forall₂ Pair claims versions) :
    List.Forall₂ Pair (setStatus status where_ claims) (setStatus status' where' versions) := by
  unfold setStatus
  rw [List.forall₂_map_left_iff, List.forall₂_map_right_iff]
  refine h.imp fun claim evidence hpair => ?_
  obtain ⟨hpayload, hid, hversion, hsafe⟩ := hpair
  split_ifs <;> exact ⟨hpayload, hid, hversion, hsafe⟩

/-- The two statements that supersede find the rows of the same version. -/
theorem same_supersede {claims versions : List Row} (claimId : String) (version : ℕ)
    (h : List.Forall₂ (fun claim evidence => Pair claim evidence ∧ claim.status = evidence.status) claims versions) :
    List.Forall₂ (fun claim evidence => Pair claim evidence ∧ claim.status = evidence.status)
      (setStatus .superseded (Row.isActiveRecord claimId version) claims)
      (setStatus .superseded (Row.isActivePayload claimId version) versions) := by
  unfold setStatus
  rw [List.forall₂_map_left_iff, List.forall₂_map_right_iff]
  refine h.imp fun claim evidence hpair => ?_
  obtain ⟨⟨hpayload, hid, hversion, hsafe⟩, hstatus⟩ := hpair
  have hwhere : evidence.isActivePayload claimId version = claim.isActiveRecord claimId version := by
    unfold Row.isActivePayload Row.isActiveRecord
    rw [hpayload, hid, hversion, hstatus]
  rw [hwhere]
  split_ifs
  · exact ⟨⟨hpayload, hid, hversion, hsafe⟩, rfl⟩
  · exact ⟨⟨hpayload, hid, hversion, hsafe⟩, hstatus⟩

/-- What a commit does to the rows of a claim. -/
theorem committed_rows (h : Stored t) (hread : Reads t tx priorVersion) :
    EvidenceLedger.RecordsChange (t.records tx.payload.claimId) ((tx.committed priorVersion t).records tx.payload.claimId) ∧
      ∀ other, other ≠ tx.payload.claimId → (tx.committed priorVersion t).rows other = t.rows other := by
  have hself : [tx.row].filter (·.recordId = tx.payload.claimId) = [tx.row] := by simp [Transaction.row]
  have hnot : ∀ other, other ≠ tx.payload.claimId → [tx.row].filter (·.recordId = other) = [] := by
    intro other hother
    simp [Transaction.row, Ne.symm hother]
  cases priorVersion with
  | zero =>
    rw [committed_first]
    have hnil : t.rows tx.payload.claimId = [] := List.length_eq_zero_iff.mp hread.prior
    refine ⟨?_, fun other hother => ?_⟩
    · unfold Tables.records Tables.rows
      rw [List.filter_append, hself]
      unfold Tables.rows at hnil
      rw [hnil]
      exact .first tx.row.record rfl hread.version rfl
    · unfold Tables.rows
      rw [List.filter_append, hnot other hother, List.append_nil]
  | succ v =>
    rw [committed_next]
    obtain hnil | ⟨older, last, hrows⟩ := List.eq_nil_or_concat' (t.rows tx.payload.claimId)
    · have hprior := hread.prior
      rw [hnil] at hprior
      cases hprior
    · have hlength : older.length = v := by
        have hprior := hread.prior
        rw [hrows, List.length_append, List.length_singleton] at hprior
        omega
      have hactive : last.status = .active := hread.active last (by rw [hrows]; simp)
      have hmem : last ∈ t.rows tx.payload.claimId := by
        rw [hrows]
        exact List.mem_concat_self
      have hlast : last.payload.claimVersion = v + 1 := by
        have hnumbered := h.numbered tx.payload.claimId
        rw [hrows] at hnumbered
        have hversion : last.recordVersion = older.length + 1 := (numbered_concat.mp hnumbered).2
        have hrow := h.row (mem_rows.mp hmem).1
        omega
      have hupdated := h.rows_updated .superseded hrows hactive
      rw [hlength] at hupdated
      refine ⟨?_, fun other hother => ?_⟩
      · have hrecords : t.records tx.payload.claimId = older.map Row.record ++ [last.record] := by
          rw [Tables.records, hrows, List.map_append, List.map_singleton]
        have hsucc : tx.row.record.payload.claimVersion = last.record.payload.claimVersion + 1 := by
          show tx.payload.claimVersion = last.payload.claimVersion + 1
          rw [hlast]
          exact hread.version
        have hchange := EvidenceLedger.RecordsChange.next tx.row.record _ last.record hrecords hactive hsucc rfl
        unfold Tables.records Tables.rows at hchange ⊢
        rw [List.filter_append, hself, hupdated, List.map_append, List.map_append]
        exact hchange
      · unfold Tables.rows
        rw [List.filter_append, hnot other hother, List.append_nil]
        exact rows_setStatus_other hother

theorem committed_paired (h : List.Forall₂ Pair t.claims t.versions)
    (hsafe : isPositiveSafeInteger tx.payload.claimVersion = true) :
    List.Forall₂ Pair (tx.committed priorVersion t).claims (tx.committed priorVersion t).versions := by
  have hrow : List.Forall₂ Pair [tx.row] [tx.versionRow] := .cons (pair_row hsafe) .nil
  cases priorVersion with
  | zero =>
    rw [committed_first]
    exact List.rel_append h hrow
  | succ v =>
    rw [committed_next]
    exact List.rel_append (pair_setStatus _ _ _ _ h) hrow

theorem committed_sameStatus (h : SameStatus t) (hsafe : isPositiveSafeInteger tx.payload.claimVersion = true) :
    SameStatus (tx.committed priorVersion t) := by
  have hrow : List.Forall₂ (fun claim evidence => Pair claim evidence ∧ claim.status = evidence.status)
      [tx.row] [tx.versionRow] := .cons ⟨pair_row hsafe, rfl⟩ .nil
  cases priorVersion with
  | zero =>
    rw [committed_first]
    exact List.rel_append h hrow
  | succ v =>
    rw [committed_next]
    exact List.rel_append (same_supersede _ _ h) hrow

theorem Stored.committed (h : Stored t) (hread : Reads t tx priorVersion)
    (hsafe : isPositiveSafeInteger tx.payload.claimVersion = true) : Stored (tx.committed priorVersion t) := by
  obtain ⟨hchange, hothers⟩ := committed_rows h hread
  refine ⟨committed_paired h.paired hsafe, fun claimId => ?_⟩
  by_cases heq : claimId = tx.payload.claimId
  · subst heq
    exact EvidenceLedger.records_chained hchange (h.chained _)
  · unfold Tables.records
    rw [hothers claimId heq]
    exact h.chained claimId

end Commit

/-! ### A revocation -/

section Revocation

variable {t : Tables} {claimId : String} {version : ℕ}

theorem revoked_of_none (h : ∀ row ∈ t.claims, row.isActiveRecord claimId version = false) :
    t.revoked claimId version = t := by
  unfold Tables.revoked
  rw [setStatus_of_none h]

theorem revoked_rows_other {other : String} (h : other ≠ claimId) : (t.revoked claimId version).rows other = t.rows other :=
  rows_setStatus_other h

theorem Stored.revoked (h : Stored t) (claimId : String) (version : ℕ) : Stored (t.revoked claimId version) := by
  by_cases hsome : ∃ row ∈ t.claims, row.isActiveRecord claimId version = true
  · obtain ⟨row, hrow, hactive⟩ := hsome
    obtain ⟨older, hrows, rfl⟩ := h.active_last hrow hactive
    have hstatus : row.status = .active := (of_decide_eq_true hactive).2.2
    refine ⟨?_, fun other => ?_⟩
    · have hversions : setStatus .revoked (fun _ => false) t.versions = t.versions :=
        setStatus_of_none fun _ _ => rfl
      have hpaired := pair_setStatus .revoked .revoked (Row.isActiveRecord claimId (older.length + 1)) (fun _ => false)
        h.paired
      rwa [hversions] at hpaired
    · by_cases heq : other = claimId
      · subst heq
        have hrecords : t.records other = older.map Row.record ++ [row.record] := by
          rw [Tables.records, hrows, List.map_append, List.map_singleton]
        have hchange := EvidenceLedger.RecordsChange.revoked _ row.record hrecords hstatus
        have hupdated := h.rows_updated .revoked hrows hstatus
        refine EvidenceLedger.records_chained ?_ (h.chained other)
        unfold Tables.records Tables.rows at hchange ⊢
        unfold Tables.revoked
        rw [hupdated, List.map_append]
        exact hchange
      · unfold Tables.records
        rw [revoked_rows_other heq]
        exact h.chained other
  · rw [revoked_of_none]
    · exact h
    · intro row hrow
      rw [← Bool.not_eq_true]
      exact fun hactive => hsome ⟨row, hrow, hactive⟩

/-- A revocation that finds an active row leaves the two tables apart. -/
theorem revoked_apart (h : Stored t) (hsame : SameStatus t) {row : Row} (hrow : row ∈ t.claims)
    (hactive : row.isActiveRecord claimId version = true) : ¬SameStatus (t.revoked claimId version) := by
  intro hafter
  obtain ⟨i, hi, hget⟩ := List.getElem_of_mem hrow
  have hlength := h.paired.length_eq
  have hbefore := (hsame.get hi (hlength ▸ hi)).2
  have hi' : i < (t.revoked claimId version).claims.length := by
    simpa [Tables.revoked, setStatus] using hi
  have hrevoked := (hafter.get hi' (hlength ▸ hi)).2
  have hrow' : (t.revoked claimId version).claims[i] = { row with status := .revoked } := by
    simp [Tables.revoked, setStatus, hget, hactive]
  rw [List.get_eq_getElem, List.get_eq_getElem, hget] at hbefore
  rw [List.get_eq_getElem, List.get_eq_getElem, hrow'] at hrevoked
  have hstatus : row.status = .active := (of_decide_eq_true hactive).2.2
  have hcontra : EvidenceLifecycle.revoked = .active := hrevoked.trans (hbefore.symm.trans hstatus)
  cases hcontra

end Revocation

/-! ### The open transactions -/

section Transactions

variable {lockKey : String → UInt64} {s : Repository} {id : ℕ} {tx : Transaction}

/-- What every step keeps: no two transactions past their lock are of the same
key, and what a transaction has read is so until it ends. -/
structure Sound (lockKey : String → UInt64) (s : Repository) : Prop where
  stored : Stored s.tables
  fresh : ∀ i tx, s.transactions.get i = some tx → i < s.nextTransaction
  safe : ∀ i tx, s.transactions.get i = some tx → isPositiveSafeInteger tx.payload.claimVersion = true
  locks : ∀ i j tx tx', s.transactions.get i = some tx → s.transactions.get j = some tx' → i ≠ j → tx.phase ≠ .begun →
    tx'.phase ≠ .begun → lockKey tx.payload.claimId ≠ lockKey tx'.payload.claimId
  reads : ∀ i tx priorVersion done, s.transactions.get i = some tx → tx.phase = .writing priorVersion done →
    Reads s.tables tx priorVersion

theorem new_sound (lockKey : String → UInt64) : Sound lockKey .new where
  stored := ⟨.nil, fun _ => EvidenceLedger.chained_nil⟩
  fresh _ _ hget := by cases hget
  safe _ _ hget := by cases hget
  locks _ _ _ _ hget := by cases hget
  reads _ _ _ _ hget := by cases hget

theorem other_iff {P : Transaction → Prop} :
    s.Other id P ↔ ∃ j tx, s.transactions.get j = some tx ∧ j ≠ id ∧ P tx := by
  unfold Repository.Other
  constructor
  · rintro ⟨⟨j, tx⟩, hmem, hne, htx⟩
    exact ⟨j, tx, (JsMap.get_eq_some_iff _ _ _).mpr hmem, hne, htx⟩
  · rintro ⟨j, tx, hget, hne, htx⟩
    exact ⟨(j, tx), (JsMap.get_eq_some_iff _ _ _).mp hget, hne, htx⟩

/-- A new transaction has not read anything and holds no lock. -/
theorem Sound.begin (h : Sound lockKey s) {payload : ClaimPayload} {expectedPriorVersion : ℕ} {activatedAt : ℤ}
    (hsafe : isPositiveSafeInteger payload.claimVersion = true) :
    Sound lockKey { s with
      transactions := s.transactions.set s.nextTransaction ⟨payload, expectedPriorVersion, activatedAt, .begun⟩
      nextTransaction := s.nextTransaction + 1 } := by
  have hcases : ∀ i tx', (s.transactions.set s.nextTransaction
      ⟨payload, expectedPriorVersion, activatedAt, .begun⟩).get i = some tx' →
      (i = s.nextTransaction ∧ tx' = ⟨payload, expectedPriorVersion, activatedAt, .begun⟩) ∨
        s.transactions.get i = some tx' := by
    intro i tx' hi
    rw [JsMap.get_set] at hi
    split_ifs at hi with hid
    · exact .inl ⟨hid.symm, (Option.some.inj hi).symm⟩
    · exact .inr hi
  refine ⟨h.stored, fun i tx' hi => ?_, fun i tx' hi => ?_, fun i j tx₁ tx₂ hi hj hne hbegun hbegun' => ?_,
    fun i tx' priorVersion done hi hphase => ?_⟩
  · obtain ⟨rfl, -⟩ | hold := hcases i tx' hi
    · exact Nat.lt_succ_self _
    · exact Nat.lt_succ_of_lt (h.fresh i tx' hold)
  · obtain ⟨-, rfl⟩ | hold := hcases i tx' hi
    · exact hsafe
    · exact h.safe i tx' hold
  · obtain ⟨-, rfl⟩ | hold := hcases i tx₁ hi
    · exact absurd rfl hbegun
    · obtain ⟨-, rfl⟩ | hold' := hcases j tx₂ hj
      · exact absurd rfl hbegun'
      · exact h.locks i j tx₁ tx₂ hold hold' hne hbegun hbegun'
  · obtain ⟨-, rfl⟩ | hold := hcases i tx' hi
    · cases hphase
    · exact h.reads i tx' priorVersion done hold hphase

theorem rollback_get {j : ℕ} {tx' : Transaction} (h : (s.rollback id).transactions.get j = some tx') :
    s.transactions.get j = some tx' ∧ j ≠ id := by
  simp only [Repository.rollback, JsMap.get_delete] at h
  split_ifs at h with hid
  exact ⟨h, Ne.symm hid⟩

theorem Sound.rollback (h : Sound lockKey s) (id : ℕ) : Sound lockKey (s.rollback id) where
  stored := h.stored
  fresh i tx hget := h.fresh i tx (rollback_get hget).1
  safe i tx hget := h.safe i tx (rollback_get hget).1
  locks i j tx tx' hget hget' := h.locks i j tx tx' (rollback_get hget).1 (rollback_get hget').1
  reads i tx priorVersion done hget := h.reads i tx priorVersion done (rollback_get hget).1

/-- A transaction goes on to a phase whose facts hold. -/
theorem Sound.toPhase (h : Sound lockKey s) (hget : s.transactions.get id = some tx) {phase : Phase}
    (hlock : phase ≠ .begun → ∀ j tx', s.transactions.get j = some tx' → j ≠ id → tx'.phase ≠ .begun →
      lockKey tx.payload.claimId ≠ lockKey tx'.payload.claimId)
    (hread : ∀ priorVersion done, phase = .writing priorVersion done → Reads s.tables tx priorVersion) :
    Sound lockKey (s.toPhase id tx phase) := by
  have hcases : ∀ i tx', (s.toPhase id tx phase).transactions.get i = some tx' →
      (i = id ∧ tx' = { tx with phase := phase }) ∨ (i ≠ id ∧ s.transactions.get i = some tx') := by
    intro i tx' hi
    simp only [Repository.toPhase, JsMap.get_set] at hi
    split_ifs at hi with hid
    · exact .inl ⟨hid.symm, (Option.some.inj hi).symm⟩
    · exact .inr ⟨Ne.symm hid, hi⟩
  refine ⟨h.stored, fun i tx' hi => ?_, fun i tx' hi => ?_, fun i j tx₁ tx₂ hi hj hne hbegun hbegun' => ?_,
    fun i tx' priorVersion done hi hphase => ?_⟩
  · obtain ⟨rfl, -⟩ | ⟨-, hi⟩ := hcases i tx' hi
    · exact h.fresh i tx hget
    · exact h.fresh i tx' hi
  · obtain ⟨rfl, rfl⟩ | ⟨-, hi⟩ := hcases i tx' hi
    · exact h.safe i tx hget
    · exact h.safe i tx' hi
  · obtain ⟨hi', htx⟩ | ⟨hi', hold⟩ := hcases i tx₁ hi
    · obtain ⟨hj', -⟩ | ⟨hj', hold'⟩ := hcases j tx₂ hj
      · exact absurd (hi'.trans hj'.symm) hne
      · subst htx
        exact hlock hbegun j tx₂ hold' hj' hbegun'
    · obtain ⟨-, htx⟩ | ⟨-, hold'⟩ := hcases j tx₂ hj
      · subst htx
        exact (hlock hbegun' i tx₁ hold hi' hbegun).symm
      · exact h.locks i j tx₁ tx₂ hold hold' hne hbegun hbegun'
  · obtain ⟨rfl, rfl⟩ | ⟨-, hi⟩ := hcases i tx' hi
    · have hreads := hread priorVersion done hphase
      exact ⟨hreads.version, hreads.prior, hreads.active⟩
    · exact h.reads i tx' priorVersion done hi hphase

/-- The other transactions past their lock are of other claims. -/
theorem Sound.other_claim (h : Sound lockKey s) (hget : s.transactions.get id = some tx) (hbegun : tx.phase ≠ .begun)
    {j : ℕ} {tx' : Transaction} (hget' : s.transactions.get j = some tx') (hne : j ≠ id) (hbegun' : tx'.phase ≠ .begun) :
    tx'.payload.claimId ≠ tx.payload.claimId := by
  intro heq
  exact h.locks j id tx' tx hget' hget hne hbegun' hbegun (congrArg lockKey heq)

theorem Sound.commit (h : Sound lockKey s) (hget : s.transactions.get id = some tx) {priorVersion done : ℕ}
    (hphase : tx.phase = .writing priorVersion done) : Sound lockKey (s.commit id (tx.statements priorVersion)) := by
  have hread := h.reads id tx priorVersion done hget hphase
  have hbegun : tx.phase ≠ .begun := by simp [hphase]
  have hrest := h.rollback id
  refine ⟨h.stored.committed hread (h.safe id tx hget), hrest.fresh, hrest.safe, hrest.locks,
    fun i tx' prior' done' hi hphase' => ?_⟩
  obtain ⟨hi, hne⟩ := rollback_get hi
  have hclaim := h.other_claim hget hbegun hi hne (by simp [hphase'])
  exact (h.reads i tx' prior' done' hi hphase').congr ((committed_rows h.stored hread).2 _ hclaim)

theorem Sound.read (h : Sound lockKey s) (hget : s.transactions.get id = some tx) (hphase : tx.phase = .locked) :
    Sound lockKey (s.read id tx) := by
  have hprior := h.stored.priorVersion tx.payload.claimId
  unfold Repository.read
  dsimp only
  rw [hprior]
  split_ifs with hversion hstatus
  · exact h.rollback id
  · exact h.rollback id
  · refine h.toPhase hget (fun _ j tx' hj hne hbegun => ?_) ?_
    · exact h.locks id j tx tx' hget hj (Ne.symm hne) (by simp [hphase]) hbegun
    · rintro priorVersion done ⟨⟩
      refine ⟨?_, rfl, fun row hrow => ?_⟩
      · by_contra hne
        exact hversion (.inr hne)
      · by_contra hne
        refine hstatus ⟨?_, ?_⟩
        · rw [List.length_pos_iff]
          rintro hnil
          rw [hnil] at hrow
          cases hrow
        · rw [h.stored.ordered, Option.mem_def.mp hrow, Option.map_some]
          simpa using hne

theorem Sound.revoke (h : Sound lockKey s) (claimId : String) (version : ℕ) : Sound lockKey (s.revoke claimId version) := by
  unfold Repository.revoke
  split_ifs with hheld
  · exact h
  · refine ⟨h.stored.revoked claimId version, h.fresh, h.safe, h.locks, fun i tx priorVersion done hget hphase => ?_⟩
    have hread := h.reads i tx priorVersion done hget hphase
    apply hread.congr
    by_cases hclaim : tx.payload.claimId = claimId
    · -- the row of the prior version is held, and no other row of the claim is active
      have hversion : priorVersion ≠ version := by
        rintro rfl
        refine hheld ⟨(i, tx), (JsMap.get_eq_some_iff _ _ _).mp hget, ?_⟩
        simp only [Transaction.LocksRow, hphase]
        exact ⟨hclaim, trivial⟩
      have hnone : ∀ row ∈ s.tables.claims, row.isActiveRecord claimId version = false := by
        intro row hrow
        rw [← Bool.not_eq_true]
        intro hactive
        obtain ⟨older, hrows, hnumber⟩ := h.stored.active_last hrow hactive
        have hlength := hread.prior
        rw [hclaim, hrows, List.length_append, List.length_singleton] at hlength
        omega
      rw [revoked_of_none hnone]
    · exact revoked_rows_other hclaim

end Transactions

/-! ### Every run -/

section Runs

variable {lockKey : String → UInt64} {s : Repository}

/-- **Every step keeps the repository sound.** -/
theorem step_sound (h : Sound lockKey s) (action : Action) : Sound lockKey (step lockKey s action) := by
  cases action with
  | activate payload expectedPriorVersion activatedAt =>
    unfold step
    dsimp only
    split_ifs with hsafe
    · exact h.begin hsafe
    · exact h
  | advance id =>
    unfold step Repository.advance
    dsimp only
    split
    · exact h
    · rename_i tx hget
      split
      · rename_i hphase
        split_ifs with hother
        · exact h
        · refine h.toPhase hget (fun _ j tx' hj hne hbegun heq => ?_) (by rintro _ _ ⟨⟩)
          exact hother (other_iff.mpr ⟨j, tx', hj, hne, hbegun, heq.symm⟩)
      · rename_i hphase
        split_ifs
        · exact h
        · exact h.read hget hphase
      · rename_i priorVersion done hphase
        split
        · exact h.commit hget hphase
        · split_ifs
          · exact h.rollback id
          · exact h
          · refine h.toPhase hget (fun _ j tx' hj hne hbegun => ?_) ?_
            · exact h.locks id j tx tx' hget hj (Ne.symm hne) (by simp [hphase]) hbegun
            · rintro _ _ ⟨⟩
              exact h.reads id tx priorVersion done hget hphase
  | fail id => exact h.rollback id
  | revoke claimId version => exact h.revoke claimId version

/-- A statement of a transaction leaves the tables as they are, or commits. -/
theorem advance_tables (lockKey : String → UInt64) (s : Repository) (id : ℕ) : (s.advance lockKey id).tables = s.tables ∨ ∃ tx priorVersion done,
    s.transactions.get id = some tx ∧ tx.phase = .writing priorVersion done ∧
      (s.advance lockKey id).tables = tx.committed priorVersion s.tables := by
  unfold Repository.advance
  split
  · exact .inl rfl
  · rename_i tx hget
    split
    · split_ifs <;> exact .inl rfl
    · split_ifs
      · exact .inl rfl
      · unfold Repository.read
        dsimp only
        split_ifs <;> exact .inl rfl
    · rename_i priorVersion done hphase
      split
      · exact .inr ⟨tx, priorVersion, done, hget, hphase, rfl⟩
      · split_ifs <;> exact .inl rfl

/-- A step keeps the rows of the two tables of the same status just if it does
not revoke. -/
theorem step_sameStatus (h : Sound lockKey s) (hsame : SameStatus s.tables) (action : Action) :
    Unrevoking s action ↔ SameStatus (step lockKey s action).tables := by
  cases action with
  | activate payload expectedPriorVersion activatedAt =>
    refine iff_of_true trivial ?_
    unfold step
    dsimp only
    split_ifs <;> exact hsame
  | advance id =>
    refine iff_of_true trivial ?_
    obtain hkept | ⟨tx, priorVersion, done, hget, -, hcommitted⟩ := advance_tables lockKey s id
    · exact hkept ▸ hsame
    · exact hcommitted ▸ committed_sameStatus hsame (h.safe id tx hget)
  | fail id => exact iff_of_true trivial hsame
  | revoke claimId version =>
    unfold step Repository.revoke Unrevoking
    dsimp only
    split_ifs with hheld
    · exact iff_of_true (fun _ => hheld) hsame
    · constructor
      · intro hnone
        have hinactive : ∀ row ∈ s.tables.claims, row.isActiveRecord claimId version = false := by
          intro row hrow
          rw [← Bool.not_eq_true]
          exact fun hactive => hheld (hnone ⟨row, hrow, hactive⟩)
        rw [revoked_of_none hinactive]
        exact hsame
      · rintro hafter ⟨row, hrow, hactive⟩
        exact absurd hafter (revoked_apart h.stored hsame hrow hactive)

theorem after_sound (lockKey : String → UInt64) (actions : List Action) : Sound lockKey (after lockKey actions) :=
  run_invariant (I := Sound lockKey) (fun _ action h => step_sound h action) actions (new_sound lockKey)

/-- **The two tables say the same** after every beginning of a run just if no
call of the run revokes. -/
theorem evidence_tables_agree (lockKey : String → UInt64) (actions : List Action) :
    (∀ before, before <+: actions → TwoTables (after lockKey before).tables) ↔
      Guarded (step lockKey) Unrevoking .new actions := by
  have hsame := guarded_iff (I := Sound lockKey) (P := fun s => SameStatus s.tables)
    (fun _ action h => step_sound h action) (fun _ action h hsame => step_sameStatus h hsame action) actions
    (new_sound lockKey) .nil
  rw [hsame]
  constructor
  · intro htables before hbefore
    exact (after_sound lockKey before).stored.twoTables_iff.mp (htables before hbefore)
  · intro hstatus before hbefore
    exact (after_sound lockKey before).stored.twoTables_iff.mpr (hstatus before hbefore)

/-- A version is activated, statement by statement, and then revoked. -/
def activatedThenRevoked : List Action :=
  [.activate ⟨⟨"claim:1", 1, "org:1"⟩, "evidence:1"⟩ 0 1000, .advance 0, .advance 0, .advance 0, .advance 0, .advance 0,
    .revoke "claim:1" 1]

theorem revoked_in_one_table : ¬TwoTables (after (fun _ => 0) activatedThenRevoked).tables := by
  intro h
  have hrevoked : (after (fun _ => 0) activatedThenRevoked).tables.claims.map (·.status) = [.revoked] := by
    decide +kernel
  have hactive : (after (fun _ => 0) activatedThenRevoked).tables.versions.map (·.status) = [.active] := by
    decide +kernel
  have hsame := (after_sound (fun _ => 0) activatedThenRevoked).stored.twoTables_iff.mp h
  have hstatus : List.Forall₂ (· = ·) ((after (fun _ => 0) activatedThenRevoked).tables.claims.map (·.status))
      ((after (fun _ => 0) activatedThenRevoked).tables.versions.map (·.status)) := by
    rw [List.forall₂_map_left_iff, List.forall₂_map_right_iff]
    exact hsame.imp fun _ _ hpair => hpair.2
  rw [hrevoked, hactive] at hstatus
  cases hstatus with
  | cons heq _ => cases heq

end Runs

end PostgresEvidenceRepository
end Evidence
end Evllm
