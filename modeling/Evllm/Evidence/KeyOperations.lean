/-
# Key-operation authorizations are consumed in a repository

`src/evidence/key-operation-authorization-repository.ts`: a repository that
services share, kept in memory or in PostgreSQL. `consume` either accepts an
authorization or fails; in PostgreSQL it is a transaction of several
statements, each of which may wait, fail or lose its connection while other
transactions go on.

PostgreSQL is modelled by what `consume` relies on: a transaction-scoped
advisory lock is held by one transaction at a time and until that ends, a
statement sees the rows committed before it, and the primary key
`(record_id, record_version)` is unique among the rows committed and those
not yet committed. A client may lose its connection and a commit it sent still
take effect, then or later.

Key definitions: `Repository`, `submit`, `RepositoryEvent`, `advance`.
-/
import Evllm.Evidence.Proofs
import Evllm.Lib.JsMap
import Evllm.Lib.Run

namespace Evllm
namespace Evidence

open Lib Contracts

inductive KeyOperation where
  | verifyAndFinalizeStaging
  | rotateControllerEnvelope
  | createGrantEnvelope
  | decryptWithGrant
  deriving DecidableEq, Repr

def KeyOperation.text : KeyOperation → String
  | .verifyAndFinalizeStaging => "verify-and-finalize-staging"
  | .rotateControllerEnvelope => "rotate-controller-envelope"
  | .createGrantEnvelope => "create-grant-envelope"
  | .decryptWithGrant => "decrypt-with-grant"

/-- The record of a consumed authorization. -/
structure KeyOperationAuthorizationRecord where
  authorizationId : String
  authorizationVersion : ℕ
  issuerServiceActorId : String
  issuerServiceOrganizationId : String
  issuerServiceCredentialId : String
  issuerServiceAddress : Address
  repositoryId : String
  operation : KeyOperation
  requestingActorId : String
  requestingOrganizationId : String
  requestingCredentialId : String
  bundleId : String
  bundleVersion : ℕ
  domainResourceId : String
  domainResourceVersion : ℕ
  purposeId : String
  policyId : String
  policyVersion : ℕ
  sourceAuthorityIds : List String
  sourceAuthorityDigest : Bytes32
  operationContextDigest : Bytes32
  nonce : Uint256
  issuedAt : ℕ
  expiresAt : ℕ
  idempotencyKeyHash : Bytes32
  signature : Bytes
  typedDataDigest : Bytes32
  signatureDigest : Bytes32
  deriving DecidableEq, Repr

/-- What `consume` is called with. -/
structure ConsumeRequest where
  record : KeyOperationAuthorizationRecord
  nonceScope : NonceScope
  deriving DecidableEq, Repr

/-- The identity of an authorization, the primary key of its row. -/
def ConsumeRequest.key (request : ConsumeRequest) : String × ℕ :=
  (request.record.authorizationId, request.record.authorizationVersion)

/-- The two requests use one authorization or one nonce. -/
def ConsumeRequest.Clashes (a b : ConsumeRequest) : Prop := a.key = b.key ∨ a.nonceScope = b.nonceScope

instance (a b : ConsumeRequest) : Decidable (a.Clashes b) := inferInstanceAs (Decidable (_ ∨ _))

/-! ### PostgreSQL -/

/-- How far a transaction has come: before `BEGIN`, before it holds its lock,
before the `SELECT`, before the `INSERT`, before the `COMMIT`. -/
inductive TransactionPhase where
  | connecting
  | begun
  | locked
  | checked
  | inserted
  deriving DecidableEq, Repr

/-- A transaction of `consume`, for the call numbered `call` while its client
is connected. -/
structure Transaction where
  call : Option ℕ
  request : ConsumeRequest
  phase : TransactionPhase
  deriving DecidableEq, Repr

/-- The transaction holds its advisory lock. -/
def Transaction.holdsLock (transaction : Transaction) : Bool :=
  transaction.phase = .locked ∨ transaction.phase = .checked ∨ transaction.phase = .inserted

/-- The committed rows, with what `metadata` holds, and the open transactions. -/
structure Database where
  rows : List ConsumeRequest
  transactions : List Transaction
  deriving DecidableEq, Repr

inductive RepositoryError where
  | replay
  | unavailable
  deriving DecidableEq, Repr

/-- What the promise of a call is settled with. -/
abbrev Settlement := ℕ × Except RepositoryError Unit

/-- The promise of the transaction's call, if it has one, is settled. -/
def Transaction.settle (transaction : Transaction) (result : Except RepositoryError Unit) : Option Settlement :=
  transaction.call.map fun call => (call, result)

namespace Database

variable (db : Database)

/-- The transaction `t` in another phase. -/
def moveTo (t : ℕ) (transaction : Transaction) (phase : TransactionPhase) : Database :=
  { db with transactions := db.transactions.set t { transaction with phase } }

/-- The transaction `t` has ended. -/
def close (t : ℕ) : Database := { db with transactions := db.transactions.eraseIdx t }

/-- Another transaction than `t` holds the lock of `scope`. -/
def lockTaken (lockHash : NonceScope → ℕ) (t : ℕ) (scope : NonceScope) : Bool :=
  (db.transactions.eraseIdx t).any fun other => other.holdsLock ∧ lockHash other.request.nonceScope = lockHash scope

/-- Another transaction than `t` has inserted a row with the primary key. -/
def insertPending (t : ℕ) (request : ConsumeRequest) : Bool :=
  (db.transactions.eraseIdx t).any fun other => other.phase = .inserted ∧ other.request.key = request.key

/-- The next statement of a transaction succeeds, waits, or finds a replay. -/
def advance (lockHash : NonceScope → ℕ) (t : ℕ) : Database × Option Settlement :=
  match db.transactions[t]? with
  | none => (db, none)
  | some transaction =>
    let request := transaction.request
    match transaction.phase with
    | .connecting => (db.moveTo t transaction .begun, none)
    | .begun =>
      if db.lockTaken lockHash t request.nonceScope then (db, none) else (db.moveTo t transaction .locked, none)
    | .locked =>
      -- SELECT ... WHERE (record_id, record_version) or nonce_scope match
      if db.rows.any fun row => row.Clashes request then (db.close t, transaction.settle (.error .replay))
      else (db.moveTo t transaction .checked, none)
    | .checked =>
      if db.insertPending t request then (db, none)
      else if db.rows.any fun row => row.key = request.key then (db.close t, transaction.settle (.error .replay))
      else (db.moveTo t transaction .inserted, none)
    | .inserted => ({ db.close t with rows := db.rows ++ [request] }, transaction.settle (.ok ()))

/-- The connection is refused or a statement fails: nothing is written. -/
def fail (t : ℕ) : Database × Option Settlement :=
  match db.transactions[t]? with
  | none => (db, none)
  | some transaction => (db.close t, transaction.settle (.error .unavailable))

/-- The client loses its connection; the transaction may still be committed. -/
def disconnect (t : ℕ) : Database × Option Settlement :=
  match db.transactions[t]? with
  | none => (db, none)
  | some transaction =>
    ({ db with transactions := db.transactions.set t { transaction with call := none } },
      transaction.settle (.error .unavailable))

end Database

/-! ### Repositories -/

/-- The authorizations in memory, under `authorizationKey`, and their nonce
scopes; or a database, with the hash of its advisory locks. -/
inductive Repository where
  | memory (authorizations : JsMap String KeyOperationAuthorizationRecord) (nonceScopes : Finset NonceScope)
  | postgres (lockHash : NonceScope → ℕ) (db : Database)

/-- A repository in which nothing is consumed and no transaction is open. -/
inductive Repository.IsNew : Repository → Prop where
  | memory : IsNew (.memory .empty ∅)
  | postgres (lockHash : NonceScope → ℕ) : IsNew (.postgres lockHash ⟨[], []⟩)

def authorizationKey (authorizationId : String) (authorizationVersion : ℕ) : String :=
  authorizationId ++ ":" ++ toString authorizationVersion

inductive RepositoryEvent where
  | advance (transaction : ℕ)
  | fail (transaction : ℕ)
  | disconnect (transaction : ℕ)
  deriving DecidableEq, Repr

namespace Repository

/-- `consume`, called by the call numbered `call`: in memory it throws or
accepts at once, in PostgreSQL it opens a transaction. -/
def submit (call : ℕ) (request : ConsumeRequest) : Repository → Repository × Option (Except RepositoryError Unit)
  | .memory authorizations nonceScopes =>
    let key := authorizationKey request.record.authorizationId request.record.authorizationVersion
    if authorizations.has key ∨ request.nonceScope ∈ nonceScopes then
      (.memory authorizations nonceScopes, some (.error .replay))
    else
      (.memory (authorizations.set key request.record) (insert request.nonceScope nonceScopes), some (.ok ()))
  | .postgres lockHash db =>
    (.postgres lockHash { db with transactions := db.transactions ++ [⟨some call, request, .connecting⟩] }, none)

/-- The database goes on. -/
def step : Repository → RepositoryEvent → Repository × Option Settlement
  | .memory authorizations nonceScopes, _ => (.memory authorizations nonceScopes, none)
  | .postgres lockHash db, .advance t => (db.advance lockHash t).map (.postgres lockHash) id
  | .postgres lockHash db, .fail t => (db.fail t).map (.postgres lockHash) id
  | .postgres lockHash db, .disconnect t => (db.disconnect t).map (.postgres lockHash) id

end Repository

end Evidence
end Evllm
