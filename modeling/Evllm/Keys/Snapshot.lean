/-
# Snapshots of the key lifecycle registry

`src/protected-bundles/keys/lifecycle.ts`: `snapshot` lists the records of a
registry, each list sorted by its ids, and `fromSnapshot` reads a registry
back from a JSON value that anyone may have written. The reader checks every
record: its texts and times, that it is the only one under its id, and that
the key it names is there. A record's state is read as a text; the source also
takes a list of one text for it, which no snapshot writes.

`Operation` is what a holder of a registry can ask of it, and `answer` what it
is told: that the call is done or has failed, and what a query returns.

Key definitions: `Collation`, `snapshot`, `KeyLifecycleSnapshot.toJson`,
`fromSnapshot`, `Operation`, `answer`, `answers`.
-/
import Evllm.Keys.Lifecycle
import Evllm.Lib.Json
import Mathlib.Data.List.Sort

namespace Evllm
namespace Keys

open Lib

/-- The comparison of `localeCompare`, a total preorder: texts may tie without
being equal. -/
structure Collation where
  localeCompare : String → String → ℤ
  total : ∀ a b, localeCompare a b ≤ 0 ∨ localeCompare b a ≤ 0
  trans : ∀ a b c, localeCompare a b ≤ 0 → localeCompare b c ≤ 0 → localeCompare a c ≤ 0

namespace Collation

variable (C : Collation)

/-- The text does not come after the other. -/
def le (a b : String) : Prop := C.localeCompare a b ≤ 0

instance : DecidableRel C.le := fun a b => inferInstanceAs (Decidable (C.localeCompare a b ≤ 0))

instance : Std.Total C.le := ⟨C.total⟩

instance : IsTrans String C.le := ⟨C.trans⟩

end Collation

structure KeyLifecycleSnapshot where
  authorizations : List ControllerAuthorizationRecord
  grants : List AccessGrantRecord
  keys : List EncryptionKeyRecord
  deriving DecidableEq

def KeyLifecycleRegistry.snapshot (C : Collation) (r : KeyLifecycleRegistry) : KeyLifecycleSnapshot where
  authorizations := r.authorizations.values.insertionSort fun left right =>
    C.localeCompare left.authorizationId right.authorizationId ≤ 0
  grants := r.grants.values.insertionSort fun left right => C.localeCompare left.grantId right.grantId ≤ 0
  keys := r.keys.values.insertionSort fun left right => C.localeCompare left.id right.id ≤ 0

/-! ### Writing -/

def EncryptionKeyState.text : EncryptionKeyState → String
  | .pending => "pending"
  | .active => "active"
  | .retired => "retired"
  | .revoked => "revoked"
  | .lost => "lost"
  | .compromised => "compromised"

def GrantStoredState.text : GrantStoredState → String
  | .prepared => "prepared"
  | .active => "active"
  | .revoked => "revoked"

def ControllerAuthorizationState.text : ControllerAuthorizationState → String
  | .staged => "staged"
  | .active => "active"
  | .retired => "retired"

def EncryptionKeyRecord.toJson (record : EncryptionKeyRecord) : Json :=
  .object [("id", .string record.id), ("organizationId", .string record.organizationId),
    ("state", .string record.state.text)]

def AccessGrantRecord.toJson (record : AccessGrantRecord) : Json :=
  .object [("effectiveAt", .number record.effectiveAt), ("envelopeId", .string record.envelopeId),
    ("expiresAt", .number record.expiresAt), ("grantId", .string record.grantId),
    ("recipientKeyId", .string record.recipientKeyId), ("state", .string record.state.text)]

def ControllerAuthorizationRecord.toJson (record : ControllerAuthorizationRecord) : Json :=
  .object [("authorizationId", .string record.authorizationId), ("envelopeId", .string record.envelopeId),
    ("keyId", .string record.keyId), ("state", .string record.state.text)]

/-- `JSON.parse(JSON.stringify(snapshot))`. -/
def KeyLifecycleSnapshot.toJson (snapshot : KeyLifecycleSnapshot) : Json :=
  .object [("authorizations", .array (snapshot.authorizations.map ControllerAuthorizationRecord.toJson)),
    ("grants", .array (snapshot.grants.map AccessGrantRecord.toJson)),
    ("keys", .array (snapshot.keys.map EncryptionKeyRecord.toJson))]

/-! ### Reading -/

def EncryptionKeyState.all : List EncryptionKeyState := [.pending, .active, .retired, .revoked, .lost, .compromised]

def GrantStoredState.all : List GrantStoredState := [.prepared, .active, .revoked]

def ControllerAuthorizationState.all : List ControllerAuthorizationState := [.staged, .active, .retired]

/-- `names.includes(String(value))`, and what the text is the name of. -/
def stateNamed {σ : Type} (all : List σ) (text : σ → String) : Json → Option σ
  | .string name => all.find? fun state => text state = name
  | _ => none

/-- The record that the value is, if it is one. -/
def isEncryptionKeyRecord (value : Json) : Option EncryptionKeyRecord := do
  let id ← (← value.field "id").nonemptyString
  let organizationId ← (← value.field "organizationId").nonemptyString
  let state ← stateNamed EncryptionKeyState.all EncryptionKeyState.text (← value.field "state")
  return { id, organizationId, state }

def isControllerAuthorizationRecord (value : Json) : Option ControllerAuthorizationRecord := do
  let authorizationId ← (← value.field "authorizationId").nonemptyString
  let envelopeId ← (← value.field "envelopeId").nonemptyString
  let keyId ← (← value.field "keyId").nonemptyString
  let state ← stateNamed ControllerAuthorizationState.all ControllerAuthorizationState.text (← value.field "state")
  return { authorizationId, envelopeId, keyId, state }

def isAccessGrantRecord (value : Json) : Option AccessGrantRecord := do
  let grantId ← (← value.field "grantId").nonemptyString
  let envelopeId ← (← value.field "envelopeId").nonemptyString
  let recipientKeyId ← (← value.field "recipientKeyId").nonemptyString
  let effectiveAt ← (← value.field "effectiveAt").safeInteger
  let expiresAt ← (← value.field "expiresAt").safeInteger
  guard (effectiveAt < expiresAt)
  let state ← stateNamed GrantStoredState.all GrantStoredState.text (← value.field "state")
  return { effectiveAt, envelopeId, expiresAt, grantId, recipientKeyId, state }

namespace KeyLifecycleRegistry

def restoreKey (r : KeyLifecycleRegistry) (candidate : Json) : Except KeyLifecycleError KeyLifecycleRegistry :=
  match isEncryptionKeyRecord candidate with
  | none => .error .invalidTransition
  | some record => r.addKey record

def restoreAuthorization (r : KeyLifecycleRegistry) (candidate : Json) :
    Except KeyLifecycleError KeyLifecycleRegistry :=
  match isControllerAuthorizationRecord candidate with
  | none => .error .invalidTransition
  | some record => do
    throwIf (¬r.keys.has record.keyId ∨ r.authorizations.has record.authorizationId) .invalidTransition
    return { r with authorizations := r.authorizations.insert record.authorizationId record }

def restoreGrant (r : KeyLifecycleRegistry) (candidate : Json) : Except KeyLifecycleError KeyLifecycleRegistry :=
  match isAccessGrantRecord candidate with
  | none => .error .invalidTransition
  | some record => do
    throwIf (¬r.keys.has record.recipientKeyId ∨ r.grants.has record.grantId) .invalidTransition
    return { r with grants := r.grants.insert record.grantId record }

def fromSnapshot (value : Json) : Except KeyLifecycleError KeyLifecycleRegistry :=
  match value.field "keys", value.field "authorizations", value.field "grants" with
  | some (.array keys), some (.array authorizations), some (.array grants) => do
    let r ← keys.foldlM restoreKey new
    let r ← authorizations.foldlM restoreAuthorization r
    grants.foldlM restoreGrant r
  | _, _, _ => .error .invalidTransition

end KeyLifecycleRegistry

/-! ### What a holder of the registry is told -/

inductive Operation where
  | event (event : Event)
  | effectiveGrantState (grantId : String) (currentTime : ℤ)
  | snapshot

inductive Answer where
  /-- The call has returned, or failed. A call that awaits its callback has
  returned so far if it has not failed. -/
  | call (result : Except KeyLifecycleError Unit)
  /-- No call waits there. -/
  | nothing
  | grantState (result : Except KeyLifecycleError EffectiveGrantState)
  | snapshot (snapshot : KeyLifecycleSnapshot)

namespace Lifecycle

/-- What a call tells, besides what it writes. -/
def outcome {α : Type} (x : Except KeyLifecycleError α) : Answer := .call (x.map fun _ => ())

def answerEvent (c : Lifecycle) : Event → Answer
  | .addKey record => outcome (c.registry.addKey record)
  | .activateKey keyId => outcome (c.registry.activateKey keyId)
  | .recordKeyFailure keyId failure => outcome (c.registry.recordKeyFailure keyId failure)
  | .retireKey keyId => outcome (c.registry.retireKey keyId)
  | .stageControllerAuthorization record => outcome (c.registry.stageControllerAuthorization record)
  | .activateControllerAuthorization id => outcome (c.registry.activateControllerAuthorization id)
  | .rotateControllerAuthorization id successor => outcome (c.registry.rotateControllerAuthorization id successor)
  | .prepareGrant record => outcome (c.registry.prepareGrant record)
  | .activateGrant id currentTime => outcome (c.registry.activateGrant id currentTime)
  | .revokeGrant id => outcome (c.registry.revokeGrant id)
  | .authorizeRetrieval id currentTime => outcome (c.registry.authorizeRetrieval id currentTime)
  | .rotateRecipientEnvelope id keyId envelopeId => outcome (c.registry.rotateRecipientEnvelope id keyId envelopeId)
  | .resume index verified =>
    match c.suspended[index]? with
    | none => .nothing
    | some call => outcome (c.registry.resume verified call)

def answer (C : Collation) (c : Lifecycle) : Operation → Answer
  | .event event => c.answerEvent event
  | .effectiveGrantState grantId currentTime => .grantState (c.registry.effectiveGrantState grantId currentTime)
  | .snapshot => .snapshot (c.registry.snapshot C)

/-- The state after an operation; the queries leave it as it is. -/
def operate (c : Lifecycle) : Operation → Lifecycle
  | .event event => c.step event
  | .effectiveGrantState _ _ => c
  | .snapshot => c

/-- What a sequence of operations is told. -/
def answers (C : Collation) : Lifecycle → List Operation → List Answer
  | _, [] => []
  | c, operation :: operations => c.answer C operation :: answers C (c.operate operation) operations

end Lifecycle

end Keys
end Evllm
