/-
# The key lifecycle registry

`src/protected-bundles/keys/lifecycle.ts`: encryption keys, controller
authorizations and access grants, each with its state. Authorizations and
grants are objects that a suspended call may still hold after the registry
has stored another under the same id, so both live in an `ObjectMap`; no
call holds a key across an `await`.

`activateGrant`, `rotateRecipientEnvelope` and `rotateControllerAuthorization`
check, await a verification callback and then write. Each is a call
(`Suspended` is what it holds while it waits) and a continuation (`resume`);
between the two any other operation may run (`Event`, `step`). A throw
changes nothing, since every check precedes every write.

Key definitions: `KeyLifecycleRegistry`, `Suspended`, `Event`, `step`.
-/
import Mathlib.Tactic.Linarith
import Evllm.Lib.Except
import Evllm.Lib.ObjectMap
import Evllm.Lib.Run

namespace Evllm
namespace Keys

open Lib

inductive EncryptionKeyState where
  | pending
  | active
  | retired
  | revoked
  | lost
  | compromised
  deriving DecidableEq, Repr

inductive GrantStoredState where
  | prepared
  | active
  | revoked
  deriving DecidableEq, Repr

inductive ControllerAuthorizationState where
  | staged
  | active
  | retired
  deriving DecidableEq, Repr

structure EncryptionKeyRecord where
  id : String
  organizationId : String
  state : EncryptionKeyState
  deriving DecidableEq, Repr

structure AccessGrantRecord where
  effectiveAt : ℤ
  envelopeId : String
  expiresAt : ℤ
  grantId : String
  recipientKeyId : String
  state : GrantStoredState
  deriving DecidableEq, Repr

structure ControllerAuthorizationRecord where
  authorizationId : String
  envelopeId : String
  keyId : String
  state : ControllerAuthorizationState
  deriving DecidableEq, Repr

/-- The codes of `KeyLifecycleError`. -/
inductive KeyLifecycleError where
  | invalidTransition
  | keyUnavailable
  | lastController
  | policyDenied
  deriving DecidableEq, Repr

/-- The state `recordKeyFailure` gives a key. -/
inductive KeyFailure where
  | compromised
  | lost
  | revoked
  deriving DecidableEq, Repr

def KeyFailure.state : KeyFailure → EncryptionKeyState
  | .compromised => .compromised
  | .lost => .lost
  | .revoked => .revoked

/-- `effectiveGrantState`: a stored state or expired. -/
inductive EffectiveGrantState where
  | stored (state : GrantStoredState)
  | expired
  deriving DecidableEq, Repr

def isTerminalKeyState : EncryptionKeyState → Bool
  | .retired | .revoked | .lost | .compromised => true
  | .pending | .active => false

structure KeyLifecycleRegistry where
  authorizations : ObjectMap String ControllerAuthorizationRecord
  grants : ObjectMap String AccessGrantRecord
  keys : JsMap String EncryptionKeyRecord

/-- What a call holds while it awaits its verification callback. -/
inductive Suspended where
  | rotateControllerAuthorization (predecessor : Ref) (successor : ControllerAuthorizationRecord)
  | activateGrant (grant : Ref)
  | rotateRecipientEnvelope (grantId : String) (grant : Ref) (successorKeyId successorEnvelopeId : String)

namespace KeyLifecycleRegistry

def new : KeyLifecycleRegistry := ⟨.empty, .empty, .empty⟩

/-! ### Lookups and key checks -/

def key (r : KeyLifecycleRegistry) (keyId : String) : Except KeyLifecycleError EncryptionKeyRecord :=
  match r.keys.get keyId with
  | none => .error .keyUnavailable
  | some key => .ok key

def authorization (r : KeyLifecycleRegistry) (authorizationId : String) :
    Except KeyLifecycleError (Ref × ControllerAuthorizationRecord) :=
  match r.authorizations.ref authorizationId with
  | none => .error .keyUnavailable
  | some ref =>
    match r.authorizations.deref ref with
    | none => .error .keyUnavailable
    | some record => .ok (ref, record)

def grant (r : KeyLifecycleRegistry) (grantId : String) :
    Except KeyLifecycleError (Ref × AccessGrantRecord) :=
  match r.grants.ref grantId with
  | none => .error .policyDenied
  | some ref =>
    match r.grants.deref ref with
    | none => .error .policyDenied
    | some record => .ok (ref, record)

def isUsableKey (r : KeyLifecycleRegistry) (keyId : String) : Except KeyLifecycleError Bool := do
  let key ← r.key keyId
  return key.state = .active ∨ key.state = .retired

def requireActiveKey (r : KeyLifecycleRegistry) (keyId : String) : Except KeyLifecycleError Unit := do
  let key ← r.key keyId
  throwIf (key.state ≠ .active) .keyUnavailable

def requireUsableKey (r : KeyLifecycleRegistry) (keyId : String) : Except KeyLifecycleError Unit := do
  let usable ← r.isUsableKey keyId
  throwIf (!usable) .keyUnavailable

/-- The filter of `usableControllerCount`; the key of an authorization that is
not active is not read. -/
def countUsable (r : KeyLifecycleRegistry) :
    List ControllerAuthorizationRecord → Except KeyLifecycleError ℕ
  | [] => .ok 0
  | authorization :: rest => do
    let usable ← if authorization.state = .active then r.isUsableKey authorization.keyId else pure false
    let count ← countUsable r rest
    return if usable then count + 1 else count

def usableControllerCount (r : KeyLifecycleRegistry) : Except KeyLifecycleError ℕ :=
  r.countUsable r.authorizations.values

/-! ### Keys -/

def addKey (r : KeyLifecycleRegistry) (record : EncryptionKeyRecord) :
    Except KeyLifecycleError KeyLifecycleRegistry := do
  throwIf (r.keys.has record.id) .invalidTransition
  return { r with keys := r.keys.set record.id record }

def setKeyState (r : KeyLifecycleRegistry) (keyId : String) (key : EncryptionKeyRecord)
    (state : EncryptionKeyState) : KeyLifecycleRegistry :=
  { r with keys := r.keys.set keyId { key with state } }

def activateKey (r : KeyLifecycleRegistry) (keyId : String) :
    Except KeyLifecycleError KeyLifecycleRegistry := do
  let key ← r.key keyId
  throwIf (key.state ≠ .pending) .invalidTransition
  return r.setKeyState keyId key .active

def recordKeyFailure (r : KeyLifecycleRegistry) (keyId : String) (failure : KeyFailure) :
    Except KeyLifecycleError KeyLifecycleRegistry := do
  let key ← r.key keyId
  throwIf (isTerminalKeyState key.state) .invalidTransition
  return r.setKeyState keyId key failure.state

def retireKey (r : KeyLifecycleRegistry) (keyId : String) :
    Except KeyLifecycleError KeyLifecycleRegistry := do
  let key ← r.key keyId
  throwIf (key.state ≠ .active) .invalidTransition
  let lastControllerForKey := r.authorizations.values.any fun authorization =>
    authorization.keyId = keyId ∧ authorization.state = .active
  if lastControllerForKey then
    let count ← r.usableControllerCount
    throwIf (count ≤ 1) .lastController
  return r.setKeyState keyId key .retired

/-! ### Controller authorizations -/

def stageControllerAuthorization (r : KeyLifecycleRegistry) (record : ControllerAuthorizationRecord) :
    Except KeyLifecycleError KeyLifecycleRegistry := do
  throwIf (record.state ≠ .staged ∨ r.authorizations.has record.authorizationId) .invalidTransition
  r.requireActiveKey record.keyId
  return { r with authorizations := r.authorizations.insert record.authorizationId record }

def activateControllerAuthorization (r : KeyLifecycleRegistry) (authorizationId : String) :
    Except KeyLifecycleError KeyLifecycleRegistry := do
  let (ref, authorization) ← r.authorization authorizationId
  throwIf (authorization.state ≠ .staged) .invalidTransition
  r.requireActiveKey authorization.keyId
  return { r with authorizations := r.authorizations.mutate ref fun a => { a with state := .active } }

/-- `rotateControllerAuthorization` up to its `await`. -/
def rotateControllerAuthorization (r : KeyLifecycleRegistry) (predecessorId : String)
    (successor : ControllerAuthorizationRecord) : Except KeyLifecycleError Suspended := do
  let (ref, predecessor) ← r.authorization predecessorId
  throwIf (predecessor.state ≠ .active) .keyUnavailable
  r.requireUsableKey predecessor.keyId
  throwIf (successor.state ≠ .staged) .invalidTransition
  r.requireActiveKey successor.keyId
  return .rotateControllerAuthorization ref successor

/-! ### Grants -/

def prepareGrant (r : KeyLifecycleRegistry) (record : AccessGrantRecord) :
    Except KeyLifecycleError KeyLifecycleRegistry := do
  throwIf (record.state ≠ .prepared ∨ record.effectiveAt ≥ record.expiresAt) .invalidTransition
  r.requireActiveKey record.recipientKeyId
  let count ← r.usableControllerCount
  throwIf (count = 0) .keyUnavailable
  throwIf (r.grants.has record.grantId) .invalidTransition
  return { r with grants := r.grants.insert record.grantId record }

/-- `activateGrant` up to its `await`. -/
def activateGrant (r : KeyLifecycleRegistry) (grantId : String) (currentTime : ℤ) :
    Except KeyLifecycleError Suspended := do
  let (ref, grant) ← r.grant grantId
  throwIf (grant.state ≠ .prepared ∨ currentTime ≥ grant.expiresAt) .invalidTransition
  r.requireActiveKey grant.recipientKeyId
  return .activateGrant ref

def revokeGrant (r : KeyLifecycleRegistry) (grantId : String) :
    Except KeyLifecycleError KeyLifecycleRegistry := do
  let (ref, grant) ← r.grant grantId
  throwIf (grant.state = .revoked) .invalidTransition
  return { r with grants := r.grants.mutate ref fun g => { g with state := .revoked } }

def effectiveGrantState (r : KeyLifecycleRegistry) (grantId : String) (currentTime : ℤ) :
    Except KeyLifecycleError EffectiveGrantState := do
  let (_, grant) ← r.grant grantId
  return if grant.state ≠ .revoked ∧ currentTime ≥ grant.expiresAt then .expired else .stored grant.state

def authorizeRetrieval (r : KeyLifecycleRegistry) (grantId : String) (currentTime : ℤ) :
    Except KeyLifecycleError Unit := do
  let (_, grant) ← r.grant grantId
  let effective ← r.effectiveGrantState grantId currentTime
  throwIf (effective ≠ .stored .active ∨ currentTime < grant.effectiveAt) .policyDenied
  r.requireUsableKey grant.recipientKeyId

/-- `rotateRecipientEnvelope` up to its `await`. -/
def rotateRecipientEnvelope (r : KeyLifecycleRegistry) (grantId successorKeyId successorEnvelopeId : String) :
    Except KeyLifecycleError Suspended := do
  let (ref, grant) ← r.grant grantId
  throwIf (grant.state ≠ .active) .policyDenied
  r.requireActiveKey successorKeyId
  return .rotateRecipientEnvelope grantId ref successorKeyId successorEnvelopeId

/-- What a call does after its `await`, given what the callback answered. A
callback that rejects ends the call as `verified = false` does. -/
def resume (r : KeyLifecycleRegistry) (verified : Bool) :
    Suspended → Except KeyLifecycleError KeyLifecycleRegistry
  | .rotateControllerAuthorization predecessor successor => do
    throwIf (!verified) .keyUnavailable
    let stored := r.authorizations.insert successor.authorizationId { successor with state := .active }
    return { r with authorizations := stored.mutate predecessor fun a => { a with state := .retired } }
  | .activateGrant grant => do
    throwIf (!verified) .keyUnavailable
    return { r with grants := r.grants.mutate grant fun g => { g with state := .active } }
  | .rotateRecipientEnvelope grantId grant successorKeyId successorEnvelopeId => do
    throwIf (!verified) .keyUnavailable
    match r.grants.deref grant with
    | none => throw .keyUnavailable
    | some record =>
      let copy := { record with envelopeId := successorEnvelopeId, recipientKeyId := successorKeyId }
      return { r with grants := r.grants.insert grantId copy }

end KeyLifecycleRegistry

/-! ### Interleavings -/

/-- A registry and the calls that wait for their callbacks. -/
structure Lifecycle where
  registry : KeyLifecycleRegistry
  suspended : List Suspended

inductive Event where
  | addKey (record : EncryptionKeyRecord)
  | activateKey (keyId : String)
  | recordKeyFailure (keyId : String) (failure : KeyFailure)
  | retireKey (keyId : String)
  | stageControllerAuthorization (record : ControllerAuthorizationRecord)
  | activateControllerAuthorization (authorizationId : String)
  | rotateControllerAuthorization (predecessorId : String) (successor : ControllerAuthorizationRecord)
  | prepareGrant (record : AccessGrantRecord)
  | activateGrant (grantId : String) (currentTime : ℤ)
  | revokeGrant (grantId : String)
  | authorizeRetrieval (grantId : String) (currentTime : ℤ)
  | rotateRecipientEnvelope (grantId successorKeyId successorEnvelopeId : String)
  /-- The callback of the suspended call at `index` has answered. -/
  | resume (index : ℕ) (verified : Bool)

namespace Lifecycle

/-- The registry an operation returns, or the old one if it throws. -/
def write (c : Lifecycle) : Except KeyLifecycleError KeyLifecycleRegistry → Lifecycle
  | .error _ => c
  | .ok registry => { c with registry }

/-- The call that an operation suspends, if it does not throw. -/
def suspend (c : Lifecycle) : Except KeyLifecycleError Suspended → Lifecycle
  | .error _ => c
  | .ok call => { c with suspended := c.suspended ++ [call] }

def step (c : Lifecycle) : Event → Lifecycle
  | .addKey record => c.write (c.registry.addKey record)
  | .activateKey keyId => c.write (c.registry.activateKey keyId)
  | .recordKeyFailure keyId failure => c.write (c.registry.recordKeyFailure keyId failure)
  | .retireKey keyId => c.write (c.registry.retireKey keyId)
  | .stageControllerAuthorization record => c.write (c.registry.stageControllerAuthorization record)
  | .activateControllerAuthorization id => c.write (c.registry.activateControllerAuthorization id)
  | .rotateControllerAuthorization id successor =>
    c.suspend (c.registry.rotateControllerAuthorization id successor)
  | .prepareGrant record => c.write (c.registry.prepareGrant record)
  | .activateGrant id currentTime => c.suspend (c.registry.activateGrant id currentTime)
  | .revokeGrant id => c.write (c.registry.revokeGrant id)
  | .authorizeRetrieval _ _ => c
  | .rotateRecipientEnvelope id keyId envelopeId =>
    c.suspend (c.registry.rotateRecipientEnvelope id keyId envelopeId)
  | .resume index verified =>
    match c.suspended[index]? with
    | none => c
    | some call =>
      { c with suspended := c.suspended.eraseIdx index }.write (c.registry.resume verified call)

/-- A new registry with no call under way. -/
def new : Lifecycle := ⟨.new, []⟩

end Lifecycle

/-! ### What an operation that returns has done -/

namespace KeyLifecycleRegistry

variable {r r' : KeyLifecycleRegistry}

theorem grant_eq_ok {grantId : String} {ref : Ref} {record : AccessGrantRecord} :
    r.grant grantId = .ok (ref, record) ↔
      r.grants.ref grantId = some ref ∧ r.grants.deref ref = some record := by
  unfold grant
  cases hr : r.grants.ref grantId with
  | none => simp
  | some ref' =>
    obtain ⟨a, ha⟩ := r.grants.deref_of_ref hr
    simp only [ha, Except.ok.injEq, Prod.mk.injEq, Option.some.injEq]
    constructor
    · rintro ⟨rfl, rfl⟩
      exact ⟨rfl, ha⟩
    · rintro ⟨rfl, h⟩
      exact ⟨rfl, by simpa [ha] using h⟩

theorem authorization_eq_ok {authorizationId : String} {ref : Ref} {record : ControllerAuthorizationRecord} :
    r.authorization authorizationId = .ok (ref, record) ↔
      r.authorizations.ref authorizationId = some ref ∧ r.authorizations.deref ref = some record := by
  unfold authorization
  cases hr : r.authorizations.ref authorizationId with
  | none => simp
  | some ref' =>
    obtain ⟨a, ha⟩ := r.authorizations.deref_of_ref hr
    simp only [ha, Except.ok.injEq, Prod.mk.injEq, Option.some.injEq]
    constructor
    · rintro ⟨rfl, rfl⟩
      exact ⟨rfl, ha⟩
    · rintro ⟨rfl, h⟩
      exact ⟨rfl, by simpa [ha] using h⟩

/-- The key is active or retired. -/
def UsableKey (r : KeyLifecycleRegistry) (keyId : String) : Prop :=
  ∃ key, r.keys.get keyId = some key ∧ (key.state = .active ∨ key.state = .retired)

theorem key_eq_ok {keyId : String} {key : EncryptionKeyRecord} : r.key keyId = .ok key ↔ r.keys.get keyId = some key := by
  unfold KeyLifecycleRegistry.key
  cases r.keys.get keyId with
  | none => simp
  | some key' => simp

theorem isUsableKey_eq_true {keyId : String} : r.isUsableKey keyId = .ok true ↔ r.UsableKey keyId := by
  simp only [isUsableKey, bind_eq_ok, pure_eq_ok, key_eq_ok, decide_eq_true_eq, UsableKey]

theorem requireUsableKey_eq_ok {keyId : String} : r.requireUsableKey keyId = .ok () ↔ r.UsableKey keyId := by
  simp only [requireUsableKey, bind_eq_ok, throwIf_eq_ok]
  rw [← isUsableKey_eq_true]
  constructor
  · rintro ⟨usable, hok, husable⟩
    have htrue : usable = true := by simpa using husable
    rwa [← htrue]
  · intro hok
    exact ⟨true, hok, by simp⟩

/-- A retrieval is authorized in the window of an active grant whose key is
usable. -/
theorem authorizeRetrieval_eq_ok {grantId : String} {currentTime : ℤ} :
    r.authorizeRetrieval grantId currentTime = .ok () ↔ ∃ grant, r.grants.get grantId = some grant ∧
      grant.state = .active ∧ grant.effectiveAt ≤ currentTime ∧ currentTime < grant.expiresAt ∧
      r.UsableKey grant.recipientKeyId := by
  simp only [authorizeRetrieval, effectiveGrantState, bind_eq_ok, pure_eq_ok, throwIf_eq_ok, Prod.exists, grant_eq_ok,
    requireUsableKey_eq_ok, ObjectMap.get_eq_some_iff]
  constructor
  · rintro ⟨ref, grant, ⟨href, hgrant⟩, effective, ⟨ref', grant', ⟨href', hgrant'⟩, rfl⟩, -, hpolicy, hkey⟩
    obtain rfl : ref = ref' := Option.some.inj (href.symm.trans href')
    obtain rfl : grant = grant' := Option.some.inj (hgrant.symm.trans hgrant')
    obtain ⟨hstate, heffective⟩ := not_or.mp hpolicy
    split_ifs at hstate with hexpired
    · exact absurd (by simp) hstate
    · have hactive : grant.state = .active := by simpa using hstate
      refine ⟨grant, ⟨ref, href, hgrant⟩, hactive, by omega, ?_, hkey⟩
      have hwithin : ¬grant.expiresAt ≤ currentTime := fun h => hexpired ⟨by rw [hactive]; decide, h⟩
      omega
  · rintro ⟨grant, ⟨ref, href, hgrant⟩, hactive, heffective, hexpires, hkey⟩
    refine ⟨ref, grant, ⟨href, hgrant⟩, _, ⟨ref, grant, ⟨href, hgrant⟩, rfl⟩, ⟨⟩, ?_, hkey⟩
    have hwithin : ¬(grant.state ≠ .revoked ∧ currentTime ≥ grant.expiresAt) := fun h => by omega
    rw [if_neg hwithin, hactive]
    simpa using heffective

/-! ### Usable controllers -/

/-- The authorization is active and its key usable. -/
def Usable (r : KeyLifecycleRegistry) (authorization : ControllerAuthorizationRecord) : Prop :=
  authorization.state = .active ∧ r.UsableKey authorization.keyId

/-- What `prepareGrant` asks besides a usable controller. -/
structure Admits (r : KeyLifecycleRegistry) (grant : AccessGrantRecord) : Prop where
  prepared : grant.state = .prepared
  window : grant.effectiveAt < grant.expiresAt
  recipientKey : ∃ key, r.keys.get grant.recipientKeyId = some key ∧ key.state = .active
  counts : ∃ count, r.usableControllerCount = .ok count
  new : r.grants.get grant.grantId = none

theorem countUsable_eq_zero : ∀ (authorizations : List ControllerAuthorizationRecord) {count : ℕ},
    r.countUsable authorizations = .ok count → (count = 0 ↔ ∀ authorization ∈ authorizations, ¬r.Usable authorization)
  | [], count, h => by
    obtain rfl : 0 = count := by simpa [countUsable] using h
    simp
  | authorization :: rest, count, h => by
    rw [List.forall_mem_cons]
    by_cases hactive : authorization.state = .active
    · simp only [countUsable, if_pos hactive, bind_eq_ok, pure_eq_ok] at h
      obtain ⟨usable, husable, others, hothers, rfl⟩ := h
      rw [← countUsable_eq_zero rest hothers, Usable, ← isUsableKey_eq_true, husable]
      cases usable <;> simp [hactive]
    · simp only [countUsable, if_neg hactive, bind_eq_ok, pure_eq_ok] at h
      obtain ⟨usable, rfl, others, hothers, rfl⟩ := h
      rw [← countUsable_eq_zero rest hothers, Usable]
      simp [hactive]

/-- **When a grant is prepared**: the registry admits it and some controller,
whichever, is usable. -/
theorem prepareGrant_isOk {grant : AccessGrantRecord} : (∃ r', r.prepareGrant grant = .ok r') ↔
    r.Admits grant ∧ ∃ id authorization, r.authorizations.get id = some authorization ∧ r.Usable authorization := by
  have hvalues : (∃ id authorization, r.authorizations.get id = some authorization ∧ r.Usable authorization) ↔
      ¬∀ authorization ∈ r.authorizations.values, ¬r.Usable authorization := by
    simp only [ObjectMap.mem_values_iff, not_forall, not_not, exists_prop]
    constructor
    · rintro ⟨id, authorization, hget, husable⟩
      exact ⟨authorization, ⟨id, hget⟩, husable⟩
    · rintro ⟨authorization, ⟨id, hget⟩, husable⟩
      exact ⟨id, authorization, hget, husable⟩
  simp only [prepareGrant, requireActiveKey, bind_eq_ok, throwIf_eq_ok, pure_eq_ok, key_eq_ok, not_or, not_not,
    Bool.not_eq_true, hvalues]
  constructor
  · rintro ⟨r', -, ⟨hstate, hwindow⟩, -, ⟨key, hkey, hactive⟩, count, hcount, -, hsome, -, hnew, -⟩
    rw [countUsable_eq_zero _ hcount] at hsome
    exact ⟨⟨hstate, by omega, ⟨key, hkey, hactive⟩, ⟨count, hcount⟩, (r.grants.has_eq_false_iff).mp hnew⟩, hsome⟩
  · rintro ⟨⟨hstate, hwindow, ⟨key, hkey, hactive⟩, ⟨count, hcount⟩, hnew⟩, hsome⟩
    rw [← countUsable_eq_zero _ hcount] at hsome
    exact ⟨_, (), ⟨hstate, by omega⟩, (), ⟨key, hkey, hactive⟩, count, hcount, (), hsome, (),
      (r.grants.has_eq_false_iff).mpr hnew, rfl⟩

/-- Only the keys differ. -/
structure KeysOnly (r r' : KeyLifecycleRegistry) : Prop where
  authorizations : r'.authorizations = r.authorizations
  grants : r'.grants = r.grants

theorem addKey_ok {record : EncryptionKeyRecord} (h : r.addKey record = .ok r') : KeysOnly r r' := by
  simp only [addKey, bind_eq_ok, pure_eq_ok] at h
  obtain ⟨_, _, rfl⟩ := h
  exact ⟨rfl, rfl⟩

theorem activateKey_ok {keyId : String} (h : r.activateKey keyId = .ok r') : KeysOnly r r' := by
  simp only [activateKey, bind_eq_ok, pure_eq_ok] at h
  obtain ⟨_, _, _, _, rfl⟩ := h
  exact ⟨rfl, rfl⟩

theorem recordKeyFailure_ok {keyId : String} {failure : KeyFailure}
    (h : r.recordKeyFailure keyId failure = .ok r') : KeysOnly r r' := by
  simp only [recordKeyFailure, bind_eq_ok, pure_eq_ok] at h
  obtain ⟨_, _, _, _, rfl⟩ := h
  exact ⟨rfl, rfl⟩

theorem retireKey_ok {keyId : String} (h : r.retireKey keyId = .ok r') : KeysOnly r r' := by
  simp only [retireKey, bind_eq_ok] at h
  obtain ⟨_, _, _, _, h⟩ := h
  split at h
  · simp only [bind_eq_ok, pure_eq_ok] at h
    obtain ⟨_, _, _, _, rfl⟩ := h
    exact ⟨rfl, rfl⟩
  · cases h
    exact ⟨rfl, rfl⟩

theorem stageControllerAuthorization_ok {record : ControllerAuthorizationRecord}
    (h : r.stageControllerAuthorization record = .ok r') :
    r.authorizations.get record.authorizationId = none ∧
      r' = { r with authorizations := r.authorizations.insert record.authorizationId record } := by
  simp only [stageControllerAuthorization, bind_eq_ok, throwIf_eq_ok, pure_eq_ok, not_or,
    Bool.not_eq_true] at h
  obtain ⟨_, ⟨_, hhas⟩, _, _, rfl⟩ := h
  exact ⟨(r.authorizations.has_eq_false_iff).mp hhas, rfl⟩

theorem activateControllerAuthorization_ok {authorizationId : String}
    (h : r.activateControllerAuthorization authorizationId = .ok r') :
    ∃ ref record, r.authorizations.ref authorizationId = some ref ∧
      r.authorizations.deref ref = some record ∧ record.state = .staged ∧
      r' = { r with authorizations := r.authorizations.mutate ref fun a => { a with state := .active } } := by
  simp only [activateControllerAuthorization, bind_eq_ok, throwIf_eq_ok, pure_eq_ok, Prod.exists,
    authorization_eq_ok, ne_eq, not_not] at h
  obtain ⟨ref, record, ⟨href, hrec⟩, _, hst, _, _, rfl⟩ := h
  exact ⟨ref, record, href, hrec, hst, rfl⟩

theorem prepareGrant_ok {record : AccessGrantRecord} (h : r.prepareGrant record = .ok r') :
    r.grants.get record.grantId = none ∧
      r' = { r with grants := r.grants.insert record.grantId record } := by
  simp only [prepareGrant, bind_eq_ok, throwIf_eq_ok, pure_eq_ok, Bool.not_eq_true] at h
  obtain ⟨_, _, _, _, _, _, _, _, _, hhas, rfl⟩ := h
  exact ⟨(r.grants.has_eq_false_iff).mp hhas, rfl⟩

theorem revokeGrant_ok {grantId : String} (h : r.revokeGrant grantId = .ok r') :
    ∃ ref record, r.grants.ref grantId = some ref ∧ r.grants.deref ref = some record ∧
      r' = { r with grants := r.grants.mutate ref fun g => { g with state := .revoked } } := by
  simp only [revokeGrant, bind_eq_ok, throwIf_eq_ok, pure_eq_ok, Prod.exists, grant_eq_ok] at h
  obtain ⟨ref, record, ⟨href, hrec⟩, _, _, rfl⟩ := h
  exact ⟨ref, record, href, hrec, rfl⟩

/-- A continuation writes only if its envelope was verified. -/
theorem resume_ok {call : Suspended} {verified : Bool} (h : r.resume verified call = .ok r') :
    verified = true ∧
      ((∃ predecessor successor, call = .rotateControllerAuthorization predecessor successor ∧
        r'.authorizations = (r.authorizations.insert successor.authorizationId
          { successor with state := .active }).mutate predecessor (fun a => { a with state := .retired }) ∧
        r'.grants = r.grants ∧ r'.keys = r.keys) ∨
      (∃ grant, call = .activateGrant grant ∧
        r'.grants = r.grants.mutate grant (fun g => { g with state := .active }) ∧
        r'.authorizations = r.authorizations ∧ r'.keys = r.keys) ∨
      (∃ grantId grant keyId envelopeId record, call = .rotateRecipientEnvelope grantId grant keyId envelopeId ∧
        r.grants.deref grant = some record ∧
        r'.grants = r.grants.insert grantId { record with envelopeId := envelopeId, recipientKeyId := keyId } ∧
        r'.authorizations = r.authorizations ∧ r'.keys = r.keys)) := by
  cases call with
  | rotateControllerAuthorization predecessor successor =>
    simp only [resume, bind_eq_ok, throwIf_eq_ok, pure_eq_ok, Bool.not_eq_true] at h
    obtain ⟨_, hv, rfl⟩ := h
    exact ⟨by simpa using hv, .inl ⟨predecessor, successor, rfl, rfl, rfl, rfl⟩⟩
  | activateGrant grant =>
    simp only [resume, bind_eq_ok, throwIf_eq_ok, pure_eq_ok] at h
    obtain ⟨_, hv, rfl⟩ := h
    exact ⟨by simpa using hv, .inr (.inl ⟨grant, rfl, rfl, rfl, rfl⟩)⟩
  | rotateRecipientEnvelope grantId grant keyId envelopeId =>
    simp only [resume, bind_eq_ok, throwIf_eq_ok] at h
    obtain ⟨_, hv, h⟩ := h
    cases hd : r.grants.deref grant with
    | none => simp [hd] at h
    | some record =>
      simp only [hd, pure_eq_ok] at h
      subst h
      exact ⟨by simpa using hv,
        .inr (.inr ⟨grantId, grant, keyId, envelopeId, record, rfl, hd, rfl, rfl, rfl⟩)⟩

end KeyLifecycleRegistry

/-! ### An authorization leaves the staging state for good -/

section Settled

variable {m : ObjectMap String ControllerAuthorizationRecord} {id : String}

/-- An authorization is stored under the id and is not staged. -/
def Settled (m : ObjectMap String ControllerAuthorizationRecord) (id : String) : Prop :=
  ∃ record, m.get id = some record ∧ record.state ≠ .staged

theorem Settled.insert (h : Settled m id) (record : ControllerAuthorizationRecord)
    (hnew : m.get record.authorizationId = none ∨ record.state ≠ .staged) :
    Settled (m.insert record.authorizationId record) id := by
  obtain ⟨old, hold, hstate⟩ := h
  rcases hnew with hnone | hsettled
  · have hne : record.authorizationId ≠ id := by
      rintro rfl
      rw [hnone] at hold
      cases hold
    exact ⟨old, by rw [ObjectMap.get_insert, if_neg hne, hold], hstate⟩
  · by_cases hid : record.authorizationId = id
    · exact ⟨record, by rw [ObjectMap.get_insert, if_pos hid], hsettled⟩
    · exact ⟨old, by rw [ObjectMap.get_insert, if_neg hid, hold], hstate⟩

theorem Settled.mutate {state : ControllerAuthorizationState} (h : Settled m id) (hstate : state ≠ .staged) (ref : Ref) :
    Settled (m.mutate ref fun a => { a with state }) id := by
  obtain ⟨old, hold, hsettled⟩ := h
  by_cases href : m.ref id = some ref
  · exact ⟨{ old with state }, by rw [ObjectMap.get_mutate, if_pos href, hold, Option.map_some], hstate⟩
  · exact ⟨old, by rw [ObjectMap.get_mutate, if_neg href, hold], hsettled⟩

theorem settled_mutate_of_ref {state : ControllerAuthorizationState} {ref : Ref} (href : m.ref id = some ref)
    (hstate : state ≠ .staged) : Settled (m.mutate ref fun a => { a with state }) id := by
  obtain ⟨old, hold⟩ := m.deref_of_ref href
  refine ⟨{ old with state }, ?_, hstate⟩
  rw [ObjectMap.get_mutate, if_pos href, ObjectMap.get_eq_deref m href, hold, Option.map_some]

end Settled

namespace KeyLifecycleRegistry

variable {r r' : KeyLifecycleRegistry} {id : String}

theorem settled_stage {record : ControllerAuthorizationRecord} (h : r.stageControllerAuthorization record = .ok r')
    (hid : Settled r.authorizations id) : Settled r'.authorizations id := by
  obtain ⟨hnone, rfl⟩ := stageControllerAuthorization_ok h
  exact hid.insert record (.inl hnone)

theorem settled_activate {authorizationId : String} (h : r.activateControllerAuthorization authorizationId = .ok r')
    (hid : Settled r.authorizations id ∨ id = authorizationId) : Settled r'.authorizations id := by
  obtain ⟨ref, record, href, -, -, rfl⟩ := activateControllerAuthorization_ok h
  rcases hid with hid | rfl
  · exact hid.mutate (by simp) ref
  · exact settled_mutate_of_ref href (by simp)

/-- A settled authorization cannot be activated again. -/
theorem activate_of_settled (h : Settled r.authorizations id) : r.activateControllerAuthorization id ≠ .ok r' := by
  intro hok
  obtain ⟨ref, record, href, hrecord, hstaged, -⟩ := activateControllerAuthorization_ok hok
  obtain ⟨record', hget, hstate⟩ := h
  rw [ObjectMap.get_eq_deref _ href, hrecord] at hget
  exact hstate (by rw [← Option.some.inj hget, hstaged])

theorem settled_resume {call : Suspended} {verified : Bool} (h : r.resume verified call = .ok r')
    (hid : Settled r.authorizations id ∨
      ∃ predecessor successor, call = .rotateControllerAuthorization predecessor successor ∧ successor.authorizationId = id) :
    Settled r'.authorizations id := by
  obtain ⟨-, ⟨predecessor, successor, rfl, hauth, -, -⟩ | ⟨_, rfl, _, hauth, _⟩ | ⟨_, _, _, _, _, rfl, _, _, hauth, _⟩⟩ :=
    resume_ok h
  · have hinserted : Settled (r.authorizations.insert successor.authorizationId { successor with state := .active }) id := by
      rcases hid with hid | ⟨_, successor', heq, rfl⟩
      · exact hid.insert { successor with state := .active } (.inr (by simp))
      · obtain ⟨-, rfl⟩ := Suspended.rotateControllerAuthorization.inj heq
        exact ⟨{ successor with state := .active }, by rw [ObjectMap.get_insert, if_pos rfl], by simp⟩
    rw [hauth]
    exact hinserted.mutate (by simp) predecessor
  · rcases hid with hid | ⟨_, _, heq, _⟩
    · rwa [hauth]
    · cases heq
  · rcases hid with hid | ⟨_, _, heq, _⟩
    · rwa [hauth]
    · cases heq

end KeyLifecycleRegistry

namespace Lifecycle

variable {c : Lifecycle} {id : String}

theorem settled_write {x : Except KeyLifecycleError KeyLifecycleRegistry}
    (h : ∀ r', x = .ok r' → Settled r'.authorizations id) (hid : Settled c.registry.authorizations id) :
    Settled (c.write x).registry.authorizations id := by
  rcases x with e | r'
  · exact hid
  · exact h r' rfl

theorem suspend_registry (c : Lifecycle) (x : Except KeyLifecycleError Suspended) : (c.suspend x).registry = c.registry := by
  rcases x with e | call
  · rfl
  · rfl

/-- No event of the registry stages a settled authorization again. -/
theorem settled_step (event : Event) (hid : Settled c.registry.authorizations id) :
    Settled (c.step event).registry.authorizations id := by
  have hkeys : ∀ {r'}, KeyLifecycleRegistry.KeysOnly c.registry r' → Settled r'.authorizations id := by
    intro r' h
    rw [h.authorizations]
    exact hid
  cases event with
  | addKey record => exact settled_write (fun _ h => hkeys (KeyLifecycleRegistry.addKey_ok h)) hid
  | activateKey keyId => exact settled_write (fun _ h => hkeys (KeyLifecycleRegistry.activateKey_ok h)) hid
  | recordKeyFailure keyId failure =>
    exact settled_write (fun _ h => hkeys (KeyLifecycleRegistry.recordKeyFailure_ok h)) hid
  | retireKey keyId => exact settled_write (fun _ h => hkeys (KeyLifecycleRegistry.retireKey_ok h)) hid
  | stageControllerAuthorization record =>
    exact settled_write (fun _ h => KeyLifecycleRegistry.settled_stage h hid) hid
  | activateControllerAuthorization authorizationId =>
    exact settled_write (fun _ h => KeyLifecycleRegistry.settled_activate h (.inl hid)) hid
  | rotateControllerAuthorization predecessorId successor =>
    simp only [step, suspend_registry]
    exact hid
  | prepareGrant record =>
    refine settled_write (fun _ h => ?_) hid
    obtain ⟨-, rfl⟩ := KeyLifecycleRegistry.prepareGrant_ok h
    exact hid
  | activateGrant grantId currentTime =>
    simp only [step, suspend_registry]
    exact hid
  | revokeGrant grantId =>
    refine settled_write (fun _ h => ?_) hid
    obtain ⟨ref, record, -, -, rfl⟩ := KeyLifecycleRegistry.revokeGrant_ok h
    exact hid
  | authorizeRetrieval grantId currentTime => exact hid
  | rotateRecipientEnvelope grantId keyId envelopeId =>
    simp only [step, suspend_registry]
    exact hid
  | resume index verified =>
    simp only [step]
    split
    · exact hid
    · exact settled_write (fun _ h => KeyLifecycleRegistry.settled_resume h (.inl hid)) hid

end Lifecycle

end Keys
end Evllm
