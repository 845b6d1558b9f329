/-
# A snapshot restores its registry

The reader of snapshots refuses a record that names no key, a second record
under one id, an empty text and a grant that ends before it begins. So that
it takes every snapshot, the operations must never have let such a record in:
`Filing` says that every record is stored under its own id, `Written` that
texts and times are of the kind the reader takes and that the key that a
record names is there. `Effect` says once what a step can do, and each
invariant follows from it.

The restored registry holds the same records in the order of the snapshot, so
it is similar to the old one, and no sequence of operations tells the two
apart.

Key definitions: `Event.WellFormed`, `Effect`, `Filing`, `Written`.
Key theorems: `step_effect`, `Effect.filing`, `Effect.written`,
`fromSnapshot_toJson`, `snapshot_round_trip`.
-/
import Evllm.Keys.Similar
import Evllm.Keys.Withdrawal
import Evllm.Lib.JsString

namespace Evllm
namespace Keys

open Lib ObjectMap KeyLifecycleRegistry

/-! ### What a step can do -/

def HasKey (r : KeyLifecycleRegistry) (keyId : String) : Prop := ∃ key, r.keys.get keyId = some key

inductive Effect (c : Lifecycle) : Event → Lifecycle → Prop where
  | none (event : Event) : Effect c event c
  | key (record : EncryptionKeyRecord) :
      Effect c (.addKey record) ⟨{ c.registry with keys := c.registry.keys.set record.id record }, c.suspended⟩
  | keyState (event : Event) (id : String) (key : EncryptionKeyRecord) (state : EncryptionKeyState)
      (held : c.registry.keys.get id = some key) : Effect c event ⟨c.registry.setKeyState id key state, c.suspended⟩
  | authorization (record : ControllerAuthorizationRecord) (keyHeld : HasKey c.registry record.keyId) :
      Effect c (.stageControllerAuthorization record)
        ⟨{ c.registry with authorizations := c.registry.authorizations.insert record.authorizationId record }, c.suspended⟩
  | authorizationState (event : Event) (ref : Ref) (state : ControllerAuthorizationState) :
      Effect c event
        ⟨{ c.registry with authorizations := c.registry.authorizations.mutate ref fun a => { a with state } }, c.suspended⟩
  | grant (record : AccessGrantRecord) (window : record.effectiveAt < record.expiresAt)
      (keyHeld : HasKey c.registry record.recipientKeyId) :
      Effect c (.prepareGrant record)
        ⟨{ c.registry with grants := c.registry.grants.insert record.grantId record }, c.suspended⟩
  | grantState (event : Event) (ref : Ref) (state : GrantStoredState) :
      Effect c event ⟨{ c.registry with grants := c.registry.grants.mutate ref fun g => { g with state } }, c.suspended⟩
  | rotation (id : String) (successor : ControllerAuthorizationRecord) (ref : Ref)
      (keyHeld : HasKey c.registry successor.keyId) :
      Effect c (.rotateControllerAuthorization id successor)
        ⟨c.registry, c.suspended ++ [.rotateControllerAuthorization ref successor]⟩
  | activation (id : String) (currentTime : ℤ) (ref : Ref) :
      Effect c (.activateGrant id currentTime) ⟨c.registry, c.suspended ++ [.activateGrant ref]⟩
  | envelope (id keyId envelopeId : String) (ref : Ref) (stored : c.registry.grants.ref id = some ref)
      (keyHeld : HasKey c.registry keyId) :
      Effect c (.rotateRecipientEnvelope id keyId envelopeId)
        ⟨c.registry, c.suspended ++ [.rotateRecipientEnvelope id ref keyId envelopeId]⟩
  | failed (index : ℕ) (verified : Bool) :
      Effect c (.resume index verified) ⟨c.registry, c.suspended.eraseIdx index⟩
  | rotated (index : ℕ) (verified : Bool) (predecessor : Ref) (successor : ControllerAuthorizationRecord)
      (called : .rotateControllerAuthorization predecessor successor ∈ c.suspended) :
      Effect c (.resume index verified)
        ⟨{ c.registry with authorizations := (c.registry.authorizations.insert successor.authorizationId
            { successor with state := .active }).mutate predecessor fun a => { a with state := .retired } },
          c.suspended.eraseIdx index⟩
  | activated (index : ℕ) (verified : Bool) (ref : Ref) :
      Effect c (.resume index verified)
        ⟨{ c.registry with grants := c.registry.grants.mutate ref fun g => { g with state := .active } },
          c.suspended.eraseIdx index⟩
  | replaced (index : ℕ) (verified : Bool) (id keyId envelopeId : String) (ref : Ref) (record : AccessGrantRecord)
      (called : .rotateRecipientEnvelope id ref keyId envelopeId ∈ c.suspended)
      (held : c.registry.grants.deref ref = some record) :
      Effect c (.resume index verified)
        ⟨{ c.registry with grants :=
            c.registry.grants.insert id { record with envelopeId := envelopeId, recipientKeyId := keyId } },
          c.suspended.eraseIdx index⟩

section

variable {c : Lifecycle}

theorem hasKey_of_active {r : KeyLifecycleRegistry} {keyId : String} (h : r.requireActiveKey keyId = .ok ()) :
    HasKey r keyId := by
  simp only [KeyLifecycleRegistry.requireActiveKey, bind_eq_ok, key_eq_ok] at h
  obtain ⟨key, hkey, -⟩ := h
  exact ⟨key, hkey⟩

theorem effect_write {event : Event} {x : Except KeyLifecycleError KeyLifecycleRegistry}
    (h : ∀ r', x = .ok r' → Effect c event ⟨r', c.suspended⟩) : Effect c event (c.write x) := by
  cases x with
  | error e => exact .none event
  | ok r' => exact h r' rfl

theorem effect_suspend {event : Event} {x : Except KeyLifecycleError Suspended}
    (h : ∀ call, x = .ok call → Effect c event ⟨c.registry, c.suspended ++ [call]⟩) : Effect c event (c.suspend x) := by
  cases x with
  | error e => exact .none event
  | ok call => exact h call rfl

theorem effect_end {index : ℕ} {verified : Bool} {x : Except KeyLifecycleError KeyLifecycleRegistry}
    (h : ∀ r', x = .ok r' → Effect c (.resume index verified) ⟨r', c.suspended.eraseIdx index⟩) :
    Effect c (.resume index verified) (Lifecycle.write ⟨c.registry, c.suspended.eraseIdx index⟩ x) := by
  cases x with
  | error e => exact .failed index verified
  | ok r' => exact h r' rfl

theorem resume_effect (index : ℕ) (verified : Bool) : Effect c (.resume index verified) (c.step (.resume index verified)) := by
  simp only [Lifecycle.step]
  cases hcall : c.suspended[index]? with
  | none => exact .none _
  | some call =>
    have hmem : call ∈ c.suspended := List.mem_of_getElem? hcall
    refine effect_end fun r' h => ?_
    cases call with
    | rotateControllerAuthorization predecessor successor =>
      simp only [KeyLifecycleRegistry.resume, bind_eq_ok, pure_eq_ok] at h
      obtain ⟨-, -, rfl⟩ := h
      exact .rotated index verified predecessor successor hmem
    | activateGrant ref =>
      simp only [KeyLifecycleRegistry.resume, bind_eq_ok, pure_eq_ok] at h
      obtain ⟨-, -, rfl⟩ := h
      exact .activated index verified ref
    | rotateRecipientEnvelope id ref keyId envelopeId =>
      simp only [KeyLifecycleRegistry.resume, bind_eq_ok] at h
      obtain ⟨-, -, h⟩ := h
      cases hd : c.registry.grants.deref ref with
      | none => simp [hd] at h
      | some record =>
        simp only [hd, pure_eq_ok] at h
        subst h
        exact .replaced index verified id keyId envelopeId ref record hmem hd

theorem step_effect (event : Event) : Effect c event (c.step event) := by
  cases event with
  | addKey record =>
    refine effect_write fun r' h => ?_
    simp only [KeyLifecycleRegistry.addKey, bind_eq_ok, pure_eq_ok] at h
    obtain ⟨-, -, rfl⟩ := h
    exact .key record
  | activateKey keyId =>
    refine effect_write fun r' h => ?_
    simp only [KeyLifecycleRegistry.activateKey, bind_eq_ok, pure_eq_ok, key_eq_ok] at h
    obtain ⟨key, hkey, -, -, rfl⟩ := h
    exact .keyState _ keyId key .active hkey
  | recordKeyFailure keyId failure =>
    refine effect_write fun r' h => ?_
    simp only [KeyLifecycleRegistry.recordKeyFailure, bind_eq_ok, pure_eq_ok, key_eq_ok] at h
    obtain ⟨key, hkey, -, -, rfl⟩ := h
    exact .keyState _ keyId key failure.state hkey
  | retireKey keyId =>
    refine effect_write fun r' h => ?_
    simp only [KeyLifecycleRegistry.retireKey, bind_eq_ok, key_eq_ok] at h
    obtain ⟨key, hkey, -, -, h⟩ := h
    split at h
    · simp only [bind_eq_ok, pure_eq_ok] at h
      obtain ⟨-, -, -, -, rfl⟩ := h
      exact .keyState _ keyId key .retired hkey
    · cases h
      exact .keyState _ keyId key .retired hkey
  | stageControllerAuthorization record =>
    refine effect_write fun r' h => ?_
    simp only [KeyLifecycleRegistry.stageControllerAuthorization, bind_eq_ok, pure_eq_ok] at h
    obtain ⟨-, -, ⟨⟩, hkey, rfl⟩ := h
    exact .authorization record (hasKey_of_active hkey)
  | activateControllerAuthorization id =>
    refine effect_write fun r' h => ?_
    obtain ⟨ref, record, -, -, -, rfl⟩ := activateControllerAuthorization_ok h
    exact .authorizationState _ ref .active
  | rotateControllerAuthorization id successor =>
    refine effect_suspend fun call h => ?_
    simp only [KeyLifecycleRegistry.rotateControllerAuthorization, bind_eq_ok, pure_eq_ok, Prod.exists] at h
    obtain ⟨ref, predecessor, -, -, -, -, -, -, -, ⟨⟩, hkey, rfl⟩ := h
    exact .rotation id successor ref (hasKey_of_active hkey)
  | prepareGrant record =>
    refine effect_write fun r' h => ?_
    simp only [KeyLifecycleRegistry.prepareGrant, bind_eq_ok, throwIf_eq_ok, pure_eq_ok, not_or] at h
    obtain ⟨-, ⟨-, hwindow⟩, ⟨⟩, hkey, -, -, -, -, -, -, rfl⟩ := h
    exact .grant record (by omega) (hasKey_of_active hkey)
  | activateGrant id currentTime =>
    refine effect_suspend fun call h => ?_
    simp only [KeyLifecycleRegistry.activateGrant, bind_eq_ok, pure_eq_ok, Prod.exists] at h
    obtain ⟨ref, g, -, -, -, -, -, rfl⟩ := h
    exact .activation id currentTime ref
  | revokeGrant id =>
    refine effect_write fun r' h => ?_
    obtain ⟨ref, record, -, -, rfl⟩ := revokeGrant_ok h
    exact .grantState _ ref .revoked
  | authorizeRetrieval id currentTime => exact .none _
  | rotateRecipientEnvelope id keyId envelopeId =>
    refine effect_suspend fun call h => ?_
    simp only [KeyLifecycleRegistry.rotateRecipientEnvelope, bind_eq_ok, pure_eq_ok, Prod.exists, grant_eq_ok] at h
    obtain ⟨ref, g, ⟨href, -⟩, -, -, ⟨⟩, hkey, rfl⟩ := h
    exact .envelope id keyId envelopeId ref href (hasKey_of_active hkey)
  | resume index verified => exact resume_effect index verified

end

/-! ### Records are stored under their ids -/

/-- The call replaces a grant under its own id. -/
def CallFiled (r : KeyLifecycleRegistry) : Suspended → Prop
  | .rotateRecipientEnvelope id ref _ _ => ∃ g, r.grants.deref ref = some g ∧ g.grantId = id
  | _ => True

structure Filing (c : Lifecycle) : Prop where
  identified : Identified c.registry
  calls : ∀ call ∈ c.suspended, CallFiled c.registry call

section

variable {c : Lifecycle} {r r' : KeyLifecycleRegistry}

theorem callFiled_of_objects {call : Suspended} (hobjects : ∀ ref g, r.grants.deref ref = some g →
    ∃ g', r'.grants.deref ref = some g' ∧ g'.grantId = g.grantId) (h : CallFiled r call) : CallFiled r' call := by
  cases call with
  | rotateControllerAuthorization predecessor successor => trivial
  | activateGrant ref => trivial
  | rotateRecipientEnvelope id ref keyId envelopeId =>
    obtain ⟨g, hg, hid⟩ := h
    obtain ⟨g', hg', hid'⟩ := hobjects ref g hg
    exact ⟨g', hg', hid'.trans hid⟩

theorem objects_insert (id : String) (a : AccessGrantRecord) (ref : Ref) (g : AccessGrantRecord)
    (hg : r.grants.deref ref = some g) :
    ∃ g', (r.grants.insert id a).deref ref = some g' ∧ g'.grantId = g.grantId :=
  ⟨g, deref_insert_of_some _ hg a, rfl⟩

theorem objects_mutate (target : Ref) (state : GrantStoredState) (ref : Ref) (g : AccessGrantRecord)
    (hg : r.grants.deref ref = some g) :
    ∃ g', (r.grants.mutate target fun g => { g with state }).deref ref = some g' ∧ g'.grantId = g.grantId := by
  rw [deref_mutate, hg]
  split_ifs
  · exact ⟨{ g with state }, rfl, rfl⟩
  · exact ⟨g, rfl, rfl⟩

theorem Effect.filing {event : Event} {c' : Lifecycle} (h : Effect c event c') (hc : Filing c) : Filing c' := by
  obtain ⟨⟨hauthorizations, hgrants, hkeys⟩, hcalls⟩ := hc
  have erased : ∀ index, ∀ call ∈ c.suspended.eraseIdx index, CallFiled c.registry call :=
    fun index call hmem => hcalls call (List.mem_of_mem_eraseIdx hmem)
  have appended : ∀ new, CallFiled c.registry new → ∀ call ∈ c.suspended ++ [new], CallFiled c.registry call := by
    intro new hnew call hmem
    obtain hmem | hmem := List.mem_append.mp hmem
    · exact hcalls call hmem
    · rw [List.mem_singleton.mp hmem]
      exact hnew
  have keysSet : ∀ id (key : EncryptionKeyRecord), key.id = id →
      ∀ id' key', (c.registry.keys.set id key).get id' = some key' → key'.id = id' := by
    intro id key hid id' key' hkey'
    rw [JsMap.get_set] at hkey'
    split_ifs at hkey' with heq
    · cases hkey'
      exact hid.trans heq
    · exact hkeys id' key' hkey'
  cases h with
  | none => exact ⟨⟨hauthorizations, hgrants, hkeys⟩, hcalls⟩
  | key record => exact ⟨⟨hauthorizations, hgrants, keysSet record.id record rfl⟩, hcalls⟩
  | keyState _ id key state held =>
    exact ⟨⟨hauthorizations, hgrants, keysSet id { key with state } (hkeys id key held)⟩, hcalls⟩
  | authorization record keyHeld => exact ⟨⟨hauthorizations.insert record, hgrants, hkeys⟩, hcalls⟩
  | authorizationState _ ref state => exact ⟨⟨hauthorizations.mutate fun _ => rfl, hgrants, hkeys⟩, hcalls⟩
  | grant record window keyHeld =>
    refine ⟨⟨hauthorizations, hgrants.insert record, hkeys⟩, fun call hmem => ?_⟩
    exact callFiled_of_objects (objects_insert record.grantId record) (hcalls call hmem)
  | grantState _ ref state =>
    refine ⟨⟨hauthorizations, hgrants.mutate fun _ => rfl, hkeys⟩, fun call hmem => ?_⟩
    exact callFiled_of_objects (objects_mutate ref state) (hcalls call hmem)
  | rotation id successor ref keyHeld => exact ⟨⟨hauthorizations, hgrants, hkeys⟩, appended _ trivial⟩
  | activation id currentTime ref => exact ⟨⟨hauthorizations, hgrants, hkeys⟩, appended _ trivial⟩
  | envelope id keyId envelopeId ref stored keyHeld =>
    obtain ⟨g, hg⟩ := c.registry.grants.deref_of_ref stored
    refine ⟨⟨hauthorizations, hgrants, hkeys⟩, appended _ ⟨g, hg, hgrants id g ?_⟩⟩
    rw [get_eq_deref _ stored, hg]
  | failed index verified => exact ⟨⟨hauthorizations, hgrants, hkeys⟩, erased index⟩
  | rotated index verified predecessor successor called =>
    exact ⟨⟨(hauthorizations.insert { successor with state := .active }).mutate fun _ => rfl, hgrants, hkeys⟩, erased index⟩
  | activated index verified ref =>
    refine ⟨⟨hauthorizations, hgrants.mutate fun _ => rfl, hkeys⟩, fun call hmem => ?_⟩
    exact callFiled_of_objects (objects_mutate ref .active) (erased index call hmem)
  | replaced index verified id keyId envelopeId ref record called held =>
    obtain ⟨g, hg, rfl⟩ := hcalls _ called
    rw [held] at hg
    cases hg
    refine ⟨⟨hauthorizations, hgrants.insert { record with envelopeId := envelopeId, recipientKeyId := keyId }, hkeys⟩,
      fun call hmem => ?_⟩
    exact callFiled_of_objects (objects_insert record.grantId _) (erased index call hmem)

theorem filing_new : Filing .new := ⟨⟨named_empty, named_empty, fun _ _ h => nomatch h⟩, fun _ h => nomatch h⟩

end

/-! ### Texts and times are of the kind the reader takes -/

structure EncryptionKeyRecord.Written (record : EncryptionKeyRecord) : Prop where
  id : record.id ≠ ""
  organizationId : record.organizationId ≠ ""

structure ControllerAuthorizationRecord.Written (record : ControllerAuthorizationRecord) : Prop where
  authorizationId : record.authorizationId ≠ ""
  envelopeId : record.envelopeId ≠ ""
  keyId : record.keyId ≠ ""

structure AccessGrantRecord.Written (record : AccessGrantRecord) : Prop where
  grantId : record.grantId ≠ ""
  envelopeId : record.envelopeId ≠ ""
  recipientKeyId : record.recipientKeyId ≠ ""
  effectiveAt : Json.SafeInteger record.effectiveAt
  expiresAt : Json.SafeInteger record.expiresAt

/-- The ids that the operation is given are not empty, and its times safe integers. -/
def Event.WellFormed : Event → Prop
  | .addKey record => record.Written
  | .stageControllerAuthorization record => record.Written
  | .rotateControllerAuthorization _ successor => successor.Written
  | .prepareGrant record => record.Written
  | .rotateRecipientEnvelope _ keyId envelopeId => keyId ≠ "" ∧ envelopeId ≠ ""
  | _ => True

/-- The record and the key that it names. -/
def AuthorizationWritten (r : KeyLifecycleRegistry) (a : ControllerAuthorizationRecord) : Prop :=
  a.Written ∧ HasKey r a.keyId

def GrantWritten (r : KeyLifecycleRegistry) (g : AccessGrantRecord) : Prop :=
  g.Written ∧ g.effectiveAt < g.expiresAt ∧ HasKey r g.recipientKeyId

def CallWritten (r : KeyLifecycleRegistry) : Suspended → Prop
  | .rotateControllerAuthorization _ successor => AuthorizationWritten r successor
  | .activateGrant _ => True
  | .rotateRecipientEnvelope _ _ keyId envelopeId => keyId ≠ "" ∧ envelopeId ≠ "" ∧ HasKey r keyId

structure Written (c : Lifecycle) : Prop where
  keys : ∀ id key, c.registry.keys.get id = some key → key.Written
  authorizations : Objects (AuthorizationWritten c.registry) c.registry.authorizations
  grants : Objects (GrantWritten c.registry) c.registry.grants
  calls : ∀ call ∈ c.suspended, CallWritten c.registry call

section

variable {c c' : Lifecycle} {r r' : KeyLifecycleRegistry}

theorem hasKey_set {id keyId : String} {key : EncryptionKeyRecord} (h : HasKey r keyId) :
    HasKey { r with keys := r.keys.set id key } keyId := by
  obtain ⟨old, hold⟩ := h
  by_cases hid : id = keyId
  · exact ⟨key, by rw [hid]; exact JsMap.get_set_self _ _ _⟩
  · exact ⟨old, by rw [← hold]; exact JsMap.get_set_ne _ _ hid⟩

theorem callWritten_mono (hkeys : ∀ id, HasKey r id → HasKey r' id) {call : Suspended} (h : CallWritten r call) :
    CallWritten r' call := by
  cases call with
  | rotateControllerAuthorization predecessor successor => exact ⟨h.1, hkeys _ h.2⟩
  | activateGrant ref => trivial
  | rotateRecipientEnvelope id ref keyId envelopeId => exact ⟨h.1, h.2.1, hkeys _ h.2.2⟩

/-- A key is added, or an old one changes its state. -/
theorem Written.setKey (h : Written c) (id : String) (key : EncryptionKeyRecord) (hkey : key.Written) :
    Written ⟨{ c.registry with keys := c.registry.keys.set id key }, c.suspended⟩ := by
  refine ⟨fun id' key' hkey' => ?_, h.authorizations.mono fun a ha => ⟨ha.1, hasKey_set ha.2⟩,
    h.grants.mono fun g hg => ⟨hg.1, hg.2.1, hasKey_set hg.2.2⟩,
    fun call hmem => callWritten_mono (fun _ => hasKey_set) (h.calls call hmem)⟩
  rw [JsMap.get_set] at hkey'
  split_ifs at hkey'
  · cases hkey'
    exact hkey
  · exact h.keys id' key' hkey'

theorem Effect.written {event : Event} (h : Effect c event c') (hevent : event.WellFormed) (hc : Written c) :
    Written c' := by
  have erased : ∀ index, ∀ call ∈ c.suspended.eraseIdx index, CallWritten c.registry call :=
    fun index call hmem => hc.calls call (List.mem_of_mem_eraseIdx hmem)
  have appended : ∀ new, CallWritten c.registry new → ∀ call ∈ c.suspended ++ [new], CallWritten c.registry call := by
    intro new hnew call hmem
    obtain hmem | hmem := List.mem_append.mp hmem
    · exact hc.calls call hmem
    · rw [List.mem_singleton.mp hmem]
      exact hnew
  cases h with
  | none => exact hc
  | key record => exact hc.setKey record.id record hevent
  | keyState _ id key state held =>
    have hkey := hc.keys id key held
    exact hc.setKey id { key with state } ⟨hkey.id, hkey.organizationId⟩
  | authorization record keyHeld =>
    exact ⟨hc.keys, hc.authorizations.insert ⟨hevent, keyHeld⟩, hc.grants, hc.calls⟩
  | authorizationState _ ref state =>
    refine ⟨hc.keys, hc.authorizations.mutate fun a ha => ?_, hc.grants, hc.calls⟩
    exact ⟨⟨ha.1.authorizationId, ha.1.envelopeId, ha.1.keyId⟩, ha.2⟩
  | grant record window keyHeld =>
    exact ⟨hc.keys, hc.authorizations, hc.grants.insert ⟨hevent, window, keyHeld⟩, hc.calls⟩
  | grantState _ ref state =>
    refine ⟨hc.keys, hc.authorizations, hc.grants.mutate fun g hg => ?_, hc.calls⟩
    exact ⟨⟨hg.1.grantId, hg.1.envelopeId, hg.1.recipientKeyId, hg.1.effectiveAt, hg.1.expiresAt⟩, hg.2⟩
  | rotation id successor ref keyHeld =>
    exact ⟨hc.keys, hc.authorizations, hc.grants, appended _ ⟨hevent, keyHeld⟩⟩
  | activation id currentTime ref => exact ⟨hc.keys, hc.authorizations, hc.grants, appended _ trivial⟩
  | envelope id keyId envelopeId ref stored keyHeld =>
    exact ⟨hc.keys, hc.authorizations, hc.grants, appended _ ⟨hevent.1, hevent.2, keyHeld⟩⟩
  | failed index verified => exact ⟨hc.keys, hc.authorizations, hc.grants, erased index⟩
  | rotated index verified predecessor successor called =>
    obtain ⟨hsuccessor, hkey⟩ := hc.calls _ called
    refine ⟨hc.keys, (hc.authorizations.insert ?_).mutate fun a ha => ?_, hc.grants, erased index⟩
    · exact ⟨⟨hsuccessor.authorizationId, hsuccessor.envelopeId, hsuccessor.keyId⟩, hkey⟩
    · exact ⟨⟨ha.1.authorizationId, ha.1.envelopeId, ha.1.keyId⟩, ha.2⟩
  | activated index verified ref =>
    refine ⟨hc.keys, hc.authorizations, hc.grants.mutate fun g hg => ?_, erased index⟩
    exact ⟨⟨hg.1.grantId, hg.1.envelopeId, hg.1.recipientKeyId, hg.1.effectiveAt, hg.1.expiresAt⟩, hg.2⟩
  | replaced index verified id keyId envelopeId ref record called held =>
    obtain ⟨hkeyId, henvelopeId, hkey⟩ := hc.calls _ called
    obtain ⟨hrecord, hwindow, -⟩ := hc.grants ref record held
    refine ⟨hc.keys, hc.authorizations, hc.grants.insert ?_, erased index⟩
    exact ⟨⟨hrecord.grantId, henvelopeId, hkeyId, hrecord.effectiveAt, hrecord.expiresAt⟩, hwindow, hkey⟩

theorem written_new : Written .new :=
  ⟨fun _ _ h => (nomatch h), objects_empty, objects_empty, fun _ h => (nomatch h)⟩

end

/-! ### The reader -/

theorem find?_text {σ : Type} [DecidableEq σ] {all : List σ} {text : σ → String} (hinj : ∀ s t, text s = text t → s = t)
    {state : σ} (hmem : state ∈ all) : stateNamed all text (.string (text state)) = some state := by
  obtain ⟨found, hfound⟩ : ∃ found, (all.find? fun s => text s = text state) = some found := by
    rw [← Option.isSome_iff_exists, List.find?_isSome]
    exact ⟨state, hmem, by simp⟩
  rw [stateNamed, hfound, hinj found state (by simpa using List.find?_some hfound)]

theorem stateNamed_key (state : EncryptionKeyState) :
    stateNamed EncryptionKeyState.all EncryptionKeyState.text (.string state.text) = some state :=
  find?_text (by intro s t; cases s <;> cases t <;> decide) (by cases state <;> decide)

theorem stateNamed_authorization (state : ControllerAuthorizationState) :
    stateNamed ControllerAuthorizationState.all ControllerAuthorizationState.text (.string state.text) = some state :=
  find?_text (by intro s t; cases s <;> cases t <;> decide) (by cases state <;> decide)

theorem stateNamed_grant (state : GrantStoredState) :
    stateNamed GrantStoredState.all GrantStoredState.text (.string state.text) = some state :=
  find?_text (by intro s t; cases s <;> cases t <;> decide) (by cases state <;> decide)

theorem isEncryptionKeyRecord_toJson {record : EncryptionKeyRecord} (h : record.Written) :
    isEncryptionKeyRecord record.toJson = some record := by
  have hid : record.toJson.field "id" = some (.string record.id) := rfl
  have horganization : record.toJson.field "organizationId" = some (.string record.organizationId) := rfl
  have hstate : record.toJson.field "state" = some (.string record.state.text) := rfl
  simp only [isEncryptionKeyRecord, hid, horganization, hstate, Option.bind_eq_bind, Option.bind_some,
    Json.nonemptyString_string h.id, Json.nonemptyString_string h.organizationId, stateNamed_key]
  rfl

theorem isControllerAuthorizationRecord_toJson {record : ControllerAuthorizationRecord} (h : record.Written) :
    isControllerAuthorizationRecord record.toJson = some record := by
  have hid : record.toJson.field "authorizationId" = some (.string record.authorizationId) := rfl
  have henvelope : record.toJson.field "envelopeId" = some (.string record.envelopeId) := rfl
  have hkey : record.toJson.field "keyId" = some (.string record.keyId) := rfl
  have hstate : record.toJson.field "state" = some (.string record.state.text) := rfl
  simp only [isControllerAuthorizationRecord, hid, henvelope, hkey, hstate, Option.bind_eq_bind, Option.bind_some,
    Json.nonemptyString_string h.authorizationId, Json.nonemptyString_string h.envelopeId,
    Json.nonemptyString_string h.keyId, stateNamed_authorization]
  rfl

theorem isAccessGrantRecord_toJson {record : AccessGrantRecord} (h : record.Written)
    (hwindow : record.effectiveAt < record.expiresAt) : isAccessGrantRecord record.toJson = some record := by
  have hid : record.toJson.field "grantId" = some (.string record.grantId) := rfl
  have henvelope : record.toJson.field "envelopeId" = some (.string record.envelopeId) := rfl
  have hkey : record.toJson.field "recipientKeyId" = some (.string record.recipientKeyId) := rfl
  have heffective : record.toJson.field "effectiveAt" = some (.number record.effectiveAt) := rfl
  have hexpires : record.toJson.field "expiresAt" = some (.number record.expiresAt) := rfl
  have hstate : record.toJson.field "state" = some (.string record.state.text) := rfl
  simp only [isAccessGrantRecord, hid, henvelope, hkey, heffective, hexpires, hstate, Option.bind_eq_bind,
    Option.bind_some, Json.nonemptyString_string h.grantId, Json.nonemptyString_string h.envelopeId,
    Json.nonemptyString_string h.recipientKeyId, Json.safeInteger_number h.effectiveAt,
    Json.safeInteger_number h.expiresAt, guard, if_pos hwindow, stateNamed_grant]
  rfl

/-! ### Filling a registry -/

section

variable {r : KeyLifecycleRegistry}

theorem restoreKeys : ∀ {records : List EncryptionKeyRecord} {r : KeyLifecycleRegistry}, (∀ record ∈ records, record.Written) →
    (records.map (·.id)).Nodup → (∀ record ∈ records, r.keys.get record.id = none) →
    (records.map EncryptionKeyRecord.toJson).foldlM restoreKey r = 
      .ok { r with keys := r.keys.setAll EncryptionKeyRecord.id records }
  | [], r, _, _, _ => rfl
  | record :: records, r, hwritten, hnodup, hnew => by
    rw [List.map_cons, List.nodup_cons] at hnodup
    have hfresh : r.keys.get record.id = none := hnew record List.mem_cons_self
    have hrestore : r.restoreKey record.toJson = .ok { r with keys := r.keys.set record.id record } := by
      rw [restoreKey, isEncryptionKeyRecord_toJson (hwritten record List.mem_cons_self)]
      exact throwIf_bind_of_not (by simpa [JsMap.has] using hfresh)
    have hrest : ∀ other ∈ records, (r.keys.set record.id record).get other.id = none := by
      intro other hother
      have hne : record.id ≠ other.id := fun heq => hnodup.1 (heq ▸ List.mem_map_of_mem hother)
      rw [JsMap.get_set_ne _ _ hne, hnew other (List.mem_cons_of_mem _ hother)]
    rw [List.map_cons, List.foldlM_cons, hrestore]
    exact restoreKeys (fun other hother => hwritten other (List.mem_cons_of_mem _ hother)) hnodup.2 hrest

theorem restoreAuthorizations : ∀ {records : List ControllerAuthorizationRecord} {r : KeyLifecycleRegistry},
    (∀ record ∈ records, AuthorizationWritten r record) → (records.map (·.authorizationId)).Nodup →
    (∀ record ∈ records, r.authorizations.get record.authorizationId = none) →
    (records.map ControllerAuthorizationRecord.toJson).foldlM restoreAuthorization r =
      .ok { r with authorizations := r.authorizations.insertAll ControllerAuthorizationRecord.authorizationId records }
  | [], r, _, _, _ => rfl
  | record :: records, r, hwritten, hnodup, hnew => by
    rw [List.map_cons, List.nodup_cons] at hnodup
    obtain ⟨hrecord, key, hkey⟩ := hwritten record List.mem_cons_self
    have hrestore : r.restoreAuthorization record.toJson =
        .ok { r with authorizations := r.authorizations.insert record.authorizationId record } := by
      rw [restoreAuthorization, isControllerAuthorizationRecord_toJson hrecord]
      refine throwIf_bind_of_not ?_
      rintro (hmissing | hhas)
      · exact hmissing (by simp [JsMap.has, hkey])
      · rw [(r.authorizations.has_eq_false_iff).mpr (hnew record List.mem_cons_self)] at hhas
        cases hhas
    have hrest : ∀ other ∈ records, (r.authorizations.insert record.authorizationId record).get other.authorizationId = none := by
      intro other hother
      have hne : record.authorizationId ≠ other.authorizationId := fun heq => hnodup.1 (heq ▸ List.mem_map_of_mem hother)
      rw [get_insert, if_neg hne, hnew other (List.mem_cons_of_mem _ hother)]
    rw [List.map_cons, List.foldlM_cons, hrestore]
    refine restoreAuthorizations (r := { r with authorizations := r.authorizations.insert record.authorizationId record })
      (fun other hother => ?_) hnodup.2 hrest
    exact hwritten other (List.mem_cons_of_mem _ hother)

theorem restoreGrants : ∀ {records : List AccessGrantRecord} {r : KeyLifecycleRegistry},
    (∀ record ∈ records, GrantWritten r record) → (records.map (·.grantId)).Nodup →
    (∀ record ∈ records, r.grants.get record.grantId = none) →
    (records.map AccessGrantRecord.toJson).foldlM restoreGrant r =
      .ok { r with grants := r.grants.insertAll AccessGrantRecord.grantId records }
  | [], r, _, _, _ => rfl
  | record :: records, r, hwritten, hnodup, hnew => by
    rw [List.map_cons, List.nodup_cons] at hnodup
    obtain ⟨hrecord, hwindow, key, hkey⟩ := hwritten record List.mem_cons_self
    have hrestore : r.restoreGrant record.toJson = .ok { r with grants := r.grants.insert record.grantId record } := by
      rw [restoreGrant, isAccessGrantRecord_toJson hrecord hwindow]
      refine throwIf_bind_of_not ?_
      rintro (hmissing | hhas)
      · exact hmissing (by simp [JsMap.has, hkey])
      · rw [(r.grants.has_eq_false_iff).mpr (hnew record List.mem_cons_self)] at hhas
        cases hhas
    have hrest : ∀ other ∈ records, (r.grants.insert record.grantId record).get other.grantId = none := by
      intro other hother
      have hne : record.grantId ≠ other.grantId := fun heq => hnodup.1 (heq ▸ List.mem_map_of_mem hother)
      rw [get_insert, if_neg hne, hnew other (List.mem_cons_of_mem _ hother)]
    rw [List.map_cons, List.foldlM_cons, hrestore]
    refine restoreGrants (r := { r with grants := r.grants.insert record.grantId record })
      (fun other hother => ?_) hnodup.2 hrest
    exact hwritten other (List.mem_cons_of_mem _ hother)

end

/-! ### The round trip -/

variable {C : Collation}

/-- The registry that holds the records of the snapshot, in their order. -/
def restored (C : Collation) (r : KeyLifecycleRegistry) : KeyLifecycleRegistry where
  authorizations := insertAll ControllerAuthorizationRecord.authorizationId .empty (r.snapshot C).authorizations
  grants := insertAll AccessGrantRecord.grantId .empty (r.snapshot C).grants
  keys := JsMap.setAll EncryptionKeyRecord.id .empty (r.snapshot C).keys

theorem similar_restored {r : KeyLifecycleRegistry} (h : Identified r) :
    ∃ ρa ρg, SimilarRegistry C ρa ρg r (restored C r) := by
  obtain ⟨hget, hties⟩ := JsMap.same_refilled C.le h.keys fun _ _ => Iff.rfl
  exact ⟨_, _, alike_refilled _ h.authorizations fun _ _ => Iff.rfl, alike_refilled _ h.grants fun _ _ => Iff.rfl, hget, hties⟩

/-- The reader takes the snapshot of a registry whose records are in order. -/
theorem fromSnapshot_toJson {c : Lifecycle} (hfiling : Filing c) (hwritten : Written c) :
    fromSnapshot (c.registry.snapshot C).toJson = .ok (restored C c.registry) := by
  obtain ⟨hauthorizations, hgrants, hkeys⟩ := hfiling.identified
  have hkeyNodup : ((c.registry.snapshot C).keys.map (·.id)).Nodup :=
    nodup_sorted C.le (JsMap.map_values hkeys) c.registry.keys.nodup_keys fun _ _ => Iff.rfl
  have hauthorizationNodup : ((c.registry.snapshot C).authorizations.map (·.authorizationId)).Nodup :=
    nodup_sorted C.le (map_values hauthorizations) (nodup_keys _) fun _ _ => Iff.rfl
  have hgrantNodup : ((c.registry.snapshot C).grants.map (·.grantId)).Nodup :=
    nodup_sorted C.le (map_values hgrants) (nodup_keys _) fun _ _ => Iff.rfl
  -- the keys come first, so the records after them find the keys that they name
  have hkept : ∀ id, HasKey c.registry id →
      HasKey { KeyLifecycleRegistry.new with keys := (restored C c.registry).keys } id := by
    rintro id ⟨key, hkey⟩
    refine ⟨key, ?_⟩
    rw [← hkey]
    exact ((JsMap.same_refilled C.le hkeys fun _ _ => Iff.rfl).1 id).symm
  have hkeysWritten : ∀ record ∈ (c.registry.snapshot C).keys, record.Written := by
    intro record hrecord
    obtain ⟨id, hget⟩ := (JsMap.mem_values_iff _ _).mp ((List.mem_insertionSort _).mp hrecord)
    exact hwritten.keys id record hget
  have hauthorizationsWritten : ∀ record ∈ (c.registry.snapshot C).authorizations,
      AuthorizationWritten { KeyLifecycleRegistry.new with keys := (restored C c.registry).keys } record := by
    intro record hrecord
    obtain ⟨id, hget⟩ := (ObjectMap.mem_values_iff _).mp ((List.mem_insertionSort _).mp hrecord)
    obtain ⟨hrecord, hkey⟩ := hwritten.authorizations.get hget
    exact ⟨hrecord, hkept _ hkey⟩
  have hgrantsWritten : ∀ record ∈ (c.registry.snapshot C).grants,
      GrantWritten { restored C c.registry with grants := .empty } record := by
    intro record hrecord
    obtain ⟨id, hget⟩ := (ObjectMap.mem_values_iff _).mp ((List.mem_insertionSort _).mp hrecord)
    obtain ⟨hrecord, hwindow, hkey⟩ := hwritten.grants.get hget
    exact ⟨hrecord, hwindow, hkept _ hkey⟩
  have hkeysField : (c.registry.snapshot C).toJson.field "keys" =
      some (.array ((c.registry.snapshot C).keys.map EncryptionKeyRecord.toJson)) := rfl
  have hauthorizationsField : (c.registry.snapshot C).toJson.field "authorizations" =
      some (.array ((c.registry.snapshot C).authorizations.map ControllerAuthorizationRecord.toJson)) := rfl
  have hgrantsField : (c.registry.snapshot C).toJson.field "grants" =
      some (.array ((c.registry.snapshot C).grants.map AccessGrantRecord.toJson)) := rfl
  simp only [fromSnapshot, hkeysField, hauthorizationsField, hgrantsField]
  have hrestoreKeys := restoreKeys (r := .new) hkeysWritten hkeyNodup fun _ _ => rfl
  have hrestoreAuthorizations := restoreAuthorizations hauthorizationsWritten hauthorizationNodup fun _ _ => rfl
  have hrestoreGrants := restoreGrants hgrantsWritten hgrantNodup fun _ _ => rfl
  exact bind_eq_ok.mpr ⟨_, hrestoreKeys, bind_eq_ok.mpr ⟨_, hrestoreAuthorizations, hrestoreGrants⟩⟩

/-- **A snapshot restores its registry.** After any operations whose ids are not
empty and whose times are safe integers, when no call waits any more, the
snapshot is read back, the restored registry has the same snapshot, and every
sequence of operations is told the same of both. -/
theorem snapshot_round_trip (C : Collation) (events : List Event) (hwellFormed : ∀ event ∈ events, event.WellFormed)
    (hcompleted : (run Lifecycle.step .new events).suspended = []) :
    ∃ registry, fromSnapshot ((run Lifecycle.step .new events).registry.snapshot C).toJson = .ok registry ∧
      registry.snapshot C = (run Lifecycle.step .new events).registry.snapshot C ∧
      ∀ operations, Lifecycle.answers C ⟨registry, []⟩ operations =
        Lifecycle.answers C (run Lifecycle.step .new events) operations := by
  have hfiling : Filing (run Lifecycle.step .new events) :=
    run_invariant (fun c event hc => (step_effect event).filing hc) events filing_new
  have hwritten : Written (run Lifecycle.step .new events) :=
    run_guarded (C := fun _ event => event.WellFormed) (fun c event hevent hc => (step_effect event).written hevent hc)
      events (guarded_of_mem _ _ fun event hmem _ => hwellFormed event hmem) written_new
  obtain ⟨ρa, ρg, hsimilar⟩ := similar_restored (C := C) hfiling.identified
  refine ⟨_, fromSnapshot_toJson hfiling hwritten, (hsimilar.snapshot_eq hfiling.identified).symm, fun operations => ?_⟩
  have hcalls : List.Forall₂ (SameCall ρa ρg) (run Lifecycle.step .new events).suspended [] := by
    rw [hcompleted]
    exact .nil
  exact (Similar.answers (I := Filing) (fun c event hc => (step_effect event).filing hc) (fun c hc => hc.identified)
    operations hfiling ⟨ρa, ρg, hsimilar, hcalls⟩).symm

/-- The order of the code units, in which only equal texts tie. -/
def codeUnitCollation : Collation where
  localeCompare left right := if utf16 left < utf16 right then -1 else if utf16 right < utf16 left then 1 else 0
  total a b := by
    split_ifs <;> simp_all
  trans a b c hab hbc := by
    have hle : ∀ s t : String, ((if utf16 s < utf16 t then -1 else if utf16 t < utf16 s then 1 else 0 : ℤ) ≤ 0) ↔
        ¬utf16 t < utf16 s := by
      intro s t
      split_ifs with hlt hgt
      · exact iff_of_true (by decide) (List.lt_asymm hlt)
      · exact iff_of_false (by decide) (not_not.mpr hgt)
      · exact iff_of_true le_rfl hgt
    rw [hle] at hab hbc ⊢
    exact fun hlt => hab (List.lt_of_le_of_lt (List.not_lt.mp hbc) hlt)

/-- A grant that was given, rotated to another key and retrieved under. -/
theorem snapshot_round_trip_rotated :
    (∀ event ∈ grantedEvents ++ [.addKey ⟨"q", "partner", .active⟩, .rotateRecipientEnvelope "g" "q" "e2", .resume 0 true],
      event.WellFormed) ∧
    ∃ registry, fromSnapshot ((run Lifecycle.step .new (grantedEvents ++
        [.addKey ⟨"q", "partner", .active⟩, .rotateRecipientEnvelope "g" "q" "e2", .resume 0 true])).registry.snapshot
          codeUnitCollation).toJson = .ok registry ∧
      registry.snapshot codeUnitCollation = (run Lifecycle.step .new (grantedEvents ++
        [.addKey ⟨"q", "partner", .active⟩, .rotateRecipientEnvelope "g" "q" "e2", .resume 0 true])).registry.snapshot
          codeUnitCollation ∧
      ∀ operations, Lifecycle.answers codeUnitCollation ⟨registry, []⟩ operations =
        Lifecycle.answers codeUnitCollation (run Lifecycle.step .new (grantedEvents ++
          [.addKey ⟨"q", "partner", .active⟩, .rotateRecipientEnvelope "g" "q" "e2", .resume 0 true])) operations := by
  have hwellFormed : ∀ event ∈ grantedEvents ++
      [.addKey ⟨"q", "partner", .active⟩, .rotateRecipientEnvelope "g" "q" "e2", .resume 0 true], event.WellFormed := by
    intro event hmem
    simp only [grantedEvents, List.cons_append, List.nil_append, List.mem_cons, List.not_mem_nil, or_false] at hmem
    rcases hmem with rfl | rfl | rfl | rfl | rfl | rfl | rfl | rfl | rfl | rfl
    · exact ⟨by decide, by decide⟩
    · exact ⟨by decide, by decide⟩
    · exact ⟨by decide, by decide, by decide⟩
    · trivial
    · exact ⟨by decide, by decide, by decide, by decide, by decide⟩
    · trivial
    · trivial
    · exact ⟨by decide, by decide⟩
    · exact ⟨by decide, by decide⟩
    · trivial
  exact ⟨hwellFormed, snapshot_round_trip codeUnitCollation _ hwellFormed (by decide +kernel)⟩

end Keys
end Evllm
