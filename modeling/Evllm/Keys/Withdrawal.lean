/-
# Which keys can be withdrawn

A key that was revoked, lost or compromised is used no more, whatever happens
afterwards (`failed_run`). `recordKeyFailure` refuses a key in a terminal state,
and a retired key is terminal and usable: it cannot be withdrawn
(`usable_key_withdrawn_iff`).

Key definitions: `Rekeyed`, `Failed`, `Withdraws`.
-/
import Evllm.Keys.Lifecycle

namespace Evllm
namespace Keys

open Lib KeyLifecycleRegistry

/-! ### What a step does to the keys -/

/-- The keys stay as they are, a new one is added, or one that is not in a
terminal state changes its state. -/
inductive Rekeyed (keys : JsMap String EncryptionKeyRecord) : JsMap String EncryptionKeyRecord → Prop where
  | same : Rekeyed keys keys
  | added (record : EncryptionKeyRecord) (fresh : keys.get record.id = none) : Rekeyed keys (keys.set record.id record)
  | moved (keyId : String) (key : EncryptionKeyRecord) (state : EncryptionKeyState) (held : keys.get keyId = some key)
      (notTerminal : isTerminalKeyState key.state = false) : Rekeyed keys (keys.set keyId { key with state })

section

variable {r r' : KeyLifecycleRegistry} {keyId : String}

theorem addKey_keys {record : EncryptionKeyRecord} (h : r.addKey record = .ok r') : Rekeyed r.keys r'.keys := by
  simp only [addKey, bind_eq_ok, throwIf_eq_ok, pure_eq_ok] at h
  obtain ⟨_, hfresh, rfl⟩ := h
  exact .added record ((JsMap.has_eq_false_iff _ _).mp (by simpa using hfresh))

theorem activateKey_keys (h : r.activateKey keyId = .ok r') : Rekeyed r.keys r'.keys := by
  simp only [activateKey, bind_eq_ok, throwIf_eq_ok, pure_eq_ok, ne_eq, not_not, key_eq_ok] at h
  obtain ⟨key, hkey, -, hpending, rfl⟩ := h
  exact .moved keyId key .active hkey (by rw [hpending]; rfl)

/-- A failure is recorded of any key that is not in a terminal state. -/
theorem recordKeyFailure_eq_ok {failure : KeyFailure} : r.recordKeyFailure keyId failure = .ok r' ↔
    ∃ key, r.keys.get keyId = some key ∧ isTerminalKeyState key.state = false ∧
      r' = r.setKeyState keyId key failure.state := by
  simp only [recordKeyFailure, bind_eq_ok, throwIf_eq_ok, pure_eq_ok, key_eq_ok, Bool.not_eq_true]
  constructor
  · rintro ⟨key, hkey, -, hopen, rfl⟩
    exact ⟨key, hkey, hopen, rfl⟩
  · rintro ⟨key, hkey, hopen, rfl⟩
    exact ⟨key, hkey, ⟨⟩, hopen, rfl⟩

theorem recordKeyFailure_keys {failure : KeyFailure} (h : r.recordKeyFailure keyId failure = .ok r') :
    Rekeyed r.keys r'.keys := by
  obtain ⟨key, hkey, hopen, rfl⟩ := recordKeyFailure_eq_ok.mp h
  exact .moved keyId key failure.state hkey hopen

theorem retireKey_keys (h : r.retireKey keyId = .ok r') : Rekeyed r.keys r'.keys := by
  simp only [retireKey, bind_eq_ok, throwIf_eq_ok, ne_eq, not_not, key_eq_ok] at h
  obtain ⟨key, hkey, -, hactive, h⟩ := h
  have hopen : isTerminalKeyState key.state = false := by
    rw [hactive]
    rfl
  split at h
  · simp only [bind_eq_ok, pure_eq_ok] at h
    obtain ⟨_, _, _, _, rfl⟩ := h
    exact .moved keyId key .retired hkey hopen
  · cases h
    exact .moved keyId key .retired hkey hopen

theorem resume_keys {call : Suspended} {verified : Bool} (h : r.resume verified call = .ok r') : r'.keys = r.keys := by
  obtain ⟨-, ⟨_, _, -, -, -, hkeys⟩ | ⟨_, -, -, -, hkeys⟩ | ⟨_, _, _, _, _, -, -, -, -, hkeys⟩⟩ := resume_ok h
  · exact hkeys
  · exact hkeys
  · exact hkeys

end

theorem rekeyed_write {c : Lifecycle} {x : Except KeyLifecycleError KeyLifecycleRegistry}
    (h : ∀ r', x = .ok r' → Rekeyed c.registry.keys r'.keys) : Rekeyed c.registry.keys (c.write x).registry.keys := by
  cases x with
  | error e => exact .same
  | ok r' => exact h r' rfl

theorem step_keys (c : Lifecycle) (event : Event) : Rekeyed c.registry.keys (c.step event).registry.keys := by
  have suspended : ∀ x, Rekeyed c.registry.keys (c.suspend x).registry.keys := by
    intro x
    cases x <;> exact .same
  cases event with
  | addKey record => exact rekeyed_write fun _ h => addKey_keys h
  | activateKey keyId => exact rekeyed_write fun _ h => activateKey_keys h
  | recordKeyFailure keyId failure => exact rekeyed_write fun _ h => recordKeyFailure_keys h
  | retireKey keyId => exact rekeyed_write fun _ h => retireKey_keys h
  | stageControllerAuthorization record =>
    refine rekeyed_write fun r' h => ?_
    obtain ⟨-, rfl⟩ := stageControllerAuthorization_ok h
    exact .same
  | activateControllerAuthorization id =>
    refine rekeyed_write fun r' h => ?_
    obtain ⟨_, _, -, -, -, rfl⟩ := activateControllerAuthorization_ok h
    exact .same
  | rotateControllerAuthorization id successor => exact suspended _
  | prepareGrant record =>
    refine rekeyed_write fun r' h => ?_
    obtain ⟨-, rfl⟩ := prepareGrant_ok h
    exact .same
  | activateGrant id currentTime => exact suspended _
  | revokeGrant id =>
    refine rekeyed_write fun r' h => ?_
    obtain ⟨_, _, -, -, rfl⟩ := revokeGrant_ok h
    exact .same
  | authorizeRetrieval id currentTime => exact .same
  | rotateRecipientEnvelope id keyId envelopeId => exact suspended _
  | resume index verified =>
    simp only [Lifecycle.step]
    cases c.suspended[index]? with
    | none => exact .same
    | some call =>
      refine rekeyed_write (c := { c with suspended := c.suspended.eraseIdx index }) fun r' h => ?_
      rw [resume_keys h]
      exact .same

/-! ### Failed keys -/

def EncryptionKeyState.failed : EncryptionKeyState → Bool
  | .revoked | .lost | .compromised => true
  | .pending | .active | .retired => false

theorem isTerminal_of_failed {state : EncryptionKeyState} (h : state.failed) : isTerminalKeyState state = true := by
  cases state <;> first | rfl | cases h

/-- The key is revoked, lost or compromised. -/
def KeyLifecycleRegistry.Failed (r : KeyLifecycleRegistry) (keyId : String) : Prop :=
  ∃ key, r.keys.get keyId = some key ∧ key.state.failed

theorem Rekeyed.failed {r r' : KeyLifecycleRegistry} (h : Rekeyed r.keys r'.keys) {keyId : String} (hfailed : r.Failed keyId) :
    r'.Failed keyId := by
  obtain ⟨key, hkey, hstate⟩ := hfailed
  generalize hafter : r'.keys = keys' at h
  refine ⟨key, ?_, hstate⟩
  rw [hafter]
  cases h with
  | same => exact hkey
  | added record fresh =>
    have hne : record.id ≠ keyId := by
      rintro rfl
      rw [fresh] at hkey
      cases hkey
    rwa [JsMap.get_set_ne _ _ hne]
  | moved id old state held notTerminal =>
    have hne : id ≠ keyId := by
      rintro rfl
      rw [hkey] at held
      cases held
      rw [isTerminal_of_failed hstate] at notTerminal
      cases notTerminal
    rwa [JsMap.get_set_ne _ _ hne]

/-- A failed key stays failed. -/
theorem failed_run {c : Lifecycle} {keyId : String} (h : c.registry.Failed keyId) (events : List Event) :
    (run Lifecycle.step c events).registry.Failed keyId :=
  run_invariant (I := fun c : Lifecycle => c.registry.Failed keyId) (fun c event hc => (step_keys c event).failed hc)
    events h

/-- Nothing uses the key: no retrieval is authorized under a grant to it, and no
authorization that it holds is rotated. -/
structure Withdrawn (r : KeyLifecycleRegistry) (keyId : String) : Prop where
  retrieval : ∀ grantId grant currentTime, r.grants.get grantId = some grant → grant.recipientKeyId = keyId →
    ∃ e, r.authorizeRetrieval grantId currentTime = .error e
  rotation : ∀ predecessorId predecessor successor, r.authorizations.get predecessorId = some predecessor →
    predecessor.keyId = keyId → ∃ e, r.rotateControllerAuthorization predecessorId successor = .error e

theorem exists_error {ε α : Type} {x : Except ε α} (h : ∀ a, x ≠ .ok a) : ∃ e, x = .error e := by
  cases x with
  | error e => exact ⟨e, rfl⟩
  | ok a => exact absurd rfl (h a)

theorem rotateControllerAuthorization_usable {r : KeyLifecycleRegistry} {predecessorId : String}
    {predecessor successor : ControllerAuthorizationRecord} {call : Suspended}
    (hpredecessor : r.authorizations.get predecessorId = some predecessor)
    (h : r.rotateControllerAuthorization predecessorId successor = .ok call) : r.UsableKey predecessor.keyId := by
  simp only [rotateControllerAuthorization, bind_eq_ok, Prod.exists, authorization_eq_ok] at h
  obtain ⟨ref, held, ⟨href, hheld⟩, -, -, ⟨⟩, husable, -⟩ := h
  rw [r.authorizations.get_eq_deref href, hheld] at hpredecessor
  cases hpredecessor
  exact requireUsableKey_eq_ok.mp husable

theorem withdrawn_of_failed {r : KeyLifecycleRegistry} {keyId : String} (h : r.Failed keyId) : Withdrawn r keyId := by
  obtain ⟨key, hkey, hfailed⟩ := h
  have hunusable : ¬r.UsableKey keyId := by
    rintro ⟨key', hkey', hstate⟩
    rw [hkey] at hkey'
    cases hkey'
    obtain hactive | hretired := hstate
    · rw [hactive] at hfailed
      cases hfailed
    · rw [hretired] at hfailed
      cases hfailed
  refine ⟨fun grantId grant currentTime hgrant hrecipient => ?_, fun id predecessor successor hpredecessor hheld => ?_⟩
  · refine exists_error fun _ hok => hunusable ?_
    obtain ⟨grant', hgrant', -, -, -, husable⟩ := authorizeRetrieval_eq_ok.mp hok
    rw [hgrant] at hgrant'
    cases hgrant'
    rwa [hrecipient] at husable
  · refine exists_error fun call hok => hunusable ?_
    rw [← hheld]
    exact rotateControllerAuthorization_usable hpredecessor hok

/-! ### Withdrawing a key -/

/-- `recordKeyFailure` succeeds, and nothing uses the key afterwards. -/
structure Withdraws (c : Lifecycle) (keyId : String) (failure : KeyFailure) : Prop where
  succeeds : ∃ r', c.registry.recordKeyFailure keyId failure = .ok r'
  withdrawn : ∀ events, Withdrawn (run Lifecycle.step (c.step (.recordKeyFailure keyId failure)) events).registry keyId

theorem withdraws_iff {c : Lifecycle} {keyId : String} (failure : KeyFailure) :
    Withdraws c keyId failure ↔ ∃ key, c.registry.keys.get keyId = some key ∧ isTerminalKeyState key.state = false := by
  constructor
  · rintro ⟨⟨r', hok⟩, -⟩
    obtain ⟨key, hkey, hopen, -⟩ := recordKeyFailure_eq_ok.mp hok
    exact ⟨key, hkey, hopen⟩
  · rintro ⟨key, hkey, hopen⟩
    have hok : c.registry.recordKeyFailure keyId failure = .ok (c.registry.setKeyState keyId key failure.state) :=
      recordKeyFailure_eq_ok.mpr ⟨key, hkey, hopen, rfl⟩
    refine ⟨⟨_, hok⟩, fun events => withdrawn_of_failed (failed_run ?_ events)⟩
    rw [Lifecycle.step, hok]
    exact ⟨_, JsMap.get_set_self _ _ _, by cases failure <;> rfl⟩

theorem requireActiveKey_eq_ok {r : KeyLifecycleRegistry} {keyId : String} :
    r.requireActiveKey keyId = .ok () ↔ ∃ key, r.keys.get keyId = some key ∧ key.state = .active := by
  simp only [requireActiveKey, bind_eq_ok, throwIf_eq_ok, key_eq_ok, ne_eq, not_not]

/-- **A usable key can be withdrawn just if it is active.** In every state that a
registry reaches, a key that retrieval and rotation accept as usable is
withdrawn by each failure just if it is not retired. -/
theorem usable_key_withdrawn_iff (registry : KeyLifecycleRegistry) (events : List Event) {keyId : String}
    (husable : (run Lifecycle.step ⟨registry, []⟩ events).registry.requireUsableKey keyId = .ok ()) :
    (∀ failure, Withdraws (run Lifecycle.step ⟨registry, []⟩ events) keyId failure) ↔
      (run Lifecycle.step ⟨registry, []⟩ events).registry.requireActiveKey keyId = .ok () := by
  obtain ⟨key, hkey, hstate⟩ := requireUsableKey_eq_ok.mp husable
  rw [requireActiveKey_eq_ok]
  constructor
  · intro h
    obtain ⟨key', hkey', hopen⟩ := (withdraws_iff .compromised).mp (h .compromised)
    rw [hkey] at hkey'
    cases hkey'
    obtain hactive | hretired := hstate
    · exact ⟨key, hkey, hactive⟩
    · rw [hretired] at hopen
      cases hopen
  · rintro ⟨key', hkey', hactive⟩ failure
    refine (withdraws_iff failure).mpr ⟨key', hkey', ?_⟩
    rw [hactive]
    rfl

/-- An active grant to the key `"p"` that a controller `"k"` has given. -/
def grantedEvents : List Event :=
  [.addKey ⟨"k", "org", .active⟩, .addKey ⟨"p", "partner", .active⟩, .stageControllerAuthorization ⟨"a", "e", "k", .staged⟩,
    .activateControllerAuthorization "a", .prepareGrant ⟨0, "e1", 10, "g", "p", .prepared⟩, .activateGrant "g" 1,
    .resume 0 true]

theorem granted_key_withdrawn :
    Withdraws (run Lifecycle.step ⟨.new, []⟩ grantedEvents) "p" .compromised :=
  (usable_key_withdrawn_iff .new grantedEvents (by decide +kernel)).mpr (by decide +kernel) .compromised

/-- A retired key that is compromised: its failure is refused, and retrievals
under its grant go on. -/
theorem retired_key_not_withdrawn :
    (run Lifecycle.step ⟨.new, []⟩ (grantedEvents ++ [.retireKey "p"])).registry.requireUsableKey "p" = .ok () ∧
    ¬Withdraws (run Lifecycle.step ⟨.new, []⟩ (grantedEvents ++ [.retireKey "p"])) "p" .compromised ∧
    (run Lifecycle.step ⟨.new, []⟩ (grantedEvents ++ [.retireKey "p", .recordKeyFailure "p" .compromised])
      ).registry.authorizeRetrieval "g" 5 = .ok () := by
  refine ⟨by decide +kernel, ?_, by decide +kernel⟩
  intro h
  obtain ⟨key, hkey, hopen⟩ := (withdraws_iff _).mp h
  have hretired : (run Lifecycle.step ⟨.new, []⟩ (grantedEvents ++ [.retireKey "p"])).registry.keys.get "p" =
      some ⟨"p", "partner", .retired⟩ := by decide +kernel
  rw [hretired] at hkey
  cases hkey
  cases hopen

end Keys
end Evllm
