/-
# When a revoked grant stays revoked

`revokeGrant` marks the stored grant object. Two continuations can undo it:
`activateGrant` writes `active` into the object it has held since before the
revocation, and `rotateRecipientEnvelope` stores a copy of an object that the
revocation, of a later copy, did not reach. `ResumeSafe` excludes exactly
these two steps: a step keeps every revoked grant revoked if and only if it
is safe (`revoked_step_iff`), and so a run of safe steps does
(`revoked_grant_stays_revoked`). Without the condition the claim fails on a
short run (`revocation_undone_by_activation`).

Key definitions: `grantState`, `ResumeSafe`.
-/
import Evllm.Keys.Lifecycle

namespace Evllm
namespace Keys

open Lib KeyLifecycleRegistry

/-- The state of the grant stored under `grantId`. -/
def KeyLifecycleRegistry.grantState (r : KeyLifecycleRegistry) (grantId : String) :
    Option GrantStoredState :=
  (r.grants.get grantId).map AccessGrantRecord.state

/-- The grant stored under `grantId` is revoked. -/
def KeyLifecycleRegistry.Revoked (r : KeyLifecycleRegistry) (grantId : String) : Prop :=
  r.grantState grantId = some .revoked

instance (r : KeyLifecycleRegistry) (grantId : String) : Decidable (r.Revoked grantId) :=
  inferInstanceAs (Decidable (_ = _))

/-- An activation is safe to resume unless its grant object is stored and
revoked, an envelope rotation unless its grant object is not revoked while
the stored grant is. -/
def Suspended.Safe (r : KeyLifecycleRegistry) : Suspended → Prop
  | .activateGrant grant =>
    r.grants.stored grant = true → ∀ record ∈ r.grants.deref grant, record.state ≠ .revoked
  | .rotateRecipientEnvelope grantId grant _ _ =>
    r.Revoked grantId → ∀ record ∈ r.grants.deref grant, record.state = .revoked
  | .rotateControllerAuthorization _ _ => True

instance (r : KeyLifecycleRegistry) : ∀ call : Suspended, Decidable (call.Safe r)
  | .activateGrant grant => inferInstanceAs (Decidable (_ → ∀ record ∈ r.grants.deref grant, _))
  | .rotateRecipientEnvelope _ grant _ _ => inferInstanceAs (Decidable (_ → ∀ record ∈ r.grants.deref grant, _))
  | .rotateControllerAuthorization _ _ => isTrue trivial

/-- The call whose verified continuation the event runs. -/
def Lifecycle.resumed (c : Lifecycle) : Event → Option Suspended
  | .resume index true => c.suspended[index]?
  | _ => none

/-- The step resumes no call that is not safe to resume. -/
def ResumeSafe (c : Lifecycle) (e : Event) : Prop := ∀ call ∈ c.resumed e, call.Safe c.registry

instance (c : Lifecycle) (e : Event) : Decidable (ResumeSafe c e) :=
  inferInstanceAs (Decidable (∀ call ∈ c.resumed e, call.Safe c.registry))

/-! ### What a step does to the grants -/

theorem write_grants {c : Lifecycle} {x : Except KeyLifecycleError KeyLifecycleRegistry}
    (h : ∀ r', x = .ok r' → r'.grants = c.registry.grants) :
    (c.write x).registry.grants = c.registry.grants := by
  cases x with
  | error e => rfl
  | ok r' => exact h r' rfl

/-- A step leaves the grants as they are, prepares a new one, revokes a stored
one, or is a verified continuation of an activation or an envelope rotation. -/
theorem step_grants (c : Lifecycle) (e : Event) :
    (c.step e).registry.grants = c.registry.grants ∨
    (∃ record, c.registry.grants.get record.grantId = none ∧
      (c.step e).registry.grants = c.registry.grants.insert record.grantId record) ∨
    (∃ ref, (c.step e).registry.grants = c.registry.grants.mutate ref (fun g => { g with state := .revoked })) ∨
    (∃ index grant, e = .resume index true ∧ c.suspended[index]? = some (.activateGrant grant) ∧
      (c.step e).registry.grants = c.registry.grants.mutate grant (fun g => { g with state := .active })) ∨
    (∃ index id grant keyId envelopeId record, e = .resume index true ∧
      c.suspended[index]? = some (.rotateRecipientEnvelope id grant keyId envelopeId) ∧
      c.registry.grants.deref grant = some record ∧
      (c.step e).registry.grants =
        c.registry.grants.insert id { record with envelopeId := envelopeId, recipientKeyId := keyId }) := by
  have suspend_grants : ∀ x, (c.suspend x).registry.grants = c.registry.grants := by
    intro x
    cases x <;> rfl
  cases e with
  | addKey record => exact .inl (write_grants fun _ h => (addKey_ok h).grants)
  | activateKey keyId => exact .inl (write_grants fun _ h => (activateKey_ok h).grants)
  | recordKeyFailure keyId failure => exact .inl (write_grants fun _ h => (recordKeyFailure_ok h).grants)
  | retireKey keyId => exact .inl (write_grants fun _ h => (retireKey_ok h).grants)
  | stageControllerAuthorization record =>
    refine .inl (write_grants fun r' h => ?_)
    obtain ⟨-, rfl⟩ := stageControllerAuthorization_ok h
    rfl
  | activateControllerAuthorization id =>
    refine .inl (write_grants fun r' h => ?_)
    obtain ⟨_, _, -, -, -, rfl⟩ := activateControllerAuthorization_ok h
    rfl
  | rotateControllerAuthorization id successor => exact .inl (suspend_grants _)
  | prepareGrant record =>
    cases h : c.registry.prepareGrant record with
    | error err => exact .inl (by simp [Lifecycle.step, Lifecycle.write, h])
    | ok r' =>
      obtain ⟨hnew, rfl⟩ := prepareGrant_ok h
      exact .inr (.inl ⟨record, hnew, by simp [Lifecycle.step, Lifecycle.write, h]⟩)
  | activateGrant id currentTime => exact .inl (suspend_grants _)
  | revokeGrant id =>
    cases h : c.registry.revokeGrant id with
    | error err => exact .inl (by simp [Lifecycle.step, Lifecycle.write, h])
    | ok r' =>
      obtain ⟨ref, _, -, -, rfl⟩ := revokeGrant_ok h
      exact .inr (.inr (.inl ⟨ref, by simp [Lifecycle.step, Lifecycle.write, h]⟩))
  | authorizeRetrieval id currentTime => exact .inl rfl
  | rotateRecipientEnvelope id keyId envelopeId => exact .inl (suspend_grants _)
  | resume index verified =>
    cases hcall : c.suspended[index]? with
    | none => exact .inl (by simp [Lifecycle.step, hcall])
    | some call =>
      cases h : c.registry.resume verified call with
      | error err => exact .inl (by simp [Lifecycle.step, Lifecycle.write, hcall, h])
      | ok r' =>
        have hstep : (c.step (.resume index verified)).registry = r' := by
          simp [Lifecycle.step, Lifecycle.write, hcall, h]
        rw [hstep]
        obtain ⟨rfl, ⟨_, _, rfl, -, hg, -⟩ | ⟨grant, rfl, hg, -⟩ |
          ⟨id, grant, keyId, envelopeId, record, rfl, hd, hg, -⟩⟩ := resume_ok h
        · exact .inl hg
        · exact .inr (.inr (.inr (.inl ⟨index, grant, rfl, hcall, hg⟩)))
        · exact .inr (.inr (.inr (.inr ⟨index, id, grant, keyId, envelopeId, record, rfl, hcall, hd, hg⟩)))

/-! ### Revocation along a run -/

theorem revoked_congr {r r' : KeyLifecycleRegistry} {grantId : String}
    (h : r'.grants.get grantId = r.grants.get grantId) : r'.Revoked grantId ↔ r.Revoked grantId := by
  simp only [Revoked, grantState, h]

theorem revoked_insert {r r' : KeyLifecycleRegistry} {id grantId : String} {record : AccessGrantRecord}
    (hg : r'.grants = r.grants.insert id record) :
    r'.Revoked grantId ↔ if id = grantId then record.state = .revoked else r.Revoked grantId := by
  simp only [Revoked, grantState, hg, ObjectMap.get_insert]
  split_ifs <;> simp

theorem revoked_mutate {r r' : KeyLifecycleRegistry} {ref : Ref} {state : GrantStoredState} {grantId : String}
    (hg : r'.grants = r.grants.mutate ref (fun g => { g with state })) :
    r'.Revoked grantId ↔
      if r.grants.ref grantId = some ref then state = .revoked else r.Revoked grantId := by
  simp only [Revoked, grantState, hg, ObjectMap.get_mutate]
  split_ifs with href
  · obtain ⟨a, ha⟩ := r.grants.deref_of_ref href
    simp [r.grants.get_eq_deref href, ha]
  · rfl

/-- **A step keeps every revoked grant revoked if and only if it is safe.** -/
theorem revoked_step_iff (c : Lifecycle) (e : Event) :
    (∀ grantId, c.registry.Revoked grantId → (c.step e).registry.Revoked grantId) ↔ ResumeSafe c e := by
  constructor
  · -- an unsafe continuation writes over a revoked grant
    intro hkeep call hresumed
    obtain ⟨index, rfl, hcall⟩ : ∃ index, e = .resume index true ∧ c.suspended[index]? = some call := by
      unfold Lifecycle.resumed at hresumed
      split at hresumed
      · exact ⟨_, rfl, hresumed⟩
      · cases hresumed
    cases call with
    | rotateControllerAuthorization _ _ => trivial
    | activateGrant grant =>
      intro hstored record hd hst
      obtain ⟨id, href⟩ := c.registry.grants.stored_iff.mp hstored
      have hrev : c.registry.Revoked id := by
        simp only [Revoked, grantState, c.registry.grants.get_eq_deref href, Option.mem_def.mp hd,
          Option.map_some, hst]
      have hg : (c.step (.resume index true)).registry.grants =
          c.registry.grants.mutate grant (fun g => { g with state := .active }) := by
        simp only [Lifecycle.step, hcall]
        rfl
      have := (revoked_mutate hg).mp (hkeep id hrev)
      rw [if_pos href] at this
      cases this
    | rotateRecipientEnvelope id grant keyId envelopeId =>
      intro hrev record hd
      have hg : (c.step (.resume index true)).registry.grants = c.registry.grants.insert id
          { record with envelopeId := envelopeId, recipientKeyId := keyId } := by
        simp only [Lifecycle.step, hcall, resume, Option.mem_def.mp hd]
        rfl
      have := (revoked_insert hg).mp (hkeep id hrev)
      rwa [if_pos rfl] at this
  · intro hsafe grantId hrev
    rcases step_grants c e with hg | ⟨record, hnew, hg⟩ | ⟨ref, hg⟩ |
      ⟨index, grant, rfl, hcall, hg⟩ | ⟨index, id, grant, keyId, envelopeId, record, rfl, hcall, hd, hg⟩
    · exact (revoked_congr (by rw [hg])).mpr hrev
    · rw [revoked_insert hg]
      split_ifs with hid
      · subst hid
        simp [Revoked, grantState, hnew] at hrev
      · exact hrev
    · rw [revoked_mutate hg]
      split_ifs
      · rfl
      · exact hrev
    · have hsafe' := hsafe _ hcall
      rw [revoked_mutate hg]
      split_ifs with href
      · obtain ⟨record, hget, hst⟩ := Option.map_eq_some_iff.mp hrev
        rw [c.registry.grants.get_eq_deref href] at hget
        exact absurd hst (hsafe' (c.registry.grants.stored_iff.mpr ⟨grantId, href⟩) record hget)
      · exact hrev
    · have hsafe' := hsafe _ hcall
      rw [revoked_insert hg]
      split_ifs with hid
      · subst hid
        exact hsafe' hrev record hd
      · exact hrev

/-- A revoked grant can not be used. -/
theorem authorizeRetrieval_of_revoked {r : KeyLifecycleRegistry} {grantId : String}
    (h : r.Revoked grantId) (currentTime : ℤ) :
    r.authorizeRetrieval grantId currentTime = .error .policyDenied := by
  obtain ⟨record, hget, hst⟩ := Option.map_eq_some_iff.mp h
  obtain ⟨ref, href, hderef⟩ := r.grants.get_eq_some_iff.mp hget
  have hgrant : r.grant grantId = .ok (ref, record) := grant_eq_ok.mpr ⟨href, hderef⟩
  have heff : r.effectiveGrantState grantId currentTime = .ok (.stored .revoked) := by
    simp [effectiveGrantState, hgrant, hst, bind, Except.bind, pure, Except.pure]
  simp [authorizeRetrieval, hgrant, heff, bind, Except.bind, throwIf]

theorem revokeGrant_revokes {c : Lifecycle} {grantId : String}
    (h : (c.registry.revokeGrant grantId).isOk = true) :
    (c.step (.revokeGrant grantId)).registry.Revoked grantId := by
  cases hr : c.registry.revokeGrant grantId with
  | error e => rw [hr] at h; cases h
  | ok r' =>
    have hstep : (c.step (.revokeGrant grantId)).registry = r' := by
      simp [Lifecycle.step, Lifecycle.write, hr]
    obtain ⟨ref, _, href, -, rfl⟩ := revokeGrant_ok hr
    rw [hstep, revoked_mutate rfl, if_pos href]

/-- **In a run of safe steps revocation is irreversible.** From any registry
with no call under way, once `revokeGrant` has returned, the grant is revoked
after every further event, and no retrieval under it is authorized at any
time. -/
theorem revoked_grant_stays_revoked (registry : KeyLifecycleRegistry) (before after : List Event)
    (grantId : String)
    (hsafe : Guarded Lifecycle.step ResumeSafe ⟨registry, []⟩ (before ++ .revokeGrant grantId :: after))
    (hreturn : ((run Lifecycle.step ⟨registry, []⟩ before).registry.revokeGrant grantId).isOk = true) :
    (run Lifecycle.step ⟨registry, []⟩ (before ++ .revokeGrant grantId :: after)).registry.Revoked grantId ∧
      ∀ currentTime,
        (run Lifecycle.step ⟨registry, []⟩ (before ++ .revokeGrant grantId :: after)).registry.authorizeRetrieval
          grantId currentTime = .error .policyDenied := by
  have hrev : (run Lifecycle.step ⟨registry, []⟩
      (before ++ .revokeGrant grantId :: after)).registry.Revoked grantId := by
    rw [run_append, run_cons]
    have hafter := ((guarded_append before _ _).mp hsafe).2.2
    exact run_guarded (I := fun c : Lifecycle => c.registry.Revoked grantId)
      (fun c e hC h => (revoked_step_iff c e).mpr hC grantId h) after hafter (revokeGrant_revokes hreturn)
  exact ⟨hrev, authorizeRetrieval_of_revoked hrev⟩

/-- A registry with an active key `"k"`, an active controller authorization
and a prepared grant `"g"`. -/
def preparedGrantEvents : List Event :=
  [.addKey ⟨"k", "org", .pending⟩, .activateKey "k", .stageControllerAuthorization ⟨"a", "e", "k", .staged⟩,
    .activateControllerAuthorization "a", .prepareGrant ⟨0, "e1", 10, "g", "k", .prepared⟩]

/-- The grant `"g"` is active and its envelope is being rotated. -/
def rotatingGrantEvents : List Event :=
  preparedGrantEvents ++ [.activateGrant "g" 1, .resume 0 true, .rotateRecipientEnvelope "g" "k" "e2"]

/-- A grant that is revoked while its envelope is being rotated stays revoked. -/
theorem revoked_grant_stays_revoked_in_rotation :
    (run Lifecycle.step ⟨.new, []⟩
      (rotatingGrantEvents ++ .revokeGrant "g" :: [.resume 0 true])).registry.Revoked "g" := by
  have h := revoked_grant_stays_revoked .new rotatingGrantEvents [.resume 0 true] "g"
    (by decide +kernel) (by decide +kernel)
  exact h.1

/-- The revocation of a grant whose activation is under way is undone when the
callback answers: the grant is active again and retrieval is authorized. -/
theorem revocation_undone_by_activation :
    ¬∀ (before after : List Event) (grantId : String),
      ((run Lifecycle.step Lifecycle.new before).registry.revokeGrant grantId).isOk = true →
      (run Lifecycle.step Lifecycle.new (before ++ .revokeGrant grantId :: after)).registry.Revoked grantId := by
  intro h
  have hrun : ((run Lifecycle.step Lifecycle.new
      (preparedGrantEvents ++ [.activateGrant "g" 1])).registry.revokeGrant "g").isOk = true := by
    decide +kernel
  have hactive : ¬(run Lifecycle.step Lifecycle.new ((preparedGrantEvents ++ [.activateGrant "g" 1]) ++
      .revokeGrant "g" :: [.resume 0 true])).registry.Revoked "g" := by
    decide +kernel
  exact hactive (h _ _ _ hrun)

end Keys
end Evllm
