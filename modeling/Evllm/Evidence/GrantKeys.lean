/-
# The keys behind a grant

A retrieval is authorized by the key registry and opens an envelope of the
service's own map. The two agree on every grant that the service has made
(`Current`), and only `rotateRecipientEnvelope`, which the registry exposes and
the service does not hear of, takes them apart: where no rotation takes a grant
away from its envelope, each retrieval uses the envelope and the key that the
registry has of its grant (`retrieval_is_current`).

A grant is prepared if some controller of the registry is usable, whichever
bundle it controls. Where no grant is prepared on the strength of another's
controller, the controller of the bundle was live when its grant was prepared
(`granted_by_live_controller`).

Key definitions: `Current`, `RotatesAway`, `OwnController`.
Key theorems: `current_rule`, `retrieval_is_current`, `prepares_of_step`,
`granted_by_live_controller`.
-/
import Evllm.Evidence.Grants
import Evllm.Keys.Revocation

namespace Evllm
namespace Evidence

open Lib Contracts

/-! ### The envelope and the key of a grant -/

/-- The envelopes of the service are those that the registry has of its grants,
each under the id and for the key of its grant. -/
def Current (service : BundleService) : Prop :=
  ∀ envelopeId recipient, service.recipientEnvelopes.get envelopeId = some recipient →
    ∃ grant, service.keyLifecycle.registry.grants.get recipient.grantId = some grant ∧
      grant.envelopeId = envelopeId ∧ grant.recipientKeyId = recipient.recipientKeyId

/-- The step completes a rotation of a grant whose envelope in the service is
another, or for another key, than the rotation's. -/
def RotatesAway (S : System) : Event → Prop
  | .keyLifecycle i event => ∃ grantId grant keyId envelopeId,
    (S.services i).keyLifecycle.resumed event = some (.rotateRecipientEnvelope grantId grant keyId envelopeId) ∧
      ∃ stored recipient, (S.services i).recipientEnvelopes.get stored = some recipient ∧ recipient.grantId = grantId ∧
        ¬(stored = envelopeId ∧ recipient.recipientKeyId = keyId)
  | _ => False

/-- Every grant is still there with its envelope and its key. -/
def KeepsGrants (m m' : ObjectMap String Keys.AccessGrantRecord) : Prop :=
  ∀ id grant, m.get id = some grant → ∃ grant', m'.get id = some grant' ∧ grant'.envelopeId = grant.envelopeId ∧
    grant'.recipientKeyId = grant.recipientKeyId

section

variable {F : Externals} {configs : ℕ → Config} {config : Config} {service service' : BundleService} {S : System}
variable {m m' : ObjectMap String Keys.AccessGrantRecord}

theorem KeepsGrants.of_eq (h : m' = m) : KeepsGrants m m' := by
  intro id grant hgrant
  exact ⟨grant, by rw [h, hgrant], rfl, rfl⟩

theorem KeepsGrants.mutate (ref : Ref) (state : Keys.GrantStoredState) :
    KeepsGrants m (m.mutate ref fun g => { g with state }) := by
  intro id grant hgrant
  rw [ObjectMap.get_mutate, hgrant]
  by_cases href : m.ref id = some ref
  · exact ⟨{ grant with state }, by simp [href], rfl, rfl⟩
  · exact ⟨grant, by simp [href], rfl, rfl⟩

theorem KeepsGrants.insert {id : String} (h : m.get id = none) (record : Keys.AccessGrantRecord) :
    KeepsGrants m (m.insert id record) := by
  intro id' grant hgrant
  have hne : id ≠ id' := by
    rintro rfl
    rw [h] at hgrant
    cases hgrant
  exact ⟨grant, by rw [ObjectMap.get_insert, if_neg hne, hgrant], rfl, rfl⟩

theorem Current.of_keeps (h : Current service) (henvelopes : service'.recipientEnvelopes = service.recipientEnvelopes)
    (hgrants : KeepsGrants service.keyLifecycle.registry.grants service'.keyLifecycle.registry.grants) :
    Current service' := by
  intro envelopeId recipient hget
  rw [henvelopes] at hget
  obtain ⟨grant, hgrant, hid, hkey⟩ := h envelopeId recipient hget
  obtain ⟨grant', hgrant', hid', hkey'⟩ := hgrants _ _ hgrant
  exact ⟨grant', hgrant', hid'.trans hid, hkey'.trans hkey⟩

theorem Current.of_eq (h : Current service) (henvelopes : service'.recipientEnvelopes = service.recipientEnvelopes)
    (hgrants : service'.keyLifecycle.registry.grants = service.keyLifecycle.registry.grants) : Current service' :=
  h.of_keeps henvelopes (.of_eq hgrants)

theorem current_new : Current .new := by
  intro envelopeId recipient hget
  cases hget

/-! ### One step -/

/-- The registry refuses the id of a known grant, so a grant that it accepts has
no envelope in the service yet. -/
theorem Current.grants {input : GrantInput} {envelope : Bytes} {commitment : Bytes32} {context : DekWrapContext}
    {registry : Keys.KeyLifecycleRegistry} (h : Current service)
    (hprepare : service.keyLifecycle.registry.prepareGrant input.grantRecord = .ok registry) :
    Current { service with
      recipientEnvelopes :=
        service.recipientEnvelopes.set input.recipientEnvelopeId (input.envelopeRecord F envelope commitment context)
      keyLifecycle := { service.keyLifecycle with registry } } := by
  obtain ⟨hnew, rfl⟩ := Keys.KeyLifecycleRegistry.prepareGrant_ok hprepare
  intro envelopeId recipient hget
  dsimp only at hget ⊢
  rw [JsMap.get_set] at hget
  split_ifs at hget with hid
  · obtain rfl := Option.some.inj hget
    exact ⟨input.grantRecord, by rw [ObjectMap.get_insert]; exact if_pos rfl, hid, rfl⟩
  · obtain ⟨grant, hgrant, hrest⟩ := h envelopeId recipient hget
    obtain ⟨grant', hgrant', hid', hkey'⟩ := KeepsGrants.insert hnew input.grantRecord _ _ hgrant
    exact ⟨grant', hgrant', hid'.trans hrest.1, hkey'.trans hrest.2⟩

theorem resume_authorization {r r' : Keys.KeyLifecycleRegistry} {predecessor : Ref}
    {successor : Keys.ControllerAuthorizationRecord} {answer : Bool}
    (h : r.resume answer (.rotateControllerAuthorization predecessor successor) = .ok r') : r'.grants = r.grants := by
  obtain ⟨-, ⟨_, _, -, -, hgrants, -⟩ | ⟨_, hcall, -⟩ | ⟨_, _, _, _, _, hcall, -⟩⟩ := Keys.KeyLifecycleRegistry.resume_ok h
  · exact hgrants
  · cases hcall
  · cases hcall

theorem Current.continued {operation : Operation} {phase phase' : Phase} {result : AwaitResult} (h : Current service)
    (hawaits : Awaits service operation phase)
    (hnext : Continued F config service operation phase result service' phase') : Current service' := by
  cases hnext with
  | waits => exact h
  | fails => exact h
  | prepares input fingerprint idempotencyHash phase stored registry staged =>
    obtain ⟨-, rfl⟩ := Keys.KeyLifecycleRegistry.stageControllerAuthorization_ok staged
    exact h.of_eq rfl rfl
  | replicates input ref record replicaObjectId held critical => exact h.of_eq rfl rfl
  | finalizes input ref phase result record registry held last activated =>
    obtain ⟨_, _, -, -, -, rfl⟩ := Keys.KeyLifecycleRegistry.activateControllerAuthorization_ok activated
    exact h.of_eq rfl rfl
  | rotationUnwraps input ref record held => exact h
  | rotationWraps input ref context envelope commitment suspended checked => exact h
  | rotationVerified input ref suspended envelope context answer registry resumed =>
    obtain ⟨predecessor, rfl⟩ := hawaits.successor input ref suspended envelope context rfl rfl
    exact h.of_eq rfl (resume_authorization resumed)
  | rotates input ref envelope context result => exact h.of_eq rfl rfl
  | grantUnwraps input ref record held => exact h
  | grants input ref context envelope commitment registry next prepared activating => exact h.grants prepared
  | grantVerified input ref suspended envelope context answer registry resumed =>
    obtain ⟨grant, rfl⟩ := hawaits.activation input ref suspended envelope context rfl rfl
    simp only [Keys.KeyLifecycleRegistry.resume, bind_eq_ok, pure_eq_ok] at resumed
    obtain ⟨-, -, rfl⟩ := resumed
    exact h.of_keeps rfl (.mutate grant .active)
  | retrieves input ref phase => exact h
  | promotes bundleId ref => exact h.of_eq rfl rfl

/-- An event of the registry keeps every grant, unless it rotates one away. -/
theorem Current.registry {i : ℕ} {event : Keys.Event} (h : Current (S.services i))
    (hstays : ¬RotatesAway S (.keyLifecycle i event)) :
    Current { S.services i with keyLifecycle := (S.services i).keyLifecycle.step event } := by
  obtain hgrants | ⟨record, hnew, hgrants⟩ | ⟨ref, hgrants⟩ | ⟨index, grant, rfl, -, hgrants⟩ |
    ⟨index, id, grant, keyId, envelopeId, record, rfl, hcall, -, hgrants⟩ :=
    Keys.step_grants (S.services i).keyLifecycle event
  · exact h.of_eq rfl hgrants
  · refine h.of_keeps rfl ?_
    rw [hgrants]
    exact .insert hnew record
  · refine h.of_keeps rfl ?_
    rw [hgrants]
    exact .mutate ref .revoked
  · refine h.of_keeps rfl ?_
    rw [hgrants]
    exact .mutate grant .active
  · intro stored recipient hget
    dsimp only
    rw [hgrants, ObjectMap.get_insert]
    split_ifs with hid
    · have hsame : stored = envelopeId ∧ recipient.recipientKeyId = keyId := by
        by_contra hnot
        exact hstays ⟨id, grant, keyId, envelopeId, hcall, stored, recipient, hget, hid.symm, hnot⟩
      exact ⟨_, rfl, hsame.1.symm, hsame.2.symm⟩
    · exact h stored recipient hget

theorem current_rule : Rule F configs (fun S event => ¬RotatesAway S event) Current Awaits Keeps :=
  awaits_rule (fun _ _ h => h.of_eq rfl rfl) (fun _ _ _ h => h.of_eq rfl rfl)
    (fun _ _ _ _ _ _ _ _ h hawaits hnext => h.continued hawaits hnext) fun _ _ _ hstays h => h.registry hstays

/-- **Where no rotation takes a grant away from its envelope**, a retrieval that
is accepted opens the envelope that the registry has of its grant, for the key
that it has of it, and that key is usable. -/
theorem retrieval_is_current (F : Externals) (configs : ℕ → Config) (repository : Repository) (ls : List Event) (i : ℕ)
    (input : RetrieveInput) (ref : Ref) (request : ConsumeRequest)
    (hstays : Guarded (step F configs) (fun S event => ¬RotatesAway S event) (newSystem repository) ls)
    (hretrieve : checkRetrieve F (configs i) ((after F configs repository ls).services i) input = .ok (ref, request)) :
    ∃ grant recipient,
      ((after F configs repository ls).services i).keyLifecycle.registry.grants.get input.grantId = some grant ∧
      ((after F configs repository ls).services i).recipient input.grantId input.recipientEnvelopeId = .ok recipient ∧
      grant.envelopeId = input.recipientEnvelopeId ∧ grant.recipientKeyId = recipient.recipientKeyId ∧
      ((after F configs repository ls).services i).keyLifecycle.registry.UsableKey recipient.recipientKeyId := by
  have hcurrent := (current_rule.run current_new hstays).services i
  obtain ⟨record, recipient, -, hauthorized, hrecipient, -⟩ := checkRetrieve_eq_ok.mp hretrieve
  obtain ⟨hget, hgrantId⟩ := recipient_eq_ok.mp hrecipient
  obtain ⟨grant, hgrant, hid, hkey⟩ := hcurrent _ _ hget
  rw [hgrantId] at hgrant
  obtain ⟨grant', hgrant', -, -, -, husable⟩ := Keys.KeyLifecycleRegistry.authorizeRetrieval_eq_ok.mp hauthorized
  obtain rfl : grant = grant' := Option.some.inj (hgrant.symm.trans hgrant')
  exact ⟨grant, recipient, hgrant, hrecipient, hid, hkey, hkey ▸ husable⟩

end

/-- No event of the sample run is a rotation. -/
theorem Sample.never_rotatesAway {event : Event} (h : event ∈ Sample.grantable ++ Sample.granting) (S : System) :
    ¬RotatesAway S event := by
  simp only [Sample.grantable, Sample.preparation, Sample.finalizing, Sample.granting, Sample.GrantProofs.events,
    List.cons_append, List.nil_append, List.mem_cons, List.not_mem_nil, or_false] at h
  obtain rfl | rfl | rfl | rfl | rfl | rfl | rfl | rfl | rfl | rfl := h
  all_goals first
    | exact fun h => h
    | rintro ⟨_, _, _, _, hresumed, _⟩
      cases hresumed

/-- The grant of the sample is retrieved with its own envelope. -/
theorem granted_retrieval_is_current :
    ∃ grant recipient,
      (Sample.grantedSystem.services 0).keyLifecycle.registry.grants.get Sample.grantId = some grant ∧
      (Sample.grantedSystem.services 0).recipient Sample.grantId Sample.recipientEnvelopeId = .ok recipient ∧
      grant.envelopeId = Sample.recipientEnvelopeId ∧ grant.recipientKeyId = recipient.recipientKeyId ∧
      (Sample.grantedSystem.services 0).keyLifecycle.registry.UsableKey recipient.recipientKeyId := by
  have hrun : after Sample.grantExternals (fun _ => Sample.grantConfig) Sample.memory (Sample.grantable ++ Sample.granting) =
      Sample.grantedSystem := Sample.granted_eq
  have hcurrent := retrieval_is_current Sample.grantExternals (fun _ => Sample.grantConfig) Sample.memory
    (Sample.grantable ++ Sample.granting) 0 Sample.retrieveInput 0 Sample.retrieveRequest
    (guarded_of_mem _ _ fun _ hevent S => Sample.never_rotatesAway hevent S) (by rw [hrun]; exact Sample.granted_retrieve)
  rw [hrun] at hcurrent
  exact hcurrent

namespace Sample

def successorKeyId : String := "urn:evllm:key:00000000-0000-4000-8000-000000000024"
def successorEnvelopeId : String := "urn:evllm:envelope:00000000-0000-4000-8000-000000000054"

/-- The grant is rotated away from its key, which is then compromised. -/
def rotating : List Event :=
  [.keyLifecycle 0 (.addKey ⟨successorKeyId, organizationId, .active⟩),
    .keyLifecycle 0 (.rotateRecipientEnvelope grantId successorKeyId successorEnvelopeId), .keyLifecycle 0 (.resume 0 true),
    .keyLifecycle 0 (.recordKeyFailure recipientKeyId .compromised)]

def retrieving : List Event := [.retrieveWithGrant 0 retrieveInput, .resume 3 .done]

def rotatedSystem : System := run (step grantExternals fun _ => grantConfig) grantedSystem rotating

theorem rotated_eq : grantSystem (grantable ++ granting ++ rotating) = rotatedSystem := by
  have hrun : grantSystem (grantable ++ granting ++ rotating) =
      run (step grantExternals fun _ => grantConfig) (grantSystem (grantable ++ granting)) rotating := run_append _ _ _ _
  rw [hrun, granted_eq, rotatedSystem]

theorem rotated_record : (rotatedSystem.services 0).record bundleId = .ok (0, { record with finalized := true }) := rfl

theorem rotated_authorized : (rotatedSystem.services 0).keyLifecycle.registry.authorizeRetrieval grantId 100 = .ok () := rfl

theorem rotated_envelope : (rotatedSystem.services 0).recipient grantId recipientEnvelopeId =
    .ok (grantProofs.input.envelopeRecord grantExternals grantEnvelope grantCommitment
      (grantProofs.input.context { record with finalized := true })) := rfl

theorem rotated_retrieve : checkRetrieve grantExternals grantConfig (rotatedSystem.services 0) retrieveInput =
    .ok (0, retrieveRequest) :=
  check_retrieve rotated_record rotated_authorized rotated_envelope

theorem retrieved : ∃ call, (grantSystem (grantable ++ granting ++ rotating ++ retrieving)).calls[3]? = some call ∧
    call.operation = .retrieve retrieveInput 0 ∧ call.phase = .returned := by
  have hrun : grantSystem (grantable ++ granting ++ rotating ++ retrieving) =
      run (step grantExternals fun _ => grantConfig) (grantSystem (grantable ++ granting ++ rotating)) retrieving :=
    run_append _ _ _ _
  have hkey : grantedAuthorizations.has
      (authorizationKey retrieveRequest.record.authorizationId retrieveRequest.record.authorizationVersion) = false := by
    decide +kernel
  have hscope : retrieveRequest.nonceScope ∉
      (insert grantProofs.request.nonceScope (insert finalizeRequest.nonceScope ∅) : Finset NonceScope) := by
    rw [Finset.mem_insert, Finset.mem_insert, not_or, not_or]
    exact ⟨scope_ne (by decide), scope_ne (by decide), Finset.notMem_empty _⟩
  have hrepository : rotatedSystem.repository = .memory grantedAuthorizations
      (insert grantProofs.request.nonceScope (insert finalizeRequest.nonceScope ∅)) := rfl
  rw [hrun, rotated_eq, retrieving, run_cons, step, rotated_retrieve, startChecked,
    consume_new rfl hrepository hkey hscope]
  exact ⟨_, rfl, rfl, rfl⟩

end Sample

/-- After the grant is rotated away from its key and the key is compromised, the
old envelope still opens the bundle. -/
theorem compromised_envelope_opens :
    checkRetrieve Sample.grantExternals Sample.grantConfig
        ((Sample.grantSystem (Sample.grantable ++ Sample.granting ++ Sample.rotating)).services 0) Sample.retrieveInput =
        .ok (0, Sample.retrieveRequest) ∧
      (∃ call, (Sample.grantSystem
          (Sample.grantable ++ Sample.granting ++ Sample.rotating ++ Sample.retrieving)).calls[3]? = some call ∧
        call.operation = .retrieve Sample.retrieveInput 0 ∧ call.phase = .returned) ∧
      ∃ grant recipient,
        ((Sample.grantSystem (Sample.grantable ++ Sample.granting ++ Sample.rotating)).services 0).keyLifecycle.registry.grants.get
          Sample.grantId = some grant ∧
        ((Sample.grantSystem (Sample.grantable ++ Sample.granting ++ Sample.rotating)).services 0).recipient Sample.grantId
          Sample.recipientEnvelopeId = .ok recipient ∧
        grant.envelopeId ≠ Sample.retrieveInput.recipientEnvelopeId ∧
        grant.recipientKeyId ≠ recipient.recipientKeyId ∧
        ¬((Sample.grantSystem
          (Sample.grantable ++ Sample.granting ++ Sample.rotating)).services 0).keyLifecycle.registry.UsableKey
            recipient.recipientKeyId := by
  refine ⟨?_, Sample.retrieved, ?_⟩
  · rw [Sample.rotated_eq]
    exact Sample.rotated_retrieve
  · rw [Sample.rotated_eq]
    refine ⟨_, _, rfl, Sample.rotated_envelope, by decide, by decide, ?_⟩
    rintro ⟨key, hkey, hstate⟩
    obtain rfl := Option.some.inj hkey
    obtain h | h := hstate
    · cases h
    · cases h

/-! ### The controller behind a grant -/

/-- The authorization of the record is active and its key usable. -/
def BundleService.LiveController (service : BundleService) (ref : Ref) : Prop :=
  ∃ record authorization, service.byBundle.deref ref = some record ∧
    service.keyLifecycle.registry.authorizations.get record.controllerAuthorizationId = some authorization ∧
    service.keyLifecycle.registry.Usable authorization

/-- With this step the call prepares its grant. -/
def Prepares (S : System) (c : ℕ) (input : GrantInput) (ref : Ref) (result : AwaitResult) : Prop :=
  ∃ call, S.calls[c]? = some call ∧ call.operation = .grant input ref ∧
    Stores (S.services call.service) input call.phase result

/-- A call that comes to prepare a grant which the registry admits has a live
controller of its own, or finds no usable controller at all. -/
def OwnController (S : System) : Event → Prop
  | .resume c (.wrapped _ _) => ∀ call ∈ S.calls[c]?, ∀ input ref context, call.operation = .grant input ref →
    call.phase = .wrapping context → (S.services call.service).keyLifecycle.registry.Admits input.grantRecord →
    (S.services call.service).LiveController ref ∨
      ∀ id authorization,
        (S.services call.service).keyLifecycle.registry.authorizations.get id = some authorization →
        ¬(S.services call.service).keyLifecycle.registry.Usable authorization
  | _ => True

/-- The call is one for the grant, and has prepared it. -/
def HasPrepared (c : ℕ) (input : GrantInput) (ref : Ref) (S : System) : Prop :=
  ∃ call, S.calls[c]? = some call ∧ call.operation = .grant input ref ∧
    (call.phase = .returned ∨ ∃ suspended envelope context, call.phase = .verifying suspended envelope context)

section

variable {F : Externals} {configs : ℕ → Config} {config : Config} {service service' : BundleService} {S S' : System}
variable {c : ℕ} {input : GrantInput} {ref : Ref} {phase phase' : Phase} {result : AwaitResult}

theorem stores_of_prepared {context : DekWrapContext} {envelope : Bytes} {commitment : Bytes32}
    {registry : Keys.KeyLifecycleRegistry}
    (h : service.keyLifecycle.registry.prepareGrant input.grantRecord = .ok registry) :
    Stores service input (.wrapping context) (.wrapped envelope commitment) := by
  refine ⟨⟨context, rfl⟩, ⟨envelope, commitment, rfl⟩, ?_⟩
  rw [h]
  rfl

/-- A call comes to the phases after the preparation by preparing. -/
theorem stores_of_continued (hnext : Continued F config service (.grant input ref) phase result service' phase')
    (hgoes : phase.goesOn) (hbefore : ¬∃ suspended envelope context, phase = .verifying suspended envelope context)
    (hafter : phase' = .returned ∨ ∃ suspended envelope context, phase' = .verifying suspended envelope context) :
    Stores service input phase result := by
  cases hnext with
  | waits =>
    obtain rfl | hverifying := hafter
    · cases hgoes
    · exact absurd hverifying hbefore
  | fails =>
    obtain h | ⟨_, _, _, h⟩ := hafter
    · cases h
    · cases h
  | grantUnwraps input ref record held =>
    obtain h | ⟨_, _, _, h⟩ := hafter
    · cases h
    · cases h
  | grants input ref context envelope commitment registry next prepared activating => exact stores_of_prepared prepared
  | grantVerified input ref suspended envelope context answer registry resumed =>
    exact absurd ⟨suspended, envelope, context, rfl⟩ hbefore

/-- **The step after which a call has prepared its grant** prepares it. -/
theorem prepares_of_step {event : Event} (hbefore : ¬HasPrepared c input ref S)
    (hafter : HasPrepared c input ref (step F configs S event)) :
    ∃ result, event = .resume c result ∧ Prepares S c input ref result := by
  obtain ⟨call, hcall, hoperation, hphase⟩ := hafter
  have houtside : call.phase.outside → False := by
    intro houtside
    obtain h | ⟨_, _, _, h⟩ := hphase
    · rw [h] at houtside
      cases houtside
    · rw [h] at houtside
      cases houtside
  obtain hold | hbegins | ⟨bundleId, ref', hpromote⟩ | ⟨old, -, -, hout⟩ | ⟨old, result, rfl, hold, hgoes, rfl⟩ :=
    (step_cases event).call_cases hcall
  · exact absurd ⟨call, hold, hoperation, hphase⟩ hbefore
  · cases hbegins with
    | grant i input' ref' scope request nonces phase outside checked => exact (houtside outside).elim
    | _ => cases hoperation
  · rw [hpromote] at hoperation
    cases hoperation
  · exact (houtside hout).elim
  · have hnext : Continued F (configs old.service) (S.services old.service) old.operation old.phase result
        (old.next F configs S result).1 (old.next F configs S result).2 := continued_call old.operation
    dsimp only at hoperation hphase
    rw [hoperation] at hnext
    have hnot : ¬∃ suspended envelope context, old.phase = .verifying suspended envelope context :=
      fun hverifying => hbefore ⟨old, hold, hoperation, .inr hverifying⟩
    exact ⟨result, rfl, old, hold, hoperation, stores_of_continued hnext hgoes hnot hphase⟩

/-- A call that prepares its grant, where its own controller is live or none is
usable, has a live one. -/
theorem live_of_prepares (hprepares : Prepares S c input ref result) (hown : OwnController S (.resume c result)) :
    ∃ call, S.calls[c]? = some call ∧ (S.services call.service).LiveController ref := by
  obtain ⟨call, hcall, hoperation, ⟨context, hphase⟩, ⟨envelope, commitment, rfl⟩, haccepts⟩ := hprepares
  have hok : ∃ registry, (S.services call.service).keyLifecycle.registry.prepareGrant input.grantRecord = .ok registry := by
    cases hprepare : (S.services call.service).keyLifecycle.registry.prepareGrant input.grantRecord with
    | error e =>
      rw [hprepare] at haccepts
      cases haccepts
    | ok registry => exact ⟨registry, rfl⟩
  obtain ⟨hadmits, id, authorization, hget, husable⟩ := Keys.KeyLifecycleRegistry.prepareGrant_isOk.mp hok
  obtain hlive | hnone := hown call hcall input ref context hoperation hphase hadmits
  · exact ⟨call, hcall, hlive⟩
  · exact absurd husable (hnone id authorization hget)

/-- **Where no grant is prepared on the strength of another's controller**, every
call that has granted prepared its grant at a step before which the controller
of its own bundle was live. -/
theorem granted_by_live_controller (F : Externals) (configs : ℕ → Config) (repository : Repository) (ls : List Event)
    (c : ℕ) (call : Call) (input : GrantInput) (ref : Ref)
    (hown : Guarded (step F configs) OwnController (newSystem repository) ls)
    (hcall : (after F configs repository ls).calls[c]? = some call) (hoperation : call.operation = .grant input ref)
    (hreturned : call.phase = .returned) :
    ∃ before result rest, ls = before ++ .resume c result :: rest ∧
      Prepares (after F configs repository before) c input ref result ∧
      ∃ preparing, (after F configs repository before).calls[c]? = some preparing ∧
        ((after F configs repository before).services preparing.service).LiveController ref := by
  have hnew : ¬HasPrepared c input ref (newSystem repository) := by
    rintro ⟨_, hnone, -⟩
    cases hnone
  obtain ⟨before, event, rest, rfl, hbefore, hafter⟩ :=
    run_first ls hnew ⟨call, hcall, hoperation, .inl hreturned⟩
  obtain ⟨result, rfl, hprepares⟩ := prepares_of_step hbefore hafter
  have hstep : OwnController (after F configs repository before) (.resume c result) :=
    ((guarded_append before _ _).mp hown).2.1
  exact ⟨before, result, rest, rfl, hprepares, live_of_prepares hprepares hstep⟩

end

namespace Sample

/-- The steps before the grant prepare none. -/
theorem grantable_ownController {event : Event} (h : event ∈ grantable) (S : System) : OwnController S event := by
  simp only [grantable, preparation, finalizing, List.cons_append, List.nil_append, List.mem_cons, List.not_mem_nil,
    or_false] at h
  obtain rfl | rfl | rfl | rfl | rfl | rfl := h
  all_goals exact trivial

/-- The grant is prepared while its controller is live. -/
theorem granting_ownController : Guarded (step grantExternals fun _ => grantConfig) OwnController grantableSystem
    granting := by
  refine ⟨trivial, ?_⟩
  rw [granting_start]
  refine ⟨trivial, ?_, trivial, trivial⟩
  rintro call hcall input ref context hoperation - -
  obtain rfl := Option.some.inj hcall
  obtain ⟨rfl, rfl⟩ := Operation.grant.inj hoperation
  exact .inl ⟨_, _, rfl, rfl, rfl, _, rfl, .inl rfl⟩

theorem granted_call : ∃ call, grantedSystem.calls[2]? = some call ∧ call.operation = .grant grantProofs.input 0 ∧
    call.phase = .returned := ⟨_, rfl, rfl, rfl⟩

end Sample

/-- The grant of the sample was prepared while the controller of its bundle was
live. -/
theorem sample_granted_by_live_controller :
    ∃ before result rest, Sample.grantable ++ Sample.granting = before ++ .resume 2 result :: rest ∧
      Prepares (Sample.grantSystem before) 2 Sample.grantProofs.input 0 result ∧
      ∃ preparing, (Sample.grantSystem before).calls[2]? = some preparing ∧
        ((Sample.grantSystem before).services preparing.service).LiveController 0 := by
  have hrun : after Sample.grantExternals (fun _ => Sample.grantConfig) Sample.memory (Sample.grantable ++ Sample.granting) =
      Sample.grantedSystem := Sample.granted_eq
  have hbefore : run (step Sample.grantExternals fun _ => Sample.grantConfig) (newSystem Sample.memory) Sample.grantable =
      Sample.grantableSystem := Sample.grantable_eq
  have hown : Guarded (step Sample.grantExternals fun _ => Sample.grantConfig) OwnController (newSystem Sample.memory)
      (Sample.grantable ++ Sample.granting) := by
    refine (guarded_append _ _ _).mpr ⟨guarded_of_mem _ _ fun _ h S => Sample.grantable_ownController h S, ?_⟩
    rw [hbefore]
    exact Sample.granting_ownController
  obtain ⟨call, hcall, hoperation, hreturned⟩ := Sample.granted_call
  exact granted_by_live_controller Sample.grantExternals (fun _ => Sample.grantConfig) Sample.memory
    (Sample.grantable ++ Sample.granting) 2 call Sample.grantProofs.input 0 hown (by rw [hrun]; exact hcall) hoperation
    hreturned

namespace Sample

def otherControllerKeyId : String := "urn:evllm:key:00000000-0000-4000-8000-000000000025"
def otherControllerEnvelopeId : String := "urn:evllm:envelope:00000000-0000-4000-8000-000000000055"

/-- Another controller is authorized, and then the key of the bundle's own
controller is compromised. -/
def orphaning : List Event :=
  [.keyLifecycle 0 (.addKey ⟨otherControllerKeyId, organizationId, .active⟩),
    .keyLifecycle 0 (.stageControllerAuthorization
      ⟨otherAuthorizationId, otherControllerEnvelopeId, otherControllerKeyId, .staged⟩),
    .keyLifecycle 0 (.activateControllerAuthorization otherAuthorizationId),
    .keyLifecycle 0 (.recordKeyFailure keyId .compromised)]

def orphanedSystem : System := run (step grantExternals fun _ => grantConfig) grantableSystem orphaning

theorem orphaned_start : step grantExternals (fun _ => grantConfig) orphanedSystem (.grantRecipient 0 grantProofs.input) =
    grantProofs.consumed orphanedSystem finalizedAuthorizations (insert finalizeRequest.nonceScope ∅) := by
  refine step_grant (.inl rfl) rfl rfl ?_ ?_ ?_
  · exact Finset.notMem_empty _
  · decide +kernel
  · rw [Finset.mem_insert, not_or]
    exact ⟨scope_ne (by decide), Finset.notMem_empty _⟩

/-- The system in which the call has wrapped the key for its recipient. -/
def orphanedWrapping : System :=
  step grantExternals (fun _ => grantConfig)
    (grantProofs.consumed orphanedSystem finalizedAuthorizations (insert finalizeRequest.nonceScope ∅)) (.resume 2 .done)

theorem orphaned_run (ls : List Event) :
    grantSystem (grantable ++ orphaning ++ .grantRecipient 0 grantProofs.input :: .resume 2 .done :: ls) =
      run (step grantExternals fun _ => grantConfig) orphanedWrapping ls := by
  have hrun : grantSystem (grantable ++ orphaning ++ .grantRecipient 0 grantProofs.input :: .resume 2 .done :: ls) =
      run (step grantExternals fun _ => grantConfig) (run (step grantExternals fun _ => grantConfig) (grantSystem grantable)
        orphaning) (.grantRecipient 0 grantProofs.input :: .resume 2 .done :: ls) := by
    rw [grantSystem, after, run_append, run_append]
    rfl
  have horphaned : run (step grantExternals fun _ => grantConfig) grantableSystem orphaning = orphanedSystem := rfl
  rw [hrun, grantable_eq, horphaned, run_cons, orphaned_start, run_cons, orphanedWrapping]

end Sample

/-- The key of the bundle's controller is compromised when the grant is prepared,
and the call returns: another controller was usable. -/
theorem granted_without_live_controller :
    Prepares (Sample.grantSystem (Sample.grantable ++ Sample.orphaning ++
        [.grantRecipient 0 Sample.grantProofs.input, .resume 2 .done])) 2 Sample.grantProofs.input 0
        (.wrapped Sample.grantEnvelope Sample.grantCommitment) ∧
      ¬((Sample.grantSystem (Sample.grantable ++ Sample.orphaning ++
        [.grantRecipient 0 Sample.grantProofs.input, .resume 2 .done])).services 0).LiveController 0 ∧
      ∃ call, (Sample.grantSystem (Sample.grantable ++ Sample.orphaning ++ Sample.granting)).calls[2]? = some call ∧
        call.operation = .grant Sample.grantProofs.input 0 ∧ call.phase = .returned := by
  refine ⟨?_, ?_, ?_⟩
  · rw [Sample.orphaned_run]
    exact ⟨_, rfl, rfl, ⟨_, rfl⟩, ⟨_, _, rfl⟩, rfl⟩
  · rw [Sample.orphaned_run]
    rintro ⟨record, authorization, hrecord, hget, -, key, hkey, hstate⟩
    obtain rfl := Option.some.inj hrecord
    obtain rfl := Option.some.inj hget
    obtain rfl := Option.some.inj hkey
    obtain h | h := hstate
    · cases h
    · cases h
  · rw [Sample.granting, Sample.GrantProofs.events, Sample.orphaned_run]
    exact ⟨_, rfl, rfl, rfl⟩

end Evidence
end Evllm
