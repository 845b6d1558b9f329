/-
# What a call does when it goes on

`Continued` says everything that a continuation can do: the operation, the phase
it was in, what it was given, and the service and the phase it leaves. What a
call checks before it writes is a field of the constructor.

Two more facts hold of every call in every run (`Awaits`): the registry
operation that it awaits is its own, and the record that it holds is allocated.

Key definitions: `Continued`, `Awaits`.
Key theorems: `continued_call`, `awaits_rule`, `after_awaiting`.
-/
import Evllm.Evidence.Steps

namespace Evllm
namespace Evidence

open Lib Contracts

/-- The authorization that a preparation stages. -/
def PrepareEvidenceInput.authorizationRecord (input : PrepareEvidenceInput) (stored : ProtectionResult) :
    Keys.ControllerAuthorizationRecord :=
  ⟨input.controllerAuthorizationId, stored.controllerEnvelopeId, input.controllerEncryptionKeyId, .staged⟩

/-- The authorization that follows the one a rotation retires. -/
def RotateInput.authorizationRecord (input : RotateInput) : Keys.ControllerAuthorizationRecord :=
  ⟨input.successorAuthorizationId, input.successorEnvelopeId, input.successorKeyId, .staged⟩

/-- The grant that a call prepares. -/
def GrantInput.grantRecord (input : GrantInput) : Keys.AccessGrantRecord :=
  ⟨input.effectiveAt, input.recipientEnvelopeId, input.expiresAt, input.grantId, input.recipientKeyId, .prepared⟩

section

variable (F : Externals) (config : Config) (service : BundleService)

/-- What follows the preparation of a grant: its activation awaits the
verification of the envelope, or is refused. -/
inductive Activating (registry : Keys.KeyLifecycleRegistry) (input : GrantInput) (envelope : Bytes)
    (context : DekWrapContext) : Phase → Prop where
  | refused : Activating registry input envelope context .failed
  | awaits (suspended : Keys.Suspended)
      (checked : registry.activateGrant input.grantId input.effectiveAt = .ok suspended) :
      Activating registry input envelope context (.verifying suspended envelope context)

inductive Continued : Operation → Phase → AwaitResult → BundleService → Phase → Prop where
  /-- The call has not been given what it awaits. -/
  | waits (operation : Operation) (phase : Phase) (result : AwaitResult) : Continued operation phase result service phase
  | fails (operation : Operation) (phase : Phase) (result : AwaitResult) :
      Continued operation phase result service .failed
  | prepares (input : PrepareEvidenceInput) (fingerprint idempotencyHash : Bytes32) (phase : Phase)
      (stored : ProtectionResult) (registry : Keys.KeyLifecycleRegistry)
      (staged : service.keyLifecycle.registry.stageControllerAuthorization (input.authorizationRecord stored) = .ok registry) :
      Continued (.prepare input fingerprint idempotencyHash) phase (.stored stored)
        { service with
          byIdempotency := service.byIdempotency.set idempotencyHash service.byBundle.heap.length
          byBundle := service.byBundle.insert input.evidencePayload.bundleId (preparedRecord F config input fingerprint stored)
          keyLifecycle := { service.keyLifecycle with registry } } .returned
  | replicates (input : FinalizeInput) (ref : Ref) (record : PreparedInternal) (replicaObjectId : String)
      (held : service.byBundle.deref ref = some record) (critical : record.critical = true) :
      Continued (.finalize input ref) .working (.promoted replicaObjectId) (service.assignReplica ref replicaObjectId)
        .replicating
  | finalizes (input : FinalizeInput) (ref : Ref) (phase : Phase) (result : AwaitResult) (record : PreparedInternal)
      (registry : Keys.KeyLifecycleRegistry) (held : service.byBundle.deref ref = some record)
      (last : LastAwait record phase result)
      (activated : service.keyLifecycle.registry.activateControllerAuthorization record.controllerAuthorizationId =
        .ok registry) :
      Continued (.finalize input ref) phase result
        { service with
          byBundle := service.byBundle.mutate ref fun record => { record with finalized := true }
          finalizedRecords := service.finalizedRecords.set record.bundleId (finalizedEvidenceBundleRecord record input)
          keyLifecycle := { service.keyLifecycle with registry } } .returned
  | rotationUnwraps (input : RotateInput) (ref : Ref) (record : PreparedInternal)
      (held : service.byBundle.deref ref = some record) :
      Continued (.rotate input ref) .working .done service (.wrapping (input.successorContext record))
  | rotationWraps (input : RotateInput) (ref : Ref) (context : DekWrapContext) (envelope : Bytes) (commitment : Bytes32)
      (suspended : Keys.Suspended)
      (checked : service.keyLifecycle.registry.rotateControllerAuthorization input.predecessorAuthorizationId
        input.authorizationRecord = .ok suspended) :
      Continued (.rotate input ref) (.wrapping context) (.wrapped envelope commitment) service
        (.verifying suspended envelope context)
  | rotationVerified (input : RotateInput) (ref : Ref) (suspended : Keys.Suspended) (envelope : Bytes)
      (context : DekWrapContext) (answer : Bool) (registry : Keys.KeyLifecycleRegistry)
      (resumed : service.keyLifecycle.registry.resume answer suspended = .ok registry) :
      Continued (.rotate input ref) (.verifying suspended envelope context) (.verified answer)
        { service with keyLifecycle := { service.keyLifecycle with registry } } (.rotated envelope context)
  | rotates (input : RotateInput) (ref : Ref) (envelope : Bytes) (context : DekWrapContext) (result : AwaitResult) :
      Continued (.rotate input ref) (.rotated envelope context) result
        (service.mutateRecord ref (input.write F envelope context)) .returned
  | grantUnwraps (input : GrantInput) (ref : Ref) (record : PreparedInternal)
      (held : service.byBundle.deref ref = some record) :
      Continued (.grant input ref) .working .done service (.wrapping (input.context record))
  | grants (input : GrantInput) (ref : Ref) (context : DekWrapContext) (envelope : Bytes) (commitment : Bytes32)
      (registry : Keys.KeyLifecycleRegistry) (next : Phase)
      (prepared : service.keyLifecycle.registry.prepareGrant input.grantRecord = .ok registry)
      (activating : Activating registry input envelope context next) :
      Continued (.grant input ref) (.wrapping context) (.wrapped envelope commitment)
        { service with
          recipientEnvelopes :=
            service.recipientEnvelopes.set input.recipientEnvelopeId (input.envelopeRecord F envelope commitment context)
          keyLifecycle := { service.keyLifecycle with registry } } next
  | grantVerified (input : GrantInput) (ref : Ref) (suspended : Keys.Suspended) (envelope : Bytes)
      (context : DekWrapContext) (answer : Bool) (registry : Keys.KeyLifecycleRegistry)
      (resumed : service.keyLifecycle.registry.resume answer suspended = .ok registry) :
      Continued (.grant input ref) (.verifying suspended envelope context) (.verified answer)
        { service with keyLifecycle := { service.keyLifecycle with registry } } .returned
  | retrieves (input : RetrieveInput) (ref : Ref) (phase : Phase) :
      Continued (.retrieve input ref) phase .done service .returned
  | promotes (bundleId : String) (ref : Ref) :
      Continued (.promote bundleId ref) .replicating .done
        (service.mutateRecord ref fun record => { record with critical := true }) .returned

end

section

variable {F : Externals} {configs : ℕ → Config} {config : Config} {service service' : BundleService} {phase phase' : Phase}
variable {result : AwaitResult} {operation : Operation}

theorem continued_orFail {outcome : Except ServiceError BundleService} {next : Phase}
    (h : ∀ service', outcome = .ok service' → Continued F config service operation phase result service' next) :
    Continued F config service operation phase result (orFail service outcome next).1 (orFail service outcome next).2 := by
  rcases outcome with e | service'
  · exact .fails operation phase result
  · exact h service' rfl

theorem resumeRegistry_ok {suspended : Keys.Suspended} {answer : Bool}
    (h : resumeRegistry service suspended answer = .ok service') :
    ∃ registry, service.keyLifecycle.registry.resume answer suspended = .ok registry ∧
      service' = { service with keyLifecycle := { service.keyLifecycle with registry } } := by
  simp only [resumeRegistry, bind_eq_ok, pure_eq_ok, registryError_eq_ok] at h
  obtain ⟨registry, hresume, rfl⟩ := h
  exact ⟨registry, hresume, rfl⟩

theorem continued_completeFinalize {input : FinalizeInput} {ref : Ref}
    (hlast : ∀ record, service.byBundle.deref ref = some record → LastAwait record phase result)
    (h : completeFinalize service input ref = .ok service') :
    Continued F config service (.finalize input ref) phase result service' .returned := by
  unfold completeFinalize at h
  cases hrecord : service.byBundle.deref ref with
  | none => simp [hrecord] at h
  | some record =>
    simp only [hrecord, bind_eq_ok, pure_eq_ok, registryError_eq_ok] at h
    obtain ⟨registry, hactivate, rfl⟩ := h
    exact .finalizes input ref phase result record registry hrecord (hlast record hrecord) hactivate

theorem continued_finalize (input : FinalizeInput) (ref : Ref) :
    Continued F config service (.finalize input ref) phase result (continueFinalize service input ref phase result).1
      (continueFinalize service input ref phase result).2 := by
  unfold continueFinalize
  split
  next replicaObjectId =>
    unfold finalizePromoted
    split_ifs with hcritical
    · obtain ⟨record, hrecord, hcritical⟩ := (Option.any_eq_true _ _).mp hcritical
      exact .replicates input ref record replicaObjectId hrecord hcritical
    · refine continued_orFail fun service' h => continued_completeFinalize (fun record hrecord => ?_) h
      have hlast : record.critical = false := by simpa [hrecord] using hcritical
      exact hlast
  · exact continued_orFail fun service' h => continued_completeFinalize (fun _ _ => trivial) h
  · exact .fails _ _ _
  · exact .waits _ _ _

theorem continued_rotate (input : RotateInput) (ref : Ref) :
    Continued F config service (.rotate input ref) phase result (continueRotate F service input ref phase result).1
      (continueRotate F service input ref phase result).2 := by
  unfold continueRotate
  split
  next envelope context => exact .rotates input ref envelope context result
  · cases hrecord : service.byBundle.deref ref with
    | none => exact .waits _ _ _
    | some record => exact .rotationUnwraps input ref record hrecord
  next context envelope commitment =>
    unfold rotationWrapped
    split
    · exact .fails _ _ _
    next suspended hchecked => exact .rotationWraps input ref context envelope commitment suspended hchecked
  next suspended envelope context answer =>
    refine continued_orFail fun service' h => ?_
    obtain ⟨registry, hresume, rfl⟩ := resumeRegistry_ok h
    exact .rotationVerified input ref suspended envelope context answer registry hresume
  · exact .fails _ _ _
  · exact .waits _ _ _

theorem storeGrant_ok {input : GrantInput} {envelope : Bytes} {commitment : Bytes32} {context : DekWrapContext}
    (h : storeGrant F service input envelope commitment context = .ok service') :
    ∃ registry, service.keyLifecycle.registry.prepareGrant input.grantRecord = .ok registry ∧
      service' = { service with
        recipientEnvelopes :=
          service.recipientEnvelopes.set input.recipientEnvelopeId (input.envelopeRecord F envelope commitment context)
        keyLifecycle := { service.keyLifecycle with registry } } := by
  simp only [storeGrant, bind_eq_ok, pure_eq_ok, registryError_eq_ok] at h
  obtain ⟨registry, hprepare, rfl⟩ := h
  exact ⟨registry, hprepare, rfl⟩

theorem continued_grant (input : GrantInput) (ref : Ref) :
    Continued F config service (.grant input ref) phase result (continueGrant F service input ref phase result).1
      (continueGrant F service input ref phase result).2 := by
  unfold continueGrant
  split
  · cases hrecord : service.byBundle.deref ref with
    | none => exact .waits _ _ _
    | some record => exact .grantUnwraps input ref record hrecord
  next context envelope commitment =>
    unfold grantWrapped
    split
    · exact .fails _ _ _
    next stored hstored =>
      obtain ⟨registry, hprepare, rfl⟩ := storeGrant_ok hstored
      split
      · exact .grants input ref context envelope commitment registry _ hprepare .refused
      next suspended hactivate =>
        exact .grants input ref context envelope commitment registry _ hprepare (.awaits suspended hactivate)
  next suspended envelope context answer =>
    refine continued_orFail fun service' h => ?_
    obtain ⟨registry, hresume, rfl⟩ := resumeRegistry_ok h
    exact .grantVerified input ref suspended envelope context answer registry hresume
  · exact .fails _ _ _
  · exact .waits _ _ _

/-- **What a continuation is.** -/
theorem continued_call (operation : Operation) :
    Continued F config service operation phase result (continueCall F config service phase result operation).1
      (continueCall F config service phase result operation).2 := by
  cases operation with
  | prepare input fingerprint idempotencyHash =>
    simp only [continueCall]
    split
    next stored =>
      refine continued_orFail fun service' h => ?_
      simp only [commitPreparation, bind_eq_ok, pure_eq_ok, registryError_eq_ok] at h
      obtain ⟨registry, hstage, rfl⟩ := h
      exact .prepares input fingerprint idempotencyHash phase stored registry hstage
    · exact .fails _ _ _
    · exact .waits _ _ _
  | finalize input ref => exact continued_finalize input ref
  | rotate input ref => exact continued_rotate input ref
  | grant input ref => exact continued_grant input ref
  | retrieve input ref =>
    simp only [continueCall]
    split
    · exact .retrieves input ref phase
    · exact .fails _ _ _
    · exact .waits _ _ _
  | promote bundleId ref =>
    simp only [continueCall, continuePromote]
    split
    · exact .promotes bundleId ref
    · exact .fails _ _ _
    · exact .waits _ _ _

end

/-! ### What a call awaits and holds -/

/-- A grant's call that awaits the key registry awaits an activation. -/
def AwaitsActivation (_ : BundleService) (operation : Operation) (phase : Phase) : Prop :=
  ∀ input ref suspended envelope context, operation = .grant input ref →
    phase = .verifying suspended envelope context → ∃ grant, suspended = .activateGrant grant

/-- A rotation that awaits the key registry awaits its own successor. -/
def AwaitsSuccessor (operation : Operation) (phase : Phase) : Prop :=
  ∀ input ref suspended envelope context, operation = .rotate input ref →
    phase = .verifying suspended envelope context →
    ∃ predecessor, suspended = .rotateControllerAuthorization predecessor input.authorizationRecord

/-- The record that a call holds. -/
def Operation.ref : Operation → Option Ref
  | .prepare _ _ _ => none
  | .finalize _ ref | .rotate _ ref | .grant _ ref | .retrieve _ ref | .promote _ ref => some ref

structure Awaits (service : BundleService) (operation : Operation) (phase : Phase) : Prop where
  activation : AwaitsActivation service operation phase
  successor : AwaitsSuccessor operation phase
  held : ∀ ref, operation.ref = some ref → ∃ record, service.byBundle.deref ref = some record

def System.Awaiting (S : System) : Prop := ∀ call ∈ S.calls, Awaits (S.services call.service) call.operation call.phase

section

variable {F : Externals} {configs : ℕ → Config} {config : Config} {service service' : BundleService} {phase phase' : Phase}
variable {result : AwaitResult} {operation : Operation}

theorem activateGrant_ok {r : Keys.KeyLifecycleRegistry} {grantId : String} {currentTime : ℤ}
    {suspended : Keys.Suspended} (h : r.activateGrant grantId currentTime = .ok suspended) :
    ∃ grant, suspended = .activateGrant grant := by
  simp only [Keys.KeyLifecycleRegistry.activateGrant, bind_eq_ok, pure_eq_ok] at h
  obtain ⟨⟨grant, record⟩, -, -, -, -, -, rfl⟩ := h
  exact ⟨grant, rfl⟩

theorem rotateControllerAuthorization_ok {r : Keys.KeyLifecycleRegistry} {predecessorId : String}
    {successor : Keys.ControllerAuthorizationRecord} {suspended : Keys.Suspended}
    (h : r.rotateControllerAuthorization predecessorId successor = .ok suspended) :
    ∃ predecessor, suspended = .rotateControllerAuthorization predecessor successor := by
  simp only [Keys.KeyLifecycleRegistry.rotateControllerAuthorization, bind_eq_ok, pure_eq_ok] at h
  obtain ⟨⟨ref, record⟩, -, -, -, -, -, -, -, -, -, rfl⟩ := h
  exact ⟨ref, rfl⟩

/-- A phase in which no registry is awaited. -/
theorem Awaits.of_not_verifying (hphase : ∀ suspended envelope context, phase ≠ .verifying suspended envelope context)
    (hheld : ∀ ref, operation.ref = some ref → ∃ record, service.byBundle.deref ref = some record) :
    Awaits service operation phase := by
  refine ⟨?_, ?_, hheld⟩
  · intro input ref suspended envelope context _ h
    exact absurd h (hphase suspended envelope context)
  · intro input ref suspended envelope context _ h
    exact absurd h (hphase suspended envelope context)

theorem not_verifying_of_outside (h : phase.outside) (suspended : Keys.Suspended) (envelope : Bytes)
    (context : DekWrapContext) : phase ≠ .verifying suspended envelope context := by
  rintro rfl
  cases h

/-- A continuation keeps every record. -/
theorem Continued.keeps (h : Continued F config service operation phase result service' phase') : Keeps service service' := by
  cases h with
  | waits => exact .of_eq rfl
  | fails => exact .of_eq rfl
  | prepares input fingerprint idempotencyHash phase stored registry staged => exact .insert rfl
  | replicates input ref record replicaObjectId held critical => exact .mutate rfl fun _ => ⟨rfl, id⟩
  | finalizes input ref phase result record registry held last activated => exact .mutate rfl fun _ => ⟨rfl, fun _ => rfl⟩
  | rotationUnwraps input ref record held => exact .of_eq rfl
  | rotationWraps input ref context envelope commitment suspended checked => exact .of_eq rfl
  | rotationVerified input ref suspended envelope context answer registry resumed => exact .of_eq rfl
  | rotates input ref envelope context result => exact .mutate rfl fun _ => ⟨rfl, id⟩
  | grantUnwraps input ref record held => exact .of_eq rfl
  | grants input ref context envelope commitment registry next prepared activating => exact .of_eq rfl
  | grantVerified input ref suspended envelope context answer registry resumed => exact .of_eq rfl
  | retrieves input ref phase => exact .of_eq rfl
  | promotes bundleId ref => exact .mutate rfl fun _ => ⟨rfl, id⟩

theorem Awaits.mono (h : Awaits service operation phase) (hkeeps : Keeps service service') :
    Awaits service' operation phase := by
  refine ⟨h.activation, h.successor, fun ref href => ?_⟩
  obtain ⟨record, hrecord⟩ := h.held ref href
  obtain ⟨record', hrecord', -⟩ := hkeeps ref record hrecord
  exact ⟨record', hrecord'⟩

theorem Awaits.continued (h : Awaits service operation phase)
    (hnext : Continued F config service operation phase result service' phase') : Awaits service' operation phase' := by
  have hafter := h.mono hnext.keeps
  cases hnext with
  | waits => exact hafter
  | rotationWraps input ref context envelope commitment suspended checked =>
    obtain ⟨predecessor, rfl⟩ := rotateControllerAuthorization_ok checked
    refine ⟨by rintro _ _ _ _ _ ⟨⟩, ?_, hafter.held⟩
    rintro _ _ _ _ _ ⟨⟩ ⟨⟩
    exact ⟨predecessor, rfl⟩
  | grants input ref context envelope commitment registry next prepared activating =>
    cases activating with
    | refused => exact .of_not_verifying nofun hafter.held
    | awaits suspended checked =>
      obtain ⟨grant, rfl⟩ := activateGrant_ok checked
      refine ⟨?_, by rintro _ _ _ _ _ ⟨⟩, hafter.held⟩
      rintro _ _ _ _ _ ⟨⟩ ⟨⟩
      exact ⟨grant, rfl⟩
  | _ => exact .of_not_verifying nofun hafter.held

/-- A call that has just begun holds the record of its bundle. -/
theorem Awaits.begins {S : System} {event : Event} {call : Call} (h : Begins F configs S event call) :
    Awaits (S.services call.service) call.operation call.phase := by
  cases h with
  | prepare i input phase first =>
    refine .of_not_verifying ?_ nofun
    rintro suspended envelope context rfl
    obtain h | h | h := first
    all_goals cases h
  | finalize i input ref request nonces phase outside checked =>
    obtain ⟨record, hrecord, -⟩ := checkFinalize_eq_ok.mp checked
    refine .of_not_verifying (not_verifying_of_outside outside) ?_
    rintro _ ⟨⟩
    exact ⟨record, (record_eq_ok.mp hrecord).2⟩
  | rotate i input ref scope request nonces phase outside checked =>
    simp only [checkRotate, bind_eq_ok, pure_eq_ok, Prod.mk.injEq, Prod.exists] at checked
    obtain ⟨ref', record, hrecord, -, -, -, -, -, -, rfl, -⟩ := checked
    refine .of_not_verifying (not_verifying_of_outside outside) ?_
    rintro _ ⟨⟩
    exact ⟨record, (record_eq_ok.mp hrecord).2⟩
  | grant i input ref scope request nonces phase outside checked =>
    simp only [checkGrant, bind_eq_ok, pure_eq_ok, Prod.mk.injEq, Prod.exists] at checked
    obtain ⟨ref', record, hrecord, -, -, -, -, -, -, rfl, -⟩ := checked
    refine .of_not_verifying (not_verifying_of_outside outside) ?_
    rintro _ ⟨⟩
    exact ⟨record, (record_eq_ok.mp hrecord).2⟩
  | retrieve i input ref request nonces phase outside checked =>
    simp only [checkRetrieve, bind_eq_ok, pure_eq_ok, Prod.mk.injEq, Prod.exists] at checked
    obtain ⟨ref', record, hrecord, -, -, -, -, -, -, rfl, -⟩ := checked
    refine .of_not_verifying (not_verifying_of_outside outside) ?_
    rintro _ ⟨⟩
    exact ⟨record, (record_eq_ok.mp hrecord).2⟩

theorem keeps_assignReplica (service : BundleService) (ref : Ref) (replicaObjectId : String) :
    Keeps service (service.assignReplica ref replicaObjectId) :=
  .mutate rfl fun _ => ⟨rfl, id⟩

/-- The rule for an invariant of the services alone. Its continuations may use
what their calls await. -/
theorem awaits_rule {C : System → Event → Prop} {I : BundleService → Prop}
    (hnonces : ∀ service stores, I service → I (service.setNonces stores))
    (hreplica : ∀ service ref replicaObjectId, I service → I (service.assignReplica ref replicaObjectId))
    (hnext : ∀ S c call result service' phase', C S (.resume c result) → S.calls[c]? = some call →
      I (S.services call.service) → Awaits (S.services call.service) call.operation call.phase →
      Continued F (configs call.service) (S.services call.service) call.operation call.phase result service' phase' →
      I service')
    (hregistry : ∀ S i event, C S (.keyLifecycle i event) → I (S.services i) →
      I { S.services i with keyLifecycle := (S.services i).keyLifecycle.step event }) :
    Rule F configs C I Awaits Keeps where
  refl _ := .of_eq rfl
  mono _ _ _ _ hkeeps h := h.mono hkeeps
  nonces service stores h := ⟨hnonces service stores h, .of_eq rfl⟩
  begins _ _ _ _ hbegins _ := .begins hbegins
  outside _ _ _ _ hphase h := .of_not_verifying (not_verifying_of_outside hphase) h.held
  promotes S i _ replicaObjectId ref record _ hrecord _ _ h := by
    have hkeeps := keeps_assignReplica (S.services i) ref replicaObjectId
    refine ⟨hreplica _ ref replicaObjectId h, hkeeps, .of_not_verifying nofun ?_⟩
    rintro _ ⟨⟩
    obtain ⟨record', hrecord', -⟩ := hkeeps ref record (record_eq_ok.mp hrecord).2
    exact ⟨record', hrecord'⟩
  goesOn S c call result hC hcall _ h hawaits := by
    have hcontinued : Continued F (configs call.service) (S.services call.service) call.operation call.phase result
        (call.next F configs S result).1 (call.next F configs S result).2 := continued_call call.operation
    exact ⟨hnext S c call result _ _ hC hcall h hawaits hcontinued, hcontinued.keeps, hawaits.continued hcontinued⟩
  registry S i event hC h := ⟨hregistry S i event hC h, .of_eq rfl⟩

theorem awaiting_rule : Rule F configs (fun _ _ => True) (fun _ => True) Awaits Keeps :=
  awaits_rule (fun _ _ h => h) (fun _ _ _ h => h) (fun _ _ _ _ _ _ _ _ h _ _ => h) fun _ _ _ _ h => h

theorem awaiting_step {S : System} (h : S.Awaiting) (event : Event) : (step F configs S event).Awaiting :=
  (awaiting_rule.step trivial ⟨fun _ => trivial, h⟩).1.calls

end

end Evidence
end Evllm
