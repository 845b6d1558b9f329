/-
# The replica of a decision-critical bundle

`replicateExact` of `src/protected-bundles/repository/object-operations.ts`
reads the object from the primary store, puts it into the replica store and
reads it back; each of the five store operations is awaited and may be rejected.
A timeout rejects the call that awaits the replication, which itself goes on.
`World` is the system of services with the stores and the replications that
were started; other clients put objects, and nothing deletes them.

`finalize` and `promoteToDecisionCritical` write the id of the replica to the
record before they await its replication, and look at the record again when it
has completed. Where no replication is started for a bundle that is finalized
and critical, and a call that completes finds that the last replication of its
record has completed, every critical finalized bundle has a verified replica
(`critical_bundle_has_replica`).

Key definitions: `Replication`, `World`, `World.step`, `VerifiedReplica`, `Orderly`.
Key theorems: `step_started`, `step_record`, `WorldInv.step`, `replicated_step`,
`critical_bundle_has_replica`.
-/
import Evllm.Evidence.Finality

namespace Evllm
namespace Evidence

open Lib Contracts

/-! ### Object stores -/

/-- The bytes of the objects of a store, by their ids. -/
abbrev ObjectStore := JsMap String Bytes

inductive PutStatus where
  | created
  | alreadyExists
  deriving DecidableEq, Repr

/-- The codes of `RepositoryStorageError`, and an error of the store itself. -/
inductive StorageError where
  | conflict
  | integrityMismatch
  | unavailable
  | store
  deriving DecidableEq, Repr

structure ExpectedObject where
  digest : Bytes32
  length : ℕ
  deriving DecidableEq, Repr

def putIfAbsent (store : ObjectStore) (objectId : String) (bytes : Bytes) : ObjectStore × PutStatus :=
  if store.has objectId then (store, .alreadyExists) else (store.set objectId bytes, .created)

/-- `readVerified` up to the bytes: what it asks of the head. -/
def verifyHead (store : ObjectStore) (objectId : String) (expected : ExpectedObject) : Except StorageError Unit :=
  match store.get objectId with
  | none => .error .unavailable
  | some bytes => throwIf (bytes.length ≠ expected.length) .integrityMismatch

/-- The rest of `readVerified`. An object that is not there has no bytes. -/
def verifyBytes (F : Externals) (store : ObjectStore) (objectId : String) (expected : ExpectedObject) :
    Except StorageError Bytes := do
  let bytes := (store.get objectId).getD []
  throwIf (bytes.length ≠ expected.length ∨ F.sha256 bytes ≠ expected.digest) .integrityMismatch
  return bytes

/-! ### Replications -/

/-- What `replicate` awaits. -/
inductive ReplicationPhase where
  | sourceHead
  | sourceGet
  | putting (bytes : Bytes)
  | replicaHead (status : PutStatus)
  | replicaGet (status : PutStatus)
  | completed (status : PutStatus)
  | failed (error : StorageError)

/-- A `replicateExact` of the record `ref` of a service, awaited by a call. -/
structure Replication where
  call : ℕ
  service : ℕ
  ref : Ref
  sourceObjectId : String
  replicaObjectId : String
  expected : ExpectedObject
  phase : ReplicationPhase

def ReplicationPhase.isCompleted : ReplicationPhase → Bool
  | .completed _ => true
  | _ => false

/-- The `catch` clause of `replicate`. -/
def replicaError (status : PutStatus) (error : StorageError) : StorageError :=
  match status with
  | .alreadyExists => .conflict
  | .created => error

/-- The store has answered: the phase that follows and the replica store. -/
def Replication.answered (F : Externals) (source replica : ObjectStore) (r : Replication) : ReplicationPhase × ObjectStore :=
  match r.phase with
  | .sourceHead =>
    match verifyHead source r.sourceObjectId r.expected with
    | .error e => (.failed e, replica)
    | .ok _ => (.sourceGet, replica)
  | .sourceGet =>
    match verifyBytes F source r.sourceObjectId r.expected with
    | .error e => (.failed e, replica)
    | .ok bytes => (.putting bytes, replica)
  | .putting bytes => (.replicaHead (putIfAbsent replica r.replicaObjectId bytes).2, (putIfAbsent replica r.replicaObjectId bytes).1)
  | .replicaHead status =>
    match verifyHead replica r.replicaObjectId r.expected with
    | .error e => (.failed (replicaError status e), replica)
    | .ok _ => (.replicaGet status, replica)
  | .replicaGet status =>
    match verifyBytes F replica r.replicaObjectId r.expected with
    | .error e => (.failed (replicaError status e), replica)
    | .ok _ => (.completed status, replica)
  | .completed status => (.completed status, replica)
  | .failed e => (.failed e, replica)

/-- The store has rejected what the replication awaits. -/
def Replication.rejected (r : Replication) : ReplicationPhase :=
  match r.phase with
  | .replicaHead status | .replicaGet status => .failed (replicaError status .store)
  | .completed status => .completed status
  | .failed e => .failed e
  | _ => .failed .store

/-! ### Services and stores -/

structure World where
  system : System
  stores : ℕ → ObjectStore
  replications : List Replication

inductive WorldEvent where
  | service (event : Event)
  /-- The store that the replication at `index` awaits has answered or rejected. -/
  | replication (index : ℕ) (answers : Bool)
  /-- Another client puts an object. -/
  | put (store : ℕ) (objectId : String) (bytes : Bytes)

/-- The replication that a call starts for a record. -/
def replicationOf (c i : ℕ) (ref : Ref) (record : PreparedInternal) (replicaObjectId : String) : Replication where
  call := c
  service := i
  ref := ref
  sourceObjectId := record.finalObjectId
  replicaObjectId := replicaObjectId
  expected := ⟨record.contentEnvelopeDigest, record.storedEnvelopeLength⟩
  phase := .sourceHead

/-- The replication that a `finalize` starts once the staged object is promoted. -/
def Call.starts (c : ℕ) (service : BundleService) (call : Call) : AwaitResult → Option Replication
  | .promoted replicaObjectId =>
    match call.operation, call.phase with
    | .finalize _ ref, .working =>
      match service.byBundle.deref ref with
      | none => none
      | some record => if record.critical then some (replicationOf c call.service ref record replicaObjectId) else none
    | _, _ => none
  | _ => none

/-- The replication that a step of the services starts. -/
def started (S : System) : Event → Option Replication
  | .promoteToDecisionCritical i bundleId replicaObjectId =>
    match (S.services i).record bundleId with
    | .error _ => none
    | .ok (ref, record) =>
      if ¬record.finalized ∨ record.critical then none
      else some (replicationOf S.calls.length i ref record replicaObjectId)
  | .resume c result => (S.calls[c]?).bind fun call => call.starts c (S.services call.service) result
  | _ => none

namespace World

/-- A replication that the call awaits has completed. -/
def replicated (W : World) (c : ℕ) : Bool := W.replications.any fun r => r.call = c ∧ r.phase.isCompleted

/-- A call that awaits a replication goes on only when it has completed; a
failure or a timeout may end it at any time. -/
def blocked (W : World) : Event → Bool
  | .resume c .done =>
    match W.system.calls[c]? with
    | some ⟨_, _, _, _, .replicating⟩ => !W.replicated c
    | _ => false
  | _ => false

def setReplication (W : World) (index : ℕ) (r : Replication) (phase : ReplicationPhase) : World :=
  { W with replications := W.replications.set index { r with phase } }

end World

section

variable (F : Externals) (configs : ℕ → Config) (primaryStore replicaStore : ℕ → ℕ)

/-- A store operation of a replication. -/
def World.replicate (W : World) (index : ℕ) (answers : Bool) : World :=
  match W.replications[index]? with
  | none => W
  | some r =>
    if answers then
      let next := r.answered F (W.stores (primaryStore r.service)) (W.stores (replicaStore r.service))
      { W with stores := Function.update W.stores (replicaStore r.service) next.2 }.setReplication index r next.1
    else W.setReplication index r r.rejected

def World.step (W : World) : WorldEvent → World
  | .service event =>
    if W.blocked event then W
    else
      { W with
        system := Evidence.step F configs W.system event
        replications := W.replications ++ (started W.system event).toList }
  | .replication index answers => W.replicate F primaryStore replicaStore index answers
  | .put store objectId bytes =>
    { W with stores := Function.update W.stores store (putIfAbsent (W.stores store) objectId bytes).1 }

/-- The services are new, and the stores hold what they hold. -/
def World.new (repository : Repository) (stores : ℕ → ObjectStore) : World := ⟨newSystem repository, stores, []⟩

/-- The world after the events `es`. -/
def World.after (repository : Repository) (stores : ℕ → ObjectStore) (es : List WorldEvent) : World :=
  run (World.step F configs primaryStore replicaStore) (.new repository stores) es

/-- The record names an object of the replica store that a completed replication
of it has verified. -/
def VerifiedReplica (W : World) (i : ℕ) (ref : Ref) (record : PreparedInternal) : Prop :=
  ∃ r ∈ W.replications, r.phase.isCompleted ∧ r.service = i ∧ r.ref = ref ∧
    record.replicaObjectId = some r.replicaObjectId ∧
    ∃ bytes, (W.stores (replicaStore i)).get r.replicaObjectId = some bytes ∧
      F.sha256 bytes = record.contentEnvelopeDigest ∧ bytes.length = record.storedEnvelopeLength

end

/-- The replication is one of the record. -/
def Replication.Of (i : ℕ) (ref : Ref) (r : Replication) : Prop := r.service = i ∧ r.ref = ref

/-- The last replication of the record that was started has completed. -/
def World.LastCompleted (W : World) (i : ℕ) (ref : Ref) : Prop :=
  ∀ k r, LastWith (Replication.Of i ref) W.replications k r → r.phase.isCompleted

/-- With this step a call whose replication has completed finalizes its record,
or marks it as critical. -/
def Completes (S : System) (i : ℕ) (ref : Ref) : Event → Prop
  | .resume c .done => ∃ call, S.calls[c]? = some call ∧ call.service = i ∧ call.phase = .replicating ∧
    ((∃ bundleId, call.operation = .promote bundleId ref) ∨
      ∃ input record, call.operation = .finalize input ref ∧ (S.services i).byBundle.deref ref = some record ∧
        (S.services i).activates record)
  | _ => False

/-- No replication is started for a record that is finalized and critical, and a
call completes when the last replication of its record has. -/
def Orderly (W : World) : WorldEvent → Prop
  | .service event =>
    (∀ r record, started W.system event = some r → (W.system.services r.service).byBundle.deref r.ref = some record →
      ¬(record.finalized ∧ record.critical)) ∧
    (W.blocked event = false → ∀ i ref, Completes W.system i ref event → W.LastCompleted i ref)
  | _ => True

/-! ### What a step does to a record -/

section

variable {F : Externals} {configs : ℕ → Config} {S : System} {event : Event} {i : ℕ} {ref : Ref}

theorem starts_eq_some {c : ℕ} {service : BundleService} {call : Call} {result : AwaitResult} {r : Replication}
    (h : call.starts c service result = some r) :
    ∃ input ref record replicaObjectId, call.operation = .finalize input ref ∧ call.phase = .working ∧
      result = .promoted replicaObjectId ∧ service.byBundle.deref ref = some record ∧ record.critical = true ∧
      r = replicationOf c call.service ref record replicaObjectId := by
  unfold Call.starts at h
  split at h
  next replicaObjectId =>
    split at h
    next input ref hoperation hphase =>
      split at h
      · cases h
      next record hrecord =>
        split_ifs at h with hcritical
        exact ⟨input, ref, record, replicaObjectId, hoperation, hphase, rfl, hrecord, hcritical, (Option.some.inj h).symm⟩
    · cases h
  · cases h

/-- What is started, and where. -/
structure Starts (F : Externals) (configs : ℕ → Config) (S : System) (event : Event) (r : Replication)
    (record : PreparedInternal) : Prop where
  held : (S.services r.service).byBundle.deref r.ref = some record
  fresh : r = replicationOf r.call r.service r.ref record r.replicaObjectId
  services : (step F configs S event).services =
    Function.update S.services r.service ((S.services r.service).assignReplica r.ref r.replicaObjectId)
  called : ∃ call, (step F configs S event).calls[r.call]? = some call ∧ call.service = r.service ∧
    call.operation.ref = some r.ref

/-- **A step that starts a replication** writes its id to the record and nothing
else. -/
theorem step_started {r : Replication} (h : started S event = some r) : ∃ record, Starts F configs S event r record := by
  cases event with
  | promoteToDecisionCritical i bundleId replicaObjectId =>
    simp only [started] at h
    split at h
    · cases h
    next ref record hrecord =>
      split_ifs at h with hstate
      obtain rfl := Option.some.inj h
      have hstep : step F configs S (.promoteToDecisionCritical i bundleId replicaObjectId) =
          (S.setService i ((S.services i).assignReplica ref replicaObjectId)).addCall
            ⟨i, .promote bundleId ref, [], none, .replicating⟩ := by
        simp only [step, startPromote, hrecord, if_neg hstate]
        rfl
      refine ⟨record, (record_eq_ok.mp hrecord).2, rfl, by rw [hstep]; rfl, ?_⟩
      rw [hstep]
      exact ⟨_, getElem?_concat_eq_some.mpr (.inr ⟨rfl, rfl⟩), rfl, rfl⟩
  | resume c result =>
    obtain ⟨call, hcall, hstarts⟩ := Option.bind_eq_some_iff.mp h
    obtain ⟨input, ref, record, replicaObjectId, hoperation, hphase, rfl, hrecord, hcritical, rfl⟩ :=
      starts_eq_some hstarts
    obtain ⟨i, operation, nonces, request, phase⟩ := call
    dsimp only at hoperation hphase hrecord
    subst hoperation hphase
    have hstep : step F configs S (.resume c (.promoted replicaObjectId)) =
        (S.setService i ((S.services i).assignReplica ref replicaObjectId)).setPhase c
          ⟨i, .finalize input ref, nonces, request, .working⟩ .replicating := by
      simp only [step, hcall, resumeCall, continueCall, continueFinalize, finalizePromoted, hrecord, Option.any_some,
        hcritical, if_true]
      rfl
    refine ⟨record, hrecord, rfl, by rw [hstep]; rfl, ?_⟩
    rw [hstep]
    exact ⟨_, (getElem?_set_eq_some hcall).mpr (.inl ⟨rfl, rfl⟩), rfl, rfl⟩
  | _ => cases h

/-- A step that starts no replication of the record leaves its replica, and
leaves it as it is unless its call finalizes it or marks it as critical. -/
inductive RecordStep (S : System) (event : Event) (i : ℕ) (ref : Ref) : PreparedInternal → Prop where
  | kept (record record' : PreparedInternal) (held : (S.services i).byBundle.deref ref = some record)
      (replica : record'.replicaObjectId = record.replicaObjectId) (finalized : record'.finalized = record.finalized)
      (critical : record'.critical = record.critical) : RecordStep S event i ref record'
  | prepared (record' : PreparedInternal) (new : (S.services i).byBundle.deref ref = none)
      (finalized : record'.finalized = false) : RecordStep S event i ref record'
  | finalizes (record : PreparedInternal) (c : ℕ) (call : Call) (input : FinalizeInput) (result : AwaitResult)
      (held : (S.services i).byBundle.deref ref = some record) (resumes : event = .resume c result)
      (called : S.calls[c]? = some call) (service : call.service = i) (operation : call.operation = .finalize input ref)
      (last : LastAwait record call.phase result) (activates : (S.services i).activates record) :
      RecordStep S event i ref { record with finalized := true }
  | promotes (record : PreparedInternal) (c : ℕ) (call : Call) (bundleId : String)
      (held : (S.services i).byBundle.deref ref = some record) (resumes : event = .resume c .done)
      (called : S.calls[c]? = some call) (service : call.service = i) (operation : call.operation = .promote bundleId ref)
      (phase : call.phase = .replicating) : RecordStep S event i ref { record with critical := true }

theorem RecordStep.same {record : PreparedInternal} (h : (S.services i).byBundle.deref ref = some record) :
    RecordStep S event i ref record :=
  .kept record record h rfl rfl rfl

/-- A write that keeps the replica and both flags. -/
theorem RecordStep.mutated {record' : PreparedInternal} {held : Ref} {f : PreparedInternal → PreparedInternal}
    (hf : ∀ record, (f record).replicaObjectId = record.replicaObjectId ∧ (f record).finalized = record.finalized ∧
      (f record).critical = record.critical)
    (h : ((S.services i).byBundle.mutate held f).deref ref = some record') : RecordStep S event i ref record' := by
  rw [ObjectMap.deref_mutate] at h
  split_ifs at h with href
  · obtain ⟨record, hrecord, rfl⟩ := Option.map_eq_some_iff.mp h
    exact .kept record _ hrecord (hf record).1 (hf record).2.1 (hf record).2.2
  · exact .same h

/-- What a continuation does to the records of its service, if it starts no
replication. -/
theorem recordStep_continued {c : ℕ} {call : Call} {result : AwaitResult} {service' : BundleService} {phase' : Phase}
    {record' : PreparedInternal} (hcall : S.calls[c]? = some call)
    (hnone : call.starts c (S.services call.service) result = none)
    (hnext : Continued F (configs call.service) (S.services call.service) call.operation call.phase result service' phase')
    (h : service'.byBundle.deref ref = some record') : RecordStep S (.resume c result) call.service ref record' := by
  obtain ⟨i, operation, nonces, request, phase⟩ := call
  dsimp only at hnext hnone ⊢
  cases hnext with
  | waits => exact .same h
  | fails => exact .same h
  | prepares input fingerprint idempotencyHash phase stored registry staged =>
    dsimp only at h
    rw [ObjectMap.deref_insert] at h
    split_ifs at h with hnew
    · obtain rfl := Option.some.inj h
      refine .prepared _ ?_ rfl
      rw [hnew]
      exact List.getElem?_eq_none (Nat.le_refl _)
    · exact .same h
  | replicates input held record replicaObjectId hheld critical => simp [Call.starts, hheld, critical] at hnone
  | finalizes input held phase result record registry hheld last activated =>
    dsimp only at h
    rw [ObjectMap.deref_mutate] at h
    split_ifs at h with href
    · subst href
      rw [hheld] at h
      obtain rfl := Option.some.inj h
      refine .finalizes record c _ input result hheld rfl hcall rfl rfl last ?_
      unfold BundleService.activates
      rw [activated]
      rfl
    · exact .same h
  | rotationUnwraps input held record hheld => exact .same h
  | rotationWraps input held context envelope commitment suspended checked => exact .same h
  | rotationVerified input held suspended envelope context answer registry resumed => exact .same h
  | rotates input held envelope context result =>
    exact .mutated (f := input.write F envelope context) (fun _ => ⟨rfl, rfl, rfl⟩) h
  | grantUnwraps input held record hheld => exact .same h
  | grants input held context envelope commitment registry next prepared activating => exact .same h
  | grantVerified input held suspended envelope context answer registry resumed => exact .same h
  | retrieves input held phase => exact .same h
  | promotes bundleId held =>
    simp only [BundleService.mutateRecord] at h
    rw [ObjectMap.deref_mutate] at h
    split_ifs at h with href
    · subst href
      obtain ⟨record, hrecord, rfl⟩ := Option.map_eq_some_iff.mp h
      exact .promotes record c _ bundleId hrecord rfl hcall rfl rfl rfl
    · exact .same h

/-- **What a step that starts no replication does to a record.** -/
theorem step_record {record' : PreparedInternal} (hnone : started S event = none)
    (h : ((step F configs S event).services i).byBundle.deref ref = some record') : RecordStep S event i ref record' := by
  have hsame : (∀ j, ((step F configs S event).services j).byBundle = (S.services j).byBundle) →
      RecordStep S event i ref record' := fun hrecords => .same (hrecords i ▸ h)
  have hstepped : Stepped F configs S event (step F configs S event) := step_cases event
  obtain hrecords | ⟨c, result, rfl⟩ | ⟨j, bundleId, replicaObjectId, rfl⟩ := hstepped.byBundle
  · exact hsame hrecords
  · generalize hS' : step F configs S (.resume c result) = S' at h
    have hstep : Stepped F configs S (.resume c result) S' := hS' ▸ step_cases _
    cases hstep with
    | idle event repository quiet => exact .same h
    | begins event call repository stores begins => cases begins
    | rollsBack c call result called rejected =>
      have hrecords : ((rollbackProofs S c call).services i).byBundle = (S.services i).byBundle := by
        simp only [rollbackProofs, System.setService]
        refine view_update BundleService.byBundle ?_ i
        rfl
      exact .same (hrecords ▸ h)
    | goesOn c call result called goesOn =>
      have hstarts : call.starts c (S.services call.service) result = none := by
        simpa only [started, called, Option.bind_some] using hnone
      have hnext : Continued F (configs call.service) (S.services call.service) call.operation call.phase result
          (call.next F configs S result).1 (call.next F configs S result).2 := continued_call call.operation
      by_cases hi : i = call.service
      · subst hi
        simp only [System.setPhase, System.setService, Function.update_self] at h
        exact recordStep_continued called hstarts hnext h
      · simp only [System.setPhase, System.setService, Function.update_of_ne hi] at h
        exact .same h
  · simp only [started] at hnone
    refine hsame fun k => ?_
    simp only [step, startPromote]
    split at hnone
    next herror => simp only [herror]
    next ref record hrecord =>
      split_ifs at hnone with hstate
      simp only [hrecord, if_pos hstate]

/-- A record after a replication was started: the one it is for names it, and
the others are as they were. -/
theorem Starts.record {r : Replication} {held record' : PreparedInternal} (hstarts : Starts F configs S event r held)
    (h : ((step F configs S event).services i).byBundle.deref ref = some record') :
    (r.Of i ref ∧ record' = { held with replicaObjectId := some r.replicaObjectId }) ∨
      (¬r.Of i ref ∧ (S.services i).byBundle.deref ref = some record') := by
  rw [hstarts.services] at h
  by_cases hi : i = r.service
  · subst hi
    simp only [Function.update_self, BundleService.assignReplica, BundleService.mutateRecord] at h
    rw [ObjectMap.deref_mutate] at h
    split_ifs at h with href
    · subst href
      rw [hstarts.held] at h
      exact .inl ⟨⟨rfl, rfl⟩, (Option.some.inj h).symm⟩
    · exact .inr ⟨fun hof => href hof.2, h⟩
  · rw [Function.update_of_ne hi] at h
    exact .inr ⟨fun hof => hi hof.1.symm, h⟩

end

/-! ### Stores only grow -/

section

variable {F : Externals} {store store' source replica : ObjectStore} {r : Replication}

/-- Every object is still there. -/
def Grows (store store' : ObjectStore) : Prop := ∀ id bytes, store.get id = some bytes → store'.get id = some bytes

theorem Grows.refl : Grows store store := fun _ _ h => h

theorem grows_putIfAbsent (store : ObjectStore) (objectId : String) (bytes : Bytes) :
    Grows store (putIfAbsent store objectId bytes).1 := by
  intro id old hold
  unfold putIfAbsent
  split_ifs with hhas
  · exact hold
  · have hne : objectId ≠ id := by
      rintro rfl
      have hnone := (JsMap.has_eq_false_iff store objectId).mp (by simpa using hhas)
      rw [hnone] at hold
      cases hold
    rw [JsMap.get_set_ne _ _ hne, hold]

/-- What a replication knows of the object in the replica store. -/
def Replication.Verified (F : Externals) (store : ObjectStore) (r : Replication) : Prop :=
  match r.phase with
  | .replicaGet _ => ∃ bytes, store.get r.replicaObjectId = some bytes
  | .completed _ => ∃ bytes, store.get r.replicaObjectId = some bytes ∧ F.sha256 bytes = r.expected.digest ∧
      bytes.length = r.expected.length
  | _ => True

theorem Replication.Verified.mono (h : r.Verified F store) (hgrows : Grows store store') : r.Verified F store' := by
  unfold Replication.Verified at h ⊢
  split
  next hphase =>
    rw [hphase] at h
    obtain ⟨bytes, hget⟩ := h
    exact ⟨bytes, hgrows _ _ hget⟩
  next hphase =>
    rw [hphase] at h
    obtain ⟨bytes, hget, hverified⟩ := h
    exact ⟨bytes, hgrows _ _ hget, hverified⟩
  · trivial

theorem verifyHead_ok {objectId : String} {expected : ExpectedObject} {u : Unit}
    (h : verifyHead store objectId expected = .ok u) : ∃ bytes, store.get objectId = some bytes := by
  unfold verifyHead at h
  split at h
  · cases h
  next bytes hget => exact ⟨bytes, hget⟩

theorem verifyBytes_ok {objectId : String} {expected : ExpectedObject} {bytes : Bytes}
    (h : verifyBytes F store objectId expected = .ok bytes) :
    bytes = (store.get objectId).getD [] ∧ bytes.length = expected.length ∧ F.sha256 bytes = expected.digest := by
  simp only [verifyBytes, bind_eq_ok, throwIf_eq_ok, pure_eq_ok, not_or, not_not] at h
  obtain ⟨-, ⟨hlength, hdigest⟩, rfl⟩ := h
  exact ⟨rfl, hlength, hdigest⟩

/-- Only a put changes the replica store. -/
theorem grows_answered (F : Externals) (source replica : ObjectStore) (r : Replication) :
    Grows replica (r.answered F source replica).2 := by
  unfold Replication.answered
  split
  · split
    · exact .refl
    · exact .refl
  · split
    · exact .refl
    · exact .refl
  · exact grows_putIfAbsent replica r.replicaObjectId _
  · split
    · exact .refl
    · exact .refl
  · split
    · exact .refl
    · exact .refl
  · exact .refl
  · exact .refl

/-- **A store operation that is answered** keeps what the replication knows. -/
theorem verified_answered (h : r.Verified F replica) :
    ({ r with phase := (r.answered F source replica).1 } : Replication).Verified F (r.answered F source replica).2 := by
  obtain ⟨call, service, ref, sourceObjectId, replicaObjectId, expected, phase⟩ := r
  cases phase with
  | sourceHead =>
    simp only [Replication.answered]
    split
    · trivial
    · trivial
  | sourceGet =>
    simp only [Replication.answered]
    split
    · trivial
    · trivial
  | putting bytes => trivial
  | replicaHead status =>
    simp only [Replication.answered]
    split
    · trivial
    next hhead => exact verifyHead_ok hhead
  | replicaGet status =>
    simp only [Replication.answered]
    split
    · trivial
    next bytes hbytes =>
      -- the object was there when its head was read
      obtain ⟨stored, hstored⟩ : ∃ stored, replica.get replicaObjectId = some stored := h
      obtain ⟨rfl, hlength, hdigest⟩ := verifyBytes_ok hbytes
      rw [hstored, Option.getD_some] at hlength hdigest
      exact ⟨stored, hstored, hdigest, hlength⟩
  | completed status => exact h
  | failed e => trivial

theorem verified_rejected (h : r.Verified F replica) :
    ({ r with phase := r.rejected } : Replication).Verified F replica := by
  obtain ⟨call, service, ref, sourceObjectId, replicaObjectId, expected, phase⟩ := r
  cases phase with
  | completed status => exact h
  | _ => trivial

/-- A completed replication stays completed. -/
theorem isCompleted_answered (h : r.phase.isCompleted) : (r.answered F source replica).1.isCompleted := by
  obtain ⟨call, service, ref, sourceObjectId, replicaObjectId, expected, phase⟩ := r
  cases phase with
  | completed status => rfl
  | _ => cases h

theorem isCompleted_rejected (h : r.phase.isCompleted) : r.rejected.isCompleted := by
  obtain ⟨call, service, ref, sourceObjectId, replicaObjectId, expected, phase⟩ := r
  cases phase with
  | completed status => rfl
  | _ => cases h

end

/-! ### Steps of the world -/

section

variable (F : Externals) (configs : ℕ → Config) (replicaStore : ℕ → ℕ) (W : World)

inductive WorldStep : WorldEvent → World → Prop where
  | blocked (event : Event) : WorldStep (.service event) W
  | quiet (event : Event) (free : W.blocked event = false) (none : started W.system event = none) :
      WorldStep (.service event) { W with system := step F configs W.system event }
  | starts (event : Event) (r : Replication) (record : PreparedInternal) (some : started W.system event = some r)
      (starts : Starts F configs W.system event r record) :
      WorldStep (.service event)
        { W with system := step F configs W.system event, replications := W.replications ++ [r] }
  | replicates (index : ℕ) (answers : Bool) (r : Replication) (stores : ℕ → ObjectStore) (phase : ReplicationPhase)
      (found : W.replications[index]? = some r) (grows : ∀ j, Grows (W.stores j) (stores j))
      (verified : r.Verified F (W.stores (replicaStore r.service)) →
        ({ r with phase } : Replication).Verified F (stores (replicaStore r.service)))
      (completed : r.phase.isCompleted → phase.isCompleted) :
      WorldStep (.replication index answers) ({ W with stores }.setReplication index r phase)
  | stores (event : WorldEvent) (stores : ℕ → ObjectStore) (grows : ∀ j, Grows (W.stores j) (stores j)) :
      WorldStep event { W with stores }

end

section

variable {F : Externals} {configs : ℕ → Config} {primaryStore replicaStore : ℕ → ℕ} {W : World}

theorem grows_update {stores : ℕ → ObjectStore} {i : ℕ} {store : ObjectStore} (h : Grows (stores i) store) (j : ℕ) :
    Grows (stores j) (Function.update stores i store j) := by
  by_cases hj : j = i
  · rw [hj, Function.update_self]
    exact h
  · rw [Function.update_of_ne hj]
    exact .refl

/-- **What a step of the world is.** -/
theorem worldStep_cases (event : WorldEvent) :
    WorldStep F configs replicaStore W event (W.step F configs primaryStore replicaStore event) := by
  cases event with
  | service event =>
    simp only [World.step]
    split_ifs with hblocked
    · exact .blocked event
    · have hfree : W.blocked event = false := by simpa using hblocked
      cases hstarted : started W.system event with
      | none =>
        rw [Option.toList_none, List.append_nil]
        exact .quiet event hfree hstarted
      | some r =>
        obtain ⟨record, hstarts⟩ := step_started hstarted
        exact .starts event r record hstarted hstarts
  | replication index answers =>
    simp only [World.step, World.replicate]
    split
    · exact .stores _ W.stores fun _ => .refl
    next r hr =>
      split_ifs with hanswers
      · refine .replicates index answers r _ _ hr (grows_update ?_) ?_ isCompleted_answered
        · exact grows_answered F _ _ r
        · intro hverified
          rw [Function.update_self]
          exact verified_answered hverified
      · exact .replicates index answers r W.stores _ hr (fun _ => .refl) verified_rejected isCompleted_rejected
  | put store objectId bytes => exact .stores _ _ (grows_update (grows_putIfAbsent _ objectId bytes))

end

/-! ### The invariant -/

/-- What holds in every run: a replication is one of a record that is there and
of the call that awaits it, and a record names its last replication. -/
structure WorldInv (F : Externals) (replicaStore : ℕ → ℕ) (W : World) : Prop where
  awaiting : W.system.Awaiting
  verified : ∀ r ∈ W.replications, r.Verified F (W.stores (replicaStore r.service))
  held : ∀ r ∈ W.replications, ∃ record, (W.system.services r.service).byBundle.deref r.ref = some record ∧
    r.expected = ⟨record.contentEnvelopeDigest, record.storedEnvelopeLength⟩
  called : ∀ r ∈ W.replications, ∃ call, W.system.calls[r.call]? = some call ∧ call.service = r.service ∧
    call.operation.ref = some r.ref
  assigned : ∀ i ref record k r, (W.system.services i).byBundle.deref ref = some record →
    LastWith (Replication.Of i ref) W.replications k r → record.replicaObjectId = some r.replicaObjectId

/-- The last replication of every finalized critical record has completed. -/
def Replicated (W : World) : Prop :=
  ∀ i ref record, (W.system.services i).byBundle.deref ref = some record → record.finalized → record.critical →
    ∃ k r, LastWith (Replication.Of i ref) W.replications k r ∧ r.phase.isCompleted

section

variable {F : Externals} {configs : ℕ → Config} {primaryStore replicaStore : ℕ → ℕ} {W W' : World} {i : ℕ} {ref : Ref}
variable {event : Event}

theorem mem_of_lastWith {p : Replication → Prop} {rs : List Replication} {k : ℕ} {r : Replication}
    (h : LastWith p rs k r) : r ∈ rs := List.mem_of_getElem? h.1

/-- A step of the services keeps the records and the calls of the replications. -/
theorem WorldInv.system (h : WorldInv F replicaStore W) (configs : ℕ → Config) (event : Event) :
    (step F configs W.system event).Awaiting ∧
      (∀ r ∈ W.replications, ∃ record, ((step F configs W.system event).services r.service).byBundle.deref r.ref =
        some record ∧ r.expected = ⟨record.contentEnvelopeDigest, record.storedEnvelopeLength⟩) ∧
      ∀ r ∈ W.replications, ∃ call, (step F configs W.system event).calls[r.call]? = some call ∧
        call.service = r.service ∧ call.operation.ref = some r.ref := by
  have hstep : Holds (fun _ => True) Awaits (step F configs W.system event) ∧
      ∀ i, Keeps (W.system.services i) ((step F configs W.system event).services i) :=
    awaiting_rule.step trivial ⟨fun _ => trivial, h.awaiting⟩
  have hstepped : Stepped F configs W.system event (step F configs W.system event) := step_cases event
  refine ⟨hstep.1.calls, fun r hr => ?_, fun r hr => ?_⟩
  · obtain ⟨record, hrecord, hexpected⟩ := h.held r hr
    obtain ⟨record', hrecord', hsame, -⟩ := hstep.2 r.service r.ref record hrecord
    exact ⟨record', hrecord', by rw [hexpected, hsame]⟩
  · obtain ⟨call, hcall, hservice, href⟩ := h.called r hr
    obtain ⟨call', hcall', hservice', hoperation⟩ := hstepped.call_stays hcall
    exact ⟨call', hcall', hservice'.trans hservice, by rw [hoperation, href]⟩

/-- A step that starts no replication keeps the ids of the replicas. -/
theorem WorldInv.quiet (h : WorldInv F replicaStore W) (hnone : started W.system event = none) :
    WorldInv F replicaStore { W with system := step F configs W.system event } := by
  obtain ⟨hawaiting, hheld, hcalled⟩ := h.system configs event
  refine ⟨hawaiting, h.verified, hheld, hcalled, fun i ref record' k r hrecord' hlast => ?_⟩
  cases step_record hnone hrecord' with
  | kept record record' held replica finalized critical =>
    rw [replica]
    exact h.assigned i ref record k r held hlast
  | prepared record' new finalized =>
    -- no replication is of a record that was not there
    obtain ⟨record, hrecord, -⟩ := h.held r (mem_of_lastWith hlast)
    rw [hlast.2.1.1, hlast.2.1.2, new] at hrecord
    cases hrecord
  | finalizes record c call input result held resumes called service operation last activates =>
    exact h.assigned i ref record k r held hlast
  | promotes record c call bundleId held resumes called service operation phase =>
    exact h.assigned i ref record k r held hlast

theorem WorldInv.starts {r : Replication} {record : PreparedInternal} (h : WorldInv F replicaStore W)
    (hstarts : Starts F configs W.system event r record) :
    WorldInv F replicaStore
      { W with system := step F configs W.system event, replications := W.replications ++ [r] } := by
  obtain ⟨hawaiting, hheld, hcalled⟩ := h.system configs event
  have hself : ((step F configs W.system event).services r.service).byBundle.deref r.ref =
      some { record with replicaObjectId := some r.replicaObjectId } := by
    rw [hstarts.services, Function.update_self, BundleService.assignReplica, BundleService.mutateRecord]
    dsimp only
    rw [ObjectMap.deref_mutate, if_pos rfl, hstarts.held, Option.map_some]
  refine ⟨hawaiting, ?_, ?_, ?_, ?_⟩
  · intro r' hr'
    obtain hold | hnew := List.mem_append.mp hr'
    · exact h.verified r' hold
    · rw [List.mem_singleton.mp hnew, hstarts.fresh]
      trivial
  · intro r' hr'
    obtain hold | hnew := List.mem_append.mp hr'
    · exact hheld r' hold
    · rw [List.mem_singleton.mp hnew]
      exact ⟨_, hself, by rw [hstarts.fresh]; rfl⟩
  · intro r' hr'
    obtain hold | hnew := List.mem_append.mp hr'
    · exact hcalled r' hold
    · rw [List.mem_singleton.mp hnew]
      exact hstarts.called
  · intro i ref record' k r' hrecord' hlast
    obtain ⟨hof, rfl⟩ | ⟨hnot, hold⟩ := hstarts.record hrecord'
    · rw [((lastWith_concat_self hof).mp hlast).2]
    · exact h.assigned i ref record' k r' hold ((lastWith_concat_of_not hnot).mp hlast)

theorem WorldInv.replicates {index : ℕ} {r : Replication} {stores : ℕ → ObjectStore} {phase : ReplicationPhase}
    (h : WorldInv F replicaStore W) (hr : W.replications[index]? = some r)
    (hgrows : ∀ j, Grows (W.stores j) (stores j))
    (hverified : r.Verified F (W.stores (replicaStore r.service)) →
      ({ r with phase } : Replication).Verified F (stores (replicaStore r.service))) :
    WorldInv F replicaStore ({ W with stores }.setReplication index r phase) := by
  have hmem : ∀ r' ∈ W.replications.set index { r with phase }, r' ∈ W.replications ∨ r' = { r with phase } :=
    fun r' hr' => List.mem_or_eq_of_mem_set hr'
  have hbefore := List.mem_of_getElem? hr
  refine ⟨h.awaiting, ?_, ?_, ?_, ?_⟩
  · intro r' hr'
    obtain hold | rfl := hmem r' hr'
    · exact (h.verified r' hold).mono (hgrows _)
    · exact hverified (h.verified r hbefore)
  · intro r' hr'
    obtain hold | rfl := hmem r' hr'
    · exact h.held r' hold
    · exact h.held r hbefore
  · intro r' hr'
    obtain hold | rfl := hmem r' hr'
    · exact h.called r' hold
    · exact h.called r hbefore
  · intro i ref record k r' hrecord hlast
    have hof : Replication.Of i ref { r with phase } ↔ Replication.Of i ref r := Iff.rfl
    obtain ⟨old, hold, rfl⟩ := (lastWith_set hr hof).mp hlast
    split_ifs with hk
    · obtain rfl : r = old := Option.some.inj (hr.symm.trans (hk ▸ hold.1))
      exact h.assigned i ref record k r hrecord hold
    · exact h.assigned i ref record k old hrecord hold

/-- **One step keeps the invariant.** -/
theorem WorldInv.step (h : WorldInv F replicaStore W) (event : WorldEvent) :
    WorldInv F replicaStore (W.step F configs primaryStore replicaStore event) := by
  generalize hW' : W.step F configs primaryStore replicaStore event = W'
  have hstep : WorldStep F configs replicaStore W event W' := hW' ▸ worldStep_cases event
  cases hstep with
  | blocked event => exact h
  | quiet event free none => exact h.quiet none
  | starts event r record some starts => exact h.starts starts
  | replicates index answers r stores phase found grows verified completed => exact h.replicates found grows verified
  | stores event stores grows =>
    exact ⟨h.awaiting, fun r hr => (h.verified r hr).mono (grows _), h.held, h.called, h.assigned⟩

/-- A call that goes on after its replication has one that completed. -/
theorem exists_last_of_free (h : WorldInv F replicaStore W) {c : ℕ} {call : Call}
    (hfree : W.blocked (.resume c .done) = false) (hcall : W.system.calls[c]? = some call)
    (hphase : call.phase = .replicating) (href : call.operation.ref = some ref) :
    ∃ k r, LastWith (Replication.Of call.service ref) W.replications k r := by
  obtain ⟨i, operation, nonces, request, phase⟩ := call
  dsimp only at hphase href ⊢
  subst hphase
  simp only [World.blocked, hcall, Bool.not_eq_false', World.replicated, List.any_eq_true, decide_eq_true_eq] at hfree
  obtain ⟨r, hr, rfl, -⟩ := hfree
  obtain ⟨call', hcall', hservice, href'⟩ := h.called r hr
  obtain rfl := Option.some.inj (hcall.symm.trans hcall')
  exact exists_lastWith hr ⟨hservice.symm, Option.some.inj (href'.symm.trans href)⟩

/-- A call that completes finds the last replication of its record completed. -/
theorem replicated_of_completes (h : WorldInv F replicaStore W) {c : ℕ} {call : Call}
    (hfree : W.blocked (.resume c .done) = false) (hcall : W.system.calls[c]? = some call)
    (hphase : call.phase = .replicating) (href : call.operation.ref = some ref)
    (hlast : W.LastCompleted call.service ref) :
    ∃ k r, LastWith (Replication.Of call.service ref) W.replications k r ∧ r.phase.isCompleted := by
  obtain ⟨k, r, hr⟩ := exists_last_of_free h hfree hcall hphase href
  exact ⟨k, r, hr, hlast k r hr⟩

theorem Replicated.quiet (h : Replicated W) (hinv : WorldInv F replicaStore W) (hfree : W.blocked event = false)
    (hnone : started W.system event = none) (horderly : Orderly W (.service event)) :
    Replicated { W with system := step F configs W.system event } := by
  intro i ref record' hrecord' hfinalized hcritical
  cases step_record hnone hrecord' with
  | kept record record' held replica finalized critical =>
    exact h i ref record held (finalized ▸ hfinalized) (critical ▸ hcritical)
  | prepared record' new finalized =>
    rw [finalized] at hfinalized
    cases hfinalized
  | finalizes record c call input result held resumes called service operation last activates =>
    subst resumes service
    obtain ⟨j, operation', nonces, request, phase⟩ := call
    dsimp only at operation last
    subst operation
    unfold LastAwait at last
    split at last
    · rw [last] at hcritical
      cases hcritical
    · have hcompletes : Completes W.system j ref (.resume c .done) :=
        ⟨_, called, rfl, rfl, .inr ⟨input, record, rfl, held, activates⟩⟩
      exact replicated_of_completes hinv hfree called rfl rfl (horderly.2 hfree j ref hcompletes)
    · exact last.elim
  | promotes record c call bundleId held resumes called service operation phase =>
    subst resumes service
    have href : call.operation.ref = some ref := by
      rw [operation]
      rfl
    have hcompletes : Completes W.system call.service ref (.resume c .done) :=
      ⟨call, called, rfl, phase, .inl ⟨bundleId, operation⟩⟩
    exact replicated_of_completes hinv hfree called phase href (horderly.2 hfree _ ref hcompletes)

/-- **One orderly step** keeps the last replication of every critical finalized
record completed. -/
theorem replicated_step {event : WorldEvent} (hinv : WorldInv F replicaStore W) (horderly : Orderly W event)
    (h : Replicated W) : Replicated (W.step F configs primaryStore replicaStore event) := by
  generalize hW' : W.step F configs primaryStore replicaStore event = W'
  have hstep : WorldStep F configs replicaStore W event W' := hW' ▸ worldStep_cases event
  cases hstep with
  | blocked event => exact h
  | quiet event free none => exact h.quiet hinv free none horderly
  | starts event r record some starts =>
    intro i ref record' hrecord' hfinalized hcritical
    obtain ⟨hof, rfl⟩ | ⟨hnot, hold⟩ := starts.record hrecord'
    · exact absurd ⟨hfinalized, hcritical⟩ (horderly.1 r record some starts.held)
    · obtain ⟨k, r', hlast, hcompleted⟩ := h i ref record' hold hfinalized hcritical
      exact ⟨k, r', (lastWith_concat_of_not hnot).mpr hlast, hcompleted⟩
  | replicates index answers r stores phase found grows verified completed =>
    intro i ref record hrecord hfinalized hcritical
    obtain ⟨k, r', hlast, hcompleted⟩ := h i ref record hrecord hfinalized hcritical
    have hof : Replication.Of i ref { r with phase } ↔ Replication.Of i ref r := Iff.rfl
    refine ⟨k, _, (lastWith_set found hof).mpr ⟨r', hlast, rfl⟩, ?_⟩
    split_ifs with hk
    · obtain rfl : r = r' := Option.some.inj (found.symm.trans (hk ▸ hlast.1))
      exact completed hcompleted
    · exact hcompleted
  | stores event stores grows => exact h

theorem worldInv_new (repository : Repository) (stores : ℕ → ObjectStore) : WorldInv F replicaStore (.new repository stores) := by
  refine ⟨?_, ?_, ?_, ?_, ?_⟩
  · intro call hcall
    cases hcall
  · intro r hr
    cases hr
  · intro r hr
    cases hr
  · intro r hr
    cases hr
  · rintro i ref record k r hrecord ⟨hr, -⟩
    cases hr

/-- **In every orderly run** a bundle that is finalized and critical names an
object of the replica store that a completed replication of it has verified. -/
theorem critical_bundle_has_replica (F : Externals) (configs : ℕ → Config) (primaryStore replicaStore : ℕ → ℕ)
    (repository : Repository) (stores : ℕ → ObjectStore) (es : List WorldEvent)
    (horderly : Guarded (World.step F configs primaryStore replicaStore) Orderly (.new repository stores) es)
    (i : ℕ) (bundleId : String) (ref : Ref) (record : PreparedInternal)
    (hrecord : ((World.after F configs primaryStore replicaStore repository stores es).system.services i).record bundleId =
      .ok (ref, record))
    (hfinalized : record.finalized = true) (hcritical : record.critical = true) :
    VerifiedReplica F replicaStore (World.after F configs primaryStore replicaStore repository stores es) i ref record := by
  have hnew : Replicated (.new repository stores) := by
    intro i ref record hrecord
    cases hrecord
  have hrun : WorldInv F replicaStore (World.after F configs primaryStore replicaStore repository stores es) ∧
      Replicated (World.after F configs primaryStore replicaStore repository stores es) :=
    run_guarded (I := fun W => WorldInv F replicaStore W ∧ Replicated W)
      (fun W event hC h => ⟨h.1.step event, replicated_step h.1 hC h.2⟩) es horderly ⟨worldInv_new repository stores, hnew⟩
  obtain ⟨hinv, hreplicated⟩ := hrun
  have hheld := (record_eq_ok.mp hrecord).2
  obtain ⟨k, r, hlast, hcompleted⟩ := hreplicated i ref record hheld hfinalized hcritical
  have hmem := mem_of_lastWith hlast
  obtain ⟨rfl, rfl⟩ := hlast.2.1
  obtain ⟨record', hrecord', hexpected⟩ := hinv.held r hmem
  obtain rfl : record = record' := Option.some.inj (hheld.symm.trans hrecord')
  refine ⟨r, hmem, hcompleted, rfl, rfl, hinv.assigned _ _ record k r hheld hlast, ?_⟩
  have hverified := hinv.verified r hmem
  unfold Replication.Verified at hverified
  split at hverified
  next hphase =>
    rw [hphase] at hcompleted
    cases hcompleted
  next hphase =>
    obtain ⟨bytes, hget, hdigest, hlength⟩ := hverified
    rw [hexpected] at hdigest hlength
    exact ⟨bytes, hget, hdigest, hlength⟩
  next hnot hnot' =>
    unfold ReplicationPhase.isCompleted at hcompleted
    split at hcompleted
    next status hphase => exact absurd hphase (hnot' status)
    · cases hcompleted

/-! ### Two promotions of one bundle -/

/-- A call that awaits nothing of the primary store starts no replication. -/
theorem started_done (S : System) (c : ℕ) : started S (.resume c .done) = none := by
  simp only [started, Call.starts]
  cases S.calls[c]? with
  | none => rfl
  | some call => rfl

theorem orderly_of_quiet (hnone : started W.system event = none) (hdone : ∀ c, event ≠ .resume c .done) :
    Orderly W (.service event) := by
  refine ⟨fun r record hsome => ?_, fun _ i ref hcompletes => ?_⟩
  · rw [hnone] at hsome
    cases hsome
  · cases event with
    | resume c result =>
      cases result with
      | done => exact absurd rfl (hdone c)
      | _ => exact hcompletes.elim
    | _ => exact hcompletes.elim

theorem step_service_of_quiet (hnone : started W.system event = none) (hdone : ∀ c, event ≠ .resume c .done) :
    W.step F configs primaryStore replicaStore (.service event) = { W with system := step F configs W.system event } := by
  have hfree : W.blocked event = false := by
    unfold World.blocked
    split
    next c => exact absurd rfl (hdone c)
    · rfl
  simp only [World.step, hfree, hnone, Option.toList_none, List.append_nil]
  rfl

/-- Steps of the services that start nothing and await no replication. -/
theorem run_services : ∀ (ls : List Event) {W : World},
    Guarded (step F configs) (fun S event => started S event = none ∧ ∀ c, event ≠ .resume c .done) W.system ls →
    run (World.step F configs primaryStore replicaStore) W (ls.map .service) =
      { W with system := run (step F configs) W.system ls }
  | [], _, _ => rfl
  | event :: ls, W, ⟨⟨hnone, hdone⟩, hrest⟩ => by
    rw [List.map_cons, run_cons, step_service_of_quiet hnone hdone, run_cons]
    exact run_services ls hrest

theorem guarded_services : ∀ (ls : List Event) {W : World},
    Guarded (step F configs) (fun S event => started S event = none ∧ ∀ c, event ≠ .resume c .done) W.system ls →
    Guarded (World.step F configs primaryStore replicaStore) Orderly W (ls.map .service)
  | [], _, _ => trivial
  | event :: ls, W, hguard => by
    refine ⟨orderly_of_quiet hguard.1.1 hguard.1.2, ?_⟩
    rw [step_service_of_quiet hguard.1.1 hguard.1.2]
    exact guarded_services ls hguard.2

end

namespace Sample

def otherReplicaObjectId : String := "Vq3tWl5kWkQY1rS0hZ2v1m8xTg6Yb4JcPq9dN7eRfUo"

def emptyStores : ℕ → ObjectStore := fun _ => .empty

/-- The bundle is prepared and finalized, and its object is in the primary store. -/
def storing : List WorldEvent :=
  (preparation ++ finalizing).map .service ++ [.put 0 firstResult.finalObjectId envelopeBytes]

/-- The five store operations of the first replication are answered. -/
def replicating : List WorldEvent := List.replicate 5 (.replication 0 true)

/-- Two promotions are started, the first replication completes and then the
first promotion. -/
def promotingTwice : List WorldEvent :=
  [.service (.promoteToDecisionCritical 0 bundleId replicaObjectId),
    .service (.promoteToDecisionCritical 0 bundleId otherReplicaObjectId)] ++ replicating ++ [.service (.resume 2 .done)]

/-- The bundle is promoted once. -/
def promotingOnce : List WorldEvent :=
  [.service (.promoteToDecisionCritical 0 bundleId replicaObjectId)] ++ replicating ++ [.service (.resume 2 .done)]

def worldAfter (es : List WorldEvent) : World :=
  World.after externals (fun _ => config) (fun _ => 0) (fun _ => 1) memory emptyStores es

/-- The world in which the bundle is finalized. -/
def storedWorld : World where
  system := step externals (fun _ => config) (consumeValidatedProofs (prepared memory) 0 (.finalize finalizeInput 0)
    (finalizeNonces finalizeInput) request) (.resume 1 (.promoted replicaObjectId))
  stores := Function.update emptyStores 0 (JsMap.empty.set firstResult.finalObjectId envelopeBytes)
  replications := []

theorem finished_quiet : Guarded (step externals fun _ => config)
    (fun S event => started S event = none ∧ ∀ c, event ≠ .resume c .done) (newSystem memory)
    (preparation ++ finalizing) := by
  rw [guarded_append]
  refine ⟨⟨⟨rfl, nofun⟩, ⟨rfl, nofun⟩, ⟨rfl, nofun⟩, trivial⟩, ⟨rfl, nofun⟩, ⟨?_, nofun⟩, trivial⟩
  have hprepared : run (step externals fun _ => config) (newSystem memory) preparation = prepared memory := rfl
  rw [hprepared, step_finalize]
  rfl

theorem storing_eq (es : List WorldEvent) : worldAfter (storing ++ es) =
    run (World.step externals (fun _ => config) (fun _ => 0) (fun _ => 1)) storedWorld es := by
  have hrun : worldAfter (storing ++ es) = run (World.step externals (fun _ => config) (fun _ => 0) (fun _ => 1))
      (run (World.step externals (fun _ => config) (fun _ => 0) (fun _ => 1)) (.new memory emptyStores)
        ((preparation ++ finalizing).map .service))
      (.put 0 firstResult.finalObjectId envelopeBytes :: es) := by
    rw [worldAfter, World.after, storing, List.append_assoc, run_append]
    rfl
  have hfinished : run (step externals fun _ => config) (newSystem memory) (preparation ++ finalizing) = finished := rfl
  rw [hrun, run_services _ finished_quiet]
  dsimp only [World.new]
  rw [hfinished, finished_eq]
  rfl

/-- The record once it is promoted. -/
def promotedRecord (replicaObjectId : String) : PreparedInternal :=
  { record with finalized := true, critical := true, replicaObjectId := some replicaObjectId }

/-- A replication of the bundle by the call numbered `c`. -/
def replicationBy (c : ℕ) (replicaObjectId : String) (phase : ReplicationPhase) : Replication :=
  { replicationOf c 0 0 record replicaObjectId with phase }

def promotedTwice : World :=
  run (World.step externals (fun _ => config) (fun _ => 0) (fun _ => 1)) storedWorld promotingTwice

theorem promotedTwice_record : (promotedTwice.system.services 0).record bundleId =
    .ok (0, promotedRecord otherReplicaObjectId) := rfl

theorem promotedTwice_missing : (promotedTwice.stores 1).get otherReplicaObjectId = none := rfl

/-- One promotion is started and its replication has completed. -/
def replicatedOnce : World :=
  run (World.step externals (fun _ => config) (fun _ => 0) (fun _ => 1)) storedWorld
    ([.service (.promoteToDecisionCritical 0 bundleId replicaObjectId)] ++ replicating)

theorem replicatedOnce_replications : replicatedOnce.replications =
    [replicationBy 2 replicaObjectId (.completed .created)] := rfl

theorem promotingOnce_orderly : Guarded (World.step externals (fun _ => config) (fun _ => 0) (fun _ => 1)) Orderly
    storedWorld promotingOnce := by
  refine (guarded_append _ _ _).mpr ⟨⟨⟨?_, fun _ _ _ h => h.elim⟩, trivial, trivial, trivial, trivial, trivial, trivial⟩, ?_⟩
  · intro r record hsome hheld hstate
    obtain rfl := Option.some.inj hsome
    obtain rfl := Option.some.inj hheld
    cases hstate.2
  · refine ⟨⟨fun r record hsome => ?_, ?_⟩, trivial⟩
    · rw [started_done] at hsome
      cases hsome
    rintro - i ref - k r ⟨hr, -⟩
    have hmem : r ∈ replicatedOnce.replications := List.mem_of_getElem? hr
    rw [replicatedOnce_replications] at hmem
    rw [List.mem_singleton.mp hmem]
    rfl

theorem promotedOnce_record : ((run (World.step externals (fun _ => config) (fun _ => 0) (fun _ => 1)) storedWorld
    promotingOnce).system.services 0).record bundleId = .ok (0, promotedRecord replicaObjectId) := rfl

end Sample

/-- The first promotion ends with the replica of the second in the record: the
bundle is critical, and the replica store has no such object. -/
theorem critical_bundle_without_replica :
    ((Sample.worldAfter (Sample.storing ++ Sample.promotingTwice)).system.services 0).record Sample.bundleId =
        .ok (0, Sample.promotedRecord Sample.otherReplicaObjectId) ∧
      (Sample.promotedRecord Sample.otherReplicaObjectId).finalized = true ∧
      (Sample.promotedRecord Sample.otherReplicaObjectId).critical = true ∧
      ((Sample.worldAfter (Sample.storing ++ Sample.promotingTwice)).stores 1).get Sample.otherReplicaObjectId = none ∧
      ¬VerifiedReplica Sample.externals (fun _ => 1) (Sample.worldAfter (Sample.storing ++ Sample.promotingTwice)) 0 0
        (Sample.promotedRecord Sample.otherReplicaObjectId) := by
  have hworld : Sample.worldAfter (Sample.storing ++ Sample.promotingTwice) = Sample.promotedTwice :=
    Sample.storing_eq Sample.promotingTwice
  rw [hworld]
  refine ⟨Sample.promotedTwice_record, rfl, rfl, Sample.promotedTwice_missing, ?_⟩
  rintro ⟨r, -, -, -, -, hid, bytes, hget, -⟩
  rw [← Option.some.inj hid, Sample.promotedTwice_missing] at hget
  cases hget

/-- Promoted once, the bundle has a verified replica. -/
theorem promoted_bundle_has_replica :
    VerifiedReplica Sample.externals (fun _ => 1) (Sample.worldAfter (Sample.storing ++ Sample.promotingOnce)) 0 0
      (Sample.promotedRecord Sample.replicaObjectId) := by
  have horderly : Guarded (World.step Sample.externals (fun _ => Sample.config) (fun _ => 0) (fun _ => 1)) Orderly
      (.new Sample.memory Sample.emptyStores) (Sample.storing ++ Sample.promotingOnce) := by
    refine (guarded_append _ _ _).mpr ⟨?_, ?_⟩
    · exact (guarded_append _ _ _).mpr ⟨guarded_services _ Sample.finished_quiet, trivial, trivial⟩
    · have hstored := Sample.storing_eq []
      rw [List.append_nil] at hstored
      have hworld : run (World.step Sample.externals (fun _ => Sample.config) (fun _ => 0) (fun _ => 1))
          (.new Sample.memory Sample.emptyStores) Sample.storing = Sample.storedWorld := hstored
      rw [hworld]
      exact Sample.promotingOnce_orderly
  refine critical_bundle_has_replica Sample.externals (fun _ => Sample.config) (fun _ => 0) (fun _ => 1) Sample.memory
    Sample.emptyStores (Sample.storing ++ Sample.promotingOnce) horderly 0 Sample.bundleId 0 _ ?_ rfl rfl
  have hworld : World.after Sample.externals (fun _ => Sample.config) (fun _ => 0) (fun _ => 1) Sample.memory
      Sample.emptyStores (Sample.storing ++ Sample.promotingOnce) = _ := Sample.storing_eq Sample.promotingOnce
  rw [hworld]
  exact Sample.promotedOnce_record

end Evidence
end Evllm
