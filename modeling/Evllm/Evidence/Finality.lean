/-
# A finalized bundle, and what replaces it

`finalize` refuses a bundle that is already finalized; `prepare` does not ask.
A preparation under a new idempotency key is stored under its bundle id
whatever is stored there, so a bundle that was finalized is then not, and a
`finalize` that is still running finalizes a record which is no longer the
bundle's.

`Undisturbed` says when neither happens: no preparation for a bundle id is
stored after that bundle was finalized, and no `finalize` completes for a record
that another preparation has replaced. In every run of such steps what a
finalization fixed stays fixed (`finalized_bundle_stays`). That a record is not
finalized twice rests on the key registry: the authorization of a finalized
record is settled, and a settled one is not activated again.

Key definitions: `Undisturbed`, `StaysFinal`, `Finality`.
Key theorems: `Change.stays`, `Change.inv`, `finality_step`,
`finalized_bundle_stays`.
-/
import Evllm.Evidence.Continuations

namespace Evllm
namespace Evidence

open Lib Contracts

/-! ### What a finalization fixes -/

/-- The record is the one that the finalization was made for. -/
structure FixedBy (finalized : FinalizedEvidenceBundleRecord) (record : PreparedInternal) : Prop where
  bundleId : finalized.bundleId = record.bundleId
  contentCommitment : finalized.contentCommitment = record.contentCommitment
  domainPayloadCommitment : finalized.domainPayloadCommitment = record.domainPayloadCommitment
  contentEnvelopeDigest : finalized.contentEnvelopeDigest = record.contentEnvelopeDigest
  finalObjectId : finalized.primaryObjectId = record.finalObjectId
  storedEnvelopeLength : finalized.storedEnvelopeLength = record.storedEnvelopeLength

/-- What the service says of a bundle finalized in `service` is the same in
`service'`: the finalized record, the record that operations use, its
preparation with the commitments, the final object and the criticality it was
finalized with; and the bundle is finalized. -/
def StaysFinal (service service' : BundleService) (bundleId : String) : Prop :=
  ∀ finalized, service.finalizedRecord bundleId = .ok finalized → service'.finalizedRecord bundleId = .ok finalized ∧
    ∃ ref record record', service.record bundleId = .ok (ref, record) ∧ service'.record bundleId = .ok (ref, record') ∧
      record'.finalized = true ∧ record'.toPreparation = record.toPreparation ∧ FixedBy finalized record'

/-- A continuation does not disturb a finalized bundle: what `prepare` stores is
not for a finalized bundle, and what `finalize` completes is still the record
of its bundle. -/
def Undisturbed (service : BundleService) (phase : Phase) (result : AwaitResult) : Operation → Prop
  | .prepare input _ _ => ∀ stored, result = .stored stored → service.stages input stored →
    service.finalizedRecords.get input.evidencePayload.bundleId = none
  | .finalize _ ref => ∀ record, service.byBundle.deref ref = some record → LastAwait record phase result →
    service.activates record → service.byBundle.ref record.bundleId = some ref
  | _ => True

/-- The event does not disturb a finalized bundle. -/
def Undisturbing (S : System) : Event → Prop
  | .resume c result => ∀ a ∈ S.calls[c]?, a.phase.goesOn → Undisturbed (S.services a.service) a.phase result a.operation
  | _ => True

/-! ### The invariant of a service -/

/-- A record has the id it is stored under; a finalized bundle has the record it
was finalized with; and the authorization of a finalized record is settled. -/
structure ServiceInv (service : BundleService) : Prop where
  keyed : ∀ bundleId ref record, service.byBundle.ref bundleId = some ref → service.byBundle.deref ref = some record →
    record.bundleId = bundleId
  finalized : ∀ bundleId finalized, service.finalizedRecords.get bundleId = some finalized →
    ∃ ref record, service.byBundle.ref bundleId = some ref ∧ service.byBundle.deref ref = some record ∧
      record.finalized = true ∧ FixedBy finalized record
  settled : ∀ ref record, service.byBundle.deref ref = some record → record.finalized = true →
    service.Settled record.controllerAuthorizationId

/-- The finalized bundles of `service` have the same records in `service'`. -/
structure Stays (service service' : BundleService) : Prop where
  finalized : ∀ bundleId finalized, service.finalizedRecords.get bundleId = some finalized →
    service'.finalizedRecords.get bundleId = some finalized
  refs : ∀ bundleId finalized, service.finalizedRecords.get bundleId = some finalized →
    service'.byBundle.ref bundleId = service.byBundle.ref bundleId
  keeps : Keeps service service'

section Services

variable {F : Externals} {config : Config} {service service' service'' : BundleService} {phase : Phase}
variable {result : AwaitResult} {operation : Operation}

theorem serviceInv_new : ServiceInv .new := by
  refine ⟨fun bundleId ref record href => ?_, fun bundleId finalized hget => ?_, fun ref record hderef => ?_⟩
  · simp [BundleService.new] at href
  · simp [BundleService.new] at hget
  · simp [BundleService.new, ObjectMap.deref, ObjectMap.empty] at hderef

theorem Stays.refl : Stays service service := ⟨fun _ _ h => h, fun _ _ _ => rfl, .of_eq rfl⟩

theorem Stays.trans (h : Stays service service') (h' : Stays service' service'') : Stays service service'' := by
  refine ⟨fun bundleId finalized hget => ?_, fun bundleId finalized hget => ?_, h.keeps.trans h'.keeps⟩
  · exact h'.finalized bundleId finalized (h.finalized bundleId finalized hget)
  · rw [h'.refs bundleId finalized (h.finalized bundleId finalized hget), h.refs bundleId finalized hget]

/-- A bundle that is finalized before the step has its record after it. -/
theorem Stays.record (h : Stays service service') (hinv : ServiceInv service) {bundleId : String}
    {finalized : FinalizedEvidenceBundleRecord} (hget : service.finalizedRecords.get bundleId = some finalized) :
    ∃ ref record record', service.byBundle.ref bundleId = some ref ∧ service.byBundle.deref ref = some record ∧
      service'.byBundle.ref bundleId = some ref ∧ service'.byBundle.deref ref = some record' ∧
      record'.finalized = true ∧ record'.toPreparation = record.toPreparation ∧ FixedBy finalized record' := by
  obtain ⟨ref, record, href, hrecord, hfinal, hfixed⟩ := hinv.finalized bundleId finalized hget
  obtain ⟨record', hrecord', hsame, hfinal'⟩ := h.keeps ref record hrecord
  have href' : service'.byBundle.ref bundleId = some ref := by rw [h.refs bundleId finalized hget, href]
  refine ⟨ref, record, record', href, hrecord, href', hrecord', hfinal' hfinal, hsame, ?_⟩
  obtain ⟨hid, hcontent, hdomain, henvelope, hobject, hlength⟩ := hfixed
  exact ⟨by rw [hid, hsame], by rw [hcontent, hsame], by rw [hdomain, hsame], by rw [henvelope, hsame],
    by rw [hobject, hsame], by rw [hlength, hsame]⟩

theorem finalizedRecord_eq_ok {bundleId : String} {finalized : FinalizedEvidenceBundleRecord} :
    service.finalizedRecord bundleId = .ok finalized ↔ service.finalizedRecords.get bundleId = some finalized := by
  unfold BundleService.finalizedRecord
  cases service.finalizedRecords.get bundleId <;> simp

theorem Stays.staysFinal (h : Stays service service') (hinv : ServiceInv service) (bundleId : String) :
    StaysFinal service service' bundleId := by
  intro finalized hok
  have hget := finalizedRecord_eq_ok.mp hok
  obtain ⟨ref, record, record', href, hrecord, href', hrecord', hfinal, hsame, hfixed⟩ := h.record hinv hget
  exact ⟨finalizedRecord_eq_ok.mpr (h.finalized bundleId finalized hget), ref, record, record',
    record_eq_ok.mpr ⟨href, hrecord⟩, record_eq_ok.mpr ⟨href', hrecord'⟩, hfinal, hsame, hfixed⟩

/-- The record of a bundle that is finalized is not finalized again. -/
theorem ServiceInv.not_activates {ref : Ref} {record : PreparedInternal} {finalized : FinalizedEvidenceBundleRecord}
    (hinv : ServiceInv service) (hrecord : service.byBundle.deref ref = some record)
    (href : service.byBundle.ref record.bundleId = some ref)
    (hget : service.finalizedRecords.get record.bundleId = some finalized) : service.activates record = false := by
  obtain ⟨ref', record', href', hrecord', hfinal, -⟩ := hinv.finalized _ _ hget
  obtain rfl : ref' = ref := Option.some.inj (href'.symm.trans href)
  obtain rfl : record' = record := Option.some.inj (hrecord'.symm.trans hrecord)
  have hsettled := hinv.settled ref' record' hrecord hfinal
  unfold BundleService.activates
  rcases hactivate : service.keyLifecycle.registry.activateControllerAuthorization record'.controllerAuthorizationId with e | r
  · rfl
  · exact absurd hactivate (Keys.KeyLifecycleRegistry.activate_of_settled hsettled)

theorem Change.stays (h : Change F config service phase result operation service') (hinv : ServiceInv service)
    (hquiet : Undisturbed service phase result operation) : Stays service service' := by
  refine ⟨fun bundleId old hget => ?_, fun bundleId old hget => ?_, h.keeps⟩
  · cases h with
    | none records finalizedRecords => rw [finalizedRecords, hget]
    | prepared stored awaited stages records finalizedRecords => rw [finalizedRecords, hget]
    | finalized record stored awaited activates settled records finalizedRecords =>
      have hother : record.bundleId ≠ bundleId := by
        rintro rfl
        rw [hinv.not_activates stored (hquiet record stored awaited activates) hget] at activates
        cases activates
      rw [finalizedRecords, JsMap.get_set, if_neg hother, hget]
    | written ref f write records finalizedRecords => rw [finalizedRecords, hget]
  · cases h with
    | none records => rw [records]
    | @prepared input _ _ _ stored awaited stages records =>
      have hother : input.evidencePayload.bundleId ≠ bundleId := by
        rintro rfl
        rw [hquiet stored awaited stages] at hget
        cases hget
      rw [records, ObjectMap.ref_insert, if_neg hother]
    | finalized record stored awaited activates settled records => rw [records, ObjectMap.ref_mutate]
    | written ref f write records => rw [records, ObjectMap.ref_mutate]

/-- The records that are finalized in `service'` were so in `service`, but for
the one that is being finalized, and their authorizations stay settled. -/
theorem Moves.settles (h : Moves F config service phase result operation service') (hinv : ServiceInv service)
    (hrotated : ∀ input ref envelope context, operation = .rotate input ref → phase = .rotated envelope context →
      service.Settled input.successorAuthorizationId) {ref : Ref} {record : PreparedInternal}
    (hrecord : service'.byBundle.deref ref = some record) (hfinal : record.finalized = true) :
    service'.Settled record.controllerAuthorizationId := by
  have hold : ∀ old, service.byBundle.deref ref = some old → old.finalized = true →
      service'.Settled old.controllerAuthorizationId := fun old hderef hf => h.settled _ (hinv.settled ref old hderef hf)
  cases h.change with
  | none records => exact hold record (by rw [← records, hrecord]) hfinal
  | prepared stored awaited stages records =>
    rw [records, ObjectMap.deref_insert] at hrecord
    split_ifs at hrecord with hnew
    · rw [← Option.some.inj hrecord] at hfinal
      cases hfinal
    · exact hold record hrecord hfinal
  | @finalized input ref' _ old stored awaited activates settled records =>
    rw [records, ObjectMap.deref_mutate] at hrecord
    by_cases href : ref' = ref
    · subst href
      rw [if_pos rfl, stored, Option.map_some] at hrecord
      rw [← Option.some.inj hrecord]
      exact settled
    · rw [if_neg href] at hrecord
      exact hold record hrecord hfinal
  | written ref' f write records =>
    rw [records, ObjectMap.deref_mutate] at hrecord
    by_cases href : ref' = ref
    · subst href
      rw [if_pos rfl, Option.map_eq_some_iff] at hrecord
      obtain ⟨old, hderef, rfl⟩ := hrecord
      rcases write.authorization with hsame | ⟨input, envelope, context, hoperation, hphase, hsuccessor⟩
      · rw [hsame]
        rw [write.finalized] at hfinal
        exact hold old hderef hfinal
      · rw [hsuccessor]
        exact h.settled _ (hrotated input ref' envelope context hoperation hphase)
    · rw [if_neg href] at hrecord
      exact hold record hrecord hfinal

theorem Change.keyed (h : Change F config service phase result operation service') (hinv : ServiceInv service)
    {bundleId : String} {ref : Ref} {record : PreparedInternal} (href : service'.byBundle.ref bundleId = some ref)
    (hrecord : service'.byBundle.deref ref = some record) : record.bundleId = bundleId := by
  have hmutate : ∀ (ref' : Ref) (f : PreparedInternal → PreparedInternal),
      (∀ old, (f old).toPreparation = old.toPreparation) → service'.byBundle = service.byBundle.mutate ref' f →
      record.bundleId = bundleId := by
    intro ref' f hf records
    rw [records, ObjectMap.ref_mutate] at href
    rw [records, ObjectMap.deref_mutate] at hrecord
    split_ifs at hrecord with hsame
    · obtain ⟨old, hderef, rfl⟩ := Option.map_eq_some_iff.mp hrecord
      rw [hf old]
      exact hinv.keyed bundleId ref old href hderef
    · exact hinv.keyed bundleId ref record href hrecord
  cases h with
  | none records =>
    rw [records] at href hrecord
    exact hinv.keyed bundleId ref record href hrecord
  | @prepared input _ _ _ stored awaited stages records =>
    rw [records, ObjectMap.ref_insert] at href
    rw [records] at hrecord
    split_ifs at href with hid
    · rw [← Option.some.inj href, ObjectMap.deref_insert_new] at hrecord
      rw [← Option.some.inj hrecord, ← hid]
      rfl
    · rw [ObjectMap.deref_insert_of_lt _ (service.byBundle.allocated bundleId ref href)] at hrecord
      exact hinv.keyed bundleId ref record href hrecord
  | finalized old stored awaited activates settled records =>
    exact hmutate _ (fun old => { old with finalized := true }) (fun _ => rfl) records
  | written ref' f write records => exact hmutate ref' f write.preparation records

theorem Moves.inv (h : Moves F config service phase result operation service') (hinv : ServiceInv service)
    (hquiet : Undisturbed service phase result operation)
    (hrotated : ∀ input ref envelope context, operation = .rotate input ref → phase = .rotated envelope context →
      service.Settled input.successorAuthorizationId) : ServiceInv service' := by
  have hstays := h.change.stays hinv hquiet
  have hold : ∀ bundleId old, service.finalizedRecords.get bundleId = some old →
      ∃ ref record, service'.byBundle.ref bundleId = some ref ∧ service'.byBundle.deref ref = some record ∧
        record.finalized = true ∧ FixedBy old record := by
    intro bundleId old hget
    obtain ⟨ref, -, record', -, -, href', hrecord', hfinal, -, hfixed⟩ := hstays.record hinv hget
    exact ⟨ref, record', href', hrecord', hfinal, hfixed⟩
  refine ⟨fun _ _ _ href hrecord => h.change.keyed hinv href hrecord, fun bundleId new hget => ?_,
    fun _ _ hrecord hfinal => h.settles hinv hrotated hrecord hfinal⟩
  cases h.change with
  | none records finalizedRecords => exact hold bundleId new (by rw [← finalizedRecords, hget])
  | prepared stored awaited stages records finalizedRecords => exact hold bundleId new (by rw [← finalizedRecords, hget])
  | @finalized input ref _ record stored awaited activates settled records finalizedRecords =>
    rw [finalizedRecords, JsMap.get_set] at hget
    split_ifs at hget with hid
    · obtain rfl := Option.some.inj hget
      have href := hquiet record stored awaited activates
      refine ⟨ref, { record with finalized := true }, ?_, ?_, rfl, ⟨rfl, rfl, rfl, rfl, rfl, rfl⟩⟩
      · rw [records, ObjectMap.ref_mutate, ← hid, href]
      · rw [records, ObjectMap.deref_mutate, if_pos rfl, stored, Option.map_some]
    · exact hold bundleId new hget
  | written ref f write records finalizedRecords => exact hold bundleId new (by rw [← finalizedRecords, hget])

end Services

/-! ### The invariant of the system -/

/-- The finalization was made by a `finalize` with this input. -/
structure MadeBy (finalized : FinalizedEvidenceBundleRecord) (input : FinalizeInput) : Prop where
  attestation : finalized.attestation = input.attestation
  finalization : finalized.finalization = input.finalization
  finalizedAt : finalized.finalizedAt = input.now

/-- A `finalize` holds a record of its bundle; once it has returned the bundle is
finalized with its proofs. -/
structure FinalizeInv (service : BundleService) (input : FinalizeInput) (ref : Ref) (phase : Phase) : Prop where
  held : ∃ record, service.byBundle.deref ref = some record ∧ record.bundleId = input.bundleId
  returned : phase = .returned → ∃ finalized, service.finalizedRecords.get input.bundleId = some finalized ∧
    MadeBy finalized input

/-- What a rotation knows of the authorization it writes to its record. -/
structure RotateInv (service : BundleService) (input : RotateInput) (phase : Phase) : Prop where
  verifying : ∀ suspended envelope context, phase = .verifying suspended envelope context →
    ∃ predecessor successor, suspended = .rotateControllerAuthorization predecessor successor ∧
      successor.authorizationId = input.successorAuthorizationId
  rotated : ∀ envelope context, phase = .rotated envelope context → service.Settled input.successorAuthorizationId

def OperationInv (service : BundleService) (phase : Phase) : Operation → Prop
  | .finalize input ref => FinalizeInv service input ref phase
  | .rotate input _ => RotateInv service input phase
  | _ => True

def Call.Inv (S : System) (a : Call) : Prop := OperationInv (S.services a.service) a.phase a.operation

structure Finality (S : System) : Prop where
  services : ∀ i, ServiceInv (S.services i)
  calls : ∀ a ∈ S.calls, a.Inv S

/-- The finalized bundles and the settled authorizations of `service` are those
of `service'`. -/
structure Advances (service service' : BundleService) : Prop extends Stays service service' where
  settled : ∀ id, service.Settled id → service'.Settled id

section Systems

variable {F : Externals} {configs : ℕ → Config} {S S' : System} {service service' : BundleService} {a : Call} {c : ℕ}
variable {phase : Phase} {operation : Operation}

theorem Advances.refl : Advances service service := ⟨.refl, fun _ h => h⟩

/-- The records and the finalized records are the same. -/
theorem Advances.of_eq (hrecords : service'.byBundle = service.byBundle)
    (hfinalized : service'.finalizedRecords = service.finalizedRecords)
    (hsettled : ∀ id, service.Settled id → service'.Settled id) : Advances service service' := by
  refine ⟨⟨fun bundleId finalized hget => ?_, fun bundleId finalized _ => ?_, .of_eq hrecords⟩, hsettled⟩
  · rw [hfinalized, hget]
  · rw [hrecords]

theorem ServiceInv.of_eq (h : ServiceInv service) (hrecords : service'.byBundle = service.byBundle)
    (hfinalized : service'.finalizedRecords = service.finalizedRecords)
    (hsettled : ∀ id, service.Settled id → service'.Settled id) : ServiceInv service' := by
  refine ⟨fun bundleId ref record href hrecord => ?_, fun bundleId finalized hget => ?_, fun ref record hrecord hfinal => ?_⟩
  · rw [hrecords] at href hrecord
    exact h.keyed bundleId ref record href hrecord
  · rw [hfinalized] at hget
    rw [hrecords]
    exact h.finalized bundleId finalized hget
  · rw [hrecords] at hrecord
    exact hsettled _ (h.settled ref record hrecord hfinal)

theorem FinalizeInv.advance {input : FinalizeInput} {ref : Ref} (h : FinalizeInv service input ref phase)
    (hadvance : Advances service service') : FinalizeInv service' input ref phase := by
  refine ⟨?_, fun hreturned => ?_⟩
  · obtain ⟨record, hrecord, hid⟩ := h.held
    obtain ⟨record', hrecord', hsame, -⟩ := hadvance.keeps ref record hrecord
    exact ⟨record', hrecord', by rw [hsame, hid]⟩
  · obtain ⟨finalized, hget, hmade⟩ := h.returned hreturned
    exact ⟨finalized, hadvance.finalized _ _ hget, hmade⟩

theorem OperationInv.advance (h : OperationInv service phase operation) (hadvance : Advances service service') :
    OperationInv service' phase operation := by
  cases operation with
  | finalize input ref => exact FinalizeInv.advance h hadvance
  | rotate input ref => exact ⟨h.verifying, fun envelope context hphase => hadvance.settled _ (h.rotated envelope context hphase)⟩
  | _ => trivial

/-- A call that is outside of its operation's part needs the record only. -/
theorem OperationInv.of_outside (hphase : phase.outside = true)
    (hheld : ∀ input ref, operation = .finalize input ref →
      ∃ record, service.byBundle.deref ref = some record ∧ record.bundleId = input.bundleId) :
    OperationInv service phase operation := by
  cases operation with
  | finalize input ref =>
    refine ⟨hheld input ref rfl, ?_⟩
    rintro rfl
    cases hphase
  | rotate input ref =>
    refine ⟨?_, ?_⟩
    · rintro suspended envelope context rfl
      cases hphase
    · rintro envelope context rfl
      cases hphase
  | _ => trivial

theorem OperationInv.held (h : OperationInv service phase operation) (input : FinalizeInput) (ref : Ref)
    (hoperation : operation = .finalize input ref) :
    ∃ record, service.byBundle.deref ref = some record ∧ record.bundleId = input.bundleId := by
  subst hoperation
  exact FinalizeInv.held h

theorem OperationInv.rotated (h : OperationInv service phase operation) (input : RotateInput) (ref : Ref)
    (envelope : Bytes) (context : DekWrapContext) (hoperation : operation = .rotate input ref)
    (hphase : phase = .rotated envelope context) : service.Settled input.successorAuthorizationId := by
  subst hoperation
  exact RotateInv.rotated h envelope context hphase

/-- What a step keeps of the invariant and of the finalized bundles. -/
structure FinalityStep (S S' : System) : Prop where
  finality : Finality S'
  stays : ∀ i, Stays (S.services i) (S'.services i)

/-! ### Calls go on -/

theorem RotateInv.continued {config : Config} {input : RotateInput} {ref : Ref} {phase' : Phase} {result : AwaitResult}
    (h : RotateInv service input phase)
    (hnext : Continued F config service (.rotate input ref) phase result service' phase') :
    RotateInv service' input phase' := by
  cases hnext with
  | waits => exact h
  | fails => exact ⟨nofun, nofun⟩
  | rotationUnwraps input ref record held => exact ⟨nofun, nofun⟩
  | rotationWraps input ref context envelope commitment suspended checked =>
    obtain ⟨predecessor, rfl⟩ := rotateControllerAuthorization_ok checked
    refine ⟨?_, nofun⟩
    rintro _ _ _ ⟨⟩
    exact ⟨predecessor, _, rfl, rfl⟩
  | rotationVerified input ref suspended envelope context answer registry resumed =>
    refine ⟨nofun, fun _ _ _ => ?_⟩
    exact Keys.KeyLifecycleRegistry.settled_resume resumed (.inr (h.verifying suspended envelope context rfl))
  | rotates input ref envelope context result => exact ⟨nofun, nofun⟩

theorem FinalizeInv.continued {config : Config} {input : FinalizeInput} {ref : Ref} {phase' : Phase}
    {result : AwaitResult} (h : FinalizeInv service input ref phase)
    (hnext : Continued F config service (.finalize input ref) phase result service' phase') :
    FinalizeInv service' input ref phase' := by
  obtain ⟨record, hrecord, hid⟩ := h.held
  have hheld : ∃ record, service'.byBundle.deref ref = some record ∧ record.bundleId = input.bundleId := by
    obtain ⟨record', hrecord', hsame, -⟩ := hnext.keeps ref record hrecord
    exact ⟨record', hrecord', by rw [hsame, hid]⟩
  cases hnext with
  | waits => exact h
  | fails => exact ⟨hheld, nofun⟩
  | replicates input ref record' replicaObjectId held critical => exact ⟨hheld, nofun⟩
  | finalizes input ref phase result record' registry held last activated =>
    obtain rfl : record = record' := Option.some.inj (hrecord.symm.trans held)
    refine ⟨hheld, fun _ => ⟨finalizedEvidenceBundleRecord record input, ?_, rfl, rfl, rfl⟩⟩
    simp [hid]

theorem OperationInv.continueCall {config : Config} {result : AwaitResult} (h : OperationInv service phase operation) :
    OperationInv (continueCall F config service phase result operation).1
      (continueCall F config service phase result operation).2 operation := by
  have hnext : Continued F config service operation phase result _ _ := continued_call operation
  cases operation with
  | finalize input ref => exact FinalizeInv.continued h hnext
  | rotate input ref => exact RotateInv.continued h hnext
  | _ => trivial

/-- A promotion writes the id of the replica before it awaits. -/
theorem moves_assignReplica (F : Externals) (config : Config) (service : BundleService) (bundleId : String) (ref : Ref)
    (replicaObjectId : String) :
    Moves F config service .replicating .failed (.promote bundleId ref) (service.assignReplica ref replicaObjectId) := by
  have hwrite : RecordWrite (.promote bundleId ref) .replicating ref
      fun record => { record with replicaObjectId := some replicaObjectId } :=
    ⟨fun _ => rfl, fun _ => rfl, .inl fun _ => rfl⟩
  exact ⟨.written ref _ hwrite rfl rfl, rfl, fun _ h => h⟩

/-- The operation of a call that has just begun holds a record of its bundle. -/
theorem OperationInv.begins {event : Event} (h : Begins F configs S event a) (hinv : ServiceInv (S.services a.service)) :
    OperationInv (S.services a.service) a.phase a.operation := by
  cases h with
  | prepare i input phase first => trivial
  | finalize i input ref request nonces phase outside checked =>
    obtain ⟨record, hrecord, -⟩ := checkFinalize_eq_ok.mp checked
    obtain ⟨href, hderef⟩ := record_eq_ok.mp hrecord
    refine .of_outside outside ?_
    rintro _ _ ⟨⟩
    exact ⟨record, hderef, hinv.keyed _ ref record href hderef⟩
  | rotate i input ref scope request nonces phase outside checked => exact .of_outside outside nofun
  | grant i input ref scope request nonces phase outside checked => exact .of_outside outside nofun
  | retrieve i input ref request nonces phase outside checked => exact .of_outside outside nofun

/-- The moves of a service keep the invariant and what was final. -/
theorem finality_rule : Rule F configs Undisturbing ServiceInv
    (fun service operation phase => OperationInv service phase operation) Advances where
  refl _ := .refl
  mono _ _ _ _ hadvance h := h.advance hadvance
  nonces _ _ h := ⟨h.of_eq rfl rfl fun _ hid => hid, .of_eq rfl rfl fun _ hid => hid⟩
  begins _ _ _ _ hbegins hinv := .begins hbegins hinv
  outside _ _ _ _ hphase h := .of_outside hphase h.held
  promotes S i bundleId replicaObjectId ref _ _ _ _ _ h := by
    have hmoves := moves_assignReplica F (configs i) (S.services i) bundleId ref replicaObjectId
    exact ⟨hmoves.inv h trivial nofun, ⟨hmoves.change.stays h trivial, hmoves.settled⟩, trivial⟩
  goesOn S c a result hquiet hc hgoes h hcall := by
    have hundisturbed := hquiet a hc hgoes
    have hmoves : Moves F (configs a.service) (S.services a.service) a.phase result a.operation _ := moves_call a.operation
    exact ⟨hmoves.inv h hundisturbed hcall.rotated, ⟨hmoves.change.stays h hundisturbed, hmoves.settled⟩, hcall.continueCall⟩
  registry _ _ event _ h :=
    ⟨h.of_eq rfl rfl fun _ => Keys.Lifecycle.settled_step event, .of_eq rfl rfl fun _ => Keys.Lifecycle.settled_step event⟩

/-- **A step that does not disturb a finalized bundle** keeps the invariant and
every finalized bundle of every service. -/
theorem finality_step {event : Event} (h : Finality S) (hquiet : Undisturbing S event) :
    FinalityStep S (step F configs S event) := by
  obtain ⟨hholds, hmoves⟩ := finality_rule.step hquiet ⟨h.services, h.calls⟩
  exact ⟨⟨hholds.services, hholds.calls⟩, fun i => (hmoves i).toStays⟩

end Systems

/-! ### Runs -/

theorem finality_newSystem (repository : Repository) : Finality (newSystem repository) :=
  ⟨fun _ => serviceInv_new, fun _ ha => nomatch ha⟩

/-- The invariant, and what was final in `S₀`, along a run. -/
theorem finality_run {F : Externals} {configs : ℕ → Config} {S₀ : System} (h : Finality S₀) {ls : List Event}
    (hguard : Guarded (step F configs) Undisturbing S₀ ls) : FinalityStep S₀ (run (step F configs) S₀ ls) := by
  refine run_guarded (I := FinalityStep S₀) (fun S event hquiet hS => ?_) ls hguard ⟨h, fun _ => .refl⟩
  have hstep : FinalityStep S (step F configs S event) := finality_step hS.finality hquiet
  exact ⟨hstep.finality, fun i => (hS.stays i).trans (hstep.stays i)⟩

/-- **A finalized bundle stays.** In every run of any number of services, in
which no preparation for a bundle id is stored after that bundle was finalized
and no `finalize` completes for a record that another preparation has replaced,
a `finalize` that has returned has finalized its bundle with its proofs, and
what a finalization fixed stays fixed. -/
theorem finalized_bundle_stays (F : Externals) (configs : ℕ → Config) (repository : Repository) (ls ms : List Event)
    (hguard : Guarded (step F configs) Undisturbing (newSystem repository) (ls ++ ms)) {S S' : System}
    (hS : S = after F configs repository ls) (hS' : S' = after F configs repository (ls ++ ms)) :
    (∀ a ∈ S.calls, ∀ input ref, a.operation = .finalize input ref → a.phase = .returned →
      ∃ finalized, (S.services a.service).finalizedRecord input.bundleId = .ok finalized ∧ MadeBy finalized input) ∧
    ∀ i bundleId, StaysFinal (S.services i) (S'.services i) bundleId := by
  subst hS hS'
  obtain ⟨hbefore, hafter⟩ := (guarded_append ls ms _).mp hguard
  have hfinality : Finality (after F configs repository ls) := (finality_run (finality_newSystem repository) hbefore).finality
  refine ⟨fun a ha input ref hoperation hreturned => ?_, fun i bundleId => ?_⟩
  · have hcall := hfinality.calls a ha
    rw [Call.Inv, hoperation] at hcall
    obtain ⟨finalized, hget, hmade⟩ := FinalizeInv.returned hcall hreturned
    exact ⟨finalized, finalizedRecord_eq_ok.mpr hget, hmade⟩
  · have hstays := (finality_run hfinality hafter).stays i
    have hrun : after F configs repository (ls ++ ms) = run (step F configs) (after F configs repository ls) ms :=
      run_append _ _ ls ms
    rw [hrun]
    exact hstays.staysFinal (hfinality.services i) bundleId

/-! ### A bundle that is prepared again -/

namespace Sample

/-- The id that a replica of the bundle would have. -/
def replicaObjectId : String := "dIwPfbFk3wzIW7KDBlYVEKDaMyFJ0ZPg_BPcRIfJYXQ"

/-- The bundle is finalized. -/
def finalizing : List Event := [.finalize 0 finalizeInput, .resume 1 (.promoted replicaObjectId)]

def memory : Repository := .memory .empty ∅

/-- The system in which the bundle is finalized. -/
def finished : System := after externals (fun _ => config) memory (preparation ++ finalizing)

/-- Another preparation of the bundle, with its own idempotency key and
authorization. -/
def secondInput : PrepareEvidenceInput := prepareInput otherAuthorizationId (List.replicate 32 8)

def secondResult : ProtectionResult where
  contentCommitment := 0x73a28fe5c87a867cdcb2e01f5697182be6725702e6a18c47626ec93f0f929e53
  contentEnvelopeDigest := 0xef94740ebd26843e83188f70dcbd8e27081a3a952cc94d26d7ae75b2d6be53a9
  domainPayloadCommitment := 0x8bd1a958fe29d342e0d0c60919f905712e734bab1c59b7ce7ab6e9aad0769b1e
  storedEnvelopeLength := 18
  controllerEnvelope := [2]
  controllerEnvelopeCommitment := 0xdbc1b4c900ffe48d575b5da5c638040125f65db0fe3e24494b76ea986457d986
  stagingObjectId := "eKo4HGnrnWpE6VtEKjXCrHXJ6St_3kiJ0BY89KWuySo"
  finalObjectId := "Hf4aQjSE__vRE4t0UL9Ya2ImvVMCKS_9y4bhHJkJl7E"
  stagingId := "urn:evllm:staging:00000000-0000-4000-8000-000000000042"
  controllerEnvelopeId := "urn:evllm:envelope:00000000-0000-4000-8000-000000000052"
  signatureRecordId := "urn:evllm:assertion:00000000-0000-4000-8000-000000000062"

def secondRecord : PreparedInternal :=
  preparedRecord externals config secondInput (preparationFingerprint externals secondInput) secondResult

def secondPreparation : List Event := [.prepare 0 secondInput, .resume 2 (.stored secondResult)]

/-- The system in which the bundle is finalized and prepared again. -/
def preparedAgain : System :=
  after externals (fun _ => config) memory ((preparation ++ finalizing) ++ secondPreparation)

theorem finished_eq : finished =
    step externals (fun _ => config) (consumeValidatedProofs (prepared memory) 0 (.finalize finalizeInput 0)
      (finalizeNonces finalizeInput) request)
      (.resume 1 (.promoted replicaObjectId)) := by
  have hrun : finished = run (step externals fun _ => config) (prepared memory) finalizing := run_append _ _ _ _
  rw [hrun, finalizing, run_cons, step_finalize, run_cons, run_nil]

theorem finished_record : (finished.services 0).finalizedRecord bundleId =
    .ok (finalizedEvidenceBundleRecord record finalizeInput) := by
  rw [finished_eq]
  rfl

theorem preparedAgain_record : (preparedAgain.services 0).record bundleId = .ok (1, secondRecord) := by
  have hrun : preparedAgain = run (step externals fun _ => config) finished secondPreparation := run_append _ _ _ _
  rw [hrun, finished_eq]
  rfl

end Sample

theorem finalized_bundle_replaced :
    (Sample.finished.services 0).finalizedRecord Sample.bundleId =
      .ok (finalizedEvidenceBundleRecord Sample.record Sample.finalizeInput) ∧
    (Sample.preparedAgain.services 0).record Sample.bundleId = .ok (1, Sample.secondRecord) ∧
    Sample.secondRecord.finalized = false ∧
    ¬StaysFinal (Sample.finished.services 0) (Sample.preparedAgain.services 0) Sample.bundleId := by
  have hsecond := Sample.preparedAgain_record
  refine ⟨Sample.finished_record, hsecond, rfl, fun hstays => ?_⟩
  obtain ⟨-, ref, record, record', -, hrecord', hfinal, -, -⟩ := hstays _ Sample.finished_record
  rw [hsecond] at hrecord'
  have hsame : Sample.secondRecord = record' := (Prod.mk.inj (Except.ok.inj hrecord')).2
  rw [← hsame] at hfinal
  exact Bool.false_ne_true hfinal

/-- The finalized bundle becomes critical for a decision. -/
def Sample.promoting : List Event := [.promoteToDecisionCritical 0 bundleId replicaObjectId, .resume 2 .done]

theorem Sample.undisturbing : Guarded (step externals fun _ => config) Undisturbing (newSystem memory)
    ((preparation ++ finalizing) ++ promoting) := by
  rw [guarded_append, guarded_append]
  refine ⟨⟨⟨trivial, trivial, ?_, trivial⟩, trivial, ?_, trivial⟩, trivial, ?_, trivial⟩
  · rintro a ha -
    obtain rfl := Option.some.inj ha
    exact fun _ _ _ => rfl
  · have hprepared : run (step externals fun _ => config) (newSystem memory) preparation = prepared memory := rfl
    rw [hprepared, step_finalize]
    rintro a ha -
    obtain rfl := Option.some.inj ha
    intro record hrecord _ _
    obtain rfl : Sample.record = record := Option.some.inj hrecord
    rfl
  · have hfinished : run (step externals fun _ => config) (newSystem memory) (preparation ++ finalizing) = finished := rfl
    rw [hfinished, finished_eq]
    rintro a ha -
    obtain rfl := Option.some.inj ha
    trivial

theorem finalized_bundle_stays_promoted :
    StaysFinal (Sample.finished.services 0) ((after Sample.externals (fun _ => Sample.config) Sample.memory
      ((Sample.preparation ++ Sample.finalizing) ++ Sample.promoting)).services 0) Sample.bundleId ∧
    ∃ finalized, (Sample.finished.services 0).finalizedRecord Sample.finalizeInput.bundleId = .ok finalized ∧
      MadeBy finalized Sample.finalizeInput := by
  have hmain := finalized_bundle_stays Sample.externals (fun _ => Sample.config) Sample.memory _ _ Sample.undisturbing
    (rfl : Sample.finished = _) rfl
  have hcall : Sample.finished.calls[1]? = some ⟨0, .finalize Sample.finalizeInput 0, finalizeNonces Sample.finalizeInput,
      some Sample.request, .returned⟩ := by
    rw [Sample.finished_eq]
    rfl
  have hreturned : ∀ a ∈ Sample.finished.calls, a.service = 0 → a.operation = .finalize Sample.finalizeInput 0 →
      a.phase = .returned → ∃ finalized, (Sample.finished.services 0).finalizedRecord Sample.finalizeInput.bundleId =
        .ok finalized ∧ MadeBy finalized Sample.finalizeInput := by
    intro a ha hservice hoperation hphase
    have hmade := hmain.1 a ha Sample.finalizeInput 0 hoperation hphase
    rwa [hservice] at hmade
  exact ⟨hmain.2 0 Sample.bundleId, hreturned _ (List.mem_of_getElem? hcall) rfl rfl rfl⟩

end Evidence
end Evllm
