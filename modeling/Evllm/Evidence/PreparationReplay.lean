/-
# A preparation that is asked for again

`prepare` under an idempotency key that is taken answers at once: a conflict if
the fingerprint of its input is not the one it was prepared with, and otherwise
the public fields of the record that the key holds, as they are by then.

The fingerprint leaves out four fields of the input, a rotation writes two
fields that the answer reads, and a preparation that is under way takes over the
key of one stored before it. A repeated call does what the first one did just if
none of these comes between them.

Key definitions: `publicPreparation`, `prepareAnswer`, `StoresUnder`,
`lastRewrite`, `Replays`.
Key theorems: `startPrepare_eq`, `stored_step`, `stored_run`,
`preparation_replays`.
-/
import Evllm.Evidence.Continuations

namespace Evllm
namespace Evidence

open Lib Contracts

/-! ### The answer of `prepare` -/

/-- What `prepare` returns; `bundleVersion` is 1. -/
structure PreparedEvidence where
  bundleId : String
  contentCommitment : Bytes32
  contentEnvelopeDigest : Bytes32
  controllerEnvelope : Bytes
  controllerEnvelopeId : String
  descriptorDigest : Bytes32
  domainPayload : Bytes
  domainPayloadCommitment : Bytes32
  finalObjectId : String
  stagingId : String
  stagingObjectId : String
  storedEnvelopeLength : ℕ
  deriving DecidableEq, Repr

def publicPreparation (record : PreparedInternal) : PreparedEvidence where
  bundleId := record.bundleId
  contentCommitment := record.contentCommitment
  contentEnvelopeDigest := record.contentEnvelopeDigest
  controllerEnvelope := record.controllerEnvelope
  controllerEnvelopeId := record.controllerEnvelopeId
  descriptorDigest := record.descriptorDigest
  domainPayload := record.domainPayload
  domainPayloadCommitment := record.domainPayloadCommitment
  finalObjectId := record.finalObjectId
  stagingId := record.stagingId
  stagingObjectId := record.stagingObjectId
  storedEnvelopeLength := record.storedEnvelopeLength

/-- The fields of a record that a rotation writes and `publicPreparation` reads. -/
def PreparedInternal.envelope (record : PreparedInternal) : Bytes × String :=
  (record.controllerEnvelope, record.controllerEnvelopeId)

/-- What `prepare` is called with: of an argument whose payload does not parse
as an evidence claim, only the key is read. -/
inductive PrepareArgument where
  | parsed (input : PrepareEvidenceInput)
  | unparsed (idempotencyKey : Bytes)
  deriving DecidableEq, Repr

def PrepareArgument.idempotencyKey : PrepareArgument → Bytes
  | .parsed input => input.idempotencyKey
  | .unparsed idempotencyKey => idempotencyKey

inductive PrepareError where
  | service (code : ServiceError)
  /-- The error of `evidenceClaimPayload.parse`. -/
  | payload
  deriving DecidableEq, Repr

section

variable (F : Externals)

/-- What `prepare` answers before its first `await`, if it does. -/
def prepareAnswer (service : BundleService) : PrepareArgument → Option (Except PrepareError PreparedEvidence)
  | .unparsed idempotencyKey =>
    some (.error (if idempotencyKey.length ≠ 32 then .service .conflict else .payload))
  | .parsed input =>
    if input.idempotencyKey.length ≠ 32 then some (.error (.service .conflict))
    else
      ((service.byIdempotency.get (F.sha256 input.idempotencyKey)).bind service.byBundle.deref).map fun existing =>
        if existing.idempotencyFingerprint ≠ preparationFingerprint F input then .error (.service .conflict)
        else .ok (publicPreparation existing)

/-- The phase in which a call with this answer is. -/
def answeredPhase : Option (Except PrepareError PreparedEvidence) → Phase
  | none => .preparing
  | some (.error _) => .failed
  | some (.ok _) => .returned

theorem startPrepare_eq (S : System) (i : ℕ) (input : PrepareEvidenceInput) :
    startPrepare F S i input = S.addCall ⟨i,
      .prepare input (preparationFingerprint F input) (F.sha256 input.idempotencyKey), [], none,
      answeredPhase (prepareAnswer F (S.services i) (.parsed input))⟩ := by
  unfold startPrepare prepareAnswer
  dsimp only
  by_cases hlength : input.idempotencyKey.length ≠ 32
  · rw [if_pos hlength, if_pos hlength]
    rfl
  · rw [if_neg hlength, if_neg hlength]
    cases ((S.services i).byIdempotency.get (F.sha256 input.idempotencyKey)).bind (S.services i).byBundle.deref with
    | none => rfl
    | some existing =>
      simp only [Option.map_some]
      split_ifs
      · rfl
      · rfl

/-! ### What the fingerprint tells apart -/

def fingerprintOf (input : PrepareEvidenceInput) : PreparationFingerprint where
  authorBindingProfileId := input.authorBindingProfileId
  authorBindingProfileVersion := input.authorBindingProfileVersion
  contentSha256 := F.sha256 input.content
  controllerActorId := input.controllerActorId
  controllerAuthorizationId := input.controllerAuthorizationId
  controllerEncryptionKeyId := input.controllerEncryptionKeyId
  controllerOrganizationId := input.controllerOrganizationId
  domainPayloadSha256 := F.digest (.evidenceClaim input.evidencePayload)
  initialCriticality := input.initialCriticality
  intendedAuthorActorId := input.intendedAuthorActorId
  intendedAuthorCredentialId := input.intendedAuthorCredentialId
  intendedAuthorOrganizationId := input.intendedAuthorOrganizationId

/-- SHA-256 has no collision among what the two fingerprints hash. -/
structure CollisionFree (input input' : PrepareEvidenceInput) : Prop where
  content : F.sha256 input'.content = F.sha256 input.content → input'.content = input.content
  payload : F.digest (.evidenceClaim input'.evidencePayload) = F.digest (.evidenceClaim input.evidencePayload) →
    input'.evidencePayload = input.evidencePayload
  fingerprint : F.digest (.fingerprint (fingerprintOf F input')) = F.digest (.fingerprint (fingerprintOf F input)) →
    fingerprintOf F input' = fingerprintOf F input

end

/-- The input without the fields that the fingerprint leaves out. -/
def PrepareEvidenceInput.fingerprinted (input : PrepareEvidenceInput) : PrepareEvidenceInput :=
  { input with contentMediaType := "", controllerCredentialId := "", controllerKid := "", controllerPublicKey := "" }

theorem preparationFingerprint_eq_iff {F : Externals} {input input' : PrepareEvidenceInput}
    (hfree : CollisionFree F input input') (hkey : input'.idempotencyKey = input.idempotencyKey) :
    preparationFingerprint F input' = preparationFingerprint F input ↔ input'.fingerprinted = input.fingerprinted := by
  constructor
  · intro h
    have hall : fingerprintOf F input' = fingerprintOf F input := hfree.fingerprint h
    simp only [fingerprintOf, PreparationFingerprint.mk.injEq] at hall
    obtain ⟨h₁, h₂, hcontent, h₃, h₄, h₅, h₆, hpayload, h₇, h₈, h₉, h₁₀⟩ := hall
    simp only [PrepareEvidenceInput.fingerprinted, PrepareEvidenceInput.mk.injEq, true_and]
    exact ⟨h₁, h₂, hfree.content hcontent, h₃, h₄, h₅, h₆, hfree.payload hpayload, hkey, h₇, h₈, h₉, h₁₀⟩
  · intro h
    simp only [PrepareEvidenceInput.fingerprinted, PrepareEvidenceInput.mk.injEq, true_and] at h
    obtain ⟨h₁, h₂, hcontent, h₃, h₄, h₅, h₆, hpayload, -, h₇, h₈, h₉, h₁₀⟩ := h
    unfold preparationFingerprint
    rw [h₁, h₂, hcontent, h₃, h₄, h₅, h₆, hpayload, h₇, h₈, h₉, h₁₀]

/-! ### What comes between two calls -/

/-- The step stores a preparation under the key `hash` of service `i`. -/
def StoresUnder (i : ℕ) (hash : Bytes32) (S : System) (event : Event) : Prop :=
  ∃ c stored call input fingerprint, event = .resume c (.stored stored) ∧ S.calls[c]? = some call ∧ call.service = i ∧
    call.operation = .prepare input fingerprint hash ∧ call.phase.goesOn ∧ (S.services i).stages input stored = true

/-- What a call that goes on writes to the envelope of the record that the key
`hash` holds. -/
def Operation.rewrites (service : BundleService) (hash : Bytes32) : Operation → Phase → Option (Bytes × String)
  | .rotate input ref, .rotated envelope _ =>
    if service.byIdempotency.get hash = some ref then some (envelope, input.successorEnvelopeId) else none
  | _, _ => none

def rewrites (i : ℕ) (hash : Bytes32) (S : System) : Event → Option (Bytes × String)
  | .resume c _ =>
    S.calls[c]?.bind fun call =>
      if call.service = i then call.operation.rewrites (S.services i) hash call.phase else none
  | _ => none

/-- What the last rotation of the record that the key holds wrote. -/
def lastRewrite (F : Externals) (configs : ℕ → Config) (i : ℕ) (hash : Bytes32) :
    System → List Event → Option (Bytes × String)
  | _, [] => none
  | S, event :: ls => (lastRewrite F configs i hash (step F configs S event) ls).or (rewrites i hash S event)

/-- The key `hash` holds a record that was prepared as `preparation`. -/
structure Stored (service : BundleService) (hash : Bytes32) (preparation : Preparation) (envelope : Bytes × String)
    (ref : Ref) : Prop where
  key : service.byIdempotency.get hash = some ref
  record : ∃ record, service.byBundle.deref ref = some record ∧ record.toPreparation = preparation ∧
    record.envelope = envelope

section

variable {F : Externals} {configs : ℕ → Config} {config : Config} {service service' : BundleService} {phase phase' : Phase}
variable {result : AwaitResult} {operation : Operation} {hash : Bytes32} {preparation : Preparation}
variable {envelope : Bytes × String} {ref : Ref} {i : ℕ} {S : System}

theorem rewrites_of_not_goesOn (h : phase.goesOn = false) : operation.rewrites service hash phase = none := by
  unfold Operation.rewrites
  split
  · cases h
  · rfl

theorem Stored.of_eq (h : Stored service hash preparation envelope ref)
    (hkeys : service'.byIdempotency = service.byIdempotency) (hrecords : service'.byBundle = service.byBundle) :
    Stored service' hash preparation envelope ref := by
  constructor
  · rw [hkeys]
    exact h.key
  · rw [hrecords]
    exact h.record

/-- A write that keeps the preparation and the envelope. -/
theorem Stored.mutate (h : Stored service hash preparation envelope ref) {held : Ref}
    {f : PreparedInternal → PreparedInternal} (hkeys : service'.byIdempotency = service.byIdempotency)
    (hrecords : service'.byBundle = service.byBundle.mutate held f)
    (hf : ∀ record, (f record).toPreparation = record.toPreparation ∧ (f record).envelope = record.envelope) :
    Stored service' hash preparation envelope ref := by
  obtain ⟨hkey, record, hrecord, hpreparation, henvelope⟩ := h
  constructor
  · rw [hkeys]
    exact hkey
  · rw [hrecords, ObjectMap.deref_mutate]
    split_ifs with hheld
    · refine ⟨f record, by rw [hrecord, Option.map_some], ?_, ?_⟩
      · rw [(hf record).1, hpreparation]
      · rw [(hf record).2, henvelope]
    · exact ⟨record, hrecord, hpreparation, henvelope⟩

/-- A continuation that stores nothing under the key and writes nothing to the
envelope of its record. -/
theorem Continued.stored (h : Continued F config service operation phase result service' phase')
    (hother : ∀ input fingerprint stored, operation = .prepare input fingerprint hash → result = .stored stored →
      service.stages input stored = false)
    (hkeeps : operation.rewrites service hash phase = none) (hstored : Stored service hash preparation envelope ref) :
    Stored service' hash preparation envelope ref := by
  cases h with
  | waits => exact hstored
  | fails => exact hstored
  | prepares input fingerprint idempotencyHash phase stored registry staged =>
    have hne : idempotencyHash ≠ hash := by
      rintro rfl
      have hrefused := hother input fingerprint stored rfl rfl
      unfold BundleService.stages at hrefused
      unfold PrepareEvidenceInput.authorizationRecord at staged
      rw [staged] at hrefused
      cases hrefused
    obtain ⟨record, hrecord, hprepared⟩ := hstored.record
    exact ⟨by rw [JsMap.get_set, if_neg hne]; exact hstored.key, record, ObjectMap.deref_insert_of_some _ hrecord _, hprepared⟩
  | replicates input held record replicaObjectId deref critical => exact hstored.mutate rfl rfl fun _ => ⟨rfl, rfl⟩
  | finalizes input held phase result record registry deref last activated =>
    exact hstored.mutate rfl rfl fun _ => ⟨rfl, rfl⟩
  | rotationUnwraps input held record deref => exact hstored
  | rotationWraps input held context bytes commitment suspended checked => exact hstored
  | rotationVerified input held suspended bytes context answer registry resumed => exact hstored.of_eq rfl rfl
  | rotates input held bytes context result =>
    have hheld : held ≠ ref := by
      rintro rfl
      simp only [Operation.rewrites, hstored.key, if_true] at hkeeps
      cases hkeeps
    obtain ⟨hkey, record, hrecord, hprepared⟩ := hstored
    refine ⟨hkey, record, ?_, hprepared⟩
    simp only [BundleService.mutateRecord, ObjectMap.deref_mutate]
    rw [if_neg hheld, hrecord]
  | grantUnwraps input held record deref => exact hstored
  | grants input held context bytes commitment registry next prepared activating => exact hstored.of_eq rfl rfl
  | grantVerified input held suspended bytes context answer registry resumed => exact hstored.of_eq rfl rfl
  | retrieves input held phase => exact hstored
  | promotes bundleId held => exact hstored.mutate rfl rfl fun _ => ⟨rfl, rfl⟩

theorem stored_continueCall (hother : ∀ input fingerprint stored, operation = .prepare input fingerprint hash →
      result = .stored stored → service.stages input stored = false)
    (hstored : Stored service hash preparation envelope ref) :
    Stored (continueCall F config service phase result operation).1 hash preparation
      ((operation.rewrites service hash phase).getD envelope) ref := by
  cases hrewrites : operation.rewrites service hash phase with
  | none => exact (continued_call operation).stored hother hrewrites hstored
  | some written =>
    unfold Operation.rewrites at hrewrites
    split at hrewrites
    next input held bytes context =>
      split_ifs at hrewrites with hheld
      obtain rfl : written = (bytes, input.successorEnvelopeId) := (Option.some.inj hrewrites).symm
      obtain ⟨hkey, record, hrecord, hpreparation, -⟩ := hstored
      obtain rfl : held = ref := Option.some.inj (hheld.symm.trans hkey)
      refine ⟨hkey, input.write F bytes context record, ?_, hpreparation, rfl⟩
      simp only [continueCall, continueRotate, BundleService.mutateRecord, ObjectMap.deref_mutate, if_true]
      rw [hrecord, Option.map_some]
    · cases hrewrites

/-! ### Steps and runs -/

theorem Begins.rewrites {event : Event} {call : Call} (h : Begins F configs S event call) :
    rewrites i hash S event = none := by
  cases h with
  | prepare | finalize | rotate | grant | retrieve => rfl

/-- **One step.** -/
theorem stored_step {event : Event} (hother : ¬StoresUnder i hash S event)
    (h : Stored (S.services i) hash preparation envelope ref) :
    Stored ((step F configs S event).services i) hash preparation ((rewrites i hash S event).getD envelope) ref := by
  have hquiet : ∀ c result call, S.calls[c]? = some call → call.phase.goesOn = false →
      rewrites i hash S (.resume c result) = none := by
    intro c result call hc hphase
    simp only [Evidence.rewrites, hc, Option.bind_some]
    split_ifs
    · exact rewrites_of_not_goesOn hphase
    · rfl
  have hkeys : ∀ {j : ℕ} {service : BundleService}, service.byIdempotency = (S.services j).byIdempotency →
      service.byBundle = (S.services j).byBundle →
      Stored (Function.update S.services j service i) hash preparation envelope ref := by
    intro j service hkeys hrecords
    exact h.of_eq (view_update BundleService.byIdempotency hkeys i) (view_update BundleService.byBundle hrecords i)
  generalize hS' : step F configs S event = S'
  have hstep : Stepped F configs S event S' := hS' ▸ step_cases event
  cases hstep with
  | idle event repository quiet =>
    have hnone : rewrites i hash S event = none := by
      cases event with
      | resume c result =>
        cases hc : S.calls[c]? with
        | none => simp only [Evidence.rewrites, hc, Option.bind_none]
        | some call => exact hquiet c result call hc (quiet c result call rfl hc)
      | _ => rfl
    rw [hnone]
    exact h
  | begins event new repository stores begins =>
    rw [begins.rewrites]
    exact hkeys rfl rfl
  | promotes j bundleId replicaObjectId held record stored finalized supplementary =>
    by_cases hj : i = j
    · subst hj
      simp only [System.addCall, System.setService, Function.update_self]
      exact h.mutate rfl rfl fun _ => ⟨rfl, rfl⟩
    · simp only [System.addCall, System.setService, Function.update_of_ne hj]
      exact h
  | settles event c moved repository result called consuming => exact h
  | rollsBack c moved result called rejected =>
    rw [hquiet c result moved called (by rw [rejected]; rfl)]
    exact hkeys rfl rfl
  | goesOn c moved result called goesOn =>
    simp only [System.setPhase, System.setService, Evidence.rewrites, called, Option.bind_some]
    by_cases hi : moved.service = i
    · subst hi
      rw [Function.update_self, if_pos rfl]
      refine stored_continueCall (fun input fingerprint stored hprepare hresult => ?_) h
      subst hresult
      by_contra hstages
      refine hother ⟨c, stored, moved, input, fingerprint, rfl, called, rfl, hprepare, goesOn, ?_⟩
      simpa using hstages
    · rw [Function.update_of_ne (Ne.symm hi), if_neg hi]
      exact h
  | registry j event => exact hkeys rfl rfl

/-- **A run** in which no other preparation is stored under the key. -/
theorem stored_run : ∀ (ls : List Event) {S : System} {envelope : Bytes × String},
    Guarded (step F configs) (fun S event => ¬StoresUnder i hash S event) S ls →
    Stored (S.services i) hash preparation envelope ref →
    Stored ((run (step F configs) S ls).services i) hash preparation
      ((lastRewrite F configs i hash S ls).getD envelope) ref
  | [], _, _, _, h => h
  | event :: ls, S, envelope, ⟨hother, hguard⟩, h => by
    have hrest := stored_run ls hguard (stored_step hother h)
    have hlast : (lastRewrite F configs i hash S (event :: ls)).getD envelope =
        (lastRewrite F configs i hash (step F configs S event) ls).getD ((rewrites i hash S event).getD envelope) := by
      rw [lastRewrite]
      cases lastRewrite F configs i hash (step F configs S event) ls with
      | none => rfl
      | some written => rfl
    rw [hlast]
    exact hrest

/-! ### Calls that prepare -/

/-- A preparation under way was asked for with a key of 32 bytes, and holds the
digests of its input. -/
def Preparing (F : Externals) (S : System) : Prop :=
  ∀ (c : ℕ) (call : Call) (input : PrepareEvidenceInput) (fingerprint hash : Bytes32), S.calls[c]? = some call →
    call.operation = .prepare input fingerprint hash → fingerprint = preparationFingerprint F input ∧
      hash = F.sha256 input.idempotencyKey ∧ (call.phase = .preparing → input.idempotencyKey.length = 32)

theorem length_of_preparing {input : PrepareEvidenceInput}
    (h : answeredPhase (prepareAnswer F service (.parsed input)) = .preparing) : input.idempotencyKey.length = 32 := by
  by_contra hlength
  rw [prepareAnswer, if_pos hlength] at h
  cases h

theorem preparing_step (event : Event) (h : Preparing F S) : Preparing F (step F configs S event) := by
  intro c call input fingerprint hash hc hprepare
  obtain hold | hbegins | ⟨bundleId, held, hpromote⟩ | ⟨old, hold, hop, hphase⟩ | ⟨old, result, rfl, hold, hgoes, rfl⟩ :=
    (step_cases event).call_cases hc
  · exact h c call input fingerprint hash hold hprepare
  · cases hbegins with
    | prepare j asked phase first =>
      rw [step, startPrepare_eq] at hc
      obtain hold | ⟨-, hnew⟩ := getElem?_concat_eq_some.mp hc
      · exact h c _ input fingerprint hash hold hprepare
      · cases hprepare
        cases hnew
        exact ⟨rfl, rfl, length_of_preparing⟩
    | finalize | rotate | grant | retrieve => cases hprepare
  · rw [hpromote] at hprepare
    cases hprepare
  · obtain ⟨hfingerprint, hhash, -⟩ := h c old input fingerprint hash hold (hop.symm.trans hprepare)
    refine ⟨hfingerprint, hhash, fun hpreparing => ?_⟩
    rw [hpreparing] at hphase
    cases hphase
  · obtain ⟨hfingerprint, hhash, hlength⟩ := h c old input fingerprint hash hold hprepare
    refine ⟨hfingerprint, hhash, fun hpreparing => hlength ?_⟩
    -- a continuation ends in this phase only if it was in it before
    have hcontinued : Continued F (configs old.service) (S.services old.service) old.operation old.phase result
        (old.next F configs S result).1 (old.next F configs S result).2 := continued_call old.operation
    have hnext : (old.next F configs S result).2 = .preparing := hpreparing
    have hop : old.operation = .prepare input fingerprint hash := hprepare
    rw [hnext, hop] at hcontinued
    generalize old.phase = phase at hcontinued
    generalize (old.next F configs S result).1 = service' at hcontinued
    cases hcontinued with
    | waits => rfl

theorem preparing_after (F : Externals) (configs : ℕ → Config) (repository : Repository) (ls : List Event) :
    Preparing F (after F configs repository ls) := by
  refine run_invariant (fun S event h => preparing_step event h) ls ?_
  intro c call input fingerprint hash hc
  cases hc

/-- The preparation is stored. -/
theorem stored_commit {c : ℕ} {call : Call} {input : PrepareEvidenceInput} {fingerprint : Bytes32}
    {stored : ProtectionResult} (hc : S.calls[c]? = some call) (hop : call.operation = .prepare input fingerprint hash)
    (hphase : call.phase = .preparing) (hstages : (S.services call.service).stages input stored = true) :
    Stored ((step F configs S (.resume c (.stored stored))).services call.service) hash
      (Evidence.preparation F (configs call.service) input fingerprint stored)
      (stored.controllerEnvelope, stored.controllerEnvelopeId) (S.services call.service).byBundle.heap.length := by
  have hgoes : call.phase.goesOn = true := by
    rw [hphase]
    rfl
  rw [step_goesOn hc hgoes]
  simp only [System.setPhase, System.setService, Function.update_self, Call.next, hop, continueCall]
  unfold BundleService.stages at hstages
  cases hstage : (S.services call.service).keyLifecycle.registry.stageControllerAuthorization
      ⟨input.controllerAuthorizationId, stored.controllerEnvelopeId, input.controllerEncryptionKeyId, .staged⟩ with
  | error e =>
    rw [hstage] at hstages
    cases hstages
  | ok registry =>
    rw [commitPreparation, hstage]
    constructor
    · exact (JsMap.get_set _ hash hash _).trans (if_pos rfl)
    · exact ⟨_, ObjectMap.deref_insert_new _, rfl, rfl⟩

/-! ### The repeated call -/

/-- With the same preparation, the answer shows just the envelope. -/
theorem publicPreparation_eq_iff {record record' : PreparedInternal} (h : record'.toPreparation = record.toPreparation) :
    publicPreparation record' = publicPreparation record ↔ record'.envelope = record.envelope := by
  simp only [publicPreparation, h, PreparedEvidence.mk.injEq, PreparedInternal.envelope, Prod.mk.injEq, true_and, and_true]

/-- The answer under a key that holds a record. -/
theorem prepareAnswer_of_stored {input : PrepareEvidenceInput} (hlength : input.idempotencyKey.length = 32)
    (h : Stored service (F.sha256 input.idempotencyKey) preparation envelope ref) :
    ∃ record, record.toPreparation = preparation ∧ record.envelope = envelope ∧
      prepareAnswer F service (.parsed input) = some (if preparation.idempotencyFingerprint = preparationFingerprint F input
        then .ok (publicPreparation record) else .error (.service .conflict)) := by
  obtain ⟨hkey, record, hrecord, hpreparation, henvelope⟩ := h
  refine ⟨record, hpreparation, henvelope, ?_⟩
  rw [prepareAnswer, if_neg (not_not.mpr hlength), hkey, Option.bind_some, hrecord, Option.map_some, ← hpreparation]
  simp only [ne_eq, ite_not]

end

/-- A call of `prepare` on service `i` with `argument`, after `input` was
prepared as `original`: it succeeds only for the same input and then returns the
same, otherwise it is a conflict; it changes nothing. -/
structure Replays (F : Externals) (S : System) (i : ℕ) (input : PrepareEvidenceInput) (original : PreparedEvidence)
    (argument : PrepareArgument) : Prop where
  answer : prepareAnswer F (S.services i) argument =
    some (if argument = .parsed input then .ok original else .error (.service .conflict))
  unchanged : ∀ input', argument = .parsed input' →
    ∃ call, startPrepare F S i input' = S.addCall call ∧ call.phase.goesOn = false

/-- The argument is the same input, or one that the fingerprint tells from it. -/
def PrepareArgument.told (input : PrepareEvidenceInput) : PrepareArgument → Prop
  | .parsed input' => input' = input ∨ input'.fingerprinted ≠ input.fingerprinted
  | .unparsed _ => False

section

variable {F : Externals} {config : Config} {S : System} {i : ℕ} {input input' : PrepareEvidenceInput}
variable {result : ProtectionResult} {argument : PrepareArgument} {envelope : Bytes × String} {ref : Ref}

theorem replays_parsed_iff
    (h : Stored (S.services i) (F.sha256 input.idempotencyKey)
      (preparation F config input (preparationFingerprint F input) result) envelope ref)
    (hlength : input.idempotencyKey.length = 32) (hkey : input'.idempotencyKey = input.idempotencyKey)
    (hfree : CollisionFree F input input') :
    Replays F S i input (publicPreparation (preparedRecord F config input (preparationFingerprint F input) result))
        (.parsed input') ↔
      PrepareArgument.told input (.parsed input') ∧
        (input' = input → envelope = (result.controllerEnvelope, result.controllerEnvelopeId)) := by
  rw [← hkey] at h hlength
  obtain ⟨record, hpreparation, henvelope, hanswer⟩ := prepareAnswer_of_stored hlength h
  have hfingerprint : (preparation F config input (preparationFingerprint F input) result).idempotencyFingerprint =
      preparationFingerprint F input := rfl
  rw [hfingerprint] at hanswer
  have hpublic : publicPreparation record =
      publicPreparation (preparedRecord F config input (preparationFingerprint F input) result) ↔
        envelope = (result.controllerEnvelope, result.controllerEnvelopeId) := by
    rw [publicPreparation_eq_iff hpreparation, henvelope]
    rfl
  have htold : preparationFingerprint F input = preparationFingerprint F input' ↔
      input'.fingerprinted = input.fingerprinted := eq_comm.trans (preparationFingerprint_eq_iff hfree hkey)
  have hunchanged : ∀ asked, PrepareArgument.parsed input' = .parsed asked →
      ∃ call, startPrepare F S i asked = S.addCall call ∧ call.phase.goesOn = false := by
    rintro _ ⟨⟩
    refine ⟨_, startPrepare_eq F S i input', ?_⟩
    rw [hanswer]
    split_ifs
    · rfl
    · rfl
  by_cases hfields : input'.fingerprinted = input.fingerprinted
  · rw [if_pos (htold.mpr hfields)] at hanswer
    constructor
    · rintro ⟨hreplayed, -⟩
      rw [hanswer] at hreplayed
      split_ifs at hreplayed with heq
      · have hok : publicPreparation record = _ := Except.ok.inj (Option.some.inj hreplayed)
        exact ⟨.inl (PrepareArgument.parsed.inj heq), fun _ => hpublic.mp hok⟩
      · cases hreplayed
    · rintro ⟨hinput | hdiffers, hwritten⟩
      · subst hinput
        refine ⟨?_, hunchanged⟩
        rw [hanswer, if_pos rfl, hpublic.mpr (hwritten rfl)]
      · exact absurd hfields hdiffers
  · rw [if_neg fun h => hfields (htold.mp h)] at hanswer
    have hne : input' ≠ input := by
      rintro rfl
      exact hfields rfl
    constructor
    · intro
      exact ⟨.inr hfields, fun heq => absurd heq hne⟩
    · intro
      refine ⟨?_, hunchanged⟩
      rw [hanswer, if_neg fun heq => hne (PrepareArgument.parsed.inj heq)]

/-- A payload that does not parse is no conflict. -/
theorem not_replays_unparsed {idempotencyKey : Bytes} {original : PreparedEvidence} (hlength : idempotencyKey.length = 32) :
    ¬Replays F S i input original (.unparsed idempotencyKey) := by
  rintro ⟨hanswer, -⟩
  rw [prepareAnswer, if_neg (not_not.mpr hlength), if_neg nofun] at hanswer
  cases hanswer

end

/-- **A repeated preparation.** After a preparation that was stored, in every
run in which no other is stored under its key: a later call under the key does
what the first did just if its argument is told from the first one's, and, if it
is the same, the last rotation of the record wrote the envelope that was
prepared. -/
theorem preparation_replays (F : Externals) (configs : ℕ → Config) (repository : Repository) (ls ms : List Event)
    (c : ℕ) (call : Call) (input : PrepareEvidenceInput) (fingerprint hash : Bytes32) (result : ProtectionResult)
    (argument : PrepareArgument) (hcall : (after F configs repository ls).calls[c]? = some call)
    (hprepares : call.operation = .prepare input fingerprint hash) (hphase : call.phase = .preparing)
    (hstages : ((after F configs repository ls).services call.service).stages input result = true)
    (hkey : argument.idempotencyKey = input.idempotencyKey)
    (hfree : ∀ input', argument = .parsed input' → CollisionFree F input input')
    (halone : Guarded (step F configs) (fun S event => ¬StoresUnder call.service hash S event)
      (after F configs repository (ls ++ [.resume c (.stored result)])) ms) :
    Replays F (after F configs repository (ls ++ .resume c (.stored result) :: ms)) call.service input
        (publicPreparation (preparedRecord F (configs call.service) input fingerprint result)) argument ↔
      argument.told input ∧ (argument = .parsed input → ∀ written, lastRewrite F configs call.service hash
        (after F configs repository (ls ++ [.resume c (.stored result)])) ms = some written →
          written = (result.controllerEnvelope, result.controllerEnvelopeId)) := by
  obtain ⟨rfl, rfl, hlength⟩ := preparing_after F configs repository ls c call input fingerprint hash hcall hprepares
  have hprepared : after F configs repository (ls ++ [.resume c (.stored result)]) =
      step F configs (after F configs repository ls) (.resume c (.stored result)) := run_append _ _ ls _
  have hlater : after F configs repository (ls ++ .resume c (.stored result) :: ms) =
      run (step F configs) (step F configs (after F configs repository ls) (.resume c (.stored result))) ms :=
    run_append _ _ ls _
  rw [hprepared] at halone ⊢
  rw [hlater]
  have hstored := stored_run ms halone (stored_commit hcall hprepares hphase hstages)
  generalize run (step F configs) _ ms = S' at hstored ⊢
  generalize lastRewrite F configs call.service _ _ ms = last at hstored ⊢
  have hlast : (∀ written, last = some written → written = (result.controllerEnvelope, result.controllerEnvelopeId)) ↔
      last.getD (result.controllerEnvelope, result.controllerEnvelopeId) =
        (result.controllerEnvelope, result.controllerEnvelopeId) := by
    cases last with
    | none => simp
    | some written => simp
  rw [hlast]
  cases argument with
  | unparsed idempotencyKey =>
    have hkey : idempotencyKey = input.idempotencyKey := hkey
    constructor
    · intro hreplays
      exact absurd hreplays (not_replays_unparsed (hkey ▸ hlength hphase))
    · rintro ⟨⟨⟩, -⟩
  | parsed input' =>
    rw [replays_parsed_iff hstored (hlength hphase) hkey (hfree input' rfl), PrepareArgument.parsed.injEq]

namespace Sample

/-- The first preparation is asked for again, with another type of content and
for another credential of the controller. -/
def otherCredentialInput : PrepareEvidenceInput :=
  { firstInput with
    contentMediaType := "text/plain"
    controllerCredentialId := "urn:evllm:credential:00000000-0000-4000-8000-000000000071" }

/-- The first preparation is asked for again, for another authorization. -/
def otherAuthorizationInput : PrepareEvidenceInput := prepareInput otherAuthorizationId (List.replicate 32 7)

/-- The events before the preparation is stored. -/
def asked : List Event := [.keyLifecycle 0 (.addKey ⟨keyId, organizationId, .active⟩), .prepare 0 firstInput]

theorem otherAuthorization_free : CollisionFree externals firstInput otherAuthorizationInput := by
  refine ⟨fun _ => rfl, fun _ => rfl, fun h => ?_⟩
  have hdiffers : externals.digest (.fingerprint (fingerprintOf externals otherAuthorizationInput)) ≠
      externals.digest (.fingerprint (fingerprintOf externals firstInput)) := by decide
  exact absurd h hdiffers

end Sample

/-- Once the bundle is being finalized, its key with another authorization is a
conflict. -/
theorem preparation_replays_finalizing :
    Replays Sample.externals (after Sample.externals (fun _ => Sample.config) (.memory .empty ∅)
        (Sample.asked ++ .resume 0 (.stored Sample.firstResult) :: [.finalize 0 Sample.finalizeInput])) 0
      Sample.firstInput (publicPreparation (preparedRecord Sample.externals Sample.config Sample.firstInput
        (preparationFingerprint Sample.externals Sample.firstInput) Sample.firstResult))
      (.parsed Sample.otherAuthorizationInput) := by
  have hid : Sample.otherAuthorizationInput.controllerAuthorizationId ≠ Sample.firstInput.controllerAuthorizationId := by
    decide
  refine (preparation_replays Sample.externals (fun _ => Sample.config) (.memory .empty ∅) Sample.asked
    [.finalize 0 Sample.finalizeInput] 0
    ⟨0, .prepare Sample.firstInput (preparationFingerprint Sample.externals Sample.firstInput)
      (Sample.externals.sha256 Sample.firstInput.idempotencyKey), [], none, .preparing⟩
    Sample.firstInput _ _ Sample.firstResult (.parsed Sample.otherAuthorizationInput) rfl rfl rfl rfl rfl ?_ ?_).mpr ?_
  · rintro _ ⟨⟩
    exact Sample.otherAuthorization_free
  · refine ⟨?_, trivial⟩
    rintro ⟨c, stored, call, input, fingerprint, hevent, -⟩
    cases hevent
  · refine ⟨.inr fun heq => hid ?_, fun heq => absurd ?_ hid⟩
    · have hsame := congrArg PrepareEvidenceInput.controllerAuthorizationId heq
      exact hsame
    · rw [PrepareArgument.parsed.inj heq]

/-- The key with another type of content and another credential is answered as
if nothing had changed. -/
theorem preparation_not_told :
    Sample.otherCredentialInput.idempotencyKey = Sample.firstInput.idempotencyKey ∧
      Sample.otherCredentialInput ≠ Sample.firstInput ∧
      prepareAnswer Sample.externals ((Sample.prepared (.memory .empty ∅)).services 0)
        (.parsed Sample.otherCredentialInput) = some (.ok (publicPreparation Sample.record)) ∧
      ¬Replays Sample.externals (Sample.prepared (.memory .empty ∅)) 0 Sample.firstInput (publicPreparation Sample.record)
        (.parsed Sample.otherCredentialInput) := by
  have hne : Sample.otherCredentialInput ≠ Sample.firstInput := by
    intro heq
    have htype : Sample.otherCredentialInput.contentMediaType ≠ Sample.firstInput.contentMediaType := by decide
    exact htype (congrArg PrepareEvidenceInput.contentMediaType heq)
  have hanswer : prepareAnswer Sample.externals ((Sample.prepared (.memory .empty ∅)).services 0)
      (.parsed Sample.otherCredentialInput) = some (.ok (publicPreparation Sample.record)) := rfl
  refine ⟨rfl, hne, hanswer, ?_⟩
  rintro ⟨hreplayed, -⟩
  rw [hanswer, if_neg fun heq => hne (PrepareArgument.parsed.inj heq)] at hreplayed
  cases hreplayed

end Evidence
end Evllm
