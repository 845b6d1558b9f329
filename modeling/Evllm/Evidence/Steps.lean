/-
# What a step of the system can be

Every step is one of seven kinds (`Stepped`): nothing happens to services and
calls, a call begins, a promotion writes the id of its replica and begins, the
repository settles a call, a call that it refused rolls its nonces back, a call
goes on, or the key registry that a service exposes is used.

`Rule` is the rule for invariants of this shape: one predicate of every service
(`I`), one of every call with its service (`J`), and a relation (`R`) that a
service's moves respect and that keeps `J` of the calls which do not move.

Key definitions: `Begins`, `Stepped`, `Holds`, `Rule`.
Key theorems: `step_cases`, `Stepped.call_cases`, `Rule.step`, `Rule.run`.
-/
import Evllm.Evidence.Workflow
import Evllm.Lib.LastWith

namespace Evllm
namespace Evidence

open Lib

/-- The call goes on from an `await` outside of the repository. -/
def Phase.goesOn : Phase → Bool
  | .rejected | .consuming | .returned | .failed => false
  | _ => true

/-- The phases before the operation's own part, and the failed one. -/
def Phase.outside : Phase → Bool
  | .consuming | .rejected | .working | .failed => true
  | _ => false

theorem record_eq_ok {service : BundleService} {bundleId : String} {ref : Ref} {record : PreparedInternal} :
    service.record bundleId = .ok (ref, record) ↔
      service.byBundle.ref bundleId = some ref ∧ service.byBundle.deref ref = some record := by
  constructor
  · intro h
    unfold BundleService.record at h
    split at h
    · cases h
    next href =>
      split at h
      · cases h
      next hrecord =>
        cases h
        exact ⟨href, hrecord⟩
  · rintro ⟨href, hrecord⟩
    simp only [BundleService.record, href, hrecord]

/-! ### The kinds of steps -/

section

variable (F : Externals) (configs : ℕ → Config) (S : System)

/-- The calls that an event can begin. What follows a check that passed is
consumed first, so the call is outside of its operation's own part. -/
inductive Begins : Event → Call → Prop where
  | prepare (i : ℕ) (input : PrepareEvidenceInput) (phase : Phase)
      (first : phase = .preparing ∨ phase = .failed ∨ phase = .returned) :
      Begins (.prepare i input)
        ⟨i, .prepare input (preparationFingerprint F input) (F.sha256 input.idempotencyKey), [], none, phase⟩
  | finalize (i : ℕ) (input : FinalizeInput) (ref : Ref) (request : ConsumeRequest)
      (nonces : List PendingNonceConsumption) (phase : Phase) (outside : phase.outside)
      (checked : checkFinalize F (configs i) (S.services i) input = .ok (ref, request)) :
      Begins (.finalize i input) ⟨i, .finalize input ref, nonces, some request, phase⟩
  | rotate (i : ℕ) (input : RotateInput) (ref : Ref) (scope : NonceScope) (request : ConsumeRequest)
      (nonces : List PendingNonceConsumption) (phase : Phase) (outside : phase.outside)
      (checked : checkRotate F (configs i) (S.services i) input = .ok (ref, scope, request)) :
      Begins (.rotateControllerEnvelope i input) ⟨i, .rotate input ref, nonces, some request, phase⟩
  | grant (i : ℕ) (input : GrantInput) (ref : Ref) (scope : NonceScope) (request : ConsumeRequest)
      (nonces : List PendingNonceConsumption) (phase : Phase) (outside : phase.outside)
      (checked : checkGrant F (configs i) (S.services i) input = .ok (ref, scope, request)) :
      Begins (.grantRecipient i input) ⟨i, .grant input ref, nonces, some request, phase⟩
  | retrieve (i : ℕ) (input : RetrieveInput) (ref : Ref) (request : ConsumeRequest)
      (nonces : List PendingNonceConsumption) (phase : Phase) (outside : phase.outside)
      (checked : checkRetrieve F (configs i) (S.services i) input = .ok (ref, request)) :
      Begins (.retrieveWithGrant i input) ⟨i, .retrieve input ref, nonces, some request, phase⟩

/-- A promotion writes the id of its replica to the record. -/
def BundleService.assignReplica (service : BundleService) (ref : Ref) (replicaObjectId : String) : BundleService :=
  service.mutateRecord ref fun record => { record with replicaObjectId := some replicaObjectId }

/-- The service and the phase after a call has gone on. -/
def Call.next (call : Call) (result : AwaitResult) : BundleService × Phase :=
  continueCall F (configs call.service) (S.services call.service) call.phase result call.operation

inductive Stepped : Event → System → Prop where
  | idle (event : Event) (repository : Repository)
      (quiet : ∀ c result call, event = .resume c result → S.calls[c]? = some call → call.phase.goesOn = false) :
      Stepped event { S with repository }
  | begins (event : Event) (call : Call) (repository : Repository) (stores : NonceStoreName → NonceStore)
      (begins : Begins F configs S event call) :
      Stepped event (({ S with repository }.setService call.service
        ((S.services call.service).setNonces stores)).addCall call)
  | promotes (i : ℕ) (bundleId replicaObjectId : String) (ref : Ref) (record : PreparedInternal)
      (stored : (S.services i).record bundleId = .ok (ref, record)) (finalized : record.finalized = true)
      (supplementary : record.critical = false) :
      Stepped (.promoteToDecisionCritical i bundleId replicaObjectId)
        ((S.setService i ((S.services i).assignReplica ref replicaObjectId)).addCall
          ⟨i, .promote bundleId ref, [], none, .replicating⟩)
  | settles (event : RepositoryEvent) (c : ℕ) (call : Call) (repository : Repository)
      (result : Except RepositoryError Unit) (called : S.calls[c]? = some call) (consuming : call.phase = .consuming) :
      Stepped (.repository event) ({ S with repository }.setPhase c call (settledPhase result))
  | rollsBack (c : ℕ) (call : Call) (result : AwaitResult) (called : S.calls[c]? = some call)
      (rejected : call.phase = .rejected) : Stepped (.resume c result) (rollbackProofs S c call)
  | goesOn (c : ℕ) (call : Call) (result : AwaitResult) (called : S.calls[c]? = some call)
      (goesOn : call.phase.goesOn) :
      Stepped (.resume c result)
        ((S.setService call.service (call.next F configs S result).1).setPhase c call (call.next F configs S result).2)
  | registry (i : ℕ) (event : Keys.Event) :
      Stepped (.keyLifecycle i event)
        (S.setService i { S.services i with keyLifecycle := (S.services i).keyLifecycle.step event })

end

section

variable {F : Externals} {configs : ℕ → Config} {S S' : System}

theorem stepped_consumeValidatedProofs {event : Event} {i : ℕ} {operation : Operation}
    {pending : List PendingNonceConsumption} {request : ConsumeRequest}
    (h : ∀ nonces phase, phase.outside → Begins F configs S event ⟨i, operation, nonces, some request, phase⟩) :
    Stepped F configs S event (consumeValidatedProofs S i operation pending request) := by
  unfold consumeValidatedProofs
  dsimp only
  split
  next stores consumed _ => exact .begins event _ S.repository _ (h [] .failed rfl)
  next stores consumed _ =>
    split
    next repository _ _ => exact .begins event _ repository _ (h [] .failed rfl)
    next repository _ _ => exact .begins event _ repository _ (h consumed .working rfl)
    next repository _ => exact .begins event _ repository _ (h consumed .consuming rfl)

theorem stepped_startChecked {α : Type} {event : Event} {i : ℕ} {checked : Except ServiceError α}
    {operation : α → Operation} {localNonces : α → List PendingNonceConsumption} {request : α → ConsumeRequest}
    (hevent : ∀ c result call, event = .resume c result → S.calls[c]? = some call → call.phase.goesOn = false)
    (h : ∀ x nonces phase, checked = .ok x → phase.outside →
      Begins F configs S event ⟨i, operation x, nonces, some (request x), phase⟩) :
    Stepped F configs S event (startChecked S i checked operation localNonces request) := by
  rcases checked with e | x
  · exact .idle event S.repository hevent
  · exact stepped_consumeValidatedProofs fun nonces phase => h x nonces phase rfl

/-- A call that begins without a nonce leaves the services as they are. -/
theorem Stepped.addCall {event : Event} {call : Call} (h : Begins F configs S event call) :
    Stepped F configs S event (S.addCall call) := by
  have hsame : S.services = Function.update S.services call.service (S.services call.service) :=
    (Function.update_eq_self call.service S.services).symm
  have hadd : S.addCall call = ({ S with repository := S.repository }.setService call.service
      ((S.services call.service).setNonces (S.services call.service).nonces)).addCall call := by
    simp only [System.addCall, System.setService, BundleService.setNonces]
    rw [← hsame]
  rw [hadd]
  exact .begins event call S.repository _ h

theorem stepped_startPrepare (i : ℕ) (input : PrepareEvidenceInput) :
    Stepped F configs S (.prepare i input) (startPrepare F S i input) := by
  unfold startPrepare
  dsimp only
  split_ifs with hlength
  · exact .addCall (.prepare i input .failed (.inr (.inl rfl)))
  · split
    next existing _ =>
      refine .addCall (.prepare i input _ ?_)
      split_ifs
      · exact .inr (.inl rfl)
      · exact .inr (.inr rfl)
    · exact .addCall (.prepare i input .preparing (.inl rfl))

theorem stepped_startPromote (i : ℕ) (bundleId replicaObjectId : String) :
    Stepped F configs S (.promoteToDecisionCritical i bundleId replicaObjectId)
      (startPromote S i bundleId replicaObjectId) := by
  unfold startPromote
  split
  · exact .idle _ S.repository (by rintro _ _ _ ⟨⟩)
  next ref record hrecord =>
    split_ifs with hstate
    · exact .idle _ S.repository (by rintro _ _ _ ⟨⟩)
    · obtain ⟨hfinalized, hcritical⟩ := not_or.mp hstate
      exact .promotes i bundleId replicaObjectId ref record hrecord (by simpa using hfinalized) (by simpa using hcritical)

theorem stepped_resumeCall {c : ℕ} {call : Call} (result : AwaitResult) (hc : S.calls[c]? = some call) :
    Stepped F configs S (.resume c result) (resumeCall F configs S c call result) := by
  have hidle : call.phase.goesOn = false → Stepped F configs S (.resume c result) S := by
    intro hquiet
    refine .idle _ S.repository ?_
    rintro _ _ other ⟨⟩ hother
    rwa [← Option.some.inj (hc.symm.trans hother)]
  unfold resumeCall
  split
  next hrejected => exact .rollsBack c call result hc hrejected
  next hconsuming =>
    refine hidle ?_
    rw [hconsuming]
    rfl
  next hreturned =>
    refine hidle ?_
    rw [hreturned]
    rfl
  next hfailed =>
    refine hidle ?_
    rw [hfailed]
    rfl
  next hrejected hconsuming hreturned hfailed =>
    have hgoes : call.phase.goesOn = true := by
      unfold Phase.goesOn
      split
      · exact absurd ‹_› hrejected
      · exact absurd ‹_› hconsuming
      · exact absurd ‹_› hreturned
      · exact absurd ‹_› hfailed
      · rfl
    exact .goesOn c call result hc hgoes

/-- **What a step is.** -/
theorem step_cases (event : Event) : Stepped F configs S event (step F configs S event) := by
  cases event with
  | prepare i input => exact stepped_startPrepare i input
  | finalize i input =>
    refine stepped_startChecked (by rintro _ _ _ ⟨⟩) ?_
    rintro ⟨ref, request⟩ nonces phase hchecked hphase
    exact .finalize i input ref request nonces phase hphase hchecked
  | rotateControllerEnvelope i input =>
    refine stepped_startChecked (by rintro _ _ _ ⟨⟩) ?_
    rintro ⟨ref, scope, request⟩ nonces phase hchecked hphase
    exact .rotate i input ref scope request nonces phase hphase hchecked
  | grantRecipient i input =>
    refine stepped_startChecked (by rintro _ _ _ ⟨⟩) ?_
    rintro ⟨ref, scope, request⟩ nonces phase hchecked hphase
    exact .grant i input ref scope request nonces phase hphase hchecked
  | retrieveWithGrant i input =>
    refine stepped_startChecked (by rintro _ _ _ ⟨⟩) ?_
    rintro ⟨ref, request⟩ nonces phase hchecked hphase
    exact .retrieve i input ref request nonces phase hphase hchecked
  | promoteToDecisionCritical i bundleId replicaObjectId => exact stepped_startPromote i bundleId replicaObjectId
  | repository event =>
    simp only [step, stepRepository]
    obtain hnone | ⟨c, call, result, -, hc, hconsuming, hset⟩ :=
      settleCall_cases { S with repository := (S.repository.step event).1 } (S.repository.step event).2
    · rw [hnone]
      exact .idle _ _ (by rintro _ _ _ ⟨⟩)
    · rw [hset]
      exact .settles event c call _ result hc hconsuming
  | resume c result =>
    cases hc : S.calls[c]? with
    | none =>
      simp only [step, hc]
      refine .idle _ S.repository ?_
      rintro _ _ other ⟨⟩ hother
      rw [hc] at hother
      cases hother
    | some call =>
      simp only [step, hc]
      exact stepped_resumeCall result hc
  | keyLifecycle i event => exact .registry i event

/-- The system after call `c` has gone on. -/
theorem step_goesOn {c : ℕ} {call : Call} {result : AwaitResult} (hc : S.calls[c]? = some call)
    (hgoes : call.phase.goesOn) : step F configs S (.resume c result) =
      (S.setService call.service (call.next F configs S result).1).setPhase c call (call.next F configs S result).2 := by
  simp only [step, hc]
  unfold resumeCall
  split
  next hphase => rw [hphase] at hgoes; cases hgoes
  next hphase => rw [hphase] at hgoes; cases hgoes
  next hphase => rw [hphase] at hgoes; cases hgoes
  next hphase => rw [hphase] at hgoes; cases hgoes
  next => rfl

end

/-! ### One call in a step -/

section

variable {F : Externals} {configs : ℕ → Config} {S S' : System} {c : ℕ} {call : Call}

/-- **A call after a step** is as it was, has begun, is outside of its
operation's own part, or has gone on. -/
theorem Stepped.call_cases {event : Event} (h : Stepped F configs S event S') (hc : S'.calls[c]? = some call) :
    S.calls[c]? = some call ∨ Begins F configs S event call ∨ (∃ bundleId ref, call.operation = .promote bundleId ref) ∨
      (∃ old, S.calls[c]? = some old ∧ call.operation = old.operation ∧ call.phase.outside) ∨
      ∃ old result, event = .resume c result ∧ S.calls[c]? = some old ∧ old.phase.goesOn ∧
        call = { old with phase := (old.next F configs S result).2 } := by
  cases h with
  | idle event repository quiet => exact .inl hc
  | begins event new repository stores begins =>
    obtain hold | ⟨-, rfl⟩ := getElem?_concat_eq_some.mp hc
    · exact .inl hold
    · exact .inr (.inl begins)
  | promotes i bundleId replicaObjectId ref record stored finalized supplementary =>
    obtain hold | ⟨-, rfl⟩ := getElem?_concat_eq_some.mp hc
    · exact .inl hold
    · exact .inr (.inr (.inl ⟨bundleId, ref, rfl⟩))
  | settles event d moved repository result called consuming =>
    obtain ⟨rfl, rfl⟩ | ⟨-, hold⟩ := (getElem?_set_eq_some called).mp hc
    · refine .inr (.inr (.inr (.inl ⟨moved, called, rfl, ?_⟩)))
      cases result with
      | error e => rfl
      | ok u => rfl
    · exact .inl hold
  | rollsBack d moved result called rejected =>
    obtain ⟨rfl, rfl⟩ | ⟨-, hold⟩ := (getElem?_set_eq_some called).mp hc
    · exact .inr (.inr (.inr (.inl ⟨moved, called, rfl, rfl⟩)))
    · exact .inl hold
  | goesOn d moved result called goesOn =>
    obtain ⟨rfl, rfl⟩ | ⟨-, hold⟩ := (getElem?_set_eq_some called).mp hc
    · exact .inr (.inr (.inr (.inr ⟨moved, result, rfl, called, goesOn, rfl⟩)))
    · exact .inl hold
  | registry i event => exact .inl hc

/-- A call keeps its service and its operation. -/
theorem Stepped.call_stays {event : Event} (h : Stepped F configs S event S') (hc : S.calls[c]? = some call) :
    ∃ call', S'.calls[c]? = some call' ∧ call'.service = call.service ∧ call'.operation = call.operation := by
  have hset : ∀ {d : ℕ} {moved new : Call}, S.calls[d]? = some moved → new.service = moved.service →
      new.operation = moved.operation → ∃ call', (S.calls.set d new)[c]? = some call' ∧
        call'.service = call.service ∧ call'.operation = call.operation := by
    intro d moved new hd hservice hoperation
    by_cases hdc : d = c
    · subst hdc
      obtain rfl : moved = call := Option.some.inj (hd.symm.trans hc)
      exact ⟨new, (getElem?_set_eq_some hd).mpr (.inl ⟨rfl, rfl⟩), hservice, hoperation⟩
    · exact ⟨call, (getElem?_set_eq_some hd).mpr (.inr ⟨hdc, hc⟩), rfl, rfl⟩
  cases h with
  | idle event repository quiet => exact ⟨call, hc, rfl, rfl⟩
  | begins event new repository stores begins => exact ⟨call, getElem?_concat_eq_some.mpr (.inl hc), rfl, rfl⟩
  | promotes i bundleId replicaObjectId ref record stored finalized supplementary =>
    exact ⟨call, getElem?_concat_eq_some.mpr (.inl hc), rfl, rfl⟩
  | settles event d moved repository result called consuming => exact hset called rfl rfl
  | rollsBack d moved result called rejected => exact hset called rfl rfl
  | goesOn d moved result called goesOn => exact hset called rfl rfl
  | registry i event => exact ⟨call, hc, rfl, rfl⟩

end

section

variable {F : Externals} {configs : ℕ → Config} {S S' : System}

/-- What a service keeps when it moves, all services keep. -/
theorem view_update {α : Type} (view : BundleService → α) {i : ℕ} {service : BundleService}
    (h : view service = view (S.services i)) (j : ℕ) :
    view (Function.update S.services i service j) = view (S.services j) := by
  by_cases hj : j = i
  · rw [hj, Function.update_self, h]
  · rw [Function.update_of_ne hj]

/-- Only a call that goes on and a promotion write to the records. -/
theorem Stepped.byBundle {event : Event} (h : Stepped F configs S event S') :
    (∀ i, (S'.services i).byBundle = (S.services i).byBundle) ∨ (∃ c result, event = .resume c result) ∨
      ∃ i bundleId replicaObjectId, event = .promoteToDecisionCritical i bundleId replicaObjectId := by
  cases h with
  | idle event repository quiet => exact .inl fun _ => rfl
  | begins event new repository stores begins => exact .inl (view_update BundleService.byBundle rfl)
  | promotes i bundleId replicaObjectId ref record stored finalized supplementary => exact .inr (.inr ⟨_, _, _, rfl⟩)
  | settles event d moved repository result called consuming => exact .inl fun _ => rfl
  | rollsBack d moved result called rejected => exact .inr (.inl ⟨_, _, rfl⟩)
  | goesOn d moved result called goesOn => exact .inr (.inl ⟨_, _, rfl⟩)
  | registry i event => exact .inl (view_update BundleService.byBundle rfl)

end

/-! ### Invariants of services and calls -/

/-- `I` holds of every service and `J` of every call. -/
structure Holds (I : BundleService → Prop) (J : BundleService → Operation → Phase → Prop) (S : System) : Prop where
  services : ∀ i, I (S.services i)
  calls : ∀ call ∈ S.calls, J (S.services call.service) call.operation call.phase

theorem holds_newSystem {I : BundleService → Prop} {J : BundleService → Operation → Phase → Prop} (h : I .new)
    (repository : Repository) : Holds I J (newSystem repository) :=
  ⟨fun _ => h, fun _ hcall => nomatch hcall⟩

/-- What has to be shown of the moves that meet `C`. -/
structure Rule (F : Externals) (configs : ℕ → Config) (C : System → Event → Prop) (I : BundleService → Prop)
    (J : BundleService → Operation → Phase → Prop) (R : BundleService → BundleService → Prop) : Prop where
  refl : ∀ service, R service service
  mono : ∀ service service' operation phase, R service service' → J service operation phase → J service' operation phase
  nonces : ∀ service stores, I service → I (service.setNonces stores) ∧ R service (service.setNonces stores)
  begins : ∀ S event call, C S event → Begins F configs S event call → I (S.services call.service) →
    J (S.services call.service) call.operation call.phase
  outside : ∀ service operation phase phase', phase'.outside → J service operation phase → J service operation phase'
  promotes : ∀ S i bundleId replicaObjectId ref record, C S (.promoteToDecisionCritical i bundleId replicaObjectId) →
    (S.services i).record bundleId = .ok (ref, record) → record.finalized = true → record.critical = false →
    I (S.services i) → I ((S.services i).assignReplica ref replicaObjectId) ∧
      R (S.services i) ((S.services i).assignReplica ref replicaObjectId) ∧
      J ((S.services i).assignReplica ref replicaObjectId) (.promote bundleId ref) .replicating
  goesOn : ∀ S c call result, C S (.resume c result) → S.calls[c]? = some call → call.phase.goesOn →
    I (S.services call.service) → J (S.services call.service) call.operation call.phase →
    I (call.next F configs S result).1 ∧ R (S.services call.service) (call.next F configs S result).1 ∧
      J (call.next F configs S result).1 call.operation (call.next F configs S result).2
  registry : ∀ S i event, C S (.keyLifecycle i event) → I (S.services i) →
    I { S.services i with keyLifecycle := (S.services i).keyLifecycle.step event } ∧
      R (S.services i) { S.services i with keyLifecycle := (S.services i).keyLifecycle.step event }

section

variable {F : Externals} {configs : ℕ → Config} {C : System → Event → Prop} {I : BundleService → Prop}
variable {J : BundleService → Operation → Phase → Prop} {R : BundleService → BundleService → Prop} {S S' : System}

/-- One service moves, and `J` holds of the calls that are new or have moved. -/
theorem Rule.update (hrule : Rule F configs C I J R) (h : Holds I J S) {i : ℕ} {service : BundleService}
    (hservices : S'.services = Function.update S.services i service) (hI : I service) (hR : R (S.services i) service)
    (hcalls : ∀ call ∈ S'.calls, call ∈ S.calls ∨ J (S'.services call.service) call.operation call.phase) :
    Holds I J S' ∧ ∀ j, R (S.services j) (S'.services j) := by
  have hself : S'.services i = service := by rw [hservices, Function.update_self]
  have hother : ∀ j, j ≠ i → S'.services j = S.services j := by
    intro j hj
    rw [hservices, Function.update_of_ne hj]
  have hmoves : ∀ j, R (S.services j) (S'.services j) := by
    intro j
    by_cases hj : j = i
    · rw [hj, hself]
      exact hR
    · rw [hother j hj]
      exact hrule.refl _
  refine ⟨⟨fun j => ?_, fun call hcall => ?_⟩, hmoves⟩
  · by_cases hj : j = i
    · rw [hj, hself]
      exact hI
    · rw [hother j hj]
      exact h.services j
  · obtain hold | hnew := hcalls call hcall
    · exact hrule.mono _ _ _ _ (hmoves call.service) (h.calls call hold)
    · exact hnew

/-- The services stay as they are. -/
theorem Rule.sameServices (hrule : Rule F configs C I J R) (h : Holds I J S) (hservices : S'.services = S.services)
    (hcalls : ∀ call ∈ S'.calls, call ∈ S.calls ∨ J (S'.services call.service) call.operation call.phase) :
    Holds I J S' ∧ ∀ j, R (S.services j) (S'.services j) :=
  hrule.update (i := 0) h (hservices.trans (Function.update_eq_self 0 S.services).symm) (h.services 0)
    (hrule.refl _) hcalls

theorem mem_addCall {call new : Call} (h : call ∈ (S.addCall new).calls) : call ∈ S.calls ∨ call = new := by
  obtain hold | hnew := List.mem_append.mp h
  · exact .inl hold
  · exact .inr (List.mem_singleton.mp hnew)

/-- **One step.** -/
theorem Rule.step (hrule : Rule F configs C I J R) {event : Event} (hC : C S event) (h : Holds I J S) :
    Holds I J (step F configs S event) ∧ ∀ i, R (S.services i) ((Evidence.step F configs S event).services i) := by
  generalize hS' : Evidence.step F configs S event = S'
  have hstep : Stepped F configs S event S' := hS' ▸ step_cases event
  cases hstep with
  | idle event repository quiet => exact hrule.sameServices h rfl fun _ hcall => .inl hcall
  | begins event new repository stores begins =>
    obtain ⟨hI, hR⟩ := hrule.nonces _ stores (h.services new.service)
    refine hrule.update h rfl hI hR fun call hcall => (mem_addCall hcall).imp id ?_
    rintro rfl
    have hJ := hrule.begins S event call hC begins (h.services call.service)
    simp only [System.addCall, System.setService, Function.update_self]
    exact hrule.mono _ _ _ _ hR hJ
  | promotes i bundleId replicaObjectId ref record stored finalized supplementary =>
    obtain ⟨hI, hR, hJ⟩ := hrule.promotes S i bundleId replicaObjectId ref record hC stored finalized supplementary
      (h.services i)
    refine hrule.update h rfl hI hR fun call hcall => (mem_addCall hcall).imp id ?_
    rintro rfl
    simp only [System.addCall, System.setService, Function.update_self]
    exact hJ
  | settles event c moved repository result called consuming =>
    refine hrule.sameServices h rfl fun call hcall => (List.mem_or_eq_of_mem_set hcall).imp id ?_
    rintro rfl
    have hphase : (settledPhase result).outside = true := by
      cases result with
      | error e => rfl
      | ok u => rfl
    exact hrule.outside _ _ _ _ hphase (h.calls moved (List.mem_of_getElem? called))
  | rollsBack c moved result called rejected =>
    obtain ⟨hI, hR⟩ := hrule.nonces _ (rollbackLocalNonces (S.services moved.service).nonces moved.nonces)
      (h.services moved.service)
    refine hrule.update h rfl hI hR fun call hcall => (List.mem_or_eq_of_mem_set hcall).imp id ?_
    rintro rfl
    have hJ := hrule.outside _ _ _ .failed rfl (h.calls moved (List.mem_of_getElem? called))
    simp only [rollbackProofs, System.setService, Function.update_self]
    exact hrule.mono _ _ _ _ hR hJ
  | goesOn c moved result called goesOn =>
    obtain ⟨hI, hR, hJ⟩ := hrule.goesOn S c moved result hC called goesOn (h.services moved.service)
      (h.calls moved (List.mem_of_getElem? called))
    refine hrule.update h rfl hI hR fun call hcall => (List.mem_or_eq_of_mem_set hcall).imp id ?_
    rintro rfl
    simp only [System.setPhase, System.setService, Function.update_self]
    exact hJ
  | registry i event =>
    obtain ⟨hI, hR⟩ := hrule.registry S i event hC (h.services i)
    exact hrule.update h rfl hI hR fun _ hcall => .inl hcall

/-- **A run of steps that meet the condition.** -/
theorem Rule.run (hrule : Rule F configs C I J R) (hnew : I .new) {repository : Repository} {ls : List Event}
    (hguard : Guarded (Evidence.step F configs) C (newSystem repository) ls) :
    Holds I J (after F configs repository ls) :=
  run_guarded (I := Holds I J) (fun _ _ hC h => (hrule.step hC h).1) ls hguard (holds_newSystem hnew repository)

end

end Evidence
end Evllm
