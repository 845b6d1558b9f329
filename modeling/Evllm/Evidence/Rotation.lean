/-
# Controller rotation

The authorizations of a service and its bundle records, followed along a run
together with which record each authorization belongs to and which rotations
have completed (`Trace`): an authorization belongs to the record whose
preparation staged it, and a successor to the record of its predecessor. The
trace is read off the steps and changes none of them (`tracedAfter_system`).

A service, its trace and the calls that have rotated and not yet written are a
register (`registerOf`). Where every rotation that completes is exclusive
(`Exclusive`), a step is one of the register's moves (`progress_step`), so what
holds of every register holds of every service (`rotation_is_linear`).

Key definitions: `Trace`, `rotationOf`, `Traced`, `Exclusive`, `registerOf`.
Key theorems: `progress_step`, `custody_step`, `rotation_is_linear`,
`rotation_not_linear`.
-/
import Evllm.Evidence.Continuations
import Evllm.Evidence.Grants
import Evllm.Keys.Authorizations

namespace Evllm
namespace Evidence

open Lib Contracts Function

def BundleService.authorizations (service : BundleService) : ObjectMap String Keys.ControllerAuthorizationRecord :=
  service.keyLifecycle.registry.authorizations

/-! ### What a run leaves behind -/

/-- The record that each authorization belongs to, and the rotations: the ids of
the authorization rotated away and of its successor. -/
structure Trace where
  owner : String → Option Ref
  rotations : List (String × String)

def Trace.new : Trace := ⟨fun _ => none, []⟩

/-- The successors of an authorization, in the order of the rotations. -/
def Trace.successors (trace : Trace) (id : String) : List String :=
  (trace.rotations.filter fun rotation => rotation.1 = id).map Prod.snd

/-- A rotation that completes: `caller` is the record of the call of
`rotateControllerEnvelope`, or none if the key registry was called directly. -/
structure Rotation where
  service : ℕ
  predecessor : Ref
  successor : Keys.ControllerAuthorizationRecord
  caller : Option Ref

/-- The rotation that an event completes: the callback of a suspended
`rotateControllerAuthorization` answers `true`. -/
def rotationOf (S : System) : Event → Option Rotation
  | .resume c (.verified true) =>
    match S.calls[c]? with
    | some ⟨i, .rotate _ ref, _, _, .verifying suspended _ _⟩ =>
      suspended.rotation.map fun rotation => ⟨i, rotation.1, rotation.2, some ref⟩
    | _ => none
  | .keyLifecycle i event =>
    ((S.services i).keyLifecycle.rotation event).map fun rotation => ⟨i, rotation.1, rotation.2, none⟩
  | _ => none

/-- The authorization of a record that the step has stored belongs to it. -/
def Trace.prepared (trace : Trace) (before after : BundleService) : Trace :=
  match after.byBundle.deref before.byBundle.heap.length with
  | none => trace
  | some record =>
    { trace with owner := update trace.owner record.controllerAuthorizationId (some before.byBundle.heap.length) }

/-- A successor belongs to the record of its predecessor. -/
def Trace.rotated (trace : Trace) (m : ObjectMap String Keys.ControllerAuthorizationRecord) (rotation : Rotation) :
    Trace :=
  match m.deref rotation.predecessor with
  | none => trace
  | some a =>
    { owner := update trace.owner rotation.successor.authorizationId (trace.owner a.authorizationId)
      rotations := trace.rotations ++ [(a.authorizationId, rotation.successor.authorizationId)] }

def Trace.next (trace : Trace) (before after : BundleService) : Option Rotation → Trace
  | none => trace.prepared before after
  | some rotation => (trace.prepared before after).rotated before.authorizations rotation

structure Traced where
  system : System
  traces : ℕ → Trace

def Traced.new (repository : Repository) : Traced := ⟨newSystem repository, fun _ => .new⟩

section

variable (F : Externals) (configs : ℕ → Config)

def Traced.step (T : Traced) (event : Event) : Traced where
  system := Evidence.step F configs T.system event
  traces i := (T.traces i).next (T.system.services i) ((Evidence.step F configs T.system event).services i)
    ((rotationOf T.system event).filter fun rotation => rotation.service = i)

def tracedAfter (repository : Repository) (ls : List Event) : Traced :=
  run (Traced.step F configs) (.new repository) ls

/-- The trace changes nothing of the system. -/
theorem run_system (ls : List Event) (T : Traced) :
    (run (Traced.step F configs) T ls).system = run (step F configs) T.system ls := by
  induction ls generalizing T with
  | nil => rfl
  | cons event ls ih => exact ih (T.step F configs event)

theorem tracedAfter_system (repository : Repository) (ls : List Event) :
    (tracedAfter F configs repository ls).system = after F configs repository ls :=
  run_system F configs ls (.new repository)

end

/-! ### Exclusive rotations -/

/-- The rotation finds its predecessor still active and its successor's id free,
and one of a finalized bundle's authorization is made for that bundle. -/
structure Rotation.Exclusive (T : Traced) (rotation : Rotation) : Prop where
  active : ∃ a ∈ (T.system.services rotation.service).authorizations.deref rotation.predecessor, a.state = .active
  free : Keys.FreeFor (T.system.services rotation.service).authorizations rotation.successor
  own : ∀ a ∈ (T.system.services rotation.service).authorizations.deref rotation.predecessor,
    ∀ ref ∈ (T.traces rotation.service).owner a.authorizationId,
    ∀ record ∈ (T.system.services rotation.service).byBundle.deref ref,
      record.finalized = true → rotation.caller = some ref

instance (T : Traced) (rotation : Rotation) : Decidable (rotation.Exclusive T) :=
  decidable_of_iff
    ((∃ a ∈ (T.system.services rotation.service).authorizations.deref rotation.predecessor, a.state = .active) ∧
      Keys.FreeFor (T.system.services rotation.service).authorizations rotation.successor ∧
      ∀ a ∈ (T.system.services rotation.service).authorizations.deref rotation.predecessor,
      ∀ ref ∈ (T.traces rotation.service).owner a.authorizationId,
      ∀ record ∈ (T.system.services rotation.service).byBundle.deref ref,
        record.finalized = true → rotation.caller = some ref)
    ⟨fun h => ⟨h.1, h.2.1, h.2.2⟩, fun h => ⟨h.active, h.free, h.own⟩⟩

/-- Every rotation that the event completes is exclusive. -/
def Exclusive (T : Traced) (event : Event) : Prop := ∀ rotation ∈ rotationOf T.system event, rotation.Exclusive T

instance (T : Traced) (event : Event) : Decidable (Exclusive T event) :=
  inferInstanceAs (Decidable (∀ rotation ∈ rotationOf T.system event, rotation.Exclusive T))

/-- A rotation of an authorization that belongs to no record. -/
theorem Rotation.exclusive_of_unowned {T : Traced} {rotation : Rotation} (a : Keys.ControllerAuthorizationRecord)
    (ha : (T.system.services rotation.service).authorizations.deref rotation.predecessor = some a)
    (hactive : a.state = .active)
    (hnew : (T.system.services rotation.service).authorizations.get rotation.successor.authorizationId = none)
    (howner : (T.traces rotation.service).owner a.authorizationId = none) : rotation.Exclusive T := by
  refine ⟨⟨a, ha, hactive⟩, fun old hold => ?_, fun a' ha' ref href => ?_⟩
  · cases hnew.symm.trans hold
  · obtain rfl : a = a' := Option.some.inj (ha.symm.trans ha')
    cases howner.symm.trans href

/-! ### The register of a service -/

/-- What a record says of its controller authorization. -/
def PreparedInternal.holding (record : PreparedInternal) : Holding String (String × String) :=
  ⟨record.controllerAuthorizationId, (record.controllerEnvelopeId, record.controllerEncryptionKeyId), record.finalized⟩

def BundleService.holding (service : BundleService) (ref : Ref) : Option (Holding String (String × String)) :=
  (service.byBundle.deref ref).map PreparedInternal.holding

/-- A call that has rotated in the registry of service `i` and not yet written
its record: the record, and the authorization to be written. -/
def Call.pending (i : ℕ) (call : Call) : Option (Ref × String × String × String) :=
  match call.operation, call.phase with
  | .rotate input ref, .rotated _ _ =>
    if call.service = i then
      some (ref, input.successorAuthorizationId, input.successorEnvelopeId, input.successorKeyId)
    else none
  | _, _ => none

def pendingOf (calls : List Call) (i c : ℕ) : Option (Ref × String × String × String) :=
  (calls[c]?).bind (Call.pending i)

def registerOf (service : BundleService) (trace : Trace) (calls : List Call) (i : ℕ) :
    Register String Ref (String × String) ℕ where
  entries := Keys.entryOf service.authorizations
  owner := trace.owner
  rotations := trace.rotations
  holding := service.holding
  pending := pendingOf calls i

def Traced.register (T : Traced) (i : ℕ) : Register String Ref (String × String) ℕ :=
  registerOf (T.system.services i) (T.traces i) T.system.calls i

theorem register_owner (T : Traced) (i : ℕ) : (T.register i).owner = (T.traces i).owner := rfl

/-! ### What a step does to a register -/

section

variable {service service' : BundleService} {trace : Trace} {calls : List Call} {call new : Call} {i c : ℕ}

theorem holding_new (service : BundleService) : service.byBundle.deref service.byBundle.heap.length = none :=
  List.getElem?_eq_none (Nat.le_refl _)

/-- No record was stored. -/
theorem Trace.prepared_same (h : service'.holding = service.holding) : trace.prepared service service' = trace := by
  have hnone : service'.byBundle.deref service.byBundle.heap.length = none := by
    have hmap := congrFun h service.byBundle.heap.length
    simp only [BundleService.holding, holding_new, Option.map_none] at hmap
    exact Option.map_eq_none_iff.mp hmap
  rw [Trace.prepared, hnone]

theorem pendingOf_eq (hc : calls[c]? = some call) : pendingOf calls i c = call.pending i := by
  rw [pendingOf, hc, Option.bind_some]

theorem pendingOf_concat (h : new.pending i = none) : pendingOf (calls ++ [new]) i = pendingOf calls i := by
  funext d
  unfold pendingOf
  cases hnew : (calls ++ [new])[d]? with
  | none =>
    have hlen := List.getElem?_eq_none_iff.mp hnew
    rw [List.length_append] at hlen
    rw [List.getElem?_eq_none (by omega)]
  | some call =>
    obtain hold | ⟨rfl, rfl⟩ := getElem?_concat_eq_some.mp hnew
    · rw [hold]
    · rw [Option.bind_some, h, List.getElem?_eq_none (Nat.le_refl _), Option.bind_none]

theorem pendingOf_set (hc : calls[c]? = some call) :
    pendingOf (calls.set c new) i = update (pendingOf calls i) c (new.pending i) := by
  funext d
  by_cases hd : d = c
  · rw [hd, update_self, pendingOf_eq ((getElem?_set_eq_some hc).mpr (.inl ⟨rfl, rfl⟩))]
  · rw [update_of_ne hd, pendingOf, List.getElem?_set_ne (Ne.symm hd), pendingOf]

theorem pendingOf_set_same (hc : calls[c]? = some call) (h : new.pending i = call.pending i) :
    pendingOf (calls.set c new) i = pendingOf calls i := by
  rw [pendingOf_set hc, h, ← pendingOf_eq hc, update_eq_self]

theorem registerOf_congr {calls' : List Call} (hauth : service'.authorizations = service.authorizations)
    (hholding : service'.holding = service.holding) (hpending : pendingOf calls' i = pendingOf calls i) :
    registerOf service' (trace.next service service' none) calls' i = registerOf service trace calls i := by
  simp only [registerOf, Trace.next, Trace.prepared_same hholding, hauth, hholding, hpending]

end

/-- What a step keeps of service `i`, and its move in the register. -/
structure Progress (T T' : Traced) (i : ℕ) : Prop where
  filed : Keys.Filed (T'.system.services i).authorizations
  refs : Keys.RefsKept (T.system.services i).authorizations (T'.system.services i).authorizations
  moves : T'.register i = T.register i ∨ Register.Move (T.register i) (T'.register i)

/-- What holds along every run of exclusive rotations. -/
structure Custody (T : Traced) : Prop where
  filed : ∀ i, Keys.Filed (T.system.services i).authorizations
  sound : ∀ i, (T.register i).Sound
  awaiting : T.system.Awaiting
  follows : ∀ call ∈ T.system.calls, ∀ input ref, call.operation = .rotate input ref →
    (T.register call.service).Follows ref input.predecessorAuthorizationId
  verifying : ∀ call ∈ T.system.calls, ∀ input ref predecessor successor envelope context,
    call.operation = .rotate input ref →
    call.phase = .verifying (.rotateControllerAuthorization predecessor successor) envelope context →
    (T.system.services call.service).authorizations.ref input.predecessorAuthorizationId = some predecessor

section

variable {F : Externals} {configs : ℕ → Config} {T : Traced} {S' : System} {event : Event} {i : ℕ}

/-- Nothing of service `i` moves. -/
theorem Progress.frame (h : Custody T) (hsystem : step F configs T.system event = S')
    (hauth : (S'.services i).authorizations = (T.system.services i).authorizations)
    (hholding : (S'.services i).holding = (T.system.services i).holding)
    (hrotation : ∀ rotation ∈ rotationOf T.system event, rotation.service ≠ i)
    (hpending : pendingOf S'.calls i = pendingOf T.system.calls i) : Progress T (T.step F configs event) i := by
  have hnone : (rotationOf T.system event).filter (fun rotation => rotation.service = i) = none := by
    rw [Option.filter_eq_none_iff]
    intro rotation hmem
    simpa using hrotation rotation hmem
  subst hsystem
  refine ⟨?_, ?_, .inl ?_⟩
  · exact hauth ▸ h.filed i
  · show Keys.RefsKept _ ((step F configs T.system event).services i).authorizations
    rw [hauth]
    exact .refl
  · show registerOf _ ((T.traces i).next _ _ _) _ i = _
    rw [hnone]
    exact registerOf_congr hauth hholding hpending

end

/-! ### Moves of the registry -/

section

variable {service service' : BundleService} {trace : Trace} {calls calls' : List Call} {i : ℕ} {rotation : Rotation}
variable {a : Keys.ControllerAuthorizationRecord}

theorem entryOf_active (hfiled : Keys.Filed service.authorizations) {ref : Ref}
    (ha : service.authorizations.deref ref = some a) (hactive : a.state = .active) :
    Keys.entryOf service.authorizations a.authorizationId = some ⟨a.bound, .active⟩ := by
  have hget : service.authorizations.get a.authorizationId = some a := by
    rw [ObjectMap.get_eq_deref _ (hfiled.filed ref a ha (by simp [hactive])), ha]
  rw [Keys.entryOf_of_get hget, Keys.ControllerAuthorizationRecord.entry, hactive]
  rfl

theorem free_of_freeFor {successor : Keys.ControllerAuthorizationRecord}
    (hfree : Keys.FreeFor service.authorizations successor) :
    (registerOf service trace calls i).Free successor.authorizationId successor.bound := by
  intro e he
  obtain ⟨old, hold, rfl⟩ := Option.map_eq_some_iff.mp he
  obtain ⟨hstaged, hbound⟩ := hfree old hold
  simp only [Keys.ControllerAuthorizationRecord.entry, hstaged, hbound]
  rfl

/-- The register after a rotation. -/
theorem registerOf_rotated (hfiled : Keys.Filed service.authorizations)
    (ha : service.authorizations.deref rotation.predecessor = some a) (hactive : a.state = .active)
    (hfree : Keys.FreeFor service.authorizations rotation.successor)
    (hauth : service'.authorizations = Keys.rotateInto service.authorizations rotation.predecessor rotation.successor)
    (hholding : service'.holding = service.holding) :
    registerOf service' (trace.next service service' (some rotation)) calls' i =
      ⟨(registerOf service trace calls i).rotate a.authorizationId rotation.successor.authorizationId a.bound
        rotation.successor.bound, service.holding, pendingOf calls' i⟩ := by
  simp only [registerOf, Trace.next, Trace.prepared_same hholding, Trace.rotated, ha, hauth, hholding,
    Keys.entryOf_rotated hfiled ha hactive hfree, Book.rotate]

/-- An authorization that no record of the service has is staged. -/
theorem registerOf_staged {record : Keys.ControllerAuthorizationRecord} (hsound : (registerOf service trace calls i).Sound)
    (hstaged : record.state = .staged) (hnew : service.authorizations.get record.authorizationId = none)
    (hauth : service'.authorizations = service.authorizations.insert record.authorizationId record)
    (hholding : service'.holding = service.holding) :
    registerOf service' (trace.next service service' none) calls i =
      ⟨(registerOf service trace calls i).stage record.authorizationId record.bound none, service.holding,
        pendingOf calls i⟩ := by
  have howner : update trace.owner record.authorizationId none = trace.owner := by
    rw [← (hsound.book.unknown record.authorizationId (Keys.entryOf_eq_none.mpr hnew)).1]
    exact update_eq_self _ _
  simp only [registerOf, Trace.next, Trace.prepared_same hholding, hauth, hholding, Keys.entryOf_insert, Book.stage,
    howner, Keys.ControllerAuthorizationRecord.entry, hstaged]
  rfl

theorem entryOf_activated {id : String} {ref : Ref} (href : service.authorizations.ref id = some ref)
    (ha : service.authorizations.deref ref = some a)
    (hauth : service'.authorizations = service.authorizations.mutate ref fun a => { a with state := .active }) :
    Keys.entryOf service'.authorizations = update (Keys.entryOf service.authorizations) id (some ⟨a.bound, .active⟩) := by
  rw [hauth, Keys.entryOf_mutate _ href ha]
  rfl

theorem entryOf_staged {id : String} {ref : Ref} (href : service.authorizations.ref id = some ref)
    (ha : service.authorizations.deref ref = some a) (hstaged : a.state = .staged) :
    Keys.entryOf service.authorizations id = some ⟨a.bound, .staged⟩ := by
  rw [Keys.entryOf_of_get (a := a) (by rw [ObjectMap.get_eq_deref _ href, ha]), Keys.ControllerAuthorizationRecord.entry,
    hstaged]
  rfl

end

section

variable {F : Externals} {configs : ℕ → Config} {T : Traced} {i : ℕ}

theorem progress_registry (h : Custody T) {event : Keys.Event} (hexclusive : Exclusive T (.keyLifecycle i event)) :
    Progress T (T.step F configs (.keyLifecycle i event)) i := by
  have hservice : (T.step F configs (.keyLifecycle i event)).system.services i =
      { T.system.services i with keyLifecycle := (T.system.services i).keyLifecycle.step event } :=
    update_self i _ T.system.services
  obtain ⟨service', hservice'⟩ : ∃ service', service' =
      { T.system.services i with keyLifecycle := (T.system.services i).keyLifecycle.step event } := ⟨_, rfl⟩
  have hholding : service'.holding = (T.system.services i).holding := by rw [hservice']; rfl
  have hreauthorized : Keys.Reauthorized (T.system.services i).keyLifecycle event service'.authorizations := by
    rw [hservice']
    exact Keys.step_authorizations _ event
  have hregister : ∀ rotation, (rotationOf T.system (.keyLifecycle i event)).filter (fun r => r.service = i) = rotation →
      (T.step F configs (.keyLifecycle i event)).register i = registerOf service'
        ((T.traces i).next (T.system.services i) service' rotation) T.system.calls i := by
    rintro rotation rfl
    rw [Traced.register, hservice, hservice']
    simp only [Traced.step, step, System.setService, update_self]
  have hquiet : (T.system.services i).keyLifecycle.rotation event = none →
      (rotationOf T.system (.keyLifecycle i event)).filter (fun r => r.service = i) = none := by
    intro hnone
    simp [rotationOf, hnone]
  generalize hauth : service'.authorizations = m at hreauthorized
  suffices hprogress : Keys.Filed m ∧ Keys.RefsKept (T.system.services i).authorizations m ∧
      ((T.step F configs (.keyLifecycle i event)).register i = T.register i ∨
        Register.Move (T.register i) ((T.step F configs (.keyLifecycle i event)).register i)) by
    obtain ⟨hfiled, hrefs, hmoves⟩ := hprogress
    refine ⟨?_, ?_, hmoves⟩
    · rwa [hservice, ← hservice', hauth]
    · rwa [hservice, ← hservice', hauth]
  cases hreauthorized with
  | stays _ quiet =>
    refine ⟨h.filed i, .refl, .inl ?_⟩
    rw [hregister none (hquiet quiet)]
    exact registerOf_congr hauth hholding rfl
  | stages record staged new =>
    have hfree : ∀ old, (T.system.services i).authorizations.get record.authorizationId = some old →
        old.state = .staged := by
      intro old hold
      cases new.symm.trans hold
    refine ⟨(h.filed i).insert hfree, .insert hfree, .inr ?_⟩
    rw [hregister none (hquiet rfl), registerOf_staged (h.sound i) staged new hauth hholding]
    exact .stages record.authorizationId record.bound (Keys.entryOf_eq_none.mpr new)
  | activates id ref record stored held staged =>
    refine ⟨(h.filed i).mutate stored .active, Keys.RefsKept.refl.mutate ref _, .inr ?_⟩
    rw [hregister none (hquiet rfl)]
    have hactivated : registerOf service' ((T.traces i).next (T.system.services i) service' none) T.system.calls i =
        ⟨(T.register i).activate id record.bound, (T.register i).holding, (T.register i).pending⟩ := by
      simp only [registerOf, Traced.register, Trace.next, Trace.prepared_same hholding, hholding, Book.activate,
        entryOf_activated stored held hauth]
    rw [hactivated]
    exact .activates id record.bound (entryOf_staged stored held staged)
  | rotates _ predecessor successor completes =>
    have hrotation : rotationOf T.system (.keyLifecycle i event) = some ⟨i, predecessor, successor, none⟩ := by
      simp [rotationOf, completes]
    obtain ⟨⟨a, ha, hactive⟩, hfree, hown⟩ := hexclusive _ hrotation
    refine ⟨(h.filed i).rotated ha hactive hfree, .rotated hfree, .inr ?_⟩
    rw [hregister (some ⟨i, predecessor, successor, none⟩) (by simp [hrotation]),
      registerOf_rotated (h.filed i) ha hactive hfree hauth hholding]
    refine .rotates a.authorizationId successor.authorizationId a.bound successor.bound
      (entryOf_active (h.filed i) ha hactive) (free_of_freeFor hfree) ?_
    intro ref hold howner hhold
    obtain ⟨record, hrecord, rfl⟩ := Option.map_eq_some_iff.mp hhold
    by_contra hfinalized
    have hcaller := hown a ha ref howner record hrecord (by simpa [PreparedInternal.holding] using hfinalized)
    cases hcaller

/-! ### Moves of a call -/

/-- A call of service `i` goes on; what it does to the register. -/
theorem progress_goesOn {c : ℕ} {call : Call} {result : AwaitResult} {service' : BundleService} {phase' : Phase}
    (hc : T.system.calls[c]? = some call) (hi : call.service = i) (hgoes : call.phase.goesOn)
    (hnext : call.next F configs T.system result = (service', phase'))
    (hfiled : Keys.Filed service'.authorizations)
    (hrefs : Keys.RefsKept (T.system.services i).authorizations service'.authorizations)
    (hmoves : ∀ R', R' = registerOf service' ((T.traces i).next (T.system.services i) service'
        ((rotationOf T.system (.resume c result)).filter fun rotation => rotation.service = i))
        (T.system.calls.set c { call with phase := phase' }) i → R' = T.register i ∨ Register.Move (T.register i) R') :
    Progress T (T.step F configs (.resume c result)) i := by
  have hsystem : (T.step F configs (.resume c result)).system =
      (T.system.setService i service').setPhase c call phase' := by
    rw [← hi]
    have hstep : step F configs T.system (.resume c result) = _ := step_goesOn hc hgoes
    rw [hnext] at hstep
    exact hstep
  have hservice : (T.step F configs (.resume c result)).system.services i = service' := by
    rw [hsystem]
    exact update_self i _ T.system.services
  refine ⟨by rwa [hservice], by rwa [hservice], hmoves _ ?_⟩
  have hcalls : (T.step F configs (.resume c result)).system.calls = T.system.calls.set c { call with phase := phase' } := by
    rw [hsystem]
    rfl
  have htrace : (T.step F configs (.resume c result)).traces i = (T.traces i).next (T.system.services i) service'
      ((rotationOf T.system (.resume c result)).filter fun rotation => rotation.service = i) := by
    rw [← hservice]
    rfl
  rw [Traced.register, hservice, hcalls, htrace]

section

variable {c : ℕ} {call : Call} {result : AwaitResult}

/-- Only a verified rotation is one. -/
theorem rotationOf_eq_none {S : System} (hc : S.calls[c]? = some call)
    (h : ∀ input ref suspended envelope context, call.operation = .rotate input ref →
      call.phase = .verifying suspended envelope context → result ≠ .verified true) :
    rotationOf S (.resume c result) = none := by
  unfold rotationOf
  split
  next d heq =>
    cases heq
    rw [hc]
    split
    next operation suspended envelope context hcall =>
      cases hcall
      exact absurd rfl (h _ _ _ _ _ rfl rfl)
    · rfl
  next heq => cases heq
  · rfl

theorem holding_mutate (service : BundleService) {ref : Ref} {record : PreparedInternal}
    (hrecord : service.byBundle.deref ref = some record) (f : PreparedInternal → PreparedInternal) :
    (service.mutateRecord ref f).holding = update service.holding ref (some (f record).holding) := by
  funext r
  rw [BundleService.holding, BundleService.mutateRecord, ObjectMap.deref_mutate, update_apply]
  by_cases hr : r = ref
  · rw [if_pos hr.symm, if_pos hr, hr, hrecord]
    rfl
  · rw [if_neg (Ne.symm hr), if_neg hr]
    rfl

theorem holding_mutate_same (service : BundleService) (ref : Ref) {f : PreparedInternal → PreparedInternal}
    (hf : ∀ record, (f record).holding = record.holding) : (service.mutateRecord ref f).holding = service.holding := by
  funext r
  rw [BundleService.holding, BundleService.mutateRecord, ObjectMap.deref_mutate]
  split_ifs
  · rw [Option.map_map]
    exact congrArg (fun g => Option.map g (service.byBundle.deref r)) (funext hf)
  · rfl

/-- The record of a rotation is written. -/
theorem progress_writes (h : Custody T) {input : RotateInput} {ref : Ref} {envelope : Bytes} {context : DekWrapContext}
    (hc : T.system.calls[c]? = some call) (hi : call.service = i) (hop : call.operation = .rotate input ref)
    (hphase : call.phase = .rotated envelope context) : Progress T (T.step F configs (.resume c result)) i := by
  have hnext : call.next F configs T.system result =
      ((T.system.services i).mutateRecord ref (input.write F envelope context), .returned) := by
    simp only [Call.next, hop, hphase, continueCall, continueRotate, hi]
  have hrotation : rotationOf T.system (.resume c result) = none := by
    refine rotationOf_eq_none hc fun _ _ _ _ _ _ hverifying => ?_
    rw [hphase] at hverifying
    cases hverifying
  refine progress_goesOn hc hi (by rw [hphase]; rfl) hnext (h.filed i) .refl ?_
  rintro R' rfl
  obtain ⟨record, hrecord⟩ := (h.awaiting call (List.mem_of_getElem? hc)).held ref (by rw [hop]; rfl)
  rw [hi] at hrecord
  have hheld : (T.register i).holding ref = some record.holding := by
    simp only [Traced.register, registerOf, BundleService.holding, hrecord, Option.map_some]
  have hpending : (T.register i).pending c =
      some (ref, input.successorAuthorizationId, input.successorEnvelopeId, input.successorKeyId) := by
    show pendingOf T.system.calls i c = _
    rw [pendingOf_eq hc, Call.pending, hop, hphase]
    exact if_pos hi
  have hprepared : (T.traces i).prepared (T.system.services i)
      ((T.system.services i).mutateRecord ref (input.write F envelope context)) = T.traces i := by
    have hnone : ((T.system.services i).mutateRecord ref (input.write F envelope context)).byBundle.deref
        (T.system.services i).byBundle.heap.length = none := by
      rw [BundleService.mutateRecord, ObjectMap.deref_mutate, holding_new]
      split_ifs
      · rfl
      · rfl
    rw [Trace.prepared, hnone]
  have hreturned : Call.pending i { call with phase := .returned } = none := by
    rw [Call.pending, hop]
  have hwritten : registerOf ((T.system.services i).mutateRecord ref (input.write F envelope context))
      ((T.traces i).next (T.system.services i) ((T.system.services i).mutateRecord ref (input.write F envelope context))
        ((rotationOf T.system (.resume c result)).filter fun rotation => rotation.service = i))
      (T.system.calls.set c { call with phase := .returned }) i =
      ⟨(T.register i).toBook, update (T.register i).holding ref (some ⟨input.successorAuthorizationId,
        (input.successorEnvelopeId, input.successorKeyId), record.holding.settled⟩), update (T.register i).pending c none⟩ := by
    simp only [registerOf, Traced.register, hrotation, Option.filter_none, Trace.next, hprepared,
      holding_mutate _ hrecord, pendingOf_set hc, hreturned]
    rfl
  rw [hwritten]
  exact .inr (.writes ref c input.successorAuthorizationId (input.successorEnvelopeId, input.successorKeyId)
    record.holding hheld hpending)

/-- The envelope of a rotation is verified. -/
theorem progress_rotated (h : Custody T) {input : RotateInput} {ref : Ref} {suspended : Keys.Suspended} {envelope : Bytes}
    {context : DekWrapContext} (hexclusive : Exclusive T (.resume c (.verified true)))
    (hc : T.system.calls[c]? = some call) (hi : call.service = i) (hop : call.operation = .rotate input ref)
    (hphase : call.phase = .verifying suspended envelope context) :
    Progress T (T.step F configs (.resume c (.verified true))) i := by
  have hmem := List.mem_of_getElem? hc
  obtain ⟨predecessor, rfl⟩ := (h.awaiting call hmem).successor input ref suspended envelope context hop hphase
  have hstored := h.verifying call hmem input ref predecessor _ envelope context hop hphase
  obtain ⟨hold, e, hhold, hsettled, howner, he, hstaged, hid⟩ := h.follows call hmem input ref hop
  obtain ⟨j, operation, nonces, request, phase⟩ := call
  obtain rfl : j = i := hi
  obtain rfl : operation = .rotate input ref := hop
  obtain rfl : phase = _ := hphase
  have hrotation : rotationOf T.system (.resume c (.verified true)) =
      some ⟨j, predecessor, input.authorizationRecord, some ref⟩ := by
    simp [rotationOf, hc, Keys.Suspended.rotation]
  obtain ⟨⟨a, ha, hactive⟩, hfree, -⟩ := hexclusive _ hrotation
  simp only at ha hfree
  obtain ⟨service', hnext, hauth, hholding⟩ : ∃ service',
      Call.next F configs T.system ⟨j, .rotate input ref, nonces, request, .verifying (.rotateControllerAuthorization
        predecessor input.authorizationRecord) envelope context⟩ (.verified true) = (service', .rotated envelope context) ∧
      service'.authorizations =
        Keys.rotateInto (T.system.services j).authorizations predecessor input.authorizationRecord ∧
      service'.holding = (T.system.services j).holding := ⟨_, rfl, rfl, rfl⟩
  refine progress_goesOn hc rfl rfl hnext (hauth ▸ (h.filed j).rotated ha hactive hfree) (hauth ▸ .rotated hfree) ?_
  rintro R' rfl
  -- the predecessor is active, so the record still names it
  have hentry := entryOf_active (h.filed j) ha hactive
  have hpredecessor : a.authorizationId = input.predecessorAuthorizationId := (h.filed j).named _ predecessor a hstored ha
  have hheld : hold.id = a.authorizationId := by
    obtain hid | hretired := hid
    · rw [hid, hpredecessor]
    · rw [← hpredecessor] at he
      obtain rfl := Option.some.inj (he.symm.trans hentry)
      cases hretired
  obtain ⟨id, bound, settled⟩ := hold
  obtain rfl : id = a.authorizationId := hheld
  obtain rfl : settled = true := hsettled
  have hidle : (T.register j).pending c = none := by
    show pendingOf T.system.calls j c = none
    rw [pendingOf_eq hc]
    rfl
  refine .inr ?_
  rw [hrotation, Option.filter_some, if_pos (by simp), registerOf_rotated (h.filed j) ha hactive hfree hauth hholding,
    pendingOf_set hc]
  have hpending : Call.pending j ⟨j, .rotate input ref, nonces, request, .rotated envelope context⟩ =
      some (ref, input.successorAuthorizationId, input.successorEnvelopeId, input.successorKeyId) := by
    rw [Call.pending]
    exact if_pos rfl
  rw [hpending]
  exact .succeeds ref c a.authorizationId input.successorAuthorizationId a.bound
    (input.successorEnvelopeId, input.successorKeyId) bound hhold hentry (free_of_freeFor hfree) hidle

theorem pending_eq_none {call : Call} (i : ℕ) (h : ∀ input ref envelope context, call.operation = .rotate input ref →
    call.phase ≠ .rotated envelope context) : call.pending i = none := by
  unfold Call.pending
  split
  next input ref envelope context hop hphase => exact absurd hphase (h input ref envelope context hop)
  · rfl

/-- A call goes on and the register stays as it is. -/
theorem progress_same (h : Custody T) {service' : BundleService} {phase' : Phase} (hc : T.system.calls[c]? = some call)
    (hi : call.service = i) (hgoes : call.phase.goesOn) (hnext : call.next F configs T.system result = (service', phase'))
    (hrotation : rotationOf T.system (.resume c result) = none)
    (hauth : service'.authorizations = (T.system.services i).authorizations)
    (hholding : service'.holding = (T.system.services i).holding)
    (hpending : Call.pending i { call with phase := phase' } = call.pending i) :
    Progress T (T.step F configs (.resume c result)) i := by
  refine progress_goesOn hc hi hgoes hnext (hauth ▸ h.filed i) (hauth ▸ .refl) ?_
  rintro R' rfl
  rw [hrotation]
  exact .inl (registerOf_congr hauth hholding (pendingOf_set_same hc hpending))

/-- A call stores the record of a preparation. -/
theorem progress_prepares (h : Custody T) {input : PrepareEvidenceInput} {stored : ProtectionResult}
    {fingerprint : Bytes32} {config : Config} {service' : BundleService} {phase' : Phase}
    (hc : T.system.calls[c]? = some call) (hi : call.service = i) (hgoes : call.phase.goesOn)
    (hnext : call.next F configs T.system result = (service', phase'))
    (hrotation : rotationOf T.system (.resume c result) = none)
    (hnew : (T.system.services i).authorizations.get input.controllerAuthorizationId = none)
    (hauth : service'.authorizations = (T.system.services i).authorizations.insert input.controllerAuthorizationId
      (input.authorizationRecord stored))
    (hrecords : service'.byBundle = (T.system.services i).byBundle.insert input.evidencePayload.bundleId
      (preparedRecord F config input fingerprint stored))
    (hpending : Call.pending i { call with phase := phase' } = call.pending i) :
    Progress T (T.step F configs (.resume c result)) i := by
  have hfree : ∀ old, (T.system.services i).authorizations.get (input.authorizationRecord stored).authorizationId =
      some old → old.state = .staged := by
    intro old hold
    cases hnew.symm.trans hold
  refine progress_goesOn hc hi hgoes hnext (hauth ▸ (h.filed i).insert hfree) (hauth ▸ .insert hfree) ?_
  rintro R' rfl
  have hholding : service'.holding = update (T.system.services i).holding (T.system.services i).byBundle.heap.length
      (some (preparedRecord F config input fingerprint stored).holding) := by
    funext ref
    rw [BundleService.holding, hrecords, ObjectMap.deref_insert, update_apply]
    split_ifs
    · rfl
    · rfl
  have hprepared : (T.traces i).prepared (T.system.services i) service' =
      ⟨update (T.traces i).owner input.controllerAuthorizationId (some (T.system.services i).byBundle.heap.length),
        (T.traces i).rotations⟩ := by
    rw [Trace.prepared, hrecords, ObjectMap.deref_insert_new]
    rfl
  have hstaged : registerOf service' ((T.traces i).next (T.system.services i) service'
      ((rotationOf T.system (.resume c result)).filter fun rotation => rotation.service = i))
      (T.system.calls.set c { call with phase := phase' }) i =
      ⟨(T.register i).stage input.controllerAuthorizationId (input.authorizationRecord stored).bound
        (some (T.system.services i).byBundle.heap.length),
        update (T.register i).holding (T.system.services i).byBundle.heap.length
          (some ⟨input.controllerAuthorizationId, (input.authorizationRecord stored).bound, false⟩),
        (T.register i).pending⟩ := by
    simp only [registerOf, Traced.register, hrotation, Option.filter_none, Trace.next, hprepared, hholding, hauth,
      Keys.entryOf_insert, pendingOf_set_same hc hpending]
    rfl
  rw [hstaged]
  have hunheld : (T.register i).holding (T.system.services i).byBundle.heap.length = none := by
    simp only [Traced.register, registerOf, BundleService.holding, holding_new, Option.map_none]
  exact .inr (.prepares _ input.controllerAuthorizationId (input.authorizationRecord stored).bound
    (Keys.entryOf_eq_none.mpr hnew) hunheld)

/-- A call finalizes its record. -/
theorem progress_finalizes (h : Custody T) {ref authorizationRef : Ref} {record : PreparedInternal}
    {authorization : Keys.ControllerAuthorizationRecord} {service' : BundleService} {phase' : Phase}
    (hc : T.system.calls[c]? = some call) (hi : call.service = i) (hgoes : call.phase.goesOn)
    (hnext : call.next F configs T.system result = (service', phase'))
    (hrotation : rotationOf T.system (.resume c result) = none)
    (hrecord : (T.system.services i).byBundle.deref ref = some record)
    (hstored : (T.system.services i).authorizations.ref record.controllerAuthorizationId = some authorizationRef)
    (hheld : (T.system.services i).authorizations.deref authorizationRef = some authorization)
    (hstaged : authorization.state = .staged)
    (hauth : service'.authorizations =
      (T.system.services i).authorizations.mutate authorizationRef fun a => { a with state := .active })
    (hrecords : service'.byBundle = (T.system.services i).byBundle.mutate ref fun record => { record with finalized := true })
    (hpending : Call.pending i { call with phase := phase' } = call.pending i) :
    Progress T (T.step F configs (.resume c result)) i := by
  refine progress_goesOn hc hi hgoes hnext (hauth ▸ (h.filed i).mutate hstored .active)
    (hauth ▸ Keys.RefsKept.refl.mutate _ _) ?_
  rintro R' rfl
  have hholding : service'.holding = update (T.system.services i).holding ref
      (some ({ record with finalized := true } : PreparedInternal).holding) := by
    have hmutate := holding_mutate (T.system.services i) hrecord fun record => { record with finalized := true }
    rw [← hmutate]
    funext r
    rw [BundleService.holding, hrecords]
    rfl
  have hprepared : (T.traces i).prepared (T.system.services i) service' = T.traces i := by
    have hnone : service'.byBundle.deref (T.system.services i).byBundle.heap.length = none := by
      rw [hrecords, ObjectMap.deref_mutate, holding_new]
      split_ifs
      · rfl
      · rfl
    rw [Trace.prepared, hnone]
  have hactivated : registerOf service' ((T.traces i).next (T.system.services i) service'
      ((rotationOf T.system (.resume c result)).filter fun rotation => rotation.service = i))
      (T.system.calls.set c { call with phase := phase' }) i =
      ⟨(T.register i).activate record.controllerAuthorizationId authorization.bound,
        update (T.register i).holding ref (some ⟨record.controllerAuthorizationId,
          (record.controllerEnvelopeId, record.controllerEncryptionKeyId), true⟩), (T.register i).pending⟩ := by
    simp only [registerOf, Traced.register, hrotation, Option.filter_none, Trace.next, hprepared, hholding,
      entryOf_activated hstored hheld hauth, pendingOf_set_same hc hpending]
    rfl
  rw [hactivated]
  have hhold : (T.register i).holding ref = some record.holding := by
    simp only [Traced.register, registerOf, BundleService.holding, hrecord, Option.map_some]
  exact .inr (.settles ref record.controllerAuthorizationId authorization.bound _ record.finalized hhold
    (entryOf_staged hstored hheld hstaged))

/-- Any other continuation. -/
theorem progress_continued (h : Custody T) (hc : T.system.calls[c]? = some call) (hi : call.service = i)
    (hgoes : call.phase.goesOn)
    (hrotated : ∀ input ref envelope context, call.operation = .rotate input ref →
      call.phase ≠ .rotated envelope context)
    (hverified : ∀ input ref suspended envelope context, call.operation = .rotate input ref →
      call.phase = .verifying suspended envelope context → result ≠ .verified true) :
    Progress T (T.step F configs (.resume c result)) i := by
  have hrotation : rotationOf T.system (.resume c result) = none := rotationOf_eq_none hc hverified
  have hawaits := h.awaiting call (List.mem_of_getElem? hc)
  have hold := pending_eq_none i hrotated
  obtain ⟨j, operation, nonces, request, phase⟩ := call
  obtain rfl : j = i := hi
  have hcontinued : Continued F (configs j) (T.system.services j) operation phase result
      (Call.next F configs T.system ⟨j, operation, nonces, request, phase⟩ result).1
      (Call.next F configs T.system ⟨j, operation, nonces, request, phase⟩ result).2 := continued_call operation
  obtain ⟨⟨service', phase'⟩, hnext⟩ : ∃ next, Call.next F configs T.system ⟨j, operation, nonces, request, phase⟩ result =
      next := ⟨_, rfl⟩
  rw [hnext] at hcontinued
  have hnone : (∀ envelope context, phase' ≠ .rotated envelope context) →
      Call.pending j ⟨j, operation, nonces, request, phase'⟩ = Call.pending j ⟨j, operation, nonces, request, phase⟩ := by
    intro hphase
    rw [hold]
    exact pending_eq_none j fun _ _ envelope context _ => hphase envelope context
  cases hcontinued with
  | waits => exact progress_same h hc rfl hgoes hnext hrotation rfl rfl rfl
  | fails => exact progress_same h hc rfl hgoes hnext hrotation rfl rfl (hnone nofun)
  | prepares input fingerprint idempotencyHash phase stored registry staged =>
    obtain ⟨hnew, rfl⟩ := Keys.KeyLifecycleRegistry.stageControllerAuthorization_ok staged
    exact progress_prepares h hc rfl hgoes hnext hrotation hnew rfl rfl (hnone nofun)
  | replicates input ref record replicaObjectId held critical =>
    exact progress_same h hc rfl hgoes hnext hrotation rfl (holding_mutate_same _ ref fun _ => rfl) (hnone nofun)
  | finalizes input ref phase result record registry held last activated =>
    obtain ⟨authorizationRef, authorization, hstored, hheld, hstaged, rfl⟩ :=
      Keys.KeyLifecycleRegistry.activateControllerAuthorization_ok activated
    exact progress_finalizes h hc rfl hgoes hnext hrotation held hstored hheld hstaged rfl rfl (hnone nofun)
  | rotationUnwraps input ref record held => exact progress_same h hc rfl hgoes hnext hrotation rfl rfl (hnone nofun)
  | rotationWraps input ref context envelope commitment suspended checked =>
    exact progress_same h hc rfl hgoes hnext hrotation rfl rfl (hnone nofun)
  | rotationVerified input ref suspended envelope context answer registry resumed =>
    obtain ⟨rfl, -⟩ := Keys.KeyLifecycleRegistry.resume_ok resumed
    exact absurd rfl (hverified input ref suspended envelope context rfl rfl)
  | rotates input ref envelope context result => exact absurd rfl (hrotated input ref envelope context rfl)
  | grantUnwraps input ref record held => exact progress_same h hc rfl hgoes hnext hrotation rfl rfl (hnone nofun)
  | grants input ref context envelope commitment registry next prepared activating =>
    obtain ⟨-, rfl⟩ := Keys.KeyLifecycleRegistry.prepareGrant_ok prepared
    refine progress_same h hc rfl hgoes hnext hrotation rfl rfl (hnone ?_)
    cases activating with
    | refused => nofun
    | awaits suspended checked => nofun
  | grantVerified input ref suspended envelope context answer registry resumed =>
    obtain ⟨grant, rfl⟩ := hawaits.activation input ref suspended envelope context rfl rfl
    obtain ⟨-, ⟨_, _, heq, -⟩ | ⟨_, -, -, hauth, -⟩ | ⟨_, _, _, _, _, heq, -⟩⟩ :=
      Keys.KeyLifecycleRegistry.resume_ok resumed
    · cases heq
    · exact progress_same h hc rfl hgoes hnext hrotation hauth rfl (hnone nofun)
    · cases heq
  | retrieves input ref phase => exact progress_same h hc rfl hgoes hnext hrotation rfl rfl (hnone nofun)
  | promotes bundleId ref =>
    exact progress_same h hc rfl hgoes hnext hrotation rfl (holding_mutate_same _ ref fun _ => rfl) (hnone nofun)

end

/-! ### Steps -/

theorem rotationOf_service {S : System} {c : ℕ} {call : Call} {result : AwaitResult} {rotation : Rotation}
    (hc : S.calls[c]? = some call) (h : rotation ∈ rotationOf S (.resume c result)) :
    rotation.service = call.service := by
  unfold rotationOf at h
  split at h
  next d heq =>
    cases heq
    rw [hc] at h
    split at h
    next hcall =>
      cases hcall
      obtain ⟨pair, -, rfl⟩ := Option.map_eq_some_iff.mp h
      rfl
    · cases h
  next heq => cases heq
  · cases h

/-- A call that begins has not rotated. -/
theorem Begins.pending {S : System} {event : Event} {call : Call} (h : Begins F configs S event call) (i : ℕ) :
    call.pending i = none := by
  refine pending_eq_none i fun input ref envelope context hop hphase => ?_
  cases h with
  | prepare j input phase first => cases hop
  | finalize j input ref request nonces phase outside checked => cases hop
  | rotate j input ref scope request nonces phase outside checked =>
    subst hphase
    cases outside
  | grant j input ref scope request nonces phase outside checked => cases hop
  | retrieve j input ref request nonces phase outside checked => cases hop

theorem Begins.rotationOf {S : System} {event : Event} {call : Call} (h : Begins F configs S event call) :
    rotationOf S event = none := by
  cases h <;> rfl

theorem rotationOf_quiet {S : System} {event : Event} (hregistry : ∀ j e, event ≠ .keyLifecycle j e)
    (hquiet : ∀ c result call, event = .resume c result → S.calls[c]? = some call → call.phase.goesOn = false) :
    Evidence.rotationOf S event = none := by
  cases event with
  | keyLifecycle j e => exact absurd rfl (hregistry j e)
  | resume c result =>
    cases hc : S.calls[c]? with
    | none =>
      unfold Evidence.rotationOf
      split
      next heq =>
        cases heq
        rw [hc]
      next heq => cases heq
      · rfl
    | some call =>
      refine rotationOf_eq_none hc fun _ _ _ _ _ _ hphase => ?_
      have hgoes := hquiet c result call rfl hc
      rw [hphase] at hgoes
      cases hgoes
  | _ => rfl

/-- A call that goes on. -/
theorem progress_resume (h : Custody T) {c : ℕ} {call : Call} {result : AwaitResult}
    (hexclusive : Exclusive T (.resume c result)) (hc : T.system.calls[c]? = some call) (hgoes : call.phase.goesOn)
    (i : ℕ) : Progress T (T.step F configs (.resume c result)) i := by
  by_cases hi : call.service = i
  · by_cases hrotated : ∃ input ref envelope context, call.operation = .rotate input ref ∧
        call.phase = .rotated envelope context
    · obtain ⟨input, ref, envelope, context, hop, hphase⟩ := hrotated
      exact progress_writes h hc hi hop hphase
    · by_cases hverified : ∃ input ref suspended envelope context, call.operation = .rotate input ref ∧
          call.phase = .verifying suspended envelope context ∧ result = .verified true
      · obtain ⟨input, ref, suspended, envelope, context, hop, hphase, rfl⟩ := hverified
        exact progress_rotated h hexclusive hc hi hop hphase
      · refine progress_continued h hc hi hgoes (fun input ref envelope context hop hphase => hrotated ?_)
          (fun input ref suspended envelope context hop hphase hresult => hverified ?_)
        · exact ⟨input, ref, envelope, context, hop, hphase⟩
        · exact ⟨input, ref, suspended, envelope, context, hop, hphase, hresult⟩
  · have hother : ∀ call' : Call, call'.service = call.service → call'.pending i = none := by
      intro call' hservice
      unfold Call.pending
      split
      · exact if_neg (hservice ▸ hi)
      · rfl
    refine Progress.frame h (step_goesOn hc hgoes) ?_ ?_ ?_ ?_
    · exact congrArg BundleService.authorizations (update_of_ne (Ne.symm hi) _ _)
    · exact congrArg BundleService.holding (update_of_ne (Ne.symm hi) _ _)
    · intro rotation hrotation
      rw [rotationOf_service hc hrotation]
      exact hi
    · refine pendingOf_set_same hc ?_
      rw [hother call rfl]
      exact hother _ rfl

/-- A call of the registry that completes no rotation leaves no trace. -/
theorem traces_registry {j : ℕ} {e : Keys.Event} (hquiet : (T.system.services j).keyLifecycle.rotation e = none) (i : ℕ) :
    (T.step F configs (.keyLifecycle j e)).traces i = T.traces i := by
  have hholding : ((step F configs T.system (.keyLifecycle j e)).services i).holding = (T.system.services i).holding := by
    refine view_update BundleService.holding ?_ i
    rfl
  simp only [Traced.step, Evidence.rotationOf, hquiet, Option.map_none, Option.filter_none, Trace.next,
    Trace.prepared_same hholding]

/-- **A step is a move of every service's register, or none.** -/
theorem progress_step (h : Custody T) {event : Event} (hexclusive : Exclusive T event) (i : ℕ) :
    Progress T (T.step F configs event) i := by
  by_cases hregistry : ∃ j e, event = .keyLifecycle j e
  · obtain ⟨j, e, rfl⟩ := hregistry
    by_cases hj : j = i
    · subst hj
      exact progress_registry h hexclusive
    · refine Progress.frame h rfl ?_ ?_ ?_ rfl
      · exact congrArg BundleService.authorizations (update_of_ne (Ne.symm hj) _ _)
      · exact congrArg BundleService.holding (update_of_ne (Ne.symm hj) _ _)
      · intro rotation hrotation
        obtain ⟨pair, -, rfl⟩ := Option.map_eq_some_iff.mp hrotation
        exact hj
  · generalize hS' : step F configs T.system event = S'
    have hstep : Stepped F configs T.system event S' := hS' ▸ step_cases event
    have hnone : Evidence.rotationOf T.system event = none → ∀ rotation ∈ Evidence.rotationOf T.system event,
        rotation.service ≠ i := by
      intro hnone rotation hrotation
      rw [hnone] at hrotation
      cases hrotation
    cases hstep with
    | idle event repository quiet =>
      have hquiet := rotationOf_quiet (fun j e heq => hregistry ⟨j, e, heq⟩) quiet
      exact Progress.frame h hS' rfl rfl (hnone hquiet) rfl
    | begins event call repository stores begins =>
      refine Progress.frame h hS' ?_ ?_ (hnone begins.rotationOf) (pendingOf_concat (begins.pending i))
      · refine view_update BundleService.authorizations ?_ i
        rfl
      · refine view_update BundleService.holding ?_ i
        rfl
    | promotes j bundleId replicaObjectId ref record stored finalized supplementary =>
      refine Progress.frame h hS' ?_ ?_ (hnone rfl) (pendingOf_concat rfl)
      · refine view_update BundleService.authorizations ?_ i
        rfl
      · refine view_update BundleService.holding ?_ i
        exact holding_mutate_same _ ref fun _ => rfl
    | settles event c call repository result called consuming =>
      refine Progress.frame h hS' rfl rfl (hnone rfl) (pendingOf_set_same called ?_)
      rw [pending_eq_none i fun _ _ _ _ _ hphase => ?_, pending_eq_none i fun _ _ _ _ _ hphase => ?_]
      · rw [consuming] at hphase
        cases hphase
      · cases result with
        | error e => cases hphase
        | ok u => cases hphase
    | rollsBack c call result called rejected =>
      have hquiet : Evidence.rotationOf T.system (.resume c result) = none := by
        refine rotationOf_eq_none called fun _ _ _ _ _ _ hphase => ?_
        rw [rejected] at hphase
        cases hphase
      refine Progress.frame h hS' ?_ ?_ (hnone hquiet) (pendingOf_set_same called ?_)
      · refine view_update BundleService.authorizations ?_ i
        rfl
      · refine view_update BundleService.holding ?_ i
        rfl
      · rw [pending_eq_none i fun _ _ _ _ _ hphase => ?_, pending_eq_none i fun _ _ _ _ _ hphase => ?_]
        · rw [rejected] at hphase
          cases hphase
        · cases hphase
    | goesOn c call result called goesOn => exact progress_resume h hexclusive called goesOn i
    | registry j e => exact absurd ⟨j, e, rfl⟩ hregistry

/-! ### Runs -/

theorem custody_new (repository : Repository) : Custody (.new repository) := by
  refine ⟨fun i => ⟨?_, ?_⟩, fun i => ⟨⟨?_, ?_, ?_⟩, ?_, ?_, ?_, ?_, ?_⟩, ?_, ?_, ?_⟩
  · intro id r a href
    cases href
  · intro r a ha
    cases ha
  · intro id _
    exact ⟨rfl, rfl⟩
  · intro id e he
    cases he
  · intro id e he
    cases he
  · intro id o howner
    cases howner
  · intro o hold hheld
    cases hheld
  · intro o k b b' hheld
    cases hheld
  · intro c o k b hpending
    cases hpending
  · intro o k b hheld
    cases hheld
  · intro call hcall
    cases hcall
  · intro call hcall
    cases hcall
  · intro call hcall
    cases hcall

theorem Progress.sound {T' : Traced} (h : Progress T T' i) (hsound : (T.register i).Sound) : (T'.register i).Sound := by
  obtain heq | hmove := h.moves
  · rwa [heq]
  · exact hmove.sound hsound

theorem Progress.onward {T' : Traced} (h : Progress T T' i) :
    Book.Onward (T.register i).toBook (T'.register i).toBook := by
  obtain heq | hmove := h.moves
  · rw [heq]
    exact .refl
  · exact hmove.onward

theorem Progress.follows {T' : Traced} (h : Progress T T' i) (hsound : (T.register i).Sound) {ref : Ref} {id : String}
    (hfollows : (T.register i).Follows ref id) : (T'.register i).Follows ref id := by
  obtain heq | hmove := h.moves
  · rwa [heq]
  · exact hfollows.move hsound hmove

/-- A rotation that begins takes the authorization of its record. -/
theorem Begins.follows (h : Custody T) {event : Event} {call : Call} (hbegins : Begins F configs T.system event call)
    {input : RotateInput} {ref : Ref} (hop : call.operation = .rotate input ref) :
    (T.register call.service).Follows ref input.predecessorAuthorizationId := by
  cases hbegins with
  | rotate j input' ref' scope request nonces phase outside checked =>
    cases hop
    simp only [checkRotate, bind_eq_ok, pure_eq_ok, throwIf_eq_ok, Prod.mk.injEq, Prod.exists, not_or, not_not,
      ne_eq] at checked
    obtain ⟨ref'', record, hrecord, -, ⟨hfinalized, hid⟩, -, -, -, -, rfl, -⟩ := checked
    have hheld : (T.register j).holding ref'' = some ⟨input.predecessorAuthorizationId,
        (record.controllerEnvelopeId, record.controllerEncryptionKeyId), true⟩ := by
      simp only [Traced.register, registerOf, BundleService.holding, (record_eq_ok.mp hrecord).2, Option.map_some,
        PreparedInternal.holding, hid, hfinalized]
    exact (h.sound j).follows hheld
  | prepare j input phase first => cases hop
  | finalize j input ref request nonces phase outside checked => cases hop
  | grant j input ref scope request nonces phase outside checked => cases hop
  | retrieve j input ref request nonces phase outside checked => cases hop

/-- The object that a rotation holds stays the stored one. -/
theorem Custody.keeps_ref (h : Custody T) {T' : Traced} {call : Call} {input : RotateInput} {ref predecessor : Ref}
    (hcall : call ∈ T.system.calls) (hop : call.operation = .rotate input ref) (hprogress : Progress T T' call.service)
    (hstored : (T.system.services call.service).authorizations.ref input.predecessorAuthorizationId = some predecessor) :
    (T'.system.services call.service).authorizations.ref input.predecessorAuthorizationId = some predecessor := by
  obtain ⟨hold, e, -, -, -, he, hstaged, -⟩ := h.follows call hcall input ref hop
  obtain ⟨a, ha, rfl⟩ := Option.map_eq_some_iff.mp he
  rw [ObjectMap.get_eq_deref _ hstored] at ha
  refine hprogress.refs _ predecessor a hstored ha fun hstate => hstaged ?_
  rw [Keys.ControllerAuthorizationRecord.entry, hstate]
  rfl

/-- What a rotation that awaits the registry holds is stored under its predecessor's id. -/
theorem Continued.verifying {F : Externals} {config : Config} {service service' : BundleService} {input : RotateInput}
    {ref predecessor : Ref} {phase : Phase} {result : AwaitResult} {successor : Keys.ControllerAuthorizationRecord}
    {envelope : Bytes} {context : DekWrapContext}
    (h : Continued F config service (.rotate input ref) phase result service'
      (.verifying (.rotateControllerAuthorization predecessor successor) envelope context)) :
    phase = .verifying (.rotateControllerAuthorization predecessor successor) envelope context ∨
      service.authorizations.ref input.predecessorAuthorizationId = some predecessor := by
  cases h with
  | waits => exact .inl rfl
  | rotationWraps input ref context envelope commitment suspended checked =>
    refine .inr ?_
    simp only [Keys.KeyLifecycleRegistry.rotateControllerAuthorization, bind_eq_ok, pure_eq_ok, Prod.exists,
      Keys.KeyLifecycleRegistry.authorization_eq_ok, Keys.Suspended.rotateControllerAuthorization.injEq] at checked
    obtain ⟨ref', record, ⟨href, -⟩, -, -, -, -, -, -, -, -, rfl, -⟩ := checked
    exact href

theorem custody_step (h : Custody T) {event : Event} (hexclusive : Exclusive T event) :
    Custody (T.step F configs event) := by
  have hprogress : ∀ i, Progress T (T.step F configs event) i := progress_step h hexclusive
  have hstep : Stepped F configs T.system event (T.step F configs event).system := step_cases event
  have hawaiting : (T.step F configs event).system.Awaiting := awaiting_step h.awaiting event
  refine ⟨fun i => (hprogress i).filed, fun i => (hprogress i).sound (h.sound i), hawaiting, ?_, ?_⟩
  · intro call hcall input ref hop
    refine (hprogress call.service).follows (h.sound call.service) ?_
    obtain ⟨c, hc⟩ := List.mem_iff_getElem?.mp hcall
    have hstays : ∀ old, T.system.calls[c]? = some old →
        (T.register call.service).Follows ref input.predecessorAuthorizationId := by
      intro old hold
      obtain ⟨call', hcall', hservice, hoperation⟩ := hstep.call_stays hold
      obtain rfl : call = call' := Option.some.inj (hc.symm.trans hcall')
      rw [hservice]
      exact h.follows old (List.mem_of_getElem? hold) input ref (hoperation.symm.trans hop)
    obtain hold | hbegins | ⟨bundleId, ref', hpromote⟩ | ⟨old, hold, -⟩ | ⟨old, result, -, hold, -⟩ := hstep.call_cases hc
    · exact hstays call hold
    · exact hbegins.follows h hop
    · rw [hpromote] at hop
      cases hop
    · exact hstays old hold
    · exact hstays old hold
  · intro call hcall input ref predecessor successor envelope context hop hphase
    obtain ⟨c, hc⟩ := List.mem_iff_getElem?.mp hcall
    obtain hold | hbegins | ⟨bundleId, ref', hpromote⟩ | ⟨old, -, -, houtside⟩ |
      ⟨old, result, rfl, hold, -, rfl⟩ := hstep.call_cases hc
    · have hmem := List.mem_of_getElem? hold
      exact h.keeps_ref hmem hop (hprogress _) (h.verifying call hmem input ref predecessor _ envelope context hop hphase)
    · cases hbegins with
      | rotate j input' ref' scope request nonces phase outside checked =>
        obtain rfl : phase = _ := hphase
        cases outside
      | prepare j input phase first => cases hop
      | finalize j input ref request nonces phase outside checked => cases hop
      | grant j input ref scope request nonces phase outside checked => cases hop
      | retrieve j input ref request nonces phase outside checked => cases hop
    · rw [hpromote] at hop
      cases hop
    · rw [hphase] at houtside
      cases houtside
    · have hmem := List.mem_of_getElem? hold
      have hcontinued : Continued F (configs old.service) (T.system.services old.service) old.operation old.phase result
          (old.next F configs T.system result).1 (old.next F configs T.system result).2 := continued_call old.operation
      have hop' : old.operation = .rotate input ref := hop
      have hphase' : (old.next F configs T.system result).2 = _ := hphase
      rw [hop', hphase'] at hcontinued
      have hstored : (T.system.services old.service).authorizations.ref input.predecessorAuthorizationId =
          some predecessor := by
        obtain hsame | hstored := hcontinued.verifying
        · exact h.verifying old hmem input ref predecessor _ envelope context hop' hsame
        · exact hstored
      have hkept := h.keeps_ref hmem hop' (hprogress old.service) hstored
      exact hkept

end

theorem custody_after (F : Externals) (configs : ℕ → Config) {repository : Repository} {ls : List Event}
    (hguard : Guarded (Traced.step F configs) Exclusive (.new repository) ls) :
    Custody (tracedAfter F configs repository ls) :=
  run_guarded (I := Custody) (fun _ _ hexclusive h => custody_step h hexclusive) ls hguard (custody_new repository)

/-! ### Linear rotation -/

/-- Every authorization that has been rotated away has exactly one successor. -/
def OneSuccessor (service : BundleService) (trace : Trace) : Prop :=
  ∀ id, (trace.successors id).length ≤ 1 ∧
    ∀ a, service.authorizations.get id = some a → a.state = .retired → ∃ successor, trace.successors id = [successor]

/-- An id keeps its envelope and its key, and is retired for good. -/
def NeverRebound (service service' : BundleService) : Prop :=
  ∀ id a, service.authorizations.get id = some a → ∃ a', service'.authorizations.get id = some a' ∧
    a'.envelopeId = a.envelopeId ∧ a'.keyId = a.keyId ∧ (a.state = .retired → a'.state = .retired)

/-- An active authorization that belongs to the record. -/
def ActiveOf (service : BundleService) (trace : Trace) (ref : Ref) (id : String) : Prop :=
  trace.owner id = some ref ∧ ∃ a, service.authorizations.get id = some a ∧ a.state = .active

/-- The record names an active authorization that belongs to it, with its
envelope and its key. -/
def NamesActive (service : BundleService) (trace : Trace) (ref : Ref) (record : PreparedInternal) : Prop :=
  trace.owner record.controllerAuthorizationId = some ref ∧
    ∃ a, service.authorizations.get record.controllerAuthorizationId = some a ∧ a.state = .active ∧
      a.envelopeId = record.controllerEnvelopeId ∧ a.keyId = record.controllerEncryptionKeyId

/-- A rotation of the record has completed in the registry and its call has not
yet written the record. -/
def Rewriting (S : System) (i : ℕ) (ref : Ref) : Prop :=
  ∃ call ∈ S.calls, call.service = i ∧
    ∃ input envelope context, call.operation = .rotate input ref ∧ call.phase = .rotated envelope context

/-- Rotation is linear between two states of service `i`. -/
structure Linear (earlier T : Traced) (i : ℕ) : Prop where
  successor : OneSuccessor (T.system.services i) (T.traces i)
  bound : NeverRebound (earlier.system.services i) (T.system.services i)
  single : ∀ ref record, (T.system.services i).byBundle.deref ref = some record → record.finalized = true →
    (∃! id, ActiveOf (T.system.services i) (T.traces i) ref id) ∧
      NamesActive (T.system.services i) (T.traces i) ref record

section

variable {F : Externals} {configs : ℕ → Config} {T : Traced} {i : ℕ}

theorem entries_eq_some (state : Keys.ControllerAuthorizationState) {id : String} {bound : String × String} :
    (T.register i).entries id = some ⟨bound, state.standing⟩ ↔ ∃ a, (T.system.services i).authorizations.get id = some a ∧
      a.state = state ∧ (a.envelopeId, a.keyId) = bound := by
  show Keys.entryOf _ id = _ ↔ _
  simp only [Keys.entryOf, Option.map_eq_some_iff, Keys.ControllerAuthorizationRecord.entry, Entry.mk.injEq,
    Keys.ControllerAuthorizationState.standing_inj, Keys.ControllerAuthorizationRecord.bound]
  constructor
  · rintro ⟨a, ha, hbound, hstate⟩
    exact ⟨a, ha, hstate, hbound⟩
  · rintro ⟨a, ha, hstate, hbound⟩
    exact ⟨a, ha, hbound, hstate⟩

theorem Custody.oneSuccessor (h : Custody T) (i : ℕ) : OneSuccessor (T.system.services i) (T.traces i) := by
  have hsuccessors : ∀ id, (T.register i).successors id = (T.traces i).successors id := fun _ => rfl
  have hbook := (h.sound i).book
  refine fun id => ⟨?_, fun a ha hretired => ?_⟩
  · rw [← hsuccessors]
    cases hentry : (T.register i).entries id with
    | none => simp [(hbook.unknown id hentry).2]
    | some e =>
      by_cases hstanding : e.standing = .retired
      · obtain ⟨successor, hone⟩ := hbook.rotated id e hentry hstanding
        simp [hone]
      · simp [hbook.unrotated id e hentry hstanding]
  · exact hbook.rotated id _ ((entries_eq_some _).mpr ⟨a, ha, hretired, rfl⟩) rfl

theorem neverRebound_of_onward {T' : Traced} (h : Book.Onward (T.register i).toBook (T'.register i).toBook) :
    NeverRebound (T.system.services i) (T'.system.services i) := by
  intro id a ha
  obtain ⟨e', he', hbound, -, hretired⟩ := h id _ ((entries_eq_some _).mpr ⟨a, ha, rfl, rfl⟩)
  obtain ⟨a', ha', rfl⟩ := Option.map_eq_some_iff.mp he'
  obtain ⟨henvelope, hkey⟩ := Prod.mk.inj hbound
  refine ⟨a', ha', henvelope, hkey, fun hstate => ?_⟩
  have hstanding := hretired (by rw [hstate]; rfl)
  exact Keys.ControllerAuthorizationState.standing_inj.mp hstanding

/-- The owner's one entry is its one active authorization. -/
theorem activeOf_unique {ref : Ref} {id : String} {bound : String × String} (h : (T.register i).Holds ref id bound) :
    ∃! id, ActiveOf (T.system.services i) (T.traces i) ref id := by
  obtain ⟨a, ha, hactive, -⟩ := (entries_eq_some .active).mp h.active
  refine ⟨id, ⟨h.owner, a, ha, hactive⟩, ?_⟩
  rintro id' ⟨howner, a', ha', hactive'⟩
  exact h.only id' _ howner ((entries_eq_some _).mpr ⟨a', ha', hactive', rfl⟩) (by simp [Keys.ControllerAuthorizationState.standing])

theorem rewriting_iff {ref : Ref} : Rewriting T.system i ref ↔ ∃ c id bound, (T.register i).pending c = some (ref, id, bound) := by
  constructor
  · rintro ⟨call, hcall, hservice, input, envelope, context, hop, hphase⟩
    obtain ⟨c, hc⟩ := List.mem_iff_getElem?.mp hcall
    refine ⟨c, input.successorAuthorizationId, (input.successorEnvelopeId, input.successorKeyId), ?_⟩
    show pendingOf T.system.calls i c = _
    rw [pendingOf_eq hc, Call.pending, hop, hphase]
    exact if_pos hservice
  · rintro ⟨c, id, bound, hpending⟩
    obtain ⟨call, hc, hcall⟩ := Option.bind_eq_some_iff.mp hpending
    unfold Call.pending at hcall
    split at hcall
    next input ref' envelope context hop hphase =>
      split_ifs at hcall with hservice
      cases hcall
      exact ⟨call, List.mem_of_getElem? hc, hservice, input, envelope, context, hop, hphase⟩
    · cases hcall

/-- A finalized record has one active authorization, and names it unless the
record is being rewritten. -/
theorem Custody.single (h : Custody T) {ref : Ref} {record : PreparedInternal}
    (hrecord : (T.system.services i).byBundle.deref ref = some record) (hfinalized : record.finalized = true) :
    (∃! id, ActiveOf (T.system.services i) (T.traces i) ref id) ∧
      (NamesActive (T.system.services i) (T.traces i) ref record ↔ ¬Rewriting T.system i ref) := by
  have hheld : (T.register i).holding ref = some ⟨record.controllerAuthorizationId,
      (record.controllerEnvelopeId, record.controllerEncryptionKeyId), true⟩ := by
    simp only [Traced.register, registerOf, BundleService.holding, hrecord, Option.map_some, PreparedInternal.holding,
      hfinalized]
  rw [rewriting_iff]
  obtain hwritten | ⟨c, id, bound, hsuperseded⟩ := (h.sound i).current ref _ _ hheld
  · refine ⟨activeOf_unique hwritten.holds, iff_of_true ⟨hwritten.holds.owner, ?_⟩ ?_⟩
    · obtain ⟨a, ha, hactive, hbound⟩ := (entries_eq_some .active).mp hwritten.holds.active
      obtain ⟨henvelope, hkey⟩ := Prod.mk.inj hbound
      exact ⟨a, ha, hactive, henvelope, hkey⟩
    · rintro ⟨c, id, bound, hpending⟩
      exact hwritten.idle c id bound hpending
  · refine ⟨activeOf_unique hsuperseded.holds, iff_of_false ?_ (not_not.mpr ⟨c, id, bound, hsuperseded.pending⟩)⟩
    rintro ⟨-, a, ha, hactive, -⟩
    obtain ⟨bound', hretired⟩ := hsuperseded.retired
    obtain ⟨a', ha', hretired', -⟩ := (entries_eq_some .retired).mp hretired
    obtain rfl := Option.some.inj (ha.symm.trans ha')
    rw [hactive] at hretired'
    cases hretired'

end

/-- **Controller rotation is linear** in every run in which each rotation that
completes is exclusive. The record of a finalized bundle names its active
authorization in just the states in which no rotation of the bundle stands
between the registry's write and the record's. -/
theorem rotation_is_linear (F : Externals) (configs : ℕ → Config) (repository : Repository) (ls ms : List Event) (i : ℕ)
    (hguard : Guarded (Traced.step F configs) Exclusive (.new repository) (ls ++ ms)) :
    OneSuccessor ((tracedAfter F configs repository (ls ++ ms)).system.services i)
        ((tracedAfter F configs repository (ls ++ ms)).traces i) ∧
      NeverRebound ((tracedAfter F configs repository ls).system.services i)
        ((tracedAfter F configs repository (ls ++ ms)).system.services i) ∧
      ∀ ref record,
        ((tracedAfter F configs repository (ls ++ ms)).system.services i).byBundle.deref ref = some record →
        record.finalized = true →
        (∃! id, ActiveOf ((tracedAfter F configs repository (ls ++ ms)).system.services i)
          ((tracedAfter F configs repository (ls ++ ms)).traces i) ref id) ∧
        (NamesActive ((tracedAfter F configs repository (ls ++ ms)).system.services i)
            ((tracedAfter F configs repository (ls ++ ms)).traces i) ref record ↔
          ¬Rewriting (tracedAfter F configs repository (ls ++ ms)).system i ref) := by
  obtain ⟨hls, hms⟩ := (guarded_append ls ms _).mp hguard
  have hearlier := custody_after F configs hls
  -- what is written in the books after `ls` stays so
  have hlater : Custody (tracedAfter F configs repository (ls ++ ms)) ∧
      Book.Onward ((tracedAfter F configs repository ls).register i).toBook
        ((tracedAfter F configs repository (ls ++ ms)).register i).toBook := by
    rw [tracedAfter, tracedAfter, run_append]
    refine run_guarded (I := fun T => Custody T ∧ Book.Onward ((tracedAfter F configs repository ls).register i).toBook
      (T.register i).toBook) (fun T event hexclusive h => ?_) ms hms ⟨hearlier, .refl⟩
    exact ⟨custody_step h.1 hexclusive, h.2.trans (progress_step h.1 hexclusive i).onward⟩
  obtain ⟨hcustody, honward⟩ := hlater
  exact ⟨hcustody.oneSuccessor i, neverRebound_of_onward honward, fun ref record hrecord hfinalized =>
    hcustody.single hrecord hfinalized⟩

namespace Sample

def thirdAuthorizationId : String := "urn:evllm:authorization:00000000-0000-4000-8000-000000000056"
def secondEnvelopeId : String := "urn:evllm:envelope:00000000-0000-4000-8000-000000000057"
def thirdEnvelopeId : String := "urn:evllm:envelope:00000000-0000-4000-8000-000000000058"

/-- An authorization of no bundle is staged, activated and rotated. -/
def exchanging : List Event :=
  [.keyLifecycle 0 (.stageControllerAuthorization ⟨otherAuthorizationId, secondEnvelopeId, keyId, .staged⟩),
    .keyLifecycle 0 (.activateControllerAuthorization otherAuthorizationId),
    .keyLifecycle 0 (.rotateControllerAuthorization otherAuthorizationId
      ⟨thirdAuthorizationId, thirdEnvelopeId, keyId, .staged⟩)]

def traced (ls : List Event) : Traced := tracedAfter grantExternals (fun _ => grantConfig) memory ls

theorem traced_append (ls ms : List Event) :
    traced (ls ++ ms) = run (Traced.step grantExternals fun _ => grantConfig) (traced ls) ms := by
  rw [traced, traced, tracedAfter, tracedAfter, run_append]

theorem traced_system (ls : List Event) : (traced ls).system = grantSystem ls := by
  rw [traced, tracedAfter_system, grantSystem]

def exchangingSystem : System := run (step grantExternals fun _ => grantConfig) grantableSystem exchanging

theorem grantable_exclusive {event : Event} (h : event ∈ grantable ++ exchanging) (T : Traced) : Exclusive T event := by
  simp only [grantable, preparation, finalizing, exchanging, List.cons_append, List.nil_append, List.mem_cons,
    List.not_mem_nil, or_false] at h
  obtain rfl | rfl | rfl | rfl | rfl | rfl | rfl | rfl | rfl := h
  all_goals
    intro rotation hrotation
    cases hrotation

theorem exchanging_guarded : Guarded (Traced.step grantExternals fun _ => grantConfig) Exclusive (.new memory)
    (grantable ++ exchanging) :=
  guarded_of_mem _ _ fun _ h T => grantable_exclusive h T

theorem exchanging_system : (traced (grantable ++ exchanging)).system = exchangingSystem := by
  have hrun : grantSystem (grantable ++ exchanging) =
      run (step grantExternals fun _ => grantConfig) (grantSystem grantable) exchanging := run_append _ _ _ _
  rw [traced_system, hrun, grantable_eq, exchangingSystem]

/-- The authorization that is rotated belongs to no record. -/
theorem exchanging_owner : ((traced (grantable ++ exchanging)).traces 0).owner otherAuthorizationId = none := by
  have hguard : Guarded (Traced.step grantExternals fun _ => grantConfig) Exclusive (.new memory) grantable :=
    ((guarded_append _ _ _).mp exchanging_guarded).1
  have hcustody : Custody (traced grantable) := by
    rw [traced]
    exact custody_after grantExternals (fun _ => grantConfig) hguard
  have hsystem : (traced grantable).system = grantableSystem := by rw [traced_system, grantable_eq]
  have hunknown : ((traced grantable).register 0).entries otherAuthorizationId = none := by
    rw [Traced.register, hsystem]
    rfl
  have hquiet : ∀ T : Traced,
      (run (Traced.step grantExternals fun _ => grantConfig) T exchanging).traces 0 = T.traces 0 := by
    intro T
    rw [exchanging, run_cons, run_cons, run_cons, run_nil, traces_registry rfl, traces_registry rfl, traces_registry rfl]
  rw [traced_append, hquiet, ← register_owner]
  exact ((hcustody.sound 0).book.unknown otherAuthorizationId hunknown).1

theorem exchanging_rotation : rotationOf exchangingSystem (.keyLifecycle 0 (.resume 0 true)) =
    some ⟨0, 1, ⟨thirdAuthorizationId, thirdEnvelopeId, keyId, .staged⟩, none⟩ := rfl

theorem exchanging_predecessor : (exchangingSystem.services 0).authorizations.deref 1 =
    some ⟨otherAuthorizationId, secondEnvelopeId, keyId, .active⟩ := rfl

theorem exchanging_successor : (exchangingSystem.services 0).authorizations.get thirdAuthorizationId = none := rfl

theorem exchanging_exclusive {T : Traced} (hsystem : T.system = exchangingSystem)
    (howner : (T.traces 0).owner otherAuthorizationId = none) : Exclusive T (.keyLifecycle 0 (.resume 0 true)) := by
  intro rotation hrotation
  rw [hsystem, exchanging_rotation, Option.mem_some_iff] at hrotation
  subst hrotation
  refine Rotation.exclusive_of_unowned ⟨otherAuthorizationId, secondEnvelopeId, keyId, .active⟩ ?_ rfl ?_ howner
  · rw [hsystem]
    exact exchanging_predecessor
  · rw [hsystem]
    exact exchanging_successor

theorem exchanged_guarded : Guarded (Traced.step grantExternals fun _ => grantConfig) Exclusive (.new memory)
    ((grantable ++ exchanging) ++ [.keyLifecycle 0 (.resume 0 true)]) := by
  have hexclusive := exchanging_exclusive exchanging_system exchanging_owner
  rw [traced, tracedAfter] at hexclusive
  exact (guarded_append _ _ _).mpr ⟨exchanging_guarded, hexclusive, trivial⟩

end Sample

/-- In the sample the authorization rotated away has one successor, and the
finalized bundle one active authorization, which its record names. -/
theorem sample_rotation_is_linear :
    (∃ successor, ((Sample.traced ((Sample.grantable ++ Sample.exchanging) ++ [.keyLifecycle 0 (.resume 0 true)])).traces
        0).successors Sample.otherAuthorizationId = [successor]) ∧
      ∃! id, ActiveOf ((Sample.traced ((Sample.grantable ++ Sample.exchanging) ++
          [.keyLifecycle 0 (.resume 0 true)])).system.services 0)
        ((Sample.traced ((Sample.grantable ++ Sample.exchanging) ++ [.keyLifecycle 0 (.resume 0 true)])).traces 0) 0 id := by
  have hlinear := rotation_is_linear Sample.grantExternals (fun _ => Sample.grantConfig) Sample.memory
    (Sample.grantable ++ Sample.exchanging) [.keyLifecycle 0 (.resume 0 true)] 0 Sample.exchanged_guarded
  have htraced : tracedAfter Sample.grantExternals (fun _ => Sample.grantConfig) Sample.memory
      ((Sample.grantable ++ Sample.exchanging) ++ [.keyLifecycle 0 (.resume 0 true)]) =
      Sample.traced ((Sample.grantable ++ Sample.exchanging) ++ [.keyLifecycle 0 (.resume 0 true)]) := by
    rw [Sample.traced]
  rw [htraced] at hlinear
  obtain ⟨hsuccessor, -, hsingle⟩ := hlinear
  have hsystem : (Sample.traced ((Sample.grantable ++ Sample.exchanging) ++ [.keyLifecycle 0 (.resume 0 true)])).system =
      step Sample.grantExternals (fun _ => Sample.grantConfig) Sample.exchangingSystem (.keyLifecycle 0 (.resume 0 true)) := by
    rw [Sample.traced_append, run_system, Sample.exchanging_system]
    rfl
  have hretired : ((Sample.traced ((Sample.grantable ++ Sample.exchanging) ++
      [.keyLifecycle 0 (.resume 0 true)])).system.services 0).authorizations.get Sample.otherAuthorizationId =
      some ⟨Sample.otherAuthorizationId, Sample.secondEnvelopeId, Sample.keyId, .retired⟩ := by
    rw [hsystem]
    rfl
  have hrecord : ((Sample.traced ((Sample.grantable ++ Sample.exchanging) ++
      [.keyLifecycle 0 (.resume 0 true)])).system.services 0).byBundle.deref 0 =
      some { Sample.record with finalized := true } := by
    rw [hsystem]
    rfl
  exact ⟨(hsuccessor Sample.otherAuthorizationId).2 _ hretired rfl, (hsingle 0 _ hrecord rfl).1⟩

namespace Sample

/-- Two rotations of one authorization, both verified before either completes. -/
def racing : List Event :=
  [.keyLifecycle 0 (.addKey ⟨keyId, organizationId, .active⟩),
    .keyLifecycle 0 (.stageControllerAuthorization ⟨controllerAuthorizationId, "envelope 1", keyId, .staged⟩),
    .keyLifecycle 0 (.activateControllerAuthorization controllerAuthorizationId),
    .keyLifecycle 0 (.rotateControllerAuthorization controllerAuthorizationId
      ⟨otherAuthorizationId, secondEnvelopeId, keyId, .staged⟩),
    .keyLifecycle 0 (.rotateControllerAuthorization controllerAuthorizationId
      ⟨thirdAuthorizationId, thirdEnvelopeId, keyId, .staged⟩),
    .keyLifecycle 0 (.resume 0 true), .keyLifecycle 0 (.resume 0 true)]

theorem racing_successors : ((traced racing).traces 0).successors controllerAuthorizationId =
    [otherAuthorizationId, thirdAuthorizationId] := by
  decide +kernel

end Sample

/-- Two rotations of one authorization that overlap give it two successors, both
of them active. -/
theorem rotation_not_linear : ¬∀ (ls ms : List Event) (i : ℕ), Linear (Sample.traced ls) (Sample.traced (ls ++ ms)) i := by
  intro h
  have hlinear := h Sample.racing [] 0
  rw [List.append_nil] at hlinear
  have hlength := (hlinear.successor Sample.controllerAuthorizationId).1
  rw [Sample.racing_successors] at hlength
  cases hlength
  contradiction

end Evidence
end Evllm
