/-
# Controller authorizations as a book of entries

The authorizations of a key registry, read as a book: an entry is bound to the
envelope and the key, and its standing is the authorization's state. Staging and
activation are the moves of the book. A rotation is one as long as the object
that it retires is the stored one, so the map must be filed: every object that
has left the staging state is stored under its own id (`Filed`).

Key definitions: `entryOf`, `Filed`, `Lifecycle.rotation`.
Key theorems: `entryOf_insert`, `entryOf_mutate`, `entryOf_rotated`,
`step_authorizations`.
-/
import Evllm.Keys.Revocation
import Evllm.Lib.Succession

namespace Evllm
namespace Keys

open Lib KeyLifecycleRegistry Function

def ControllerAuthorizationState.standing : ControllerAuthorizationState → Standing
  | .staged => .staged
  | .active => .active
  | .retired => .retired

theorem ControllerAuthorizationState.standing_inj {s t : ControllerAuthorizationState} :
    s.standing = t.standing ↔ s = t := by
  cases s <;> cases t <;> decide

/-- What an authorization is bound to: its envelope and its key. -/
def ControllerAuthorizationRecord.bound (authorization : ControllerAuthorizationRecord) : String × String :=
  (authorization.envelopeId, authorization.keyId)

def ControllerAuthorizationRecord.entry (authorization : ControllerAuthorizationRecord) : Entry (String × String) :=
  ⟨authorization.bound, authorization.state.standing⟩

def entryOf (m : ObjectMap String ControllerAuthorizationRecord) (id : String) : Option (Entry (String × String)) :=
  (m.get id).map ControllerAuthorizationRecord.entry

/-- Authorizations are stored under their own ids, and all that have left the
staging state are stored. -/
structure Filed (m : ObjectMap String ControllerAuthorizationRecord) : Prop where
  named : ∀ id r a, m.ref id = some r → m.deref r = some a → a.authorizationId = id
  filed : ∀ r a, m.deref r = some a → a.state ≠ .staged → m.ref a.authorizationId = some r

section

variable {m : ObjectMap String ControllerAuthorizationRecord} {id : String} {r : Ref} {a : ControllerAuthorizationRecord}

theorem entryOf_insert : entryOf (m.insert id a) = update (entryOf m) id (some a.entry) := by
  funext id'
  rw [entryOf, ObjectMap.get_insert, update_apply]
  by_cases hid : id = id'
  · rw [if_pos hid, if_pos hid.symm, Option.map_some]
  · rw [if_neg hid, if_neg (Ne.symm hid)]
    rfl

theorem entryOf_mutate (f : ControllerAuthorizationRecord → ControllerAuthorizationRecord) (href : m.ref id = some r)
    (ha : m.deref r = some a) : entryOf (m.mutate r f) = update (entryOf m) id (some (f a).entry) := by
  funext id'
  rw [entryOf, ObjectMap.get_mutate, update_apply]
  by_cases hid : id' = id
  · rw [if_pos hid, if_pos (by rw [hid, href]), hid, ObjectMap.get_eq_deref m href, ha]
    rfl
  · have hother : m.ref id' ≠ some r := fun href' => hid (m.injective id' id r href' href)
    rw [if_neg hid, if_neg hother]
    rfl

theorem entryOf_eq_none : entryOf m id = none ↔ m.get id = none := Option.map_eq_none_iff

theorem entryOf_of_get (h : m.get id = some a) : entryOf m id = some a.entry := by
  rw [entryOf, h, Option.map_some]

/-- A new object takes the place of none, or of a staged one. -/
theorem Filed.insert (h : Filed m) (hfree : ∀ old, m.get a.authorizationId = some old → old.state = .staged) :
    Filed (m.insert a.authorizationId a) := by
  refine ⟨fun id r b href hb => ?_, fun r b hb hstate => ?_⟩
  · rw [ObjectMap.ref_insert] at href
    split_ifs at href with hid
    · cases href
      rw [ObjectMap.deref_insert_new] at hb
      cases hb
      exact hid
    · rw [ObjectMap.deref_insert_of_lt m (m.allocated id r href)] at hb
      exact h.named id r b href hb
  · rw [ObjectMap.deref_insert] at hb
    split_ifs at hb with hr
    · cases hb
      rw [ObjectMap.ref_insert, if_pos rfl, hr]
    · have href := h.filed r b hb hstate
      have hid : a.authorizationId ≠ b.authorizationId := by
        intro hid
        refine hstate (hfree b ?_)
        rw [hid, ObjectMap.get_eq_deref m href, hb]
      rw [ObjectMap.ref_insert, if_neg hid, href]

/-- A stored object changes its state. -/
theorem Filed.mutate (h : Filed m) (href : m.ref id = some r) (state : ControllerAuthorizationState) :
    Filed (m.mutate r fun a => { a with state }) := by
  refine ⟨fun id' r' b href' hb => ?_, fun r' b hb hstate => ?_⟩
  · rw [ObjectMap.deref_mutate] at hb
    split_ifs at hb with hr
    · obtain ⟨a, ha, rfl⟩ := Option.map_eq_some_iff.mp hb
      exact h.named id' r' a href' ha
    · exact h.named id' r' b href' hb
  · rw [ObjectMap.ref_mutate]
    rw [ObjectMap.deref_mutate] at hb
    split_ifs at hb with hr
    · obtain ⟨a, ha, rfl⟩ := Option.map_eq_some_iff.mp hb
      subst hr
      exact (h.named id r a href ha).symm ▸ href
    · exact h.filed r' b hb hstate

end

/-- Stored authorizations that have left the staging state stay the objects
that they are. -/
def RefsKept (m m' : ObjectMap String ControllerAuthorizationRecord) : Prop :=
  ∀ id r a, m.ref id = some r → m.deref r = some a → a.state ≠ .staged → m'.ref id = some r

section

variable {m m' : ObjectMap String ControllerAuthorizationRecord} {a : ControllerAuthorizationRecord}

theorem RefsKept.refl : RefsKept m m := fun _ _ _ href _ _ => href

theorem RefsKept.insert (hfree : ∀ old, m.get a.authorizationId = some old → old.state = .staged) :
    RefsKept m (m.insert a.authorizationId a) := by
  intro id r b href hb hstate
  rw [ObjectMap.ref_insert, if_neg, href]
  rintro rfl
  exact hstate (hfree b (by rw [ObjectMap.get_eq_deref m href, hb]))

theorem RefsKept.mutate (h : RefsKept m m') (r : Ref) (f : ControllerAuthorizationRecord → ControllerAuthorizationRecord) :
    RefsKept m (m'.mutate r f) := h

end

/-! ### Rotations -/

/-- What a rotation writes once its envelope is verified. -/
def rotateInto (m : ObjectMap String ControllerAuthorizationRecord) (predecessor : Ref)
    (successor : ControllerAuthorizationRecord) : ObjectMap String ControllerAuthorizationRecord :=
  (m.insert successor.authorizationId { successor with state := .active }).mutate predecessor
    fun a => { a with state := .retired }

section

variable {m : ObjectMap String ControllerAuthorizationRecord} {predecessor : Ref}
variable {a successor : ControllerAuthorizationRecord}

/-- The successor's id is new, or staged for the same envelope and key. -/
def FreeFor (m : ObjectMap String ControllerAuthorizationRecord) (successor : ControllerAuthorizationRecord) : Prop :=
  ∀ old ∈ m.get successor.authorizationId, old.state = .staged ∧ old.bound = successor.bound

instance (m : ObjectMap String ControllerAuthorizationRecord) (successor : ControllerAuthorizationRecord) :
    Decidable (FreeFor m successor) :=
  inferInstanceAs (Decidable (∀ old ∈ m.get successor.authorizationId, _))

theorem Filed.inserted (h : Filed m) (hfree : FreeFor m successor) :
    Filed (m.insert successor.authorizationId { successor with state := .active }) :=
  h.insert (a := { successor with state := .active }) fun old hold => (hfree old hold).1

/-- The object that a rotation retires is still stored once the successor is. -/
theorem Filed.ref_inserted (h : Filed m) (ha : m.deref predecessor = some a) (hactive : a.state = .active)
    (hfree : FreeFor m successor) :
    (m.insert successor.authorizationId { successor with state := .active }).ref a.authorizationId = some predecessor := by
  have href := h.filed predecessor a ha (by simp [hactive])
  rw [ObjectMap.ref_insert, if_neg, href]
  intro hid
  have hstaged := (hfree a (by rw [hid, ObjectMap.get_eq_deref m href, ha]; rfl)).1
  rw [hactive] at hstaged
  cases hstaged

theorem Filed.rotated (h : Filed m) (ha : m.deref predecessor = some a) (hactive : a.state = .active)
    (hfree : FreeFor m successor) : Filed (rotateInto m predecessor successor) :=
  (h.inserted hfree).mutate (h.ref_inserted ha hactive hfree) .retired

theorem RefsKept.rotated (hfree : FreeFor m successor) : RefsKept m (rotateInto m predecessor successor) := by
  have hinserted := RefsKept.insert (m := m) (a := { successor with state := .active }) fun old hold => (hfree old hold).1
  exact hinserted.mutate predecessor _

theorem entryOf_rotated (h : Filed m) (ha : m.deref predecessor = some a) (hactive : a.state = .active)
    (hfree : FreeFor m successor) : entryOf (rotateInto m predecessor successor) =
      update (update (entryOf m) successor.authorizationId (some ⟨successor.bound, .active⟩)) a.authorizationId
        (some ⟨a.bound, .retired⟩) := by
  rw [rotateInto, entryOf_mutate _ (h.ref_inserted ha hactive hfree) (ObjectMap.deref_insert_of_some m ha _), entryOf_insert]
  rfl

end

/-- The rotation that a suspended call ends with. -/
def Suspended.rotation : Suspended → Option (Ref × ControllerAuthorizationRecord)
  | .rotateControllerAuthorization predecessor successor => some (predecessor, successor)
  | _ => none

/-- The rotation that an event of the registry completes. -/
def Lifecycle.rotation (c : Lifecycle) (event : Event) : Option (Ref × ControllerAuthorizationRecord) :=
  (c.resumed event).bind Suspended.rotation

/-! ### What a step does to the authorizations -/

inductive Reauthorized (c : Lifecycle) : Event → ObjectMap String ControllerAuthorizationRecord → Prop where
  | stays (event : Event) (quiet : c.rotation event = none) : Reauthorized c event c.registry.authorizations
  | stages (record : ControllerAuthorizationRecord) (staged : record.state = .staged)
      (new : c.registry.authorizations.get record.authorizationId = none) :
      Reauthorized c (.stageControllerAuthorization record)
        (c.registry.authorizations.insert record.authorizationId record)
  | activates (id : String) (ref : Ref) (record : ControllerAuthorizationRecord)
      (stored : c.registry.authorizations.ref id = some ref) (held : c.registry.authorizations.deref ref = some record)
      (staged : record.state = .staged) :
      Reauthorized c (.activateControllerAuthorization id)
        (c.registry.authorizations.mutate ref fun a => { a with state := .active })
  | rotates (event : Event) (predecessor : Ref) (successor : ControllerAuthorizationRecord)
      (completes : c.rotation event = some (predecessor, successor)) :
      Reauthorized c event (rotateInto c.registry.authorizations predecessor successor)

section

variable {r r' : KeyLifecycleRegistry}

theorem stageControllerAuthorization_staged {record : ControllerAuthorizationRecord}
    (h : r.stageControllerAuthorization record = .ok r') : record.state = .staged := by
  simp only [stageControllerAuthorization, bind_eq_ok, throwIf_eq_ok, not_or, not_not, ne_eq] at h
  obtain ⟨-, ⟨hstaged, -⟩, -⟩ := h
  exact hstaged

theorem reauthorized_write {c : Lifecycle} {event : Event} {x : Except KeyLifecycleError KeyLifecycleRegistry}
    (hquiet : c.rotation event = none) (h : ∀ r', x = .ok r' → Reauthorized c event r'.authorizations) :
    Reauthorized c event (c.write x).registry.authorizations := by
  cases x with
  | error e => exact .stays event hquiet
  | ok r' => exact h r' rfl

theorem reauthorized_keys {c : Lifecycle} {event : Event} {x : Except KeyLifecycleError KeyLifecycleRegistry}
    (hquiet : c.rotation event = none) (h : ∀ r', x = .ok r' → r'.authorizations = c.registry.authorizations) :
    Reauthorized c event (c.write x).registry.authorizations := by
  refine reauthorized_write hquiet fun r' hr' => ?_
  rw [h r' hr']
  exact .stays event hquiet

theorem reauthorized_suspend {c : Lifecycle} {event : Event} (hquiet : c.rotation event = none)
    (x : Except KeyLifecycleError Suspended) : Reauthorized c event (c.suspend x).registry.authorizations := by
  rw [Lifecycle.suspend_registry]
  exact .stays event hquiet

theorem step_authorizations (c : Lifecycle) (event : Event) :
    Reauthorized c event (c.step event).registry.authorizations := by
  cases event with
  | addKey record => exact reauthorized_keys rfl fun _ h => (addKey_ok h).authorizations
  | activateKey keyId => exact reauthorized_keys rfl fun _ h => (activateKey_ok h).authorizations
  | recordKeyFailure keyId failure => exact reauthorized_keys rfl fun _ h => (recordKeyFailure_ok h).authorizations
  | retireKey keyId => exact reauthorized_keys rfl fun _ h => (retireKey_ok h).authorizations
  | stageControllerAuthorization record =>
    refine reauthorized_write rfl fun r' h => ?_
    obtain ⟨hnew, rfl⟩ := stageControllerAuthorization_ok h
    exact .stages record (stageControllerAuthorization_staged h) hnew
  | activateControllerAuthorization id =>
    refine reauthorized_write rfl fun r' h => ?_
    obtain ⟨ref, record, href, hrecord, hstaged, rfl⟩ := activateControllerAuthorization_ok h
    exact .activates id ref record href hrecord hstaged
  | rotateControllerAuthorization id successor => exact reauthorized_suspend rfl _
  | prepareGrant record =>
    refine reauthorized_keys rfl fun r' h => ?_
    obtain ⟨-, rfl⟩ := prepareGrant_ok h
    rfl
  | activateGrant id currentTime => exact reauthorized_suspend rfl _
  | revokeGrant id =>
    refine reauthorized_keys rfl fun r' h => ?_
    obtain ⟨ref, _, -, -, rfl⟩ := revokeGrant_ok h
    rfl
  | authorizeRetrieval id currentTime => exact .stays _ rfl
  | rotateRecipientEnvelope id keyId envelopeId => exact reauthorized_suspend rfl _
  | resume index verified =>
    cases hcall : c.suspended[index]? with
    | none =>
      simp only [Lifecycle.step, hcall]
      refine .stays _ ?_
      cases verified <;> simp [Lifecycle.rotation, Lifecycle.resumed, hcall]
    | some call =>
      simp only [Lifecycle.step, hcall]
      cases h : c.registry.resume verified call with
      | error err =>
        refine .stays _ ?_
        cases verified with
        | false => rfl
        | true =>
          cases call with
          | rotateControllerAuthorization predecessor successor => cases h
          | activateGrant grant => simp [Lifecycle.rotation, Lifecycle.resumed, hcall, Suspended.rotation]
          | rotateRecipientEnvelope id grant keyId envelopeId =>
            simp [Lifecycle.rotation, Lifecycle.resumed, hcall, Suspended.rotation]
      | ok r' =>
        have hcompletes : c.rotation (.resume index true) = call.rotation := by
          simp [Lifecycle.rotation, Lifecycle.resumed, hcall]
        obtain ⟨rfl, ⟨predecessor, successor, rfl, hauth, -⟩ | ⟨grant, rfl, -, hauth, -⟩ |
          ⟨id, grant, keyId, envelopeId, record, rfl, -, -, hauth, -⟩⟩ := resume_ok h
        · simp only [Lifecycle.write, hauth]
          exact .rotates _ predecessor successor hcompletes
        · simp only [Lifecycle.write, hauth]
          exact .stays _ hcompletes
        · simp only [Lifecycle.write, hauth]
          exact .stays _ hcompletes

end

end Keys
end Evllm
