/-
# Registries that answer alike

Two lifecycles are similar if their registries hold the same records, though
the objects live at other addresses and the records stand in another order,
and the same calls wait at related objects (`Similar`). Every operation finds
the same in both, so it succeeds in both or fails in both in the same way,
and leaves them similar (`agree_*`, `Similar.step`). A snapshot shows no
difference either, since it sorts the records by their ids (`snapshot_eq`).
So no sequence of operations tells the two apart (`Similar.answers`).

Key definitions: `SimilarRegistry`, `SameCall`, `Similar`, `Identified`.
Key theorems: `Similar.step`, `SimilarRegistry.snapshot_eq`,
`Similar.answers`.
-/
import Evllm.Keys.Snapshot
import Evllm.Lib.Alike

namespace Evllm
namespace Keys

open Lib ObjectMap KeyLifecycleRegistry

variable {C : Collation} {ρa ρg : Ref → Ref → Prop} {r r' : KeyLifecycleRegistry}

structure SimilarRegistry (C : Collation) (ρa ρg : Ref → Ref → Prop) (r r' : KeyLifecycleRegistry) : Prop where
  authorizations : Alike C.le ρa r.authorizations r'.authorizations
  grants : Alike C.le ρg r.grants r'.grants
  keys : ∀ id, r.keys.get id = r'.keys.get id
  keyTies : SameTies C.le r.keys.keys r'.keys.keys

/-! ### Lookups -/

section

variable (h : SimilarRegistry C ρa ρg r r')
include h

theorem key_eq (keyId : String) : r.key keyId = r'.key keyId := by
  unfold KeyLifecycleRegistry.key
  rw [h.keys keyId]

theorem has_key_eq (keyId : String) : r.keys.has keyId = r'.keys.has keyId := by
  unfold JsMap.has
  rw [h.keys keyId]

theorem isUsableKey_eq (keyId : String) : r.isUsableKey keyId = r'.isUsableKey keyId := by
  unfold KeyLifecycleRegistry.isUsableKey
  rw [key_eq h]

theorem requireActiveKey_eq (keyId : String) : r.requireActiveKey keyId = r'.requireActiveKey keyId := by
  unfold KeyLifecycleRegistry.requireActiveKey
  rw [key_eq h]

theorem requireUsableKey_eq (keyId : String) : r.requireUsableKey keyId = r'.requireUsableKey keyId := by
  unfold KeyLifecycleRegistry.requireUsableKey
  rw [isUsableKey_eq h]

theorem agree_authorization (id : String) :
    Agree (fun p p' => ρa p.1 p'.1 ∧ p.2 = p'.2) (r.authorization id) (r'.authorization id) := by
  have hrel := h.authorizations.ref id
  unfold KeyLifecycleRegistry.authorization
  generalize r.authorizations.ref id = x at hrel
  generalize r'.authorizations.ref id = y at hrel
  cases hrel with
  | none => exact rfl
  | some hr =>
    obtain ⟨a, ha, ha'⟩ := h.authorizations.object _ _ hr
    simp only [ha, ha']
    exact ⟨hr, rfl⟩

theorem agree_grant (id : String) :
    Agree (fun p p' => ρg p.1 p'.1 ∧ p.2 = p'.2) (r.grant id) (r'.grant id) := by
  have hrel := h.grants.ref id
  unfold KeyLifecycleRegistry.grant
  generalize r.grants.ref id = x at hrel
  generalize r'.grants.ref id = y at hrel
  cases hrel with
  | none => exact rfl
  | some hr =>
    obtain ⟨a, ha, ha'⟩ := h.grants.object _ _ hr
    simp only [ha, ha']
    exact ⟨hr, rfl⟩

end

/-! ### Counting usable controllers

The count fails at the first active authorization whose key is missing,
always in the same way, so the order of the authorizations does not show. -/

theorem isUsableKey_of_get {keyId : String} {key : EncryptionKeyRecord} (h : r.keys.get keyId = some key) :
    r.isUsableKey keyId = .ok (decide (key.state = .active ∨ key.state = .retired)) := by
  rw [isUsableKey, key_eq_ok.mpr h]
  rfl

/-- The key can be read if the authorization is active. -/
def KeyRead (r : KeyLifecycleRegistry) (authorization : ControllerAuthorizationRecord) : Prop :=
  authorization.state = .active → ∃ key, r.keys.get authorization.keyId = some key

theorem countUsable_of_read : ∀ {authorizations : List ControllerAuthorizationRecord},
    (∀ a ∈ authorizations, KeyRead r a) →
    r.countUsable authorizations = .ok (authorizations.countP fun a => a.state = .active ∧ r.isUsableKey a.keyId = .ok true)
  | [], _ => rfl
  | a :: rest, h => by
    have ih := countUsable_of_read fun b hb => h b (List.mem_cons_of_mem a hb)
    rw [countUsable, ih, List.countP_cons]
    by_cases hactive : a.state = .active
    · obtain ⟨key, hkey⟩ := h a List.mem_cons_self hactive
      rw [if_pos hactive, isUsableKey_of_get hkey]
      by_cases hstate : key.state = .active ∨ key.state = .retired
      · simp [hactive, hstate, bind, Except.bind, pure, Except.pure]
      · simp [hactive, hstate, bind, Except.bind, pure, Except.pure]
    · rw [if_neg hactive]
      simp [hactive, bind, Except.bind, pure, Except.pure]

theorem countUsable_of_not_read : ∀ {authorizations : List ControllerAuthorizationRecord},
    (∃ a ∈ authorizations, ¬KeyRead r a) → r.countUsable authorizations = .error .keyUnavailable
  | [], h => by
    obtain ⟨a, ha, -⟩ := h
    cases ha
  | a :: rest, h => by
    rw [countUsable]
    by_cases hread : KeyRead r a
    · have hrest : ∃ b ∈ rest, ¬KeyRead r b := by
        obtain ⟨b, hb, hnot⟩ := h
        obtain rfl | hb := List.mem_cons.mp hb
        · exact absurd hread hnot
        · exact ⟨b, hb, hnot⟩
      rw [countUsable_of_not_read hrest]
      by_cases hactive : a.state = .active
      · obtain ⟨key, hkey⟩ := hread hactive
        rw [if_pos hactive, isUsableKey_of_get hkey]
        rfl
      · rw [if_neg hactive]
        rfl
    · unfold KeyRead at hread
      obtain ⟨hactive, hmissing⟩ := Classical.not_imp.mp hread
      have hnone : r.keys.get a.keyId = none := Option.eq_none_iff_forall_ne_some.mpr (not_exists.mp hmissing)
      have hkey : r.key a.keyId = .error .keyUnavailable := by
        rw [KeyLifecycleRegistry.key, hnone]
      rw [if_pos hactive, isUsableKey, hkey]
      rfl

theorem countUsable_perm {as bs : List ControllerAuthorizationRecord} (h : as.Perm bs) :
    r.countUsable as = r.countUsable bs := by
  by_cases hread : ∀ a ∈ as, KeyRead r a
  · rw [countUsable_of_read hread, countUsable_of_read fun b hb => hread b (h.mem_iff.mpr hb), h.countP_eq]
  · obtain ⟨a, hnot⟩ := not_forall.mp hread
    obtain ⟨ha, hnot⟩ := Classical.not_imp.mp hnot
    rw [countUsable_of_not_read ⟨a, ha, hnot⟩, countUsable_of_not_read ⟨a, h.mem_iff.mp ha, hnot⟩]

theorem countUsable_congr (hkeys : ∀ id, r.isUsableKey id = r'.isUsableKey id) :
    ∀ as : List ControllerAuthorizationRecord, r.countUsable as = r'.countUsable as
  | [] => rfl
  | a :: as => by
    rw [countUsable, countUsable, hkeys a.keyId, countUsable_congr hkeys as]

theorem usableControllerCount_eq (h : SimilarRegistry C ρa ρg r r') : r.usableControllerCount = r'.usableControllerCount := by
  unfold usableControllerCount
  rw [countUsable_congr (isUsableKey_eq h), countUsable_perm h.authorizations.values_perm]

/-! ### Writes -/

/-- The registries are similar and relate what they related before. -/
def Grown (C : Collation) (ρa ρg : Ref → Ref → Prop) (s s' : KeyLifecycleRegistry) : Prop :=
  ∃ ρa' ρg', ρa ≤ ρa' ∧ ρg ≤ ρg' ∧ SimilarRegistry C ρa' ρg' s s'

section

variable (h : SimilarRegistry C ρa ρg r r')
include h

theorem grown_keys (id : String) (key : EncryptionKeyRecord) :
    Grown C ρa ρg { r with keys := r.keys.set id key } { r' with keys := r'.keys.set id key } := by
  refine ⟨ρa, ρg, le_refl _, le_refl _, h.authorizations, h.grants, fun id' => ?_, ?_⟩
  · rw [JsMap.get_set, JsMap.get_set, h.keys id']
  · have hmem : id ∈ r.keys.keys ↔ id ∈ r'.keys.keys := h.keyTies.mem_iff
    by_cases hid : id ∈ r.keys.keys
    · rw [JsMap.keys_set_of_mem _ hid, JsMap.keys_set_of_mem _ (hmem.mp hid)]
      exact h.keyTies
    · rw [JsMap.keys_set_of_not_mem _ hid, JsMap.keys_set_of_not_mem _ (fun hid' => hid (hmem.mpr hid'))]
      exact h.keyTies.append [id]

theorem grown_authorization (id : String) (a : ControllerAuthorizationRecord) :
    Grown C ρa ρg { r with authorizations := r.authorizations.insert id a }
      { r' with authorizations := r'.authorizations.insert id a } :=
  ⟨_, ρg, fun _ _ => .inl, le_refl _, h.authorizations.insert id a, h.grants, h.keys, h.keyTies⟩

theorem similar_mutateAuthorization {s s' : Ref} (hs : ρa s s')
    (f : ControllerAuthorizationRecord → ControllerAuthorizationRecord) :
    SimilarRegistry C ρa ρg { r with authorizations := r.authorizations.mutate s f }
      { r' with authorizations := r'.authorizations.mutate s' f } :=
  ⟨h.authorizations.mutate hs f, h.grants, h.keys, h.keyTies⟩

theorem grown_grant (id : String) (g : AccessGrantRecord) :
    Grown C ρa ρg { r with grants := r.grants.insert id g } { r' with grants := r'.grants.insert id g } :=
  ⟨ρa, _, le_refl _, fun _ _ => .inl, h.authorizations, h.grants.insert id g, h.keys, h.keyTies⟩

theorem similar_mutateGrant {s s' : Ref} (hs : ρg s s') (f : AccessGrantRecord → AccessGrantRecord) :
    SimilarRegistry C ρa ρg { r with grants := r.grants.mutate s f } { r' with grants := r'.grants.mutate s' f } :=
  ⟨h.authorizations, h.grants.mutate hs f, h.keys, h.keyTies⟩

omit h in
theorem SimilarRegistry.grown {s s' : KeyLifecycleRegistry} (h : SimilarRegistry C ρa ρg s s') : Grown C ρa ρg s s' :=
  ⟨ρa, ρg, le_refl _, le_refl _, h⟩

/-! ### Operations -/

theorem agree_addKey (record : EncryptionKeyRecord) : Agree (Grown C ρa ρg) (r.addKey record) (r'.addKey record) := by
  unfold KeyLifecycleRegistry.addKey
  rw [has_key_eq h]
  exact agree_bind_same _ fun _ => agree_pure (grown_keys h record.id record)

theorem agree_activateKey (keyId : String) : Agree (Grown C ρa ρg) (r.activateKey keyId) (r'.activateKey keyId) := by
  unfold KeyLifecycleRegistry.activateKey
  rw [key_eq h]
  exact agree_bind_same _ fun key => agree_bind_same _ fun _ => agree_pure (grown_keys h keyId _)

theorem agree_recordKeyFailure (keyId : String) (failure : KeyFailure) :
    Agree (Grown C ρa ρg) (r.recordKeyFailure keyId failure) (r'.recordKeyFailure keyId failure) := by
  unfold KeyLifecycleRegistry.recordKeyFailure
  rw [key_eq h]
  exact agree_bind_same _ fun key => agree_bind_same _ fun _ => agree_pure (grown_keys h keyId _)

theorem agree_retireKey (keyId : String) : Agree (Grown C ρa ρg) (r.retireKey keyId) (r'.retireKey keyId) := by
  have hany : (r.authorizations.values.any fun a => a.keyId = keyId ∧ a.state = .active) =
      r'.authorizations.values.any fun a => a.keyId = keyId ∧ a.state = .active := by
    rw [Bool.eq_iff_iff, List.any_eq_true, List.any_eq_true]
    simp only [h.authorizations.values_perm.mem_iff]
  unfold KeyLifecycleRegistry.retireKey
  rw [key_eq h, usableControllerCount_eq h]
  refine agree_bind_same _ fun key => agree_bind_same _ fun _ => ?_
  have hretired := grown_keys h keyId { key with state := .retired }
  simp only [hany]
  split_ifs
  · exact agree_bind_same _ fun count => agree_bind_same _ fun _ => agree_pure hretired
  · exact agree_pure hretired

theorem agree_stage (record : ControllerAuthorizationRecord) :
    Agree (Grown C ρa ρg) (r.stageControllerAuthorization record) (r'.stageControllerAuthorization record) := by
  unfold KeyLifecycleRegistry.stageControllerAuthorization
  rw [h.authorizations.has, requireActiveKey_eq h]
  exact agree_bind_same _ fun _ => agree_bind_same _ fun _ => agree_pure (grown_authorization h _ record)

theorem agree_activate (id : String) :
    Agree (Grown C ρa ρg) (r.activateControllerAuthorization id) (r'.activateControllerAuthorization id) := by
  unfold KeyLifecycleRegistry.activateControllerAuthorization
  refine agree_bind (agree_authorization h id) fun p p' hp => ?_
  obtain ⟨ref, a⟩ := p
  obtain ⟨ref', a'⟩ := p'
  obtain ⟨href, rfl⟩ := hp
  simp only [requireActiveKey_eq h]
  exact agree_bind_same _ fun _ => agree_bind_same _ fun _ => agree_pure (similar_mutateAuthorization h href _).grown

theorem agree_prepareGrant (record : AccessGrantRecord) :
    Agree (Grown C ρa ρg) (r.prepareGrant record) (r'.prepareGrant record) := by
  unfold KeyLifecycleRegistry.prepareGrant
  rw [requireActiveKey_eq h, usableControllerCount_eq h, h.grants.has]
  exact agree_bind_same _ fun _ => agree_bind_same _ fun _ => agree_bind_same _ fun _ => agree_bind_same _ fun _ =>
    agree_bind_same _ fun _ => agree_pure (grown_grant h _ record)

theorem agree_revokeGrant (id : String) : Agree (Grown C ρa ρg) (r.revokeGrant id) (r'.revokeGrant id) := by
  unfold KeyLifecycleRegistry.revokeGrant
  refine agree_bind (agree_grant h id) fun p p' hp => ?_
  obtain ⟨ref, g⟩ := p
  obtain ⟨ref', g'⟩ := p'
  obtain ⟨href, rfl⟩ := hp
  exact agree_bind_same _ fun _ => agree_pure (similar_mutateGrant h href _).grown

theorem effectiveGrantState_eq (id : String) (currentTime : ℤ) :
    r.effectiveGrantState id currentTime = r'.effectiveGrantState id currentTime := by
  have hagree := agree_grant h id
  unfold KeyLifecycleRegistry.effectiveGrantState
  generalize r.grant id = x at hagree
  generalize r'.grant id = y at hagree
  match x, y, hagree with
  | .error e, .error e', (he : e = e') => rw [he]
  | .ok (_, g), .ok (_, g'), hp =>
    obtain ⟨-, rfl⟩ := hp
    rfl

theorem authorizeRetrieval_eq (id : String) (currentTime : ℤ) :
    r.authorizeRetrieval id currentTime = r'.authorizeRetrieval id currentTime := by
  have hagree := agree_grant h id
  have hkey : r.requireUsableKey = r'.requireUsableKey := funext (requireUsableKey_eq h)
  unfold KeyLifecycleRegistry.authorizeRetrieval
  rw [effectiveGrantState_eq h, hkey]
  generalize r.grant id = x at hagree
  generalize r'.grant id = y at hagree
  match x, y, hagree with
  | .error e, .error e', (he : e = e') => rw [he]
  | .ok (_, g), .ok (_, g'), hp =>
    obtain ⟨-, rfl⟩ := hp
    rfl

end

/-! ### Calls that wait -/

/-- Both calls do the same to related objects. -/
inductive SameCall (ρa ρg : Ref → Ref → Prop) : Suspended → Suspended → Prop where
  | rotateControllerAuthorization {s s' : Ref} (successor : ControllerAuthorizationRecord) (same : ρa s s') :
      SameCall ρa ρg (.rotateControllerAuthorization s successor) (.rotateControllerAuthorization s' successor)
  | activateGrant {s s' : Ref} (same : ρg s s') : SameCall ρa ρg (.activateGrant s) (.activateGrant s')
  | rotateRecipientEnvelope {s s' : Ref} (id keyId envelopeId : String) (same : ρg s s') :
      SameCall ρa ρg (.rotateRecipientEnvelope id s keyId envelopeId) (.rotateRecipientEnvelope id s' keyId envelopeId)

theorem SameCall.mono {ρa' ρg' : Ref → Ref → Prop} {call call' : Suspended} (h : SameCall ρa ρg call call')
    (ha : ρa ≤ ρa') (hg : ρg ≤ ρg') : SameCall ρa' ρg' call call' := by
  cases h with
  | rotateControllerAuthorization successor same => exact .rotateControllerAuthorization successor (ha _ _ same)
  | activateGrant same => exact .activateGrant (hg _ _ same)
  | rotateRecipientEnvelope id keyId envelopeId same => exact .rotateRecipientEnvelope id keyId envelopeId (hg _ _ same)

section

variable (h : SimilarRegistry C ρa ρg r r')
include h

theorem agree_rotateControllerAuthorization (id : String) (successor : ControllerAuthorizationRecord) :
    Agree (SameCall ρa ρg) (r.rotateControllerAuthorization id successor)
      (r'.rotateControllerAuthorization id successor) := by
  unfold KeyLifecycleRegistry.rotateControllerAuthorization
  refine agree_bind (agree_authorization h id) fun p p' hp => ?_
  obtain ⟨ref, a⟩ := p
  obtain ⟨ref', a'⟩ := p'
  obtain ⟨href, rfl⟩ := hp
  simp only [requireActiveKey_eq h, requireUsableKey_eq h]
  exact agree_bind_same _ fun _ => agree_bind_same _ fun _ => agree_bind_same _ fun _ => agree_bind_same _ fun _ =>
    agree_pure (.rotateControllerAuthorization successor href)

theorem agree_activateGrant (id : String) (currentTime : ℤ) :
    Agree (SameCall ρa ρg) (r.activateGrant id currentTime) (r'.activateGrant id currentTime) := by
  unfold KeyLifecycleRegistry.activateGrant
  refine agree_bind (agree_grant h id) fun p p' hp => ?_
  obtain ⟨ref, g⟩ := p
  obtain ⟨ref', g'⟩ := p'
  obtain ⟨href, rfl⟩ := hp
  simp only [requireActiveKey_eq h]
  exact agree_bind_same _ fun _ => agree_bind_same _ fun _ => agree_pure (.activateGrant href)

theorem agree_rotateRecipientEnvelope (id keyId envelopeId : String) :
    Agree (SameCall ρa ρg) (r.rotateRecipientEnvelope id keyId envelopeId)
      (r'.rotateRecipientEnvelope id keyId envelopeId) := by
  unfold KeyLifecycleRegistry.rotateRecipientEnvelope
  refine agree_bind (agree_grant h id) fun p p' hp => ?_
  obtain ⟨ref, g⟩ := p
  obtain ⟨ref', g'⟩ := p'
  obtain ⟨href, rfl⟩ := hp
  simp only [requireActiveKey_eq h]
  exact agree_bind_same _ fun _ => agree_bind_same _ fun _ => agree_pure (.rotateRecipientEnvelope id keyId envelopeId href)

theorem agree_resume {call call' : Suspended} (hcall : SameCall ρa ρg call call') (verified : Bool) :
    Agree (Grown C ρa ρg) (r.resume verified call) (r'.resume verified call') := by
  cases hcall with
  | rotateControllerAuthorization successor same =>
    refine agree_bind_same _ fun _ => agree_pure ?_
    obtain ⟨ρa', ρg', ha, hg, hinserted⟩ := grown_authorization h successor.authorizationId { successor with state := .active }
    exact ⟨ρa', ρg', ha, hg, similar_mutateAuthorization hinserted (ha _ _ same) _⟩
  | activateGrant same => exact agree_bind_same _ fun _ => agree_pure (similar_mutateGrant h same _).grown
  | rotateRecipientEnvelope id keyId envelopeId same =>
    refine agree_bind_same _ fun _ => ?_
    obtain ⟨g, hg, hg'⟩ := h.grants.object _ _ same
    simp only [hg, hg']
    exact agree_pure (grown_grant h id _)

end

/-! ### Lifecycles -/

structure Similar (C : Collation) (c c' : Lifecycle) : Prop where
  intro ::
  related : ∃ ρa ρg, SimilarRegistry C ρa ρg c.registry c'.registry ∧ List.Forall₂ (SameCall ρa ρg) c.suspended c'.suspended

section

variable {c c' : Lifecycle}

theorem similar_write {calls calls' : List Suspended} {x y : Except KeyLifecycleError KeyLifecycleRegistry}
    (h : SimilarRegistry C ρa ρg r r') (hcalls : List.Forall₂ (SameCall ρa ρg) calls calls')
    (hxy : Agree (Grown C ρa ρg) x y) :
    Similar C (Lifecycle.write ⟨r, calls⟩ x) (Lifecycle.write ⟨r', calls'⟩ y) := by
  match x, y, hxy with
  | .error e, .error e', _ => exact ⟨ρa, ρg, h, hcalls⟩
  | .ok s, .ok s', ⟨ρa', ρg', ha, hg, hs⟩ => exact ⟨ρa', ρg', hs, hcalls.imp fun _ _ hcall => hcall.mono ha hg⟩

theorem similar_suspend {calls calls' : List Suspended} {x y : Except KeyLifecycleError Suspended}
    (h : SimilarRegistry C ρa ρg r r') (hcalls : List.Forall₂ (SameCall ρa ρg) calls calls')
    (hxy : Agree (SameCall ρa ρg) x y) :
    Similar C (Lifecycle.suspend ⟨r, calls⟩ x) (Lifecycle.suspend ⟨r', calls'⟩ y) := by
  match x, y, hxy with
  | .error e, .error e', _ => exact ⟨ρa, ρg, h, hcalls⟩
  | .ok call, .ok call', hcall => exact ⟨ρa, ρg, h, List.rel_append hcalls (.cons hcall .nil)⟩

theorem outcome_eq {α : Type} {R : α → α → Prop} {x y : Except KeyLifecycleError α} (h : Agree R x y) :
    Lifecycle.outcome x = Lifecycle.outcome y := by
  match x, y, h with
  | .error e, .error e', (he : e = e') => rw [he]
  | .ok a, .ok a', _ => rfl

theorem forall₂_eraseIdx {α β : Type} {R : α → β → Prop} : ∀ {as : List α} {bs : List β} (n : ℕ),
    List.Forall₂ R as bs → List.Forall₂ R (as.eraseIdx n) (bs.eraseIdx n)
  | _, _, _, .nil => by simp
  | _, _, 0, .cons _ h => h
  | _, _, n + 1, .cons hab h => .cons hab (forall₂_eraseIdx n h)

theorem forall₂_getElem? {α β : Type} {R : α → β → Prop} : ∀ {as : List α} {bs : List β} (n : ℕ),
    List.Forall₂ R as bs → Option.Rel R as[n]? bs[n]?
  | _, _, _, .nil => by simp
  | _, _, 0, .cons hab _ => .some hab
  | _, _, n + 1, .cons _ h => forall₂_getElem? n h

/-- **One step keeps lifecycles similar**, and tells both the same. -/
theorem Similar.step (h : Similar C c c') (event : Event) :
    Similar C (c.step event) (c'.step event) ∧ c.answerEvent event = c'.answerEvent event := by
  obtain ⟨r, calls⟩ := c
  obtain ⟨r', calls'⟩ := c'
  obtain ⟨ρa, ρg, hr, hcalls⟩ := h
  have writes : ∀ {x y : Except KeyLifecycleError KeyLifecycleRegistry}, Agree (Grown C ρa ρg) x y →
      Similar C (Lifecycle.write ⟨r, calls⟩ x) (Lifecycle.write ⟨r', calls'⟩ y) ∧
        Lifecycle.outcome x = Lifecycle.outcome y :=
    fun hxy => ⟨similar_write hr hcalls hxy, outcome_eq hxy⟩
  have suspends : ∀ {x y : Except KeyLifecycleError Suspended}, Agree (SameCall ρa ρg) x y →
      Similar C (Lifecycle.suspend ⟨r, calls⟩ x) (Lifecycle.suspend ⟨r', calls'⟩ y) ∧
        Lifecycle.outcome x = Lifecycle.outcome y :=
    fun hxy => ⟨similar_suspend hr hcalls hxy, outcome_eq hxy⟩
  cases event with
  | addKey record => exact writes (agree_addKey hr record)
  | activateKey keyId => exact writes (agree_activateKey hr keyId)
  | recordKeyFailure keyId failure => exact writes (agree_recordKeyFailure hr keyId failure)
  | retireKey keyId => exact writes (agree_retireKey hr keyId)
  | stageControllerAuthorization record => exact writes (agree_stage hr record)
  | activateControllerAuthorization id => exact writes (agree_activate hr id)
  | rotateControllerAuthorization id successor => exact suspends (agree_rotateControllerAuthorization hr id successor)
  | prepareGrant record => exact writes (agree_prepareGrant hr record)
  | activateGrant id currentTime => exact suspends (agree_activateGrant hr id currentTime)
  | revokeGrant id => exact writes (agree_revokeGrant hr id)
  | authorizeRetrieval id currentTime =>
    refine ⟨⟨ρa, ρg, hr, hcalls⟩, ?_⟩
    simp only [Lifecycle.answerEvent, authorizeRetrieval_eq hr]
  | rotateRecipientEnvelope id keyId envelopeId => exact suspends (agree_rotateRecipientEnvelope hr id keyId envelopeId)
  | resume index verified =>
    have hrel := forall₂_getElem? index hcalls
    simp only [Lifecycle.step, Lifecycle.answerEvent]
    generalize calls[index]? = x at hrel
    generalize calls'[index]? = y at hrel
    cases hrel with
    | none => exact ⟨⟨ρa, ρg, hr, hcalls⟩, rfl⟩
    | some hcall =>
      have hagree := agree_resume hr hcall verified
      exact ⟨similar_write hr (forall₂_eraseIdx index hcalls) hagree, outcome_eq hagree⟩

end

/-! ### Snapshots -/

/-- Every record is stored under its own id. -/
structure Identified (r : KeyLifecycleRegistry) : Prop where
  authorizations : Named ControllerAuthorizationRecord.authorizationId r.authorizations
  grants : Named AccessGrantRecord.grantId r.grants
  keys : ∀ id key, r.keys.get id = some key → key.id = id

theorem SimilarRegistry.snapshot_eq (h : SimilarRegistry C ρa ρg r r') (hr : Identified r) :
    r.snapshot C = r'.snapshot C := by
  have hkeys : r'.keys.get = r.keys.get := funext fun id => (h.keys id).symm
  have hsorted : r.keys.values.insertionSort (fun left right => C.localeCompare left.id right.id ≤ 0) =
      r'.keys.values.insertionSort fun left right => C.localeCompare left.id right.id ≤ 0 := by
    rw [JsMap.values_eq, JsMap.values_eq, hkeys]
    exact insertionSort_filterMap h.keyTies (fun id hid => (r.keys.mem_keys_iff id).mp hid) hr.keys fun _ _ => Iff.rfl
  simp only [KeyLifecycleRegistry.snapshot, KeyLifecycleSnapshot.mk.injEq]
  exact ⟨h.authorizations.sorted_values hr.authorizations fun _ _ => Iff.rfl,
    h.grants.sorted_values hr.grants fun _ _ => Iff.rfl, hsorted⟩

/-- **No sequence of operations tells similar lifecycles apart**, as long as
each step keeps the records under their ids. -/
theorem Similar.answers {I : Lifecycle → Prop} (hI : ∀ c event, I c → I (c.step event))
    (hidentified : ∀ c, I c → Identified c.registry) : ∀ (operations : List Operation) {c c' : Lifecycle},
    I c → Similar C c c' → Lifecycle.answers C c operations = Lifecycle.answers C c' operations
  | [], _, _, _, _ => rfl
  | operation :: operations, c, c', hc, h => by
    obtain ⟨ρa, ρg, hr, -⟩ := h.related
    cases operation with
    | event event =>
      obtain ⟨hnext, hanswer⟩ := h.step event
      simp only [Lifecycle.answers, Lifecycle.answer, Lifecycle.operate, hanswer,
        Similar.answers hI hidentified operations (hI c event hc) hnext]
    | effectiveGrantState id currentTime =>
      simp only [Lifecycle.answers, Lifecycle.answer, Lifecycle.operate, effectiveGrantState_eq hr,
        Similar.answers hI hidentified operations hc h]
    | snapshot =>
      simp only [Lifecycle.answers, Lifecycle.answer, Lifecycle.operate, hr.snapshot_eq (hidentified c hc),
        Similar.answers hI hidentified operations hc h]

end Keys
end Evllm
