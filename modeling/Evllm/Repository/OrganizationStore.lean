/-
# The store of an organization

Any implementation of `OpaqueObjectStore`, used by one program: it answers as the
sequential store does, in chunks of its own choice, or it fails. A write that fails
may have been made. What a program sees of it are the objects by their identifiers,
`held`.

Key definitions: `Serves`, `OrganizationStore`, `held`, `Healthy`.
Key theorems: `head_held`, `get_held`, `put_held`, `answer_kept`.
-/
import Evllm.Repository.ObjectHistory

namespace Evllm
namespace Repository

open Lib

/-! ### What a store may answer -/

/-- The store of `organizationId` may answer so. -/
def Serves (organizationId : String) (objects : Objects) : (r : StoreRequest Unit) → StoreAnswer r → Objects → Prop
  | .head _ objectId, (answer : Except String (Option ObjectHead)), objects' =>
    match answer with
    | .ok head => ∃ k, objectKey organizationId objectId = some k ∧ Takes objects ⟨k, .head, .head head⟩ objects'
    | .error _ => objects' = objects
  | .get _ objectId, (stream : ByteStream), objects' =>
    match stream.thrown with
    | none => ∃ k value, objectKey organizationId objectId = some k ∧ Takes objects ⟨k, .get, .bytes value⟩ objects' ∧
      stream.chunks.flatten = value.getD []
    | some _ => objects' = objects
  | .putIfAbsent _ objectId source, (answer : Except String PutIfAbsentResult), objects' =>
    match answer with
    | .ok result => ∃ k, objectKey organizationId objectId = some k ∧
      Takes objects ⟨k, .putIfAbsent ⟨source, none⟩, .put result⟩ objects'
    | .error _ => objects' = objects ∨ ∃ k result, objectKey organizationId objectId = some k ∧
      Takes objects ⟨k, .putIfAbsent ⟨source, none⟩, .put result⟩ objects'
  | .delete _ objectId, (answer : Except String Bool), objects' =>
    match answer with
    | .ok found => ∃ k, objectKey organizationId objectId = some k ∧ Takes objects ⟨k, .delete, .deleted found⟩ objects'
    | .error _ => objects' = objects ∨ ∃ k found, objectKey organizationId objectId = some k ∧
      Takes objects ⟨k, .delete, .deleted found⟩ objects'

structure OrganizationStore (σ : Type) where
  /-- The store's `namespace`. -/
  organizationId : String
  answers : σ → (r : StoreRequest Unit) → StoreAnswer r → σ → Prop
  objects : σ → Objects
  lawful : ∀ s r a s', answers s r a s' → Serves organizationId (objects s) r a (objects s')

/-- The store does not fail on a valid object of at most `limit` bytes. -/
def Healthy (organizationId : String) (limit : ℕ) : (r : StoreRequest Unit) → StoreAnswer r → Prop
  | .head _ objectId, (answer : Except String (Option ObjectHead)) =>
    (objectKey organizationId objectId).isSome = true → ∃ head, answer = .ok head
  | .get _ objectId, (stream : ByteStream) => (objectKey organizationId objectId).isSome = true → stream.thrown = none
  | .putIfAbsent _ objectId source, (answer : Except String PutIfAbsentResult) =>
    (objectKey organizationId objectId).isSome = true → source.flatten.length ≤ limit → ∃ result, answer = .ok result
  | .delete _ objectId, (answer : Except String Bool) =>
    (objectKey organizationId objectId).isSome = true → ∃ found, answer = .ok found

namespace OrganizationStore

variable {σ : Type} (S : OrganizationStore σ)

/-- The store answers every request, and does not fail. -/
structure IsHealthy (limit : ℕ) : Prop where
  total : ∀ s r, ∃ a s', S.answers s r a s'
  healthy : ∀ s r a s', S.answers s r a s' → Healthy S.organizationId limit r a

/-- The object that the store holds under an identifier. -/
def held (s : σ) (objectId : String) : Option Bytes := (objectKey S.organizationId objectId).bind (S.objects s)

def Valid (objectId : String) : Prop := (objectKey S.organizationId objectId).isSome = true

variable {S} {s s' : σ} {objectId : String}

theorem objectKey_objectId {organizationId : String} {k : ObjectKey} (h : objectKey organizationId objectId = some k) :
    k.objectId = objectId := by
  rw [objectKey] at h
  split_ifs at h with hvalid
  exact congrArg ObjectKey.objectId (Option.some.inj h).symm

theorem held_eq {k : ObjectKey} (h : objectKey S.organizationId objectId = some k) : S.held s objectId = S.objects s k := by
  rw [held, h, Option.bind_some]

theorem held_of_objects (h : S.objects s' = S.objects s) : S.held s' = S.held s := by
  funext objectId
  rw [held, held, h]

/-- An update of one object is one of what is held. -/
theorem held_update {k : ObjectKey} {value : Option Bytes} (hk : objectKey S.organizationId objectId = some k)
    (h : S.objects s' = Function.update (S.objects s) k value) : S.held s' = Function.update (S.held s) objectId value := by
  funext objectId'
  by_cases hid : objectId' = objectId
  · subst hid
    rw [held_eq hk, h, Function.update_self, Function.update_self]
  · rw [Function.update_of_ne hid, held, held, h]
    cases hk' : objectKey S.organizationId objectId' with
    | none => rfl
    | some k' =>
      have hne : k' ≠ k := fun heq => hid ((objectKey_objectId hk').symm.trans (heq ▸ objectKey_objectId hk))
      rw [Option.bind_some, Option.bind_some, Function.update_of_ne hne]

theorem head_held {head : Option ObjectHead}
    (h : S.answers s (.head () objectId) (.ok head : Except String (Option ObjectHead)) s') :
    S.Valid objectId ∧ S.held s' = S.held s ∧ head = (S.held s objectId).map headOf := by
  obtain ⟨k, hk, hhead, hobjects⟩ := S.lawful _ _ _ _ h
  rw [held_eq hk]
  exact ⟨Option.isSome_of_eq_some hk, held_of_objects hobjects, hhead⟩

theorem get_held {chunks : List Bytes} (h : S.answers s (.get () objectId) (⟨chunks, none⟩ : ByteStream) s') :
    S.Valid objectId ∧ S.held s' = S.held s ∧ chunks.flatten = (S.held s objectId).getD [] := by
  obtain ⟨k, value, hk, ⟨hvalue, hobjects⟩, hchunks⟩ := S.lawful _ _ _ _ h
  rw [held_eq hk]
  exact ⟨Option.isSome_of_eq_some hk, held_of_objects hobjects, hvalue ▸ hchunks⟩

/-- A write creates the object, or finds it. -/
theorem takes_put {k : ObjectKey} {source : List Bytes} {result : PutIfAbsentResult}
    (hk : objectKey S.organizationId objectId = some k)
    (h : Takes (S.objects s) ⟨k, .putIfAbsent ⟨source, none⟩, .put result⟩ (S.objects s')) :
    (result.status = .created ∧ S.held s objectId = none ∧ S.held s' = Function.update (S.held s) objectId (some source.flatten)) ∨
      (result.status = .existing ∧ (S.held s objectId).isSome = true ∧ S.held s' = S.held s) := by
  obtain ⟨length, status⟩ := result
  cases status with
  | created =>
    obtain ⟨hnone, bytes, hcomplete, _, hobjects⟩ := h
    obtain rfl : source.flatten = bytes := hcomplete.2
    exact Or.inl ⟨rfl, (held_eq hk).trans hnone, held_update hk hobjects⟩
  | existing =>
    obtain ⟨hlength, hobjects⟩ := h
    refine Or.inr ⟨rfl, ?_, held_of_objects hobjects⟩
    rw [held_eq hk]
    obtain ⟨value, hvalue, _⟩ := Option.map_eq_some_iff.mp hlength
    exact Option.isSome_of_eq_some hvalue

theorem put_held {source : List Bytes} {result : PutIfAbsentResult}
    (h : S.answers s (.putIfAbsent () objectId source) (.ok result : Except String PutIfAbsentResult) s') :
    S.Valid objectId ∧
      ((result.status = .created ∧ S.held s objectId = none ∧
          S.held s' = Function.update (S.held s) objectId (some source.flatten)) ∨
        (result.status = .existing ∧ (S.held s objectId).isSome = true ∧ S.held s' = S.held s)) := by
  obtain ⟨k, hk, htakes⟩ := S.lawful _ _ _ _ h
  exact ⟨Option.isSome_of_eq_some hk, takes_put hk htakes⟩

/-- A write that fails may have been made. -/
theorem put_failed {source : List Bytes} {message : String}
    (h : S.answers s (.putIfAbsent () objectId source) (.error message : Except String PutIfAbsentResult) s') :
    S.held s' = S.held s ∨
      (S.held s objectId = none ∧ S.held s' = Function.update (S.held s) objectId (some source.flatten)) := by
  rcases S.lawful _ _ _ _ h with hobjects | ⟨k, result, hk, htakes⟩
  · exact Or.inl (held_of_objects hobjects)
  · rcases takes_put hk htakes with ⟨_, hnone, hcreated⟩ | ⟨_, _, hsame⟩
    · exact Or.inr ⟨hnone, hcreated⟩
    · exact Or.inl hsame

theorem read_failed {stream : ByteStream} {message : String} (hthrown : stream.thrown = some message)
    (h : S.answers s (.get () objectId) stream s') : S.held s' = S.held s := by
  have hserves := S.lawful _ _ _ _ h
  simp only [Serves, hthrown] at hserves
  exact held_of_objects hserves

theorem head_failed {message : String}
    (h : S.answers s (.head () objectId) (.error message : Except String (Option ObjectHead)) s') :
    S.held s' = S.held s := held_of_objects (S.lawful _ _ _ _ h)

/-- The requests that take nothing away. -/
def Keeps : StoreRequest Unit → Prop
  | .delete .. => False
  | _ => True

/-- **What a store holds stays, unless it is asked to delete.** -/
theorem answer_kept {r : StoreRequest Unit} {answer : StoreAnswer r} (hr : Keeps r) (h : S.answers s r answer s')
    {bytes : Bytes} (hheld : S.held s objectId = some bytes) : S.held s' objectId = some bytes := by
  cases r with
  | head _ id =>
    have hsame : S.held s' = S.held s := by
      cases answer with
      | ok head => exact (head_held h).2.1
      | error message => exact head_failed h
    rwa [hsame]
  | get _ id =>
    have hsame : S.held s' = S.held s := by
      obtain ⟨chunks, thrown⟩ := (answer : ByteStream)
      cases thrown with
      | none => exact (get_held h).2.1
      | some message => exact read_failed rfl h
    rwa [hsame]
  | putIfAbsent _ id source =>
    have hcases : S.held s' = S.held s ∨
        (S.held s id = none ∧ S.held s' = Function.update (S.held s) id (some source.flatten)) := by
      cases answer with
      | ok result =>
        rcases (put_held h).2 with ⟨_, hnone, hupdate⟩ | ⟨_, _, hsame⟩
        · exact Or.inr ⟨hnone, hupdate⟩
        · exact Or.inl hsame
      | error message => exact put_failed h
    rcases hcases with hsame | ⟨hnone, hupdate⟩
    · rwa [hsame]
    · have hne : objectId ≠ id := fun heq => by
        rw [heq, hnone] at hheld
        cases hheld
      rwa [hupdate, Function.update_of_ne hne]
  | delete _ id => exact hr.elim

end OrganizationStore

/-! ### The sequential store -/

section Sequential

variable (organizationId : String) (limit : ℕ)

/-- The store that does each operation at once and accepts at most `limit` bytes. -/
def serve (objects : Objects) : (r : StoreRequest Unit) → StoreAnswer r × Objects
  | .head _ objectId =>
    match objectKey organizationId objectId with
    | none => ((.error "Invalid opaque object identifier" : Except String (Option ObjectHead)), objects)
    | some k => ((.ok ((objects k).map headOf) : Except String (Option ObjectHead)), objects)
  | .get _ objectId =>
    match objectKey organizationId objectId with
    | none => ((⟨[], some "Invalid opaque object identifier"⟩ : ByteStream), objects)
    | some k => ((⟨(objects k).toList, none⟩ : ByteStream), objects)
  | .putIfAbsent _ objectId source =>
    match objectKey organizationId objectId with
    | none => ((.error "Invalid opaque object identifier" : Except String PutIfAbsentResult), objects)
    | some k =>
      match objects k with
      | some existing => ((.ok ⟨existing.length, .existing⟩ : Except String PutIfAbsentResult), objects)
      | none =>
        if source.flatten.length > limit then
          ((.error "Object exceeds configured maximum" : Except String PutIfAbsentResult), objects)
        else
          ((.ok ⟨source.flatten.length, .created⟩ : Except String PutIfAbsentResult),
            Function.update objects k (some source.flatten))
  | .delete _ objectId =>
    match objectKey organizationId objectId with
    | none => ((.error "Invalid opaque object identifier" : Except String Bool), objects)
    | some k => ((.ok (objects k).isSome : Except String Bool), Function.update objects k none)

theorem serve_lawful (objects : Objects) (r : StoreRequest Unit) :
    Serves organizationId objects r (serve organizationId limit objects r).1 (serve organizationId limit objects r).2 := by
  cases r with
  | head _ objectId =>
    cases hk : objectKey organizationId objectId with
    | none =>
      simp only [serve, hk]
      exact rfl
    | some k =>
      simp only [serve, hk]
      exact ⟨k, hk, rfl, rfl⟩
  | get _ objectId =>
    cases hk : objectKey organizationId objectId with
    | none =>
      simp only [serve, hk]
      exact rfl
    | some k =>
      simp only [serve, hk]
      refine ⟨k, objects k, hk, ⟨rfl, rfl⟩, ?_⟩
      cases objects k with
      | none => rfl
      | some bytes => exact List.flatten_singleton
  | putIfAbsent _ objectId source =>
    cases hk : objectKey organizationId objectId with
    | none =>
      simp only [serve, hk]
      exact Or.inl rfl
    | some k =>
      cases hobject : objects k with
      | some existing =>
        simp only [serve, hk, hobject]
        exact ⟨k, hk, congrArg (Option.map List.length) hobject, rfl⟩
      | none =>
        simp only [serve, hk, hobject]
        split_ifs
        · exact Or.inl rfl
        · exact ⟨k, hk, hobject, _, ⟨rfl, rfl⟩, rfl, rfl⟩
  | delete _ objectId =>
    cases hk : objectKey organizationId objectId with
    | none =>
      simp only [serve, hk]
      exact Or.inl rfl
    | some k =>
      cases hobject : objects k with
      | some existing =>
        simp only [serve, hk, hobject]
        exact ⟨k, hk, congrArg Option.isSome hobject, rfl⟩
      | none =>
        simp only [serve, hk, hobject]
        refine ⟨k, hk, hobject, ?_⟩
        funext k'
        by_cases hk' : k' = k
        · subst hk'
          rw [Function.update_self, hobject]
        · rw [Function.update_of_ne hk']

def sequentialStore : OrganizationStore Objects where
  organizationId := organizationId
  answers objects r answer objects' := serve organizationId limit objects r = (answer, objects')
  objects := id
  lawful objects r answer objects' h := by
    have hlawful := serve_lawful organizationId limit objects r
    rwa [h] at hlawful

end Sequential

end Repository
end Evllm
