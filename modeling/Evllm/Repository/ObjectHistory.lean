/-
# What an object store is for

The sequential meaning of an `OpaqueObjectStore`: each operation at once, on one
object. A store whose calls overlap is atomic where every one of its runs has a
sequential history of its calls: there an object is created once between two
deletions, a read finds nothing or what its creator read from its source to the
end, and the objects of an organization have a history of their own.

Key definitions: `Takes`, `ObjectMachine`, `Atomic`.
Key theorems: `takes_cases`, `one_creator`, `created_by`, `legal_organization`,
`ObjectMachine.atomic`.
-/
import Evllm.Lib.Linearizable
import Evllm.Repository.ObjectStore
import Evllm.Repository.Validation

namespace Evllm
namespace Repository

open Lib

/-! ### Operations at once -/

inductive ObjectOperation where
  | putIfAbsent (source : ByteStream)
  | get
  | head
  | delete
  deriving DecidableEq, Repr

inductive ObjectResult where
  | put (result : PutIfAbsentResult)
  | bytes (value : Option Bytes)
  | head (value : Option ObjectHead)
  | deleted (found : Bool)
  deriving DecidableEq, Repr

structure ObjectEffect where
  key : ObjectKey
  operation : ObjectOperation
  result : ObjectResult

abbrev Objects := ObjectKey → Option Bytes

def noObjects : Objects := fun _ => none

def headOf (bytes : Bytes) : ObjectHead := ⟨bytes.length⟩

/-- The source ends, with these bytes. -/
def Complete (source : ByteStream) (bytes : Bytes) : Prop := source.thrown = none ∧ source.chunks.flatten = bytes

/-- What an operation finds, and what it leaves. -/
def Takes (objects : Objects) (x : ObjectEffect) (objects' : Objects) : Prop :=
  match x.operation, x.result with
  | .putIfAbsent source, .put ⟨length, .created⟩ => objects x.key = none ∧
    ∃ bytes, Complete source bytes ∧ length = bytes.length ∧ objects' = Function.update objects x.key (some bytes)
  | .putIfAbsent _, .put ⟨length, .existing⟩ => (objects x.key).map List.length = some length ∧ objects' = objects
  | .get, .bytes value => value = objects x.key ∧ objects' = objects
  | .head, .head value => value = (objects x.key).map headOf ∧ objects' = objects
  | .delete, .deleted true => (objects x.key).isSome = true ∧ objects' = Function.update objects x.key none
  | .delete, .deleted false => objects x.key = none ∧ objects' = objects
  | _, _ => False

namespace ObjectEffect

/-- A `putIfAbsent` of these bytes that answers "created". -/
def Creates (x : ObjectEffect) (bytes : Bytes) : Prop :=
  ∃ source, x.operation = .putIfAbsent source ∧ x.result = .put ⟨bytes.length, .created⟩ ∧ Complete source bytes

def Deletes (x : ObjectEffect) : Prop := x.operation = .delete ∧ x.result = .deleted true

end ObjectEffect

variable {objects objects' : Objects} {x : ObjectEffect} {key : ObjectKey} {bytes : Bytes}

/-- An effect creates its object, deletes it, or changes nothing. -/
theorem takes_cases (h : Takes objects x objects') :
    (objects x.key = none ∧ ∃ bytes, x.Creates bytes ∧ objects' = Function.update objects x.key (some bytes)) ∨
    (x.Deletes ∧ objects' = Function.update objects x.key none) ∨ (¬x.Deletes ∧ objects' = objects) := by
  obtain ⟨key, operation, result⟩ := x
  unfold Takes at h
  split at h
  · rename_i source length hoperation hresult
    obtain ⟨hnone, bytes, hcomplete, rfl, hupdate⟩ := h
    exact Or.inl ⟨hnone, bytes, ⟨source, hoperation, hresult, hcomplete⟩, hupdate⟩
  · rename_i hoperation _
    exact Or.inr (Or.inr ⟨fun hdeletes => (nomatch hoperation.symm.trans hdeletes.1), h.2⟩)
  · rename_i hoperation _
    exact Or.inr (Or.inr ⟨fun hdeletes => (nomatch hoperation.symm.trans hdeletes.1), h.2⟩)
  · rename_i hoperation _
    exact Or.inr (Or.inr ⟨fun hdeletes => (nomatch hoperation.symm.trans hdeletes.1), h.2⟩)
  · rename_i hoperation hresult
    exact Or.inr (Or.inl ⟨⟨hoperation, hresult⟩, h.2⟩)
  · rename_i _ hresult
    exact Or.inr (Or.inr ⟨fun hdeletes => (nomatch hresult.symm.trans hdeletes.2), h.2⟩)
  · exact h.elim

theorem Takes.creates (h : Takes objects x objects') (hcreates : x.Creates bytes) :
    objects x.key = none ∧ objects' x.key = some bytes := by
  obtain ⟨key, operation, result⟩ := x
  obtain ⟨source, hoperation, hresult, hcomplete⟩ := hcreates
  cases hoperation
  cases hresult
  obtain ⟨hnone, bytes', hcomplete', _, rfl⟩ := h
  obtain rfl : bytes' = bytes := hcomplete'.2.symm.trans hcomplete.2
  exact ⟨hnone, Function.update_self ..⟩

/-- An object stays as it is until it is deleted. -/
theorem Takes.kept (h : Takes objects x objects') (hdelete : ¬(x.key = key ∧ x.Deletes)) (hkey : objects key = some bytes) :
    objects' key = some bytes := by
  rcases takes_cases h with ⟨hnone, _, _, rfl⟩ | ⟨hdeletes, rfl⟩ | ⟨_, rfl⟩
  · have hne : key ≠ x.key := fun heq => by
      rw [heq, hnone] at hkey
      cases hkey
    rwa [Function.update_of_ne hne]
  · rwa [Function.update_of_ne fun heq => hdelete ⟨heq.symm, hdeletes⟩]
  · exact hkey

/-! ### Sequential histories -/

abbrev History := List (ℕ × ObjectEffect)

/-- Between two creations of an object it is deleted. -/
theorem one_creator {A B C : History} {e e' : ℕ × ObjectEffect} {bytes' : Bytes}
    (h : Legal Takes noObjects (A ++ e :: B ++ e' :: C) objects) (hcreates : e.2.Creates bytes) (hcreates' : e'.2.Creates bytes')
    (hkey : e.2.key = e'.2.key) : ∃ d ∈ B, d.2.key = e.2.key ∧ d.2.Deletes := by
  obtain ⟨b, hAB, c, htakes', _⟩ := (legal_append _ _).mp h
  obtain ⟨a, _, a', htakes, hB⟩ := (legal_append _ _).mp hAB
  by_contra hnever
  have hkept : b e.2.key = some bytes :=
    legal_invariant (P := fun o => o e.2.key = some bytes) (Q := fun x => x.key = e.2.key ∧ x.Deletes)
      (fun _ _ _ htakes hdelete hbytes => htakes.kept hdelete hbytes) B hB (fun d hd hdeletes => hnever ⟨d, hd, hdeletes⟩)
      (htakes.creates hcreates).2
  rw [hkey, (htakes'.creates hcreates').1] at hkept
  cases hkept

/-- What is stored was created, and has not been deleted since. -/
theorem created_by : ∀ (A : History) {objects : Objects}, Legal Takes noObjects A objects → objects key = some bytes →
    ∃ A₁ e A₂, A = A₁ ++ e :: A₂ ∧ e.2.key = key ∧ e.2.Creates bytes ∧ ∀ d ∈ A₂, ¬(d.2.key = key ∧ d.2.Deletes) := by
  intro A
  induction A using List.reverseRecOn with
  | nil =>
    intro objects h hkey
    rw [← h] at hkey
    cases hkey
  | append_singleton A e ih =>
    intro objects h hkey
    obtain ⟨a, hA, b, htakes, rfl⟩ := (legal_append _ _).mp h
    have hkept : a key = some bytes → ¬(e.2.key = key ∧ e.2.Deletes) →
        ∃ A₁ e' A₂, A ++ [e] = A₁ ++ e' :: A₂ ∧ e'.2.key = key ∧ e'.2.Creates bytes ∧
          ∀ d ∈ A₂, ¬(d.2.key = key ∧ d.2.Deletes) := by
      intro hbefore hdelete
      obtain ⟨A₁, e', A₂, rfl, hekey, hcreates, hsince⟩ := ih hA hbefore
      refine ⟨A₁, e', A₂ ++ [e], List.append_assoc .., hekey, hcreates, fun d hd => ?_⟩
      rcases List.mem_append.mp hd with hd | hd
      · exact hsince d hd
      · exact List.mem_singleton.mp hd ▸ hdelete
    have hfree : ∀ {o : Option Bytes}, b = Function.update a e.2.key o → e.2.key ≠ key → a key = some bytes :=
      fun hupdate hne => by rwa [hupdate, Function.update_of_ne (Ne.symm hne)] at hkey
    rcases takes_cases htakes with ⟨_, bytes', hcreates, hupdate⟩ | ⟨_, hupdate⟩ | ⟨hnot, hsame⟩
    · by_cases hekey : e.2.key = key
      · rw [hupdate, hekey, Function.update_self] at hkey
        obtain rfl := Option.some.inj hkey
        exact ⟨A, e, [], rfl, hekey, hcreates, fun d hd => absurd hd List.not_mem_nil⟩
      · exact hkept (hfree hupdate hekey) fun h => hekey h.1
    · by_cases hekey : e.2.key = key
      · rw [hupdate, hekey, Function.update_self] at hkey
        cases hkey
      · exact hkept (hfree hupdate hekey) fun h => hekey h.1
    · exact hkept (hsame ▸ hkey) fun hdeletes => hnot hdeletes.2

/-- The objects of one organization. -/
def within (organizationId : String) (objects : Objects) : Objects :=
  fun k => if k.organizationId = organizationId then objects k else none

theorem within_update {organizationId : String} {o : Option Bytes} (h : key.organizationId = organizationId) :
    within organizationId (Function.update objects key o) = Function.update (within organizationId objects) key o := by
  funext k
  by_cases hk : k = key
  · subst hk
    simp [within, h]
  · simp [within, hk]

theorem within_update_of_ne {organizationId : String} {o : Option Bytes} (h : key.organizationId ≠ organizationId) :
    within organizationId (Function.update objects key o) = within organizationId objects := by
  funext k
  by_cases hk : k = key
  · subst hk
    simp [within, h]
  · simp [within, hk]

theorem Takes.within {organizationId : String} (h : Takes objects x objects') (hx : x.key.organizationId = organizationId) :
    Takes (within organizationId objects) x (within organizationId objects') := by
  have hsame : Repository.within organizationId objects x.key = objects x.key := if_pos hx
  obtain ⟨key, operation, result⟩ := x
  unfold Takes at h ⊢
  simp only [hsame]
  split at h
  · rename_i hoperation hresult
    cases hoperation
    cases hresult
    obtain ⟨hnone, bytes, hcomplete, hlength, rfl⟩ := h
    exact ⟨hnone, bytes, hcomplete, hlength, within_update hx⟩
  · rename_i hoperation hresult
    cases hoperation
    cases hresult
    exact ⟨h.1, congrArg _ h.2⟩
  · rename_i hoperation hresult
    cases hoperation
    cases hresult
    exact ⟨h.1, congrArg _ h.2⟩
  · rename_i hoperation hresult
    cases hoperation
    cases hresult
    exact ⟨h.1, congrArg _ h.2⟩
  · rename_i hoperation hresult
    cases hoperation
    cases hresult
    exact ⟨h.1, (congrArg _ h.2).trans (within_update hx)⟩
  · rename_i hoperation hresult
    cases hoperation
    cases hresult
    exact ⟨h.1, congrArg _ h.2⟩
  · exact h.elim

theorem Takes.outside {organizationId : String} (h : Takes objects x objects') (hx : x.key.organizationId ≠ organizationId) :
    Repository.within organizationId objects' = Repository.within organizationId objects := by
  rcases takes_cases h with ⟨_, _, _, rfl⟩ | ⟨_, rfl⟩ | ⟨_, rfl⟩
  · exact within_update_of_ne hx
  · exact within_update_of_ne hx
  · rfl

/-- The effects on one organization's objects are a history of these. -/
theorem legal_organization (organizationId : String) : ∀ (H : History) {objects objects' : Objects}, Legal Takes objects H objects' →
    Legal Takes (within organizationId objects) (H.filter fun e => e.2.key.organizationId = organizationId)
      (within organizationId objects')
  | [], _, _, h => congrArg (within organizationId) h
  | e :: H, _, _, ⟨middle, htakes, hH⟩ => by
    have hrest := legal_organization organizationId H hH
    by_cases he : e.2.key.organizationId = organizationId
    · rw [List.filter_cons, if_pos (decide_eq_true he)]
      exact ⟨_, htakes.within he, hrest⟩
    · rw [List.filter_cons, if_neg (by simpa using he), ← htakes.outside he]
      exact hrest

/-! ### Stores whose calls overlap -/

inductive CallOutcome where
  | pending
  | answered (result : ObjectResult)
  | threw
  deriving DecidableEq, Repr

/-- A call as its caller sees it, and the effect it is known to have. -/
structure CallView where
  key : ObjectKey
  operation : ObjectOperation
  effect : Option ObjectResult
  outcome : CallOutcome

def CallView.known (c : CallView) : Option ObjectEffect := c.effect.map fun result => ⟨c.key, c.operation, result⟩

/-- A store with any number of calls: its events are the steps of its calls and of what
they use. -/
structure ObjectMachine (σ ι : Type) where
  start : σ
  step : σ → ι → σ
  objects : σ → Objects
  calls : σ → List CallView

namespace ObjectMachine

variable {σ ι : Type} (M : ObjectMachine σ ι)

def after (ls : List ι) : σ := run M.step M.start ls

def effect (s : σ) (i : ℕ) : Option ObjectEffect := (M.calls s)[i]?.bind CallView.known

/-- `history` is what the calls of the store did, one after the other. -/
structure Atomic (history : List ι → History) : Prop where
  /-- The history is one of the sequential store, and leads to what is stored. -/
  legal : ∀ ls, Legal Takes noObjects (history ls) (M.objects (M.after ls))
  /-- What is called later comes later. -/
  grows : ∀ ls ms, history ls <+: history (ls ++ ms)
  once : ∀ ls, ((history ls).map Prod.fst).Nodup
  called : ∀ (ls : List ι) (i : ℕ) (x : ObjectEffect), (i, x) ∈ history ls →
    ∃ c, (M.calls (M.after ls))[i]? = some c ∧ x.key = c.key ∧ x.operation = c.operation
  /-- A call's answer is that of its effect. -/
  answered : ∀ (ls : List ι) (i : ℕ) (c : CallView) result, (M.calls (M.after ls))[i]? = some c →
    c.outcome = .answered result → (i, ⟨c.key, c.operation, result⟩) ∈ history ls
  /-- Between two creations of an object a `delete` of it succeeds. -/
  oneCreator : ∀ (ls : List ι) (A B C : History) (e e' : ℕ × ObjectEffect) (bytes bytes' : Bytes),
    history ls = A ++ e :: B ++ e' :: C → e.2.Creates bytes → e'.2.Creates bytes' → e.2.key = e'.2.key →
    ∃ d ∈ B, d.2.key = e.2.key ∧ d.2.Deletes
  /-- What is read are all bytes of the source of the object's creator. -/
  readsCreator : ∀ (ls : List ι) (A C : History) (i : ℕ) (key : ObjectKey) (bytes : Bytes),
    history ls = A ++ (i, ⟨key, .get, .bytes (some bytes)⟩) :: C →
    ∃ A₁ e A₂, A = A₁ ++ e :: A₂ ∧ e.2.key = key ∧ e.2.Creates bytes ∧ ∀ d ∈ A₂, ¬(d.2.key = key ∧ d.2.Deletes)
  /-- A `putIfAbsent` that throws has no effect. -/
  failing : ∀ (ls : List ι) (i : ℕ) (c : CallView) source, (M.calls (M.after ls))[i]? = some c →
    c.operation = .putIfAbsent source → c.outcome = .threw → ∀ x, (i, x) ∉ history ls
  /-- The objects of an organization have a history of their own. -/
  organizations : ∀ (ls : List ι) (organizationId : String),
    Legal Takes noObjects ((history ls).filter fun e => e.2.key.organizationId = organizationId)
      (within organizationId (M.objects (M.after ls)))

variable {M}

theorem mem_calls_of_effect {s : σ} {i : ℕ} (h : M.effect s i = some x) :
    ∃ c, (M.calls s)[i]? = some c ∧ c.effect = some x.result ∧ x.key = c.key ∧ x.operation = c.operation := by
  obtain ⟨c, hc, heffect⟩ := Option.bind_eq_some_iff.mp h
  obtain ⟨result, hresult, rfl⟩ := Option.map_eq_some_iff.mp heffect
  exact ⟨c, hc, hresult, rfl, rfl⟩

/-- **A store whose steps are atomic has a sequential history.** -/
theorem atomic {I : σ → Prop} (hI : ∀ s l, I s → I (M.step s l)) (hstart : I M.start) (hcalls : M.calls M.start = [])
    (hobjects : M.objects M.start = noObjects)
    (hatomic : ∀ s l, I s → AtomicStep Takes M.objects M.effect s (M.step s l))
    (hanswered : ∀ s, I s → ∀ c ∈ M.calls s, ∀ result, c.outcome = .answered result → c.effect = some result)
    (hfailing : ∀ s, I s → ∀ c ∈ M.calls s, ∀ source, c.operation = .putIfAbsent source → c.outcome = .threw →
      c.effect = none) :
    M.Atomic (history M.step M.start M.effect) := by
  have hinvariant : ∀ ls, I (M.after ls) := fun ls => run_invariant hI ls hstart
  have hlinear := linearizes_history hI hstart (fun i => by simp [effect, hcalls]) hatomic
  have hlegal : ∀ ls, Legal Takes noObjects (history M.step M.start M.effect ls) (M.objects (M.after ls)) :=
    fun ls => hobjects ▸ (hlinear ls).legal
  refine ⟨hlegal, history_prefix, fun ls => (hlinear ls).nodup, fun ls i x hmem => ?_, fun ls i c result hc houtcome => ?_,
    fun ls A B C e e' bytes bytes' hls hcreates hcreates' hkey => ?_, fun ls A C i key bytes hls => ?_,
    fun ls i c source hc hoperation houtcome x hmem => ?_, fun ls organizationId => ?_⟩
  · obtain ⟨c, hc, _, hkey, hoperation⟩ := mem_calls_of_effect (((hlinear ls).mem_iff i x).mp hmem)
    exact ⟨c, hc, hkey, hoperation⟩
  · refine ((hlinear ls).mem_iff i _).mpr ?_
    have hc' : (M.calls (run M.step M.start ls))[i]? = some c := hc
    rw [effect, hc', Option.bind_some, CallView.known, hanswered _ (hinvariant ls) c (List.mem_of_getElem? hc) result houtcome]
    rfl
  · exact one_creator (hls ▸ hlegal ls) hcreates hcreates' hkey
  · obtain ⟨a, hA, b, ⟨hread, _⟩, _⟩ := (legal_append _ _).mp (hls ▸ hlegal ls)
    exact created_by A hA hread.symm
  · obtain ⟨c', hc', heffect, _⟩ := mem_calls_of_effect (((hlinear ls).mem_iff i x).mp hmem)
    obtain rfl := Option.some.inj (hc.symm.trans hc')
    rw [hfailing _ (hinvariant ls) c (List.mem_of_getElem? hc) source hoperation houtcome] at heffect
    cases heffect
  · have h := legal_organization organizationId _ (hlegal ls)
    have hnone : within organizationId noObjects = noObjects := by
      funext k
      simp [within, noObjects]
    rwa [hnone] at h

end ObjectMachine

end Repository
end Evllm
