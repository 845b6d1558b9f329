/-
# The store in memory

`src/protected-bundles/storage/memory.ts`, with calls of any organizations that
overlap at their awaits. `get`, `head` and `delete` are done at once. `putIfAbsent`
looks for the object, collects its source over one await a chunk, and looks again
when it resumes.

Key definitions: `MemoryStore`, `memoryStep`, `memoryStore`, `MemoryInvariant`.
Key theorems: `advance_cases`, `memoryStore_atomic`.
-/
import Evllm.Lib.JsMap
import Evllm.Lib.LastWith
import Evllm.Repository.ObjectHistory

namespace Evllm
namespace Repository

open Lib

/-! ### Calls of the store -/

/-- Where a call is: in the loop of `collect`, after it, or done. -/
inductive MemoryStage where
  | collecting (rest chunks : List Bytes) (length : ℕ)
  | collected (value : Bytes)
  | answered (result : ObjectResult)
  | threw
  deriving DecidableEq, Repr

structure MemoryCall where
  key : ObjectKey
  operation : ObjectOperation
  maxObjectBytes : ℕ
  aborted : Bool
  stage : MemoryStage

/-- `objects`, and the calls that were made. -/
structure MemoryStore where
  objects : JsMap String Bytes
  calls : List MemoryCall

inductive MemoryEvent where
  | call (organizationId objectId : String) (operation : ObjectOperation) (maxObjectBytes : ℕ) (aborted : Bool)
  | abort (call : ℕ)
  | advance (call : ℕ)

section Operations

variable (s : MemoryStore)

/-- `` `${namespaceKey(organizationId)}:${validateObjectId(objectId)}` ``. -/
def memoryKey (k : ObjectKey) : String := k.joined [] ':'

/-- The call, up to its first await. -/
def beginStage (k : ObjectKey) (operation : ObjectOperation) (aborted : Bool) : MemoryStage :=
  match operation with
  | .delete => .answered (.deleted (s.objects.has (memoryKey k)))
  | .get => if aborted then .threw else .answered (.bytes (s.objects.get (memoryKey k)))
  | .head => .answered (.head ((s.objects.get (memoryKey k)).map headOf))
  | .putIfAbsent source =>
    match s.objects.get (memoryKey k) with
    | some existing => .answered (.put ⟨existing.length, .existing⟩)
    | none => .collecting source.chunks [] 0

/-- A call with an invalid identifier throws before it reaches the objects. -/
def memoryCall (organizationId objectId : String) (operation : ObjectOperation) (maxObjectBytes : ℕ) (aborted : Bool) :
    MemoryStore :=
  match objectKey organizationId objectId with
  | none => s
  | some k =>
    { objects := if operation = .delete then s.objects.delete (memoryKey k) else s.objects
      calls := s.calls ++ [⟨k, operation, maxObjectBytes, aborted, beginStage s k operation aborted⟩] }

/-- The next await of `collect` is over. -/
def collectNext (c : MemoryCall) (source : ByteStream) (chunks : List Bytes) (length : ℕ) : List Bytes → MemoryStage
  | chunk :: rest =>
    if c.aborted then .threw
    else if length + chunk.length > c.maxObjectBytes then .threw
    else .collecting rest (chunks ++ [chunk]) (length + chunk.length)
  | [] => if source.thrown.isSome then .threw else .collected (assemble 0 chunks)

/-- The call goes on after its await. -/
def memoryAdvance (i : ℕ) : MemoryStore :=
  match s.calls[i]? with
  | none => s
  | some c =>
    match c.operation, c.stage with
    | .putIfAbsent source, .collecting rest chunks length =>
      { s with calls := s.calls.set i { c with stage := collectNext c source chunks length rest } }
    | .putIfAbsent _, .collected value =>
      match s.objects.get (memoryKey c.key) with
      | some winner => { s with calls := s.calls.set i { c with stage := .answered (.put ⟨winner.length, .existing⟩) } }
      | none =>
        { objects := s.objects.set (memoryKey c.key) value
          calls := s.calls.set i { c with stage := .answered (.put ⟨value.length, .created⟩) } }
    | _, _ => s

def memoryAbort (i : ℕ) : MemoryStore :=
  match s.calls[i]? with
  | none => s
  | some c => { s with calls := s.calls.set i { c with aborted := true } }

def memoryStep : MemoryEvent → MemoryStore
  | .call organizationId objectId operation maxObjectBytes aborted =>
    memoryCall s organizationId objectId operation maxObjectBytes aborted
  | .abort i => memoryAbort s i
  | .advance i => memoryAdvance s i

end Operations

def MemoryCall.view (c : MemoryCall) : CallView where
  key := c.key
  operation := c.operation
  effect := match c.stage with
    | .answered result => some result
    | _ => none
  outcome := match c.stage with
    | .answered result => .answered result
    | .threw => .threw
    | _ => .pending

def memoryStore : ObjectMachine MemoryStore MemoryEvent where
  start := ⟨JsMap.empty, []⟩
  step := memoryStep
  objects s k := s.objects.get (memoryKey k)
  calls s := s.calls.map MemoryCall.view

/-! ### Every step is atomic -/

/-- What is collected is what was read of the source. -/
def MemoryCall.Collects (c : MemoryCall) : Prop :=
  ∀ source, c.operation = .putIfAbsent source →
    (∀ rest chunks length, c.stage = .collecting rest chunks length → chunks ++ rest = source.chunks) ∧
    ∀ value, c.stage = .collected value → Complete source value

def MemoryInvariant (s : MemoryStore) : Prop := ∀ c ∈ s.calls, c.Collects

theorem memoryKey_injective {k k' : ObjectKey} (h : memoryKey k = memoryKey k') : k = k' := ObjectKey.joined_injective h

variable {s : MemoryStore} {c c' : MemoryCall} {i : ℕ}

theorem objects_set (k : ObjectKey) (value : Bytes) :
    (fun k' => (s.objects.set (memoryKey k) value).get (memoryKey k')) =
      Function.update (fun k' => s.objects.get (memoryKey k')) k (some value) := by
  funext k'
  rw [JsMap.get_set]
  by_cases hk : k' = k
  · subst hk
    rw [if_pos rfl, Function.update_self]
  · rw [if_neg fun h => hk (memoryKey_injective h).symm, Function.update_of_ne hk]

theorem objects_delete (k : ObjectKey) :
    (fun k' => (s.objects.delete (memoryKey k)).get (memoryKey k')) =
      Function.update (fun k' => s.objects.get (memoryKey k')) k none := by
  funext k'
  rw [JsMap.get_delete]
  by_cases hk : k' = k
  · subst hk
    rw [if_pos rfl, Function.update_self]
  · rw [if_neg fun h => hk (memoryKey_injective h).symm, Function.update_of_ne hk]

/-- What a call has done when it first awaits. -/
theorem beginStage_takes (k : ObjectKey) (operation : ObjectOperation) (maxObjectBytes : ℕ) (aborted : Bool)
    (s' : MemoryStore)
    (hobjects : s'.objects = if operation = .delete then s.objects.delete (memoryKey k) else s.objects) :
    let c : MemoryCall := ⟨k, operation, maxObjectBytes, aborted, beginStage s k operation aborted⟩
    (c.view.known = none ∧ memoryStore.objects s' = memoryStore.objects s) ∨
      ∃ x, c.view.known = some x ∧ Takes (memoryStore.objects s) x (memoryStore.objects s') := by
  have hkept : operation ≠ .delete → memoryStore.objects s' = memoryStore.objects s := fun hne => by
    funext k'
    simp only [memoryStore, hobjects, if_neg hne]
  cases operation with
  | putIfAbsent source =>
    cases hget : s.objects.get (memoryKey k) with
    | none =>
      refine Or.inl ⟨?_, hkept (by simp)⟩
      simp [CallView.known, MemoryCall.view, beginStage, hget]
    | some existing =>
      refine Or.inr ⟨⟨k, .putIfAbsent source, .put ⟨existing.length, .existing⟩⟩, ?_, ?_, hkept (by simp)⟩
      · simp [CallView.known, MemoryCall.view, beginStage, hget]
      · simp [memoryStore, hget]
  | get =>
    cases aborted with
    | true => exact Or.inl ⟨rfl, hkept (by simp)⟩
    | false => exact Or.inr ⟨⟨k, .get, .bytes (s.objects.get (memoryKey k))⟩, rfl, rfl, hkept (by simp)⟩
  | head => exact Or.inr ⟨⟨k, .head, .head ((s.objects.get (memoryKey k)).map headOf)⟩, rfl, rfl, hkept (by simp)⟩
  | delete =>
    have hdelete : memoryStore.objects s' = Function.update (memoryStore.objects s) k none := by
      rw [if_pos rfl] at hobjects
      simp only [memoryStore, hobjects]
      exact objects_delete k
    refine Or.inr ⟨⟨k, .delete, .deleted (s.objects.has (memoryKey k))⟩, rfl, ?_⟩
    cases hget : s.objects.get (memoryKey k) with
    | none =>
      have hhas : s.objects.has (memoryKey k) = false := by rw [JsMap.has, hget]; rfl
      rw [hhas]
      refine ⟨hget, hdelete.trans ?_⟩
      funext k'
      by_cases hk : k' = k
      · subst hk
        rw [Function.update_self]
        exact hget.symm
      · rw [Function.update_of_ne hk]
    | some value =>
      have hhas : s.objects.has (memoryKey k) = true := by rw [JsMap.has, hget]; rfl
      rw [hhas]
      refine ⟨?_, hdelete⟩
      simp only [memoryStore, hget, Option.isSome_some]

/-- What an await that is over leads to. -/
inductive Advanced (s : MemoryStore) (i : ℕ) : MemoryStore → Prop where
  | idle : Advanced s i s
  | next (c : MemoryCall) (source : ByteStream) (rest chunks : List Bytes) (length : ℕ) (hc : s.calls[i]? = some c)
      (hoperation : c.operation = .putIfAbsent source) (hstage : c.stage = .collecting rest chunks length) :
      Advanced s i { s with calls := s.calls.set i { c with stage := collectNext c source chunks length rest } }
  | lost (c : MemoryCall) (source : ByteStream) (value winner : Bytes) (hc : s.calls[i]? = some c)
      (hoperation : c.operation = .putIfAbsent source) (hstage : c.stage = .collected value)
      (hget : s.objects.get (memoryKey c.key) = some winner) :
      Advanced s i
        { s with calls := s.calls.set i { c with stage := .answered (.put ⟨winner.length, .existing⟩) } }
  | created (c : MemoryCall) (source : ByteStream) (value : Bytes) (hc : s.calls[i]? = some c)
      (hoperation : c.operation = .putIfAbsent source) (hstage : c.stage = .collected value)
      (hget : s.objects.get (memoryKey c.key) = none) :
      Advanced s i
        { objects := s.objects.set (memoryKey c.key) value
          calls := s.calls.set i { c with stage := .answered (.put ⟨value.length, .created⟩) } }

theorem memoryAdvance_advanced (s : MemoryStore) (i : ℕ) : Advanced s i (memoryAdvance s i) := by
  unfold memoryAdvance
  split
  · exact .idle
  · rename_i c hc
    split
    · rename_i source rest chunks length hoperation hstage
      exact .next c source rest chunks length hc hoperation hstage
    · rename_i source value hoperation hstage
      split
      · rename_i winner hget
        exact .lost c source value winner hc hoperation hstage hget
      · rename_i hget
        exact .created c source value hc hoperation hstage hget
    · exact .idle

theorem calls_set (s' : MemoryStore) (h : s'.calls = s.calls.set i c') :
    memoryStore.calls s' = (memoryStore.calls s).set i c'.view := by
  simp only [memoryStore, h, List.map_set]

theorem view_at (hc : s.calls[i]? = some c) : (memoryStore.calls s)[i]? = some c.view := by
  simp only [memoryStore, List.getElem?_map, hc, Option.map_some]

/-- A call that collects has no effect yet, nor has it by the next chunk. -/
theorem collectNext_unknown (c : MemoryCall) (source : ByteStream) (chunks : List Bytes) (length : ℕ) (rest : List Bytes) :
    ({ c with stage := collectNext c source chunks length rest } : MemoryCall).view.known = none := by
  cases rest with
  | nil =>
    simp only [collectNext]
    split_ifs <;> rfl
  | cons chunk rest =>
    simp only [collectNext]
    split_ifs <;> rfl

theorem memoryAdvance_atomic (hI : MemoryInvariant s) (i : ℕ) :
    AtomicStep Takes memoryStore.objects memoryStore.effect s (memoryAdvance s i) := by
  have hadvanced := memoryAdvance_advanced s i
  generalize memoryAdvance s i = s' at hadvanced ⊢
  cases hadvanced with
  | idle => exact .silent rfl fun _ => rfl
  | next c source rest chunks length hc hoperation hstage =>
    refine atomicStep_set (view_at hc) (calls_set _ rfl) (Or.inl ⟨?_, rfl⟩)
    rw [collectNext_unknown, CallView.known, MemoryCall.view, hstage]
    rfl
  | lost c source value winner hc hoperation hstage hget =>
    refine atomicStep_set (view_at hc) (calls_set _ rfl) (Or.inr ⟨?_, _, rfl, ?_⟩)
    · rw [CallView.known, MemoryCall.view, hstage]
      rfl
    · simp only [MemoryCall.view, hoperation]
      refine ⟨?_, rfl⟩
      simp only [memoryStore, hget, Option.map_some]
  | created c source value hc hoperation hstage hget =>
    refine atomicStep_set (view_at hc) (calls_set _ rfl) (Or.inr ⟨?_, _, rfl, ?_⟩)
    · rw [CallView.known, MemoryCall.view, hstage]
      rfl
    · simp only [MemoryCall.view, hoperation]
      have hcomplete := ((hI c (List.mem_of_getElem? hc)) source hoperation).2 value hstage
      exact ⟨hget, value, hcomplete, rfl, objects_set c.key value⟩

theorem memoryStep_atomic (s : MemoryStore) (e : MemoryEvent) (hI : MemoryInvariant s) :
    AtomicStep Takes memoryStore.objects memoryStore.effect s (memoryStep s e) := by
  cases e with
  | call organizationId objectId operation maxObjectBytes aborted =>
    rw [memoryStep, memoryCall]
    split
    · exact .silent rfl fun _ => rfl
    · rename_i k _
      refine atomicStep_append ?_ (beginStage_takes k operation maxObjectBytes aborted _ rfl)
      simp only [memoryStore, List.map_append, List.map_cons, List.map_nil]
  | abort i =>
    rw [memoryStep, memoryAbort]
    split
    · exact .silent rfl fun _ => rfl
    · rename_i c hc
      exact atomicStep_set (view_at hc) (calls_set _ rfl) (Or.inl ⟨rfl, rfl⟩)
  | advance i => exact memoryAdvance_atomic hI i

/-! ### What is collected -/

theorem collectNext_collects {source : ByteStream} {rest chunks : List Bytes} {length : ℕ}
    (hoperation : c.operation = .putIfAbsent source) (hread : chunks ++ rest = source.chunks) :
    ({ c with stage := collectNext c source chunks length rest } : MemoryCall).Collects := by
  intro source' hoperation'
  obtain rfl : source = source' := ObjectOperation.putIfAbsent.inj (hoperation.symm.trans hoperation')
  cases rest with
  | nil =>
    simp only [collectNext]
    rw [List.append_nil] at hread
    split_ifs with hthrown
    · exact ⟨nofun, nofun⟩
    · refine ⟨nofun, fun value hvalue => ?_⟩
      obtain rfl := MemoryStage.collected.inj hvalue
      exact ⟨by simpa using hthrown, by rw [assemble_eq, hread]⟩
  | cons chunk rest =>
    simp only [collectNext]
    split_ifs
    · exact ⟨nofun, nofun⟩
    · exact ⟨nofun, nofun⟩
    · refine ⟨fun rest' chunks' length' hstage => ?_, nofun⟩
      obtain ⟨rfl, rfl, _⟩ := MemoryStage.collecting.inj hstage
      rw [List.append_assoc]
      exact hread

theorem beginStage_collects (s : MemoryStore) (k : ObjectKey) (operation : ObjectOperation) (maxObjectBytes : ℕ)
    (aborted : Bool) : (⟨k, operation, maxObjectBytes, aborted, beginStage s k operation aborted⟩ : MemoryCall).Collects := by
  intro source hoperation
  obtain rfl : operation = .putIfAbsent source := hoperation
  simp only [beginStage]
  split
  · exact ⟨nofun, nofun⟩
  · refine ⟨fun rest chunks length hstage => ?_, nofun⟩
    obtain ⟨rfl, rfl, _⟩ := MemoryStage.collecting.inj hstage
    rfl

theorem answered_collects (c : MemoryCall) (result : ObjectResult) : ({ c with stage := .answered result } : MemoryCall).Collects :=
  fun _ _ => ⟨nofun, nofun⟩

theorem MemoryInvariant.set (hI : MemoryInvariant s) (hc' : c'.Collects) (s' : MemoryStore)
    (hcalls : s'.calls = s.calls.set i c') : MemoryInvariant s' := fun d hd => by
  rcases List.mem_or_eq_of_mem_set (hcalls ▸ hd) with hd | rfl
  · exact hI d hd
  · exact hc'

theorem memoryInvariant_step (s : MemoryStore) (e : MemoryEvent) (hI : MemoryInvariant s) : MemoryInvariant (memoryStep s e) := by
  cases e with
  | call organizationId objectId operation maxObjectBytes aborted =>
    rw [memoryStep, memoryCall]
    split
    · exact hI
    · intro c hc
      rcases List.mem_append.mp hc with hc | hc
      · exact hI c hc
      · obtain rfl := List.mem_singleton.mp hc
        exact beginStage_collects s _ operation maxObjectBytes aborted
  | abort i =>
    rw [memoryStep, memoryAbort]
    split
    · exact hI
    · rename_i c hc
      have haborted : ({ c with aborted := true } : MemoryCall).Collects := hI c (List.mem_of_getElem? hc)
      exact hI.set haborted _ rfl
  | advance i =>
    rw [memoryStep]
    have hadvanced := memoryAdvance_advanced s i
    generalize memoryAdvance s i = s' at hadvanced ⊢
    cases hadvanced with
    | idle => exact hI
    | next c source rest chunks length hc hoperation hstage =>
      exact hI.set (collectNext_collects hoperation ((hI c (List.mem_of_getElem? hc) source hoperation).1 _ _ _ hstage)) _ rfl
    | lost c source value winner hc hoperation hstage hget => exact hI.set (answered_collects c _) _ rfl
    | created c source value hc hoperation hstage hget => exact hI.set (answered_collects c _) _ rfl

/-- **The store in memory is atomic.** -/
theorem memoryStore_atomic : ∃ history, memoryStore.Atomic history := by
  refine ⟨_, ObjectMachine.atomic memoryInvariant_step (fun c hc => absurd hc List.not_mem_nil) rfl rfl memoryStep_atomic
    (fun s _ v hv result houtcome => ?_) fun s _ v hv source _ houtcome => ?_⟩
  · obtain ⟨c, _, rfl⟩ := List.mem_map.mp hv
    unfold MemoryCall.view at houtcome ⊢
    cases hstage : c.stage <;> simp_all
  · obtain ⟨c, _, rfl⟩ := List.mem_map.mp hv
    unfold MemoryCall.view at houtcome ⊢
    cases hstage : c.stage <;> simp_all

/-- Of two writers that have both found no object, the first that resumes creates it. -/
example :
    let put (byte : UInt8) : MemoryEvent := .call "urn:evllm:org:123e4567-e89b-42d3-a456-426614174000"
      "AAAAAAAAAAAAAAAAAAAAAAAAAAAAAAAAAAAAAAAAAAA" (.putIfAbsent ⟨[[byte]], none⟩) 1024 false
    (memoryStore.after [put 1, put 2, .advance 0, .advance 1, .advance 1, .advance 1, .advance 0, .advance 0]).calls.map
      (fun c => c.view.outcome) = [.answered (.put ⟨1, .existing⟩), .answered (.put ⟨1, .created⟩)] := by decide +kernel

end Repository
end Evllm
