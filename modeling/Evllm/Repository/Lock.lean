/-
# A fair mutex of promises

`ProtectedObjectCoordinator.withLock`: a call awaits the tail of the last call of its
key, and its own tail is resolved once that tail and its own gate are. When its
action has finished it opens the gate, and drops the map's entry if that is still
its tail. A timeout abandons the caller only.

The promise of a call is named by the call's place in the list. Resuming after the
awaited tail, and resolving a tail, are events of their own, which the job queue of
the language runs in some order.

Key definitions: `Locks`, `withLock`, `start`, `finish`, `settleTail`, `LockInvariant`.
Key theorems: `LockInvariant.update`, `lockInvariant_after`, `withLock_fair_mutex`.
-/
import Evllm.Lib.JsMap
import Evllm.Lib.LastWith
import Evllm.Lib.Schedule

namespace Evllm
namespace Repository

open Lib

/-! ### Calls of `withLock` -/

inductive ActionStage where
  | waiting
  | running
  | finished
  deriving DecidableEq, Repr

/-- What `withTimeout` has told the caller. -/
inductive CallerState where
  | pending
  | timedOut
  | settled (rejected : Bool)
  deriving DecidableEq, Repr

/-- A call: the call whose tail it awaits, its action, and whether its tail is
resolved. Its gate is open once the action has finished. -/
structure LockCall where
  key : String
  previous : Option ℕ
  stage : ActionStage
  tail : Bool
  caller : CallerState
  deriving DecidableEq, Repr

structure Locks where
  locks : JsMap String ℕ
  calls : List LockCall

def newLocks : Locks := ⟨JsMap.empty, []⟩

inductive LockEvent where
  | call (key : String)
  | start (call : ℕ)
  | finish (call : ℕ) (rejected : Bool)
  | settleTail (call : ℕ)
  | timeout (call : ℕ)
  deriving DecidableEq, Repr

section Operations

variable (L : Locks)

/-- The promise that the call awaits is resolved. -/
def previousResolved (c : LockCall) : Bool :=
  match c.previous with
  | none => true
  | some j => L.calls[j]?.any (·.tail)

/-- `withLock`, up to its await. -/
def withLock (key : String) : Locks where
  locks := L.locks.set key L.calls.length
  calls := L.calls ++ [⟨key, L.locks.get key, .waiting, false, .pending⟩]

/-- The call goes on after its await and runs its action. -/
def start (i : ℕ) : Locks :=
  match L.calls[i]? with
  | none => L
  | some c =>
    if c.stage = .waiting ∧ previousResolved L c then { L with calls := L.calls.set i { c with stage := .running } } else L

/-- The action has resolved or rejected: the `finally` block runs. -/
def finish (i : ℕ) (rejected : Bool) : Locks :=
  match L.calls[i]? with
  | none => L
  | some c =>
    if c.stage = .running then
      { locks := if L.locks.get c.key = some i then L.locks.delete c.key else L.locks
        calls := L.calls.set i { c with
          stage := .finished
          caller := if c.caller = .pending then .settled rejected else c.caller } }
    else
      L

/-- `previous.then(() => gate)` resolves. -/
def settleTail (i : ℕ) : Locks :=
  match L.calls[i]? with
  | none => L
  | some c =>
    if c.stage = .finished ∧ previousResolved L c then { L with calls := L.calls.set i { c with tail := true } } else L

/-- The timer of the caller fires. -/
def timeout (i : ℕ) : Locks :=
  match L.calls[i]? with
  | none => L
  | some c =>
    if c.caller = .pending then { L with calls := L.calls.set i { c with caller := .timedOut } } else L

def lockStep : LockEvent → Locks
  | .call key => withLock L key
  | .start i => start L i
  | .finish i rejected => finish L i rejected
  | .settleTail i => settleTail L i
  | .timeout i => timeout L i

/-- The coordinator after the events `ls`. -/
def locksAfter (ls : List LockEvent) : Locks := run lockStep newLocks ls

end Operations

/-! ### The invariant -/

variable {L : Locks} {i : ℕ} {c c' : LockCall}

/-- All calls of the key before `i` have finished. -/
def AllBefore (L : Locks) (i : ℕ) (key : String) : Prop :=
  ∀ (j : ℕ) (d : LockCall), j < i → L.calls[j]? = some d → d.key = key → d.stage = .finished

/-- No call of the key lies between `j` and `i`. -/
def Next (L : Locks) (j i : ℕ) (key : String) : Prop :=
  ∀ (k : ℕ) (d : LockCall), j < k → k < i → L.calls[k]? = some d → d.key ≠ key

structure LockInvariant (L : Locks) : Prop where
  /-- An entry names the last call of its key, which has not finished. -/
  held : ∀ key i, L.locks.get key = some i → ∃ c, L.calls[i]? = some c ∧ c.key = key ∧ c.stage ≠ .finished ∧
    Next L i L.calls.length key
  free : ∀ key, L.locks.get key = none → AllBefore L L.calls.length key
  /-- A call awaits the call of its key before it, or all had finished. -/
  unlinked : ∀ (i : ℕ) (c : LockCall), L.calls[i]? = some c → c.previous = none → AllBefore L i c.key
  linked : ∀ (i : ℕ) (c : LockCall) j, L.calls[i]? = some c → c.previous = some j →
    j < i ∧ Next L j i c.key ∧ ∃ d, L.calls[j]? = some d ∧ d.key = c.key
  started : ∀ (i : ℕ) (c : LockCall), L.calls[i]? = some c → c.stage ≠ .waiting →
    AllBefore L i c.key ∧ previousResolved L c = true
  tails : ∀ (i : ℕ) (c : LockCall), L.calls[i]? = some c → c.tail = true → c.stage = .finished

/-! ### What a step does -/

/-- A call only moves on. -/
structure Later (c c' : LockCall) : Prop where
  key : c'.key = c.key
  previous : c'.previous = c.previous
  started : c.stage ≠ .waiting → c'.stage ≠ .waiting
  finished : c.stage = .finished → c'.stage = .finished
  tail : c.tail = true → c'.tail = true

/-- What an event does to the call `i` it is about. -/
structure Update (L : Locks) (i : ℕ) (c c' : LockCall) (locks' : JsMap String ℕ) : Prop where
  found : L.calls[i]? = some c
  later : Later c c'
  ready : c'.stage ≠ .waiting → c.stage ≠ .waiting ∨ previousResolved L c = true
  resolved : c'.tail = true → c.tail = true ∨ c'.stage = .finished
  /-- Only the entry that is the call's own tail is dropped, when it finishes. -/
  locks : ∀ key, locks'.get key = L.locks.get key ∨
    (key = c.key ∧ L.locks.get key = some i ∧ locks'.get key = none ∧ c'.stage = .finished)
  dropped : c.stage ≠ .finished → c'.stage = .finished → locks'.get c.key ≠ some i

theorem start_cases (L : Locks) (i : ℕ) : start L i = L ∨
    ∃ c, Update L i c { c with stage := .running } L.locks ∧ c.stage = .waiting ∧ previousResolved L c = true ∧
      start L i = ⟨L.locks, L.calls.set i { c with stage := .running }⟩ := by
  unfold start
  split
  · exact Or.inl rfl
  · rename_i c hc
    split_ifs with h
    · exact Or.inr ⟨c, ⟨hc, ⟨rfl, rfl, by simp, by simp [h.1], id⟩, fun _ => Or.inr h.2, Or.inl, fun _ => Or.inl rfl, by simp⟩,
        h.1, h.2, rfl⟩
    · exact Or.inl rfl

theorem settleTail_cases (L : Locks) (i : ℕ) : settleTail L i = L ∨
    ∃ c, Update L i c { c with tail := true } L.locks ∧ c.stage = .finished ∧ previousResolved L c = true ∧
      settleTail L i = ⟨L.locks, L.calls.set i { c with tail := true }⟩ := by
  unfold settleTail
  split
  · exact Or.inl rfl
  · rename_i c hc
    split_ifs with h
    · exact Or.inr ⟨c, ⟨hc, ⟨rfl, rfl, id, id, fun _ => rfl⟩, Or.inl, fun _ => Or.inr h.1, fun _ => Or.inl rfl,
        fun hne => absurd h.1 hne⟩, h.1, h.2, rfl⟩
    · exact Or.inl rfl

/-- The compare-and-delete of the `finally` block. -/
theorem get_unlocked (locks : JsMap String ℕ) (own : String) (i : ℕ) (key : String) :
    (if locks.get own = some i then locks.delete own else locks).get key =
      if key = own ∧ locks.get own = some i then none else locks.get key := by
  by_cases howns : locks.get own = some i
  · simp [howns, JsMap.get_delete, eq_comm]
  · simp [howns]

theorem finish_cases (L : Locks) (i : ℕ) (rejected : Bool) : finish L i rejected = L ∨
    ∃ c c' locks', Update L i c c' locks' ∧ finish L i rejected = ⟨locks', L.calls.set i c'⟩ := by
  unfold finish
  split
  · exact Or.inl rfl
  · rename_i c hc
    by_cases h : c.stage = .running
    · rw [if_pos h]
      refine Or.inr ⟨c, { c with
        stage := .finished
        caller := if c.caller = .pending then .settled rejected else c.caller }, _, ?_, rfl⟩
      refine ⟨hc, ⟨rfl, rfl, by simp, fun _ => rfl, id⟩, fun _ => Or.inl (by simp [h]), fun _ => Or.inr rfl, fun key => ?_,
        fun _ _ => ?_⟩
      · by_cases howns : key = c.key ∧ L.locks.get c.key = some i
        · exact Or.inr ⟨howns.1, howns.1 ▸ howns.2, by rw [get_unlocked, if_pos howns], rfl⟩
        · exact Or.inl (by rw [get_unlocked, if_neg howns])
      · by_cases howns : L.locks.get c.key = some i
        · rw [get_unlocked, if_pos ⟨rfl, howns⟩]
          simp
        · rw [get_unlocked, if_neg fun h => howns h.2]
          exact howns
    · exact Or.inl (if_neg h)

theorem timeout_cases (L : Locks) (i : ℕ) : timeout L i = L ∨
    ∃ c, Update L i c { c with caller := .timedOut } L.locks ∧
      timeout L i = ⟨L.locks, L.calls.set i { c with caller := .timedOut }⟩ := by
  unfold timeout
  split
  · exact Or.inl rfl
  · rename_i c hc
    split_ifs
    · exact Or.inr ⟨c, ⟨hc, ⟨rfl, rfl, id, id, id⟩, Or.inl, Or.inl, fun _ => Or.inl rfl, fun hne heq => absurd heq hne⟩, rfl⟩
    · exact Or.inl rfl

/-- An event adds a call, does nothing, or moves one call. -/
theorem lockStep_cases (L : Locks) (e : LockEvent) : (∃ key, lockStep L e = withLock L key) ∨ lockStep L e = L ∨
    ∃ i c c' locks', Update L i c c' locks' ∧ lockStep L e = ⟨locks', L.calls.set i c'⟩ := by
  cases e with
  | call key => exact Or.inl ⟨key, rfl⟩
  | start i =>
    rcases start_cases L i with h | ⟨c, h, _, _, hstep⟩
    · exact Or.inr (Or.inl h)
    · exact Or.inr (Or.inr ⟨i, c, _, _, h, hstep⟩)
  | finish i rejected =>
    rcases finish_cases L i rejected with h | ⟨c, c', locks', h, hstep⟩
    · exact Or.inr (Or.inl h)
    · exact Or.inr (Or.inr ⟨i, c, c', locks', h, hstep⟩)
  | settleTail i =>
    rcases settleTail_cases L i with h | ⟨c, h, _, _, hstep⟩
    · exact Or.inr (Or.inl h)
    · exact Or.inr (Or.inr ⟨i, c, _, _, h, hstep⟩)
  | timeout i =>
    rcases timeout_cases L i with h | ⟨c, h, hstep⟩
    · exact Or.inr (Or.inl h)
    · exact Or.inr (Or.inr ⟨i, c, _, _, h, hstep⟩)

theorem set_cases {k : ℕ} {d : LockCall} (h : (L.calls.set i c')[k]? = some d) :
    (k = i ∧ d = c') ∨ (k ≠ i ∧ L.calls[k]? = some d) := by
  by_cases hk : i = k
  · subst hk
    rw [List.getElem?_set_self' ] at h
    cases hget : L.calls[i]? with
    | none => simp [hget] at h
    | some e =>
      rw [hget] at h
      exact Or.inl ⟨rfl, (Option.some.inj h).symm⟩
  · rw [List.getElem?_set_ne hk] at h
    exact Or.inr ⟨Ne.symm hk, h⟩

/-- A call whose awaited tail is resolved comes after finished calls only. -/
theorem LockInvariant.ready (h : LockInvariant L) (hc : L.calls[i]? = some c) (hready : previousResolved L c = true) :
    AllBefore L i c.key := by
  cases hprevious : c.previous with
  | none => exact h.unlinked i c hc hprevious
  | some j =>
    obtain ⟨hji, hnext, d, hd, hkey⟩ := h.linked i c j hc hprevious
    have htail : d.tail = true := by
      simpa [previousResolved, hprevious, hd] using hready
    have hfinished := h.tails j d hd htail
    have hbefore := (h.started j d hd (by rw [hfinished]; decide)).1
    intro k e hk he hekey
    rcases Nat.lt_trichotomy k j with hkj | rfl | hjk
    · exact hbefore k e hkj he (hekey.trans hkey.symm)
    · obtain rfl := Option.some.inj (hd.symm.trans he)
      exact hfinished
    · exact absurd hekey (hnext k e hjk hk he)

/-! ### Every step keeps the invariant -/

section Step

variable {locks' : JsMap String ℕ} (hupdate : Update L i c c' locks')

include hupdate

/-- The call at a place after the update, and before it. -/
theorem Update.call {k : ℕ} {d : LockCall} (hd : (L.calls.set i c')[k]? = some d) :
    ∃ d₀, L.calls[k]? = some d₀ ∧ Later d₀ d := by
  rcases set_cases hd with ⟨rfl, rfl⟩ | ⟨_, hd⟩
  · exact ⟨c, hupdate.found, hupdate.later⟩
  · exact ⟨d, hd, rfl, rfl, id, id, id⟩

theorem Update.call_after {k : ℕ} {d₀ : LockCall} (hd : L.calls[k]? = some d₀) :
    ∃ d, (L.calls.set i c')[k]? = some d ∧ Later d₀ d := by
  by_cases hki : i = k
  · subst hki
    obtain rfl := Option.some.inj (hupdate.found.symm.trans hd)
    exact ⟨c', List.getElem?_set_self (List.getElem?_eq_some_iff.mp hd).1, hupdate.later⟩
  · exact ⟨d₀, (List.getElem?_set_ne hki).trans hd, rfl, rfl, id, id, id⟩

theorem Update.allBefore {k : ℕ} {key : String} (h : AllBefore L k key) : AllBefore ⟨locks', L.calls.set i c'⟩ k key := by
  intro j d hj hd hkey
  obtain ⟨d₀, hd₀, hlater⟩ := hupdate.call hd
  exact hlater.finished (h j d₀ hj hd₀ (hlater.key ▸ hkey))

theorem Update.next {j k : ℕ} {key : String} (h : Next L j k key) : Next ⟨locks', L.calls.set i c'⟩ j k key := by
  intro m d hjm hmk hd
  obtain ⟨d₀, hd₀, hlater⟩ := hupdate.call hd
  exact hlater.key ▸ h m d₀ hjm hmk hd₀

theorem Update.previousResolved {d₀ d : LockCall} (hprevious : d.previous = d₀.previous)
    (h : previousResolved L d₀ = true) : previousResolved ⟨locks', L.calls.set i c'⟩ d = true := by
  unfold Repository.previousResolved at h ⊢
  rw [hprevious]
  split at h
  · rfl
  · rename_i j _
    obtain ⟨e, he, htail⟩ := (Option.any_eq_true _ _).mp h
    obtain ⟨e', he', hlater⟩ := hupdate.call_after he
    exact (Option.any_eq_true _ _).mpr ⟨e', he', hlater.tail htail⟩

theorem Update.mayStart (h : LockInvariant L) (hstage : c'.stage ≠ .waiting) :
    AllBefore L i c.key ∧ Repository.previousResolved L c = true := by
  rcases hupdate.ready hstage with hstarted | hready
  · exact h.started i c hupdate.found hstarted
  · exact ⟨h.ready hupdate.found hready, hready⟩

theorem LockInvariant.update (h : LockInvariant L) : LockInvariant ⟨locks', L.calls.set i c'⟩ where
  held key j hget := by
    rcases hupdate.locks key with hsame | ⟨_, _, hnone, _⟩
    · obtain ⟨d, hd, hkey, hstage, hnext⟩ := h.held key j (hsame ▸ hget)
      have hnext' := hupdate.next hnext
      rw [← @List.length_set _ L.calls i c'] at hnext'
      by_cases hij : i = j
      · subst hij
        obtain rfl := Option.some.inj (hupdate.found.symm.trans hd)
        refine ⟨c', List.getElem?_set_self (List.getElem?_eq_some_iff.mp hd).1, hupdate.later.key.trans hkey, fun hfinished => ?_,
          hnext'⟩
        exact hupdate.dropped hstage hfinished (hkey ▸ hget)
      · exact ⟨d, (List.getElem?_set_ne hij).trans hd, hkey, hstage, hnext'⟩
    · exact absurd (hnone.symm.trans hget) (by simp)
  free key hget := by
    rw [List.length_set]
    rcases hupdate.locks key with hsame | ⟨rfl, hown, _, hfinished⟩
    · exact hupdate.allBefore (h.free key (hsame ▸ hget))
    · obtain ⟨e, he, _, _, hnext⟩ := h.held c.key i hown
      have hbefore := (hupdate.mayStart h (by rw [hfinished]; decide)).1
      intro j d hj hd hkey
      rcases set_cases hd with ⟨rfl, rfl⟩ | ⟨hne, hd⟩
      · exact hfinished
      · rcases Nat.lt_or_gt_of_ne hne with hji | hij
        · exact hbefore j d hji hd hkey
        · exact absurd hkey (hnext j d hij hj hd)
  unlinked j d hd hprevious := by
    obtain ⟨d₀, hd₀, hlater⟩ := hupdate.call hd
    exact hlater.key ▸ hupdate.allBefore (h.unlinked j d₀ hd₀ (hlater.previous ▸ hprevious))
  linked j d k hd hprevious := by
    obtain ⟨d₀, hd₀, hlater⟩ := hupdate.call hd
    obtain ⟨hlt, hnext, e₀, he₀, hkey⟩ := h.linked j d₀ k hd₀ (hlater.previous ▸ hprevious)
    obtain ⟨e, he, hlater'⟩ := hupdate.call_after he₀
    exact ⟨hlt, hlater.key ▸ hupdate.next hnext, e, he, hlater'.key.trans (hkey.trans hlater.key.symm)⟩
  started j d hd hstage := by
    rcases set_cases hd with ⟨rfl, rfl⟩ | ⟨_, hd'⟩
    · have hready := hupdate.mayStart h hstage
      exact ⟨hupdate.later.key ▸ hupdate.allBefore hready.1, hupdate.previousResolved hupdate.later.previous hready.2⟩
    · obtain ⟨hbefore, hready⟩ := h.started j d hd' hstage
      exact ⟨hupdate.allBefore hbefore, hupdate.previousResolved rfl hready⟩
  tails j d hd htail := by
    rcases set_cases hd with ⟨rfl, rfl⟩ | ⟨_, hd'⟩
    · rcases hupdate.resolved htail with hbefore | hfinished
      · exact hupdate.later.finished (h.tails j c hupdate.found hbefore)
      · exact hfinished
    · exact h.tails j d hd' htail

end Step

section Arrival

variable {key own : String}

theorem calls_withLock : (withLock L own).calls[i]? = some c ↔
    L.calls[i]? = some c ∨ i = L.calls.length ∧ c = ⟨own, L.locks.get own, .waiting, false, .pending⟩ :=
  getElem?_concat_eq_some

theorem lt_calls (h : L.calls[i]? = some c) : i < L.calls.length := (List.getElem?_eq_some_iff.mp h).1

theorem AllBefore.withLock (h : AllBefore L i key) (hi : i ≤ L.calls.length) : AllBefore (withLock L own) i key := by
  intro j d hj hd hkey
  rcases calls_withLock.mp hd with hd | ⟨rfl, _⟩
  · exact h j d hj hd hkey
  · exact absurd hj (Nat.not_lt.mpr hi)

theorem AllBefore.withLock_end (h : AllBefore L L.calls.length key) (hne : own ≠ key) :
    AllBefore (Repository.withLock L own) (L.calls.length + 1) key := by
  intro j d _ hd hkey
  rcases calls_withLock.mp hd with hd | ⟨_, rfl⟩
  · exact h j d (lt_calls hd) hd hkey
  · exact absurd hkey hne

theorem Next.withLock {j : ℕ} (h : Next L j i key) (hi : i ≤ L.calls.length) : Next (withLock L own) j i key := by
  intro k d hjk hki hd
  rcases calls_withLock.mp hd with hd | ⟨rfl, _⟩
  · exact h k d hjk hki hd
  · exact absurd hki (Nat.not_lt.mpr hi)

theorem Next.withLock_end {j : ℕ} (h : Next L j L.calls.length key) (hne : own ≠ key) :
    Next (Repository.withLock L own) j (L.calls.length + 1) key := by
  intro k d hjk _ hd
  rcases calls_withLock.mp hd with hd | ⟨_, rfl⟩
  · exact h k d hjk (lt_calls hd) hd
  · exact hne

theorem previousResolved_withLock (h : previousResolved L c = true) : previousResolved (withLock L own) c = true := by
  unfold previousResolved at h ⊢
  split at h
  · rfl
  · obtain ⟨e, he, htail⟩ := (Option.any_eq_true _ _).mp h
    exact (Option.any_eq_true _ _).mpr ⟨e, calls_withLock.mpr (Or.inl he), htail⟩

/-- The new call awaits the tail of the last call of its key. -/
theorem LockInvariant.withLock (h : LockInvariant L) (own : String) : LockInvariant (withLock L own) where
  held key j hget := by
    have hlength : (Repository.withLock L own).calls.length = L.calls.length + 1 := List.length_append
    rw [hlength]
    have hget' : (if own = key then some L.calls.length else L.locks.get key) = some j := JsMap.get_set L.locks own key L.calls.length ▸ hget
    split_ifs at hget' with hkey
    · obtain rfl := Option.some.inj hget'
      refine ⟨_, calls_withLock.mpr (Or.inr ⟨rfl, rfl⟩), hkey, by simp, fun k _ hlt hle => ?_⟩
      exact absurd hlt (Nat.not_lt.mpr (Nat.lt_succ_iff.mp hle))
    · obtain ⟨d, hd, hdkey, hstage, hnext⟩ := h.held key j hget'
      exact ⟨d, calls_withLock.mpr (Or.inl hd), hdkey, hstage, hnext.withLock_end hkey⟩
  free key hget := by
    have hlength : (Repository.withLock L own).calls.length = L.calls.length + 1 := List.length_append
    rw [hlength]
    have hget' : (if own = key then some L.calls.length else L.locks.get key) = none := JsMap.get_set L.locks own key L.calls.length ▸ hget
    split_ifs at hget' with hkey
    exact (h.free key hget').withLock_end hkey
  unlinked j d hd hprevious := by
    rcases calls_withLock.mp hd with hd | ⟨rfl, rfl⟩
    · exact (h.unlinked j d hd hprevious).withLock (Nat.le_of_lt (lt_calls hd))
    · exact (h.free own hprevious).withLock (Nat.le_refl _)
  linked j d k hd hprevious := by
    rcases calls_withLock.mp hd with hd | ⟨rfl, rfl⟩
    · obtain ⟨hlt, hnext, e, he, hekey⟩ := h.linked j d k hd hprevious
      exact ⟨hlt, hnext.withLock (Nat.le_of_lt (lt_calls hd)), e, calls_withLock.mpr (Or.inl he), hekey⟩
    · obtain ⟨e, he, hekey, _, hnext⟩ := h.held own k hprevious
      exact ⟨lt_calls he, hnext.withLock (Nat.le_refl _), e, calls_withLock.mpr (Or.inl he), hekey⟩
  started j d hd hstage := by
    rcases calls_withLock.mp hd with hd | ⟨rfl, rfl⟩
    · obtain ⟨hbefore, hready⟩ := h.started j d hd hstage
      exact ⟨hbefore.withLock (Nat.le_of_lt (lt_calls hd)), previousResolved_withLock hready⟩
    · exact absurd rfl hstage
  tails j d hd htail := by
    rcases calls_withLock.mp hd with hd | ⟨rfl, rfl⟩
    · exact h.tails j d hd htail
    · exact absurd htail Bool.false_ne_true

end Arrival

theorem lockInvariant_step (L : Locks) (e : LockEvent) (h : LockInvariant L) : LockInvariant (lockStep L e) := by
  rcases lockStep_cases L e with ⟨key, hstep⟩ | hstep | ⟨i, c, c', locks', hupdate, hstep⟩
  · exact hstep ▸ h.withLock key
  · rwa [hstep]
  · exact hstep ▸ h.update hupdate

theorem lockInvariant_new : LockInvariant newLocks where
  held _ _ h := by simp [newLocks] at h
  free _ _ _ _ h := absurd h (Nat.not_lt_zero _)
  unlinked _ _ h := by simp [newLocks] at h
  linked _ _ _ h := by simp [newLocks] at h
  started _ _ h := by simp [newLocks] at h
  tails _ _ h := by simp [newLocks] at h

theorem lockInvariant_after (ls : List LockEvent) : LockInvariant (locksAfter ls) :=
  run_invariant lockInvariant_step ls lockInvariant_new

/-! ### What a state of the queue promises -/

/-- The call may go on after its await. -/
def MayStart (i : ℕ) (L : Locks) : Prop :=
  ∃ c, L.calls[i]? = some c ∧ c.stage = .waiting ∧ previousResolved L c = true

/-- The tail of the call may be resolved. -/
def MaySettle (i : ℕ) (L : Locks) : Prop :=
  ∃ c, L.calls[i]? = some c ∧ c.stage = .finished ∧ previousResolved L c = true ∧ c.tail = false

def Started (i : ℕ) (L : Locks) : Prop := ∃ c, L.calls[i]? = some c ∧ c.stage ≠ .waiting

def Finished (i : ℕ) (L : Locks) : Prop := ∃ c, L.calls[i]? = some c ∧ c.stage = .finished

def Settled (i : ℕ) (L : Locks) : Prop := ∃ c, L.calls[i]? = some c ∧ c.tail = true

structure Mutex (L : Locks) : Prop where
  exclusive : ∀ (i j : ℕ) (c d : LockCall), L.calls[i]? = some c → L.calls[j]? = some d → c.stage = .running →
    d.stage = .running → c.key = d.key → i = j
  /-- An action starts after those of its key that were called before it, which have
  finished then. -/
  ordered : ∀ (i j : ℕ) (c d : LockCall), i < j → L.calls[i]? = some c → L.calls[j]? = some d → c.key = d.key →
    d.stage ≠ .waiting → c.stage = .finished
  /-- A call that may not start waits for the tail of an earlier call of its own key. -/
  waits : ∀ (i : ℕ) (c : LockCall), L.calls[i]? = some c → c.stage = .waiting → ¬MayStart i L →
    ∃ j d, j < i ∧ L.calls[j]? = some d ∧ d.key = c.key ∧ d.tail = false
  cleared : (∀ c ∈ L.calls, c.stage = .finished) → L.locks.entries = []

theorem LockInvariant.ordered (h : LockInvariant L) {j : ℕ} {d : LockCall} (hij : i < j) (hc : L.calls[i]? = some c)
    (hd : L.calls[j]? = some d) (hkey : c.key = d.key) (hstage : d.stage ≠ .waiting) : c.stage = .finished :=
  (h.started j d hd hstage).1 i c hij hc hkey

theorem LockInvariant.mutex (h : LockInvariant L) : Mutex L where
  exclusive i j c d hc hd hcrunning hdrunning hkey := by
    have hnot : ∀ {i j : ℕ} {c d : LockCall}, L.calls[i]? = some c → L.calls[j]? = some d → c.stage = .running →
        d.stage = .running → c.key = d.key → ¬i < j := fun hc hd hcrunning hdrunning hkey hij => by
      have hfinished := h.ordered hij hc hd hkey (by rw [hdrunning]; decide)
      rw [hcrunning] at hfinished
      cases hfinished
    exact Nat.le_antisymm (Nat.not_lt.mp (hnot hd hc hdrunning hcrunning hkey.symm))
      (Nat.not_lt.mp (hnot hc hd hcrunning hdrunning hkey))
  ordered i j c d hij hc hd hkey hstage := h.ordered hij hc hd hkey hstage
  waits i c hc hstage hnot := by
    have hunresolved : previousResolved L c = false := by
      by_contra hresolved
      exact hnot ⟨c, hc, hstage, eq_true_of_ne_false hresolved⟩
    cases hprevious : c.previous with
    | none => simp [previousResolved, hprevious] at hunresolved
    | some j =>
      obtain ⟨hji, _, d, hd, hkey⟩ := h.linked i c j hc hprevious
      refine ⟨j, d, hji, hd, hkey, ?_⟩
      simpa [previousResolved, hprevious, hd] using hunresolved
  cleared hall := by
    cases hentries : L.locks.entries with
    | nil => rfl
    | cons e es =>
      have hget : L.locks.get e.1 = some e.2 := (JsMap.get_eq_some_iff ..).mpr (hentries ▸ List.mem_cons_self)
      obtain ⟨c, hc, _, hstage, _⟩ := h.held e.1 e.2 hget
      exact absurd (hall c (List.mem_of_getElem? hc)) hstage

/-! ### Progress under a fair schedule -/

section Progress

variable {j n : ℕ} {schedule : ℕ → LockEvent}

theorem lockStep_call (e : LockEvent) (hc : L.calls[i]? = some c) :
    ∃ c', (lockStep L e).calls[i]? = some c' ∧ Later c c' := by
  rcases lockStep_cases L e with ⟨key, hstep⟩ | hstep | ⟨j, d, d', locks', hupdate, hstep⟩
  · exact ⟨c, hstep ▸ calls_withLock.mpr (Or.inl hc), rfl, rfl, id, id, id⟩
  · exact ⟨c, (congrArg (fun L' : Locks => L'.calls[i]?) hstep).trans hc, rfl, rfl, id, id, id⟩
  · exact hstep ▸ hupdate.call_after hc

/-- A resolved promise stays resolved. -/
def Ready (i : ℕ) (L : Locks) : Prop := ∃ c, L.calls[i]? = some c ∧ previousResolved L c = true

theorem lockStep_ready (L : Locks) (e : LockEvent) (h : Ready i L) : Ready i (lockStep L e) := by
  obtain ⟨c, hc, hready⟩ := h
  rcases lockStep_cases L e with ⟨key, hstep⟩ | hstep | ⟨j, d, d', locks', hupdate, hstep⟩
  · exact hstep ▸ ⟨c, calls_withLock.mpr (Or.inl hc), previousResolved_withLock hready⟩
  · rw [hstep]
    exact ⟨c, hc, hready⟩
  · obtain ⟨c', hc', hlater⟩ := hupdate.call_after hc
    exact hstep ▸ ⟨c', hc', hupdate.previousResolved hlater.previous hready⟩

theorem lockStep_previous {p : Option ℕ} (L : Locks) (e : LockEvent) (h : ∃ c, L.calls[i]? = some c ∧ c.previous = p) :
    ∃ c, (lockStep L e).calls[i]? = some c ∧ c.previous = p := by
  obtain ⟨c, hc, hprevious⟩ := h
  obtain ⟨c', hc', hlater⟩ := lockStep_call e hc
  exact ⟨c', hc', hlater.previous.trans hprevious⟩

theorem lockStep_finished (L : Locks) (e : LockEvent) (h : Finished i L) : Finished i (lockStep L e) := by
  obtain ⟨c, hc, hfinished⟩ := h
  obtain ⟨c', hc', hlater⟩ := lockStep_call e hc
  exact ⟨c', hc', hlater.finished hfinished⟩

theorem eventually_started (hfair : Fair lockStep newLocks schedule (MayStart i) (.start i))
    (hready : Ready i (stateAt lockStep newLocks schedule n)) :
    ∃ m, n ≤ m ∧ Started i (stateAt lockStep newLocks schedule m) := by
  refine hfair.eventually (fun m hm hnot => ?_) fun m _ henabled => ?_
  · obtain ⟨c, hc, hresolved⟩ := stateAt_persists lockStep_ready hm hready
    refine ⟨c, hc, ?_, hresolved⟩
    by_contra hstage
    exact hnot ⟨c, hc, hstage⟩
  · obtain ⟨c, hc, hstage, hresolved⟩ := henabled
    refine ⟨{ c with stage := .running }, ?_, by simp⟩
    rw [lockStep, start, hc]
    simp only [hstage, hresolved, and_self, if_true]
    exact List.getElem?_set_self (lt_calls hc)

/-- The tail of a call that has finished is resolved. -/
theorem eventually_settled (hfair : Fair lockStep newLocks schedule (MaySettle j) (.settleTail j))
    (hfinished : Finished j (stateAt lockStep newLocks schedule n)) :
    ∃ m, n ≤ m ∧ Settled j (stateAt lockStep newLocks schedule m) := by
  have hinvariant := @stateAt_invariant _ _ lockStep newLocks schedule _ lockInvariant_step lockInvariant_new
  refine hfair.eventually (fun m hm hnot => ?_) fun m _ henabled => ?_
  · obtain ⟨d, hd, hstage⟩ := stateAt_persists lockStep_finished hm hfinished
    refine ⟨d, hd, hstage, ((hinvariant m).started j d hd (by rw [hstage]; decide)).2, ?_⟩
    by_contra htail
    exact hnot ⟨d, hd, eq_true_of_ne_false htail⟩
  · obtain ⟨d, hd, hstage, hresolved, _⟩ := henabled
    refine ⟨{ d with tail := true }, ?_, rfl⟩
    rw [lockStep, settleTail, hd]
    simp only [hstage, hresolved, and_self, if_true]
    exact List.getElem?_set_self (lt_calls hd)

end Progress

/-- **`withLock` is a fair mutex**, in every run; and where the job queue runs every
job that stays ready, a call starts once those of its key before it have finished,
whatever becomes of the others. -/
theorem withLock_fair_mutex : (∀ ls, Mutex (locksAfter ls)) ∧
    ∀ schedule : ℕ → LockEvent, (∀ i, Fair lockStep newLocks schedule (MayStart i) (.start i)) →
      (∀ i, Fair lockStep newLocks schedule (MaySettle i) (.settleTail i)) →
      ∀ (n i : ℕ) (c : LockCall), (stateAt lockStep newLocks schedule n).calls[i]? = some c →
        (∀ (j : ℕ) (d : LockCall), j < i → (stateAt lockStep newLocks schedule n).calls[j]? = some d → d.key = c.key →
          ∃ m, Finished j (stateAt lockStep newLocks schedule m)) →
        ∃ m, n ≤ m ∧ Started i (stateAt lockStep newLocks schedule m) := by
  refine ⟨fun ls => (lockInvariant_after ls).mutex, fun schedule hstart hsettle n i c hc hfinish => ?_⟩
  have hinvariant := @stateAt_invariant _ _ lockStep newLocks schedule _ lockInvariant_step lockInvariant_new
  cases hprevious : c.previous with
  | none => exact eventually_started (hstart i) ⟨c, hc, by rw [previousResolved, hprevious]⟩
  | some j =>
    obtain ⟨hji, _, d, hd, hkey⟩ := (hinvariant n).linked i c j hc hprevious
    obtain ⟨m, hfinished⟩ := hfinish j d hji hd hkey
    obtain ⟨k, hk, e, he, htail⟩ := eventually_settled (hsettle j)
      (stateAt_persists lockStep_finished (Nat.le_max_left m n) hfinished)
    have hnk : n ≤ k := Nat.le_trans (Nat.le_max_right m n) hk
    obtain ⟨c', hc', hprevious'⟩ := stateAt_persists lockStep_previous hnk ⟨c, hc, hprevious⟩
    have hready : Ready i (stateAt lockStep newLocks schedule k) :=
      ⟨c', hc', by simp [previousResolved, hprevious', he, htail]⟩
    obtain ⟨l, hl, hstarted⟩ := eventually_started (hstart i) hready
    exact ⟨l, by omega, hstarted⟩

/-! Two promotions of one key: the first outlives its caller and rejects. -/

def twoPromotions (n : ℕ) : LockEvent :=
  [.call "key", .call "key", .start 0, .timeout 0, .finish 0 true, .settleTail 0, .start 1, .finish 1 false,
    LockEvent.settleTail 1].getD n (.timeout 1)

def promoted : List LockCall :=
  [⟨"key", none, .finished, true, .timedOut⟩, ⟨"key", some 0, .finished, true, .settled false⟩]

theorem twoPromotions_end {m : ℕ} (hm : 9 ≤ m) : (stateAt lockStep newLocks twoPromotions m).calls = promoted := by
  induction hm with
  | refl => decide +kernel
  | step hm ih =>
    rename_i m
    have hidle : twoPromotions m = .timeout 1 := by
      rw [twoPromotions, List.getD_eq_getElem?_getD, List.getElem?_eq_none hm]
      rfl
    rw [stateAt, hidle, lockStep, timeout, ih]
    exact ih

theorem twoPromotions_fair {enabled : Locks → Prop} {e : LockEvent}
    (hidle : ∀ L : Locks, L.calls = promoted → ¬enabled L) : Fair lockStep newLocks twoPromotions enabled e := fun n henabled =>
  absurd (henabled (max n 9) (Nat.le_max_left _ _)) (hidle _ (twoPromotions_end (Nat.le_max_right _ _)))

/-- The second action starts. -/
theorem second_promotion_starts : ∃ m, 2 ≤ m ∧ Started 1 (stateAt lockStep newLocks twoPromotions m) := by
  have hdone : ∀ c ∈ promoted, c.stage = .finished ∧ c.tail = true := by decide
  refine withLock_fair_mutex.2 twoPromotions (fun i => twoPromotions_fair fun L hL => ?_)
    (fun i => twoPromotions_fair fun L hL => ?_) 2 1 ⟨"key", some 0, .waiting, false, .pending⟩ (by decide +kernel)
    fun j d hj hd _ => ⟨9, ?_⟩
  · rintro ⟨c, hc, hstage, _⟩
    have := (hdone c (hL ▸ List.mem_of_getElem? hc)).1
    rw [hstage] at this
    cases this
  · rintro ⟨c, hc, _, _, htail⟩
    have := (hdone c (hL ▸ List.mem_of_getElem? hc)).2
    rw [htail] at this
    cases this
  · obtain rfl : j = 0 := by omega
    exact ⟨⟨"key", none, .finished, true, .timedOut⟩, by rw [twoPromotions_end (Nat.le_refl 9)]; rfl, rfl⟩

end Repository
end Evllm
