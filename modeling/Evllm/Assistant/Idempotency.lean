/-
# An idempotency key is held by one execution

`answer` keeps the promise of an execution under its key, hands it to every later
call with the same fingerprint, and the call that started it drops it again when
it has failed. In every run, the execution that is in flight or has succeeded
under a key is the one that the map holds (`Occupied`). So there is at most one;
a call that repeats its query joins it, and a call with another query is refused;
and a key that a failed execution holds is freed by a call that still waits for it
(`answer_idempotent`).

Key definitions: `Execution.key`, `Execution.Live`, `Occupied`, `Idempotent`.
Key theorems: `Occupied.started`, `Occupied.resume`, `answer_joins`,
`answer_idempotent`.
-/
import Evllm.Assistant.Binding

namespace Evllm
namespace Assistant

open Lib

variable {ι : Type} {C : Config ι} {E : Environment ι} {S : Service ι} {query : Query} {session : ActorSession}

/-! ### What holds a key -/

/-- The key under which an execution is kept: its actor, organization, credential
and idempotency key. -/
def Execution.key (e : Execution ι) : Option String := e.query.idempotencyKey.map (idempotencyMapKey e.session)

/-- An execution that is in flight or has succeeded. -/
def Execution.Live (e : Execution ι) : Prop := ∀ E f, e.settled ≠ some (E, .error f)

theorem not_live {e : Execution ι} : ¬e.Live ↔ ∃ E f, e.settled = some (E, .error f) := by
  simp [Execution.Live]

/-- A call that started the execution `p` and kept it under `key`. -/
structure Originates (call : Call) (key : String) (p : ℕ) : Prop where
  keptUnder : call.keptUnder = some key
  awaits : call.awaits = some p

/-- The invariant of the map of kept answers. -/
structure Occupied (C : Config ι) (S : Service ι) : Prop where
  kept : ∀ key entry, S.idempotentAnswers.get key = some entry → ∃ e, S.executions[entry.execution]? = some e ∧
    e.key = some key ∧ C.fingerprint (fingerprintInput e.query e.session) = .ok entry.fingerprint
  live : ∀ p e key, S.executions[p]? = some e → e.key = some key → e.Live →
    ∃ entry, S.idempotentAnswers.get key = some entry ∧ entry.execution = p
  waiting : ∀ key entry e, S.idempotentAnswers.get key = some entry → S.executions[entry.execution]? = some e →
    (∀ E r, e.settled ≠ some (E, .ok r)) →
    ∃ (c : ℕ) (call : Call), S.calls[c]? = some call ∧ Originates call key entry.execution ∧ call.returned = none
  awaits : ∀ call ∈ S.calls, ∀ p, call.awaits = some p → ∃ e, S.executions[p]? = some e
  returned : ∀ call ∈ S.calls, ∀ r p, call.returned = some r → call.awaits = some p →
    ∃ e E, S.executions[p]? = some e ∧ e.settled = some (E, r)

/-! ### Calls -/

theorem getElem?_concat_of_some {α : Type} {xs : List α} {i : ℕ} {x : α} (h : xs[i]? = some x) (y : α) :
    (xs ++ [y])[i]? = some x := by
  rw [List.getElem?_append_left (List.getElem?_eq_some_iff.mp h).1, h]

/-- A call that is refused, or joins an execution. -/
theorem Occupied.addCall {call : Call} (h : Occupied C S)
    (hcall : ∀ p, call.awaits = some p → call.returned = none ∧ ∃ e, S.executions[p]? = some e) :
    Occupied C { S with calls := S.calls ++ [call] } where
  kept := h.kept
  live := h.live
  waiting key entry e hget he hnot := by
    obtain ⟨c, other, hc, horiginates, hreturned⟩ := h.waiting key entry e hget he hnot
    exact ⟨c, other, getElem?_concat_of_some hc call, horiginates, hreturned⟩
  awaits other hother p hp := by
    obtain hold | hnew := List.mem_append.mp hother
    · exact h.awaits other hold p hp
    · rw [List.mem_singleton.mp hnew] at hp
      exact (hcall p hp).2
  returned other hother r p hr hp := by
    obtain hold | hnew := List.mem_append.mp hother
    · exact h.returned other hold r p hr hp
    · rw [List.mem_singleton.mp hnew] at hr hp
      rw [(hcall p hp).1] at hr
      cases hr

/-- An execution that is started under a free key, or under none. -/
theorem Occupied.started (h : Occupied C S) {correlationId : String} {kept : JsMap String KeptAnswer}
    {keptUnder : Option String} (hunder : keptUnder = query.idempotencyKey.map (idempotencyMapKey session))
    (hold : ∀ key entry, S.idempotentAnswers.get key = some entry → kept.get key = some entry)
    (hnew : ∀ key entry, kept.get key = some entry → S.idempotentAnswers.get key = some entry ∨
      entry.execution = S.executions.length ∧ keptUnder = some key ∧
        C.fingerprint (fingerprintInput query session) = .ok entry.fingerprint)
    (hheld : ∀ key, keptUnder = some key →
      ∃ entry, kept.get key = some entry ∧ entry.execution = S.executions.length) :
    Occupied C { startExecution S query session correlationId keptUnder with idempotentAnswers := kept } := by
  have hlast : (S.executions ++ [⟨query, session, correlationId, none⟩])[S.executions.length]? =
      some ⟨query, session, correlationId, none⟩ := by simp
  refine ⟨fun key entry hget => ?_, fun p e key he hkey hlive => ?_, fun key entry e hget he hnot => ?_,
    fun call hcall p hp => ?_, fun call hcall r p hr hp => ?_⟩
  · obtain hget | ⟨hlength, hkey, hfingerprint⟩ := hnew key entry hget
    · obtain ⟨e, he, hkey, hfingerprint⟩ := h.kept key entry hget
      exact ⟨e, getElem?_concat_of_some he _, hkey, hfingerprint⟩
    · exact ⟨⟨query, session, correlationId, none⟩, by rw [hlength]; exact hlast, hunder.symm.trans hkey, hfingerprint⟩
  · by_cases hp : p < S.executions.length
    · have he' : S.executions[p]? = some e := by
        rw [← he]
        exact (List.getElem?_append_left hp).symm
      obtain ⟨entry, hget, hentry⟩ := h.live p e key he' hkey hlive
      exact ⟨entry, hold key entry hget, hentry⟩
    · have hlength : p = S.executions.length := by
        have hbound := (List.getElem?_eq_some_iff.mp he).1
        simp only [startExecution, List.length_append, List.length_singleton] at hbound
        omega
      subst hlength
      obtain rfl := Option.some.inj (hlast.symm.trans he)
      exact hheld key (hunder.trans hkey)
  · obtain hget | ⟨hlength, hkey, -⟩ := hnew key entry hget
    · obtain ⟨e', he', -, -⟩ := h.kept key entry hget
      obtain rfl := Option.some.inj ((getElem?_concat_of_some he' _).symm.trans he)
      obtain ⟨c, other, hc, horiginates, hreturned⟩ := h.waiting key entry _ hget he' hnot
      exact ⟨c, other, getElem?_concat_of_some hc _, horiginates, hreturned⟩
    · -- the new call waits for the new execution
      refine ⟨S.calls.length, ⟨query, session, some S.executions.length, keptUnder, none⟩, ?_, ⟨hkey, ?_⟩, rfl⟩
      · simp [startExecution]
      · rw [hlength]
  · obtain hold | hnew := List.mem_append.mp hcall
    · obtain ⟨e, he⟩ := h.awaits call hold p hp
      exact ⟨e, getElem?_concat_of_some he _⟩
    · rw [List.mem_singleton.mp hnew] at hp
      obtain rfl := Option.some.inj hp
      exact ⟨_, hlast⟩
  · obtain hold | hnew := List.mem_append.mp hcall
    · obtain ⟨e, E, he, hsettled⟩ := h.returned call hold r p hr hp
      exact ⟨e, E, getElem?_concat_of_some he _, hsettled⟩
    · rw [List.mem_singleton.mp hnew] at hr
      cases hr

theorem Occupied.answer (h : Occupied C S) (query : Query) (session : ActorSession) (correlationId : String) :
    Occupied C (answer C S query session correlationId) := by
  unfold Assistant.answer
  split
  next hnone =>
    exact h.started (by rw [hnone]; rfl) (fun _ _ hget => hget) (fun _ _ hget => Or.inl hget) fun _ hkey => by cases hkey
  next idempotencyKey hkey =>
    split
    · exact h.addCall (by simp)
    next fingerprint hfingerprint =>
      unfold answerKept
      split
      next existing hget =>
        split_ifs
        · exact h.addCall (by simp)
        · obtain ⟨e, he, -, -⟩ := h.kept _ existing hget
          refine h.addCall fun p hp => ⟨rfl, e, ?_⟩
          obtain rfl := Option.some.inj hp
          exact he
      next hfree =>
        have hmapKey : query.idempotencyKey.map (idempotencyMapKey session) =
            some (idempotencyMapKey session idempotencyKey) := by rw [hkey]; rfl
        refine h.started hmapKey.symm (fun key entry hget => ?_) (fun key entry hget => ?_) fun key hkey' => ?_
        · have hne : key ≠ idempotencyMapKey session idempotencyKey := by
            rintro rfl
            rw [hfree] at hget
            cases hget
          rw [JsMap.get_set, if_neg hne.symm]
          exact hget
        · rw [JsMap.get_set] at hget
          split_ifs at hget with heq
          · obtain rfl := Option.some.inj hget
            exact Or.inr ⟨rfl, by rw [heq], hfingerprint⟩
          · exact Or.inl hget
        · obtain rfl := Option.some.inj hkey'
          exact ⟨_, by rw [JsMap.get_set, if_pos rfl], rfl⟩

/-! ### Executions that settle, and calls that resume -/

theorem Occupied.settle (h : Occupied C S) (p : ℕ) : Occupied C (settle C E S p) := by
  unfold Assistant.settle
  split
  next pending session correlationId hp =>
    have hgrows : Grows S.executions (S.executions.set p ⟨pending, session, correlationId,
        some (E, (answerOnce C E S.records pending session correlationId).1)⟩) := grows_set hp rfl
    -- an execution was there before, with no other outcome
    have hbefore : ∀ {q : ℕ} {e : Execution ι}, (S.executions.set p ⟨pending, session, correlationId,
        some (E, (answerOnce C E S.records pending session correlationId).1)⟩)[q]? = some e →
        ∃ e', S.executions[q]? = some e' ∧ e'.key = e.key ∧ ∀ x, e'.settled = some x → e.settled = some x := by
      intro q e he
      by_cases hpq : p = q
      · subst hpq
        rw [List.getElem?_set_self (List.getElem?_eq_some_iff.mp hp).1] at he
        obtain rfl := Option.some.inj he
        exact ⟨_, hp, rfl, fun _ hx => (nomatch hx)⟩
      · rw [List.getElem?_set_ne hpq] at he
        exact ⟨e, he, rfl, fun _ hx => hx⟩
    refine ⟨fun key entry hget => ?_, fun q e key he hkey hlive => ?_, fun key entry e hget he hnot => ?_,
      fun call hcall q hq => ?_, fun call hcall r q hr hq => ?_⟩
    · obtain ⟨e, he, hkey, hfingerprint⟩ := h.kept key entry hget
      obtain ⟨e', he', hquery, hsession, -⟩ := hgrows _ e he
      exact ⟨e', he', by rw [Execution.key, hquery, hsession]; exact hkey, by rw [hquery, hsession]; exact hfingerprint⟩
    · obtain ⟨e', he', hkey', hsettled⟩ := hbefore he
      exact h.live q e' key he' (hkey'.trans hkey) fun E f hf => hlive E f (hsettled _ hf)
    · obtain ⟨e', he', -, hsettled⟩ := hbefore he
      exact h.waiting key entry e' hget he' fun E r hr => hnot E r (hsettled _ hr)
    · obtain ⟨e, he⟩ := h.awaits call hcall q hq
      obtain ⟨e', he', -⟩ := hgrows q e he
      exact ⟨e', he'⟩
    · obtain ⟨e, E', he, hsettled⟩ := h.returned call hcall r q hr hq
      obtain ⟨e', he', -, -, hkeep⟩ := hgrows q e he
      exact ⟨e', E', he', hkeep _ hsettled⟩
  · exact h

/-- A failure frees the key that its call holds, and no other. -/
theorem dropFailed_cases (S : Service ι) (call : Call) (p : ℕ) (result : Except Failure Response) (key : String) :
    (dropFailed S call p result).get key = S.idempotentAnswers.get key ∧
        (∀ f, result = .error f → call.keptUnder = some key →
          ∀ entry, S.idempotentAnswers.get key = some entry → entry.execution ≠ p) ∨
      (dropFailed S call p result).get key = none ∧ (∃ f, result = .error f) ∧
        ∃ entry, S.idempotentAnswers.get key = some entry ∧ entry.execution = p := by
  unfold dropFailed
  cases result with
  | ok r => exact Or.inl ⟨rfl, fun f hf => (nomatch hf)⟩
  | error f =>
    cases hunder : call.keptUnder with
    | none => exact Or.inl ⟨rfl, fun _ _ hkey => (nomatch hkey)⟩
    | some under =>
      dsimp only
      split_ifs with hheld
      · rw [JsMap.get_delete]
        split_ifs with hkey
        · subst hkey
          cases hget : S.idempotentAnswers.get under with
          | none => simp [hget] at hheld
          | some entry =>
            rw [hget] at hheld
            exact Or.inr ⟨rfl, ⟨f, rfl⟩, entry, rfl, of_decide_eq_true hheld⟩
        · exact Or.inl ⟨rfl, fun _ _ heq => absurd (Option.some.inj heq) hkey⟩
      · refine Or.inl ⟨rfl, fun _ _ heq entry hget hentry => hheld ?_⟩
        obtain rfl := Option.some.inj heq
        rw [hget]
        exact decide_eq_true hentry

/-- What a call that resumes does. -/
theorem resume_cases (S : Service ι) (c : ℕ) :
    Assistant.resume S c = S ∨ ∃ call p e E result, S.calls[c]? = some call ∧ call.returned = none ∧ call.awaits = some p ∧
      S.executions[p]? = some e ∧ e.settled = some (E, result) ∧
      Assistant.resume S c =
        { S with
          idempotentAnswers := dropFailed S call p result
          calls := S.calls.set c { call with returned := some result } } := by
  unfold Assistant.resume
  split
  · exact Or.inl rfl
  next call hcall =>
    split
    next p result hreturned hawaited =>
      obtain ⟨e, E, hawaits, he, hsettled⟩ := awaited_eq_some hawaited
      exact Or.inr ⟨call, p, e, E, result, hcall, hreturned, hawaits, he, hsettled, rfl⟩
    · exact Or.inl rfl

theorem Occupied.resume (h : Occupied C S) (c : ℕ) : Occupied C (resume S c) := by
  obtain heq | ⟨call, p, e, E, result, hcall, hreturned, hawaits, he, hsettled, heq⟩ := resume_cases S c
  · rw [heq]
    exact h
  rw [heq]
  have hlt : c < S.calls.length := (List.getElem?_eq_some_iff.mp hcall).1
  refine ⟨fun key entry hget => h.kept key entry (dropFailed_get hget), fun q e' key he' hkey hlive => ?_,
    fun key entry e' hget he' hnot => ?_, fun other hother q hq => ?_, fun other hother r q hr hq => ?_⟩
  · obtain ⟨entry, hget, hentry⟩ := h.live q e' key he' hkey hlive
    refine ⟨entry, ?_, hentry⟩
    obtain ⟨hsame, -⟩ | ⟨-, ⟨f, rfl⟩, entry', hget', hentry'⟩ := dropFailed_cases S call p result key
    · exact hsame.trans hget
    · -- the entry that is dropped is not of a live execution
      obtain rfl := Option.some.inj (hget.symm.trans hget')
      obtain rfl : q = p := hentry.symm.trans hentry'
      obtain rfl := Option.some.inj (he.symm.trans he')
      exact absurd hsettled (hlive E f)
  · have hget' := dropFailed_get hget
    obtain ⟨c', other, hc', horiginates, hpending⟩ := h.waiting key entry e' hget' he' hnot
    refine ⟨c', other, ?_, horiginates, hpending⟩
    have hne : c ≠ c' := by
      rintro rfl
      -- the call that resumes would have dropped the entry
      obtain rfl := Option.some.inj (hcall.symm.trans hc')
      obtain rfl := Option.some.inj (hawaits.symm.trans horiginates.awaits)
      obtain rfl := Option.some.inj (he.symm.trans he')
      obtain ⟨-, hkept⟩ | ⟨hnone, -, -⟩ := dropFailed_cases S call entry.execution result key
      · cases result with
        | ok r => exact hnot E r hsettled
        | error f => exact hkept f rfl horiginates.keptUnder entry hget' rfl
      · have hdropped : (dropFailed S call entry.execution result).get key = some entry := hget
        rw [hnone] at hdropped
        cases hdropped
    have hset : (S.calls.set c { call with returned := some result })[c']? = some other := by
      rw [List.getElem?_set_ne hne]
      exact hc'
    exact hset
  · obtain hold | rfl := List.mem_or_eq_of_mem_set hother
    · exact h.awaits other hold q hq
    · exact h.awaits call (List.mem_of_getElem? hcall) q hq
  · obtain hold | rfl := List.mem_or_eq_of_mem_set hother
    · exact h.returned other hold r q hr hq
    · obtain rfl := Option.some.inj (hawaits.symm.trans hq)
      obtain rfl := Option.some.inj hr
      exact ⟨e, E, he, hsettled⟩

/-- **In every run the live executions are held.** -/
theorem after_occupied (C : Config ι) (ls : List (Event ι)) : Occupied C (after C ls) := by
  refine run_invariant (I := Occupied C) (fun S l h => ?_) ls ⟨fun _ _ hget => ?_, fun _ _ _ he => ?_, fun _ _ _ hget => ?_,
    fun _ hcall => ?_, fun _ hcall => ?_⟩
  · cases l with
    | answer query session correlationId => exact h.answer query session correlationId
    | settle p environment => exact h.settle p
    | resume c => exact h.resume c
  · simp [newService] at hget
  · simp [newService] at he
  · simp [newService] at hget
  · simp [newService] at hcall
  · simp [newService] at hcall

/-! ### The calls of a run -/

/-- A call is only ever answered. -/
def CallsGrow (S S' : Service ι) : Prop :=
  ∀ (c : ℕ) (call : Call), S.calls[c]? = some call → ∃ call', S'.calls[c]? = some call' ∧ call'.awaits = call.awaits ∧
    ∀ r, call.returned = some r → call'.returned = some r

theorem callsGrow_append (S : Service ι) (call : Call) (S' : Service ι) (h : S'.calls = S.calls ++ [call]) :
    CallsGrow S S' := fun _ other hother =>
  ⟨other, by rw [h]; exact getElem?_concat_of_some hother call, rfl, fun _ hr => hr⟩

theorem step_callsGrow (S : Service ι) (l : Event ι) : CallsGrow S (step C S l) := by
  have hsame : CallsGrow S S := fun _ call hcall => ⟨call, hcall, rfl, fun _ hr => hr⟩
  cases l with
  | answer query session correlationId =>
    have hnew : ∃ call, (answer C S query session correlationId).calls = S.calls ++ [call] := by
      unfold answer answerKept
      repeat' split
      all_goals exact ⟨_, rfl⟩
    obtain ⟨call, hcalls⟩ := hnew
    exact callsGrow_append S call _ hcalls
  | settle p environment =>
    show CallsGrow S (settle C environment S p)
    unfold settle
    split
    · exact hsame
    · exact hsame
  | resume c =>
    show CallsGrow S (resume S c)
    obtain heq | ⟨call, p, e, E, result, hcall, hreturned, -, -, -, heq⟩ := resume_cases S c
    · rw [heq]
      exact hsame
    · rw [heq]
      intro c' other hother
      by_cases hc : c = c'
      · subst hc
        obtain rfl := Option.some.inj (hcall.symm.trans hother)
        refine ⟨{ call with returned := some result }, ?_, rfl, fun r hr => ?_⟩
        · exact List.getElem?_set_self (List.getElem?_eq_some_iff.mp hcall).1
        · rw [hreturned] at hr
          cases hr
      · exact ⟨other, by rw [← hother]; exact List.getElem?_set_ne hc, rfl, fun _ hr => hr⟩

theorem run_callsGrow (ls : List (Event ι)) (S : Service ι) : CallsGrow S (run (step C) S ls) := by
  refine run_related (I := fun _ => True) (R := CallsGrow) (fun _ _ call hcall => ⟨call, hcall, rfl, fun _ hr => hr⟩)
    (fun _ _ _ h h' c call hcall => ?_) (fun _ _ _ => trivial) (fun S l _ => step_callsGrow S l) ls trivial
  obtain ⟨call', hcall', hawaits, hkeep⟩ := h c call hcall
  obtain ⟨call'', hcall'', hawaits', hkeep'⟩ := h' c call' hcall'
  exact ⟨call'', hcall'', hawaits'.trans hawaits, fun r hr => hkeep' r (hkeep r hr)⟩

/-! ### Calls with a key -/

/-- A call that repeats the query of a live execution joins it. -/
theorem answer_joins (h : Occupied C S) {p : ℕ} {e : Execution ι} (he : S.executions[p]? = some e) (hlive : e.Live)
    (hkey : query.idempotencyKey ≠ none)
    (hsame : fingerprintInput e.query e.session = fingerprintInput query session) (correlationId : String) :
    answer C S query session correlationId = joinExecution S query session p := by
  have hquery : e.query = query := congrArg FingerprintInput.query hsame
  obtain ⟨idempotencyKey, hidempotency⟩ := Option.ne_none_iff_exists'.mp hkey
  have hmapKey : idempotencyMapKey e.session idempotencyKey = idempotencyMapKey session idempotencyKey := by
    have hactor : e.session.actorId = session.actorId := congrArg FingerprintInput.actorId hsame
    have horganization : e.session.organizationId = session.organizationId :=
      congrArg FingerprintInput.organizationId hsame
    have hcredential : e.session.credentialId = session.credentialId := congrArg FingerprintInput.credentialId hsame
    simp only [idempotencyMapKey, hactor, horganization, hcredential]
  have hekey : e.key = some (idempotencyMapKey session idempotencyKey) := by
    rw [Execution.key, hquery, hidempotency, ← hmapKey]
    rfl
  obtain ⟨entry, hget, rfl⟩ := h.live p e _ he hekey hlive
  obtain ⟨e', he', -, hfingerprint⟩ := h.kept _ entry hget
  obtain rfl := Option.some.inj (he.symm.trans he')
  rw [hsame] at hfingerprint
  simp only [answer, hidempotency, hfingerprint, answerKept, hget, ne_eq, not_true_eq_false, if_false]

/-- A call with another query under a held key runs nothing. -/
theorem answer_refuses {requests : List FingerprintInput} (hfree : CollisionFree C requests) (h : Faithful C requests S)
    {idempotencyKey : String} (hkey : query.idempotencyKey = some idempotencyKey)
    (hmem : fingerprintInput query session ∈ requests) {entry : KeptAnswer}
    (hget : S.idempotentAnswers.get (idempotencyMapKey session idempotencyKey) = some entry)
    (hother : ∀ e : Execution ι, S.executions[entry.execution]? = some e →
      fingerprintInput e.query e.session ≠ fingerprintInput query session) (correlationId : String) :
    ∃ f, answer C S query session correlationId = refuseCall S query session f ∧
      (f = .idempotency "Idempotency key was reused for another request" ∨
        C.fingerprint (fingerprintInput query session) = .error f) := by
  unfold answer
  rw [hkey]
  dsimp only
  cases hfingerprint : C.fingerprint (fingerprintInput query session) with
  | error f => exact ⟨f, rfl, Or.inr rfl⟩
  | ok fingerprint =>
    refine ⟨.idempotency "Idempotency key was reused for another request", ?_, Or.inl rfl⟩
    obtain ⟨e, he, hemem, hefingerprint⟩ := h.keeps _ entry hget
    have hne : entry.fingerprint ≠ fingerprint := by
      rintro rfl
      exact hother e he (hfree _ hemem _ hmem _ hefingerprint hfingerprint)
    simp only [answerKept, hget, if_pos hne]

/-- A call that still waits for what failed frees its key. -/
theorem waiting_frees (h : Occupied C S) {key : String} {entry : KeptAnswer} {e : Execution ι}
    (hget : S.idempotentAnswers.get key = some entry) (he : S.executions[entry.execution]? = some e) (hfailed : ¬e.Live) :
    ∃ (c : ℕ) (call : Call), S.calls[c]? = some call ∧ call.awaits = some entry.execution ∧ call.returned = none ∧
      (resume S c).idempotentAnswers.get key = none := by
  obtain ⟨E, f, hsettled⟩ := not_live.mp hfailed
  have hnot : ∀ E' r, e.settled ≠ some (E', .ok r) := by simp [hsettled]
  obtain ⟨c, call, hcall, horiginates, hreturned⟩ := h.waiting key entry e hget he hnot
  refine ⟨c, call, hcall, horiginates.awaits, hreturned, ?_⟩
  have hawaited : awaited S call = some (entry.execution, .error f) := by
    simp [awaited, horiginates.awaits, he, hsettled]
  have hheld : (S.idempotentAnswers.get key).any (·.execution = entry.execution) = true := by
    rw [hget]
    exact decide_eq_true rfl
  simp only [resume, hcall, hreturned, hawaited, dropFailed, horiginates.keptUnder, if_pos hheld]
  rw [JsMap.get_delete, if_pos rfl]

/-- A call whose execution has settled can resume, and returns what it awaits. -/
theorem resume_returns {c p : ℕ} {call : Call} {e : Execution ι} {result : Except Failure Response}
    (hcall : S.calls[c]? = some call) (hreturned : call.returned = none) (hawaits : call.awaits = some p)
    (he : S.executions[p]? = some e) (hsettled : e.settled = some (E, result)) :
    (resume S c).calls[c]? = some { call with returned := some result } := by
  have hawaited : awaited S call = some (p, result) := by simp [awaited, hawaits, he, hsettled]
  simp only [resume, hcall, hreturned, hawaited]
  exact List.getElem?_set_self (List.getElem?_eq_some_iff.mp hcall).1

/-! ### Runs -/

/-- What the run `ls` shows of the idempotency keys; `ms` is a beginning of it. -/
structure Idempotent (C : Config ι) (ls : List (Event ι)) : Prop where
  /-- Of the executions under a key at most one is in flight or has succeeded. -/
  one : ∀ (p p' : ℕ) (e e' : Execution ι) key, (after C ls).executions[p]? = some e → (after C ls).executions[p']? = some e' →
    e.key = some key → e'.key = some key → e.Live → e'.Live → p = p'
  /-- A call that repeats the query of an execution that is in flight or has
  succeeded starts nothing and returns what that execution does. -/
  same : ∀ ms query session correlationId rest, ls = ms ++ .answer query session correlationId :: rest →
    query.idempotencyKey ≠ none → ∀ (p : ℕ) (e : Execution ι), (after C ms).executions[p]? = some e → e.Live →
    fingerprintInput e.query e.session = fingerprintInput query session →
    (after C (ms ++ [.answer query session correlationId])).executions = (after C ms).executions ∧
      ∃ call : Call, (after C ls).calls[(after C ms).calls.length]? = some call ∧ call.awaits = some p ∧
        ∀ r, call.returned = some r → ∃ (e' : Execution ι) (E : Environment ι), (after C ls).executions[p]? = some e' ∧ e'.settled = some (E, r)
  /-- A call with another query under a held key fails, with the idempotency
  error unless its fingerprint cannot be computed, and starts nothing. -/
  different : ∀ ms query session correlationId rest, ls = ms ++ .answer query session correlationId :: rest →
    ∀ idempotencyKey entry, query.idempotencyKey = some idempotencyKey →
    (after C ms).idempotentAnswers.get (idempotencyMapKey session idempotencyKey) = some entry →
    (∀ e : Execution ι, (after C ms).executions[entry.execution]? = some e →
      fingerprintInput e.query e.session ≠ fingerprintInput query session) →
    ∃ f, after C (ms ++ [.answer query session correlationId]) = refuseCall (after C ms) query session f ∧
      (f = .idempotency "Idempotency key was reused for another request" ∨
        C.fingerprint (fingerprintInput query session) = .error f)
  /-- A call returns nothing but what the execution that it waits for does, and can
  return as soon as that has settled. -/
  waits : ∀ (c : ℕ) (call : Call) (p : ℕ), (after C ls).calls[c]? = some call → call.awaits = some p →
    ∃ e : Execution ι, (after C ls).executions[p]? = some e ∧
      (∀ r, call.returned = some r → ∃ E, e.settled = some (E, r)) ∧
      ∀ E r, e.settled = some (E, r) → call.returned = none →
        (after C (ls ++ [.resume c])).calls[c]? = some { call with returned := some r }
  /-- While a failed execution holds a key, a call still waits for it that frees the key. -/
  frees : ∀ key entry (e : Execution ι), (after C ls).idempotentAnswers.get key = some entry →
    (after C ls).executions[entry.execution]? = some e → ¬e.Live →
    ∃ (c : ℕ) (call : Call), (after C ls).calls[c]? = some call ∧ call.awaits = some entry.execution ∧ call.returned = none ∧
      (after C (ls ++ [.resume c])).idempotentAnswers.get key = none

theorem after_append (C : Config ι) (ls ms : List (Event ι)) : after C (ls ++ ms) = run (step C) (after C ls) ms :=
  run_append _ _ _ _

/-- **An idempotency key is held by one execution**, in every run whose requests
have distinct fingerprints. -/
theorem answer_idempotent (C : Config ι) (ls : List (Event ι)) (hfree : CollisionFree C (requestsOf ls)) :
    Idempotent C ls where
  one p p' e e' key he he' hkey hkey' hlive hlive' := by
    obtain ⟨entry, hget, hentry⟩ := (after_occupied C ls).live p e key he hkey hlive
    obtain ⟨entry', hget', hentry'⟩ := (after_occupied C ls).live p' e' key he' hkey' hlive'
    obtain rfl := Option.some.inj (hget.symm.trans hget')
    exact hentry.symm.trans hentry'
  same ms query session correlationId rest hls hkey p e he hlive hsame := by
    have hjoins := answer_joins (after_occupied C ms) he hlive hkey hsame correlationId
    have hnext : after C (ms ++ [.answer query session correlationId]) = joinExecution (after C ms) query session p := by
      rw [after_append]
      exact hjoins
    have hnew : (joinExecution (after C ms) query session p).calls[(after C ms).calls.length]? =
        some ⟨query, session, some p, none, none⟩ := by simp [joinExecution]
    have hrun : after C ls = run (step C) (joinExecution (after C ms) query session p) rest := by
      rw [hls, after_append]
      exact congrArg (run (step C) · rest) hjoins
    obtain ⟨call, hcall, hawaits, -⟩ := run_callsGrow (C := C) rest _ _ _ hnew
    rw [← hrun] at hcall
    refine ⟨by rw [hnext]; rfl, call, hcall, hawaits, fun r hr => ?_⟩
    exact (after_occupied C ls).returned call (List.mem_of_getElem? hcall) r p hr hawaits
  different ms query session correlationId rest hls idempotencyKey entry hkey hget hother := by
    have hrequests : requestsOf ls = requestsOf ms ++ fingerprintInput query session :: requestsOf rest := by
      rw [hls, requestsOf_append]
      rfl
    have hfaithful : Faithful C (requestsOf ls) (after C ms) :=
      faithful_run hfree ms (fun a ha => by rw [hrequests]; exact List.mem_append_left _ ha) faithful_newService
    rw [after_append]
    exact answer_refuses hfree hfaithful hkey (by rw [hrequests]; simp) hget hother correlationId
  waits c call p hcall hawaits := by
    have hmem := List.mem_of_getElem? hcall
    obtain ⟨e, he⟩ := (after_occupied C ls).awaits call hmem p hawaits
    refine ⟨e, he, fun r hr => ?_, fun E r hsettled hreturned => ?_⟩
    · obtain ⟨e', E, he', hsettled⟩ := (after_occupied C ls).returned call hmem r p hr hawaits
      obtain rfl := Option.some.inj (he.symm.trans he')
      exact ⟨E, hsettled⟩
    · rw [after_append]
      exact resume_returns hcall hreturned hawaits he hsettled
  frees key entry e hget he hfailed := by
    obtain ⟨c, call, hcall, hawaits, hreturned, hfree⟩ := waiting_frees (after_occupied C ls) hget he hfailed
    refine ⟨c, call, hcall, hawaits, hreturned, ?_⟩
    rw [after_append]
    exact hfree

/-- Two calls that repeat a query are answered by one execution. -/
theorem repeated_query_idempotent :
    Idempotent sampleConfig sampleRun ∧ (after sampleConfig sampleRun).executions.length = 1 ∧
      (after sampleConfig sampleRun).calls.length = 2 ∧
      ∀ call ∈ (after sampleConfig sampleRun).calls, call.awaits = some 0 ∧ (call.returned.any fun r => r.isOk) := by
  refine ⟨answer_idempotent sampleConfig sampleRun ?_, by decide +kernel, by decide +kernel, by decide +kernel⟩
  intro a ha b hb f _ _
  simp only [sampleRun, requestsOf, List.mem_cons, List.not_mem_nil, or_false, or_self] at ha hb
  rw [ha, hb]

end Assistant
end Evllm
