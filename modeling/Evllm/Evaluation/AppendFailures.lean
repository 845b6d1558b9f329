/-
# What a failed append leaves

An append that fails leaves none, a part or all of its line in the file, and
the journal goes on without the event. The next event is chained to the last one
in memory and goes on the same line if no line feed was written. So a fresh
journal reads the file after every step just if every event that reaches the
file is whole, stands on a line of its own, is chained to the last event of the
file and ends an attempt that is open there. A `generate` whose success was not
recorded records a failure; it must not reach the file either.

Key definitions: `Recoverable`, `Harmless`, `Codec.Torn`.
Key theorems: `harmless_iff`, `appends_recoverable`.
-/
import Evllm.Evaluation.JournalAgreement
import Evllm.Evaluation.JournaledModel

namespace Evllm
namespace Evaluation

open Lib

variable {T : Codec} {binding : TransportJournalBinding}

/-! ### The events of a file -/

variable (T) in
/-- The events of the lines of a file. -/
def recorded (file : Text) : List TransportAttemptEvent :=
  ((lines file).filter fun line => !line.all isSpace).filterMap T.parse

theorem readLine_recorded {events events' : List TransportAttemptEvent} {line : Text × ℕ}
    (h : readLine T binding events line = .ok events') :
    events' = events ++ (([line.1].filter fun line => !line.all isSpace).filterMap T.parse) := by
  by_cases hblank : line.1.all isSpace
  · rw [readLine_blank hblank] at h
    cases h
    simp [hblank]
  · cases hparse : T.parse line.1 with
    | none =>
      rw [readLine_garbled hblank hparse] at h
      cases h
    | some event =>
      obtain ⟨-, rfl⟩ := (readLine_event hblank hparse).mp h
      simp [hblank, hparse]

theorem readLines_recorded : ∀ {numbered : List (Text × ℕ)} {events events' : List TransportAttemptEvent},
    numbered.foldlM (readLine T binding) events = .ok events' →
      events' = events ++ (((numbered.map Prod.fst).filter fun line => !line.all isSpace).filterMap T.parse)
  | [], _, _, h => by
    cases h
    simp
  | line :: numbered, events, events', h => by
    rw [List.foldlM_cons, bind_eq_ok] at h
    obtain ⟨next, hline, hrest⟩ := h
    rw [readLines_recorded hrest, readLine_recorded hline, List.append_assoc, ← List.filterMap_append,
      ← List.filter_append]
    rfl

/-- What a fresh journal reads are the events of the lines. -/
theorem recorded_eq {file : Text} {read : List TransportAttemptEvent}
    (h : initializeFrom T binding file = .ok read) : recorded T file = read := by
  have hlines := readLines_recorded (initializeFrom_eq_ok.mp h).1
  rw [List.zipIdx_map_fst, List.nil_append] at hlines
  exact hlines.symm

/-- A line feed at the end changes nothing. -/
theorem initializeFrom_newline (file : Text) :
    initializeFrom T binding (file ++ ['\n']) = initializeFrom T binding file := by
  have hlines : lines (file ++ ['\n']) = lines file ++ [[]] := lines_append_cons file []
  have hread : (lines (file ++ ['\n'])).zipIdx.foldlM (readLine T binding) [] =
      (lines file).zipIdx.foldlM (readLine T binding) [] := by
    rw [readLines_eq hlines]
    refine (bind_congr fun events => ?_).trans (bind_pure _)
    exact readLine_blank rfl
  rw [initializeFrom, hread, initializeFrom]

/-! ### What an append writes -/

/-- The append writes the text of the event, with or without the line feed. -/
def AppendOutcome.Whole (text : Text) : AppendOutcome → Prop
  | .acknowledged => True
  | .failed chars _ _ => text.length ≤ chars

instance (text : Text) : DecidablePred (AppendOutcome.Whole text)
  | .acknowledged => isTrue trivial
  | .failed chars _ _ => inferInstanceAs (Decidable (text.length ≤ chars))

variable {text : Text} {outcome : AppendOutcome}

theorem torn_append {chars : ℕ} (h : chars < text.length) (rest : Text) (cut : Bool) :
    torn (text ++ rest) chars cut = torn text chars cut := by
  rw [torn, torn, List.take_append_of_le_length h.le, List.getElem?_append_left h]

theorem written_of_whole (h : outcome.Whole text) :
    outcome.written (text ++ ['\n']) = text ∨ outcome.written (text ++ ['\n']) = text ++ ['\n'] := by
  cases outcome with
  | acknowledged => exact .inr rfl
  | failed chars cut error =>
    obtain heq | hlt := eq_or_lt_of_le (h : text.length ≤ chars)
    · left
      simp [AppendOutcome.written, torn, ← heq]
    · right
      have hall : (text ++ ['\n']).length ≤ chars := by simpa [Nat.succ_le_iff] using hlt
      simp only [AppendOutcome.written, torn, List.take_of_length_le hall, List.getElem?_eq_none hall]
      simp

theorem written_of_not_whole (h : ¬outcome.Whole text) :
    ∃ chars cut, chars < text.length ∧ outcome.written (text ++ ['\n']) = torn text chars cut := by
  cases outcome with
  | acknowledged => exact absurd trivial h
  | failed chars cut error =>
    have hlt : chars < text.length := not_le.mp h
    exact ⟨chars, cut, hlt, torn_append hlt _ cut⟩

/-- What the journal relies on for a text that stops before its end: it is not
white space, and neither `JSON.parse` nor the schema accept it, alone, after
white space or after another event. -/
structure Codec.Torn (T : Codec) : Prop where
  visible : ∀ event, T.accepts event → ∀ chars cut, torn (T.stringify event) chars cut ≠ [] →
    ¬(torn (T.stringify event) chars cut).all isSpace
  refuses : ∀ event, T.accepts event → ∀ chars cut, chars < (T.stringify event).length →
    torn (T.stringify event) chars cut ≠ [] → ∀ before : Text, before.all isSpace ∨ (T.parse before).isSome →
      T.parse (before ++ torn (T.stringify event) chars cut) = none

variable {event : TransportAttemptEvent}

theorem torn_line (hT : T.Lawful) (haccepts : T.accepts event) (chars : ℕ) (cut : Bool) :
    '\n' ∉ torn (T.stringify event) chars cut := by
  rw [torn, List.mem_append, not_or]
  constructor
  · exact fun hmem => hT.line event haccepts (List.mem_of_mem_take hmem)
  · split_ifs
    · decide
    · exact List.not_mem_nil

/-- A torn line makes the file unreadable. -/
theorem initializeFrom_torn (hT : T.Lawful) (hTorn : T.Torn) {file : Text} {read read' : List TransportAttemptEvent}
    (hread : initializeFrom T binding file = .ok read) (haccepts : T.accepts event) {chars : ℕ} {cut : Bool}
    (hshort : chars < (T.stringify event).length) (hsome : torn (T.stringify event) chars cut ≠ []) :
    initializeFrom T binding (file ++ torn (T.stringify event) chars cut) ≠ .ok read' := by
  obtain ⟨hlines, -⟩ := initializeFrom_eq_ok.mp hread
  rw [readLines_eq (lines_eq_concat file), bind_eq_ok] at hlines
  obtain ⟨before, -, hlast⟩ := hlines
  have hnone := hTorn.refuses event haccepts chars cut hshort hsome _ (readLine_cases hlast)
  have hvisible : ¬(lastLine file ++ torn (T.stringify event) chars cut).all isSpace := by
    rw [List.all_append, Bool.and_eq_true, not_and]
    exact fun _ => hTorn.visible event haccepts chars cut hsome
  intro hok
  obtain ⟨hafter, -⟩ := initializeFrom_eq_ok.mp hok
  rw [readLines_eq (lines_append_of_not_mem (lines_eq_concat file) (torn_line hT haccepts chars cut)),
    bind_eq_ok] at hafter
  obtain ⟨_, -, hline⟩ := hafter
  rw [readLine_garbled hvisible hnone] at hline
  cases hline

/-! ### What the reader admits after the file -/

/-- The start that a failure ends. -/
def EventBody.failedStart : EventBody → Option String
  | .failed id _ _ _ => some id
  | _ => none

def Operation.fails : Operation → Option TransportAttemptEvent
  | .request (.failure started _ _) => some started
  | _ => none

/-- The operation's event, made after the events in memory, is one that the
reader admits after those of the file: its id is new; a start presents distinct
supports and counts the attempts of the file; a terminal event ends an attempt
that the file has, and has not ended. -/
def Operation.Admitted (read events : List TransportAttemptEvent) (drawn : Drawn) (operation : Operation) : Prop :=
  drawn.eventId ∉ read.map (·.eventId) ∧
    match operation with
    | .request (.begin identity input _ _) =>
      (input.supports.map (·.supportId)).Nodup ∧
        (startsFor events identity.observationId).length = (startsFor read identity.observationId).length
    | .request (.success started _ _) | .request (.failure started _ _) | .interrupt _ started =>
      (∃ start ∈ read, start.isStarted ∧ start.eventId = started.eventId ∧ start.attempt = started.attempt) ∧
        terminalForStart read started.eventId = none

variable {read events : List TransportAttemptEvent} {operation : Operation} {drawn : Drawn}

theorem admits_terminal {id : String} (hbody : event.body.startedEventId = some id) : Admits read event ↔
    event.eventId ∉ read.map (·.eventId) ∧
      (∃ start ∈ read, start.isStarted ∧ start.eventId = id ∧ start.attempt = event.attempt) ∧
        terminalForStart read id = none := by
  constructor
  · intro h
    exact ⟨h.fresh, h.terminal hbody⟩
  · rintro ⟨hfresh, hterminal⟩
    refine ⟨hfresh, ?_, ?_⟩
    · intro _ _ _ _ _ hstart
      rw [hstart] at hbody
      cases hbody
    · intro id' hid'
      rw [hbody] at hid'
      cases hid'
      exact hterminal

theorem admits_makeEvent_iff : Admits read (makeEvent T binding events drawn operation) ↔
    operation.Admitted read events drawn := by
  rcases operation with ⟨⟨identity, input, cycleId, cycleAttempt⟩ | _ | _⟩ | ⟨m, started⟩
  · constructor
    · intro h
      obtain ⟨hnodup, hsequence, -⟩ := h.started rfl
      have hcount : ((startsFor events identity.observationId).length + 1 : ℤ) =
        (startsFor read identity.observationId).length + 1 := hsequence
      exact ⟨h.fresh, hnodup, by omega⟩
    · rintro ⟨hfresh, hnodup, hcount⟩
      refine ⟨hfresh, ?_, fun hid => by cases hid⟩
      intro _ _ _ _ _ hbody
      cases hbody
      refine ⟨hnodup, ?_, decide_eq_decide.mpr ?_⟩
      · simp only [makeEvent, Operation.content, hcount]
      · simp only [makeEvent, Operation.content]
        omega
  · exact admits_terminal rfl
  · exact admits_terminal rfl
  · exact admits_terminal rfl

variable (T binding events drawn) in
theorem makeEvent_failedStart : (makeEvent T binding events drawn operation).body.failedStart =
    operation.fails.map (·.eventId) := by
  rcases operation with ⟨_ | _ | _⟩ | ⟨m, s⟩ <;> rfl

/-! ### The property and the condition -/

/-- The starts of the calls whose provider has returned a result. -/
def Journaled.succeeded (S : Journaled) : List TransportAttemptEvent :=
  S.calls.filterMap (·.phase.succeededStart)

variable (T) in
/-- The journal has a failure for this start, in memory or in its file. -/
def RecordedFailed (J : Journal) (id : String) : Prop :=
  ∃ event ∈ J.events ++ recorded T J.file, event.body.failedStart = some id

variable (T binding) in
/-- A fresh journal initializes from the file and has every event whose append
was acknowledged, in order; no call of a provider that succeeded is recorded as
failed. -/
structure Recoverable (S : Journaled) : Prop where
  readable : ∃ read, initializeFrom T binding S.journal.file = .ok read ∧ S.journal.events.Sublist read
  neverFailed : ∀ started ∈ S.succeeded, ¬RecordedFailed T S.journal started.eventId

variable (T binding) in
/-- Where the next operation writes anything of an event, it writes its whole
text, on a line of its own, after the event of the file that is the last one in
memory; the reader admits the event; and it is no failure of a call whose
provider has returned a result. No such result comes in for an attempt that is
recorded as failed. -/
def Harmless (S : Journaled) : Journaled.Event → Prop
  | .runNext drawn outcome =>
    match S.journal.queue with
    | [] => True
    | operation :: _ =>
      let event := makeEvent T binding S.journal.events drawn operation
      T.accepts event → outcome.written (T.stringify event ++ ['\n']) ≠ [] →
        outcome.Whole (T.stringify event) ∧
          (lastLine S.journal.file).all isJsonSpace ∧
          S.journal.events.getLast?.map (·.eventSha256) = (recorded T S.journal.file).getLast?.map (·.eventSha256) ∧
          operation.Admitted (recorded T S.journal.file) S.journal.events drawn ∧
          ∀ started ∈ operation.fails, started.eventId ∉ S.succeeded.map (·.eventId)
  | .answer c (.ok _) _ =>
    ∀ m started, S.calls[c]? = some ⟨m, .calling started⟩ → ¬RecordedFailed T S.journal started.eventId
  | _ => True

/-! ### One step -/

variable {S S' : Journaled}

/-- What matters of a state are the file, the events in memory and the starts of
the calls that succeeded. -/
theorem Recoverable.frame (h : Recoverable T binding S) (hfile : S'.journal.file = S.journal.file)
    (hevents : S'.journal.events = S.journal.events)
    (hsucceeded : ∀ started ∈ S'.succeeded, started ∈ S.succeeded) : Recoverable T binding S' where
  readable := by
    rw [hfile, hevents]
    exact h.readable
  neverFailed started hstarted := by
    rw [RecordedFailed, hfile, hevents]
    exact h.neverFailed started (hsucceeded started hstarted)

theorem succeededStart_settle (operationId : ℕ) (result : Except Thrown TransportAttemptEvent) (phase : Phase) :
    (phase.settle operationId result).succeededStart = phase.succeededStart := by
  cases phase with
  | beginning awaited | succeeding _ _ awaited | failing _ _ _ awaited =>
    unfold Phase.settle
    cases result <;> simp only <;> split_ifs <;> rfl
  | refused | calling | succeeded | rejected | returned | threw => rfl

variable (T binding) in
theorem succeeded_runNext (drawn : Drawn) (outcome : AppendOutcome) :
    (S.runNext T binding drawn outcome).succeeded = S.succeeded := by
  unfold Journaled.runNext
  cases S.journal.queue with
  | nil => rfl
  | cons operation queue =>
    simp only [Journaled.succeeded, List.filterMap_map, Function.comp_def, succeededStart_settle]

/-- A call that moves on adds the start of its new phase at most. -/
theorem mem_succeeded_setPhase {c : ℕ} {phase : Phase} {started : TransportAttemptEvent}
    (h : started ∈ (S.setPhase c phase).filterMap (·.phase.succeededStart)) :
    started ∈ S.succeeded ∨ phase.succeededStart = some started := by
  obtain ⟨call, hcall, hstart⟩ := List.mem_filterMap.mp h
  obtain ⟨i, hi⟩ := List.mem_iff_getElem?.mp hcall
  rw [Journaled.setPhase, List.getElem?_modify] at hi
  obtain ⟨before, hbefore, rfl⟩ := Option.map_eq_some_iff.mp hi
  by_cases hc : c = i
  · rw [if_pos hc] at hstart
    exact .inr hstart
  · rw [if_neg hc] at hstart
    exact .inl (List.mem_filterMap.mpr ⟨before, List.mem_of_getElem? hbefore, hstart⟩)

theorem mem_succeeded_self {c : ℕ} {call : GenerateCall} {phase : Phase} {started : TransportAttemptEvent}
    (hcall : S.calls[c]? = some call) (hstart : phase.succeededStart = some started) :
    started ∈ (S.setPhase c phase).filterMap (·.phase.succeededStart) := by
  refine List.mem_filterMap.mpr ⟨{ call with phase }, List.mem_of_getElem? (i := c) ?_, hstart⟩
  rw [Journaled.setPhase, List.getElem?_modify, hcall]
  simp

variable (T binding outcome drawn) in
theorem runNext_file {queue : List Operation} (hqueue : S.journal.queue = operation :: queue) :
    (S.runNext T binding drawn outcome).journal.file =
      if T.accepts (makeEvent T binding S.journal.events drawn operation) then
        S.journal.file ++ outcome.written (T.stringify (makeEvent T binding S.journal.events drawn operation) ++ ['\n'])
      else S.journal.file := by
  simp only [Journaled.runNext, hqueue]

variable (T binding outcome drawn) in
theorem runNext_events {queue : List Operation} (hqueue : S.journal.queue = operation :: queue) :
    (S.runNext T binding drawn outcome).journal.events = S.journal.events ++
      (Journaled.append T (makeEvent T binding S.journal.events drawn operation) outcome).toOption.toList := by
  simp only [Journaled.runNext, hqueue]

variable (outcome) in
/-- The event is in memory just if it was acknowledged. -/
theorem append_toList (haccepts : T.accepts event) : (Journaled.append T event outcome).toOption.toList = [event] ∨
    (Journaled.append T event outcome).toOption.toList = [] ∧ outcome ≠ .acknowledged := by
  unfold Journaled.append
  rw [if_pos haccepts]
  cases outcome with
  | acknowledged => exact .inl rfl
  | failed chars cut error => exact .inr ⟨rfl, by simp⟩

theorem append_refused (hrefused : ¬T.accepts event) : (Journaled.append T event outcome).toOption.toList = [] := by
  unfold Journaled.append
  rw [if_neg hrefused]
  rfl

/-- The event of an operation continues the file if the last event there is the
last one in memory. -/
theorem continues_makeEvent_iff : Continues T binding read (makeEvent T binding events drawn operation) ↔
    events.getLast?.map (·.eventSha256) = read.getLast?.map (·.eventSha256) :=
  ⟨fun h => h.previous, fun h => ⟨rfl, h, rfl⟩⟩

/-- A whole event in the file, with or without its line feed. -/
theorem initializeFrom_whole (hT : T.Lawful) {file : Text} {read' : List TransportAttemptEvent}
    (hread : initializeFrom T binding file = .ok read) (haccepts : T.accepts event)
    (hwhole : outcome.Whole (T.stringify event)) :
    initializeFrom T binding (file ++ outcome.written (T.stringify event ++ ['\n'])) = .ok read' ↔
      (lastLine file).all isJsonSpace ∧ Continues T binding read event ∧ Admits read event ∧ read ++ [event] = read' := by
  have hfeed : initializeFrom T binding (file ++ outcome.written (T.stringify event ++ ['\n'])) =
      initializeFrom T binding (file ++ T.stringify event ++ ['\n']) := by
    obtain hwritten | hwritten := written_of_whole hwhole
    · rw [hwritten, initializeFrom_newline]
    · rw [hwritten, List.append_assoc]
  rw [hfeed]
  exact initializeFrom_append hT hread haccepts

/-- A failure that is written is recorded. -/
theorem recordedFailed_append {J J' : Journal} {id : String} (hread : recorded T J'.file = recorded T J.file ++ [event])
    (hevents : J'.events = J.events ∨ J'.events = J.events ++ [event]) :
    RecordedFailed T J' id ↔ RecordedFailed T J id ∨ event.body.failedStart = some id := by
  simp only [RecordedFailed, hread, List.mem_append, List.mem_singleton]
  obtain hsame | hmore := hevents
  · rw [hsame]
    grind
  · rw [hmore]
    grind

theorem harmless_runNext_whole (hT : T.Lawful) (h : Recoverable T binding S) {queue : List Operation}
    (hqueue : S.journal.queue = operation :: queue)
    (haccepts : T.accepts (makeEvent T binding S.journal.events drawn operation))
    (hwhole : outcome.Whole (T.stringify (makeEvent T binding S.journal.events drawn operation))) :
    ((lastLine S.journal.file).all isJsonSpace ∧
        S.journal.events.getLast?.map (·.eventSha256) = (recorded T S.journal.file).getLast?.map (·.eventSha256) ∧
        operation.Admitted (recorded T S.journal.file) S.journal.events drawn ∧
        ∀ started ∈ operation.fails, started.eventId ∉ S.succeeded.map (·.eventId)) ↔
      Recoverable T binding (S.runNext T binding drawn outcome) := by
  obtain ⟨⟨read, hread, hsub⟩, hnever⟩ := h
  rw [recorded_eq hread]
  have hreads : ∀ read', initializeFrom T binding (S.runNext T binding drawn outcome).journal.file = .ok read' ↔
      (lastLine S.journal.file).all isJsonSpace ∧
        S.journal.events.getLast?.map (·.eventSha256) = read.getLast?.map (·.eventSha256) ∧
        operation.Admitted read S.journal.events drawn ∧
        read ++ [makeEvent T binding S.journal.events drawn operation] = read' := by
    intro read'
    rw [runNext_file T binding outcome drawn hqueue, if_pos haccepts, initializeFrom_whole hT hread haccepts hwhole,
      continues_makeEvent_iff, admits_makeEvent_iff]
  have hmemory : (S.runNext T binding drawn outcome).journal.events = S.journal.events ∨
      (S.runNext T binding drawn outcome).journal.events =
        S.journal.events ++ [makeEvent T binding S.journal.events drawn operation] := by
    rw [runNext_events T binding outcome drawn hqueue]
    obtain hnew | ⟨hnone, -⟩ := append_toList outcome haccepts
    · exact .inr (by rw [hnew])
    · exact .inl (by rw [hnone, List.append_nil])
  have hfailed : ∀ id, initializeFrom T binding (S.runNext T binding drawn outcome).journal.file =
      .ok (read ++ [makeEvent T binding S.journal.events drawn operation]) →
      (RecordedFailed T (S.runNext T binding drawn outcome).journal id ↔
        RecordedFailed T S.journal id ∨ operation.fails.map (·.eventId) = some id) := by
    intro id hread'
    rw [← makeEvent_failedStart T binding S.journal.events drawn]
    exact recordedFailed_append (by rw [recorded_eq hread, recorded_eq hread']) hmemory
  constructor
  · rintro ⟨hblank, hhead, hadmitted, hno⟩
    have hread' := (hreads _).mpr ⟨hblank, hhead, hadmitted, rfl⟩
    refine ⟨⟨_, hread', ?_⟩, ?_⟩
    · obtain hsame | hmore := hmemory
      · rw [hsame]
        exact hsub.trans (List.sublist_append_left _ _)
      · rw [hmore]
        exact hsub.append_right _
    · intro started hstarted hnow
      rw [succeeded_runNext] at hstarted
      obtain hbefore | hnew := (hfailed _ hread').mp hnow
      · exact hnever started hstarted hbefore
      · obtain ⟨other, hother, hid⟩ := Option.map_eq_some_iff.mp hnew
        exact hno other hother (List.mem_map.mpr ⟨started, hstarted, hid.symm⟩)
  · rintro ⟨⟨read', hread', -⟩, hnever'⟩
    obtain ⟨hblank, hhead, hadmitted, rfl⟩ := (hreads _).mp hread'
    refine ⟨hblank, hhead, hadmitted, ?_⟩
    intro started hfails hmem
    obtain ⟨other, hother, hid⟩ := List.mem_map.mp hmem
    rw [← succeeded_runNext T binding drawn outcome] at hother
    exact hnever' other hother ((hfailed _ hread').mpr (.inr (by rw [hfails, hid]; rfl)))

/-- Nothing of the event is written, or it is refused by its schema. -/
theorem recoverable_runNext_unwritten (h : Recoverable T binding S) {queue : List Operation}
    (hqueue : S.journal.queue = operation :: queue)
    (hnone : T.accepts (makeEvent T binding S.journal.events drawn operation) →
      outcome.written (T.stringify (makeEvent T binding S.journal.events drawn operation) ++ ['\n']) = []) :
    Recoverable T binding (S.runNext T binding drawn outcome) := by
  refine h.frame ?_ ?_ (fun started hstarted => by rwa [succeeded_runNext] at hstarted)
  · rw [runNext_file T binding outcome drawn hqueue]
    split_ifs with haccepts
    · rw [hnone haccepts, List.append_nil]
    · rfl
  · rw [runNext_events T binding outcome drawn hqueue]
    by_cases haccepts : T.accepts (makeEvent T binding S.journal.events drawn operation)
    · obtain - | ⟨hnil, -⟩ := append_toList outcome haccepts
      · cases outcome with
        | acknowledged => simpa [AppendOutcome.written] using hnone haccepts
        | failed => simp [Journaled.append, haccepts, Except.toOption]
      · rw [hnil, List.append_nil]
    · rw [append_refused haccepts, List.append_nil]

theorem harmless_runNext (hT : T.Lawful) (hTorn : T.Torn) (h : Recoverable T binding S) (drawn : Drawn)
    (outcome : AppendOutcome) :
    Harmless T binding S (.runNext drawn outcome) ↔ Recoverable T binding (S.runNext T binding drawn outcome) := by
  unfold Harmless
  cases hqueue : S.journal.queue with
  | nil =>
    refine iff_of_true trivial ?_
    rw [Journaled.runNext, hqueue]
    exact h
  | cons operation queue =>
    simp only
    by_cases hwritten : T.accepts (makeEvent T binding S.journal.events drawn operation) ∧
        outcome.written (T.stringify (makeEvent T binding S.journal.events drawn operation) ++ ['\n']) ≠ []
    · obtain ⟨haccepts, hsome⟩ := hwritten
      rw [forall_prop_of_true haccepts, forall_prop_of_true hsome]
      by_cases hwhole : outcome.Whole (T.stringify (makeEvent T binding S.journal.events drawn operation))
      · rw [and_iff_right hwhole]
        exact harmless_runNext_whole hT h hqueue haccepts hwhole
      · refine iff_of_false (fun hharmless => hwhole hharmless.1) ?_
        rintro ⟨⟨read', hread', -⟩, -⟩
        obtain ⟨chars, cut, hshort, htorn⟩ := written_of_not_whole hwhole
        obtain ⟨read, hread, -⟩ := h.readable
        rw [runNext_file T binding outcome drawn hqueue, if_pos haccepts, htorn] at hread'
        exact initializeFrom_torn hT hTorn hread haccepts hshort (htorn ▸ hsome) hread'
    · refine iff_of_true (fun haccepts hsome => absurd ⟨haccepts, hsome⟩ hwritten) ?_
      exact recoverable_runNext_unwritten h hqueue fun haccepts => not_not.mp fun hsome => hwritten ⟨haccepts, hsome⟩

theorem continueMark_events (J : Journal) (m : ℕ) : (continueMark J m).events = J.events := by
  unfold continueMark
  split
  · rfl
  · rfl

theorem recoverable_generate (h : Recoverable T binding S) (m : ℕ) (input : Assistant.ModelInput) :
    Recoverable T binding (S.generate m input) := by
  unfold Journaled.generate
  split
  · exact h
  · refine h.frame rfl rfl fun started hstarted => ?_
    simpa [Journaled.succeeded, Phase.succeededStart] using hstarted

/-- The result of a provider makes its attempt one that succeeded. -/
theorem harmless_answer (h : Recoverable T binding S) (c : ℕ) (answer : Except Thrown Assistant.ModelResult)
    (durationMs : ℤ) :
    Harmless T binding S (.answer c answer durationMs) ↔ Recoverable T binding (S.answer c answer durationMs) := by
  cases answer with
  | error error =>
    refine iff_of_true trivial ?_
    unfold Journaled.answer
    split
    · refine h.frame rfl rfl fun started hstarted => ?_
      exact (mem_succeeded_setPhase hstarted).resolve_right nofun
    · exact h
  | ok result =>
    by_cases hcalling : ∃ m started, S.calls[c]? = some ⟨m, .calling started⟩
    · obtain ⟨m, started, hcall⟩ := hcalling
      simp only [Harmless, Journaled.answer, hcall]
      constructor
      · intro hharmless
        refine ⟨h.readable, fun other hother hfailed => ?_⟩
        obtain hbefore | hnew := mem_succeeded_setPhase hother
        · exact h.neverFailed other hbefore hfailed
        · cases hnew
          exact hharmless m started rfl hfailed
      · intro hafter m' started' hcall' hfailed
        cases hcall'
        exact hafter.neverFailed started (mem_succeeded_self hcall rfl) hfailed
    · refine iff_of_true (fun m started hcall => absurd ⟨m, started, hcall⟩ hcalling) ?_
      unfold Journaled.answer
      split
      · next m started hcall => exact absurd ⟨m, started, hcall⟩ hcalling
      · exact h

theorem recoverable_continueGenerate (h : Recoverable T binding S) (c : ℕ) (durationMs : ℤ) :
    Recoverable T binding (S.continueGenerate c durationMs) := by
  have hkept : ∀ {phase phase' : Phase} {m}, S.calls[c]? = some ⟨m, phase⟩ →
      phase'.succeededStart = phase.succeededStart →
        ∀ started ∈ (S.setPhase c phase').filterMap (·.phase.succeededStart), started ∈ S.succeeded := by
    intro phase phase' m hcall hsame started hstarted
    obtain hbefore | hnew := mem_succeeded_setPhase hstarted
    · exact hbefore
    · exact List.mem_filterMap.mpr ⟨_, List.mem_of_getElem? hcall, hsame ▸ hnew⟩
  unfold Journaled.continueGenerate
  split
  · next hcall => exact h.frame rfl rfl (hkept hcall rfl)
  · next hcall => exact h.frame rfl rfl (hkept hcall rfl)
  · exact h

/-- One step: what was recoverable is so after it just if the step is harmless. -/
theorem harmless_iff (hT : T.Lawful) (hTorn : T.Torn) (S : Journaled) (event : Journaled.Event)
    (h : Recoverable T binding S) : Harmless T binding S event ↔ Recoverable T binding (S.step T binding event) := by
  cases event with
  | call request => exact iff_of_true trivial (h.frame rfl rfl fun _ => id)
  | markOpenAttemptsInterrupted =>
    exact iff_of_true trivial (h.frame (continueMark_file _ _) (continueMark_events _ _) fun _ => id)
  | continueMark m =>
    exact iff_of_true trivial (h.frame (continueMark_file _ _) (continueMark_events _ _) fun _ => id)
  | construct identity cycleId => exact iff_of_true trivial (h.frame rfl rfl fun _ => id)
  | generate m input => exact iff_of_true trivial (recoverable_generate h m input)
  | answer c answer durationMs => exact harmless_answer h c answer durationMs
  | continueGenerate c durationMs => exact iff_of_true trivial (recoverable_continueGenerate h c durationMs)
  | runNext drawn outcome => exact harmless_runNext hT hTorn h drawn outcome

/-! ### Runs -/

theorem recoverable_initialized (hinitialized : initializeFrom T binding S.journal.file = .ok S.journal.events)
    (hcalls : S.calls = []) : Recoverable T binding S where
  readable := ⟨_, hinitialized, List.Sublist.refl _⟩
  neverFailed := by simp [Journaled.succeeded, hcalls]

/-- **Failed appends are recoverable.** In every run of an initialized journal
and of the models that write to it, where appends fail anywhere: after every
beginning of the run a fresh journal reads the file and has every acknowledged
event, and no call of a provider that succeeded is recorded as failed, just if
every step was harmless. -/
theorem appends_recoverable (hT : T.Lawful) (hTorn : T.Torn) {S : Journaled}
    (hinitialized : initializeFrom T binding S.journal.file = .ok S.journal.events) (hcalls : S.calls = [])
    (events : List Journaled.Event) :
    Guarded (Journaled.step T binding) (Harmless T binding) S events ↔
      ∀ beginning, beginning <+: events → Recoverable T binding (run (Journaled.step T binding) S beginning) :=
  guarded_iff (I := fun _ => True) (fun _ _ => id) (fun S event _ => harmless_iff hT hTorn S event) events trivial
    (recoverable_initialized hinitialized hcalls)

/-! ### A success that is recorded as a failure -/

/-- A text that begins an object does so when it is torn. -/
theorem torn_cons (first : Char) (rest : Text) (hfirst : first.toNat < 128) (chars : ℕ) (cut : Bool) :
    torn (first :: rest) chars cut = [] ∨ ∃ rest', torn (first :: rest) chars cut = first :: rest' := by
  cases chars with
  | zero =>
    left
    simp [torn, hfirst]
  | succ chars => exact .inr ⟨_, rfl⟩

theorem text_getLast (event : TransportAttemptEvent) : event.text.getLast? = some '\x7d' := by
  unfold TransportAttemptEvent.text objectText
  exact List.getLast?_concat

/-- No event has the text of another one up to a place. -/
theorem torn_ne_text {known : List TransportAttemptEvent} (hknown : ToldApart known)
    {event other : TransportAttemptEvent} (hevent : event ∈ known) (hother : other ∈ known) {chars : ℕ} {cut : Bool}
    (hshort : chars < event.text.length) : other.text ≠ torn event.text chars cut := by
  intro heq
  unfold torn at heq
  split_ifs at heq with hcut
  · have hlast := congrArg List.getLast? heq
    rw [text_getLast, List.getLast?_concat] at hlast
    exact absurd hlast (by decide)
  · rw [List.append_nil] at heq
    have hsame : other.text ++ event.text.drop chars = event.text ++ [] := by
      rw [heq, List.take_append_drop, List.append_nil]
    have hlength := congrArg List.length heq
    rw [text_append_inj hknown hother hevent hsame, List.length_take] at hlength
    omega

theorem codecOf_torn {known : List TransportAttemptEvent} (hknown : ToldApart known) : (codecOf known).Torn where
  visible event _ chars cut hsome := by
    obtain ⟨rest, hrest⟩ := text_eq_cons event
    obtain hnil | ⟨rest', hcons⟩ := torn_cons '\x7b' rest (by decide) chars cut
    · exact absurd hnil (hrest ▸ hsome)
    · have hhead : isSpace '\x7b' = false := by decide
      simp [codecOf, hrest, hcons, hhead]
  refuses event haccepts chars cut hshort hsome before hread := by
    have hevent : event ∈ known := of_decide_eq_true haccepts
    by_cases hblank : before.all isJsonSpace
    · obtain ⟨rest, hrest⟩ := text_eq_cons event
      have hkept : (torn event.text chars cut).dropWhile isJsonSpace = torn event.text chars cut := by
        obtain hnil | ⟨rest', hcons⟩ := torn_cons '\x7b' rest (by decide) chars cut
        · exact absurd hnil (hrest ▸ hsome)
        · rw [hrest, hcons]
          exact List.dropWhile_cons_of_neg (by decide)
      simp only [codecOf, List.find?_eq_none, decide_eq_true_eq]
      intro other hother heq
      rw [List.dropWhile_append_of_pos (List.all_eq_true.mp hblank), hkept] at heq
      exact torn_ne_text hknown hevent hother hshort heq
    · exact codecOf_refuses hknown hblank hsome hread

def sampleLost : TransportAttemptEvent where
  eventId := "00000000-0000-4000-8000-000000000000"
  previousEventSha256 := none
  binding := sampleBinding
  attempt := sampleAttempt
  recordedAt := "2025-12-31T23:59:59.000Z"
  body := .started "openai" "gpt" "0x234a80ffc43b2b2122645e0660c3732dc69c8f4ba28e82f38d73478bf0e7615a" [] false
  eventSha256 := "0x4c5272979f14c5b551af484eae3db12cf1ebc6957969e60b3bf2a1133694377c"

def sampleAnswered : TransportAttemptEvent where
  eventId := "00000000-0000-4000-8000-000000000004"
  previousEventSha256 := some "0x6c79a83711f5635c3190d2576d1dad25124455cb15541ed131dedb530cd1a210"
  binding := sampleBinding
  attempt := sampleAttempt
  recordedAt := "2026-01-01T00:00:02.000Z"
  body := .succeeded "00000000-0000-4000-8000-000000000001" 2000 "openai" "gpt" (some "r-1") (some 10) (some 20)
  eventSha256 := "0x282fb4e052f15629575561ae3ba50d9802e93fc43a3bba2364223a8a5f31c046"

def sampleFailed : TransportAttemptEvent where
  eventId := "00000000-0000-4000-8000-000000000005"
  previousEventSha256 := some "0x6c79a83711f5635c3190d2576d1dad25124455cb15541ed131dedb530cd1a210"
  binding := sampleBinding
  attempt := sampleAttempt
  recordedAt := "2026-01-01T00:00:03.000Z"
  body := .failed "00000000-0000-4000-8000-000000000001" 3000 false .providerError
  eventSha256 := "0x3015fc7e02aa6d95683c6969b8498833e8d23033061fc6f12ea1167eb7934346"

def failingEvents : List TransportAttemptEvent := [sampleLost, sampleStarted, sampleAnswered, sampleFailed]

theorem failingEvents_toldApart : ToldApart failingEvents := by decide +kernel

def failingCodec : Codec := codecOf failingEvents

def sampleCycle : String := "00000000-0000-4000-8000-0000000000c1"

def beginSample : Request := .begin sampleIdentity sampleInput sampleCycle 1

def diskError (code : String) : Thrown := .object false false none (some code) none

def lostDrawn : Drawn := ⟨"00000000-0000-4000-8000-000000000000", "2025-12-31T23:59:59.000Z", 0⟩

def startedDrawn : Drawn := ⟨"00000000-0000-4000-8000-000000000001", "2026-01-01T00:00:00.000Z", 0⟩

def answeredDrawn : Drawn := ⟨"00000000-0000-4000-8000-000000000004", "2026-01-01T00:00:02.000Z", 0⟩

def failedDrawn : Drawn := ⟨"00000000-0000-4000-8000-000000000005", "2026-01-01T00:00:03.000Z", 0⟩

/-- An attempt whose file cannot be opened. -/
def openingRun : List Journaled.Event :=
  [.construct sampleIdentity sampleCycle, .call beginSample, .runNext lostDrawn (.failed 0 false (diskError "EMFILE"))]

/-- A call of the model begins another one. -/
def startingRun : List Journaled.Event := [.generate 0 sampleInput, .runNext startedDrawn .acknowledged]

/-- The provider returns, and the disk fails when the success has been written. -/
def losingRun : List Journaled.Event :=
  [.answer 0 (.ok sampleResult) 2000, .runNext answeredDrawn (.failed 10000 false (diskError "EIO"))]

/-- The `catch` block completes the attempt as a failure. -/
def failureRun : List Journaled.Event := [.continueGenerate 0 3000, .runNext failedDrawn .acknowledged]

def failingRun : List Journaled.Event := openingRun ++ startingRun ++ losingRun

def sampleModel : JournaledAssistantModel := ⟨sampleIdentity, sampleCycle, 1, some sampleInput, none⟩

def emptyJournaled : Journaled := ⟨emptyJournal, 0, [], []⟩

/-- The states after the runs, one after the other. -/
def openFailed : Journaled := ⟨emptyJournal, 1, [⟨sampleIdentity, sampleCycle, 0, none, none⟩], []⟩

def attemptBegun : Journaled where
  journal := ⟨failingCodec.stringify sampleStarted ++ ['\n'], [sampleStarted], [], []⟩
  ran := 2
  models := [sampleModel]
  calls := [⟨0, .calling sampleStarted⟩]

def successLost : Journaled where
  journal := ⟨failingCodec.stringify sampleStarted ++ ['\n'] ++ (failingCodec.stringify sampleAnswered ++ ['\n']),
    [sampleStarted], [], []⟩
  ran := 3
  models := [sampleModel]
  calls := [⟨0, .rejected sampleStarted sampleResult (diskError "EIO")⟩]

def failureRecorded : Journaled where
  journal := ⟨successLost.journal.file ++ (failingCodec.stringify sampleFailed ++ ['\n']), [sampleStarted, sampleFailed],
    [], []⟩
  ran := 4
  models := [sampleModel]
  calls := [⟨0, .threw sampleStarted (some sampleResult) (diskError "EIO")⟩]

theorem runNext_of_event {queue : List Operation} (hqueue : S.journal.queue = operation :: queue)
    (hevent : makeEvent T binding S.journal.events drawn operation = event) (haccepts : T.accepts event) :
    S.runNext T binding drawn outcome = { S with
      journal := {
        file := S.journal.file ++ outcome.written (T.stringify event ++ ['\n'])
        events := S.journal.events ++ (Journaled.append T event outcome).toOption.toList
        queue
        marks := settleMark S.journal (Journaled.append T event outcome).isOk operation }
      ran := S.ran + 1
      calls := S.calls.map fun call =>
        { call with phase := call.phase.settle S.ran (Journaled.append T event outcome) } } := by
  simp only [Journaled.runNext, hqueue, hevent, haccepts, if_true]

theorem append_acknowledged (haccepts : T.accepts event) : Journaled.append T event .acknowledged = .ok event := by
  simp only [Journaled.append, haccepts, if_true]

theorem append_failed (haccepts : T.accepts event) (chars : ℕ) (cut : Bool) (error : Thrown) :
    Journaled.append T event (.failed chars cut error) = .error error := by
  simp only [Journaled.append, haccepts, if_true]

theorem failingCodec_accepts : ∀ event ∈ failingEvents, failingCodec.accepts event := by
  intro event hevent
  exact decide_eq_true hevent

theorem makeEvent_lost : makeEvent failingCodec sampleBinding [] lostDrawn (.request beginSample) = sampleLost := by
  decide +kernel

theorem makeEvent_started :
    makeEvent failingCodec sampleBinding [] startedDrawn (.request beginSample) = sampleStarted := by
  decide +kernel

theorem makeEvent_answered : makeEvent failingCodec sampleBinding [sampleStarted] answeredDrawn
    (.request (.success sampleStarted sampleResult 2000)) = sampleAnswered := by
  decide +kernel

theorem makeEvent_failed : makeEvent failingCodec sampleBinding [sampleStarted] failedDrawn
    (.request (.failure sampleStarted (diskError "EIO") 3000)) = sampleFailed := by
  decide +kernel

theorem run_opening : run (Journaled.step failingCodec sampleBinding) emptyJournaled openingRun = openFailed := by
  have haccepts : failingCodec.accepts sampleLost := failingCodec_accepts _ (by simp [failingEvents])
  rw [openingRun, run_cons, run_cons, run_cons, run_nil]
  refine (runNext_of_event (S := Journaled.step failingCodec sampleBinding { emptyJournaled with models := openFailed.models } (.call beginSample)) rfl makeEvent_lost
    haccepts).trans ?_
  rw [append_failed haccepts]
  rfl

theorem run_starting : run (Journaled.step failingCodec sampleBinding) openFailed startingRun = attemptBegun := by
  have haccepts : failingCodec.accepts sampleStarted := failingCodec_accepts _ (by simp [failingEvents])
  rw [startingRun, run_cons, run_cons, run_nil]
  refine (runNext_of_event (S := openFailed.generate 0 sampleInput) rfl makeEvent_started haccepts).trans ?_
  rw [append_acknowledged haccepts]
  rfl

theorem sampleAnswered_length : (failingCodec.stringify sampleAnswered ++ ['\n']).length ≤ 10000 := by decide +kernel

theorem run_losing : run (Journaled.step failingCodec sampleBinding) attemptBegun losingRun = successLost := by
  have haccepts : failingCodec.accepts sampleAnswered := failingCodec_accepts _ (by simp [failingEvents])
  have hall : torn (failingCodec.stringify sampleAnswered ++ ['\n']) 10000 false =
      failingCodec.stringify sampleAnswered ++ ['\n'] := by
    rw [torn, List.take_of_length_le sampleAnswered_length]
    exact List.append_nil _
  rw [losingRun, run_cons, run_cons, run_nil]
  refine (runNext_of_event (S := attemptBegun.answer 0 (.ok sampleResult) 2000) rfl makeEvent_answered
    haccepts).trans ?_
  rw [append_failed haccepts]
  simp only [AppendOutcome.written, hall]
  rfl

theorem run_failure : run (Journaled.step failingCodec sampleBinding) successLost failureRun = failureRecorded := by
  have haccepts : failingCodec.accepts sampleFailed := failingCodec_accepts _ (by simp [failingEvents])
  rw [failureRun, run_cons, run_cons, run_nil]
  refine (runNext_of_event (S := successLost.continueGenerate 0 3000) rfl makeEvent_failed haccepts).trans ?_
  rw [append_acknowledged haccepts]
  rfl

theorem failingCodec_lawful : failingCodec.Lawful := codecOf_lawful failingEvents_toldApart

theorem started_admitted : (Operation.request beginSample).Admitted [] [] startedDrawn := by
  refine ⟨List.not_mem_nil, ?_, rfl⟩
  decide

theorem answered_admitted : (Operation.request (.success sampleStarted sampleResult 2000)).Admitted [sampleStarted]
    [sampleStarted] answeredDrawn := by
  refine ⟨by decide, ⟨sampleStarted, List.mem_singleton_self _, rfl, rfl, rfl⟩, rfl⟩

theorem started_reads : initializeFrom failingCodec sampleBinding attemptBegun.journal.file = .ok [sampleStarted] := by
  have haccepts : failingCodec.accepts sampleStarted := failingCodec_accepts _ (by simp [failingEvents])
  have hempty : initializeFrom failingCodec sampleBinding [] = .ok [] := rfl
  have hcontinues : Continues failingCodec sampleBinding [] sampleStarted := by
    rw [← makeEvent_started]
    exact makeEvent_continues startedDrawn (.request beginSample)
  have hadmits : Admits [] sampleStarted := by
    rw [← makeEvent_started]
    exact admits_makeEvent_iff.mpr started_admitted
  exact (initializeFrom_append failingCodec_lawful hempty haccepts).mpr ⟨rfl, hcontinues, hadmits, rfl⟩

theorem lost_reads :
    initializeFrom failingCodec sampleBinding successLost.journal.file = .ok [sampleStarted, sampleAnswered] := by
  have haccepts : failingCodec.accepts sampleAnswered := failingCodec_accepts _ (by simp [failingEvents])
  have hcontinues : Continues failingCodec sampleBinding [sampleStarted] sampleAnswered := by
    rw [← makeEvent_answered]
    exact makeEvent_continues answeredDrawn (.request (.success sampleStarted sampleResult 2000))
  have hadmits : Admits [sampleStarted] sampleAnswered := by
    rw [← makeEvent_answered]
    exact admits_makeEvent_iff.mpr answered_admitted
  have hblank : (lastLine attemptBegun.journal.file).all isJsonSpace := by
    rw [attemptBegun, lastLine_concat]
    rfl
  rw [successLost, ← List.append_assoc]
  exact (initializeFrom_append failingCodec_lawful started_reads haccepts).mpr ⟨hblank, hcontinues, hadmits, rfl⟩

theorem harmless_of_event {queue : List Operation} (hqueue : S.journal.queue = operation :: queue)
    (hevent : makeEvent T binding S.journal.events drawn operation = event)
    (hread : initializeFrom T binding S.journal.file = .ok S.journal.events) (hwhole : outcome.Whole (T.stringify event))
    (hblank : (lastLine S.journal.file).all isJsonSpace)
    (hadmitted : operation.Admitted S.journal.events S.journal.events drawn) (hfails : operation.fails = none) :
    Harmless T binding S (.runNext drawn outcome) := by
  simp only [Harmless, hqueue, hevent, recorded_eq hread]
  exact fun _ _ => ⟨hwhole, hblank, trivial, hadmitted, by simp [hfails]⟩

theorem opening_harmless :
    Guarded (Journaled.step failingCodec sampleBinding) (Harmless failingCodec sampleBinding) emptyJournaled openingRun :=
  ⟨trivial, trivial, fun _ hsome => absurd rfl hsome, trivial⟩

theorem starting_harmless :
    Guarded (Journaled.step failingCodec sampleBinding) (Harmless failingCodec sampleBinding) openFailed startingRun :=
  ⟨trivial, harmless_of_event (S := openFailed.generate 0 sampleInput) rfl makeEvent_started rfl trivial rfl
    started_admitted rfl, trivial⟩

theorem losing_harmless :
    Guarded (Journaled.step failingCodec sampleBinding) (Harmless failingCodec sampleBinding) attemptBegun losingRun := by
  refine ⟨?_, ?_, trivial⟩
  · rintro m started hcall ⟨event, hevent, hfailed⟩
    rw [recorded_eq started_reads] at hevent
    have hsame : event = sampleStarted := by simpa [attemptBegun] using hevent
    rw [hsame] at hfailed
    cases hfailed
  · refine harmless_of_event (S := attemptBegun.answer 0 (.ok sampleResult) 2000) rfl makeEvent_answered started_reads
      ?_ ?_ answered_admitted rfl
    · have hlength := sampleAnswered_length
      rw [List.length_append] at hlength
      exact (Nat.le_add_right _ _).trans hlength
    · rw [show (attemptBegun.answer 0 (.ok sampleResult) 2000).journal.file = attemptBegun.journal.file from rfl,
        attemptBegun, lastLine_concat]
      rfl

theorem failing_harmless :
    Guarded (Journaled.step failingCodec sampleBinding) (Harmless failingCodec sampleBinding) emptyJournaled
      failingRun := by
  rw [failingRun, List.append_assoc, guarded_append, guarded_append, run_opening, run_starting]
  exact ⟨opening_harmless, starting_harmless, losing_harmless⟩

theorem appends_recoverable_failing :
    Guarded (Journaled.step failingCodec sampleBinding) (Harmless failingCodec sampleBinding) emptyJournaled
        failingRun ∧
      ∀ beginning, beginning <+: failingRun → Recoverable failingCodec sampleBinding
        (run (Journaled.step failingCodec sampleBinding) emptyJournaled beginning) :=
  ⟨failing_harmless, (appends_recoverable failingCodec_lawful (codecOf_torn failingEvents_toldApart) rfl rfl _).mp
    failing_harmless⟩

/-- After a disk error the success is in the file and not in memory. The `catch`
block records the attempt as failed, in an event that is not chained to it. -/
theorem success_recorded_failed : failingCodec.Lawful ∧ failingCodec.Torn ∧
    initializeFrom failingCodec sampleBinding emptyJournaled.journal.file = .ok emptyJournaled.journal.events ∧
    emptyJournaled.calls = [] ∧
    ∃ S, run (Journaled.step failingCodec sampleBinding) emptyJournaled (failingRun ++ failureRun) = S ∧
      (∀ read, initializeFrom failingCodec sampleBinding S.journal.file ≠ .ok read) ∧
      sampleStarted ∈ S.succeeded ∧ RecordedFailed failingCodec S.journal sampleStarted.eventId := by
  refine ⟨failingCodec_lawful, codecOf_torn failingEvents_toldApart, rfl, rfl, failureRecorded, ?_, ?_, ?_, ?_⟩
  · rw [failingRun, run_append, run_append, run_append, run_opening, run_starting, run_losing, run_failure]
  · intro read hread
    have haccepts : failingCodec.accepts sampleFailed := failingCodec_accepts _ (by simp [failingEvents])
    rw [failureRecorded, ← List.append_assoc] at hread
    -- the failure is chained to the start, after which the file has the success
    obtain ⟨-, hcontinues, -⟩ := (initializeFrom_append failingCodec_lawful lost_reads haccepts).mp hread
    exact absurd hcontinues.previous (by decide)
  · exact List.mem_singleton_self _
  · exact ⟨sampleFailed, by simp [failureRecorded], rfl⟩

end Evaluation
end Evllm
