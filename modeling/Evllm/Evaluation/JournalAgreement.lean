/-
# Writer and reader of the transport journal

A fresh journal reads back the file that a journal has written when every
event was written on a line of its own and is one that the reader admits after
the ones before it. Of what the reader checks, the writers establish the chain,
the digests, the numbering and the retry markers by themselves. They do not
check that the supports of an attempt are distinct, that the attempt they end
is still open, and that the file ends with a line feed.

Key definitions: `Admits`, `Consistent`, `Codec.Lawful`, `ByOwner`, `Undisputed`.
Key theorems: `consistent_concat`, `initializeFrom_append`, `journal_reads_back`.
-/
import Evllm.Evaluation.TransportJournal
import Mathlib.Data.List.TakeWhile

namespace Evllm
namespace Evaluation

open Lib

/-! ### What the reader admits -/

/-- The reader admits the event after the ones before it. -/
structure Admits (before : List TransportAttemptEvent) (event : TransportAttemptEvent) : Prop where
  fresh : event.eventId ∉ before.map (·.eventId)
  started : ∀ {provider model modelInputSha256 presentedSupportIds retry},
    event.body = .started provider model modelInputSha256 presentedSupportIds retry →
      presentedSupportIds.Nodup ∧
        event.attempt.attemptSequence = (startsFor before event.attempt.observationId).length + 1 ∧
        retry = decide (1 < event.attempt.attemptSequence)
  terminal : ∀ {id}, event.body.startedEventId = some id →
    (∃ started ∈ before, started.isStarted ∧ started.eventId = id ∧ started.attempt = event.attempt) ∧
      terminalForStart before id = none

/-- `assertInternalConsistency` passes. -/
def Consistent (events : List TransportAttemptEvent) : Prop := ∃ seen, assertInternalConsistency events = .ok seen

/-- The variables of `assertInternalConsistency` after these events. -/
structure Describes (seen : Seen) (events : List TransportAttemptEvent) : Prop where
  eventIds : ∀ id, id ∈ seen.eventIds ↔ id ∈ events.map (·.eventId)
  attempts : ∀ id, (seen.attempts.get id).getD 0 = (startsFor events id).length
  starts : ∀ id event, seen.starts.get id = some event ↔ event ∈ events ∧ event.isStarted ∧ event.eventId = id
  terminals : ∀ id, id ∈ seen.terminals ↔ terminalForStart events id ≠ none

theorem describes_empty : Describes .empty [] where
  eventIds := by simp [Seen.empty]
  attempts := by simp [Seen.empty, startsFor]
  starts := by simp [Seen.empty]
  terminals := by simp [Seen.empty, terminalForStart]

variable {seen seen' : Seen} {events : List TransportAttemptEvent} {event : TransportAttemptEvent}

theorem terminalForStart_ne_none {id : String} :
    terminalForStart events id ≠ none ↔ ∃ e ∈ events, e.body.startedEventId = some id := by
  simp [terminalForStart]

theorem terminalForStart_concat_ne_none {id : String} : terminalForStart (events ++ [event]) id ≠ none ↔
    terminalForStart events id ≠ none ∨ event.body.startedEventId = some id := by
  simp only [terminalForStart_ne_none, List.mem_append, List.mem_singleton, or_and_right, exists_or,
    exists_eq_left]

theorem startsFor_concat (id : String) : (startsFor (events ++ [event]) id).length =
    (startsFor events id).length + if event.isStarted ∧ event.attempt.observationId = id then 1 else 0 := by
  simp only [startsFor, List.filter_append, List.length_append]
  by_cases h : event.isStarted ∧ event.attempt.observationId = id
  · simp [h]
  · simp [h]

theorem isStarted_iff : event.isStarted ↔ event.body.startedEventId = none := by
  simp [TransportAttemptEvent.isStarted]

/-- The checks of a `started` event, as one condition. -/
theorem checkStarted_eq_ok {ids : List String} {retry : Bool} : checkStarted seen event ids retry = .ok seen' ↔
    (ids.Nodup ∧ event.attempt.attemptSequence = (seen.attempts.get event.attempt.observationId).getD 0 + 1 ∧
      retry = decide (1 < event.attempt.attemptSequence)) ∧
    { seen with
      attempts := seen.attempts.set event.attempt.observationId
        ((seen.attempts.get event.attempt.observationId).getD 0 + 1)
      starts := seen.starts.set event.eventId event } = seen' := by
  simp only [checkStarted, bind_eq_ok, throwIf_eq_ok, pure_eq_ok, ne_eq, not_not, length_eraseDups_eq_iff]
  constructor
  · rintro ⟨-, hnodup, -, hsequence, -, hretry, rfl⟩
    exact ⟨⟨hnodup, hsequence, hretry⟩, rfl⟩
  · rintro ⟨⟨hnodup, hsequence, hretry⟩, rfl⟩
    exact ⟨⟨⟩, hnodup, ⟨⟩, hsequence, ⟨⟩, hretry, rfl⟩

theorem checkTerminal_eq_ok {id : String} : checkTerminal seen event id = .ok seen' ↔
    (∃ started, seen.starts.get id = some started ∧ id ∉ seen.terminals ∧ started.attempt = event.attempt) ∧
    { seen with terminals := id :: seen.terminals } = seen' := by
  unfold checkTerminal
  cases hstarts : seen.starts.get id with
  | none => simp
  | some started =>
    simp only [bind_eq_ok, throwIf_eq_ok, pure_eq_ok, ne_eq, not_not, Option.some.injEq, exists_eq_left']
    constructor
    · rintro ⟨-, hnot, -, hsame, rfl⟩
      exact ⟨⟨hnot, hsame⟩, rfl⟩
    · rintro ⟨⟨hnot, hsame⟩, rfl⟩
      exact ⟨⟨⟩, hnot, ⟨⟩, hsame, rfl⟩

theorem checkEvent_started {provider model digest : String} {ids : List String} {retry : Bool}
    (hbody : event.body = .started provider model digest ids retry) : checkEvent seen event = .ok seen' ↔
    event.eventId ∉ seen.eventIds ∧
      checkStarted { seen with eventIds := event.eventId :: seen.eventIds } event ids retry = .ok seen' := by
  simp only [checkEvent, hbody, bind_eq_ok, throwIf_eq_ok]
  constructor
  · rintro ⟨-, h⟩
    exact h
  · exact fun h => ⟨⟨⟩, h⟩

theorem checkEvent_terminal {id : String} (hbody : event.body.startedEventId = some id) :
    checkEvent seen event = .ok seen' ↔ event.eventId ∉ seen.eventIds ∧
      checkTerminal { seen with eventIds := event.eventId :: seen.eventIds } event id = .ok seen' := by
  have hcheck : checkEvent seen event = (do
      throwIf (event.eventId ∈ seen.eventIds) (JournalError.duplicateEvent event.eventId)
      checkTerminal { seen with eventIds := event.eventId :: seen.eventIds } event id) := by
    unfold checkEvent
    cases hkind : event.body with
    | started => simp [hkind, EventBody.startedEventId] at hbody
    | succeeded | failed | interrupted =>
      rw [hkind] at hbody
      cases hbody
      rfl
  rw [hcheck, bind_eq_ok]
  simp only [throwIf_eq_ok]
  constructor
  · rintro ⟨-, h⟩
    exact h
  · exact fun h => ⟨⟨⟩, h⟩

/-- An event is a start or ends one. -/
theorem body_cases (event : TransportAttemptEvent) :
    (∃ provider model digest ids retry, event.body = .started provider model digest ids retry) ∨
      ∃ id, event.body.startedEventId = some id := by
  cases hbody : event.body with
  | started provider model digest ids retry => exact .inl ⟨_, _, _, _, _, rfl⟩
  | succeeded | failed | interrupted => exact .inr ⟨_, rfl⟩

theorem not_mem_of_describes (h : Describes seen events) :
    event.eventId ∉ seen.eventIds ↔ event.eventId ∉ events.map (·.eventId) :=
  not_congr (h.eventIds event.eventId)

/-- A start in the list is found under its id, if ids are not used twice. -/
theorem Describes.starts_concat (h : Describes seen events) (hfresh : event.eventId ∉ events.map (·.eventId))
    (hstart : event.isStarted) (id : String) (found : TransportAttemptEvent) :
    (seen.starts.set event.eventId event).get id = some found ↔
      found ∈ events ++ [event] ∧ found.isStarted ∧ found.eventId = id := by
  rw [JsMap.get_set]
  split_ifs with hid
  · subst hid
    constructor
    · rintro heq
      cases heq
      exact ⟨List.mem_append_right _ (List.mem_singleton_self _), hstart, rfl⟩
    · rintro ⟨hmem, -, hsame⟩
      obtain hmem | hmem := List.mem_append.mp hmem
      · exact absurd (hsame ▸ List.mem_map_of_mem hmem) hfresh
      · rw [List.mem_singleton.mp hmem]
  · rw [h.starts, List.mem_append, List.mem_singleton]
    constructor
    · rintro ⟨hmem, hrest⟩
      exact ⟨.inl hmem, hrest⟩
    · rintro ⟨hmem | rfl, hrest⟩
      · exact ⟨hmem, hrest⟩
      · exact absurd hrest.2 hid

theorem Describes.eventIds_concat (h : Describes seen events) (id : String) :
    id ∈ event.eventId :: seen.eventIds ↔ id ∈ (events ++ [event]).map (·.eventId) := by
  simp [h.eventIds, or_comm, eq_comm]

/-- One step of the loop: what passes is admitted, and the variables describe
one event more. -/
theorem checkEvent_started_describes (h : Describes seen events) {provider model digest : String} {ids : List String}
    {retry : Bool} (hbody : event.body = .started provider model digest ids retry)
    (hcheck : checkEvent seen event = .ok seen') : Admits events event ∧ Describes seen' (events ++ [event]) := by
  obtain ⟨hfresh, hrest⟩ := (checkEvent_started hbody).mp hcheck
  rw [not_mem_of_describes h] at hfresh
  obtain ⟨⟨hnodup, hsequence, hretry⟩, rfl⟩ := checkStarted_eq_ok.mp hrest
  have hstart : event.isStarted := isStarted_iff.mpr (by rw [hbody]; rfl)
  have hnot : ∀ id, event.body.startedEventId ≠ some id := by simp [hbody, EventBody.startedEventId]
  rw [h.attempts] at hsequence
  refine ⟨⟨hfresh, ?_, fun hid => absurd hid (hnot _)⟩, ⟨h.eventIds_concat, ?_, h.starts_concat hfresh hstart, ?_⟩⟩
  · intro _ _ _ ids' retry' hbody'
    rw [hbody] at hbody'
    cases hbody'
    exact ⟨hnodup, hsequence, hretry⟩
  · intro id
    simp only [JsMap.get_set, startsFor_concat, hstart, true_and]
    split_ifs with hid
    · subst hid
      simp [h.attempts]
    · simpa using h.attempts id
  · intro id
    rw [terminalForStart_concat_ne_none, or_iff_left (hnot id)]
    exact h.terminals id

theorem checkEvent_terminal_describes (h : Describes seen events) {id : String}
    (hbody : event.body.startedEventId = some id) (hcheck : checkEvent seen event = .ok seen') :
    Admits events event ∧ Describes seen' (events ++ [event]) := by
  obtain ⟨hfresh, hrest⟩ := (checkEvent_terminal hbody).mp hcheck
  rw [not_mem_of_describes h] at hfresh
  obtain ⟨⟨started, hget, hopen, hsame⟩, rfl⟩ := checkTerminal_eq_ok.mp hrest
  have hnot : ¬event.isStarted := by simp [isStarted_iff, hbody]
  obtain ⟨hmem, hstart, hid⟩ := (h.starts id started).mp hget
  refine ⟨⟨hfresh, ?_, ?_⟩, ⟨h.eventIds_concat, ?_, ?_, ?_⟩⟩
  · intro _ _ _ _ _ hbody'
    rw [hbody'] at hbody
    cases hbody
  · intro id' hid'
    rw [hbody] at hid'
    cases hid'
    exact ⟨⟨started, hmem, hstart, hid, hsame⟩, not_not.mp (fun hne => hopen ((h.terminals id).mpr hne))⟩
  · intro id
    simpa [startsFor_concat, hnot] using h.attempts id
  · intro id found
    rw [h.starts, List.mem_append, List.mem_singleton]
    constructor
    · rintro ⟨hmem, hfound⟩
      exact ⟨.inl hmem, hfound⟩
    · rintro ⟨hmem | rfl, hfound⟩
      · exact ⟨hmem, hfound⟩
      · exact absurd hfound.1 hnot
  · intro id'
    rw [terminalForStart_concat_ne_none, hbody, Option.some.injEq, List.mem_cons, h.terminals, or_comm, eq_comm]

theorem checkEvent_describes (h : Describes seen events) (hcheck : checkEvent seen event = .ok seen') :
    Admits events event ∧ Describes seen' (events ++ [event]) := by
  obtain ⟨provider, model, digest, ids, retry, hbody⟩ | ⟨id, hbody⟩ := body_cases event
  · exact checkEvent_started_describes h hbody hcheck
  · exact checkEvent_terminal_describes h hbody hcheck

/-- What is admitted passes. -/
theorem checkEvent_of_admits (h : Describes seen events) (ha : Admits events event) :
    ∃ seen', checkEvent seen event = .ok seen' := by
  have hfresh := (not_mem_of_describes h).mpr ha.fresh
  obtain ⟨provider, model, digest, ids, retry, hbody⟩ | ⟨id, hbody⟩ := body_cases event
  · obtain ⟨hnodup, hsequence, hretry⟩ := ha.started hbody
    rw [← h.attempts] at hsequence
    exact ⟨_, (checkEvent_started hbody).mpr ⟨hfresh, checkStarted_eq_ok.mpr ⟨⟨hnodup, hsequence, hretry⟩, rfl⟩⟩⟩
  · obtain ⟨⟨started, hmem, hstart, hid, hsame⟩, hopen⟩ := ha.terminal hbody
    have hget := (h.starts id started).mpr ⟨hmem, hstart, hid⟩
    have hnot : id ∉ seen.terminals := fun hin => (h.terminals id).mp hin hopen
    exact ⟨_, (checkEvent_terminal hbody).mpr ⟨hfresh, checkTerminal_eq_ok.mpr ⟨⟨started, hget, hnot, hsame⟩, rfl⟩⟩⟩

theorem assertInternalConsistency_concat : assertInternalConsistency (events ++ [event]) =
    (assertInternalConsistency events >>= fun seen => checkEvent seen event) := by
  simp [assertInternalConsistency, List.foldlM_append]

/-- The whole loop, by induction on the events from the end. -/
theorem assertInternalConsistency_describes : ∀ {events seen}, assertInternalConsistency events = .ok seen →
    Describes seen events := by
  intro events
  induction events using List.reverseRecOn with
  | nil =>
    intro seen h
    cases h
    exact describes_empty
  | append_singleton events event ih =>
    intro seen h
    rw [assertInternalConsistency_concat, bind_eq_ok] at h
    obtain ⟨before, hbefore, hcheck⟩ := h
    exact (checkEvent_describes (ih hbefore) hcheck).2

/-- A consistent list goes on with the events that are admitted after it. -/
theorem consistent_concat : Consistent (events ++ [event]) ↔ Consistent events ∧ Admits events event := by
  simp only [Consistent, assertInternalConsistency_concat, bind_eq_ok]
  constructor
  · rintro ⟨_, seen, hseen, hcheck⟩
    exact ⟨⟨seen, hseen⟩, (checkEvent_describes (assertInternalConsistency_describes hseen) hcheck).1⟩
  · rintro ⟨⟨seen, hseen⟩, ha⟩
    obtain ⟨seen', hcheck⟩ := checkEvent_of_admits (assertInternalConsistency_describes hseen) ha
    exact ⟨seen', seen, hseen, hcheck⟩

/-! ### The lines of the file -/

variable {T : Codec} {binding : TransportJournalBinding}

/-- White space of JSON, line feeds apart. -/
def isJsonSpace (c : Char) : Bool := c ∈ [' ', '\t', '\r']

theorem isSpace_of_isJsonSpace {c : Char} (h : isJsonSpace c) : isSpace c := by
  have hc : c = ' ' ∨ c = '\t' ∨ c = '\r' := by simpa [isJsonSpace] using h
  obtain rfl | rfl | rfl := hc
  · rfl
  · rfl
  · rfl

/-- What the journal relies on: an event that its schema accepts is written as
a text of one line, which `JSON.parse` and the schema read back, also after
white space; a text is not read after another one, nor after blanks that are
not white space of JSON. -/
structure Codec.Lawful (T : Codec) : Prop where
  line : ∀ event, T.accepts event → '\n' ∉ T.stringify event
  visible : ∀ event, T.accepts event → ¬(T.stringify event).all isSpace
  reads : ∀ event, T.accepts event → ∀ blanks : Text, blanks.all isJsonSpace →
    T.parse (blanks ++ T.stringify event) = some event
  refuses : ∀ event, T.accepts event → ∀ before : Text, ¬before.all isJsonSpace →
    (before.all isSpace ∨ (T.parse before).isSome) → T.parse (before ++ T.stringify event) = none

theorem initializeFrom_eq_ok {content : Text} : initializeFrom T binding content = .ok events ↔
    (lines content).zipIdx.foldlM (readLine T binding) [] = .ok events ∧ Consistent events := by
  simp only [initializeFrom, bind_eq_ok, pure_eq_ok, Consistent]
  constructor
  · rintro ⟨_, hread, seen, hseen, rfl⟩
    exact ⟨hread, seen, hseen⟩
  · rintro ⟨hread, seen, hseen⟩
    exact ⟨events, hread, seen, hseen, rfl⟩

theorem readLine_blank {line : Text × ℕ} (h : line.1.all isSpace) : readLine T binding events line = .ok events := by
  rw [readLine, if_pos h]

/-- A line that is read is blank or one event. -/
theorem readLine_cases {line : Text × ℕ} {events' : List TransportAttemptEvent}
    (h : readLine T binding events line = .ok events') : line.1.all isSpace ∨ (T.parse line.1).isSome := by
  unfold readLine at h
  split_ifs at h with hblank
  · exact .inl hblank
  · cases hparse : T.parse line.1 with
    | none => simp [hparse] at h
    | some event => exact .inr rfl

/-- The event continues the journal: it has the binding, the digest of the
event before it and its own. -/
structure Continues (T : Codec) (binding : TransportJournalBinding) (events : List TransportAttemptEvent)
    (event : TransportAttemptEvent) : Prop where
  binding : event.binding = binding
  previous : event.previousEventSha256 = events.getLast?.map (·.eventSha256)
  digest : event.eventSha256 = T.digest event.toUnsignedEvent

theorem makeEvent_continues (drawn : Drawn) (operation : Operation) :
    Continues T binding events (makeEvent T binding events drawn operation) := ⟨rfl, rfl, rfl⟩

/-- A line that holds an event is read just if the event continues the journal. -/
theorem readLine_event {line : Text × ℕ} {events' : List TransportAttemptEvent} (hvisible : ¬line.1.all isSpace)
    (hparse : T.parse line.1 = some event) :
    readLine T binding events line = .ok events' ↔ Continues T binding events event ∧ events ++ [event] = events' := by
  rw [readLine, if_neg hvisible, hparse]
  simp only [bind_eq_ok, throwIf_eq_ok, pure_eq_ok, ne_eq, not_not]
  constructor
  · rintro ⟨-, hbinding, -, hprevious, -, hdigest, rfl⟩
    exact ⟨⟨hbinding, hprevious, hdigest⟩, rfl⟩
  · rintro ⟨⟨hbinding, hprevious, hdigest⟩, rfl⟩
    exact ⟨⟨⟩, hbinding, ⟨⟩, hprevious, ⟨⟩, hdigest, rfl⟩

theorem readLine_garbled {line : Text × ℕ} (hvisible : ¬line.1.all isSpace) (hparse : T.parse line.1 = none) :
    readLine T binding events line = .error (.invalidLine (line.2 + 1)) := by
  rw [readLine, if_neg hvisible, hparse]

/-- Reading a text is reading all of its lines but the last, and then that one. -/
theorem readLines_eq {content : Text} {init : List Text} {last : Text} (h : lines content = init ++ [last]) :
    (lines content).zipIdx.foldlM (readLine T binding) [] = (do
      let before ← init.zipIdx.foldlM (readLine T binding) []
      readLine T binding before (last, init.length)) := by
  rw [h, List.zipIdx_append, List.foldlM_append]
  simp

/-- An appended event shares its line with what the file has after its last
line feed, and an empty line follows. -/
theorem readLines_append {file text : Text} (hline : '\n' ∉ text) :
    (lines (file ++ text ++ ['\n'])).zipIdx.foldlM (readLine T binding) [] = (do
      let before ← (lines file).dropLast.zipIdx.foldlM (readLine T binding) []
      readLine T binding before (lastLine file ++ text, (lines file).dropLast.length)) := by
  have hlines := lines_append_of_not_mem (lines_eq_concat file) hline
  have hall : lines (file ++ text ++ ['\n']) = lines (file ++ text) ++ [[]] := lines_append_cons (file ++ text) []
  rw [readLines_eq hall, readLines_eq hlines]
  refine (bind_congr fun events => ?_).trans (bind_pure _)
  exact readLine_blank rfl

/-- The file with one event more is read just if the event stands on a line of
its own, continues the journal and is admitted. -/
theorem initializeFrom_append (hT : T.Lawful) {file : Text} {events' : List TransportAttemptEvent}
    (hread : initializeFrom T binding file = .ok events) (haccepts : T.accepts event) :
    initializeFrom T binding (file ++ T.stringify event ++ ['\n']) = .ok events' ↔
      (lastLine file).all isJsonSpace ∧ Continues T binding events event ∧ Admits events event ∧
        events ++ [event] = events' := by
  rw [initializeFrom_eq_ok] at hread ⊢
  obtain ⟨hlines, hconsistent⟩ := hread
  rw [readLines_eq (lines_eq_concat file), bind_eq_ok] at hlines
  obtain ⟨before, hbefore, hlast⟩ := hlines
  rw [readLines_append (hT.line event haccepts), hbefore]
  have hvisible : ¬(lastLine file ++ T.stringify event).all isSpace := by
    rw [List.all_append, Bool.and_eq_true, not_and]
    exact fun _ => hT.visible event haccepts
  by_cases hblank : (lastLine file).all isJsonSpace
  · have hspace : (lastLine file).all isSpace :=
      List.all_eq_true.mpr fun c hc => isSpace_of_isJsonSpace (List.all_eq_true.mp hblank c hc)
    rw [readLine_blank hspace] at hlast
    cases hlast
    have hline : readLine T binding events (lastLine file ++ T.stringify event, (lines file).dropLast.length) =
        .ok events' ↔ Continues T binding events event ∧ events ++ [event] = events' :=
      readLine_event hvisible (hT.reads event haccepts _ hblank)
    constructor
    · rintro ⟨hok, hafter⟩
      obtain ⟨hcontinues, rfl⟩ := hline.mp hok
      exact ⟨hblank, hcontinues, (consistent_concat.mp hafter).2, rfl⟩
    · rintro ⟨-, hcontinues, hadmits, rfl⟩
      exact ⟨hline.mpr ⟨hcontinues, rfl⟩, consistent_concat.mpr ⟨hconsistent, hadmits⟩⟩
  · have hnone := hT.refuses event haccepts _ hblank (readLine_cases hlast)
    refine iff_of_false ?_ (fun h => hblank h.1)
    rintro ⟨hok, -⟩
    have hline : readLine T binding before (lastLine file ++ T.stringify event, (lines file).dropLast.length) =
      .ok events' := hok
    rw [readLine_garbled hvisible hnone] at hline
    cases hline

/-! ### What the writers establish -/

/-- The attempt that a completion by its owner ends. -/
def EventBody.completedStart : EventBody → Option String
  | .succeeded id _ _ _ _ _ _ | .failed id _ _ _ => some id
  | .started _ _ _ _ _ | .interrupted _ _ => none

def EventBody.interruptedStart : EventBody → Option String
  | .interrupted id _ => some id
  | _ => none

/-- The start that the owner of an attempt hands back to complete it. -/
def Request.completes : Request → Option TransportAttemptEvent
  | .begin _ _ _ _ => none
  | .success started _ _ | .failure started _ _ => some started

def Operation.completedStart : Operation → Option String
  | .request call => call.completes.map (·.eventId)
  | .interrupt _ _ => none

/-- The start of the attempt that an operation ends. -/
def Operation.ends : Operation → Option TransportAttemptEvent
  | .request call => call.completes
  | .interrupt _ started => some started

/-- The attempts that their owners have completed, or have asked to. -/
def Journal.completed (J : Journal) : List String :=
  J.events.filterMap (·.body.completedStart) ++ J.queue.filterMap Operation.completedStart

/-- An attempt is completed by the owner of a start that the journal returned,
at most once, and random ids are new. -/
def ByOwner (J : Journal) : Event → Prop
  | .call request => ∀ started ∈ request.completes,
      started ∈ J.events ∧ started.isStarted ∧ started.eventId ∉ J.completed
  | .runNext drawn => drawn.eventId ∉ J.events.map (·.eventId)
  | .markOpenAttemptsInterrupted | .continueMark _ => True

instance decidableByOwner (J : Journal) : DecidablePred (ByOwner J)
  | .call request => inferInstanceAs (Decidable (∀ started ∈ request.completes, _))
  | .runNext drawn => inferInstanceAs (Decidable (drawn.eventId ∉ _))
  | .markOpenAttemptsInterrupted | .continueMark _ => isTrue trivial

/-- The operation writes nothing that the reader refuses after these events: a
start presents distinct supports, a completion comes before an interruption,
an interruption while the attempt is open. -/
def Operation.Undisputed (events : List TransportAttemptEvent) : Operation → Prop
  | .request (.begin _ input _ _) => (input.supports.map (·.supportId)).Nodup
  | .request (.success started _ _) | .request (.failure started _ _) =>
    ∀ event ∈ events, event.body.interruptedStart ≠ some started.eventId
  | .interrupt _ started => terminalForStart events started.eventId = none

instance decidableOperationUndisputed (events : List TransportAttemptEvent) :
    DecidablePred (Operation.Undisputed events)
  | .request (.begin _ input _ _) => inferInstanceAs (Decidable (input.supports.map (·.supportId)).Nodup)
  | .request (.success started _ _) | .request (.failure started _ _) =>
    inferInstanceAs (Decidable (∀ event ∈ events, event.body.interruptedStart ≠ some started.eventId))
  | .interrupt _ started => inferInstanceAs (Decidable (terminalForStart events started.eventId = none))

variable (T binding) in
/-- Where the next operation writes an event, the file ends with a line feed
and the operation is undisputed. -/
def Undisputed (J : Journal) : Event → Prop
  | .runNext drawn =>
    match J.queue with
    | [] => True
    | operation :: _ => T.accepts (makeEvent T binding J.events drawn operation) →
        (lastLine J.file).all isJsonSpace ∧ operation.Undisputed J.events
  | _ => True

instance decidableUndisputed (J : Journal) : DecidablePred (Undisputed T binding J)
  | .runNext drawn => by
    unfold Undisputed
    cases J.queue <;> infer_instance
  | .call _ | .markOpenAttemptsInterrupted | .continueMark _ => isTrue trivial

/-- The queue and the marks hold starts of the journal, and each start at most
once that its owner completes and has not completed. -/
structure Orderly (J : Journal) : Prop where
  queued : ∀ operation ∈ J.queue, ∀ started, operation.ends = some started → started ∈ J.events ∧ started.isStarted
  marked : ∀ mark ∈ J.marks, ∀ started ∈ mark.remaining, started ∈ J.events ∧ started.isStarted
  once : (J.queue.filterMap Operation.completedStart).Nodup
  pending : ∀ id ∈ J.queue.filterMap Operation.completedStart,
    id ∉ J.events.filterMap (·.body.completedStart)

theorem startedEventId_eq_some {body : EventBody} {id : String} : body.startedEventId = some id ↔
    body.completedStart = some id ∨ body.interruptedStart = some id := by
  cases body <;> simp [EventBody.startedEventId, EventBody.completedStart, EventBody.interruptedStart]

variable {operation : Operation} {drawn : Drawn}

variable (T binding events drawn) in
/-- The event of an operation that ends an attempt names it. -/
theorem makeEvent_ends {started : TransportAttemptEvent} (h : operation.ends = some started) :
    (makeEvent T binding events drawn operation).attempt = started.attempt ∧
      (makeEvent T binding events drawn operation).body.startedEventId = some started.eventId := by
  rcases operation with ⟨_ | _ | _⟩ | ⟨m, s⟩ <;> cases h <;> exact ⟨rfl, rfl⟩

theorem makeEvent_completedStart : (makeEvent T binding events drawn operation).body.completedStart =
    operation.completedStart := by
  rcases operation with ⟨_ | _ | _⟩ | ⟨m, s⟩ <;> rfl

/-- The numbering and the retry marker of a start are those that the reader
expects. -/
theorem admits_begin {identity : TransportAttemptIdentity} {input : Assistant.ModelInput} {cycleId : String}
    {cycleAttempt : ℤ} (hfresh : drawn.eventId ∉ events.map (·.eventId)) :
    Admits events (makeEvent T binding events drawn (.request (.begin identity input cycleId cycleAttempt))) ↔
      (input.supports.map (·.supportId)).Nodup := by
  constructor
  · intro h
    exact (h.started rfl).1
  · intro hnodup
    refine ⟨hfresh, ?_, fun hid => by cases hid⟩
    intro _ _ _ _ _ hbody
    cases hbody
    refine ⟨hnodup, rfl, decide_eq_decide.mpr ?_⟩
    simp only [makeEvent, Operation.content]
    omega

/-- A terminal event is admitted just if its attempt is open. -/
theorem admits_ends {started : TransportAttemptEvent} (hends : operation.ends = some started)
    (hfresh : drawn.eventId ∉ events.map (·.eventId)) (hstarted : started ∈ events ∧ started.isStarted) :
    Admits events (makeEvent T binding events drawn operation) ↔ terminalForStart events started.eventId = none := by
  obtain ⟨hattempt, hbody⟩ := makeEvent_ends events T binding drawn hends
  constructor
  · intro h
    exact (h.terminal hbody).2
  · intro hopen
    refine ⟨hfresh, ?_, ?_⟩
    · intro _ _ _ _ _ hstart
      rw [hstart] at hbody
      cases hbody
    · intro id hid
      rw [hbody] at hid
      cases hid
      exact ⟨⟨started, hstarted.1, hstarted.2, rfl, hattempt.symm⟩, hopen⟩

/-- Without a completion of its own, an attempt is open until it is interrupted. -/
theorem terminalForStart_eq_none_iff {id : String} (h : id ∉ events.filterMap (·.body.completedStart)) :
    terminalForStart events id = none ↔ ∀ event ∈ events, event.body.interruptedStart ≠ some id := by
  rw [← not_iff_not, ← ne_eq, terminalForStart_ne_none]
  push Not
  refine exists_congr fun event => and_congr_right fun hmem => ?_
  rw [startedEventId_eq_some, or_iff_right]
  exact fun hcompleted => h (List.mem_filterMap.mpr ⟨event, hmem, hcompleted⟩)

variable {J : Journal} {queue : List Operation}

variable (T binding) in
theorem admits_makeEvent (h : Orderly J) (hqueue : J.queue = operation :: queue)
    (hfresh : drawn.eventId ∉ J.events.map (·.eventId)) :
    Admits J.events (makeEvent T binding J.events drawn operation) ↔ operation.Undisputed J.events := by
  have hhead : operation ∈ J.queue := hqueue ▸ List.mem_cons_self
  have hpending : ∀ id, operation.completedStart = some id → id ∉ J.events.filterMap (·.body.completedStart) :=
    fun id hid => h.pending id (List.mem_filterMap.mpr ⟨operation, hhead, hid⟩)
  cases operation with
  | interrupt m started => exact admits_ends rfl hfresh (h.queued _ hhead started rfl)
  | request call =>
    cases call with
    | begin => exact admits_begin hfresh
    | success started | failure started =>
      rw [admits_ends rfl hfresh (h.queued _ hhead started rfl)]
      exact terminalForStart_eq_none_iff (hpending _ rfl)

/-! ### Runs -/

theorem mem_settleMark {accepted : Bool} {mark : MarkCall} (h : mark ∈ settleMark J accepted operation)
    {started : TransportAttemptEvent} (hs : started ∈ mark.remaining) :
    ∃ before ∈ J.marks, started ∈ before.remaining := by
  cases operation with
  | request call => exact ⟨mark, h, hs⟩
  | interrupt m start =>
    obtain ⟨i, hi⟩ := List.mem_iff_getElem?.mp h
    rw [settleMark, List.getElem?_modify] at hi
    obtain ⟨before, hbefore, rfl⟩ := Option.map_eq_some_iff.mp hi
    refine ⟨before, List.mem_of_getElem? hbefore, ?_⟩
    cases accepted <;> split_ifs at hs <;> simp_all

/-- Running the first operation of the queue, whether it writes its event or
not, keeps the rest in order. -/
theorem Orderly.dequeue (h : Orderly J) (hqueue : J.queue = operation :: queue) {events' : List TransportAttemptEvent}
    {file : Text} {accepted : Bool} (hsub : J.events ⊆ events')
    (hnew : ∀ id ∈ events'.filterMap (·.body.completedStart),
      id ∈ J.events.filterMap (·.body.completedStart) ∨ operation.completedStart = some id) :
    Orderly ⟨file, events', queue, settleMark J accepted operation⟩ where
  queued other hother started hends := by
    obtain ⟨hmem, hstart⟩ := h.queued other (hqueue ▸ List.mem_cons_of_mem operation hother) started hends
    exact ⟨hsub hmem, hstart⟩
  marked mark hmark started hstarted := by
    obtain ⟨before, hbefore, hin⟩ := mem_settleMark hmark hstarted
    obtain ⟨hmem, hstart⟩ := h.marked before hbefore started hin
    exact ⟨hsub hmem, hstart⟩
  once := by
    have honce := h.once
    rw [hqueue] at honce
    exact honce.sublist ((List.sublist_cons_self operation queue).filterMap _)
  pending id hid hcompleted := by
    have honce := h.once
    have hpending := h.pending id
    rw [hqueue] at honce hpending
    obtain hbefore | hnow := hnew id hcompleted
    · exact hpending ((List.sublist_cons_self operation queue).filterMap _ |>.subset hid) hbefore
    · rw [List.filterMap_cons_some hnow, List.nodup_cons] at honce
      exact honce.1 hid

theorem orderly_runNext (h : Orderly J) : Orderly (runNext T binding J drawn) := by
  unfold runNext
  cases hqueue : J.queue with
  | nil => exact h
  | cons operation queue =>
    simp only
    split_ifs with haccepts
    · refine h.dequeue hqueue (List.subset_append_left _ _) fun id hid => ?_
      rw [appendEvent, List.filterMap_append, List.mem_append] at hid
      refine hid.imp_right fun hlast => ?_
      obtain ⟨event, hmem, hevent⟩ := List.mem_filterMap.mp hlast
      rw [List.mem_singleton.mp hmem, makeEvent_completedStart] at hevent
      exact hevent
    · exact h.dequeue hqueue (List.Subset.refl _) fun id hid => .inl hid

theorem completedStart_concat (queue : List Operation) (operation : Operation) :
    (queue ++ [operation]).filterMap Operation.completedStart =
      queue.filterMap Operation.completedStart ++ operation.completedStart.toList := by
  cases h : operation.completedStart with
  | none => simp [h]
  | some id => simp [h]

/-- An operation joins the queue. -/
theorem Orderly.enqueue (h : Orderly J) {marks : List MarkCall}
    (hends : ∀ started, operation.ends = some started → started ∈ J.events ∧ started.isStarted)
    (hfirst : ∀ id, operation.completedStart = some id → id ∉ J.completed)
    (hmarks : ∀ mark ∈ marks, ∀ started ∈ mark.remaining, started ∈ J.events ∧ started.isStarted) :
    Orderly { J with queue := J.queue ++ [operation], marks } where
  queued other hother started hstarted := by
    obtain hold | hnew := List.mem_append.mp hother
    · exact h.queued other hold started hstarted
    · rw [List.mem_singleton.mp hnew] at hstarted
      exact hends started hstarted
  marked := hmarks
  once := by
    rw [completedStart_concat, List.nodup_append]
    refine ⟨h.once, by cases operation.completedStart <;> simp, ?_⟩
    rintro id hid _ hlast rfl
    exact hfirst id (Option.mem_toList.mp hlast) (List.mem_append_right _ hid)
  pending id hid := by
    rw [completedStart_concat, List.mem_append] at hid
    obtain hold | hnew := hid
    · exact h.pending id hold
    · exact fun hdone => hfirst id (Option.mem_toList.mp hnew) (List.mem_append_left _ hdone)

theorem orderly_continueMark (h : Orderly J) (m : ℕ) : Orderly (continueMark J m) := by
  unfold continueMark
  split
  · next started remaining hmark =>
    have hremaining := h.marked _ (List.mem_of_getElem? hmark)
    refine h.enqueue ?_ (fun id hid => by cases hid) ?_
    · intro start hends
      cases hends
      exact hremaining started List.mem_cons_self
    · intro mark hin start hstart
      obtain hin | rfl := List.mem_or_eq_of_mem_set hin
      · exact h.marked mark hin start hstart
      · exact hremaining start (List.mem_cons_of_mem started hstart)
  · exact h

theorem orderly_call (h : Orderly J) {request : Request} (howner : ByOwner J (.call request)) :
    Orderly { J with queue := J.queue ++ [.request request] } := by
  refine h.enqueue ?_ ?_ h.marked
  · intro started hends
    obtain ⟨hmem, hstart, -⟩ := howner started hends
    exact ⟨hmem, hstart⟩
  · intro id hid
    obtain ⟨started, hcompletes, rfl⟩ := Option.map_eq_some_iff.mp hid
    exact (howner started hcompletes).2.2

theorem orderly_step (J : Journal) (event : Event) (howner : ByOwner J event) (h : Orderly J) :
    Orderly (step T binding J event) := by
  cases event with
  | call request => exact orderly_call h howner
  | continueMark m => exact orderly_continueMark h m
  | runNext drawn => exact orderly_runNext h
  | markOpenAttemptsInterrupted =>
    have hmarks : Orderly { J with marks := J.marks ++ [⟨openStarts J.events, false⟩] } := by
      refine ⟨h.queued, ?_, h.once, h.pending⟩
      intro mark hmark started hstarted
      obtain hold | hnew := List.mem_append.mp hmark
      · exact h.marked mark hold started hstarted
      · rw [List.mem_singleton.mp hnew] at hstarted
        obtain ⟨hmem, hopen⟩ := List.mem_filter.mp hstarted
        exact ⟨hmem, (of_decide_eq_true hopen).1⟩
    exact orderly_continueMark hmarks J.marks.length

theorem continueMark_file (J : Journal) (m : ℕ) : (continueMark J m).file = J.file := by
  unfold continueMark
  split
  · rfl
  · rfl

/-- Only the file that the journal was initialized from may lack a line feed at
its end. -/
theorem lastLine_step (J : Journal) (event : Event) (h : (lastLine J.file).all isJsonSpace) :
    (lastLine (step T binding J event).file).all isJsonSpace := by
  cases event with
  | call request => exact h
  | markOpenAttemptsInterrupted =>
    rw [step, continueMark_file]
    exact h
  | continueMark m =>
    rw [step, continueMark_file]
    exact h
  | runNext drawn =>
    simp only [step, runNext]
    cases J.queue with
    | nil => exact h
    | cons operation queue =>
      simp only
      split_ifs
      · rw [appendEvent, lastLine_concat]
        rfl
      · exact h

/-- A fresh journal reads the file back and has the same events. -/
def ReadsBack (T : Codec) (binding : TransportJournalBinding) (J : Journal) : Prop :=
  initializeFrom T binding J.file = .ok J.events

theorem readsBack_continueMark (h : ReadsBack T binding J) (m : ℕ) : ReadsBack T binding (continueMark J m) := by
  unfold continueMark
  split
  · exact h
  · exact h

/-- One step: the file is read back after it just if the step is undisputed. -/
theorem undisputed_iff (hT : T.Lawful) (J : Journal) (event : Event) (howner : ByOwner J event) (h : Orderly J)
    (hread : ReadsBack T binding J) : Undisputed T binding J event ↔ ReadsBack T binding (step T binding J event) := by
  cases event with
  | call request => exact iff_of_true trivial hread
  | markOpenAttemptsInterrupted =>
    have hmarks : ReadsBack T binding { J with marks := J.marks ++ [⟨openStarts J.events, false⟩] } := hread
    exact iff_of_true trivial (readsBack_continueMark hmarks J.marks.length)
  | continueMark m => exact iff_of_true trivial (readsBack_continueMark hread m)
  | runNext drawn =>
    simp only [Undisputed, step, runNext]
    cases hqueue : J.queue with
    | nil => exact iff_of_true trivial hread
    | cons operation queue =>
      simp only
      split_ifs with haccepts
      · rw [← admits_makeEvent T binding h hqueue howner, forall_prop_of_true haccepts]
        refine Iff.symm ((initializeFrom_append hT hread haccepts).trans (and_congr_right fun _ => ?_))
        exact (and_iff_right (makeEvent_continues drawn operation)).trans (and_iff_left rfl)
      · exact iff_of_true (fun hyes => absurd hyes haccepts) hread

theorem orderly_initialized (hqueue : J.queue = []) (hmarks : J.marks = []) : Orderly J where
  queued := by simp [hqueue]
  marked := by simp [hmarks]
  once := by simp [hqueue]
  pending := by simp [hqueue]

/-- **Writer and reader agree.** In every run of an initialized journal, in any
interleaving, in which attempts are completed by their owners: after every
beginning of the run a fresh journal reads the file back and has the same
events, just if every event was written to a file that ended with a line feed
by an operation that was undisputed when it ran. -/
theorem journal_reads_back (hT : T.Lawful) {J : Journal} (hinitialized : initializeFrom T binding J.file = .ok J.events)
    (hqueue : J.queue = []) (hmarks : J.marks = []) {events : List Event}
    (howner : Guarded (step T binding) ByOwner J events) :
    Guarded (step T binding) (Undisputed T binding) J events ↔
      ∀ beginning, beginning <+: events → initializeFrom T binding (run (step T binding) J beginning).file =
        .ok (run (step T binding) J beginning).events :=
  guarded_iff_of_guarded (I := Orderly) (P := ReadsBack T binding) orderly_step (undisputed_iff hT) events howner
    (orderly_initialized hqueue hmarks) hinitialized

/-! ### A race -/

/-- The escapes of JSON, other control characters apart. -/
def escape (c : Char) : Text :=
  if c = '"' then ['\\', '"'] else if c = '\\' then ['\\', '\\'] else if c = '\n' then ['\\', 'n'] else [c]

def quote (text : String) : Text := '"' :: text.toList.flatMap escape ++ ['"']

def ErrorCategory.text : ErrorCategory → String
  | .http408 => "http-408"
  | .http409 => "http-409"
  | .http429 => "http-429"
  | .http5xx => "http-5xx"
  | .connectionReset => "connection-reset"
  | .timeout => "timeout"
  | .dnsTemporary => "dns-temporary"
  | .connectionRefused => "connection-refused"
  | .connectionError => "connection-error"
  | .providerError => "provider-error"

/-- `JSON.stringify` of an object with these fields. -/
def objectText (fields : List (String × Text)) : Text :=
  '\x7b' :: [','].intercalate (fields.map fun field => quote field.1 ++ ':' :: field.2) ++ ['\x7d']

def numberText (n : ℤ) : Text := (toString n).toList

def orNull (text : Option Text) : Text := text.getD "null".toList

def EventBody.fields : EventBody → List (String × Text)
  | .started provider model modelInputSha256 presentedSupportIds retry =>
    [("event_type", quote "started"), ("provider", quote provider), ("model", quote model),
      ("model_input_sha256", quote modelInputSha256),
      ("presented_support_ids", '[' :: [','].intercalate (presentedSupportIds.map quote) ++ [']']),
      ("retry", (toString retry).toList)]
  | .succeeded startedEventId durationMs provider model responseId inputTokens outputTokens =>
    [("started_event_id", quote startedEventId), ("duration_ms", numberText durationMs),
      ("event_type", quote "succeeded"), ("provider", quote provider), ("model", quote model),
      ("response_id", orNull (responseId.map quote)), ("input_tokens", orNull (inputTokens.map fun n => numberText n)),
      ("output_tokens", orNull (outputTokens.map fun n => numberText n))]
  | .failed startedEventId durationMs transient errorCategory =>
    [("started_event_id", quote startedEventId), ("duration_ms", numberText durationMs),
      ("event_type", quote "failed"), ("transient", (toString transient).toList),
      ("error_category", quote errorCategory.text)]
  | .interrupted startedEventId durationMs =>
    [("started_event_id", quote startedEventId), ("duration_ms", numberText durationMs),
      ("event_type", quote "interrupted"), ("reason", quote "process-interruption-before-terminal-event")]

def TransportAttemptEvent.fields (event : TransportAttemptEvent) : List (String × Text) :=
  [("schema", quote "EVLLM_MODEL_TRANSPORT_ATTEMPT_EVENT_V1"), ("event_id", quote event.eventId),
    ("previous_event_sha256", orNull (event.previousEventSha256.map quote)),
    ("event_sha256", quote event.eventSha256), ("evaluation_set_id", quote event.binding.evaluationSetId),
    ("source_commit", quote event.binding.sourceCommit), ("freeze_sha256", quote event.binding.freezeSha256),
    ("corpus_file_sha256", quote event.binding.corpusFileSha256),
    ("logical_corpus_sha256", quote event.binding.logicalCorpusSha256),
    ("observation_id", quote event.attempt.observationId), ("case_id", quote event.attempt.caseId),
    ("configuration_id", quote event.attempt.configurationId),
    ("repetition", numberText event.attempt.repetition),
    ("attempt_sequence", numberText event.attempt.attemptSequence), ("cycle_id", quote event.attempt.cycleId),
    ("cycle_attempt", numberText event.attempt.cycleAttempt), ("recorded_at", quote event.recordedAt)] ++
  event.body.fields

def TransportAttemptEvent.text (event : TransportAttemptEvent) : Text := objectText event.fields

theorem quote_line (text : String) : '\n' ∉ quote text := by
  have hescape : ∀ c, '\n' ∉ escape c := by
    intro c
    unfold escape
    split_ifs with hquote hbackslash hfeed
    · decide
    · decide
    · decide
    · simpa using Ne.symm hfeed
  simp [quote, hescape]

theorem numberText_line (n : ℤ) : '\n' ∉ numberText n := by
  have hnat : ∀ m : ℕ, '\n' ∉ (Nat.repr m).toList := by
    intro m hm
    have hdigit := Nat.isDigit_of_mem_toDigits (by decide) (by decide) (Nat.toList_repr ▸ hm)
    exact absurd hdigit (by decide)
  cases n with
  | ofNat m => exact hnat m
  | negSucc m =>
    have hrepr : numberText (Int.negSucc m) = '-' :: (Nat.repr (m + 1)).toList := by
      simp [numberText, toString, Int.repr]
    simpa [hrepr] using hnat (m + 1)

theorem intercalate_line (parts : List Text) (h : ∀ part ∈ parts, '\n' ∉ part) :
    '\n' ∉ [','].intercalate parts := by
  induction parts with
  | nil => simp
  | cons part parts ih =>
    rw [List.forall_mem_cons] at h
    cases parts with
    | nil => simpa using h.1
    | cons next rest => simpa [List.intercalate_cons_cons, h.1] using ih h.2

theorem objectText_line {fields : List (String × Text)} (h : ∀ field ∈ fields, '\n' ∉ field.2) :
    '\n' ∉ objectText fields := by
  have hparts := intercalate_line (fields.map fun field => quote field.1 ++ ':' :: field.2) ?_
  · simp [objectText, hparts]
  · rintro _ hpart
    obtain ⟨field, hfield, rfl⟩ := List.mem_map.mp hpart
    simp [quote_line, h field hfield]

theorem orNull_line {text : Option Text} (h : ∀ t ∈ text, '\n' ∉ t) : '\n' ∉ orNull text := by
  cases text with
  | none => decide
  | some t => exact h t rfl

/-- The text of an event is one line. -/
theorem text_line (event : TransportAttemptEvent) : '\n' ∉ event.text := by
  have hbool : ∀ b : Bool, '\n' ∉ (toString b).toList := by decide
  have hquote : ∀ o : Option String, '\n' ∉ orNull (o.map quote) := fun o =>
    orNull_line (by simp [quote_line])
  have hnumber : ∀ o : Option ℕ, '\n' ∉ orNull (o.map fun n => numberText n) := by
    refine fun o => orNull_line fun t ht => ?_
    obtain ⟨n, -, rfl⟩ := Option.map_eq_some_iff.mp ht
    exact numberText_line n
  have hlist : ∀ ids : List String, '\n' ∉ '[' :: [','].intercalate (ids.map quote) ++ [']'] := by
    intro ids
    have hids := intercalate_line (ids.map quote) (by simp [quote_line])
    simp [hids]
  refine objectText_line (List.forall_mem_append.mpr ⟨?_, ?_⟩)
  · simp only [List.forall_mem_cons, quote_line, numberText_line, hquote, not_false_eq_true, true_and]
    exact fun _ h => nomatch h
  · cases event.body with
    | started | succeeded | failed | interrupted =>
      simp only [EventBody.fields, List.forall_mem_cons, quote_line, numberText_line, hquote, hnumber, hbool, hlist,
        not_false_eq_true, true_and]
      exact fun _ h => nomatch h

theorem objectText_cons_cons (first second third : String × Text) (fields : List (String × Text)) :
    objectText (first :: second :: third :: fields) =
      ('\x7b' :: quote first.1 ++ ':' :: first.2 ++ ',' :: quote second.1 ++ [':']) ++ (second.2 ++
        (',' :: [','].intercalate ((third :: fields).map fun field => quote field.1 ++ ':' :: field.2) ++ ['\x7d'])) := by
  simp [objectText, List.intercalate_cons_cons]

/-- The text begins with the schema and the id. -/
theorem text_prefix (event : TransportAttemptEvent) : ∃ rest, event.text =
    ('\x7b' :: quote "schema" ++ ':' :: quote "EVLLM_MODEL_TRANSPORT_ATTEMPT_EVENT_V1" ++ ',' :: quote "event_id" ++
      [':']) ++ (quote event.eventId ++ rest) :=
  ⟨_, objectText_cons_cons _ _ _ _⟩

def sampleBinding : TransportJournalBinding where
  evaluationSetId := "pilot"
  sourceCommit := "0000000000000000000000000000000000000000"
  freezeSha256 := "0xaaaaaaaaaaaaaaaaaaaaaaaaaaaaaaaaaaaaaaaaaaaaaaaaaaaaaaaaaaaaaaaa"
  corpusFileSha256 := "0xbbbbbbbbbbbbbbbbbbbbbbbbbbbbbbbbbbbbbbbbbbbbbbbbbbbbbbbbbbbbbbbb"
  logicalCorpusSha256 := "0xcccccccccccccccccccccccccccccccccccccccccccccccccccccccccccccccc"

def sampleInput : Assistant.ModelInput where
  question := "Which passport is current?"
  purposeId := "diagnostics"
  asOf := 1700000000
  session := ⟨"s1", "a1", "o1", "c1", "0x1111111111111111111111111111111111111111", 1699990000, 1700003600⟩
  supports := []

def sampleResult : Assistant.ModelResult where
  candidate := ⟨.abstain, none, "No passport is available.", [], [], [], []⟩
  model := "gpt"
  provider := "openai"
  responseId := some "r-1"
  inputTokens := some 10
  outputTokens := some 20

def sampleIdentity : TransportAttemptIdentity := ⟨"o-1", "case-1", "governed-evllm", 1, "openai", "gpt"⟩

def sampleAttempt : AttemptReference :=
  ⟨"o-1", "case-1", "governed-evllm", 1, 1, "00000000-0000-4000-8000-0000000000c1", 1⟩

def sampleStarted : TransportAttemptEvent where
  eventId := "00000000-0000-4000-8000-000000000001"
  previousEventSha256 := none
  binding := sampleBinding
  attempt := sampleAttempt
  recordedAt := "2026-01-01T00:00:00.000Z"
  body := .started "openai" "gpt" "0x234a80ffc43b2b2122645e0660c3732dc69c8f4ba28e82f38d73478bf0e7615a" [] false
  eventSha256 := "0x6c79a83711f5635c3190d2576d1dad25124455cb15541ed131dedb530cd1a210"

def sampleInterrupted : TransportAttemptEvent where
  eventId := "00000000-0000-4000-8000-000000000002"
  previousEventSha256 := some "0x6c79a83711f5635c3190d2576d1dad25124455cb15541ed131dedb530cd1a210"
  binding := sampleBinding
  attempt := sampleAttempt
  recordedAt := "2026-01-01T00:00:01.000Z"
  body := .interrupted "00000000-0000-4000-8000-000000000001" 1000
  eventSha256 := "0xdb4044b971d32c6da1698732dba1691657cb97e2be1a84dbacf018f0c70f1063"

def sampleSucceeded : TransportAttemptEvent where
  eventId := "00000000-0000-4000-8000-000000000003"
  previousEventSha256 := some "0xdb4044b971d32c6da1698732dba1691657cb97e2be1a84dbacf018f0c70f1063"
  binding := sampleBinding
  attempt := sampleAttempt
  recordedAt := "2026-01-01T00:00:02.000Z"
  body := .succeeded "00000000-0000-4000-8000-000000000001" 2000 "openai" "gpt" (some "r-1") (some 10) (some 20)
  eventSha256 := "0x29e0a0493471e4924749cc1222ed36cf2af6b22167934a96cfb73788cb45e0be"

def sampleEvents : List TransportAttemptEvent := [sampleStarted, sampleInterrupted, sampleSucceeded]

/-- JSON and the digests, on the events of the sample. -/
def sampleCodec : Codec where
  accepts event := event ∈ sampleEvents
  stringify := TransportAttemptEvent.text
  parse line := sampleEvents.find? fun event => event.text = line.dropWhile isJsonSpace
  digest unsigned := ((sampleEvents.find? fun event => event.toUnsignedEvent = unsigned).map (·.eventSha256)).getD ""
  inputDigest _ := "0x234a80ffc43b2b2122645e0660c3732dc69c8f4ba28e82f38d73478bf0e7615a"

/-- JSON and the digests, on some events. -/
def codecOf (known : List TransportAttemptEvent) : Codec where
  accepts event := event ∈ known
  stringify := TransportAttemptEvent.text
  parse line := known.find? fun event => event.text = line.dropWhile isJsonSpace
  digest unsigned := ((known.find? fun event => event.toUnsignedEvent = unsigned).map (·.eventSha256)).getD ""
  inputDigest _ := "0x234a80ffc43b2b2122645e0660c3732dc69c8f4ba28e82f38d73478bf0e7615a"

theorem text_eq_cons (event : TransportAttemptEvent) : ∃ rest, event.text = '\x7b' :: rest := ⟨_, rfl⟩

theorem dropWhile_text (event : TransportAttemptEvent) : event.text.dropWhile isJsonSpace = event.text := by
  obtain ⟨rest, hrest⟩ := text_eq_cons event
  rw [hrest]
  exact List.dropWhile_cons_of_neg (by decide)

/-- The ids have one length, and tell the events apart. -/
def ToldApart (known : List TransportAttemptEvent) : Prop :=
  ∀ a ∈ known, ∀ b ∈ known,
    (quote a.eventId).length = (quote b.eventId).length ∧ (quote a.eventId = quote b.eventId → a = b)

instance : DecidablePred ToldApart := fun known =>
  inferInstanceAs (Decidable (∀ a ∈ known, ∀ b ∈ known, _ ∧ _))

section CodecOf

variable {known : List TransportAttemptEvent} (hknown : ToldApart known)

include hknown

/-- The texts of two events differ before either ends. -/
theorem text_append_inj {event other : TransportAttemptEvent} (hevent : event ∈ known)
    (hother : other ∈ known) {x y : Text} (h : event.text ++ x = other.text ++ y) : event = other := by
  obtain ⟨rest, hrest⟩ := text_prefix event
  obtain ⟨rest', hrest'⟩ := text_prefix other
  simp only [hrest, hrest', List.append_assoc, List.cons_append, List.append_cancel_left_eq, List.cons.injEq,
    true_and] at h
  obtain ⟨hlength, hid⟩ := hknown event hevent other hother
  exact hid (List.append_inj h hlength).1

/-- After white space that JSON does not know, or after an event that was read,
no text is read that begins an object. -/
theorem codecOf_refuses {before part : Text} (hbefore : ¬before.all isJsonSpace) (hpart : part ≠ [])
    (hread : before.all isSpace ∨ ((codecOf known).parse before).isSome) :
    (codecOf known).parse (before ++ part) = none := by
  have hrest : before.dropWhile isJsonSpace ≠ [] := by
    intro hnil
    exact hbefore (List.all_eq_true.mpr (List.dropWhile_eq_nil_iff.mp hnil))
  simp only [codecOf, List.find?_eq_none, decide_eq_true_eq]
  rw [List.dropWhile_append, if_neg (by simpa using hrest)]
  intro other hother heq
  obtain hblank | hsome := hread
  · obtain ⟨rest, htext⟩ := text_eq_cons other
    obtain ⟨c, tail, htail⟩ := List.exists_cons_of_ne_nil hrest
    rw [htext, htail, List.cons_append, List.cons.injEq] at heq
    have hc : c ∈ before := (List.dropWhile_sublist isJsonSpace).subset (htail ▸ List.mem_cons_self)
    have hspace := List.all_eq_true.mp hblank c hc
    rw [← heq.1] at hspace
    exact absurd hspace (by decide)
  · obtain ⟨first, hfirst⟩ := Option.isSome_iff_exists.mp hsome
    simp only [codecOf] at hfirst
    have hmem : first ∈ known := List.mem_of_find?_eq_some hfirst
    have hsame : first.text = before.dropWhile isJsonSpace := by simpa using List.find?_some hfirst
    rw [← hsame, ← List.append_nil other.text] at heq
    rw [text_append_inj hknown hother hmem heq, List.append_cancel_left_eq] at heq
    exact hpart heq.symm

theorem codecOf_lawful : (codecOf known).Lawful where
  line event _ := text_line event
  visible event _ := by
    obtain ⟨rest, hrest⟩ := text_eq_cons event
    have hhead : isSpace '\x7b' = false := by decide
    simp [codecOf, hrest, hhead]
  reads event haccepts blanks hblanks := by
    have hmem : event ∈ known := of_decide_eq_true haccepts
    simp only [codecOf]
    rw [List.dropWhile_append_of_pos (List.all_eq_true.mp hblanks), dropWhile_text]
    cases hfind : known.find? fun other => other.text = event.text with
    | none => simpa using List.find?_eq_none.mp hfind event hmem
    | some found =>
      have hsame : found.text = event.text := by simpa using List.find?_some hfind
      rw [text_append_inj hknown (List.mem_of_find?_eq_some hfind) hmem (congrArg (· ++ []) hsame)]
  refuses event _ before hbefore := by
    obtain ⟨rest, hrest⟩ := text_eq_cons event
    exact codecOf_refuses hknown hbefore (by simp [codecOf, hrest])

end CodecOf

theorem sampleEvents_toldApart : ToldApart sampleEvents := by decide +kernel

theorem sampleCodec_lawful : sampleCodec.Lawful := codecOf_lawful sampleEvents_toldApart

def emptyJournal : Journal := ⟨[], [], [], []⟩

/-- An attempt is begun, and interrupted while its owner still has it. -/
def interruptedRun : List Event :=
  [.call (.begin sampleIdentity sampleInput "00000000-0000-4000-8000-0000000000c1" 1),
    .runNext ⟨"00000000-0000-4000-8000-000000000001", "2026-01-01T00:00:00.000Z", 0⟩,
    .markOpenAttemptsInterrupted,
    .runNext ⟨"00000000-0000-4000-8000-000000000002", "2026-01-01T00:00:01.000Z", 1000⟩]

/-- Its owner completes it then. -/
def lateCompletion : Event := .call (.success sampleStarted sampleResult 2000)

def completionRuns : Event := .runNext ⟨"00000000-0000-4000-8000-000000000003", "2026-01-01T00:00:02.000Z", 2000⟩

theorem interruptedRun_byOwner : Guarded (step sampleCodec sampleBinding) ByOwner emptyJournal interruptedRun := by
  decide +kernel

theorem interruptedRun_undisputed :
    Guarded (step sampleCodec sampleBinding) (Undisputed sampleCodec sampleBinding) emptyJournal interruptedRun := by
  have hended : ∀ events, (lastLine (run (step sampleCodec sampleBinding) emptyJournal events).file).all isJsonSpace :=
    fun events => run_invariant (I := fun J : Journal => (lastLine J.file).all isJsonSpace) lastLine_step events rfl
  refine ⟨trivial, fun _ => ⟨hended (interruptedRun.take 1), ?_⟩, trivial, fun _ => ⟨hended (interruptedRun.take 3), ?_⟩,
    trivial⟩
  · decide +kernel
  · decide +kernel

theorem journal_reads_back_interrupted :
    Guarded (step sampleCodec sampleBinding) (Undisputed sampleCodec sampleBinding) emptyJournal interruptedRun ∧
      ∀ beginning, beginning <+: interruptedRun →
        initializeFrom sampleCodec sampleBinding (run (step sampleCodec sampleBinding) emptyJournal beginning).file =
          .ok (run (step sampleCodec sampleBinding) emptyJournal beginning).events :=
  ⟨interruptedRun_undisputed,
    (journal_reads_back sampleCodec_lawful rfl rfl rfl interruptedRun_byOwner).mp interruptedRun_undisputed⟩

/-- A completion that runs after the interruption of its attempt makes the file
unreadable. -/
theorem journal_race_unreadable : sampleCodec.Lawful ∧
    initializeFrom sampleCodec sampleBinding emptyJournal.file = .ok emptyJournal.events ∧
    Guarded (step sampleCodec sampleBinding) ByOwner emptyJournal
      (interruptedRun ++ [lateCompletion, completionRuns]) ∧
    initializeFrom sampleCodec sampleBinding
        (run (step sampleCodec sampleBinding) emptyJournal (interruptedRun ++ [lateCompletion, completionRuns])).file ≠
      .ok (run (step sampleCodec sampleBinding) emptyJournal
        (interruptedRun ++ [lateCompletion, completionRuns])).events := by
  have howner : Guarded (step sampleCodec sampleBinding) ByOwner emptyJournal
      (interruptedRun ++ [lateCompletion, completionRuns]) := by
    decide +kernel
  obtain ⟨hbefore, hcompletion, hlast, -⟩ := (guarded_append interruptedRun _ emptyJournal).mp howner
  have horderly := run_guarded orderly_step interruptedRun hbefore (orderly_initialized rfl rfl)
  have hread : ReadsBack sampleCodec sampleBinding
      (run (step sampleCodec sampleBinding) emptyJournal interruptedRun) :=
    (guarded_iff_of_guarded orderly_step (undisputed_iff sampleCodec_lawful) interruptedRun hbefore
      (orderly_initialized rfl rfl) rfl).mp interruptedRun_undisputed interruptedRun List.prefix_rfl
  have hcompleted : Orderly (step sampleCodec sampleBinding
      (run (step sampleCodec sampleBinding) emptyJournal interruptedRun) lateCompletion) :=
    orderly_step _ _ hcompletion horderly
  have hstill := (undisputed_iff sampleCodec_lawful _ lateCompletion hcompletion horderly hread).mp trivial
  refine ⟨sampleCodec_lawful, rfl, howner, fun hfinal => ?_⟩
  rw [run_append] at hfinal
  -- the interruption is in the journal when the completion runs
  have hundisputed := (undisputed_iff sampleCodec_lawful _ completionRuns hlast hcompleted hstill).mpr hfinal
  have haccepted := hundisputed (by decide +kernel)
  exact absurd haccepted.2 (by decide +kernel)

end Evaluation
end Evllm
