/-
# A journal whose appends fail, and the model that writes to it

`appendEvent` of `src/evaluation/transport-attempt-journal.ts` opens the file,
writes a line, syncs and closes it, and adds the event to those in memory at
the end. Each of these can fail; what was written by then stays in the file, and
the queue goes on with the next operation.

`JournaledAssistantModel.generate` begins an attempt, asks the provider and
completes the attempt. The completion of a success is inside of the `try`: when
it fails, the `catch` block completes the same attempt as a failure.

Key definitions: `AppendOutcome`, `GenerateCall`, `Journaled`, `Journaled.step`.
Key theorem: `step_acknowledged`, without failures the journal is that of
`Evaluation.step`.
-/
import Evllm.Evaluation.TransportJournal

namespace Evllm
namespace Evaluation

open Lib

/-! ### Appends that fail -/

/-- The first characters of a text. A character of which only some bytes were
written is read as the replacement character. -/
def torn (text : Text) (chars : ℕ) (cut : Bool) : Text :=
  text.take chars ++ if cut ∧ text[chars]?.any (128 ≤ ·.toNat) then [Char.ofNat 0xFFFD] else []

/-- How `appendEvent` ends. When opening fails no characters are written; when
`sync` or `close` fails, all of them. -/
inductive AppendOutcome where
  | acknowledged
  | failed (chars : ℕ) (cut : Bool) (error : Thrown)

/-- What is in the file of a line. -/
def AppendOutcome.written (line : Text) : AppendOutcome → Text
  | .acknowledged => line
  | .failed chars cut _ => torn line chars cut

/-! ### The model -/

/-- Where a call of `generate` is. It awaits the operation with a number, or
goes on by itself. -/
inductive Phase where
  /-- Awaits `beginAttempt`. -/
  | beginning (operation : ℕ)
  /-- `beginAttempt` has rejected. -/
  | refused (error : Thrown)
  /-- Awaits the provider. -/
  | calling (started : TransportAttemptEvent)
  /-- Awaits `completeSuccess`. -/
  | succeeding (started : TransportAttemptEvent) (result : Assistant.ModelResult) (operation : ℕ)
  /-- `completeSuccess` has resolved. -/
  | succeeded (started : TransportAttemptEvent) (result : Assistant.ModelResult)
  /-- `completeSuccess` has rejected; the `catch` block comes next. -/
  | rejected (started : TransportAttemptEvent) (result : Assistant.ModelResult) (error : Thrown)
  /-- Awaits `completeFailure`. -/
  | failing (started : TransportAttemptEvent) (result : Option Assistant.ModelResult) (error : Thrown) (operation : ℕ)
  | returned (started : TransportAttemptEvent) (result : Assistant.ModelResult)
  | threw (started : TransportAttemptEvent) (result : Option Assistant.ModelResult) (error : Thrown)

/-- The start of a call whose provider has returned a result. -/
def Phase.succeededStart : Phase → Option TransportAttemptEvent
  | .succeeding started _ _ | .succeeded started _ | .rejected started _ _ | .returned started _ => some started
  | .failing started result _ _ | .threw started result _ => result.map fun _ => started
  | .beginning _ | .refused _ | .calling _ => none

/-- The operation has run, with this result. -/
def Phase.settle (operation : ℕ) (result : Except Thrown TransportAttemptEvent) : Phase → Phase
  | .beginning awaited =>
    if awaited = operation then
      match result with
      | .ok started => .calling started
      | .error error => .refused error
    else .beginning awaited
  | .succeeding started answer awaited =>
    if awaited = operation then
      match result with
      | .ok _ => .succeeded started answer
      | .error error => .rejected started answer error
    else .succeeding started answer awaited
  | .failing started answer error awaited =>
    if awaited = operation then
      match result with
      | .ok _ => .threw started answer error
      | .error failure => .threw started answer failure
    else .failing started answer error awaited
  | phase => phase

structure JournaledAssistantModel where
  identity : TransportAttemptIdentity
  cycleId : String
  cycleAttempt : ℤ
  lastInput : Option Assistant.ModelInput
  lastResult : Option Assistant.ModelResult

structure GenerateCall where
  model : ℕ
  phase : Phase

/-- A journal and the models that write to it; `ran` operations have run. -/
structure Journaled where
  journal : Journal
  ran : ℕ
  models : List JournaledAssistantModel
  calls : List GenerateCall

namespace Journaled

inductive Event where
  | call (request : Request)
  | markOpenAttemptsInterrupted
  | continueMark (mark : ℕ)
  /-- A `JournaledAssistantModel` is constructed. -/
  | construct (identity : TransportAttemptIdentity) (cycleId : String)
  | generate (model : ℕ) (input : Assistant.ModelInput)
  /-- The provider of a call returns or throws. -/
  | answer (call : ℕ) (answer : Except Thrown Assistant.ModelResult) (durationMs : ℤ)
  /-- A call goes on after `completeSuccess`. -/
  | continueGenerate (call : ℕ) (durationMs : ℤ)
  /-- The first operation of the queue runs. -/
  | runNext (drawn : Drawn) (outcome : AppendOutcome)

variable (T : Codec) (binding : TransportJournalBinding) (S : Journaled)

/-- `enqueue`. -/
def enqueue (request : Request) : Journal := { S.journal with queue := S.journal.queue ++ [.request request] }

/-- The number of the operation that is queued next. -/
def nextOperation : ℕ := S.ran + S.journal.queue.length

def setPhase (c : ℕ) (phase : Phase) : List GenerateCall := S.calls.modify c fun call => { call with phase }

def generate (m : ℕ) (input : Assistant.ModelInput) : Journaled :=
  match S.models[m]? with
  | none => S
  | some model =>
    let cycleAttempt := model.cycleAttempt + 1
    { S with
      journal := S.enqueue (.begin model.identity input model.cycleId cycleAttempt)
      models := S.models.set m { model with lastInput := some input, cycleAttempt }
      calls := S.calls ++ [⟨m, .beginning S.nextOperation⟩] }

def answer (c : ℕ) (answer : Except Thrown Assistant.ModelResult) (durationMs : ℤ) : Journaled :=
  match S.calls[c]? with
  | some ⟨_, .calling started⟩ =>
    match answer with
    | .ok result =>
      { S with
        journal := S.enqueue (.success started result durationMs)
        calls := S.setPhase c (.succeeding started result S.nextOperation) }
    | .error error =>
      { S with
        journal := S.enqueue (.failure started error durationMs)
        calls := S.setPhase c (.failing started none error S.nextOperation) }
  | _ => S

def continueGenerate (c : ℕ) (durationMs : ℤ) : Journaled :=
  match S.calls[c]? with
  | some ⟨m, .succeeded started result⟩ =>
    { S with
      models := S.models.modify m fun model => { model with lastResult := some result }
      calls := S.setPhase c (.returned started result) }
  | some ⟨_, .rejected started result error⟩ =>
    { S with
      journal := S.enqueue (.failure started error durationMs)
      calls := S.setPhase c (.failing started (some result) error S.nextOperation) }
  | _ => S

/-- The error of a schema. -/
def zodError : Thrown := .object false false none none none

/-- `appendEvent` of an event that its schema may refuse. -/
def append (event : TransportAttemptEvent) (outcome : AppendOutcome) : Except Thrown TransportAttemptEvent :=
  if T.accepts event then
    match outcome with
    | .acknowledged => .ok event
    | .failed _ _ error => .error error
  else .error zodError

def runNext (drawn : Drawn) (outcome : AppendOutcome) : Journaled :=
  match S.journal.queue with
  | [] => S
  | operation :: queue =>
    let event := makeEvent T binding S.journal.events drawn operation
    let result := append T event outcome
    { S with
      journal := {
        file := if T.accepts event then S.journal.file ++ outcome.written (T.stringify event ++ ['\n'])
          else S.journal.file
        events := S.journal.events ++ result.toOption.toList
        queue
        marks := settleMark S.journal result.isOk operation }
      ran := S.ran + 1
      calls := S.calls.map fun call => { call with phase := call.phase.settle S.ran result } }

def step : Event → Journaled
  | .call request => { S with journal := S.enqueue request }
  | .markOpenAttemptsInterrupted =>
    { S with journal := Evaluation.step T binding S.journal .markOpenAttemptsInterrupted }
  | .continueMark m => { S with journal := Evaluation.step T binding S.journal (.continueMark m) }
  | .construct identity cycleId => { S with models := S.models ++ [⟨identity, cycleId, 0, none, none⟩] }
  | .generate m input => S.generate m input
  | .answer c answer durationMs => S.answer c answer durationMs
  | .continueGenerate c durationMs => S.continueGenerate c durationMs
  | .runNext drawn outcome => S.runNext T binding drawn outcome

/-! ### Without failures -/

/-- What the journal sees of a step: an operation that is queued, or its own step. -/
inductive Follows (J : Journal) : Journal → Prop where
  | unchanged : Follows J J
  | stepped (event : Evaluation.Event) : Follows J (Evaluation.step T binding J event)

variable {T binding S}

theorem runNext_acknowledged (drawn : Drawn) :
    (S.runNext T binding drawn .acknowledged).journal = Evaluation.step T binding S.journal (.runNext drawn) := by
  unfold runNext
  cases hqueue : S.journal.queue with
  | nil => simp [Evaluation.step, Evaluation.runNext, hqueue]
  | cons operation queue =>
    simp only [Evaluation.step, Evaluation.runNext, hqueue, append]
    split_ifs with haccepts
    · simp [appendEvent, AppendOutcome.written, Except.toOption, Except.isOk, Except.toBool, haccepts]
    · simp [Except.toOption, Except.isOk, Except.toBool, haccepts]

/-- Appends that are acknowledged are those of `Evaluation.step`. -/
theorem step_acknowledged (event : Event) (h : ∀ drawn outcome, event = .runNext drawn outcome → outcome = .acknowledged) :
    Follows T binding S.journal (S.step T binding event).journal := by
  cases event with
  | call request => exact .stepped (.call request)
  | markOpenAttemptsInterrupted => exact .stepped .markOpenAttemptsInterrupted
  | continueMark m => exact .stepped (.continueMark m)
  | construct identity cycleId => exact .unchanged
  | generate m input =>
    simp only [step, generate]
    split
    · exact .unchanged
    · exact .stepped (.call _)
  | answer c answer durationMs =>
    simp only [step, Journaled.answer]
    split
    · split
      · exact .stepped (.call _)
      · exact .stepped (.call _)
    · exact .unchanged
  | continueGenerate c durationMs =>
    simp only [step, continueGenerate]
    split
    · exact .unchanged
    · exact .stepped (.call _)
    · exact .unchanged
  | runNext drawn outcome =>
    obtain rfl := h drawn outcome rfl
    rw [step, runNext_acknowledged]
    exact .stepped (.runNext drawn)

end Journaled
end Evaluation
end Evllm
