/-
# A command is executed once

Between the lookup of a command and the recording of its result a submission
awaits three callbacks. A second submission of the same id that begins in
between finds nothing recorded and is executed as well (`command_executed_twice`).
That is the only way: in a run in which no submission goes on to be verified
while another of its id is in flight (`Alone`), a command id is executed at
most once, whatever the callbacks answer and in whatever order.

Key definitions: `GatewayChange`, `Alone`, `Exclusive`.
Key theorems: `step_change`, `exclusive_step`, `executed_at_most_once`.
-/
import Mathlib.Data.List.Induction
import Evllm.Marketplace.Gateway

namespace Evllm
namespace Marketplace

open Lib

variable {Payload : Type} {fingerprint : MarketplaceCommand Payload → Option String} {g g' : Gateway Payload}

/-! ### What a step does -/

/-- A stage at which a submission goes on or has failed. -/
def Stage.unrecorded : Stage → Bool
  | .settled (.ok _) => false
  | _ => true

/-- The gateway after an execution whose answer is a transaction hash. -/
def Gateway.recorded (g : Gateway Payload) (index : ℕ) (s : Submission Payload) (transactionHash : String) :
    Gateway Payload :=
  ⟨g.commands.set s.command.commandId ⟨s.fingerprint, ⟨s.command.commandId, transactionHash⟩⟩,
    (g.move index (.settled (.ok ⟨s.command.commandId, transactionHash⟩))).submissions,
    g.executions ++ [⟨s.command, transactionHash⟩]⟩

/-- What an event can do to a gateway. -/
inductive GatewayChange (fingerprint : MarketplaceCommand Payload → Option String) (g : Gateway Payload) :
    Event Payload → Gateway Payload → Prop
  | same (event : Event Payload) : GatewayChange fingerprint g event g
  | began (input : Option (CommandInput Payload)) (time : ℤ) (command : MarketplaceCommand Payload)
      (s : Submission Payload) (parsed : parse input = some command)
      (begins : start fingerprint g.commands command time = some s) :
      GatewayChange fingerprint g (.submit input time) { g with submissions := g.submissions ++ [s] }
  | moved (event : Event Payload) (index : ℕ) (s : Submission Payload) (stage : Stage)
      (found : g.submissions[index]? = some s) (inFlight : s.stage.inFlight = true) (unrecorded : stage.unrecorded = true) :
      GatewayChange fingerprint g event (g.move index stage)
  | executed (event : Event Payload) (index : ℕ) (s : Submission Payload) (transactionHash : String)
      (found : g.submissions[index]? = some s) (inFlight : s.stage.inFlight = true) :
      GatewayChange fingerprint g event (g.recorded index s transactionHash)

theorem checked_unrecorded {next : Stage} (h : next.unrecorded = true) (answer : Option Bool) :
    (next.checked answer).unrecorded = true := by
  cases answer with
  | none => rfl
  | some passed =>
    cases passed with
    | false => rfl
    | true => exact h

theorem finish_change (event : Event Payload) {index : ℕ} {s : Submission Payload}
    (hfound : g.submissions[index]? = some s) (hflight : s.stage.inFlight = true) (answer : Option String) :
    GatewayChange fingerprint g event (g.finish index s answer) := by
  cases answer with
  | none => exact .moved event index s _ hfound hflight rfl
  | some transactionHash =>
    unfold Gateway.finish
    dsimp only
    split_ifs with hhash
    · exact .executed event index s transactionHash hfound hflight
    · exact .moved event index s _ hfound hflight rfl

/-- **What an event does.** -/
theorem step_change (fingerprint : MarketplaceCommand Payload → Option String) (g : Gateway Payload)
    (event : Event Payload) :
    GatewayChange fingerprint g event (step fingerprint g event) := by
  cases event with
  | submit input time =>
    unfold step
    dsimp only
    split
    · exact .same _
    · next s hs =>
      obtain ⟨command, hparsed, hstart⟩ := Option.bind_eq_some_iff.mp hs
      exact .began input time command s hparsed hstart
  | verified index answer =>
    unfold step
    dsimp only
    split
    · next hfound => exact .moved _ index _ _ hfound rfl (checked_unrecorded rfl answer)
    · exact .same _
  | validated index answer =>
    unfold step
    dsimp only
    split
    · next hfound => exact .moved _ index _ _ hfound rfl (checked_unrecorded rfl answer)
    · exact .same _
  | executed index answer =>
    unfold step
    dsimp only
    split
    · next hfound => exact finish_change _ hfound rfl answer
    · exact .same _

/-! ### Submissions after a step -/

theorem move_cases {index i : ℕ} {stage : Stage} {t : Submission Payload}
    (h : (g.move index stage).submissions[i]? = some t) :
    (i ≠ index ∧ g.submissions[i]? = some t) ∨
      (i = index ∧ ∃ s, g.submissions[index]? = some s ∧ t = { s with stage := stage }) := by
  unfold Gateway.move at h
  by_cases hi : i = index
  · subst hi
    rw [List.getElem?_modify_eq] at h
    obtain ⟨s, hs, rfl⟩ := Option.map_eq_some_iff.mp h
    exact .inr ⟨rfl, s, hs, rfl⟩
  · rw [List.getElem?_modify_ne _ _ (Ne.symm hi)] at h
    exact .inl ⟨hi, h⟩

theorem append_cases {i : ℕ} {s t : Submission Payload} (h : (g.submissions ++ [s])[i]? = some t) :
    g.submissions[i]? = some t ∨ (i = g.submissions.length ∧ t = s) := by
  by_cases hi : i < g.submissions.length
  · rw [List.getElem?_append_left hi] at h
    exact .inl h
  · rw [List.getElem?_append_right (by omega), List.getElem?_singleton] at h
    split_ifs at h with hzero
    exact .inr ⟨by omega, (Option.some.inj h).symm⟩

theorem append_keeps {i : ℕ} (s : Submission Payload) {t : Submission Payload} (h : g.submissions[i]? = some t) :
    (g.submissions ++ [s])[i]? = some t := by
  have hlt : i < g.submissions.length := (List.getElem?_eq_some_iff.mp h).1
  rw [List.getElem?_append_left hlt]
  exact h

/-- A move changes the stage of a submission only. -/
theorem move_keeps (index : ℕ) (stage : Stage) {i : ℕ} {s : Submission Payload} (h : g.submissions[i]? = some s) :
    ∃ t, (g.move index stage).submissions[i]? = some t ∧ t.command = s.command ∧ t.fingerprint = s.fingerprint := by
  unfold Gateway.move
  by_cases hi : i = index
  · subst hi
    rw [List.getElem?_modify_eq, h]
    exact ⟨_, rfl, rfl, rfl⟩
  · rw [List.getElem?_modify_ne _ _ (Ne.symm hi)]
    exact ⟨s, h, rfl, rfl⟩

theorem move_origin {index i : ℕ} {stage : Stage} {t : Submission Payload}
    (h : (g.move index stage).submissions[i]? = some t) :
    ∃ s, g.submissions[i]? = some s ∧ t.command = s.command ∧ t.fingerprint = s.fingerprint := by
  obtain ⟨-, hold⟩ | ⟨rfl, s, hs, rfl⟩ := move_cases h
  · exact ⟨t, hold, rfl, rfl⟩
  · exact ⟨s, hs, rfl, rfl⟩

/-- How a submission that has a fingerprint begins. -/
theorem start_cases {commands : JsMap String Recorded} {command : MarketplaceCommand Payload} {time : ℤ}
    {s : Submission Payload} (h : start fingerprint commands command time = some s) :
    s.command = command ∧ fingerprint command = some s.fingerprint ∧
      ((∃ r, commands.get command.commandId = some r ∧ (r.fingerprint ≠ s.fingerprint ∧ s.stage = .settled (.error .conflict) ∨
          r.fingerprint = s.fingerprint ∧ s.stage = .settled (.ok r.result))) ∨
        commands.get command.commandId = none ∧ s.stage.unrecorded = true) := by
  unfold start at h
  obtain ⟨mark, hmark, hs⟩ := Option.map_eq_some_iff.mp h
  rw [hmark]
  cases hprior : commands.get command.commandId with
  | some prior =>
    rw [hprior] at hs
    dsimp only at hs
    split_ifs at hs with hdiffers
    · subst hs
      exact ⟨rfl, rfl, .inl ⟨prior, rfl, .inl ⟨hdiffers, rfl⟩⟩⟩
    · subst hs
      exact ⟨rfl, rfl, .inl ⟨prior, rfl, .inr ⟨not_not.mp hdiffers, rfl⟩⟩⟩
  | none =>
    rw [hprior] at hs
    dsimp only at hs
    split_ifs at hs with hexpired
    · subst hs
      exact ⟨rfl, rfl, .inr ⟨rfl, rfl⟩⟩
    · subst hs
      exact ⟨rfl, rfl, .inr ⟨rfl, rfl⟩⟩

/-! ### One submission at a time -/

/-- The event does not begin a submission that goes on to be verified while
another of its command id is in flight. -/
def Alone (fingerprint : MarketplaceCommand Payload → Option String) (g : Gateway Payload) : Event Payload → Prop
  | .submit input time => ∀ s ∈ (parse input).bind fun command => start fingerprint g.commands command time,
      s.stage.inFlight = true → ∀ t ∈ g.submissions, t.stage.inFlight = true →
        t.command.commandId ≠ s.command.commandId
  | .verified _ _ => True
  | .validated _ _ => True
  | .executed _ _ => True

instance decidableAlone (fingerprint : MarketplaceCommand Payload → Option String) (g : Gateway Payload) :
    ∀ event, Decidable (Alone fingerprint g event)
  | .submit _ _ => inferInstanceAs (Decidable (∀ s ∈ Option.bind _ _, _))
  | .verified _ _ => isTrue trivial
  | .validated _ _ => isTrue trivial
  | .executed _ _ => isTrue trivial

/-- The executions of a command id. -/
def Gateway.executionsOf (g : Gateway Payload) (commandId : String) : List (Execution Payload) :=
  g.executions.filter fun e => e.command.commandId = commandId

/-- What a run of submissions that keep out of each other's way keeps: one
submission of an id is in flight, and only while nothing is recorded for the
id; what is recorded was executed, once, for a submission; and what a
submission has returned is recorded. -/
structure Exclusive (fingerprint : MarketplaceCommand Payload → Option String) (g : Gateway Payload) : Prop where
  alone : ∀ (i j : ℕ) (s t : Submission Payload), g.submissions[i]? = some s → g.submissions[j]? = some t → s.stage.inFlight = true →
    t.stage.inFlight = true → s.command.commandId = t.command.commandId → i = j
  marked : ∀ (i : ℕ) (s : Submission Payload), g.submissions[i]? = some s → fingerprint s.command = some s.fingerprint
  fresh : ∀ (i : ℕ) (s : Submission Payload), g.submissions[i]? = some s → s.stage.inFlight = true →
    g.commands.get s.command.commandId = none
  returned : ∀ (i : ℕ) (s : Submission Payload) (result : MarketplaceCommandResult), g.submissions[i]? = some s →
    s.stage = .settled (.ok result) →
    ∃ r, g.commands.get s.command.commandId = some r ∧ r.fingerprint = s.fingerprint ∧ r.result = result
  unexecuted : ∀ commandId, g.commands.get commandId = none → g.executionsOf commandId = []
  executed : ∀ commandId r, g.commands.get commandId = some r →
    ∃ (i : ℕ) (s : Submission Payload) (transactionHash : String), g.submissions[i]? = some s ∧
    s.fingerprint = r.fingerprint ∧ s.command.commandId = commandId ∧ r.result = ⟨commandId, transactionHash⟩ ∧
    g.executionsOf commandId = [⟨s.command, transactionHash⟩]

theorem exclusive_new : Exclusive fingerprint (.new : Gateway Payload) where
  alone _ _ _ _ h := by cases h
  marked _ _ h := by cases h
  fresh _ _ h := by cases h
  returned _ _ _ h := by cases h
  unexecuted _ _ := rfl
  executed _ _ h := by cases h

theorem exclusive_began {command : MarketplaceCommand Payload} {time : ℤ} {s : Submission Payload}
    (hg : Exclusive fingerprint g) (hstart : start fingerprint g.commands command time = some s)
    (halone : s.stage.inFlight = true → ∀ t ∈ g.submissions, t.stage.inFlight = true →
      t.command.commandId ≠ s.command.commandId) :
    Exclusive fingerprint { g with submissions := g.submissions ++ [s] } := by
  obtain ⟨hcommand, hmark, hstage⟩ := start_cases hstart
  constructor
  · intro i j t u ht hu htflight huflight hsame
    obtain htold | ⟨rfl, rfl⟩ := append_cases ht
    · obtain huold | ⟨rfl, rfl⟩ := append_cases hu
      · exact hg.alone i j t u htold huold htflight huflight hsame
      · exact absurd hsame (halone huflight t (List.mem_of_getElem? htold) htflight)
    · obtain huold | ⟨rfl, rfl⟩ := append_cases hu
      · exact absurd hsame.symm (halone htflight u (List.mem_of_getElem? huold) huflight)
      · rfl
  · intro i t ht
    obtain ht | ⟨-, rfl⟩ := append_cases ht
    · exact hg.marked i t ht
    · rw [hcommand]
      exact hmark
  · intro i t ht hflight
    obtain ht | ⟨-, rfl⟩ := append_cases ht
    · exact hg.fresh i t ht hflight
    · rw [hcommand]
      obtain ⟨r, -, ⟨-, hsettled⟩ | ⟨-, hsettled⟩⟩ | ⟨hnone, -⟩ := hstage
      · rw [hsettled] at hflight
        cases hflight
      · rw [hsettled] at hflight
        cases hflight
      · exact hnone
  · intro i t result ht hok
    obtain ht | ⟨-, rfl⟩ := append_cases ht
    · exact hg.returned i t result ht hok
    · rw [hcommand]
      obtain ⟨r, hget, ⟨-, hsettled⟩ | ⟨hsame, hsettled⟩⟩ | ⟨-, hunrecorded⟩ := hstage
      · rw [hsettled] at hok
        cases hok
      · rw [hsettled] at hok
        cases hok
        exact ⟨r, hget, hsame, rfl⟩
      · rw [hok] at hunrecorded
        cases hunrecorded
  · exact hg.unexecuted
  · intro commandId r hr
    obtain ⟨i, t, transactionHash, ht, hrest⟩ := hg.executed commandId r hr
    exact ⟨i, t, transactionHash, append_keeps s ht, hrest⟩

theorem exclusive_moved {index : ℕ} {s : Submission Payload} {stage : Stage} (hg : Exclusive fingerprint g)
    (hfound : g.submissions[index]? = some s) (hflight : s.stage.inFlight = true) (hunrecorded : stage.unrecorded = true) :
    Exclusive fingerprint (g.move index stage) := by
  have hbefore : ∀ (i : ℕ) (t : Submission Payload), (g.move index stage).submissions[i]? = some t →
      t.stage.inFlight = true → ∃ u, g.submissions[i]? = some u ∧ u.stage.inFlight = true ∧ u.command = t.command := by
    intro i t ht htflight
    obtain ⟨-, hold⟩ | ⟨rfl, u, hu, rfl⟩ := move_cases ht
    · exact ⟨t, hold, htflight, rfl⟩
    · rw [hfound] at hu
      cases hu
      exact ⟨s, hfound, hflight, rfl⟩
  constructor
  · intro i j t u ht hu htflight huflight hsame
    obtain ⟨t', ht', htflight', htcommand⟩ := hbefore i t ht htflight
    obtain ⟨u', hu', huflight', hucommand⟩ := hbefore j u hu huflight
    rw [← htcommand, ← hucommand] at hsame
    exact hg.alone i j t' u' ht' hu' htflight' huflight' hsame
  · intro i t ht
    obtain ⟨u, hu, hcommand, hmark⟩ := move_origin ht
    rw [hcommand, hmark]
    exact hg.marked i u hu
  · intro i t ht htflight
    obtain ⟨u, hu, huflight, hcommand⟩ := hbefore i t ht htflight
    rw [← hcommand]
    exact hg.fresh i u hu huflight
  · intro i t result ht hok
    obtain ⟨-, hold⟩ | ⟨-, u, -, rfl⟩ := move_cases ht
    · exact hg.returned i t result hold hok
    · dsimp only at hok
      rw [hok] at hunrecorded
      cases hunrecorded
  · exact hg.unexecuted
  · intro commandId r hr
    obtain ⟨i, t, transactionHash, ht, hmark, hid, hrest⟩ := hg.executed commandId r hr
    obtain ⟨u, hu, hcommand, hfingerprint⟩ := move_keeps index stage ht
    refine ⟨i, u, transactionHash, hu, ?_, ?_, ?_⟩
    · rw [hfingerprint, hmark]
    · rw [hcommand, hid]
    · rw [hcommand]
      exact hrest

theorem executionsOf_recorded (index : ℕ) (s : Submission Payload) (transactionHash commandId : String) :
    (g.recorded index s transactionHash).executionsOf commandId =
      if s.command.commandId = commandId then g.executionsOf commandId ++ [⟨s.command, transactionHash⟩]
      else g.executionsOf commandId := by
  unfold Gateway.executionsOf Gateway.recorded
  rw [List.filter_append]
  split_ifs with hid
  · simp [hid]
  · simp [hid]

theorem exclusive_recorded {index : ℕ} {s : Submission Payload} (transactionHash : String) (hg : Exclusive fingerprint g)
    (hfound : g.submissions[index]? = some s) (hflight : s.stage.inFlight = true) :
    Exclusive fingerprint (g.recorded index s transactionHash) := by
  have hfresh := hg.fresh index s hfound hflight
  have hbefore : ∀ (i : ℕ) (t : Submission Payload), (g.recorded index s transactionHash).submissions[i]? = some t →
      t.stage.inFlight = true → i ≠ index ∧ g.submissions[i]? = some t := by
    intro i t ht htflight
    obtain hold | ⟨-, u, -, rfl⟩ := move_cases ht
    · exact hold
    · cases htflight
  constructor
  · intro i j t u ht hu htflight huflight hsame
    exact hg.alone i j t u (hbefore i t ht htflight).2 (hbefore j u hu huflight).2 htflight huflight hsame
  · intro i t ht
    obtain ⟨u, hu, hcommand, hmark⟩ := move_origin ht
    rw [hcommand, hmark]
    exact hg.marked i u hu
  · intro i t ht htflight
    obtain ⟨hne, hold⟩ := hbefore i t ht htflight
    have hid : s.command.commandId ≠ t.command.commandId := by
      intro heq
      exact hne (hg.alone i index t s hold hfound htflight hflight heq.symm)
    unfold Gateway.recorded
    rw [JsMap.get_set_ne _ _ hid]
    exact hg.fresh i t hold htflight
  · intro i t result ht hok
    unfold Gateway.recorded
    obtain ⟨-, hold⟩ | ⟨-, u, hu, rfl⟩ := move_cases ht
    · obtain ⟨r, hr, hrest⟩ := hg.returned i t result hold hok
      have hid : s.command.commandId ≠ t.command.commandId := by
        intro heq
        rw [heq, hr] at hfresh
        cases hfresh
      exact ⟨r, by rw [JsMap.get_set_ne _ _ hid, hr], hrest⟩
    · rw [hfound] at hu
      cases hu
      cases hok
      exact ⟨_, JsMap.get_set_self _ _ _, rfl, rfl⟩
  · intro commandId hnone
    unfold Gateway.recorded at hnone
    rw [JsMap.get_set] at hnone
    split_ifs at hnone with hid
    rw [executionsOf_recorded, if_neg hid]
    exact hg.unexecuted commandId hnone
  · intro commandId r hr
    unfold Gateway.recorded at hr
    rw [JsMap.get_set] at hr
    rw [executionsOf_recorded]
    split_ifs at hr with hid
    · subst hid
      obtain rfl := Option.some.inj hr
      obtain ⟨t, ht, hcommand, hmark⟩ :=
        move_keeps index (.settled (.ok ⟨s.command.commandId, transactionHash⟩)) hfound
      refine ⟨index, t, transactionHash, ht, hmark, ?_, rfl, ?_⟩
      · rw [hcommand]
      · rw [if_pos rfl, hg.unexecuted _ hfresh, hcommand]
        rfl
    · obtain ⟨i, t, otherHash, ht, hmark, hcommandId, hresult, hexecutions⟩ := hg.executed commandId r hr
      obtain ⟨u, hu, hcommand, hfingerprint⟩ :=
        move_keeps index (.settled (.ok ⟨s.command.commandId, transactionHash⟩)) ht
      refine ⟨i, u, otherHash, hu, ?_, ?_, hresult, ?_⟩
      · rw [hfingerprint, hmark]
      · rw [hcommand, hcommandId]
      · rw [if_neg hid, hexecutions, hcommand]

/-- What is recorded stays recorded. -/
def Stays (g g' : Gateway Payload) : Prop :=
  ∀ commandId r, g.commands.get commandId = some r → g'.commands.get commandId = some r

/-- **A step that begins no second submission of an id in flight** keeps the
invariant and what is recorded. -/
theorem exclusive_step {event : Event Payload} (hg : Exclusive fingerprint g) (halone : Alone fingerprint g event) :
    Exclusive fingerprint (step fingerprint g event) ∧ Stays g (step fingerprint g event) := by
  have hchange := step_change fingerprint g event
  generalize step fingerprint g event = g' at hchange ⊢
  cases hchange with
  | same => exact ⟨hg, fun _ _ h => h⟩
  | began input time command s parsed begins =>
    have hbegins : s ∈ (parse input).bind fun command => start fingerprint g.commands command time :=
      Option.bind_eq_some_iff.mpr ⟨command, parsed, begins⟩
    exact ⟨exclusive_began hg begins (halone s hbegins), fun _ _ h => h⟩
  | moved _ index s stage found inFlight unrecorded =>
    exact ⟨exclusive_moved hg found inFlight unrecorded, fun _ _ h => h⟩
  | executed _ index s transactionHash found inFlight =>
    refine ⟨exclusive_recorded transactionHash hg found inFlight, fun commandId r hr => ?_⟩
    have hid : s.command.commandId ≠ commandId := by
      intro heq
      have hfresh := hg.fresh index s found inFlight
      rw [heq, hr] at hfresh
      cases hfresh
    unfold Gateway.recorded
    rw [JsMap.get_set_ne _ _ hid, hr]

theorem exclusive_run {ls : List (Event Payload)} (hg : Exclusive fingerprint g)
    (hguard : Guarded (step fingerprint) (Alone fingerprint) g ls) :
    Exclusive fingerprint (run (step fingerprint) g ls) ∧ Stays g (run (step fingerprint) g ls) := by
  refine run_guarded (I := fun g' => Exclusive fingerprint g' ∧ Stays g g') (fun g' event halone hg' => ?_) ls hguard
    ⟨hg, fun _ _ h => h⟩
  obtain ⟨hexclusive, hstays⟩ := exclusive_step hg'.1 halone
  exact ⟨hexclusive, fun commandId r hr => hstays commandId r (hg'.2 commandId r hr)⟩

/-! ### The commands of a run -/

/-- The command that an event submits. -/
def submitted : Event Payload → Option (MarketplaceCommand Payload)
  | .submit input _ => parse input
  | _ => none

/-- No two different commands that are submitted have the same digest. -/
def NoCollision (fingerprint : MarketplaceCommand Payload → Option String) (ls : List (Event Payload)) : Prop :=
  ∀ c ∈ ls.filterMap submitted, ∀ c' ∈ ls.filterMap submitted, fingerprint c = fingerprint c' → c = c'

theorem step_submitted {event : Event Payload} {i : ℕ} {t : Submission Payload}
    (h : (step fingerprint g event).submissions[i]? = some t) :
    (∃ u ∈ g.submissions, u.command = t.command) ∨ submitted event = some t.command := by
  have hchange := step_change fingerprint g event
  generalize step fingerprint g event = g' at hchange h
  cases hchange with
  | same => exact .inl ⟨t, List.mem_of_getElem? h, rfl⟩
  | began input time command s parsed begins =>
    obtain hold | ⟨-, rfl⟩ := append_cases h
    · exact .inl ⟨t, List.mem_of_getElem? hold, rfl⟩
    · rw [(start_cases begins).1]
      exact .inr parsed
  | moved =>
    obtain ⟨u, hu, hcommand, -⟩ := move_origin h
    exact .inl ⟨u, List.mem_of_getElem? hu, hcommand.symm⟩
  | executed =>
    obtain ⟨u, hu, hcommand, -⟩ := move_origin h
    exact .inl ⟨u, List.mem_of_getElem? hu, hcommand.symm⟩

/-- A submission is of a command that was submitted. -/
theorem run_submitted (fingerprint : MarketplaceCommand Payload → Option String) (ls : List (Event Payload)) : ∀ s ∈ (run (step fingerprint) .new ls).submissions,
    s.command ∈ ls.filterMap submitted := by
  induction ls using List.reverseRecOn with
  | nil => exact fun s hs => absurd hs List.not_mem_nil
  | append_singleton ls event ih =>
    intro s hs
    rw [run_append, run_cons, run_nil] at hs
    obtain ⟨i, hi⟩ := List.mem_iff_getElem?.mp hs
    rw [List.filterMap_append, List.mem_append]
    obtain ⟨u, hu, hcommand⟩ | hsubmitted := step_submitted hi
    · rw [← hcommand]
      exact .inl (ih u hu)
    · exact .inr (List.mem_filterMap.mpr ⟨event, List.mem_singleton_self event, hsubmitted⟩)

/-! ### Every run -/

theorem result_eq_ok {commandId : String} {result : MarketplaceCommandResult} :
    g.result commandId = .ok result ↔ ∃ r, g.commands.get commandId = some r ∧ r.result = result := by
  unfold Gateway.result
  cases hget : g.commands.get commandId with
  | none => simp
  | some r => simp

/-- What is executed for an id is what is recorded for it. -/
theorem Exclusive.executed_mem (hg : Exclusive fingerprint g) {e : Execution Payload} (he : e ∈ g.executions) :
    ∃ r, g.commands.get e.command.commandId = some r ∧ fingerprint e.command = some r.fingerprint ∧
      ∃ s ∈ g.submissions, s.command = e.command := by
  have hmem : e ∈ g.executionsOf e.command.commandId := List.mem_filter.mpr ⟨he, by simp⟩
  cases hget : g.commands.get e.command.commandId with
  | none =>
    rw [hg.unexecuted _ hget] at hmem
    exact absurd hmem List.not_mem_nil
  | some r =>
    obtain ⟨i, s, transactionHash, hs, hmark, -, -, hexecutions⟩ := hg.executed _ r hget
    rw [hexecutions] at hmem
    have hcommand : e.command = s.command := by rw [List.mem_singleton.mp hmem]
    refine ⟨r, rfl, ?_, s, List.mem_of_getElem? hs, hcommand.symm⟩
    rw [hcommand, ← hmark]
    exact hg.marked i s hs

/-- A submission under the id of another command that has a result is in
conflict with it. -/
theorem start_conflict {e : Execution Payload} {command : MarketplaceCommand Payload} {mark : String}
    (hg : Exclusive fingerprint g) (he : e ∈ g.executions) (hid : e.command.commandId = command.commandId)
    (hmark : fingerprint command = some mark) (hdiffers : fingerprint e.command ≠ fingerprint command) (time : ℤ) :
    start fingerprint g.commands command time = some ⟨command, mark, .settled (.error .conflict)⟩ := by
  obtain ⟨r, hr, hfingerprint, -⟩ := hg.executed_mem he
  rw [hid] at hr
  have hne : r.fingerprint ≠ mark := by
    intro heq
    rw [hfingerprint, heq, hmark] at hdiffers
    exact hdiffers rfl
  unfold start
  rw [hmark, Option.map_some, hr]
  dsimp only
  rw [if_pos hne]

theorem Exclusive.once (hg : Exclusive fingerprint g) (commandId : String) :
    (g.executionsOf commandId).length ≤ 1 := by
  cases hget : g.commands.get commandId with
  | none =>
    rw [hg.unexecuted commandId hget]
    exact Nat.zero_le 1
  | some r =>
    obtain ⟨_, _, _, -, -, -, -, hexecutions⟩ := hg.executed commandId r hget
    rw [hexecutions]
    exact Nat.le_refl 1

/-- The digests tell the commands of the submissions apart. -/
def Distinguishes (fingerprint : MarketplaceCommand Payload → Option String) (g : Gateway Payload) : Prop :=
  ∀ s ∈ g.submissions, ∀ t ∈ g.submissions, fingerprint s.command = fingerprint t.command → s.command = t.command

theorem Exclusive.returned_once (hg : Exclusive fingerprint g) (hdistinct : Distinguishes fingerprint g)
    {s : Submission Payload} (hs : s ∈ g.submissions) {result : MarketplaceCommandResult}
    (hok : s.stage = .settled (.ok result)) : g.result s.command.commandId = .ok result ∧
      g.executionsOf s.command.commandId = [⟨s.command, result.transactionHash⟩] := by
  obtain ⟨i, hi⟩ := List.mem_iff_getElem?.mp hs
  obtain ⟨r, hr, hmark, hresult⟩ := hg.returned i s result hi hok
  obtain ⟨j, t, transactionHash, ht, htmark, -, hrecorded, hexecutions⟩ := hg.executed _ r hr
  have hsame : fingerprint t.command = fingerprint s.command := by
    rw [hg.marked j t ht, hg.marked i s hi, htmark, hmark]
  have hcommand : t.command = s.command := hdistinct t (List.mem_of_getElem? ht) s hs hsame
  refine ⟨result_eq_ok.mpr ⟨r, hr, hresult⟩, ?_⟩
  rw [hexecutions, hcommand, ← hresult, hrecorded]

/-- A submission under the id of another command that was executed has failed. -/
theorem Exclusive.failed (hg : Exclusive fingerprint g) (hdistinct : Distinguishes fingerprint g)
    {s : Submission Payload} (hs : s ∈ g.submissions) {e : Execution Payload} (he : e ∈ g.executions)
    (hid : e.command.commandId = s.command.commandId) (hne : e.command ≠ s.command) :
    ∃ error, s.stage = .settled (.error error) := by
  obtain ⟨i, hi⟩ := List.mem_iff_getElem?.mp hs
  obtain ⟨r, hr, -⟩ := hg.executed_mem he
  rw [hid] at hr
  have hflight : ¬s.stage.inFlight = true := by
    intro hflight
    have hfresh := hg.fresh i s hi hflight
    rw [hr] at hfresh
    cases hfresh
  cases hstage : s.stage with
  | verifying =>
    rw [hstage] at hflight
    exact absurd rfl hflight
  | validating =>
    rw [hstage] at hflight
    exact absurd rfl hflight
  | executing =>
    rw [hstage] at hflight
    exact absurd rfl hflight
  | settled outcome =>
    cases outcome with
    | error error => exact ⟨error, rfl⟩
    | ok result =>
      have hmem : e ∈ g.executionsOf s.command.commandId := List.mem_filter.mpr ⟨he, by simp [hid]⟩
      rw [(hg.returned_once hdistinct hs hstage).2] at hmem
      rw [List.mem_singleton.mp hmem] at hne
      exact absurd rfl hne

theorem step_submit {input : Option (CommandInput Payload)} {time : ℤ} {command : MarketplaceCommand Payload}
    {s : Submission Payload} (hparsed : parse input = some command)
    (hstart : start fingerprint g.commands command time = some s) :
    step fingerprint g (.submit input time) = { g with submissions := g.submissions ++ [s] } := by
  have hbind : ((parse input).bind fun command => start fingerprint g.commands command time) = some s :=
    Option.bind_eq_some_iff.mpr ⟨command, hparsed, hstart⟩
  unfold step
  dsimp only
  rw [hbind]

/-- **A command is executed at most once.** In every run in which no submission
goes on to be verified while another of its command id is in flight, at every
point of it: an id was executed at most once; a submission that has returned
has returned the recorded result, of the one execution of its own command; a
submission of another command under that id has failed, and one that is made
from then on fails with a conflict; and a recorded result does not change. -/
theorem executed_at_most_once (fingerprint : MarketplaceCommand Payload → Option String) (ls ms : List (Event Payload))
    (hcollision : NoCollision fingerprint (ls ++ ms))
    (hguard : Guarded (step fingerprint) (Alone fingerprint) .new (ls ++ ms)) :
    (∀ commandId, ((run (step fingerprint) .new ls).executionsOf commandId).length ≤ 1) ∧
    (∀ s ∈ (run (step fingerprint) .new ls).submissions, ∀ result, s.stage = .settled (.ok result) →
      (run (step fingerprint) .new ls).result s.command.commandId = .ok result ∧
      (run (step fingerprint) .new ls).executionsOf s.command.commandId = [⟨s.command, result.transactionHash⟩]) ∧
    (∀ s ∈ (run (step fingerprint) .new ls).submissions, ∀ e ∈ (run (step fingerprint) .new ls).executions,
      e.command.commandId = s.command.commandId → e.command ≠ s.command → ∃ error, s.stage = .settled (.error error)) ∧
    (∀ e ∈ (run (step fingerprint) .new ls).executions, ∀ input time ms' command mark, ms = .submit input time :: ms' →
      parse input = some command → fingerprint command = some mark → e.command.commandId = command.commandId →
      e.command ≠ command → (run (step fingerprint) .new (ls ++ [.submit input time])).submissions =
        (run (step fingerprint) .new ls).submissions ++ [⟨command, mark, .settled (.error .conflict)⟩]) ∧
    (∀ commandId result, (run (step fingerprint) .new ls).result commandId = .ok result →
      (run (step fingerprint) .new (ls ++ ms)).result commandId = .ok result) := by
  obtain ⟨hbefore, hafter⟩ := (guarded_append ls ms _).mp hguard
  obtain ⟨hg, -⟩ := exclusive_run exclusive_new hbefore
  have hearlier : ∀ c, c ∈ ls.filterMap submitted → c ∈ (ls ++ ms).filterMap submitted := by
    intro c hc
    rw [List.filterMap_append]
    exact List.mem_append_left _ hc
  have hsubmitted := run_submitted fingerprint ls
  have hstays := (exclusive_run hg hafter).2
  have hdistinct : Distinguishes fingerprint (run (step fingerprint) .new ls) := fun s hs t ht hsame =>
    hcollision _ (hearlier _ (hsubmitted s hs)) _ (hearlier _ (hsubmitted t ht)) hsame
  refine ⟨hg.once, fun s hs result hok => hg.returned_once hdistinct hs hok,
    fun s hs e he hid hne => hg.failed hdistinct hs he hid hne, ?_, fun commandId result hresult => ?_⟩
  · intro e he input time ms' command mark hms hparsed hmark hid hne
    obtain ⟨-, -, -, s, hs, hcommand⟩ := hg.executed_mem he
    have hlater : command ∈ (ls ++ ms).filterMap submitted := by
      rw [hms, List.filterMap_append, List.filterMap_cons]
      simp [submitted, hparsed]
    have hdiffers : fingerprint e.command ≠ fingerprint command := by
      intro heq
      rw [← hcommand] at heq hne
      exact hne (hcollision _ (hearlier _ (hsubmitted s hs)) _ hlater heq)
    rw [run_append, run_cons, run_nil, step_submit hparsed (start_conflict hg he hid hmark hdiffers time)]
  · obtain ⟨r, hr, hvalue⟩ := result_eq_ok.mp hresult
    rw [run_append]
    exact result_eq_ok.mpr ⟨r, hstays commandId r hr, hvalue⟩

/-! ### Two submissions of one command -/

namespace Sample

def commandId : String := "urn:evllm:command:00000000-0000-4000-8000-000000000001"

/-- A settlement with no payload; the payload is given as its canonical JSON. -/
def input (nonce : String) : CommandInput String where
  schema := "EVLLM_MARKETPLACE_COMMAND_V1"
  commandId := commandId
  kind := "settle"
  signerActorId := "urn:evllm:actor:00000000-0000-4000-8000-000000000002"
  signerOrganizationId := "urn:evllm:org:00000000-0000-4000-8000-000000000003"
  signerCredentialId := "urn:evllm:credential:00000000-0000-4000-8000-000000000004"
  signerAddress := "0x1111111111111111111111111111111111111111"
  issuedAt := 100
  expiresAt := 200
  nonce := nonce
  idempotencyKeyHash := "0x0000000000000000000000000000000000000000000000000000000000000000"
  payload := "\x7b\x7d"
  signature := "0x2222222222222222222222222222222222222222222222222222222222222222222222222222222222222222222222222222222222222222222222222222222222"

def nonce₁ : String := "0x1111111111111111111111111111111111111111111111111111111111111111"
def nonce₂ : String := "0x2222222222222222222222222222222222222222222222222222222222222222"

/-- The digests of the commands with these two nonces. -/
def digest (command : MarketplaceCommand String) : Option String :=
  if command.nonce = nonce₁ then some "JkxzW9L3jZhpiuu4CBvUddCKOIXh4JYd9EovGu8Hch0"
  else if command.nonce = nonce₂ then some "SzrZkVDwIyYuPDGc6hEa9Qr4xKin5DSuG2zwotlA1lU"
  else none

def hash₁ : String := "0xaaaaaaaaaaaaaaaaaaaaaaaaaaaaaaaaaaaaaaaaaaaaaaaaaaaaaaaaaaaaaaaa"
def hash₂ : String := "0xbbbbbbbbbbbbbbbbbbbbbbbbbbbbbbbbbbbbbbbbbbbbbbbbbbbbbbbbbbbbbbbb"

/-- A command is submitted again before its first submission is executed. -/
def retried : List (Event String) :=
  [.submit (some (input nonce₁)) 150, .submit (some (input nonce₁)) 150, .verified 0 (some true),
    .validated 0 (some true), .verified 1 (some true), .validated 1 (some true), .executed 0 (some hash₁),
    .executed 1 (some hash₂)]

/-- A command is submitted, executed and submitted again. -/
def settled : List (Event String) :=
  [.submit (some (input nonce₁)) 150, .verified 0 (some true), .validated 0 (some true), .executed 0 (some hash₁),
    .submit (some (input nonce₁)) 160]

end Sample

open Sample in
/-- Both submissions are executed, and the second result replaces the first. -/
theorem command_executed_twice :
    ((run (step digest) .new retried).executionsOf commandId).map Execution.transactionHash = [hash₁, hash₂] ∧
    (run (step digest) .new (retried.take 7)).result commandId = .ok ⟨commandId, hash₁⟩ ∧
    (run (step digest) .new retried).result commandId = .ok ⟨commandId, hash₂⟩ := by
  decide +kernel

open Sample in
/-- The second submission returns what the first recorded, and a different
command under the id is in conflict. -/
theorem executed_at_most_once_settled :
    ((run (step digest) .new settled).executionsOf commandId).length ≤ 1 ∧
    (run (step digest) .new (settled ++ [.submit (some (input nonce₂)) 170])).result commandId =
      .ok ⟨commandId, hash₁⟩ := by
  have hcollision : NoCollision digest (settled ++ [.submit (some (input nonce₂)) 170]) := by
    unfold NoCollision
    decide +kernel
  have hguard : Guarded (step digest) (Alone digest) .new (settled ++ [.submit (some (input nonce₂)) 170]) := by
    decide +kernel
  have hresult : (run (step digest) .new settled).result commandId = .ok ⟨commandId, hash₁⟩ := by
    decide +kernel
  obtain ⟨honce, -, -, -, hstays⟩ := executed_at_most_once digest settled _ hcollision hguard
  exact ⟨honce commandId, hstays commandId _ hresult⟩

end Marketplace
end Evllm
