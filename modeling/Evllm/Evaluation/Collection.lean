/-
# The collection of the formal evaluation

`scripts/collect-formal-evaluation.ts`: a process opens the store, takes the
items of the plan that it has no observation of, and lets several workers
collect them. A worker takes the next index, collects the observation of that
item and puts its append behind the others; the appends run one at a time. A
process may end at any moment, and one whose collection or append fails ends.
Processes run one after another over one file, of one plan and binding (the
manifest of the run is compared when a process begins).

Whatever ends a process, the next one finds the plan's observations that were
acknowledged, each once, or a line that is no record, which it refuses.

Key definitions: `Process`, `Collector`, `step`, `Good`.
Key theorems: `step_sound`, `collection_exact`.
-/
import Evllm.Evaluation.ObservationStore
import Evllm.Lib.Run

namespace Evllm
namespace Evaluation
namespace Collection

open Lib
open scoped List

/-! ### Processes -/

/-- Where a worker is. -/
inductive Worker (ρ : Type) where
  /-- Is about to take an index. -/
  | ready
  /-- Awaits `collect`. -/
  | collecting (item : FormalPlanItem)
  /-- Awaits `append`. -/
  | appending (record : StoredObservation ρ)
  | returned

structure Process (ρ : Type) where
  store : Observations ρ
  pending : List FormalPlanItem
  nextIndex : ℕ
  workers : List (Worker ρ)
  /-- The workers whose appends have not run, in the order of `appendTail`. -/
  appendTail : List ℕ

/-- The file, the process that runs, if one does, and the records whose appends
were acknowledged. -/
structure Collector (ρ : Type) where
  file : Text
  process : Option (Process ρ)
  acknowledged : List (StoredObservation ρ)

/-- What is fixed for all processes of a run. -/
structure Setup where
  plan : List FormalPlanItem
  binding : EvaluationBinding
  concurrency : ℕ

inductive Event (ρ : Type) where
  /-- A process begins. -/
  | start
  | take (worker : ℕ)
  /-- The `collect` of a worker resolves. -/
  | collected (worker : ℕ) (content : ρ)
  /-- The first of the appends that wait runs. -/
  | runAppend (outcome : AppendOutcome)
  /-- The process ends before its time: it is killed, or a `collect` or the
  report of the progress throws. -/
  | stop

variable {ρ : Type}

/-- `observation`. -/
def observation (binding : EvaluationBinding) (item : FormalPlanItem) (content : ρ) : StoredObservation ρ where
  observationId := item.observationId
  formalEvidence := true
  binding := binding
  caseId := item.caseId
  configurationId := item.configurationId.text
  repetition := item.repetition
  content := content

variable (T : ObservationCodec ρ) (setup : Setup)

/-- A process with an open store. -/
def Process.begin (store : Observations ρ) : Process ρ :=
  let pending := setup.plan.filter fun item => (store.get item.observationId).isNone
  { store := store
    pending := pending
    nextIndex := 0
    workers := List.replicate (min setup.concurrency pending.length) .ready
    appendTail := [] }

variable (P : Process ρ)

/-- A worker takes `nextIndex`, and returns if it is past the end. -/
def Process.take (w : ℕ) : Process ρ :=
  match P.workers[w]? with
  | some .ready =>
    { P with
      nextIndex := P.nextIndex + 1
      workers := P.workers.set w
        (match P.pending[P.nextIndex]? with
        | none => .returned
        | some item => .collecting item) }
  | _ => P

def Process.collected (w : ℕ) (content : ρ) : Process ρ :=
  match P.workers[w]? with
  | some (.collecting item) =>
    { P with
      workers := P.workers.set w (.appending (observation setup.binding item content))
      appendTail := P.appendTail ++ [w] }
  | _ => P

/-- The first append runs, in a file with this content. -/
def Process.runAppend (S : Collector ρ) (outcome : AppendOutcome) : Collector ρ :=
  match P.appendTail with
  | [] => S
  | w :: appendTail =>
    match P.workers[w]? with
    | some (.appending record) =>
      match append T P.store S.file record outcome with
      | (file, .ok store) =>
        { file := file
          process := some { P with store := store, workers := P.workers.set w .ready, appendTail := appendTail }
          acknowledged := S.acknowledged ++ [record] }
      | (file, .error _) => { S with file := file, process := none }
    | _ => { S with process := some { P with appendTail := appendTail } }

def step (S : Collector ρ) : Event ρ → Collector ρ
  | .start =>
    match S.process, openStore T setup.binding S.file with
    | none, .ok store => { S with process := some (.begin setup store) }
    | _, _ => S
  | .take w => { S with process := S.process.map fun P => P.take w }
  | .collected w content => { S with process := S.process.map fun P => P.collected setup w content }
  | .runAppend outcome =>
    match S.process with
    | none => S
    | some P => P.runAppend T S outcome
  | .stop => { S with process := none }

/-- No process, and no file. -/
def Collector.new : Collector ρ := ⟨[], none, []⟩

/-- All workers of the process have returned. -/
def Process.Finished : Prop := ∀ worker ∈ P.workers, worker = .returned

/-! ### The plan's cells -/

/-- The cell that a worker has in hand. -/
def Worker.cells : Worker ρ → List ObservationCell
  | .ready | .returned => []
  | .collecting item => [item.cell]
  | .appending record => [record.cell]

/-- The cells of the plan, by where they are: in the store, with a worker, or
still to be taken. -/
def Process.cells (found : List (StoredObservation ρ)) : List ObservationCell :=
  found.map (·.cell) ++ (P.workers.flatMap Worker.cells ++ (P.pending.drop P.nextIndex).map (·.cell))

/-- What a process keeps while it has read and written `found`. -/
structure Process.Conserves (found : List (StoredObservation ρ)) : Prop where
  stored : P.store.Indexes (·.observationId) found
  cells : (P.cells found).Perm (setup.plan.map (·.cell))
  bound : ∀ record, .appending record ∈ P.workers → record.Bound setup.binding
  returned : .returned ∈ P.workers → P.pending.length ≤ P.nextIndex
  staffed : P.workers = [] → P.pending = []

/-- The file has these records: cells of the plan, all that were acknowledged
among them, which the process knows. -/
structure Good (S : Collector ρ) (found : List (StoredObservation ρ)) : Prop where
  file : Holds T S.file found
  accepted : ∀ record ∈ found, T.accepts record ∧ record.Bound setup.binding
  planned : (found.map (·.cell)).Subperm (setup.plan.map (·.cell))
  acknowledged : ∀ record ∈ S.acknowledged, record ∈ found
  process : ∀ P, S.process = some P → P.Conserves setup found

/-- The file has the records of the plan, or is not read any more. -/
def Sound (S : Collector ρ) : Prop :=
  (∃ found, Good T setup S found) ∨ (Spoiled T S.file ∧ (S.process = none ∨ Lost T S.file))

/-! ### One step -/

section Workers

variable {P}

/-- The cells of the workers, where one of them changes. -/
theorem exists_others {w : ℕ} {worker : Worker ρ} (h : P.workers[w]? = some worker) :
    ∃ others, ∀ worker', ((P.workers.set w worker').flatMap Worker.cells).Perm (worker'.cells ++ others) := by
  refine ⟨(P.workers.take w).flatMap Worker.cells ++ (P.workers.drop (w + 1)).flatMap Worker.cells, fun worker' => ?_⟩
  obtain ⟨hlt, -⟩ := List.getElem?_eq_some_iff.mp h
  rw [List.set_eq_take_append_cons_drop, if_pos hlt, List.flatMap_append, List.flatMap_cons]
  exact List.perm_append_comm_assoc _ _ _

theorem set_self {w : ℕ} {worker : Worker ρ} (h : P.workers[w]? = some worker) : P.workers.set w worker = P.workers := by
  obtain ⟨hlt, rfl⟩ := List.getElem?_eq_some_iff.mp h
  exact List.set_getElem_self hlt

theorem cells_of_worker {w : ℕ} {worker : Worker ρ} (h : P.workers[w]? = some worker) :
    ∃ others, (P.workers.flatMap Worker.cells).Perm (worker.cells ++ others) ∧
      ∀ worker', ((P.workers.set w worker').flatMap Worker.cells).Perm (worker'.cells ++ others) := by
  obtain ⟨others, hothers⟩ := exists_others h
  refine ⟨others, ?_, hothers⟩
  have hself := hothers worker
  rwa [set_self h] at hself

end Workers

variable {T setup P} {S : Collector ρ} {found : List (StoredObservation ρ)}

theorem mem_workers_set {w : ℕ} {worker worker' : Worker ρ} (h : worker ∈ P.workers.set w worker') :
    worker = worker' ∨ worker ∈ P.workers := (List.mem_or_eq_of_mem_set h).symm

theorem workers_set_ne_nil {w : ℕ} {worker worker' : Worker ρ} (h : P.workers[w]? = some worker) :
    P.workers.set w worker' ≠ [] := by
  intro hnil
  rw [List.set_eq_nil_iff] at hnil
  rw [hnil] at h
  simp at h

theorem Process.Conserves.take (h : P.Conserves setup found) (w : ℕ) : (P.take w).Conserves setup found := by
  unfold Process.take
  split
  · rename_i hworker
    obtain ⟨others, hbefore, hafter⟩ := cells_of_worker hworker
    cases hitem : P.pending[P.nextIndex]? with
    | none =>
      have hend : P.pending.length ≤ P.nextIndex := List.getElem?_eq_none_iff.mp hitem
      refine ⟨h.stored, ?_, ?_, fun _ => ?_, fun hnil => absurd hnil (workers_set_ne_nil hworker)⟩
      · refine List.Perm.trans ?_ h.cells
        have hdrop : P.pending.drop (P.nextIndex + 1) = P.pending.drop P.nextIndex := by
          rw [List.drop_eq_nil_of_le hend, List.drop_eq_nil_of_le (by omega)]
        simp only [Process.cells, hdrop]
        exact (((hafter .returned).trans hbefore.symm).append_right _).append_left _
      · intro record hmem
        obtain heq | hmem := mem_workers_set hmem
        · cases heq
        · exact h.bound record hmem
      · exact Nat.le_succ_of_le hend
    | some item =>
      obtain ⟨hlt, hget⟩ := List.getElem?_eq_some_iff.mp hitem
      refine ⟨h.stored, ?_, ?_, ?_, fun hnil => absurd hnil (workers_set_ne_nil hworker)⟩
      · refine List.Perm.trans ?_ h.cells
        simp only [Process.cells]
        refine List.Perm.append_left _ ?_
        -- the item goes from those that are to be taken to the worker
        calc (P.workers.set w (.collecting item)).flatMap Worker.cells ++ (P.pending.drop (P.nextIndex + 1)).map (·.cell)
          _ ~ ([item.cell] ++ others) ++ (P.pending.drop (P.nextIndex + 1)).map (·.cell) :=
            (hafter (.collecting item)).append_right _
          _ ~ others ++ item.cell :: (P.pending.drop (P.nextIndex + 1)).map (·.cell) := List.perm_middle.symm
          _ ~ P.workers.flatMap Worker.cells ++ (P.pending.drop P.nextIndex).map (·.cell) := by
            rw [List.drop_eq_getElem_cons hlt, hget, List.map_cons]
            exact hbefore.symm.append_right _
      · intro record hmem
        obtain heq | hmem := mem_workers_set hmem
        · cases heq
        · exact h.bound record hmem
      · intro hmem
        obtain heq | hmem := mem_workers_set hmem
        · cases heq
        · exact Nat.le_succ_of_le (h.returned hmem)
  · exact h

theorem Process.Conserves.collected (h : P.Conserves setup found) (w : ℕ) (content : ρ) :
    (P.collected setup w content).Conserves setup found := by
  unfold Process.collected
  split
  · rename_i item hworker
    obtain ⟨others, hbefore, hafter⟩ := cells_of_worker hworker
    refine ⟨h.stored, ?_, ?_, ?_, fun hnil => absurd hnil (workers_set_ne_nil hworker)⟩
    · have hsame : (P.workers.set w (.appending (observation setup.binding item content))).flatMap Worker.cells ~
          P.workers.flatMap Worker.cells := (hafter _).trans hbefore.symm
      exact List.Perm.trans ((hsame.append_right _).append_left _) h.cells
    · intro record hmem
      obtain heq | hmem := mem_workers_set hmem
      · cases heq
        exact ⟨rfl, rfl⟩
      · exact h.bound record hmem
    · intro hmem
      obtain heq | hmem := mem_workers_set hmem
      · cases heq
      · exact h.returned hmem
  · exact h

/-- The record that a worker appends is not stored yet. -/
theorem Process.Conserves.not_stored (h : P.Conserves setup found) (hplan : (setup.plan.map (·.observationId)).Nodup)
    {record : StoredObservation ρ} (hmem : .appending record ∈ P.workers) :
    record.observationId ∉ found.map (·.observationId) := by
  have hids : ((P.cells found).map (·.observationId)).Nodup := by
    rw [(h.cells.map _).nodup_iff, List.map_map]
    exact hplan
  rw [Process.cells, List.map_append, List.nodup_append] at hids
  obtain ⟨-, -, happart⟩ := hids
  intro hstored
  have hleft : record.observationId ∈ (found.map (·.cell)).map (·.observationId) := by
    rwa [List.map_map]
  refine happart _ hleft record.observationId ?_ rfl
  rw [List.map_append, List.mem_append]
  left
  refine List.mem_map.mpr ⟨record.cell, List.mem_flatMap.mpr ⟨_, hmem, ?_⟩, rfl⟩
  simp [Worker.cells]

/-- A worker whose append returns has its record in the store. -/
theorem Process.Conserves.appended (h : P.Conserves setup found) (hplan : (setup.plan.map (·.observationId)).Nodup)
    {w : ℕ} {record : StoredObservation ρ} (hworker : P.workers[w]? = some (.appending record)) (appendTail : List ℕ) :
    Process.Conserves setup
      { P with
        store := P.store.set record.observationId record
        workers := P.workers.set w .ready
        appendTail := appendTail } (found ++ [record]) := by
  obtain ⟨others, hbefore, hafter⟩ := cells_of_worker hworker
  have hnew := h.not_stored hplan (List.mem_of_getElem? hworker)
  refine ⟨h.stored.set hnew, ?_, ?_, ?_, fun hnil => absurd hnil (workers_set_ne_nil hworker)⟩
  · refine List.Perm.trans ?_ h.cells
    simp only [Process.cells, List.map_append, List.map_singleton, List.append_assoc]
    refine List.Perm.append_left _ ?_
    calc [record.cell] ++ ((P.workers.set w .ready).flatMap Worker.cells ++ (P.pending.drop P.nextIndex).map (·.cell))
      _ ~ [record.cell] ++ (others ++ (P.pending.drop P.nextIndex).map (·.cell)) :=
        ((hafter .ready).append_right _).append_left _
      _ ~ P.workers.flatMap Worker.cells ++ (P.pending.drop P.nextIndex).map (·.cell) := by
        rw [← List.append_assoc]
        exact hbefore.symm.append_right _
  · intro other hmem
    obtain heq | hmem := mem_workers_set hmem
    · cases heq
    · exact h.bound other hmem
  · intro hmem
    obtain heq | hmem := mem_workers_set hmem
    · cases heq
    · exact h.returned hmem

/-- What a process knows and what it appends next are cells of the plan. -/
theorem Process.Conserves.subperm_concat (h : P.Conserves setup found) {w : ℕ} {record : StoredObservation ρ}
    (hworker : P.workers[w]? = some (.appending record)) :
    ((found ++ [record]).map (·.cell)).Subperm (setup.plan.map (·.cell)) := by
  obtain ⟨others, hbefore, -⟩ := cells_of_worker hworker
  refine List.Subperm.trans ?_ h.cells.subperm
  rw [List.map_append, Process.cells, List.map_singleton]
  refine (List.subperm_append_left _).mpr ?_
  have hfirst : [record.cell].Subperm ([record.cell] ++ (others ++ (P.pending.drop P.nextIndex).map (·.cell))) :=
    (List.sublist_append_left _ _).subperm
  refine hfirst.trans (List.Perm.subperm ?_)
  rw [← List.append_assoc]
  exact hbefore.symm.append_right _

/-- Stored cells of the plan have distinct ids. -/
theorem nodup_of_planned (hplan : (setup.plan.map (·.observationId)).Nodup)
    (hplanned : (found.map (·.cell)).Subperm (setup.plan.map (·.cell))) : (found.map (·.observationId)).Nodup := by
  obtain ⟨l, hperm, hsub⟩ := hplanned
  have hl : (l.map (·.observationId)).Nodup := by
    refine (hsub.map _).nodup ?_
    rw [List.map_map]
    exact hplan
  rw [(hperm.map _).nodup_iff, List.map_map] at hl
  exact hl

/-- The store that a process begins with is what the file holds. -/
theorem Good.openStore (hT : T.Lawful) (hplan : (setup.plan.map (·.observationId)).Nodup) (h : Good T setup S found) :
    ∃ store, openStore T setup.binding S.file = .ok store ∧ store.Indexes (·.observationId) found := by
  have hids := nodup_of_planned hplan h.planned
  obtain ⟨store, hindexes⟩ := exists_indexes hids
  have haccepts : ∀ record ∈ found, T.accepts record := fun record hmem => (h.accepted record hmem).1
  refine ⟨store, openStore_eq_ok.mpr ⟨initializeStore_eq_ok.mpr ⟨found, h.file.read hT haccepts, hids, hindexes⟩, ?_⟩,
    hindexes⟩
  rw [hindexes.values]
  exact fun record hmem => (h.accepted record hmem).2

/-- The stored cells are those of the plan's items that the store has. -/
theorem stored_cells (hplan : (setup.plan.map (·.observationId)).Nodup)
    (hplanned : (found.map (·.cell)).Subperm (setup.plan.map (·.cell))) {store : Observations ρ}
    (hstore : store.Indexes (·.observationId) found) :
    found.map (·.cell) ~ (setup.plan.filter fun item => !(store.get item.observationId).isNone).map (·.cell) := by
  have hcells : (setup.plan.map (·.cell)).Nodup := by
    refine List.Nodup.of_map (·.observationId) ?_
    rw [List.map_map]
    exact hplan
  have hfound : (found.map (·.cell)).Nodup := by
    refine List.Nodup.of_map (·.observationId) ?_
    rw [List.map_map]
    exact nodup_of_planned hplan hplanned
  refine (List.perm_ext_iff_of_nodup hfound ((List.filter_sublist.map _).nodup hcells)).mpr fun cell => ?_
  simp only [List.mem_map, List.mem_filter, Bool.not_eq_true', Option.isNone_eq_false_iff, Option.isSome_iff_exists]
  constructor
  · rintro ⟨record, hmem, rfl⟩
    obtain ⟨item, hitem, heq⟩ := List.mem_map.mp (hplanned.subset (List.mem_map_of_mem hmem))
    have hid : item.observationId = record.observationId := congrArg ObservationCell.observationId heq
    exact ⟨item, ⟨hitem, record, hstore.get.mpr ⟨hmem, hid.symm⟩⟩, heq⟩
  · rintro ⟨item, ⟨hitem, record, hget⟩, rfl⟩
    obtain ⟨hmem, hid⟩ := hstore.get.mp hget
    obtain ⟨item', hitem', heq⟩ := List.mem_map.mp (hplanned.subset (List.mem_map_of_mem hmem))
    have hid' : item'.observationId = record.observationId := congrArg ObservationCell.observationId heq
    obtain rfl := List.inj_on_of_nodup_map hplan hitem' hitem (hid'.trans hid)
    exact ⟨record, hmem, heq.symm⟩

/-- A process that begins has the rest of the plan to collect. -/
theorem begin_conserves (hplan : (setup.plan.map (·.observationId)).Nodup) (hc : 1 ≤ setup.concurrency)
    (hplanned : (found.map (·.cell)).Subperm (setup.plan.map (·.cell))) {store : Observations ρ}
    (hstore : store.Indexes (·.observationId) found) : (Process.begin setup store).Conserves setup found := by
  have hnone : (Process.begin setup store).workers.flatMap Worker.cells = [] := by
    rw [List.flatMap_eq_nil_iff]
    intro worker hmem
    rw [(List.mem_replicate.mp hmem).2]
    rfl
  refine ⟨hstore, ?_, ?_, ?_, ?_⟩
  · rw [Process.cells, hnone, List.nil_append]
    calc found.map (·.cell) ++ ((Process.begin setup store).pending.drop 0).map (·.cell)
      _ ~ (setup.plan.filter fun item => !(store.get item.observationId).isNone).map (·.cell) ++
          (setup.plan.filter fun item => (store.get item.observationId).isNone).map (·.cell) :=
        (stored_cells hplan hplanned hstore).append_right _
      _ ~ (setup.plan.filter fun item => (store.get item.observationId).isNone).map (·.cell) ++
          (setup.plan.filter fun item => !(store.get item.observationId).isNone).map (·.cell) := List.perm_append_comm
      _ ~ setup.plan.map (·.cell) := by
        rw [← List.map_append]
        exact (List.filter_append_perm _ setup.plan).map _
  · intro record hmem
    cases (List.mem_replicate.mp hmem).2
  · intro hmem
    cases (List.mem_replicate.mp hmem).2
  · intro hnil
    have hzero : min setup.concurrency (Process.begin setup store).pending.length = 0 := by
      simpa [Process.begin] using congrArg List.length hnil
    exact List.eq_nil_of_length_eq_zero (by omega)

theorem Good.ended (h : Good T setup S found) : Good T setup { S with process := none } found :=
  ⟨h.file, h.accepted, h.planned, h.acknowledged, fun _ hP => by cases hP⟩

/-- The file has one record more. -/
theorem Good.grown (h : Good T setup S found) {w : ℕ} {record : StoredObservation ρ} (hP : P.Conserves setup found)
    (hworker : P.workers[w]? = some (.appending record)) (haccepts : T.accepts record) {S' : Collector ρ}
    (hfile : Holds T S'.file (found ++ [record])) (hack : ∀ r ∈ S'.acknowledged, r ∈ S.acknowledged ∨ r = record)
    (hprocess : ∀ P', S'.process = some P' → P'.Conserves setup (found ++ [record])) :
    Good T setup S' (found ++ [record]) := by
  refine ⟨hfile, ?_, hP.subperm_concat hworker, ?_, hprocess⟩
  · intro r hmem
    rcases List.mem_append.mp hmem with hold | hnew
    · exact h.accepted r hold
    · rw [List.mem_singleton.mp hnew]
      exact ⟨haccepts, hP.bound record (List.mem_of_getElem? hworker)⟩
  · intro r hmem
    rw [List.mem_append, List.mem_singleton]
    exact (hack r hmem).imp_left (h.acknowledged r)

/-- An append is refused, and the file stays, or it writes. -/
theorem append_cases (store : Observations ρ) (file : Text) (record : StoredObservation ρ) (outcome : AppendOutcome) :
    (∃ error, append T store file record outcome = (file, .error error)) ∨
      T.accepts record ∧ append T store file record outcome =
        (file ++ outcome.written (T.stringify record ++ ['\n']),
          match outcome with
          | .acknowledged => .ok (store.set record.observationId record)
          | .failed _ _ error => .error (.io error)) := by
  unfold append
  by_cases haccepts : T.accepts record = false
  · rw [if_pos haccepts]
    exact .inl ⟨_, rfl⟩
  · rw [if_neg haccepts]
    by_cases hstored : store.has record.observationId = true
    · rw [if_pos hstored]
      exact .inl ⟨_, rfl⟩
    · rw [if_neg hstored]
      exact .inr ⟨by simpa using haccepts, rfl⟩

theorem Good.runAppend (hT : T.Lawful) (hplan : (setup.plan.map (·.observationId)).Nodup) (h : Good T setup S found)
    (hP : S.process = some P) (outcome : AppendOutcome) : Sound T setup (P.runAppend T S outcome) := by
  have hconserves := h.process P hP
  unfold Process.runAppend
  split
  · exact .inl ⟨found, h⟩
  · rename_i w appendTail _
    split
    · rename_i record hworker
      obtain ⟨error, hrefused⟩ | ⟨haccepts, hwritten⟩ := append_cases (T := T) P.store S.file record outcome
      · rw [hrefused]
        exact .inl ⟨found, h.ended⟩
      · have hfound : ∀ r ∈ found, T.accepts r := fun r hmem => (h.accepted r hmem).1
        have hfile := holds_written hT hfound h.file haccepts outcome
        rw [hwritten]
        cases outcome with
        | acknowledged =>
          obtain hholds | hlost | ⟨hne, -⟩ := hfile
          · refine .inl ⟨found ++ [record], h.grown hconserves hworker haccepts hholds ?_ ?_⟩
            · intro r hmem
              simpa using hmem
            · intro P' hP'
              obtain rfl := Option.some.inj hP'
              exact hconserves.appended hplan hworker appendTail
          · exact .inr ⟨hlost.spoiled, .inr hlost⟩
          · exact absurd rfl hne
        | failed chars cut error =>
          obtain hholds | hlost | ⟨-, hholds | hspoiled⟩ := hfile
          · refine .inl ⟨found ++ [record], h.grown hconserves hworker haccepts hholds (fun r hmem => .inl hmem) ?_⟩
            intro P' hP'
            cases hP'
          · exact .inr ⟨hlost.spoiled, .inl rfl⟩
          · exact .inl ⟨found, hholds, h.accepted, h.planned, h.acknowledged, fun P' hP' => by cases hP'⟩
          · exact .inr ⟨hspoiled, .inl rfl⟩
    · refine .inl ⟨found, h.file, h.accepted, h.planned, h.acknowledged, fun P' hP' => ?_⟩
      obtain rfl := Option.some.inj hP'
      exact ⟨hconserves.stored, hconserves.cells, hconserves.bound, hconserves.returned, hconserves.staffed⟩

theorem lost_runAppend (h : Lost T S.file) (outcome : AppendOutcome) : Lost T (P.runAppend T S outcome).file := by
  unfold Process.runAppend
  split
  · exact h
  · split
    · rename_i record _
      obtain ⟨error, hrefused⟩ | ⟨-, hwritten⟩ := append_cases (T := T) P.store S.file record outcome
      · rw [hrefused]
        exact h
      · rw [hwritten]
        cases outcome with
        | acknowledged => exact h.append _
        | failed chars cut error => exact h.append _
    · exact h

/-- A step of the running process that leaves the file alone. -/
theorem Good.advance (h : Good T setup S found) {f : Process ρ → Process ρ}
    (hf : ∀ P, P.Conserves setup found → (f P).Conserves setup found) :
    Good T setup { S with process := S.process.map f } found := by
  refine ⟨h.file, h.accepted, h.planned, h.acknowledged, fun P' hP' => ?_⟩
  obtain ⟨P, hP, rfl⟩ := Option.map_eq_some_iff.mp hP'
  exact hf P (h.process P hP)

/-- **One step**: the file has the records of the plan, or is not read any more. -/
theorem step_sound (hT : T.Lawful) (hplan : (setup.plan.map (·.observationId)).Nodup) (hc : 1 ≤ setup.concurrency)
    (event : Event ρ) (h : Sound T setup S) : Sound T setup (step T setup S event) := by
  obtain ⟨found, h⟩ | ⟨hspoiled, hprocess⟩ := h
  · cases event with
    | start =>
      obtain ⟨store, hopen, hstore⟩ := h.openStore hT hplan
      cases hnone : S.process with
      | some P =>
        simp only [step, hnone]
        exact .inl ⟨found, h⟩
      | none =>
        simp only [step, hnone, hopen]
        refine .inl ⟨found, h.file, h.accepted, h.planned, h.acknowledged, fun P' hP' => ?_⟩
        obtain rfl := Option.some.inj hP'
        exact begin_conserves hplan hc h.planned hstore
    | take w => exact .inl ⟨found, h.advance fun _ hP => hP.take w⟩
    | collected w content => exact .inl ⟨found, h.advance fun _ hP => hP.collected w content⟩
    | runAppend outcome =>
      cases hP : S.process with
      | none =>
        simp only [step, hP]
        exact .inl ⟨found, h⟩
      | some P =>
        simp only [step, hP]
        exact h.runAppend hT hplan hP outcome
    | stop => exact .inl ⟨found, h.ended⟩
  · cases event with
    | start =>
      cases hopen : openStore T setup.binding S.file with
      | error e =>
        have hstay : step T setup S .start = S := by
          unfold step
          rw [hopen]
          cases S.process <;> rfl
        rw [hstay]
        exact .inr ⟨hspoiled, hprocess⟩
      | ok store => exact absurd (openStore_eq_ok.mp hopen).1 (hspoiled.unreadable store)
    | take w => exact .inr ⟨hspoiled, hprocess.imp_left fun hnone => by simp [step, hnone]⟩
    | collected w content => exact .inr ⟨hspoiled, hprocess.imp_left fun hnone => by simp [step, hnone]⟩
    | runAppend outcome =>
      obtain hnone | hlost := hprocess
      · simp only [step, hnone]
        exact .inr ⟨hspoiled, .inl hnone⟩
      · cases hP : S.process with
        | none =>
          simp only [step, hP]
          exact .inr ⟨hspoiled, .inl hP⟩
        | some P =>
          simp only [step, hP]
          have hlost' := lost_runAppend (P := P) hlost outcome
          exact .inr ⟨hlost'.spoiled, .inr hlost'⟩
    | stop => exact .inr ⟨hspoiled, .inl rfl⟩

theorem new_sound : Sound T setup (Collector.new : Collector ρ) :=
  .inl ⟨[], .ended [], by simp, by simp, by simp [Collector.new], fun P hP => by simp [Collector.new] at hP⟩

/-- A process whose workers have returned has collected the plan. -/
theorem Process.Conserves.finished (h : P.Conserves setup found) (hfinished : P.Finished) :
    found.map (·.cell) ~ setup.plan.map (·.cell) := by
  have hworkers : P.workers.flatMap Worker.cells = [] := by
    rw [List.flatMap_eq_nil_iff]
    intro worker hmem
    rw [hfinished worker hmem]
    rfl
  have hend : P.pending.length ≤ P.nextIndex := by
    cases hnil : P.workers with
    | nil =>
      rw [h.staffed hnil]
      exact Nat.zero_le _
    | cons worker workers =>
      have hmem : worker ∈ P.workers := hnil ▸ List.mem_cons_self
      exact h.returned (hfinished worker hmem ▸ hmem)
  have hcells := h.cells
  rw [Process.cells, hworkers, List.drop_eq_nil_of_le hend, List.nil_append, List.map_nil, List.append_nil] at hcells
  exact hcells

theorem plan_nodup {corpus : FormalCorpus} (hplan : buildFormalPlan corpus = .ok setup.plan) :
    (setup.plan.map (·.observationId)).Nodup :=
  ((buildFormalPlan_spec corpus).2 setup.plan hplan).1

/-! ### A collection that is stopped and taken up again -/

def sampleCase : CorpusCase := ⟨"case-1", formalConfigurations.map (·.id.text)⟩

def sampleSetup : Setup := ⟨caseCells sampleCase, sampleBinding, 2⟩

def sampleRecord : StoredObservation Unit :=
  observation sampleBinding (planItem "case-1" ⟨.ungroundedModel, 5, true⟩ 1) ()

def sampleText : Text :=
  '\x7b' :: ("\"observation_id\":\"case-1:ungrounded-model:1\",\"formal_evidence\":true,".toList ++
    "\"evaluation_set_id\":\"pilot\",\"case_id\":\"case-1\",".toList ++
    "\"configuration_id\":\"ungrounded-model\",\"repetition\":1\x7d".toList)

/-- JSON and the schema, on one record. -/
def sampleCodec : ObservationCodec Unit where
  accepts record := record.observationId = sampleRecord.observationId ∧ record.formalEvidence = true ∧
    record.binding = sampleBinding ∧ record.caseId = "case-1" ∧ record.configurationId = "ungrounded-model" ∧
    record.repetition = 1
  stringify _ := sampleText
  parse line := if line.dropWhile isJsonSpace = sampleText then some sampleRecord else none

theorem accepts_sample {record : StoredObservation Unit} (h : sampleCodec.accepts record) : record = sampleRecord := by
  obtain ⟨hid, hformal, hbinding, hcase, hconfiguration, hrepetition⟩ := of_decide_eq_true h
  cases record
  simp_all [sampleRecord, observation, planItem, ModelConditionId.text]

theorem sampleText_ascii {c : Char} (h : c ∈ sampleText) : 32 ≤ c.toNat ∧ c.toNat < 128 := by
  have hall : (sampleText.all fun c => 32 ≤ c.toNat ∧ c.toNat < 128) = true := by decide +kernel
  exact of_decide_eq_true (List.all_eq_true.mp hall c h)

theorem dropWhile_sample (rest : Text) : (sampleText ++ rest).dropWhile isJsonSpace = sampleText ++ rest := by
  rw [sampleText, List.cons_append]
  exact List.dropWhile_cons_of_neg (by decide)

theorem torn_sample (chars : ℕ) (cut : Bool) : torn sampleText chars cut = sampleText.take chars := by
  have hwhole : ¬(cut ∧ sampleText[chars]?.any (128 ≤ ·.toNat)) := by
    rintro ⟨-, hany⟩
    cases hget : sampleText[chars]? with
    | none => simp [hget] at hany
    | some c =>
      have hc := (sampleText_ascii (List.mem_of_getElem? hget)).2
      simp only [hget, Option.any_some, decide_eq_true_eq] at hany
      omega
  rw [torn, if_neg hwhole, List.append_nil]

theorem take_sample_visible {chars : ℕ} (h : sampleText.take chars ≠ []) : ¬(sampleText.take chars).all isSpace := by
  rw [sampleText] at h ⊢
  cases chars with
  | zero => exact absurd rfl h
  | succ chars =>
    rw [List.take_succ_cons, List.all_cons]
    have hbrace : isSpace '\x7b' = false := by decide
    simp [hbrace]

theorem sampleCodec_lawful : sampleCodec.Lawful where
  line _ _ hmem := absurd (sampleText_ascii hmem).1 (by decide)
  visible _ _ := by
    have hsome : sampleText.take sampleText.length ≠ [] := by
      rw [List.take_length]
      exact List.cons_ne_nil _ _
    have hvisible := take_sample_visible hsome
    rw [List.take_length] at hvisible
    exact hvisible
  reads record h := by
    have hdrop := dropWhile_sample []
    rw [List.append_nil] at hdrop
    simp only [sampleCodec, hdrop, if_true]
    rw [accepts_sample h]
  tornVisible _ _ chars cut hsome := by
    simp only [sampleCodec, torn_sample] at hsome ⊢
    exact take_sample_visible hsome
  tornRefused _ _ chars cut hshort _ := by
    simp only [sampleCodec, torn_sample] at hshort ⊢
    refine if_neg fun heq => ?_
    have hlength := (List.dropWhile_sublist isJsonSpace (l := sampleText.take chars)).length_le
    rw [heq, List.length_take] at hlength
    omega
  joinedRefused _ _ _ _ chars cut hsome := by
    simp only [sampleCodec, torn_sample] at hsome ⊢
    refine if_neg fun heq => hsome ?_
    rw [dropWhile_sample] at heq
    exact List.append_right_eq_self.mp heq

/-- A worker stores its observation, the process is killed and another begins. -/
def resumedRun : List (Event Unit) :=
  [.start, .take 0, .take 1, .collected 0 (), .runAppend .acknowledged, .stop, .start]

theorem resumedRun_file :
    (run (step sampleCodec sampleSetup) Collector.new resumedRun).file = logText ([sampleRecord].map sampleCodec.stringify) := by
  decide +kernel

theorem resumedRun_read : ∃ store, initializeStore sampleCodec (run (step sampleCodec sampleSetup) Collector.new resumedRun).file = .ok store := by
  have hids : ([sampleRecord].map StoredObservation.observationId).Nodup := List.nodup_singleton _
  obtain ⟨store, hstore⟩ := exists_indexes hids
  refine ⟨store, initializeStore_eq_ok.mpr ⟨[sampleRecord], ?_, hids, hstore⟩⟩
  rw [resumedRun_file]
  refine (Holds.ended [sampleRecord]).read sampleCodec_lawful fun record hmem => ?_
  rw [List.mem_singleton.mp hmem]
  decide +kernel

/-! ### All runs -/

/-- **A collection loses nothing and repeats nothing**: however many processes
ran, whatever ended them and whatever their last appends left, a file that is
still read has every acknowledged observation, only cells of the plan and none
twice; a process is not refused over it, appends nothing that is stored, and
has the whole plan when its workers have returned. -/
theorem collection_exact {ρ : Type} (T : ObservationCodec ρ) (setup : Setup) (corpus : FormalCorpus)
    (ls : List (Event ρ)) (store : Observations ρ) (label : String) (hT : T.Lawful)
    (hplan : buildFormalPlan corpus = .ok setup.plan) (hc : 1 ≤ setup.concurrency)
    (hread : initializeStore T (run (step T setup) Collector.new ls).file = .ok store) :
    let S := run (step T setup) Collector.new ls
    (∀ record ∈ S.acknowledged, record ∈ store.values) ∧
    (store.values.map (·.cell)).Subperm (setup.plan.map (·.cell)) ∧
    openStore T setup.binding S.file = .ok store ∧
    ∀ P, S.process = some P → P.store = store ∧
      (∀ record, .appending record ∈ P.workers → store.has record.observationId = false) ∧
      (P.Finished → assertExactObservationPlan label (store.values.map (·.cell)) (setup.plan.map (·.cell)) = .ok ⟨⟩) := by
  intro S
  have hids := plan_nodup hplan
  have hsound : Sound T setup S := run_invariant (fun _ l => step_sound hT hids hc l) ls new_sound
  obtain ⟨found, h⟩ | ⟨hspoiled, -⟩ := hsound
  · obtain ⟨opened, hopen, hindexes⟩ := h.openStore hT hids
    obtain rfl : opened = store := Except.ok.inj ((openStore_eq_ok.mp hopen).1.symm.trans hread)
    rw [hindexes.values]
    refine ⟨h.acknowledged, h.planned, hopen, fun P hP => ?_⟩
    have hconserves := h.process P hP
    refine ⟨JsMap.ext_iff.mpr (hconserves.stored.trans hindexes.symm), fun record hmem => ?_, fun hfinished => ?_⟩
    · have hnew := hconserves.not_stored hids hmem
      rw [← hindexes.keys, ← JsMap.has_eq_true_iff] at hnew
      exact Bool.eq_false_iff.mpr hnew
    · refine (assertExactObservationPlan_iff label _ _).mpr ⟨?_, hconserves.finished hfinished⟩
      rw [List.map_map]
      exact hids
  · exact absurd hread (hspoiled.unreadable store)

theorem collection_exact_resumed : ∃ store,
    let S := run (step sampleCodec sampleSetup) Collector.new resumedRun
    (∀ record ∈ S.acknowledged, record ∈ store.values) ∧
    (store.values.map (·.cell)).Subperm (sampleSetup.plan.map (·.cell)) ∧
    openStore sampleCodec sampleSetup.binding S.file = .ok store ∧
    ∀ P, S.process = some P → P.store = store ∧
      (∀ record, .appending record ∈ P.workers → store.has record.observationId = false) ∧
      (P.Finished →
        assertExactObservationPlan "Formal" (store.values.map (·.cell)) (sampleSetup.plan.map (·.cell)) = .ok ⟨⟩) := by
  obtain ⟨store, hread⟩ := resumedRun_read
  have hplan : buildFormalPlan ⟨1, [sampleCase]⟩ = .ok sampleSetup.plan := by
    refine buildFormalPlan_eq_ok.mpr ⟨⟨rfl, by simp, fun item hitem c hc => ?_⟩, by simp [sampleSetup]⟩
    rw [List.mem_singleton.mp hitem]
    exact List.mem_map_of_mem hc
  exact ⟨store, collection_exact sampleCodec sampleSetup ⟨1, [sampleCase]⟩ resumedRun store "Formal" sampleCodec_lawful
    hplan (by decide) hread⟩

end Collection
end Evaluation
end Evllm
