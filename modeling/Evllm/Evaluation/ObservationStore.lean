/-
# The store of observations

`JsonlObservationStore` of `src/evaluation/live.ts`: a file of one observation
a line, which `initializeStore` reads into a map by their ids, and `append` writes
before the map has the observation. A file that a crash left without its last
line feed is still read, but an append then spoils it.

Key definitions: `StoredObservation`, `initializeStore`, `openStore`, `append`,
`Holds`, `Spoiled`, `Lost`.
Key theorems: `initializeStore_eq_ok`, `holds_written`.
-/
import Evllm.Evaluation.AppendFailures
import Evllm.Evaluation.FormalPlan
import Evllm.Lib.Jsonl

namespace Evllm
namespace Evaluation

open Lib

abbrev EvaluationBinding := TransportJournalBinding

/-- An observation; `content` are the fields that neither the store nor the
plan looks at. -/
structure StoredObservation (ρ : Type) where
  observationId : String
  formalEvidence : Bool
  binding : EvaluationBinding
  caseId : String
  configurationId : String
  repetition : ℕ
  content : ρ

variable {ρ : Type}

def StoredObservation.cell (record : StoredObservation ρ) : ObservationCell :=
  ⟨record.observationId, record.caseId, record.repetition, some record.configurationId⟩

/-- `storedObservationSchema`, `JSON.stringify`, and the schema after
`JSON.parse`. -/
structure ObservationCodec (ρ : Type) where
  accepts : StoredObservation ρ → Bool
  stringify : StoredObservation ρ → Text
  parse : Text → Option (StoredObservation ρ)

abbrev Observations (ρ : Type) := JsMap String (StoredObservation ρ)

variable (T : ObservationCodec ρ)

/-! ### Reading -/

def duplicateText (record : StoredObservation ρ) : String := "Duplicate stored observation " ++ record.observationId

/-- The loop of `initializeStore` over the lines. -/
def initializeLine (store : Observations ρ) (line : Text × ℕ) : Except String (Observations ρ) :=
  if line.1.all isSpace then .ok store
  else
    match T.parse line.1 with
    | none => .error ("Invalid observation JSONL at line " ++ toString (line.2 + 1))
    | some record => addUnique (·.observationId) duplicateText store record

/-- `initializeStore` on a file with this content; a missing file has none. -/
def initializeStore (content : Text) : Except String (Observations ρ) :=
  (lines content).zipIdx.foldlM (initializeLine T) .empty

/-- The check of one key in `assertObservationEvaluationBinding`. -/
def checkBinding (id key actual expected : String) : Except String Unit :=
  throwIf (actual ≠ expected)
    ("Observation " ++ id ++ " has a mismatched " ++ key ++ ": expected " ++ expected ++ ", received " ++ actual)

def assertObservationEvaluationBinding (record : StoredObservation ρ) (expected : EvaluationBinding) :
    Except String Unit := do
  checkBinding record.observationId "evaluation_set_id" record.binding.evaluationSetId expected.evaluationSetId
  checkBinding record.observationId "source_commit" record.binding.sourceCommit expected.sourceCommit
  checkBinding record.observationId "freeze_sha256" record.binding.freezeSha256 expected.freezeSha256
  checkBinding record.observationId "corpus_file_sha256" record.binding.corpusFileSha256 expected.corpusFileSha256
  checkBinding record.observationId "logical_corpus_sha256" record.binding.logicalCorpusSha256
    expected.logicalCorpusSha256

/-- What a collection checks of each record that it finds. -/
def assertStored (binding : EvaluationBinding) (record : StoredObservation ρ) : Except String Unit := do
  throwIf (record.formalEvidence = false)
    ("Stored observation " ++ record.observationId ++ " is not formal evidence")
  assertObservationEvaluationBinding record binding

/-- The store of a collection that begins with this file. -/
def openStore (binding : EvaluationBinding) (content : Text) : Except String (Observations ρ) := do
  let store ← initializeStore T content
  store.values.forM (assertStored binding)
  return store

/-! ### Writing -/

inductive AppendError where
  /-- The schema refuses the record. -/
  | invalid
  | alreadyStored (text : String)
  | io (error : Thrown)

/-- `append`: what is in the file after it, and the store. -/
def append (store : Observations ρ) (file : Text) (record : StoredObservation ρ) (outcome : AppendOutcome) :
    Text × Except AppendError (Observations ρ) :=
  if T.accepts record = false then (file, .error .invalid)
  else if store.has record.observationId = true then
    (file, .error (.alreadyStored ("Observation already stored: " ++ record.observationId)))
  else
    (file ++ outcome.written (T.stringify record ++ ['\n']),
      match outcome with
      | .acknowledged => .ok (store.set record.observationId record)
      | .failed _ _ error => .error (.io error))

/-! ### What the reader accepts -/

variable {T}

theorem initializeLines_eq_ok : ∀ {numbered : List (Text × ℕ)} {store store' : Observations ρ},
    numbered.foldlM (initializeLine T) store = .ok store' ↔
      ∃ found : List (StoredObservation ρ), ((numbered.map Prod.fst).filter fun line => !line.all isSpace).map T.parse = found.map some ∧
        found.foldlM (addUnique (·.observationId) duplicateText) store = .ok store'
  | [], store, store' => by
    constructor
    · intro h
      exact ⟨[], rfl, h⟩
    · rintro ⟨found, hfound, h⟩
      have hnil : found = [] := List.map_eq_nil_iff.mp hfound.symm
      rwa [hnil] at h
  | line :: numbered, store, store' => by
    rw [List.foldlM_cons, bind_eq_ok]
    by_cases hblank : line.1.all isSpace
    · have hline : initializeLine T store line = .ok store := if_pos hblank
      simp only [hline, Except.ok.injEq, exists_eq_left', List.map_cons, List.filter_cons, hblank, Bool.not_true,
        Bool.false_eq_true, if_false]
      exact initializeLines_eq_ok
    · have hkept : ((line :: numbered).map Prod.fst).filter (fun line => !line.all isSpace) =
          line.1 :: (numbered.map Prod.fst).filter fun line => !line.all isSpace := by simp [hblank]
      rw [hkept, List.map_cons]
      cases hparse : T.parse line.1 with
      | none =>
        constructor
        · rintro ⟨next, hline, -⟩
          simp [initializeLine, hblank, hparse] at hline
        · rintro ⟨found, hfound, -⟩
          cases found <;> simp at hfound
      | some record =>
        have hline : initializeLine T store line = addUnique (·.observationId) duplicateText store record := by
          simp [initializeLine, hblank, hparse]
        rw [hline]
        constructor
        · rintro ⟨next, hadd, hrest⟩
          obtain ⟨found, hfound, hfold⟩ := initializeLines_eq_ok.mp hrest
          refine ⟨record :: found, by rw [hfound, List.map_cons], ?_⟩
          rw [List.foldlM_cons, bind_eq_ok]
          exact ⟨next, hadd, hfold⟩
        · rintro ⟨found, hfound, hfold⟩
          cases found with
          | nil => simp at hfound
          | cons first found =>
            rw [List.map_cons, List.cons.injEq, Option.some.injEq] at hfound
            obtain ⟨rfl, hfound⟩ := hfound
            rw [List.foldlM_cons, bind_eq_ok] at hfold
            obtain ⟨next, hadd, hfold⟩ := hfold
            exact ⟨next, hadd, initializeLines_eq_ok.mpr ⟨found, hfound, hfold⟩⟩

/-- A fresh store has the records of the lines, in their order. -/
theorem initializeStore_eq_ok {content : Text} {store : Observations ρ} : initializeStore T content = .ok store ↔
    ∃ found : List (StoredObservation ρ), (records content).map T.parse = found.map some ∧
      (found.map (·.observationId)).Nodup ∧ store.Indexes (·.observationId) found := by
  rw [initializeStore, initializeLines_eq_ok, List.zipIdx_map_fst]
  exact exists_congr fun found => and_congr_right fun _ => uniqueMap_eq_ok

/-- What a collection finds in its file is its own. -/
def StoredObservation.Bound (binding : EvaluationBinding) (record : StoredObservation ρ) : Prop :=
  record.formalEvidence = true ∧ record.binding = binding

theorem assertStored_eq_ok {binding : EvaluationBinding} {record : StoredObservation ρ} :
    assertStored binding record = .ok ⟨⟩ ↔ record.Bound binding := by
  simp only [assertStored, assertObservationEvaluationBinding, checkBinding, bind_eq_ok, throwIf_eq_ok, not_not,
    Bool.not_eq_false]
  constructor
  · rintro ⟨_, hformal, _, hset, _, hcommit, _, hfreeze, _, hfile, hlogical⟩
    exact ⟨hformal, by cases hb : record.binding; cases binding; simp_all⟩
  · rintro ⟨hformal, rfl⟩
    exact ⟨⟨⟩, hformal, ⟨⟩, rfl, ⟨⟩, rfl, ⟨⟩, rfl, ⟨⟩, rfl, rfl⟩

theorem openStore_eq_ok {binding : EvaluationBinding} {content : Text} {store : Observations ρ} :
    openStore T binding content = .ok store ↔
      initializeStore T content = .ok store ∧ ∀ record ∈ store.values, record.Bound binding := by
  simp only [openStore, bind_eq_ok, pure_eq_ok]
  constructor
  · rintro ⟨_, hread, ⟨⟩, hchecks, rfl⟩
    exact ⟨hread, fun record hmem => assertStored_eq_ok.mp (forM_eq_ok.mp hchecks record hmem)⟩
  · rintro ⟨hread, hbound⟩
    exact ⟨store, hread, ⟨⟩, forM_eq_ok.mpr fun record hmem => assertStored_eq_ok.mpr (hbound record hmem), rfl⟩

/-! ### What is in the file -/

/-- What the store relies on: a record that the schema accepts is written as a
text of one line, which `JSON.parse` and the schema read back; they read
neither a beginning of such a text nor one after another such text. -/
structure ObservationCodec.Lawful (T : ObservationCodec ρ) : Prop where
  line : ∀ record, T.accepts record → '\n' ∉ T.stringify record
  visible : ∀ record, T.accepts record → ¬(T.stringify record).all isSpace
  reads : ∀ record, T.accepts record → T.parse (T.stringify record) = some record
  tornVisible : ∀ record, T.accepts record → ∀ chars cut, torn (T.stringify record) chars cut ≠ [] →
    ¬(torn (T.stringify record) chars cut).all isSpace
  tornRefused : ∀ record, T.accepts record → ∀ chars cut, chars < (T.stringify record).length →
    torn (T.stringify record) chars cut ≠ [] → T.parse (torn (T.stringify record) chars cut) = none
  joinedRefused : ∀ before record, T.accepts before → T.accepts record → ∀ chars cut,
    torn (T.stringify record) chars cut ≠ [] →
      T.parse (T.stringify before ++ torn (T.stringify record) chars cut) = none

variable (T)

/-- The file holds these records. The last line feed may be missing. -/
inductive Holds : Text → List (StoredObservation ρ) → Prop
  | ended (found : List (StoredObservation ρ)) : Holds (logText (found.map T.stringify)) found
  | unended (found : List (StoredObservation ρ)) (last : StoredObservation ρ) :
    Holds (logText (found.map T.stringify) ++ T.stringify last) (found ++ [last])

/-- A line of the file is no record. -/
def Spoiled (file : Text) : Prop := ∃ line ∈ records file, T.parse line = none

/-- A line of the file that was ended is no record. -/
def Lost (file : Text) : Prop := ∃ a b, file = a ++ '\n' :: b ∧ Spoiled T a

variable {T} {file : Text} {found : List (StoredObservation ρ)} {record : StoredObservation ρ}

theorem Lost.spoiled (h : Lost T file) : Spoiled T file := by
  obtain ⟨a, b, rfl, line, hmem, hparse⟩ := h
  refine ⟨line, ?_, hparse⟩
  rw [records_append_newline]
  exact List.mem_append_left _ hmem

theorem Lost.append (h : Lost T file) (more : Text) : Lost T (file ++ more) := by
  obtain ⟨a, b, rfl, hspoiled⟩ := h
  exact ⟨a, b ++ more, by simp, hspoiled⟩

theorem Spoiled.unreadable (h : Spoiled T file) (store : Observations ρ) : initializeStore T file ≠ .ok store := by
  intro hread
  obtain ⟨found, hfound, -⟩ := initializeStore_eq_ok.mp hread
  obtain ⟨line, hmem, hparse⟩ := h
  have hsome : T.parse line ∈ found.map some := hfound ▸ List.mem_map_of_mem hmem
  rw [hparse] at hsome
  simp at hsome

section Lawful

variable (hT : T.Lawful) (haccepts : ∀ r ∈ found, T.accepts r)
include hT haccepts

theorem records_texts (rest : Text) :
    records (logText (found.map T.stringify) ++ rest) = found.map T.stringify ++ records rest := by
  refine records_logText_append ?_ ?_ rest
  · intro text htext
    obtain ⟨r, hr, rfl⟩ := List.mem_map.mp htext
    exact hT.line r (haccepts r hr)
  · intro text htext
    obtain ⟨r, hr, rfl⟩ := List.mem_map.mp htext
    exact hT.visible r (haccepts r hr)

theorem parse_texts : (found.map T.stringify).map T.parse = found.map some := by
  rw [List.map_map]
  exact List.map_congr_left fun r hr => hT.reads r (haccepts r hr)

/-- What a file holds is read. -/
theorem Holds.read (h : Holds T file found) : (records file).map T.parse = found.map some := by
  cases h with
  | ended =>
    have hrecords := records_texts hT haccepts []
    rw [List.append_nil, records_nil, List.append_nil] at hrecords
    rw [hrecords, parse_texts hT haccepts]
  | unended found last =>
    have hfound : ∀ r ∈ found, T.accepts r := fun r hr => haccepts r (List.mem_append_left _ hr)
    have hlast := haccepts last (by simp)
    rw [records_texts hT hfound, records_of_line (hT.line last hlast) (hT.visible last hlast), List.map_append,
      parse_texts hT hfound, List.map_singleton, hT.reads last hlast, List.map_append]
    rfl

/-- A line that is no record spoils the file. -/
theorem spoiled_of_line {line : Text} (hline : '\n' ∉ line) (hvisible : ¬line.all isSpace)
    (hparse : T.parse line = none) : Spoiled T (logText (found.map T.stringify) ++ line) := by
  refine ⟨line, ?_, hparse⟩
  rw [records_texts hT haccepts, records_of_line hline hvisible]
  simp

end Lawful

theorem torn_no_newline (hT : T.Lawful) (haccepts : T.accepts record) (chars : ℕ) (cut : Bool) :
    '\n' ∉ torn (T.stringify record) chars cut := by
  rw [torn, List.mem_append, not_or]
  constructor
  · exact fun hmem => hT.line record haccepts (List.mem_of_mem_take hmem)
  · split_ifs
    · decide
    · exact List.not_mem_nil

theorem torn_length (text : Text) (cut : Bool) : torn text text.length cut = text := by
  simp [torn]

/-- An append to a file whose last line is ended. -/
theorem written_ended (hT : T.Lawful) (hfound : ∀ r ∈ found, T.accepts r) (haccepts : T.accepts record)
    (outcome : AppendOutcome) :
    let file' := logText (found.map T.stringify) ++ outcome.written (T.stringify record ++ ['\n'])
    Holds T file' (found ++ [record]) ∨ (outcome ≠ .acknowledged ∧ (Holds T file' found ∨ Spoiled T file')) := by
  intro file'
  have hended : Holds T (logText (found.map T.stringify) ++ (T.stringify record ++ ['\n'])) (found ++ [record]) := by
    have h := Holds.ended (T := T) (found ++ [record])
    rwa [List.map_append, List.map_singleton, logText_concat] at h
  by_cases hwhole : outcome.Whole (T.stringify record)
  · left
    obtain hwritten | hwritten := written_of_whole hwhole
    · simp only [file', hwritten]
      exact .unended found record
    · simp only [file', hwritten]
      exact hended
  · obtain ⟨chars, cut, hshort, hwritten⟩ := written_of_not_whole hwhole
    refine .inr ⟨by rintro rfl; exact hwhole trivial, ?_⟩
    simp only [file', hwritten]
    by_cases hnone : torn (T.stringify record) chars cut = []
    · rw [hnone, List.append_nil]
      exact .inl (.ended found)
    · right
      exact spoiled_of_line hT hfound (torn_no_newline hT haccepts chars cut)
        (hT.tornVisible record haccepts chars cut hnone) (hT.tornRefused record haccepts chars cut hshort hnone)

/-- An append to a file whose last line is not ended. -/
theorem written_unended (hT : T.Lawful) (hfound : ∀ r ∈ found, T.accepts r) {last : StoredObservation ρ}
    (hlast : T.accepts last) (haccepts : T.accepts record) (outcome : AppendOutcome) :
    let file' := logText (found.map T.stringify) ++ T.stringify last ++ outcome.written (T.stringify record ++ ['\n'])
    Lost T file' ∨ (outcome ≠ .acknowledged ∧ (Holds T file' (found ++ [last]) ∨ Spoiled T file')) := by
  intro file'
  -- what comes after the last record goes on its line
  have hjoined : ∀ chars cut, torn (T.stringify record) chars cut ≠ [] →
      Spoiled T (logText (found.map T.stringify) ++ T.stringify last ++ torn (T.stringify record) chars cut) := by
    intro chars cut hsome
    rw [List.append_assoc]
    refine spoiled_of_line hT hfound ?_ ?_ (hT.joinedRefused last record hlast haccepts chars cut hsome)
    · rw [List.mem_append, not_or]
      exact ⟨hT.line last hlast, torn_no_newline hT haccepts chars cut⟩
    · rw [List.all_append, Bool.and_eq_true, not_and_or]
      exact .inl (hT.visible last hlast)
  have hwholeText := hjoined (T.stringify record).length false
  rw [torn_length] at hwholeText
  have hne : T.stringify record ≠ [] := by
    intro hnil
    have hvisible := hT.visible record haccepts
    rw [hnil] at hvisible
    exact hvisible rfl
  have hlost : Lost T (logText (found.map T.stringify) ++ T.stringify last ++ (T.stringify record ++ ['\n'])) :=
    ⟨_, [], by rw [← List.append_assoc], hwholeText hne⟩
  by_cases hwhole : outcome.Whole (T.stringify record)
  · obtain hwritten | hwritten := written_of_whole hwhole
    · refine .inr ⟨?_, .inr ?_⟩
      · rintro rfl
        simp [AppendOutcome.written] at hwritten
      · simp only [file', hwritten]
        exact hwholeText hne
    · left
      simp only [file', hwritten]
      exact hlost
  · obtain ⟨chars, cut, -, hwritten⟩ := written_of_not_whole hwhole
    refine .inr ⟨by rintro rfl; exact hwhole trivial, ?_⟩
    simp only [file', hwritten]
    by_cases hnone : torn (T.stringify record) chars cut = []
    · rw [hnone, List.append_nil]
      exact .inl (.unended found last)
    · exact .inr (hjoined chars cut hnone)

/-- **What an append leaves in the file**: one record more, the same records,
or a line that is no record; the last two only where the append failed, unless
the file had lost its last line feed before. -/
theorem holds_written (hT : T.Lawful) (hfound : ∀ r ∈ found, T.accepts r) (hfile : Holds T file found)
    (haccepts : T.accepts record) (outcome : AppendOutcome) :
    let file' := file ++ outcome.written (T.stringify record ++ ['\n'])
    Holds T file' (found ++ [record]) ∨ Lost T file' ∨
      (outcome ≠ .acknowledged ∧ (Holds T file' found ∨ Spoiled T file')) := by
  intro file'
  cases hfile with
  | ended =>
    obtain hholds | hfailed := written_ended hT hfound haccepts outcome
    · exact .inl hholds
    · exact .inr (.inr hfailed)
  | unended found last =>
    have hbefore : ∀ r ∈ found, T.accepts r := fun r hr => hfound r (List.mem_append_left _ hr)
    exact .inr (written_unended hT hbefore (hfound last (by simp)) haccepts outcome)

end Evaluation
end Evllm
