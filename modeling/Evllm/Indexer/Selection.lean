/-
# A selection that fails

`selectHead` installs the new path and resets the state before it folds the events, so
where the reducer throws the projector is left with the new confirmed head and the
state of the events before. In every state that calls can reach the state is what the
fold gave before it ended or threw (`Rebuilt`), so a selection that fails leaves the
snapshot as it was just if the head has no path, the reducer does not throw on the
confirmed part of it, or that part ends in the block that is confirmed already
(`selectHead_atomic`).

Key definitions: `CanonicalProjector.checkpoint`, `Throws`, `Settled`, `Rebuilt`.
Key theorems: `confirmed_parentPath`, `step_rebuilt`, `selectHead_atomic`.
-/
import Evllm.Indexer.CanonicalProjector

namespace Evllm
namespace Indexer

open Lib CanonicalProjector

variable {Event State : Type}

/-- `canonicalJson` answers `none` where it throws. -/
def CanonicalProjector.checkpoint (canonicalJson : ProjectorSnapshot State → Option String)
    (p : CanonicalProjector Event State) : Option String := canonicalJson p.snapshot

/-- The events of the part of a path that is confirmed. -/
def confirmedEvents (depth : ℕ) (path : List (ChainBlock Event)) : List Event :=
  (confirmedPrefix depth path).flatMap ChainBlock.events

/-- Hash and number of the last block of the part that is confirmed. -/
def confirmedHeadOf (depth : ℕ) (path : List (ChainBlock Event)) : Option (String × ℤ) :=
  (confirmedPrefix depth path).getLast?.map fun block => (block.hash, block.number)

/-- The reducer, folded over the events, throws at one of them. -/
def Throws (reducer : ProjectionReducer Event State) (events : List Event) : Prop :=
  events.foldlM reducer.apply reducer.initialState = none

/-- Where the reducer throws on the confirmed part of the head's path, that part ends in
the block that is the confirmed head already. -/
def Settled (p : CanonicalProjector Event State) (headHash : String) : Prop :=
  ∀ b path, p.blocks.get headHash = some b → ParentPath p.blocks b path →
    Throws p.reducer (confirmedEvents p.confirmationDepth path) →
      confirmedHeadOf p.confirmationDepth path = p.snapshot.confirmedHead

/-! ### One selection -/

theorem applyAll_throws (reducer : ProjectionReducer Event State) : ∀ (events : List Event) (state : State),
    (applyAll reducer state events).2 = true ↔ events.foldlM reducer.apply state = none
  | [], state => by simp [applyAll]
  | event :: events, state => by
    rw [applyAll, List.foldlM_cons]
    cases reducer.apply state event with
    | none => simp
    | some state' => exact applyAll_throws reducer events state'

/-- The projector that a path leaves, whether or not the reducer threw. -/
def installed (p : CanonicalProjector Event State) (path : List (ChainBlock Event)) : CanonicalProjector Event State :=
  { p with canonical := path,
           state := (applyAll p.reducer p.reducer.initialState (confirmedEvents p.confirmationDepth path)).1 }

theorem snapshot_confirmedHead (p : CanonicalProjector Event State) :
    p.snapshot.confirmedHead = confirmedHeadOf p.confirmationDepth p.canonical := by
  rw [confirmedHeadOf, confirmedPrefix_getLast?]
  rfl

theorem selectHead_cases (p : CanonicalProjector Event State) (headHash : String) :
    (∃ e, pathToGenesis p.blocks headHash = .error e ∧ p.selectHead headHash = (.error e, p)) ∨
      ∃ path, pathToGenesis p.blocks headHash = .ok path ∧
        ((Throws p.reducer (confirmedEvents p.confirmationDepth path) ∧
            p.selectHead headHash = (.error .reducer, installed p path)) ∨
          (¬Throws p.reducer (confirmedEvents p.confirmationDepth path) ∧
            p.selectHead headHash = (.ok (installed p path).snapshot, installed p path))) := by
  cases hpath : pathToGenesis p.blocks headHash with
  | error e => exact .inl ⟨e, rfl, by rw [selectHead, hpath]⟩
  | ok path =>
    refine .inr ⟨path, rfl, ?_⟩
    have hcount : (max 0 ((path.length : ℤ) - p.confirmationDepth)).toNat = path.length - p.confirmationDepth := by omega
    have hrebuild : rebuild { p with canonical := path } =
        (if (applyAll p.reducer p.reducer.initialState (confirmedEvents p.confirmationDepth path)).2 then .error .reducer
          else .ok (), installed p path) := by
      simp only [rebuild, hcount]
      rfl
    rw [Throws, ← applyAll_throws, selectHead, hpath]
    simp only [hrebuild]
    cases (applyAll p.reducer p.reducer.initialState (confirmedEvents p.confirmationDepth path)).2 with
    | true => exact .inl ⟨rfl, rfl⟩
    | false => exact .inr ⟨Bool.false_ne_true, rfl⟩

/-! ### Prefixes of parent paths -/

section Paths

variable {blocks : JsMap String (ChainBlock Event)}

/-- A prefix of a parent path is the parent path of its last block. -/
theorem confirmed_parentPath (hkey : Keyed blocks) {b : ChainBlock Event} {path : List (ChainBlock Event)}
    (hpath : ParentPath blocks b path) (hstored : blocks.get b.hash = some b) (n : ℕ) {c : ChainBlock Event}
    (hlast : (path.take n).getLast? = some c) : ParentPath blocks c (path.take n) ∧ blocks.get c.hash = some c := by
  induction hpath with
  | @genesis b h0 =>
    cases n with
    | zero => cases hlast
    | succ n =>
      rw [List.take_succ_cons, List.take_nil] at hlast ⊢
      obtain rfl : b = c := Option.some.inj hlast
      exact ⟨.genesis h0, hstored⟩
  | @child a b path h0 hget hnum hpath ih =>
    by_cases hn : n ≤ path.length
    · rw [List.take_append_of_le_length hn] at hlast ⊢
      have ha : blocks.get a.hash = some a := by rwa [hkey _ _ hget]
      exact ih ha hlast
    · have hall : (path ++ [b]).take n = path ++ [b] := List.take_of_length_le (by simp; omega)
      rw [hall] at hlast ⊢
      rw [List.getLast?_concat] at hlast
      obtain rfl : b = c := Option.some.inj hlast
      exact ⟨.child h0 hget hnum hpath, hstored⟩

/-- More blocks do not change a parent path. -/
theorem ParentPath.mono {blocks' : JsMap String (ChainBlock Event)}
    (hsub : ∀ k b, blocks.get k = some b → blocks'.get k = some b) {b : ChainBlock Event} {path : List (ChainBlock Event)}
    (hpath : ParentPath blocks b path) : ParentPath blocks' b path := by
  induction hpath with
  | genesis h0 => exact .genesis h0
  | child h0 hget hnum _ ih => exact .child h0 (hsub _ _ hget) hnum ih

end Paths

/-! ### Reachable projectors -/

/-- What every call keeps, whether it throws or not. -/
structure Rebuilt (p : CanonicalProjector Event State) : Prop where
  keyed : Keyed p.blocks
  canonical : p.canonical = [] ∨ ∃ b, p.blocks.get b.hash = some b ∧ ParentPath p.blocks b p.canonical
  state : p.state = (applyAll p.reducer p.reducer.initialState (confirmedEvents p.confirmationDepth p.canonical)).1

theorem new_rebuilt {reducer : ProjectionReducer Event State} {confirmationDepth : ℤ} {p : CanonicalProjector Event State}
    (h : CanonicalProjector.new reducer confirmationDepth = .ok p) : Rebuilt p := by
  unfold CanonicalProjector.new at h
  split at h
  · cases h
  · cases h
    exact ⟨by simp [Keyed], .inl rfl, by simp [confirmedEvents, confirmedPrefix, applyAll]⟩

theorem ingest_rebuilt {canonicalJson : ChainBlock Event → Option String} {p : CanonicalProjector Event State} (h : Rebuilt p)
    (block : ChainBlock Event) : Rebuilt (p.ingest canonicalJson block).2 := by
  rcases ingest_cases canonicalJson p block with he | ⟨he, hnone⟩
  · rw [he]
    exact h
  · rw [he]
    have hsub : ∀ k b, p.blocks.get k = some b → (p.blocks.set block.hash block).get k = some b := by
      intro k b hget
      rw [JsMap.get_set, if_neg]
      · exact hget
      · rintro rfl
        rw [hnone] at hget
        cases hget
    refine ⟨fun k b hget => ?_, h.canonical.imp id ?_, h.state⟩
    · rw [JsMap.get_set] at hget
      split_ifs at hget with hk
      · rw [← Option.some.inj hget, hk]
      · exact h.keyed k b hget
    · rintro ⟨b, hb, hpath⟩
      exact ⟨b, hsub _ _ hb, hpath.mono hsub⟩

theorem installed_rebuilt {p : CanonicalProjector Event State} (h : Rebuilt p) {headHash : String}
    {path : List (ChainBlock Event)} (hpath : pathToGenesis p.blocks headHash = .ok path) : Rebuilt (installed p path) := by
  obtain ⟨b, hb, hparent⟩ := parentPath_of_pathToGenesis hpath
  refine ⟨h.keyed, .inr ⟨b, ?_, hparent⟩, rfl⟩
  rw [h.keyed _ _ hb]
  exact hb

theorem step_rebuilt {canonicalJson : ChainBlock Event → Option String} (p : CanonicalProjector Event State) (call : Call Event)
    (h : Rebuilt p) : Rebuilt (call.step canonicalJson p) := by
  cases call with
  | ingest block => exact ingest_rebuilt h block
  | selectHead headHash =>
    rcases selectHead_cases p headHash with ⟨e, -, he⟩ | ⟨path, hpath, ⟨-, he⟩ | ⟨-, he⟩⟩
    · rw [Call.step, he]
      exact h
    · rw [Call.step, he]
      exact installed_rebuilt h hpath
    · rw [Call.step, he]
      exact installed_rebuilt h hpath

/-- A path that the reducer throws on and that ends where the canonical path does, as
far as both are confirmed, is confirmed as the canonical path is. -/
theorem Rebuilt.same_prefix {p : CanonicalProjector Event State} (h : Rebuilt p) {headHash : String}
    {path : List (ChainBlock Event)} (hpath : pathToGenesis p.blocks headHash = .ok path)
    (hthrows : Throws p.reducer (confirmedEvents p.confirmationDepth path))
    (hhead : confirmedHeadOf p.confirmationDepth path = confirmedHeadOf p.confirmationDepth p.canonical) :
    confirmedPrefix p.confirmationDepth path = confirmedPrefix p.confirmationDepth p.canonical := by
  obtain ⟨c, hc⟩ : ∃ c, (confirmedPrefix p.confirmationDepth path).getLast? = some c := by
    cases hlast : (confirmedPrefix p.confirmationDepth path).getLast? with
    | some c => exact ⟨c, rfl⟩
    | none =>
      rw [Throws, confirmedEvents, List.getLast?_eq_none_iff.mp hlast] at hthrows
      cases hthrows
  rw [confirmedHeadOf, hc, confirmedHeadOf, Option.map_some] at hhead
  obtain ⟨c', hc', heq⟩ := Option.map_eq_some_iff.mp hhead.symm
  obtain ⟨b, hb, hparent⟩ := parentPath_of_pathToGenesis hpath
  have hstored : p.blocks.get b.hash = some b := by rwa [h.keyed _ _ hb]
  have hnew := confirmed_parentPath h.keyed hparent hstored _ hc
  rcases h.canonical with hnil | ⟨b', hb', hparent'⟩
  · rw [hnil, confirmedPrefix, List.take_nil] at hc'
    cases hc'
  · have hold := confirmed_parentPath h.keyed hparent' hb' _ hc'
    have hsame : c' = c := by
      have hget := hold.2
      rw [(Prod.mk.inj heq).1, hnew.2] at hget
      exact (Option.some.inj hget).symm
    exact hnew.1.unique (hsame ▸ hold.1)

/-- **A selection that fails leaves the snapshot as it was just if it is settled**, for
every reducer and in every state that calls can reach. -/
theorem selectHead_atomic (reducer : ProjectionReducer Event State) (confirmationDepth : ℤ)
    (canonicalJson : ChainBlock Event → Option String) (snapshotJson : ProjectorSnapshot State → Option String)
    {p₀ : CanonicalProjector Event State} (hnew : CanonicalProjector.new reducer confirmationDepth = .ok p₀)
    (calls : List (Call Event)) (headHash : String) :
    (∀ e p', (run (Call.step canonicalJson) p₀ calls).selectHead headHash = (.error e, p') →
        p'.snapshot = (run (Call.step canonicalJson) p₀ calls).snapshot ∧
          p'.checkpoint snapshotJson = (run (Call.step canonicalJson) p₀ calls).checkpoint snapshotJson) ↔
      Settled (run (Call.step canonicalJson) p₀ calls) headHash := by
  have h : Rebuilt (run (Call.step canonicalJson) p₀ calls) := run_invariant step_rebuilt calls (new_rebuilt hnew)
  generalize run (Call.step canonicalJson) p₀ calls = p at h ⊢
  constructor
  · intro hatomic b path hb hparent hthrows
    have hpath := (pathToGenesis_eq_ok_iff h.keyed).mpr ⟨b, hb, hparent⟩
    rcases selectHead_cases p headHash with ⟨e, hpath', -⟩ | ⟨path', hpath', ⟨-, he⟩ | ⟨hnot, -⟩⟩
    · rw [hpath] at hpath'
      cases hpath'
    · obtain rfl : path = path' := Except.ok.inj (hpath.symm.trans hpath')
      rw [← (hatomic _ _ he).1, snapshot_confirmedHead]
      rfl
    · obtain rfl : path = path' := Except.ok.inj (hpath.symm.trans hpath')
      exact absurd hthrows hnot
  · intro hsettled e p' hselect
    have hsnapshot : p'.snapshot = p.snapshot := by
      rcases selectHead_cases p headHash with ⟨e', -, he⟩ | ⟨path, hpath, ⟨hthrows, he⟩ | ⟨-, he⟩⟩
      · rw [hselect] at he
        rw [(Prod.mk.inj he).2]
      · rw [hselect] at he
        obtain ⟨b, hb, hparent⟩ := parentPath_of_pathToGenesis hpath
        have hhead := hsettled b path hb hparent hthrows
        have hprefix := h.same_prefix hpath hthrows (hhead.trans (snapshot_confirmedHead p))
        have hstate : (installed p path).state = p.state := by
          rw [h.state, confirmedEvents, ← hprefix]
          rfl
        rw [(Prod.mk.inj he).2, ProjectorSnapshot.mk.injEq]
        exact ⟨(snapshot_confirmedHead (installed p path)).trans hhead, hstate⟩
      · rw [hselect] at he
        cases (Prod.mk.inj he).1
    rw [checkpoint, checkpoint, hsnapshot]
    exact ⟨rfl, rfl⟩

section Sample

/-- It collects numbers and throws at zero. -/
def nonzeroReducer : ProjectionReducer ℕ (List ℕ) := ⟨[], fun s e => if e = 0 then none else some (s ++ [e])⟩

def sampleCalls : List (Call ℕ) :=
  [.ingest ⟨[7], "g", 0, ""⟩, .ingest ⟨[8, 0], "a", 1, "g"⟩, .selectHead "g"]

/-- A head whose replay fails half way fails again in the same way. -/
theorem selectHead_fails_again : ∃ p₀, CanonicalProjector.new nonzeroReducer 0 = .ok p₀ ∧
    Settled (run (Call.step fun b => some b.hash) p₀ (sampleCalls ++ [.selectHead "a"])) "a" := by
  refine ⟨_, rfl, (selectHead_atomic nonzeroReducer 0 (fun b => some b.hash) (fun _ => none) rfl
    (sampleCalls ++ [.selectHead "a"]) "a").mp fun e p' h => ?_⟩
  cases h
  exact ⟨rfl, rfl⟩

/-- A head whose replay fails half way is the confirmed head then, over a state that has
one of its two events. -/
theorem selectHead_partial : ∃ p₀ p', CanonicalProjector.new nonzeroReducer 0 = .ok p₀ ∧
    (run (Call.step fun b => some b.hash) p₀ sampleCalls).selectHead "a" = (.error .reducer, p') ∧
    (run (Call.step fun b => some b.hash) p₀ sampleCalls).snapshot = ⟨some ("g", 0), [7]⟩ ∧
    p'.snapshot = ⟨some ("a", 1), [7, 8]⟩ ∧ p'.snapshot ≠ (run (Call.step fun b => some b.hash) p₀ sampleCalls).snapshot := by
  refine ⟨_, _, rfl, rfl, rfl, rfl, fun h => ?_⟩
  have hhead := congrArg ProjectorSnapshot.confirmedHead h
  exact absurd (Option.some.inj hhead) (by decide)

end Sample

end Indexer
end Evllm
