/-
# The canonical projector replays the selected chain

`src/indexer/canonical-projector.ts`: blocks are ingested in any order that
has parents first, a head is selected, and the state is the fold of the
reducer over the events of the confirmed prefix of the head's parent path.
The code computes the confirmed block (`snapshot`) and the confirmed prefix
(`rebuild`) by two formulas; here both are read off one list,
`confirmedPrefix`, and the projector is shown to be its replay
(`selectHead_replay`), whatever was ingested or selected before.

A method is a function to its result and the projector it leaves, so that a
throw keeps what was written before it.

Key definitions: `ChainBlock`, `CanonicalProjector.ingest`,
`CanonicalProjector.selectHead`, `CanonicalProjector.snapshot`,
`pathToGenesis`, `ParentPath`, `replay`.
-/
import Mathlib.Tactic.Linarith
import Evllm.Lib.JsMap
import Evllm.Lib.Loop
import Evllm.Lib.Run

namespace Evllm
namespace Indexer

open Lib

variable {Event State : Type}

structure ChainBlock (Event : Type) where
  events : List Event
  hash : String
  number : ℤ
  parentHash : String

/-- `apply` answers `none` where the reducer throws. -/
structure ProjectionReducer (Event State : Type) where
  initialState : State
  apply : State → Event → Option State

/-- The three codes of `CanonicalProjectorError`, the `RangeError` of the
constructor, the `TypeError` of `canonicalJson` and an exception of the
reducer. -/
inductive ProjectorError where
  | conflict
  | gap
  | unknownParent
  | range
  | notCanonicalJson
  | reducer
  deriving DecidableEq, Repr

structure ProjectorSnapshot (State : Type) where
  /-- The hash and the number of the confirmed block. -/
  confirmedHead : Option (String × ℤ)
  state : State
  deriving DecidableEq

structure CanonicalProjector (Event State : Type) where
  reducer : ProjectionReducer Event State
  confirmationDepth : ℕ
  blocks : JsMap String (ChainBlock Event)
  canonical : List (ChainBlock Event)
  state : State

def isSafeInteger (n : ℤ) : Bool := -(2 ^ 53 - 1) ≤ n ∧ n ≤ 2 ^ 53 - 1

/-! ### The path to genesis -/

/-- The variables of the loop of `pathToGenesis`. -/
structure Walk (Event : Type) where
  block : ChainBlock Event
  seen : List String
  reversed : List (ChainBlock Event)

/-- One turn of the loop of `pathToGenesis`. -/
def walkTurn (blocks : JsMap String (ChainBlock Event)) (w : Walk Event) :
    Walk Event ⊕ Except ProjectorError (List (ChainBlock Event)) :=
  if w.block.hash ∈ w.seen then .inr (.error .conflict)
  else
    let seen := w.block.hash :: w.seen
    let reversed := w.reversed ++ [w.block]
    if w.block.number = 0 then .inr (.ok reversed.reverse)
    else
      match blocks.get w.block.parentHash with
      | none => .inr (.error .gap)
      | some parent =>
        if parent.number + 1 ≠ w.block.number then .inr (.error .gap)
        else .inl ⟨parent, seen, reversed⟩

/-- `pathToGenesis` with at most `turns` turns of its loop; `none` if the loop
is still going on then. -/
def pathWithin (turns : ℕ) (blocks : JsMap String (ChainBlock Event)) (headHash : String) :
    Option (Except ProjectorError (List (ChainBlock Event))) :=
  match blocks.get headHash with
  | none => some (.error .unknownParent)
  | some block => loop (walkTurn blocks) turns ⟨block, [], []⟩

/-- The loop turns at most once for each block (`pathWithin_terminates`). -/
def pathToGenesis (blocks : JsMap String (ChainBlock Event)) (headHash : String) :
    Except ProjectorError (List (ChainBlock Event)) :=
  (pathWithin (blocks.size + 1) blocks headHash).getD (.error .conflict)

/-! ### The projector -/

namespace CanonicalProjector

/-- The constructor. -/
def new (reducer : ProjectionReducer Event State) (confirmationDepth : ℤ) :
    Except ProjectorError (CanonicalProjector Event State) :=
  if !isSafeInteger confirmationDepth ∨ confirmationDepth < 0 then .error .range
  else .ok ⟨reducer, confirmationDepth.toNat, .empty, [], reducer.initialState⟩

/-- `canonicalJson` answers `none` where it throws. -/
def ingest (canonicalJson : ChainBlock Event → Option String) (p : CanonicalProjector Event State)
    (block : ChainBlock Event) : Except ProjectorError Unit × CanonicalProjector Event State :=
  if !isSafeInteger block.number ∨ block.number < 0 ∨ block.hash.length = 0 then (.error .gap, p)
  else
    match p.blocks.get block.hash with
    | some existing =>
      match canonicalJson existing, canonicalJson block with
      | some left, some right => if left ≠ right then (.error .conflict, p) else (.ok (), p)
      | _, _ => (.error .notCanonicalJson, p)
    | none =>
      if block.number > 0 ∧ !p.blocks.has block.parentHash then (.error .unknownParent, p)
      else (.ok (), { p with blocks := p.blocks.set block.hash block })

def snapshot (p : CanonicalProjector Event State) : ProjectorSnapshot State :=
  let confirmedIndex : ℤ := p.canonical.length - 1 - p.confirmationDepth
  let confirmed := if confirmedIndex ≥ 0 then p.canonical[confirmedIndex.toNat]? else none
  ⟨confirmed.map fun block => (block.hash, block.number), p.state⟩

/-- The loop of `rebuild` over the events: the state where it ended, and
whether the reducer threw there. -/
def applyAll (reducer : ProjectionReducer Event State) : State → List Event → State × Bool
  | state, [] => (state, false)
  | state, event :: events =>
    match reducer.apply state event with
    | none => (state, true)
    | some state' => applyAll reducer state' events

def rebuild (p : CanonicalProjector Event State) :
    Except ProjectorError Unit × CanonicalProjector Event State :=
  let confirmedCount : ℤ := max 0 (p.canonical.length - p.confirmationDepth)
  let events := (p.canonical.take confirmedCount.toNat).flatMap ChainBlock.events
  let (state, thrown) := applyAll p.reducer p.reducer.initialState events
  (if thrown then .error .reducer else .ok (), { p with state })

def selectHead (p : CanonicalProjector Event State) (headHash : String) :
    Except ProjectorError (ProjectorSnapshot State) × CanonicalProjector Event State :=
  match pathToGenesis p.blocks headHash with
  | .error e => (.error e, p)
  | .ok path =>
    match rebuild { p with canonical := path } with
    | (.error e, p') => (.error e, p')
    | (.ok (), p') => (.ok p'.snapshot, p')

end CanonicalProjector

/-- A call on the projector. -/
inductive Call (Event : Type) where
  | ingest (block : ChainBlock Event)
  | selectHead (headHash : String)

/-- The projector after a call, which may have thrown. -/
def Call.step (canonicalJson : ChainBlock Event → Option String)
    (p : CanonicalProjector Event State) : Call Event → CanonicalProjector Event State
  | .ingest block => (p.ingest canonicalJson block).2
  | .selectHead headHash => (p.selectHead headHash).2

/-! ### The abstract replay -/

/-- `path` is the parent path of the block `b`, from genesis to `b`. -/
inductive ParentPath (blocks : JsMap String (ChainBlock Event)) :
    ChainBlock Event → List (ChainBlock Event) → Prop
  | genesis {b : ChainBlock Event} (h0 : b.number = 0) : ParentPath blocks b [b]
  | child {a b : ChainBlock Event} {path : List (ChainBlock Event)} (h0 : b.number ≠ 0)
      (hget : blocks.get b.parentHash = some a) (hnum : a.number + 1 = b.number)
      (hpath : ParentPath blocks a path) : ParentPath blocks b (path ++ [b])

/-- The part of a path that is at least `depth` blocks below its end. -/
def confirmedPrefix (depth : ℕ) (path : List (ChainBlock Event)) : List (ChainBlock Event) :=
  path.take (path.length - depth)

/-- The fold of a total reducer over the confirmed prefix of a path. -/
def replay (apply : State → Event → State) (initialState : State) (depth : ℕ)
    (path : List (ChainBlock Event)) : ProjectorSnapshot State :=
  ⟨(confirmedPrefix depth path).getLast?.map fun block => (block.hash, block.number),
    ((confirmedPrefix depth path).flatMap ChainBlock.events).foldl apply initialState⟩

/-- The blocks a walk from `headHash` can meet. -/
inductive Ancestor (blocks : JsMap String (ChainBlock Event)) (headHash : String) :
    ChainBlock Event → Prop
  | head {b : ChainBlock Event} (hget : blocks.get headHash = some b) : Ancestor blocks headHash b
  | parent {a b : ChainBlock Event} (h : Ancestor blocks headHash b) (h0 : b.number ≠ 0)
      (hget : blocks.get b.parentHash = some a) : Ancestor blocks headHash a

/-- Every block is stored under its own hash. -/
def Keyed (blocks : JsMap String (ChainBlock Event)) : Prop :=
  ∀ k b, blocks.get k = some b → b.hash = k

theorem Ancestor.get_hash {blocks : JsMap String (ChainBlock Event)} {headHash : String}
    (hkey : Keyed blocks) {b : ChainBlock Event}
    (h : Ancestor blocks headHash b) : blocks.get b.hash = some b := by
  cases h with
  | head hget => rw [hkey _ _ hget]; exact hget
  | parent _ _ hget => rw [hkey _ _ hget]; exact hget

/-! ### The walk -/

section Walk

variable {blocks : JsMap String (ChainBlock Event)}

/-- A turn that goes on moves from a block to its parent. -/
theorem walkTurn_inl {w w' : Walk Event} (h : walkTurn blocks w = .inl w') :
    w.block.hash ∉ w.seen ∧ w.block.number ≠ 0 ∧ blocks.get w.block.parentHash = some w'.block ∧
      w'.block.number + 1 = w.block.number ∧ w'.seen = w.block.hash :: w.seen ∧
      w'.reversed = w.reversed ++ [w.block] := by
  unfold walkTurn at h
  split at h
  · cases h
  · rename_i hseen
    simp only at h
    split at h
    · cases h
    · rename_i h0
      split at h
      · cases h
      · rename_i parent hget
        split at h
        · cases h
        · rename_i hnum
          cases h
          exact ⟨hseen, h0, hget, not_not.mp hnum, rfl, rfl⟩

/-- A turn that leaves with a path is at a genesis block. -/
theorem walkTurn_inr_ok {w : Walk Event} {path : List (ChainBlock Event)}
    (h : walkTurn blocks w = .inr (.ok path)) :
    w.block.number = 0 ∧ path = [w.block] ++ w.reversed.reverse := by
  unfold walkTurn at h
  split at h
  · cases h
  · simp only at h
    split at h
    · rename_i h0
      cases h
      exact ⟨h0, by simp⟩
    · split at h
      · cases h
      · split at h <;> cases h

/-- The blocks of the map whose hashes the walk has not met. -/
def unseen (blocks : JsMap String (ChainBlock Event)) (w : Walk Event) : List (ChainBlock Event) :=
  blocks.values.filter fun b => b.hash ∉ w.seen

theorem unseen_length_lt {w w' : Walk Event} (hmem : w.block ∈ blocks.values)
    (hseen : w.block.hash ∉ w.seen) (hw' : w'.seen = w.block.hash :: w.seen) :
    (unseen blocks w').length < (unseen blocks w).length := by
  have hsub : unseen blocks w' = (unseen blocks w).filter fun b => b.hash ∉ w'.seen := by
    rw [unseen, unseen, List.filter_filter]
    apply List.filter_congr
    intro b _
    simp [hw']
  rw [hsub, List.length_filter_lt_length_iff_exists]
  exact ⟨w.block, List.mem_filter.mpr ⟨hmem, by simpa using hseen⟩, by simp [hw']⟩

/-- **The walk ends on every map of blocks**, after at most one turn for each
block: a turn that goes on adds a new hash to `seen`. -/
theorem pathWithin_terminates (blocks : JsMap String (ChainBlock Event)) (headHash : String) :
    ∃ result, ∀ turns, blocks.size < turns → pathWithin turns blocks headHash = some result := by
  cases hhead : blocks.get headHash with
  | none => exact ⟨.error .unknownParent, fun turns _ => by simp [pathWithin, hhead]⟩
  | some block =>
    have hturn : ∀ w w' : Walk Event, w.block ∈ blocks.values → walkTurn blocks w = .inl w' →
        w'.block ∈ blocks.values ∧ (unseen blocks w').length < (unseen blocks w).length := by
      intro w w' hmem h
      obtain ⟨hseen, -, hget, -, hs, -⟩ := walkTurn_inl h
      exact ⟨JsMap.mem_values_of_get hget, unseen_length_lt hmem hseen hs⟩
    have hstart : (unseen blocks ⟨block, [], []⟩).length < blocks.size + 1 := by
      have := List.length_filter_le (fun b : ChainBlock Event => decide (b.hash ∉ ([] : List String)))
        blocks.values
      rw [JsMap.length_values] at this
      exact Nat.lt_succ_of_le this
    obtain ⟨result, hres⟩ := loop_terminates (walkTurn blocks) hturn (blocks.size + 1)
      (JsMap.mem_values_of_get hhead) hstart
    refine ⟨result, fun turns hlt => ?_⟩
    simp only [pathWithin, hhead]
    exact loop_mono _ hres hlt

theorem pathWithin_eq (blocks : JsMap String (ChainBlock Event)) (headHash : String) :
    pathWithin (blocks.size + 1) blocks headHash = some (pathToGenesis blocks headHash) := by
  obtain ⟨result, h⟩ := pathWithin_terminates blocks headHash
  simp [pathToGenesis, h _ (Nat.lt_succ_self _)]

/-- What `pathToGenesis` returns is the parent path of the head. -/
theorem parentPath_of_pathToGenesis {headHash : String} {path : List (ChainBlock Event)}
    (h : pathToGenesis blocks headHash = .ok path) :
    ∃ b, blocks.get headHash = some b ∧ ParentPath blocks b path := by
  have hw := pathWithin_eq blocks headHash
  rw [h] at hw
  unfold pathWithin at hw
  cases hhead : blocks.get headHash with
  | none => simp [hhead] at hw
  | some b =>
    rw [hhead] at hw
    refine ⟨b, rfl, ?_⟩
    -- a path to the block of the walk extends by the blocks already walked
    let I : Walk Event → Prop := fun w =>
      ∀ q, ParentPath blocks w.block q → ParentPath blocks b (q ++ w.reversed.reverse)
    have hstep : ∀ w w', I w → walkTurn blocks w = .inl w' → I w' := by
      intro w w' hI ht q hq
      obtain ⟨-, h0, hget, hnum, -, hrev⟩ := walkTurn_inl ht
      have := hI _ (.child h0 hget hnum hq)
      simpa [hrev] using this
    have hinit : I ⟨b, [], []⟩ := fun q hq => by simpa using hq
    obtain ⟨w, hI, hr⟩ := loop_result (walkTurn blocks) hstep _ hinit hw
    obtain ⟨h0, rfl⟩ := walkTurn_inr_ok hr
    exact hI _ (.genesis h0)

/-- A block has at most one parent path. -/
theorem ParentPath.unique {b : ChainBlock Event} {p q : List (ChainBlock Event)}
    (hp : ParentPath blocks b p) (hq : ParentPath blocks b q) : p = q := by
  induction hp generalizing q with
  | genesis h0 =>
    cases hq with
    | genesis => rfl
    | child h1 => exact absurd h0 h1
  | child h0 hget _ _ ih =>
    cases hq with
    | genesis h1 => exact absurd h1 h0
    | child _ hget' _ hpath' =>
      rw [hget, Option.some.injEq] at hget'
      subst hget'
      rw [ih hpath']

/-- On a keyed map the walk follows a parent path to its end: the hashes it
has met are those of blocks with greater numbers, so it meets none twice. -/
theorem loop_of_parentPath (hkey : Keyed blocks) {b : ChainBlock Event}
    {path : List (ChainBlock Event)} (hpath : ParentPath blocks b path) :
    ∀ w : Walk Event, w.block = b → blocks.get b.hash = some b →
      (∀ k ∈ w.seen, ∃ c, blocks.get k = some c ∧ b.number < c.number) →
      ∃ n, loop (walkTurn blocks) n w = some (.ok (path ++ w.reversed.reverse)) := by
  have fresh : ∀ (b : ChainBlock Event) (seen : List String), blocks.get b.hash = some b →
      (∀ k ∈ seen, ∃ c, blocks.get k = some c ∧ b.number < c.number) → b.hash ∉ seen := by
    intro b seen hb hseen hmem
    obtain ⟨c, hc, hlt⟩ := hseen _ hmem
    rw [hb, Option.some.injEq] at hc
    exact absurd (hc ▸ hlt) (lt_irrefl _)
  induction hpath with
  | genesis h0 =>
    rintro w rfl hb hseen
    refine ⟨1, ?_⟩
    simp [loop, walkTurn, fresh _ _ hb hseen, h0]
  | @child a b path h0 hget hnum _ ih =>
    rintro w rfl hb hseen
    have ha : blocks.get a.hash = some a := by rw [hkey _ _ hget]; exact hget
    have hseen' : ∀ k ∈ w.block.hash :: w.seen, ∃ c, blocks.get k = some c ∧ a.number < c.number := by
      intro k hk
      rcases List.mem_cons.mp hk with rfl | hk
      · exact ⟨w.block, hb, by omega⟩
      · obtain ⟨c, hc, hlt⟩ := hseen k hk
        exact ⟨c, hc, by omega⟩
    obtain ⟨n, hn⟩ := ih ⟨a, w.block.hash :: w.seen, w.reversed ++ [w.block]⟩ rfl ha hseen'
    refine ⟨n + 1, ?_⟩
    have ht : walkTurn blocks w = .inl ⟨a, w.block.hash :: w.seen, w.reversed ++ [w.block]⟩ := by
      simp [walkTurn, fresh _ _ hb hseen, h0, hget, hnum]
    simpa [loop, ht] using hn

/-- `pathToGenesis` finds exactly the parent paths. -/
theorem pathToGenesis_eq_ok_iff (hkey : Keyed blocks) {headHash : String}
    {path : List (ChainBlock Event)} :
    pathToGenesis blocks headHash = .ok path ↔
      ∃ b, blocks.get headHash = some b ∧ ParentPath blocks b path := by
  refine ⟨parentPath_of_pathToGenesis, ?_⟩
  rintro ⟨b, hhead, hpath⟩
  have hb : blocks.get b.hash = some b := by rw [hkey _ _ hhead]; exact hhead
  obtain ⟨n, hn⟩ := loop_of_parentPath hkey hpath ⟨b, [], []⟩ rfl hb (by simp)
  obtain ⟨result, hres⟩ := pathWithin_terminates blocks headHash
  have h1 := hres (max n (blocks.size + 1)) (lt_of_lt_of_le (Nat.lt_succ_self _) (le_max_right _ _))
  have h2 : pathWithin (max n (blocks.size + 1)) blocks headHash = some (.ok path) := by
    simp only [pathWithin, hhead]
    simpa using loop_mono _ hn (le_max_left _ _)
  have h3 := pathWithin_eq blocks headHash
  rw [hres _ (Nat.lt_succ_self _)] at h3
  rw [h1, Option.some.injEq] at h2
  rw [← Option.some.inj h3, h2]

/-- A parent path only reads the ancestors of its end. -/
theorem ParentPath.congr {blocks' : JsMap String (ChainBlock Event)} {headHash : String}
    (hkey' : Keyed blocks')
    (hanc : ∀ c, Ancestor blocks headHash c → Ancestor blocks' headHash c)
    {b : ChainBlock Event} {path : List (ChainBlock Event)} (hpath : ParentPath blocks b path)
    (hkey : Keyed blocks) (hb : Ancestor blocks headHash b) : ParentPath blocks' b path := by
  induction hpath with
  | genesis h0 => exact .genesis h0
  | @child a b path h0 hget hnum _ ih =>
    have ha := hb.parent h0 hget
    refine .child h0 ?_ hnum (ih ha)
    rw [← hkey _ _ hget]
    exact (hanc a ha).get_hash hkey'

end Walk

/-! ### The projector replays the selected chain -/

/-- A reducer that never throws. -/
def ProjectionReducer.total (initialState : State) (apply : State → Event → State) :
    ProjectionReducer Event State :=
  ⟨initialState, fun state event => some (apply state event)⟩

section Replay

variable {apply : State → Event → State} {initialState : State} {depth : ℕ}
variable {canonicalJson : ChainBlock Event → Option String}

open CanonicalProjector

theorem applyAll_total : ∀ (events : List Event) (state : State),
    applyAll (.total initialState apply) state events = (events.foldl apply state, false)
  | [], _ => rfl
  | event :: events, state => by
    simp only [applyAll, ProjectionReducer.total, List.foldl_cons]
    exact applyAll_total events (apply state event)

/-- The last block of the confirmed prefix is the one at the index `snapshot`
reads. -/
theorem confirmedPrefix_getLast? (depth : ℕ) (path : List (ChainBlock Event)) :
    (confirmedPrefix depth path).getLast? =
      if (path.length : ℤ) - 1 - depth ≥ 0 then path[((path.length : ℤ) - 1 - depth).toNat]? else none := by
  unfold confirmedPrefix
  split_ifs with h
  · have hlen : (path.take (path.length - depth)).length = path.length - depth := by simp
    rw [List.getLast?_eq_getElem?, hlen, List.getElem?_take_of_lt (by omega)]
    congr 1
    omega
  · rw [show path.length - depth = 0 by omega]
    simp

/-- What every call keeps: the state is the fold over the confirmed prefix of
the canonical path. -/
structure Projects (apply : State → Event → State) (initialState : State) (depth : ℕ)
    (p : CanonicalProjector Event State) : Prop where
  reducer : p.reducer = .total initialState apply
  confirmationDepth : p.confirmationDepth = depth
  keyed : Keyed p.blocks
  state : p.state = ((confirmedPrefix depth p.canonical).flatMap ChainBlock.events).foldl apply initialState

theorem Projects.snapshot_eq {p : CanonicalProjector Event State}
    (h : Projects apply initialState depth p) :
    p.snapshot = replay apply initialState depth p.canonical := by
  simp only [snapshot, replay, confirmedPrefix_getLast?, h.confirmationDepth, h.state]

theorem new_projects {p : CanonicalProjector Event State}
    (h : CanonicalProjector.new (.total initialState apply) depth = .ok p) :
    Projects apply initialState depth p := by
  unfold CanonicalProjector.new at h
  split at h
  · cases h
  · cases h
    exact ⟨rfl, by simp, by simp [Keyed], by simp [confirmedPrefix, ProjectionReducer.total]⟩

/-- `ingest` only ever adds a block under its own hash. -/
theorem ingest_cases (canonicalJson : ChainBlock Event → Option String)
    (p : CanonicalProjector Event State) (block : ChainBlock Event) :
    (p.ingest canonicalJson block).2 = p ∨
      (p.ingest canonicalJson block = (.ok (), { p with blocks := p.blocks.set block.hash block }) ∧
        p.blocks.get block.hash = none) := by
  unfold ingest
  split
  · exact .inl rfl
  · split
    · split
      · split <;> exact .inl rfl
      · exact .inl rfl
    · rename_i hget
      split
      · exact .inl rfl
      · exact .inr ⟨rfl, hget⟩

/-- Ingestion, accepted or not, leaves the snapshot as it is. -/
theorem ingest_snapshot (canonicalJson : ChainBlock Event → Option String)
    (p : CanonicalProjector Event State) (block : ChainBlock Event) :
    (p.ingest canonicalJson block).2.snapshot = p.snapshot := by
  rcases ingest_cases canonicalJson p block with h | ⟨h, -⟩
  · rw [h]
  · rw [h]
    rfl

theorem ingest_projects {p : CanonicalProjector Event State}
    (h : Projects apply initialState depth p) (block : ChainBlock Event) :
    Projects apply initialState depth (p.ingest canonicalJson block).2 := by
  rcases ingest_cases canonicalJson p block with he | ⟨he, -⟩
  · rw [he]
    exact h
  · rw [he]
    refine ⟨h.reducer, h.confirmationDepth, fun k b hget => ?_, h.state⟩
    simp only [JsMap.get_set] at hget
    split_ifs at hget with hk
    · rw [← Option.some.inj hget, hk]
    · exact h.keyed k b hget

/-- **`selectHead` with a total reducer**: it throws exactly when there is no
path to genesis, and then changes nothing; otherwise the path becomes the
canonical one. -/
theorem selectHead_eq {p : CanonicalProjector Event State} (h : Projects apply initialState depth p)
    (headHash : String) :
    p.selectHead headHash =
      match pathToGenesis p.blocks headHash with
      | .error e => (.error e, p)
      | .ok path =>
        (.ok (replay apply initialState depth path),
          { p with canonical := path, state := (replay apply initialState depth path).state }) := by
  unfold selectHead
  cases pathToGenesis p.blocks headHash with
  | error e => rfl
  | ok path =>
    have hcount : (max 0 ((path.length : ℤ) - depth)).toNat = path.length - depth := by omega
    have hre : rebuild { p with canonical := path } =
        (.ok (), { p with canonical := path, state := (replay apply initialState depth path).state }) := by
      simp only [rebuild, h.confirmationDepth, hcount, h.reducer, applyAll_total]
      rfl
    simp only [hre]
    refine Prod.ext (congrArg Except.ok ?_) rfl
    exact Projects.snapshot_eq ⟨h.reducer, h.confirmationDepth, h.keyed, rfl⟩

theorem selectHead_projects {p : CanonicalProjector Event State}
    (h : Projects apply initialState depth p) (headHash : String) :
    Projects apply initialState depth (p.selectHead headHash).2 := by
  rw [selectHead_eq h]
  cases pathToGenesis p.blocks headHash with
  | error e => exact h
  | ok path => exact ⟨h.reducer, h.confirmationDepth, h.keyed, rfl⟩

theorem step_projects (p : CanonicalProjector Event State) (call : Call Event)
    (h : Projects apply initialState depth p) :
    Projects apply initialState depth (call.step canonicalJson p) := by
  cases call with
  | ingest block => exact ingest_projects h block
  | selectHead headHash => exact selectHead_projects h headHash

theorem run_projects (calls : List (Call Event)) {p : CanonicalProjector Event State}
    (h : Projects apply initialState depth p) :
    Projects apply initialState depth (run (Call.step canonicalJson) p calls) :=
  run_invariant step_projects calls h

theorem run_ingest_snapshot (later : List (ChainBlock Event)) (p : CanonicalProjector Event State) :
    (run (Call.step canonicalJson) p (later.map .ingest)).snapshot = p.snapshot := by
  induction later generalizing p with
  | nil => rfl
  | cons block later ih =>
    rw [List.map_cons, run_cons, ih]
    exact ingest_snapshot canonicalJson p block

/-- A successful `selectHead` finds the parent path of the head and leaves its
replay as the snapshot. -/
theorem selectHead_ok {p p' : CanonicalProjector Event State} {headHash : String}
    {snap : ProjectorSnapshot State} (h : Projects apply initialState depth p)
    (hs : p.selectHead headHash = (.ok snap, p')) :
    ∃ b path, p.blocks.get headHash = some b ∧ ParentPath p.blocks b path ∧
      snap = replay apply initialState depth path ∧ p'.snapshot = replay apply initialState depth path := by
  have hp' : Projects apply initialState depth p' := by
    have := selectHead_projects h headHash
    rwa [hs] at this
  rw [selectHead_eq h] at hs
  cases hpath : pathToGenesis p.blocks headHash with
  | error e => rw [hpath] at hs; cases hs
  | ok path =>
    rw [hpath] at hs
    obtain ⟨b, hb, hpp⟩ := parentPath_of_pathToGenesis hpath
    cases hs
    exact ⟨b, path, hb, hpp, rfl, hp'.snapshot_eq⟩

/-- Two projectors that hold the same ancestors of a head select it alike. -/
theorem selectHead_congr {p q p' : CanonicalProjector Event State} {headHash : String}
    {snap : ProjectorSnapshot State} (hp : Projects apply initialState depth p)
    (hq : Projects apply initialState depth q)
    (hanc : ∀ b, Ancestor p.blocks headHash b ↔ Ancestor q.blocks headHash b)
    (hs : p.selectHead headHash = (.ok snap, p')) : ∃ q', q.selectHead headHash = (.ok snap, q') := by
  obtain ⟨b, path, hb, hpp, rfl, -⟩ := selectHead_ok hp hs
  have hanc_b : Ancestor p.blocks headHash b := .head hb
  have hb' : q.blocks.get headHash = some b := by
    rw [← hp.keyed _ _ hb]
    exact ((hanc b).mp hanc_b).get_hash hq.keyed
  have hpp' := hpp.congr hq.keyed (fun c => (hanc c).mp) hp.keyed hanc_b
  rw [selectHead_eq hq, (pathToGenesis_eq_ok_iff hq.keyed).mpr ⟨b, hb', hpp'⟩]
  exact ⟨_, rfl⟩

/-- **The projector is the replay of the selected chain.** After a successful
`selectHead` and any later ingestion the snapshot is the fold of the reducer
over the blocks from genesis to the one `depth` below the head on its parent
path, with that block as the confirmed head; it depends on the head and its
ingested ancestors alone; a rejected call leaves it unchanged; and the walk to
genesis ends on every map of blocks. -/
theorem snapshot_replays_selected_chain (canonicalJson : ChainBlock Event → Option String)
    (apply : State → Event → State) (initialState : State) (depth : ℕ)
    (p₀ : CanonicalProjector Event State)
    (hnew : CanonicalProjector.new (.total initialState apply) depth = .ok p₀) :
    (∀ (calls : List (Call Event)) (headHash : String) (snap : ProjectorSnapshot State)
        (p' : CanonicalProjector Event State),
      (run (Call.step canonicalJson) p₀ calls).selectHead headHash = (.ok snap, p') →
      ∃ b path, (run (Call.step canonicalJson) p₀ calls).blocks.get headHash = some b ∧
        ParentPath (run (Call.step canonicalJson) p₀ calls).blocks b path ∧
        snap = replay apply initialState depth path ∧
        ∀ later : List (ChainBlock Event),
          (run (Call.step canonicalJson) p' (later.map .ingest)).snapshot =
            replay apply initialState depth path) ∧
    (∀ (calls calls' : List (Call Event)) (headHash : String) (snap : ProjectorSnapshot State)
        (p' : CanonicalProjector Event State),
      (∀ b, Ancestor (run (Call.step canonicalJson) p₀ calls).blocks headHash b ↔
        Ancestor (run (Call.step canonicalJson) p₀ calls').blocks headHash b) →
      (run (Call.step canonicalJson) p₀ calls).selectHead headHash = (.ok snap, p') →
      ∃ p'', (run (Call.step canonicalJson) p₀ calls').selectHead headHash = (.ok snap, p'')) ∧
    (∀ (calls : List (Call Event)) (block : ChainBlock Event) (e : ProjectorError)
        (p' : CanonicalProjector Event State),
      (run (Call.step canonicalJson) p₀ calls).ingest canonicalJson block = (.error e, p') →
      p'.snapshot = (run (Call.step canonicalJson) p₀ calls).snapshot) ∧
    (∀ (calls : List (Call Event)) (headHash : String) (e : ProjectorError)
        (p' : CanonicalProjector Event State),
      (run (Call.step canonicalJson) p₀ calls).selectHead headHash = (.error e, p') →
      p'.snapshot = (run (Call.step canonicalJson) p₀ calls).snapshot) ∧
    (∀ (blocks : JsMap String (ChainBlock Event)) (headHash : String),
      ∃ result, ∀ turns, blocks.size < turns → pathWithin turns blocks headHash = some result) := by
  have hrun : ∀ calls, Projects apply initialState depth (run (Call.step canonicalJson) p₀ calls) :=
    fun calls => run_projects calls (new_projects hnew)
  refine ⟨fun calls headHash snap p' hs => ?_, fun calls calls' headHash snap p' hanc hs => ?_,
    fun calls block e p' hs => ?_, fun calls headHash e p' hs => ?_, pathWithin_terminates⟩
  · obtain ⟨b, path, hb, hpp, hsnap, hp'⟩ := selectHead_ok (hrun calls) hs
    exact ⟨b, path, hb, hpp, hsnap, fun later => (run_ingest_snapshot later p').trans hp'⟩
  · exact selectHead_congr (hrun calls) (hrun calls') hanc hs
  · have := ingest_snapshot canonicalJson (run (Call.step canonicalJson) p₀ calls) block
    rwa [hs] at this
  · rw [selectHead_eq (hrun calls)] at hs
    cases hpath : pathToGenesis (run (Call.step canonicalJson) p₀ calls).blocks headHash with
    | error e' =>
      rw [hpath] at hs
      rw [← (Prod.mk.inj hs).2]
    | ok path => rw [hpath] at hs; cases hs

/-- Two blocks at depth 1: the genesis block is confirmed, its child is not. -/
theorem snapshot_replays_two_blocks :
    ∃ (p₀ p' : CanonicalProjector ℕ (List ℕ)) (path : List (ChainBlock ℕ)),
      CanonicalProjector.new (.total [] fun s e => s ++ [e]) (1 : ℕ) = .ok p₀ ∧
      (run (Call.step fun b => some b.hash) p₀
          [.ingest ⟨[7], "g", 0, ""⟩, .ingest ⟨[8], "a", 1, "g"⟩]).selectHead "a" =
        (.ok ⟨some ("g", 0), [7]⟩, p') ∧
      (run (Call.step fun b => some b.hash) p' [.ingest ⟨[9], "b", 1, "g"⟩]).snapshot =
        replay (fun s e => s ++ [e]) [] 1 path := by
  obtain ⟨_, path, _, _, _, hlater⟩ := (snapshot_replays_selected_chain (fun b => some b.hash)
    (fun s e => s ++ [e]) [] 1 _ rfl).1
      [.ingest ⟨[7], "g", 0, ""⟩, .ingest ⟨[8], "a", 1, "g"⟩] "a" ⟨some ("g", 0), [7]⟩ _ rfl
  exact ⟨_, _, path, rfl, rfl, hlater [⟨[9], "b", 1, "g"⟩]⟩

end Replay

end Indexer
end Evllm
