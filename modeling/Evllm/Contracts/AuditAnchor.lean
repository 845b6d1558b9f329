/-
# The audit anchor

A submitter anchors closed batches of audit events: the range of sequence
numbers of a batch, a commitment to it and the commitment of the batch before
it. The contract checks each batch on its own (its range is not empty and has as
many numbers as it says, its id is new) and that it names the commitment
anchored last, so the batches are linked. It does not compare the range with
that of the batch before it, nor the commitment with those anchored earlier.

`InOrder` says that a call does: then, and only then, the batches are one
gap-free chain in every state of a run (`audit_anchors_gap_free`).

Key definitions: `anchorBatch`, `AnchorRecords`, `GapFree`, `InOrder`.
-/
import Evllm.Contracts.Chain
import Evllm.Lib.Links

namespace Evllm
namespace Contracts

open Lib Function

structure Anchor where
  version : Uint64
  firstSequence : Uint64
  lastSequence : Uint64
  eventCount : Uint64
  finalEventHash : Bytes32
  commitment : Bytes32
  previousCommitment : Bytes32
  submitter : Address
  deriving DecidableEq

/-- The event of an anchored batch. -/
structure AuditBatchAnchored where
  batchId : Bytes32
  version : Uint64
  commitment : Bytes32
  previousCommitment : Bytes32
  firstSequence : Uint64
  lastSequence : Uint64
  eventCount : Uint64
  deriving DecidableEq

/-- The storage of the contract, and what it has emitted, in order. -/
structure AuditAnchor where
  lastBatchId : Bytes32
  lastCommitment : Bytes32
  anchoredBatchCount : Uint64
  anchors : Bytes32 → Anchor
  log : List AuditBatchAnchored

namespace AuditAnchor

/-- The contract as its constructor leaves it. -/
def deployed : AuditAnchor where
  lastBatchId := 0
  lastCommitment := 0
  anchoredBatchCount := 0
  anchors _ := ⟨0, 0, 0, 0, 0, 0, 0, 0⟩
  log := []

def anchorCapability : Bytes32 := bytes32Literal "audit.anchor"

structure BatchInput where
  batchId : Bytes32
  version : Uint64
  firstSequence : Uint64
  lastSequence : Uint64
  eventCount : Uint64
  finalEventHash : Bytes32
  commitment : Bytes32
  previousCommitment : Bytes32
  organizationId : Bytes32
  credentialId : Bytes32

def BatchInput.anchor (input : BatchInput) (sender : Address) : Anchor where
  version := input.version
  firstSequence := input.firstSequence
  lastSequence := input.lastSequence
  eventCount := input.eventCount
  finalEventHash := input.finalEventHash
  commitment := input.commitment
  previousCommitment := input.previousCommitment
  submitter := sender

def BatchInput.event (input : BatchInput) : AuditBatchAnchored where
  batchId := input.batchId
  version := input.version
  commitment := input.commitment
  previousCommitment := input.previousCommitment
  firstSequence := input.firstSequence
  lastSequence := input.lastSequence
  eventCount := input.eventCount

variable (r : AuditAnchor) (authority : AuthorityProfileRegistry) (msg : Msg)

def anchorBatch (input : BatchInput) : Except Revert AuditAnchor := do
  throwIf (input.batchId = 0 ∨ (r.anchors input.batchId).version ≠ 0) .alreadyAnchored
  -- the length of the range is only computed, in words, where it cannot wrap
  throwIf (input.version = 0 ∨ input.firstSequence = 0 ∨ input.lastSequence < input.firstSequence ∨
    input.eventCount = 0 ∨ input.eventCount ≠ input.lastSequence - input.firstSequence + 1 ∨
    input.finalEventHash = 0 ∨ input.commitment = 0) .invalidBoundary
  throwIf (input.previousCommitment ≠ r.lastCommitment) .invalidPredecessor
  throwIf (authority.isCredentialActive input.credentialId input.organizationId msg.sender = false ∨
    authority.hasCapability input.credentialId anchorCapability input.batchId msg.timestamp64 = false) .unauthorized
  let count ← checkedAdd r.anchoredBatchCount 1
  return { lastBatchId := input.batchId
           lastCommitment := input.commitment
           anchoredBatchCount := count
           anchors := update r.anchors input.batchId (input.anchor msg.sender)
           log := r.log ++ [input.event] }

end AuditAnchor

open AuditAnchor

/-! ### Runs -/

/-- The authority registry, and the anchor that asks it. -/
structure Audit where
  authority : AuthorityProfileRegistry
  anchor : AuditAnchor

inductive AuditOp where
  | authority (op : AuthorityOp)
  | anchorBatch (input : BatchInput)

def Audit.deployed (governance : Address) : Audit := ⟨.deployed governance, .deployed⟩

def auditCall (c : Audit) (call : Msg × AuditOp) : Except Revert Audit :=
  match call.2 with
  | .authority op => do return { c with authority := ← op.exec c.authority call.1 }
  | .anchorBatch input => do return { c with anchor := ← c.anchor.anchorBatch c.authority call.1 input }

/-- The contracts after the calls `ls` since they were deployed. -/
def auditAfter (governance : Address) (ls : List (Msg × AuditOp)) : Audit :=
  run (attempt auditCall) (.deployed governance) ls

/-! ### What a run leaves behind -/

/-- The log lists the anchored batches: each is stored under its id, and no
other id has one; each names the commitment of the batch before it. -/
structure AnchorRecords (r : AuditAnchor) : Prop where
  stored : ∀ batchId, (r.anchors batchId).version ≠ 0 ↔ batchId ∈ r.log.map AuditBatchAnchored.batchId
  fields : ∀ b ∈ r.log, ∃ finalEventHash submitter, r.anchors b.batchId =
    ⟨b.version, b.firstSequence, b.lastSequence, b.eventCount, finalEventHash, b.commitment, b.previousCommitment,
      submitter⟩
  ids : (r.log.map AuditBatchAnchored.batchId).Nodup
  count : r.anchoredBatchCount.toNat = r.log.length
  last : r.lastCommitment = tip AuditBatchAnchored.commitment 0 r.log
  linked : Linked AuditBatchAnchored.commitment AuditBatchAnchored.previousCommitment 0 r.log
  nonzero : (0 : Bytes32) ∉ r.log.map AuditBatchAnchored.commitment
  range : ∀ b ∈ r.log, 1 ≤ b.firstSequence.toNat ∧ b.firstSequence.toNat ≤ b.lastSequence.toNat

section Records

variable {r r' : AuditAnchor} {authority : AuthorityProfileRegistry} {msg : Msg} {input : BatchInput}

theorem anchorBatch_ok (h : r.anchorBatch authority msg input = .ok r') :
    (r.anchors input.batchId).version = 0 ∧ input.version ≠ 0 ∧ input.commitment ≠ 0 ∧
      1 ≤ input.firstSequence.toNat ∧ input.firstSequence.toNat ≤ input.lastSequence.toNat ∧
      input.previousCommitment = r.lastCommitment ∧
      ∃ count : Uint64, count.toNat = r.anchoredBatchCount.toNat + 1 ∧
        r' = ⟨input.batchId, input.commitment, count, update r.anchors input.batchId (input.anchor msg.sender),
          r.log ++ [input.event]⟩ := by
  simp only [anchorBatch, bind_eq_ok, throwIf_eq_ok, pure_eq_ok, not_or, not_not, ne_eq] at h
  obtain ⟨-, ⟨-, hnew⟩, -, ⟨hversion, hfirst, hrange, -, -, -, hcommitment⟩, -, hprevious, -, -, count, hcount, rfl⟩ := h
  have hpos : input.firstSequence.toNat ≠ 0 := fun h => hfirst (BitVec.eq_of_toNat_eq h)
  rw [BitVec.lt_def, not_lt] at hrange
  exact ⟨hnew, hversion, hcommitment, Nat.one_le_iff_ne_zero.mpr hpos, hrange, hprevious, count,
    checkedAdd_eq_ok hcount, rfl⟩

theorem records_deployed : AnchorRecords .deployed := by
  refine ⟨fun _ => ?_, fun b hb => ?_, ?_, rfl, rfl, eachAfter_nil, ?_, fun b hb => ?_⟩
  · simp [deployed]
  · cases hb
  · simp [deployed]
  · simp [deployed]
  · cases hb

theorem records_anchor (h : r.anchorBatch authority msg input = .ok r') (hr : AnchorRecords r) : AnchorRecords r' := by
  obtain ⟨hnew, hversion, hcommitment, hfirst, hrange, hprevious, count, hcount, rfl⟩ := anchorBatch_ok h
  have hfresh : input.batchId ∉ r.log.map AuditBatchAnchored.batchId := fun hmem => (hr.stored _).mpr hmem hnew
  constructor
  case stored =>
    intro batchId
    dsimp only
    by_cases hid : batchId = input.batchId
    · subst hid
      simpa [BatchInput.anchor, BatchInput.event] using hversion
    · rw [update_of_ne hid, hr.stored batchId]
      simp [BatchInput.event, hid]
  case fields =>
    intro b hb
    dsimp only
    rcases List.mem_append.mp hb with hold | hb
    · have hid : b.batchId ≠ input.batchId := fun heq => hfresh (heq ▸ List.mem_map_of_mem hold)
      rw [update_of_ne hid]
      exact hr.fields b hold
    · rw [List.mem_singleton.mp hb]
      exact ⟨input.finalEventHash, msg.sender, update_self ..⟩
  case ids =>
    rw [List.map_append, List.map_singleton, List.nodup_append]
    refine ⟨hr.ids, List.nodup_singleton _, fun a ha b hb => ?_⟩
    rw [List.mem_singleton.mp hb]
    rintro rfl
    exact hfresh ha
  case count => simp [hcount, hr.count]
  case last =>
    dsimp only
    rw [tip_concat]
    rfl
  case linked => exact eachAfter_concat.mpr ⟨hr.linked, hprevious.trans hr.last⟩
  case nonzero =>
    rw [List.map_append, List.map_singleton, List.mem_append, List.mem_singleton, not_or]
    exact ⟨hr.nonzero, Ne.symm hcommitment⟩
  case range =>
    intro b hb
    rcases List.mem_append.mp hb with hold | hb
    · exact hr.range b hold
    · rw [List.mem_singleton.mp hb]
      exact ⟨hfirst, hrange⟩

/-- A call leaves the anchors as they are, or anchors a batch. -/
theorem audit_cases {c c' : Audit} {call : Msg × AuditOp} (h : auditCall c call = .ok c') :
    c'.anchor = c.anchor ∨
      ∃ input, call.2 = .anchorBatch input ∧ c.anchor.anchorBatch c.authority call.1 input = .ok c'.anchor := by
  rcases call with ⟨msg, op⟩
  cases op with
  | authority op =>
    simp only [auditCall, bind_eq_ok, pure_eq_ok] at h
    obtain ⟨_, _, rfl⟩ := h
    exact .inl rfl
  | anchorBatch input =>
    simp only [auditCall, bind_eq_ok, pure_eq_ok] at h
    obtain ⟨_, hanchor, rfl⟩ := h
    exact .inr ⟨input, rfl, hanchor⟩

theorem records_call {c c' : Audit} {call : Msg × AuditOp} (h : auditCall c call = .ok c')
    (hc : AnchorRecords c.anchor) : AnchorRecords c'.anchor := by
  obtain hsame | ⟨input, -, hanchor⟩ := audit_cases h
  · rwa [hsame]
  · exact records_anchor hanchor hc

end Records

/-! ### One chain without gaps -/

/-- The number is in the range of the batch. -/
def AuditBatchAnchored.covers (b : AuditBatchAnchored) (n : ℕ) : Bool :=
  b.firstSequence.toNat ≤ n ∧ n ≤ b.lastSequence.toNat

/-- The batches, in the order in which they were anchored, are one chain: each
names the commitment before it, no commitment occurs twice, and the ranges are
adjacent. So no number is covered twice and none skipped, and following the
commitments back from the last visits each batch once. -/
structure GapFree (r : AuditAnchor) : Prop where
  linked : Linked AuditBatchAnchored.commitment AuditBatchAnchored.previousCommitment 0 r.log
  distinct : (r.log.map AuditBatchAnchored.commitment).Nodup
  adjacent : Adjacent (fun b : AuditBatchAnchored => b.firstSequence.toNat) (fun b => b.lastSequence.toNat) r.log
  once : ∀ n, (r.log.filter (·.covers n)).length ≤ 1
  covered : ∀ first last n, r.log.head? = some first → r.log.getLast? = some last →
    first.firstSequence.toNat ≤ n → n ≤ last.lastSequence.toNat → ∃ b ∈ r.log, b.covers n
  visited : ∀ n, r.log.length ≤ n →
    walk AuditBatchAnchored.commitment AuditBatchAnchored.previousCommitment r.log n r.lastCommitment = r.log.reverse

/-- A batch that is anchored has a new commitment and a range that begins after
the last one. -/
def InOrder (c : Audit) (call : Msg × AuditOp) : Prop :=
  ∀ input c', call.2 = .anchorBatch input → auditCall c call = .ok c' →
    input.commitment ∉ c.anchor.log.map AuditBatchAnchored.commitment ∧
      ∀ b ∈ c.anchor.log.getLast?, input.firstSequence.toNat = b.lastSequence.toNat + 1

section Chain

variable {r r' : AuditAnchor} {authority : AuthorityProfileRegistry} {msg : Msg} {input : BatchInput}

/-- What is checked where a batch is appended. -/
def Ordered (log : List AuditBatchAnchored) : Prop :=
  EachAfter (fun before b => b.commitment ∉ before.map AuditBatchAnchored.commitment ∧
    ∀ a ∈ before.getLast?, b.firstSequence.toNat = a.lastSequence.toNat + 1) log

theorem nodup_of_ordered {log : List AuditBatchAnchored} (h : Ordered log) :
    (log.map AuditBatchAnchored.commitment).Nodup := by
  induction log using List.reverseRecOn with
  | nil => simp
  | append_singleton log b ih =>
    obtain ⟨hlog, hb, -⟩ := eachAfter_concat.mp h
    rw [List.map_append, List.map_singleton, List.nodup_append]
    refine ⟨ih hlog, List.nodup_singleton _, fun a ha b' hb' => ?_⟩
    rw [List.mem_singleton.mp hb']
    exact fun heq => hb (heq ▸ ha)

theorem ordered_of_gapFree (h : GapFree r) : Ordered r.log := by
  intro before b rest heq
  refine ⟨fun hmem => ?_, h.adjacent before b rest heq⟩
  have hnodup := h.distinct
  rw [heq, List.map_append, List.map_cons, List.nodup_append] at hnodup
  exact hnodup.2.2 _ hmem _ List.mem_cons_self rfl

theorem gapFree_iff (hr : AnchorRecords r) : GapFree r ↔ Ordered r.log := by
  refine ⟨ordered_of_gapFree, fun h => ?_⟩
  have hadjacent : Adjacent (fun b : AuditBatchAnchored => b.firstSequence.toNat) (fun b => b.lastSequence.toNat) r.log :=
    h.imp fun _ _ _ hb => hb.2
  have hdistinct := nodup_of_ordered h
  constructor
  case linked => exact hr.linked
  case distinct => exact hdistinct
  case adjacent => exact hadjacent
  case once => exact hadjacent.disjoint fun b hb => (hr.range b hb).2
  case covered =>
    intro first last n hfirst hlast hlo hhi
    obtain ⟨b, hb, hcovers⟩ := hadjacent.covered hfirst hlast hlo hhi
    exact ⟨b, hb, decide_eq_true hcovers⟩
  case visited =>
    intro n hn
    rw [hr.last]
    exact walk_tip hr.linked hdistinct hr.nonzero hn

/-- A call keeps the chain just if it is in order. -/
theorem inOrder_iff (c : Audit) (call : Msg × AuditOp) (hc : AnchorRecords c.anchor) (hchain : GapFree c.anchor) :
    InOrder c call ↔ GapFree (attempt auditCall c call).anchor := by
  rcases hcall : auditCall c call with e | c'
  · have hsame : attempt auditCall c call = c := by rw [attempt, hcall]
    rw [hsame]
    refine ⟨fun _ => hchain, fun _ input c' _ hok => ?_⟩
    rw [hcall] at hok
    cases hok
  rw [attempt_of_ok hcall, gapFree_iff (records_call hcall hc)]
  rcases call with ⟨msg, op⟩
  cases op with
  | authority op =>
    simp only [auditCall, bind_eq_ok, pure_eq_ok] at hcall
    obtain ⟨_, _, rfl⟩ := hcall
    exact ⟨fun _ => ordered_of_gapFree hchain, fun _ input _ hop => by cases hop⟩
  | anchorBatch input =>
    have hok := hcall
    simp only [auditCall, bind_eq_ok, pure_eq_ok] at hok
    obtain ⟨anchor, hanchor, rfl⟩ := hok
    obtain ⟨-, -, -, -, -, -, count, -, rfl⟩ := anchorBatch_ok hanchor
    rw [Ordered, eachAfter_concat]
    constructor
    · intro h
      exact ⟨ordered_of_gapFree hchain, h input _ rfl hcall⟩
    · rintro ⟨-, hinput⟩ _ _ ⟨⟩ -
      exact hinput

theorem gapFree_deployed : GapFree .deployed := (gapFree_iff records_deployed).mpr eachAfter_nil

end Chain

/-- **The audit anchors are one gap-free chain** in every state of a run just if
every batch that is anchored in it is in order. In every run the log lists the
anchored batches, each linked to the one before it. -/
theorem audit_anchors_gap_free (governance : Address) (ls : List (Msg × AuditOp)) :
    AnchorRecords (auditAfter governance ls).anchor ∧
    (Guarded (attempt auditCall) InOrder (.deployed governance) ls ↔
      ∀ ms, ms <+: ls → GapFree (auditAfter governance ms).anchor) := by
  have hstep : ∀ (c : Audit) call, AnchorRecords c.anchor → AnchorRecords (attempt auditCall c call).anchor :=
    attempt_invariant (I := fun c : Audit => AnchorRecords c.anchor) fun c call c' hok => records_call hok
  refine ⟨run_invariant (I := fun c : Audit => AnchorRecords c.anchor) hstep ls records_deployed, ?_⟩
  exact guarded_iff (I := fun c : Audit => AnchorRecords c.anchor) (P := fun c => GapFree c.anchor) hstep inOrder_iff ls
    records_deployed gapFree_deployed

/-- Two batches with the same numbers and the same commitment, and one after a
gap. -/
def threeBatches : List (Msg × AuditOp) :=
  [(⟨9, 0⟩, .authority (.setOrganizationStatus 1 .active)), (⟨9, 0⟩, .authority (.setCredential 11 1 101 true false)),
    (⟨9, 0⟩, .authority (.setCapabilityGrant 11 anchorCapability 0 0 0 true)),
    (⟨101, 1⟩, .anchorBatch ⟨31, 1, 1, 3, 3, 7, 41, 0, 1, 11⟩),
    (⟨101, 2⟩, .anchorBatch ⟨32, 1, 1, 3, 3, 7, 41, 41, 1, 11⟩),
    (⟨101, 3⟩, .anchorBatch ⟨33, 1, 9, 10, 2, 8, 42, 41, 1, 11⟩)]

theorem batches_anchored_out_of_order :
    ((auditAfter 9 threeBatches).anchor.log.map fun b => (b.batchId, b.commitment, b.firstSequence, b.lastSequence)) =
      [(31, 41, 1, 3), (32, 41, 1, 3), (33, 42, 9, 10)] ∧ ¬GapFree (auditAfter 9 threeBatches).anchor := by
  have hlog : ((auditAfter 9 threeBatches).anchor.log.map fun b =>
      (b.batchId, b.commitment, b.firstSequence, b.lastSequence)) =
      [(31, 41, 1, 3), (32, 41, 1, 3), (33, 42, 9, 10)] := by decide +kernel
  refine ⟨hlog, fun h => absurd h.distinct ?_⟩
  decide +kernel

end Contracts
end Evllm
