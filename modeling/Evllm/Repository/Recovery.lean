/-
# Backup and restore

`src/operations/recovery.ts`: a backup reads every object of an inventory, and a
restore writes its entries to a store of the same namespace, each after its bytes
were checked against its length and digest, and reads them back.

Over any store of an organization, a restore that returns has left every object as
it was backed up, and never takes away what was there (`backup_round_trip`). What
is checked is that an entry agrees with itself: one whose bytes, length and digest
were altered together is accepted (`altered_together_accepted`).

Key definitions: `backupRepository`, `restoreRepository`, `Matches`, `RoundTrip`.
Key theorems: `backupEntries_contract`, `restoreEntries_contract`, `backup_round_trip`.
-/
import Evllm.Lib.Base64
import Evllm.Lib.Except
import Evllm.Lib.JsString
import Evllm.Repository.OrganizationStore

namespace Evllm
namespace Repository

open Lib Interaction Base64

/-! ### Operations -/

structure BackupEntry where
  objectId : String
  length : ℕ
  sha256 : String
  storedEnvelopeBase64 : String
  deriving DecidableEq, Repr

structure RepositoryBackup where
  repositoryNamespace : String
  createdAt : String
  entries : List BackupEntry
  deriving DecidableEq, Repr

inductive RecoveryCode where
  | conflict
  | integrity
  | foreignNamespace
  deriving DecidableEq, Repr

/-- A `RecoveryError`, or what a store throws. -/
inductive RecoveryFailure where
  | recovery (code : RecoveryCode)
  | thrown (message : String)
  deriving DecidableEq, Repr

structure RestoreCounts where
  restored : ℕ
  reused : ℕ
  deriving DecidableEq, Repr

abbrev RecoveryProgram (α : Type) := StoreProgram Unit RecoveryFailure α

def collect (stream : ByteStream) : Except RecoveryFailure Bytes :=
  match stream.thrown with
  | some message => throw (.thrown message)
  | none => return assemble 0 stream.chunks

section Operations

variable (sha256 : Bytes → String)

def backupEntry (objectId : String) : RecoveryProgram BackupEntry := do
  let bytes ← StoreProgram.get () objectId collect
  match ← StoreProgram.head .thrown () objectId with
  | none => throw (.recovery .integrity)
  | some head =>
    if head.length ≠ bytes.length then
      throw (.recovery .integrity)
    else
      return ⟨objectId, bytes.length, sha256 bytes, toBase64 bytes⟩

/-- The loop of `backupRepository`. -/
def backupEntries : List String → RecoveryProgram (List BackupEntry)
  | [] => return []
  | objectId :: rest => do
    let entry ← backupEntry sha256 objectId
    let entries ← backupEntries rest
    return entry :: entries

def backupRepository (repositoryNamespace : String) (inventory : List String) (now : String) :
    RecoveryProgram RepositoryBackup := do
  let entries ← backupEntries sha256 (sortStrings inventory.eraseDups)
  return ⟨repositoryNamespace, now, entries⟩

/-- The bytes do not have the length and the digest of the entry. -/
def Mismatched (entry : BackupEntry) (bytes : Bytes) : Prop := bytes.length ≠ entry.length ∨ sha256 bytes ≠ entry.sha256

instance (entry : BackupEntry) (bytes : Bytes) : Decidable (Mismatched sha256 entry bytes) :=
  inferInstanceAs (Decidable (_ ∨ _))

def restoreEntry (entry : BackupEntry) : RecoveryProgram PutStatus := do
  let bytes := ofBase64 entry.storedEnvelopeBase64
  if Mismatched sha256 entry bytes then
    throw (.recovery .integrity)
  else
    let result ← StoreProgram.putIfAbsent .thrown () entry.objectId [bytes]
    let verified ← StoreProgram.get () entry.objectId collect
    if Mismatched sha256 entry verified then
      throw (.recovery .conflict)
    else
      return result.status

/-- The loop of `restoreRepository`. -/
def restoreEntries : List BackupEntry → RestoreCounts → RecoveryProgram RestoreCounts
  | [], counts => return counts
  | entry :: rest, counts => do
    let status ← restoreEntry sha256 entry
    restoreEntries rest
      (if status = .created then { counts with restored := counts.restored + 1 }
        else { counts with reused := counts.reused + 1 })

def restoreRepository (repositoryNamespace : String) (backup : RepositoryBackup) : RecoveryProgram RestoreCounts :=
  if backup.repositoryNamespace ≠ repositoryNamespace then
    throw (.recovery .foreignNamespace)
  else
    restoreEntries sha256 backup.entries ⟨0, 0⟩

end Operations

/-! ### Requests to the store of an organization -/

section Requests

variable {σ : Type} {S : OrganizationStore σ} {safe : σ → StoreRequest Unit → Prop} {s : σ} {objectId : String}

theorem collect_ok {stream : ByteStream} {bytes : Bytes} (h : collect stream = .ok bytes) :
    stream = ⟨stream.chunks, none⟩ ∧ stream.chunks.flatten = bytes := by
  obtain ⟨chunks, thrown⟩ := stream
  cases thrown with
  | some message => cases h
  | none => exact ⟨rfl, (assemble_eq 0 chunks).symm.trans (pure_eq_ok.mp h)⟩

theorem collect_error {stream : ByteStream} {e : RecoveryFailure} (h : collect stream = .error e) :
    ∃ message, stream.thrown = some message := by
  obtain ⟨chunks, thrown⟩ := stream
  cases thrown with
  | some message => exact ⟨message, rfl⟩
  | none => cases h

/-- A read: it fails only where the store does. -/
theorem get_contract (hsafe : safe s (.get () objectId)) :
    Contract S.answers safe
      (fun t bytes => S.Valid objectId ∧ S.held t = S.held s ∧ bytes = (S.held s objectId).getD [])
      (fun t _ => S.held t = S.held s ∧ ∀ limit, ¬(S.IsHealthy limit ∧ S.Valid objectId)) s
      (StoreProgram.get () objectId collect) := by
  refine contract_asks hsafe (fun stream t bytes hanswer hread => ?_) fun stream t e hanswer hread => ?_
  · obtain ⟨hstream, hbytes⟩ := collect_ok hread
    rw [hstream] at hanswer
    obtain ⟨hvalid, hheld, hchunks⟩ := OrganizationStore.get_held hanswer
    exact ⟨hvalid, hheld, hbytes.symm.trans hchunks⟩
  · obtain ⟨message, hthrown⟩ := collect_error hread
    refine ⟨OrganizationStore.read_failed hthrown hanswer, fun limit ⟨hhealthy, hvalid⟩ => ?_⟩
    have hnone : ByteStream.thrown stream = none := hhealthy.healthy _ _ _ _ hanswer hvalid
    rw [hthrown] at hnone
    cases hnone

theorem head_contract (hsafe : safe s (.head () objectId)) :
    Contract S.answers safe
      (fun t head => S.Valid objectId ∧ S.held t = S.held s ∧ head = (S.held s objectId).map headOf)
      (fun t _ => S.held t = S.held s ∧ ∀ limit, ¬(S.IsHealthy limit ∧ S.Valid objectId)) s
      (StoreProgram.head RecoveryFailure.thrown () objectId) := by
  refine contract_asks hsafe (fun answer t head hanswer hread => ?_) fun answer t e hanswer hread => ?_
  · cases answer with
    | error message => cases hread
    | ok head' =>
      obtain rfl : head' = head := Except.ok.inj hread
      exact OrganizationStore.head_held hanswer
  · cases answer with
    | ok head => cases hread
    | error message =>
      refine ⟨OrganizationStore.head_failed hanswer, fun limit ⟨hhealthy, hvalid⟩ => ?_⟩
      obtain ⟨head, hhead⟩ := hhealthy.healthy _ _ _ _ hanswer hvalid
      cases hhead

/-- A write creates the object or finds it; one that fails may have created it. -/
theorem put_contract {source : List Bytes} (hsafe : safe s (.putIfAbsent () objectId source)) :
    Contract S.answers safe
      (fun t result => S.Valid objectId ∧
        ((result.status = .created ∧ S.held s objectId = none ∧
            S.held t = Function.update (S.held s) objectId (some source.flatten)) ∨
          (result.status = .existing ∧ (S.held s objectId).isSome = true ∧ S.held t = S.held s)))
      (fun t _ => (S.held t = S.held s ∨
          (S.held s objectId = none ∧ S.held t = Function.update (S.held s) objectId (some source.flatten))) ∧
        ∀ limit, ¬(S.IsHealthy limit ∧ S.Valid objectId ∧ source.flatten.length ≤ limit)) s
      (StoreProgram.putIfAbsent RecoveryFailure.thrown () objectId source) := by
  refine contract_asks hsafe (fun answer t result hanswer hread => ?_) fun answer t e hanswer hread => ?_
  · cases answer with
    | error message => cases hread
    | ok result' =>
      obtain rfl : result' = result := Except.ok.inj hread
      exact OrganizationStore.put_held hanswer
  · cases answer with
    | ok result => cases hread
    | error message =>
      refine ⟨OrganizationStore.put_failed hanswer, fun limit ⟨hhealthy, hvalid, hlimit⟩ => ?_⟩
      obtain ⟨result, hresult⟩ := hhealthy.healthy _ _ _ _ hanswer hvalid hlimit
      cases hresult

end Requests

/-! ### Backup -/

section Backup

variable {sha256 : Bytes → String} {σ : Type} {S : OrganizationStore σ} {safe : σ → StoreRequest Unit → Prop} {s : σ}

/-- The entry of an object. -/
def entryOf (sha256 : Bytes → String) (objectId : String) (bytes : Bytes) : BackupEntry :=
  ⟨objectId, bytes.length, sha256 bytes, toBase64 bytes⟩

/-- The entry is that of the object that the store holds. -/
def Backs (sha256 : Bytes → String) (S : OrganizationStore σ) (s : σ) (entry : BackupEntry) : Prop :=
  S.Valid entry.objectId ∧ ∃ bytes, S.held s entry.objectId = some bytes ∧ entry = entryOf sha256 entry.objectId bytes

theorem backupEntry_contract (objectId : String) (hreads : ∀ t, safe t (.get () objectId) ∧ safe t (.head () objectId)) :
    Contract S.answers safe
      (fun t entry => S.held t = S.held s ∧ entry.objectId = objectId ∧ Backs sha256 S s entry)
      (fun t _ => S.held t = S.held s ∧
        ∀ limit, ¬(S.IsHealthy limit ∧ S.Valid objectId ∧ (S.held s objectId).isSome = true)) s
      (backupEntry sha256 objectId) := by
  refine contract_bind ((get_contract (hreads s).1).mono (fun t bytes hget => ?_) fun t _ h => ?_)
  · obtain ⟨hvalid, hheld, hbytes⟩ := hget
    refine contract_bind ((head_contract (hreads t).2).mono (fun t' head hhead => ?_) fun t' _ h => ?_)
    · obtain ⟨_, hheld', hhead⟩ := hhead
      rw [hheld] at hhead hheld'
      cases hfound : S.held s objectId with
      | none =>
        rw [hfound, Option.map_none] at hhead
        subst hhead
        exact contract_throw ⟨hheld', fun limit h => by simp at h⟩
      | some found =>
        rw [hfound, Option.getD_some] at hbytes
        rw [hfound, Option.map_some] at hhead
        subst hhead hbytes
        refine contract_if (fun hne => absurd rfl hne) fun _ => contract_pure ⟨hheld', rfl, hvalid, bytes, hfound, rfl⟩
    · exact ⟨h.1.trans hheld, fun limit hall => h.2 limit ⟨hall.1, hall.2.1⟩⟩
  · exact ⟨h.1, fun limit hall => h.2 limit ⟨hall.1, hall.2.1⟩⟩

theorem backupEntries_contract (hreads : ∀ t objectId, safe t (.get () objectId) ∧ safe t (.head () objectId)) :
    ∀ (objectIds : List String) (s : σ), Contract S.answers safe
      (fun t entries => S.held t = S.held s ∧ entries.map BackupEntry.objectId = objectIds ∧
        ∀ entry ∈ entries, Backs sha256 S s entry)
      (fun t _ => S.held t = S.held s ∧
        ∀ limit, ¬(S.IsHealthy limit ∧ ∀ objectId ∈ objectIds, S.Valid objectId ∧ (S.held s objectId).isSome = true)) s
      (backupEntries sha256 objectIds)
  | [], s => contract_pure ⟨rfl, rfl, fun _ h => absurd h List.not_mem_nil⟩
  | objectId :: rest, s => by
    refine contract_bind ((backupEntry_contract objectId (fun t => hreads t objectId)).mono (fun t entry hentry => ?_)
      fun t _ h => ⟨h.1, fun limit hall => h.2 limit ⟨hall.1, hall.2 objectId List.mem_cons_self⟩⟩)
    obtain ⟨hheld, hid, hbacks⟩ := hentry
    refine contract_bind ((backupEntries_contract hreads rest t).mono (fun t' entries hentries => ?_) fun t' _ h => ?_)
    · obtain ⟨hheld', hids, hall⟩ := hentries
      refine contract_pure ⟨hheld'.trans hheld, by rw [List.map_cons, hid, hids], fun e he => ?_⟩
      rcases List.mem_cons.mp he with rfl | he
      · exact hbacks
      · have h := hall e he
        rwa [Backs, hheld] at h
    · refine ⟨h.1.trans hheld, fun limit hall => h.2 limit ⟨hall.1, fun id hid => ?_⟩⟩
      rw [hheld]
      exact hall.2 id (List.mem_cons_of_mem objectId hid)

end Backup

/-! ### Restore -/

section Restore

variable {sha256 : Bytes → String} {τ : Type} {T : OrganizationStore τ} {safe : τ → StoreRequest Unit → Prop} {t : τ}

def BackupEntry.bytes (entry : BackupEntry) : Bytes := ofBase64 entry.storedEnvelopeBase64

/-- What was not there before is of an entry that agrees with itself. -/
def Grown (sha256 : Bytes → String) (T : OrganizationStore τ) (entries : List BackupEntry) (t t' : τ) : Prop :=
  ∀ objectId, T.held t' objectId = T.held t objectId ∨
    (T.held t objectId = none ∧ ∃ entry ∈ entries, entry.objectId = objectId ∧ ¬Mismatched sha256 entry entry.bytes ∧
      T.held t' objectId = some entry.bytes)

/-- The store holds bytes of the entry's length and digest. -/
def Confirms (sha256 : Bytes → String) (T : OrganizationStore τ) (t : τ) (entry : BackupEntry) : Prop :=
  ∃ found, T.held t entry.objectId = some found ∧ ¬Mismatched sha256 entry found

/-- Nothing stands against the entry. -/
structure Restorable (sha256 : Bytes → String) (T : OrganizationStore τ) (limit : ℕ) (t : τ) (entry : BackupEntry) : Prop where
  valid : T.Valid entry.objectId
  agrees : ¬Mismatched sha256 entry entry.bytes
  small : entry.bytes.length ≤ limit
  free : ∀ found, T.held t entry.objectId = some found → found = entry.bytes

theorem grown_of_held {entries : List BackupEntry} {t t' : τ} (h : T.held t' = T.held t) : Grown sha256 T entries t t' :=
  fun _ => Or.inl (by rw [h])

theorem Grown.kept {entries : List BackupEntry} {t t' : τ} (h : Grown sha256 T entries t t') {objectId : String} {bytes : Bytes}
    (hheld : T.held t objectId = some bytes) : T.held t' objectId = some bytes := by
  rcases h objectId with hsame | ⟨hnone, _⟩
  · rw [hsame, hheld]
  · rw [hnone] at hheld
    cases hheld

theorem Grown.trans {entry : BackupEntry} {entries : List BackupEntry} {t t' t'' : τ} (h : Grown sha256 T [entry] t t')
    (h' : Grown sha256 T entries t' t'') : Grown sha256 T (entry :: entries) t t'' := by
  intro objectId
  rcases h' objectId with hsame' | ⟨hnone', e, he, hid, hagrees, hheld⟩
  · rw [hsame']
    refine (h objectId).imp id fun ⟨hnone, e, he, hrest⟩ => ⟨hnone, e, ?_, hrest⟩
    exact List.mem_singleton.mp he ▸ List.mem_cons_self
  · rcases h objectId with hsame | ⟨_, e', _, _, _, hheld'⟩
    · exact Or.inr ⟨hsame.symm.trans hnone', e, List.mem_cons_of_mem entry he, hid, hagrees, hheld⟩
    · rw [hnone'] at hheld'
      cases hheld'

theorem grown_update {entry : BackupEntry} {t t' : τ} (hnone : T.held t entry.objectId = none)
    (hagrees : ¬Mismatched sha256 entry entry.bytes)
    (hheld : T.held t' = Function.update (T.held t) entry.objectId (some [entry.bytes].flatten)) :
    Grown sha256 T [entry] t t' := by
  intro objectId
  by_cases hid : objectId = entry.objectId
  · subst hid
    refine Or.inr ⟨hnone, entry, List.mem_singleton_self entry, rfl, hagrees, ?_⟩
    rw [hheld, Function.update_self, List.flatten_singleton]
  · exact Or.inl (by rw [hheld, Function.update_of_ne hid])

/-- What one entry that is restored has done. -/
structure EntryRestored (sha256 : Bytes → String) (T : OrganizationStore τ) (t : τ) (entry : BackupEntry) (t' : τ)
    (status : PutStatus) : Prop where
  agrees : ¬Mismatched sha256 entry entry.bytes
  confirms : Confirms sha256 T t' entry
  grown : Grown sha256 T [entry] t t'
  created : status = .created → T.held t entry.objectId = none
  existing : status = .existing → (T.held t entry.objectId).isSome = true ∧ T.held t' = T.held t

theorem restoreEntry_contract (entry : BackupEntry) (hread : ∀ t, safe t (.get () entry.objectId))
    (hwrite : ¬Mismatched sha256 entry entry.bytes → ∀ t, safe t (.putIfAbsent () entry.objectId [entry.bytes])) :
    Contract T.answers safe (fun t' status => EntryRestored sha256 T t entry t' status)
      (fun t' _ => Grown sha256 T [entry] t t' ∧ ∀ limit, ¬(T.IsHealthy limit ∧ Restorable sha256 T limit t entry)) t
      (restoreEntry sha256 entry) := by
  refine contract_if (fun hmismatch => ?_) fun hagrees => ?_
  · exact contract_throw ⟨grown_of_held rfl, fun limit h => h.2.agrees hmismatch⟩
  have hflatten : [entry.bytes].flatten = entry.bytes := List.flatten_singleton
  refine contract_bind ((put_contract (hwrite hagrees t)).mono (fun t₁ result hput => ?_) fun t₁ _ hfailed => ?_)
  · obtain ⟨hvalid, hstatus⟩ := hput
    have hgrown : Grown sha256 T [entry] t t₁ := by
      rcases hstatus with ⟨_, hnone, hheld⟩ | ⟨_, _, hheld⟩
      · exact grown_update hnone hagrees hheld
      · exact grown_of_held hheld
    have hpresent : (T.held t₁ entry.objectId).isSome = true := by
      rcases hstatus with ⟨_, _, hheld⟩ | ⟨_, hsome, hheld⟩
      · rw [hheld, Function.update_self]
        rfl
      · rwa [hheld]
    refine contract_bind ((get_contract (hread t₁)).mono (fun t₂ verified hget => ?_) fun t₂ _ hfailed => ?_)
    · obtain ⟨_, hheld₂, hverified⟩ := hget
      obtain ⟨found, hfound⟩ := Option.isSome_iff_exists.mp hpresent
      obtain rfl : verified = found := by rw [hverified, hfound, Option.getD_some]
      have hgrown₂ : Grown sha256 T [entry] t t₂ := fun objectId => by
        rw [hheld₂]
        exact hgrown objectId
      refine contract_if (fun hmismatch => ?_) fun hconfirmed => ?_
      · refine contract_throw ⟨hgrown₂, fun limit h => ?_⟩
        -- what is read is the entry's own bytes
        have hown : verified = entry.bytes := by
          rcases hstatus with ⟨_, _, hheld⟩ | ⟨_, _, hheld⟩
          · rw [hheld, Function.update_self, hflatten] at hfound
            exact (Option.some.inj hfound).symm
          · exact h.2.free verified (hheld ▸ hfound)
        rw [hown] at hmismatch
        exact hagrees hmismatch
      · refine contract_pure ⟨hagrees, ⟨verified, by rw [hheld₂, hfound], hconfirmed⟩, hgrown₂, fun hcreated => ?_,
          fun hexisting => ?_⟩
        · rcases hstatus with ⟨_, hnone, _⟩ | ⟨hstatus, _⟩
          · exact hnone
          · rw [hstatus] at hcreated
            cases hcreated
        · rcases hstatus with ⟨hstatus, _⟩ | ⟨_, hsome, hheld⟩
          · rw [hstatus] at hexisting
            cases hexisting
          · exact ⟨hsome, hheld₂.trans hheld⟩
    · refine ⟨fun objectId => ?_, fun limit h => hfailed.2 limit ⟨h.1, hvalid⟩⟩
      rw [hfailed.1]
      exact hgrown objectId
  · refine ⟨?_, fun limit h => hfailed.2 limit ⟨h.1, h.2.valid, by rw [hflatten]; exact h.2.small⟩⟩
    rcases hfailed.1 with hheld | ⟨hnone, hheld⟩
    · exact grown_of_held hheld
    · exact grown_update hnone hagrees hheld

/-- What the entries that are restored have done. -/
structure EntriesRestored (sha256 : Bytes → String) (T : OrganizationStore τ) (t : τ) (entries : List BackupEntry)
    (before : RestoreCounts) (t' : τ) (counts : RestoreCounts) : Prop where
  confirms : ∀ entry ∈ entries, Confirms sha256 T t' entry
  agrees : ∀ entry ∈ entries, ¬Mismatched sha256 entry entry.bytes
  grown : Grown sha256 T entries t t'
  /-- Where there was none of the objects, each was created. -/
  created : (entries.map BackupEntry.objectId).Nodup → (∀ entry ∈ entries, T.held t entry.objectId = none) →
    counts = ⟨before.restored + entries.length, before.reused⟩
  reused : (∀ entry ∈ entries, (T.held t entry.objectId).isSome = true) →
    T.held t' = T.held t ∧ counts = ⟨before.restored, before.reused + entries.length⟩

/-- Nothing stands against any of the entries. -/
structure AllRestorable (sha256 : Bytes → String) (T : OrganizationStore τ) (limit : ℕ) (t : τ) (entries : List BackupEntry) :
    Prop where
  healthy : T.IsHealthy limit
  distinct : (entries.map BackupEntry.objectId).Nodup
  restorable : ∀ entry ∈ entries, Restorable sha256 T limit t entry

theorem Confirms.grown {entries : List BackupEntry} {entry : BackupEntry} {t t' : τ} (h : Confirms sha256 T t entry)
    (hgrown : Grown sha256 T entries t t') : Confirms sha256 T t' entry := by
  obtain ⟨found, hfound, hagrees⟩ := h
  exact ⟨found, hgrown.kept hfound, hagrees⟩

/-- An entry does not touch the objects of the others. -/
theorem Grown.other {entry : BackupEntry} {t t' : τ} (h : Grown sha256 T [entry] t t') {objectId : String}
    (hne : objectId ≠ entry.objectId) : T.held t' objectId = T.held t objectId := by
  rcases h objectId with hsame | ⟨_, e, he, hid, _⟩
  · exact hsame
  · exact absurd (List.mem_singleton.mp he ▸ hid).symm hne

theorem EntryRestored.cons {entry : BackupEntry} {rest : List BackupEntry} {before counts : RestoreCounts} {t₁ t₂ : τ}
    {status : PutStatus} (h : EntryRestored sha256 T t entry t₁ status)
    (hrest : EntriesRestored sha256 T t₁ rest
      (if status = .created then { before with restored := before.restored + 1 }
        else { before with reused := before.reused + 1 }) t₂ counts) :
    EntriesRestored sha256 T t (entry :: rest) before t₂ counts where
  confirms e he := by
    rcases List.mem_cons.mp he with rfl | he
    · exact h.confirms.grown hrest.grown
    · exact hrest.confirms e he
  agrees e he := by
    rcases List.mem_cons.mp he with rfl | he
    · exact h.agrees
    · exact hrest.agrees e he
  grown := h.grown.trans hrest.grown
  created hdistinct hnone := by
    have hcreated : status = .created := by
      cases status with
      | created => rfl
      | existing =>
        have hsome := (h.existing rfl).1
        rw [hnone entry List.mem_cons_self] at hsome
        cases hsome
    have hfree : ∀ e ∈ rest, T.held t₁ e.objectId = none := fun e he => by
      have hne : e.objectId ≠ entry.objectId := fun heq =>
        (List.nodup_cons.mp hdistinct).1 (heq ▸ List.mem_map_of_mem he)
      rw [h.grown.other hne]
      exact hnone e (List.mem_cons_of_mem entry he)
    rw [hrest.created (List.nodup_cons.mp hdistinct).2 hfree, if_pos hcreated, List.length_cons]
    simp only [RestoreCounts.mk.injEq, and_true]
    omega
  reused hsome := by
    have hexisting : status = .existing := by
      cases status with
      | created =>
        have hnone := hsome entry List.mem_cons_self
        rw [h.created rfl] at hnone
        cases hnone
      | existing => rfl
    have hheld := (h.existing hexisting).2
    have hrestSome : ∀ e ∈ rest, (T.held t₁ e.objectId).isSome = true := fun e he => by
      rw [hheld]
      exact hsome e (List.mem_cons_of_mem entry he)
    obtain ⟨hsame, hcounts⟩ := hrest.reused hrestSome
    refine ⟨hsame.trans hheld, ?_⟩
    rw [hcounts, if_neg (by rw [hexisting]; decide), List.length_cons]
    simp only [RestoreCounts.mk.injEq, true_and]
    omega

theorem restoreEntries_contract : ∀ (entries : List BackupEntry) (before : RestoreCounts) (t : τ),
    (∀ entry ∈ entries, ∀ t, safe t (.get () entry.objectId)) →
    (∀ entry ∈ entries, ¬Mismatched sha256 entry entry.bytes → ∀ t, safe t (.putIfAbsent () entry.objectId [entry.bytes])) →
    Contract T.answers safe (fun t' counts => EntriesRestored sha256 T t entries before t' counts)
      (fun t' _ => Grown sha256 T entries t t' ∧ ∀ limit, ¬AllRestorable sha256 T limit t entries) t
      (restoreEntries sha256 entries before)
  | [], before, t, _, _ =>
    contract_pure ⟨fun _ h => absurd h List.not_mem_nil, fun _ h => absurd h List.not_mem_nil, grown_of_held rfl,
      fun _ _ => rfl, fun _ => ⟨rfl, rfl⟩⟩
  | entry :: rest, before, t, hread, hwrite => by
    have hrestRead : ∀ e ∈ rest, ∀ t, safe t (.get () e.objectId) := fun e he => hread e (List.mem_cons_of_mem entry he)
    have hrestWrite : ∀ e ∈ rest, ¬Mismatched sha256 e e.bytes → ∀ t, safe t (.putIfAbsent () e.objectId [e.bytes]) :=
      fun e he => hwrite e (List.mem_cons_of_mem entry he)
    refine contract_bind ((restoreEntry_contract entry (hread entry List.mem_cons_self)
      (hwrite entry List.mem_cons_self)).mono (fun t₁ status hentry => ?_) fun t₁ _ hfailed => ?_)
    · refine (restoreEntries_contract rest _ t₁ hrestRead hrestWrite).mono (fun t₂ counts hrest => ?_) fun t₂ _ hfailed => ?_
      · exact hentry.cons hrest
      · refine ⟨hentry.grown.trans hfailed.1, fun limit hall => hfailed.2 limit ⟨hall.healthy, ?_, fun e he => ?_⟩⟩
        · exact (List.nodup_cons.mp hall.distinct).2
        · have hne : e.objectId ≠ entry.objectId := fun heq =>
            (List.nodup_cons.mp hall.distinct).1 (heq ▸ List.mem_map_of_mem he)
          obtain ⟨hvalid, hagrees, hsmall, hfree⟩ := hall.restorable e (List.mem_cons_of_mem entry he)
          exact ⟨hvalid, hagrees, hsmall, fun found hfound => hfree found (hentry.grown.other hne ▸ hfound)⟩
    · refine ⟨fun objectId => (hfailed.1 objectId).imp id ?_, fun limit hall =>
        hfailed.2 limit ⟨hall.healthy, hall.restorable entry List.mem_cons_self⟩⟩
      rintro ⟨hnone, e, he, hrest⟩
      exact ⟨hnone, e, List.mem_singleton.mp he ▸ List.mem_cons_self, hrest⟩

/-- **An entry that does not agree with itself stops a restore before it is written.** -/
theorem restoreEntries_stops {altered : BackupEntry} {rest : List BackupEntry} (hmismatch : Mismatched sha256 altered altered.bytes)
    (hread : ∀ objectId t, safe t (.get () objectId)) : ∀ (entries : List BackupEntry) (before : RestoreCounts) (t : τ),
    (∀ entry ∈ entries, ∀ t, safe t (.putIfAbsent () entry.objectId [entry.bytes])) →
    Contract T.answers safe (fun _ _ => False) (fun _ _ => True) t
      (restoreEntries sha256 (entries ++ altered :: rest) before)
  | [], before, t, _ => contract_bind (contract_if (fun _ => contract_throw trivial) fun h => absurd hmismatch h)
  | entry :: entries, before, t, hwrite => by
    refine contract_bind ((restoreEntry_contract entry (fun t => hread _ t) fun _ => hwrite entry List.mem_cons_self).mono
      (fun t₁ status _ => ?_) fun _ _ _ => trivial)
    exact restoreEntries_stops hmismatch hread entries _ t₁ fun e he => hwrite e (List.mem_cons_of_mem entry he)

end Restore

/-! ### Round trip -/

section RoundTrip

variable {sha256 : Bytes → String} {σ τ : Type} {S : OrganizationStore σ} {T : OrganizationStore τ} {s : σ} {t : τ}
  {inventory : List String} {backup : RepositoryBackup}

/-- The runs of a backup, and of a restore. -/
def BacksUp (sha256 : Bytes → String) (S : OrganizationStore σ) (inventory : List String) (now : String) (s s' : σ)
    (result : Except RecoveryFailure RepositoryBackup) : Prop :=
  Runs S.answers s (backupRepository sha256 S.organizationId inventory now).run s' (.done result)

def Restores (sha256 : Bytes → String) (T : OrganizationStore τ) (backup : RepositoryBackup) (t t' : τ)
    (result : Except RecoveryFailure RestoreCounts) : Prop :=
  Runs T.answers t (restoreRepository sha256 T.organizationId backup).run t' (.done result)

/-- No bytes of the store collide with those that were backed up in their place. -/
def CollisionFree (sha256 : Bytes → String) (T : OrganizationStore τ) (t : τ) (backedUp : String → Option Bytes) : Prop :=
  ∀ objectId bytes found, backedUp objectId = some bytes → T.held t objectId = some found →
    found.length = bytes.length → sha256 found = sha256 bytes → found = bytes

/-- What a restore of `backup` into a store of its namespace does. -/
structure RoundTrip (sha256 : Bytes → String) (T : OrganizationStore τ) (inventory : List String)
    (backedUp : String → Option Bytes) (backup : RepositoryBackup) (t : τ) : Prop where
  /-- A restore that returns has left every object as it was backed up. -/
  present : ∀ t' counts, Restores sha256 T backup t t' (.ok counts) → ∀ objectId ∈ inventory,
    ∃ bytes, backedUp objectId = some bytes ∧ T.held t' objectId = some bytes
  /-- It returns where there was none of the objects. -/
  succeeds : ∀ limit, T.IsHealthy limit → (∀ objectId ∈ inventory, T.held t objectId = none) →
    (∀ objectId ∈ inventory, ∀ bytes, backedUp objectId = some bytes → bytes.length ≤ limit) →
    (∃ t', Restores sha256 T backup t t' (.ok ⟨backup.entries.length, 0⟩)) ∧
      ∀ t' result, Restores sha256 T backup t t' result → result = .ok ⟨backup.entries.length, 0⟩
  /-- An object that was there stays as it was, wherever the restore stops. -/
  preserved : ∀ t' p, Runs T.answers t (restoreRepository sha256 T.organizationId backup).run t' p → ∀ objectId bytes,
    T.held t objectId = some bytes → T.held t' objectId = some bytes
  /-- A second restore reuses every entry and changes nothing. -/
  idempotent : ∀ t' counts t'' counts', Restores sha256 T backup t t' (.ok counts) →
    Restores sha256 T backup t' t'' (.ok counts') →
    T.held t'' = T.held t' ∧ counts' = ⟨0, backup.entries.length⟩
  /-- A backup of the restored store has the same entries. -/
  again : ∀ t' counts now t'' backup', Restores sha256 T backup t t' (.ok counts) →
    BacksUp sha256 T inventory now t' t'' (.ok backup') → backup'.entries = backup.entries
  /-- Where the store does not fail, both succeed. -/
  healthy : ∀ limit t' counts, T.IsHealthy limit →
    (∀ objectId ∈ inventory, ∀ bytes, backedUp objectId = some bytes → bytes.length ≤ limit) →
    Restores sha256 T backup t t' (.ok counts) →
    (∃ t'', Restores sha256 T backup t' t'' (.ok ⟨0, backup.entries.length⟩)) ∧
      ∀ now, ∃ t'' backup', BacksUp sha256 T inventory now t' t'' (.ok backup')

/-- What a restore refuses. -/
structure Refuses (sha256 : Bytes → String) (T : OrganizationStore τ) (backup : RepositoryBackup) (t : τ) : Prop where
  /-- A backup with an entry that does not agree with itself is not restored, and only
  entries before that one are written. -/
  altered : ∀ before altered after, backup.entries = before ++ altered :: after →
    Mismatched sha256 altered altered.bytes →
    (∀ t' counts, ¬Restores sha256 T backup t t' (.ok counts)) ∧
      ∀ t' objectId source next, Runs T.answers t (restoreRepository sha256 T.organizationId backup).run t'
        (.ask (.putIfAbsent () objectId source) next) → ∃ entry ∈ before, entry.objectId = objectId ∧ source = [entry.bytes]
  /-- A backup of another namespace is refused before the store is asked anything. -/
  foreign : backup.repositoryNamespace ≠ T.organizationId →
    restoreRepository sha256 T.organizationId backup = throw (.recovery .foreignNamespace)

/-- What is known of a backup. -/
structure BackupOf (sha256 : Bytes → String) (S : OrganizationStore σ) (s : σ) (inventory : List String)
    (backup : RepositoryBackup) : Prop where
  foreign : backup.repositoryNamespace = S.organizationId
  objectIds : backup.entries.map BackupEntry.objectId = sortStrings inventory.eraseDups
  entries : ∀ entry ∈ backup.entries, Backs sha256 S s entry

theorem backup_contract (S : OrganizationStore σ) (inventory : List String) (now : String) (s : σ) :
    Contract S.answers (fun _ _ => True) (fun _ backup => BackupOf sha256 S s inventory backup)
      (fun _ _ => ∀ limit, ¬(S.IsHealthy limit ∧
        ∀ objectId ∈ inventory, S.Valid objectId ∧ (S.held s objectId).isSome = true)) s
      (backupRepository sha256 S.organizationId inventory now) := by
  refine contract_bind ((backupEntries_contract (fun _ _ => ⟨trivial, trivial⟩) _ s).mono (fun t entries h => ?_)
    fun t _ h limit hall => ?_)
  · exact contract_pure ⟨rfl, h.2.1, h.2.2⟩
  · exact h.2 limit ⟨hall.1, fun objectId hid => hall.2 objectId (List.mem_eraseDups.mp (mem_sortStrings.mp hid))⟩

theorem BackupOf.bytes (h : BackupOf sha256 S s inventory backup) {entry : BackupEntry} (hentry : entry ∈ backup.entries) :
    S.held s entry.objectId = some entry.bytes ∧ entry = entryOf sha256 entry.objectId entry.bytes := by
  obtain ⟨_, bytes, hheld, heq⟩ := h.entries entry hentry
  have hbytes : entry.bytes = bytes := by
    rw [BackupEntry.bytes, congrArg BackupEntry.storedEnvelopeBase64 heq]
    exact ofBase64_toBase64 bytes
  rw [hbytes]
  exact ⟨hheld, heq⟩

theorem BackupOf.agrees (h : BackupOf sha256 S s inventory backup) {entry : BackupEntry} (hentry : entry ∈ backup.entries) :
    ¬Mismatched sha256 entry entry.bytes := by
  have heq := (h.bytes hentry).2
  rintro (hlength | hdigest)
  · exact hlength (congrArg BackupEntry.length heq).symm
  · exact hdigest (congrArg BackupEntry.sha256 heq).symm

theorem BackupOf.mem_iff (h : BackupOf sha256 S s inventory backup) {objectId : String} :
    objectId ∈ inventory ↔ ∃ entry ∈ backup.entries, entry.objectId = objectId := by
  rw [← List.mem_map, h.objectIds, mem_sortStrings, List.mem_eraseDups]

theorem BackupOf.distinct (h : BackupOf sha256 S s inventory backup) : (backup.entries.map BackupEntry.objectId).Nodup := by
  rw [h.objectIds, nodup_sortStrings]
  exact nodup_eraseDups inventory

theorem restore_contract (hforeign : backup.repositoryNamespace = T.organizationId) (t : τ) :
    Contract T.answers (fun _ r => OrganizationStore.Keeps r)
      (fun t' counts => EntriesRestored sha256 T t backup.entries ⟨0, 0⟩ t' counts)
      (fun t' _ => Grown sha256 T backup.entries t t' ∧ ∀ limit, ¬AllRestorable sha256 T limit t backup.entries) t
      (restoreRepository sha256 T.organizationId backup) :=
  contract_if (fun h => absurd hforeign h) fun _ =>
    restoreEntries_contract backup.entries ⟨0, 0⟩ t (fun _ _ _ => trivial) fun _ _ _ _ => trivial

theorem refuses (sha256 : Bytes → String) (T : OrganizationStore τ) (backup : RepositoryBackup) (t : τ) :
    Refuses sha256 T backup t where
  altered before altered after hentries hmismatch := by
    have hcontract : Contract T.answers (fun _ r => ∀ objectId source, r = .putIfAbsent () objectId source →
        ∃ entry ∈ before, entry.objectId = objectId ∧ source = [entry.bytes]) (fun _ _ => False) (fun _ _ => True) t
        (restoreRepository sha256 T.organizationId backup) := by
      refine contract_if (fun _ => contract_throw trivial) fun _ => ?_
      rw [hentries]
      refine restoreEntries_stops hmismatch (fun _ _ _ _ h => nomatch h) before ⟨0, 0⟩ t fun entry hentry _ objectId source h => ?_
      cases h
      exact ⟨entry, hentry, rfl, rfl⟩
    exact ⟨fun t' counts hruns => hcontract.returns hruns, fun t' objectId source next hruns =>
      hcontract.asked hruns objectId source rfl⟩
  foreign hne := if_pos hne

/-- What a restore that returns has left of the entries. -/
theorem held_of_restored (hbackup : BackupOf sha256 S s inventory backup) (hfree : CollisionFree sha256 T t (S.held s))
    {t' : τ} {counts : RestoreCounts} (h : EntriesRestored sha256 T t backup.entries ⟨0, 0⟩ t' counts) {entry : BackupEntry}
    (hentry : entry ∈ backup.entries) : T.held t' entry.objectId = some entry.bytes := by
  obtain ⟨hheld, heq⟩ := hbackup.bytes hentry
  obtain ⟨found, hfound, hagrees⟩ := h.confirms entry hentry
  obtain ⟨hlength, hdigest⟩ := not_or.mp hagrees
  rcases h.grown entry.objectId with hsame | ⟨_, e, he, hid, _, hbytes⟩
  · have hlength' : found.length = entry.bytes.length := by
      rw [not_not.mp hlength, congrArg BackupEntry.length heq]
      rfl
    have hdigest' : sha256 found = sha256 entry.bytes := by
      rw [not_not.mp hdigest, congrArg BackupEntry.sha256 heq]
      rfl
    rw [hfound, hfree entry.objectId entry.bytes found hheld (hsame.symm.trans hfound) hlength' hdigest']
  · have hsameBytes : e.bytes = entry.bytes := Option.some.inj ((hid ▸ (hbackup.bytes he).1).symm.trans hheld)
    rw [hbytes, hsameBytes]

/-- The entries can be restored where the store holds nothing else in their place. -/
theorem allRestorable (hbackup : BackupOf sha256 S s inventory backup) (hspace : T.organizationId = S.organizationId) {limit : ℕ}
    (hhealthy : T.IsHealthy limit)
    (hsmall : ∀ objectId ∈ inventory, ∀ bytes, S.held s objectId = some bytes → bytes.length ≤ limit)
    (hown : ∀ entry ∈ backup.entries, ∀ found, T.held t entry.objectId = some found → found = entry.bytes) :
    AllRestorable sha256 T limit t backup.entries where
  healthy := hhealthy
  distinct := hbackup.distinct
  restorable entry hentry := by
    have hvalid := (hbackup.entries entry hentry).1
    refine ⟨?_, hbackup.agrees hentry, ?_, hown entry hentry⟩
    · rwa [OrganizationStore.Valid, hspace]
    · exact hsmall entry.objectId (hbackup.mem_iff.mpr ⟨entry, hentry, rfl⟩) _ (hbackup.bytes hentry).1

/-- A program that does not throw returns, where the store answers. -/
theorem returns_of_total {α : Type} {safe : τ → StoreRequest Unit → Prop} {ok : τ → α → Prop} {P : Prop}
    {p : RecoveryProgram α} (htotal : ∀ s r, ∃ a s', T.answers s r a s')
    (h : Contract T.answers safe ok (fun _ _ => ¬P) t p) (hP : P) :
    ∃ t' a, Runs T.answers t p.run t' (.done (.ok a)) ∧ ok t' a := by
  obtain ⟨t', x, hruns⟩ := exists_runs htotal p.run t
  cases x with
  | ok a => exact ⟨t', a, hruns, h.returns hruns⟩
  | error e => exact absurd hP (Ensures.runs h hruns)

/-- Backing up a store that holds the same objects gives the same entries. -/
theorem entries_eq (hbackup : BackupOf sha256 S s inventory backup) {backup' : RepositoryBackup}
    (hbackup' : BackupOf sha256 T t inventory backup')
    (hheld : ∀ entry ∈ backup.entries, T.held t entry.objectId = some entry.bytes) : backup'.entries = backup.entries := by
  have hlength : backup'.entries.length = backup.entries.length := by
    rw [← List.length_map BackupEntry.objectId, hbackup'.objectIds, ← hbackup.objectIds, List.length_map]
  refine List.ext_getElem hlength fun i hi' hi => ?_
  have hmem' : backup'.entries[i] ∈ backup'.entries := List.getElem_mem hi'
  have hmem : backup.entries[i] ∈ backup.entries := List.getElem_mem hi
  have hid : backup'.entries[i].objectId = backup.entries[i].objectId := by
    have hids := congrArg (fun ids => ids[i]?) (hbackup'.objectIds.trans hbackup.objectIds.symm)
    simpa [hi, hi'] using hids
  obtain ⟨hbytes', heq'⟩ := hbackup'.bytes hmem'
  obtain ⟨_, heq⟩ := hbackup.bytes hmem
  have hbytes : backup'.entries[i].bytes = backup.entries[i].bytes := by
    rw [hid, hheld _ hmem] at hbytes'
    exact (Option.some.inj hbytes').symm
  rw [heq', heq, hid, hbytes]

theorem roundTrip (hbackup : BackupOf sha256 S s inventory backup) (hspace : T.organizationId = S.organizationId)
    (hfree : CollisionFree sha256 T t (S.held s)) : RoundTrip sha256 T inventory (S.held s) backup t := by
  have hforeign : backup.repositoryNamespace = T.organizationId := hbackup.foreign.trans hspace.symm
  have hrestored : ∀ {t t' : τ} {counts : RestoreCounts}, Restores sha256 T backup t t' (.ok counts) →
      EntriesRestored sha256 T t backup.entries ⟨0, 0⟩ t' counts := fun hruns => (restore_contract hforeign _).returns hruns
  have hheld : ∀ {t' : τ} {counts : RestoreCounts}, Restores sha256 T backup t t' (.ok counts) →
      ∀ entry ∈ backup.entries, T.held t' entry.objectId = some entry.bytes := fun hruns entry hentry =>
    held_of_restored hbackup hfree (hrestored hruns) hentry
  have hreused : ∀ {t' t'' : τ} {counts counts' : RestoreCounts}, Restores sha256 T backup t t' (.ok counts) →
      Restores sha256 T backup t' t'' (.ok counts') → T.held t'' = T.held t' ∧ counts' = ⟨0, backup.entries.length⟩ := by
    intro t' t'' counts counts' hfirst hsecond
    obtain ⟨hsame, hcounts⟩ := (hrestored hsecond).reused fun entry hentry => Option.isSome_of_eq_some (hheld hfirst entry hentry)
    exact ⟨hsame, by rw [hcounts, Nat.zero_add]⟩
  have hsettled : ∀ {limit : ℕ} {t : τ}, T.IsHealthy limit → AllRestorable sha256 T limit t backup.entries →
      ∃ t' counts, Restores sha256 T backup t t' (.ok counts) ∧ EntriesRestored sha256 T t backup.entries ⟨0, 0⟩ t' counts :=
    fun {limit t} hhealthy hall => returns_of_total hhealthy.total
      ((@restore_contract sha256 _ T _ hforeign t).mono (fun _ _ h => h) fun _ _ h => h.2 limit) hall
  refine ⟨fun t' counts hruns objectId hid => ?_, fun limit hhealthy hnone hsmall => ?_, fun t' p hruns objectId bytes hbytes => ?_,
    fun t' counts t'' counts' => hreused, fun t' counts now t'' backup' hruns hruns' => ?_,
    fun limit t' counts hhealthy hsmall hruns => ⟨?_, fun now => ?_⟩⟩
  · obtain ⟨entry, hentry, rfl⟩ := hbackup.mem_iff.mp hid
    exact ⟨entry.bytes, (hbackup.bytes hentry).1, hheld hruns entry hentry⟩
  · have hempty : ∀ entry ∈ backup.entries, T.held t entry.objectId = none := fun entry hentry =>
      hnone entry.objectId (hbackup.mem_iff.mpr ⟨entry, hentry, rfl⟩)
    have hall : AllRestorable sha256 T limit t backup.entries :=
      allRestorable hbackup hspace hhealthy hsmall fun entry hentry found hfound => by
        rw [hempty entry hentry] at hfound
        cases hfound
    have hcounts : ∀ {t' : τ} {counts : RestoreCounts}, Restores sha256 T backup t t' (.ok counts) →
        counts = ⟨backup.entries.length, 0⟩ := fun hruns => by
      rw [(hrestored hruns).created hbackup.distinct hempty, Nat.zero_add]
    refine ⟨?_, fun t' result hruns => ?_⟩
    · obtain ⟨t', counts, hruns, _⟩ := hsettled hhealthy hall
      rw [hcounts hruns] at hruns
      exact ⟨t', hruns⟩
    · cases result with
      | ok counts => rw [hcounts hruns]
      | error e => exact absurd hall ((Ensures.runs (@restore_contract sha256 _ T _ hforeign t) hruns).2 limit)
  · refine Ensures.runs_invariant (I := fun t => T.held t objectId = some bytes) ?_ (@restore_contract sha256 _ T _ hforeign t)
      hruns hbytes
    exact fun _ _ _ _ hkeeps hanswer hb => OrganizationStore.answer_kept hkeeps hanswer hb
  · exact entries_eq hbackup ((backup_contract T inventory now t').returns hruns') (hheld hruns)
  · have hall : AllRestorable sha256 T limit t' backup.entries :=
      allRestorable hbackup hspace hhealthy hsmall fun entry hentry found hfound =>
        Option.some.inj (hfound.symm.trans (hheld hruns entry hentry))
    obtain ⟨t'', counts', hsecond, _⟩ := hsettled hhealthy hall
    rw [(hreused hruns hsecond).2] at hsecond
    exact ⟨t'', hsecond⟩
  · have hthere : ∀ objectId ∈ inventory, T.Valid objectId ∧ (T.held t' objectId).isSome = true := fun objectId hid => by
      obtain ⟨entry, hentry, rfl⟩ := hbackup.mem_iff.mp hid
      have hvalid := (hbackup.entries entry hentry).1
      refine ⟨?_, Option.isSome_of_eq_some (hheld hruns entry hentry)⟩
      rwa [OrganizationStore.Valid, hspace]
    obtain ⟨t'', backup', hagain, _⟩ := returns_of_total hhealthy.total
      ((backup_contract T inventory now t').mono (fun _ _ h => h) fun _ _ h => h limit) ⟨hhealthy, hthere⟩
    exact ⟨t'', backup', hagain⟩

/-- **A backup is restored as it was made.** -/
theorem backup_round_trip (sha256 : Bytes → String) (S : OrganizationStore σ) (T : OrganizationStore τ)
    (hspace : T.organizationId = S.organizationId) (inventory : List String) (now : String) (s s' : σ)
    (backup : RepositoryBackup) (hbackup : BacksUp sha256 S inventory now s s' (.ok backup)) (t : τ)
    (hfree : CollisionFree sha256 T t (S.held s)) :
    RoundTrip sha256 T inventory (S.held s) backup t ∧ ∀ received, Refuses sha256 T received t :=
  ⟨roundTrip ((backup_contract S inventory now s).returns hbackup) hspace hfree, fun received => refuses sha256 T received t⟩

end RoundTrip

/-! One object of one byte, backed up, and the same entry altered to another byte. -/

section OneByte

def organization : String := "urn:evllm:org:00000000-0000-4000-8000-000000000001"

def oneKey : ObjectKey where
  organizationId := organization
  objectId := "BwcHBwcHBwcHBwcHBwcHBwcHBwcHBwcHBwcHBwcHBwc"
  organization_valid := by decide +kernel
  object_valid := by decide +kernel

/-- The digests of the bytes 1 and 2. -/
def oneByteDigest (bytes : Bytes) : String :=
  if bytes = [1] then "0x4bf5122f344554c53bde2ebb8cd2b7e3d1600ad631c385a5d7cce23c7785459a"
  else if bytes = [2] then "0xdbc1b4c900ffe48d575b5da5c638040125f65db0fe3e24494b76ea986457d986"
  else "0x"

def oneByteStore : OrganizationStore Objects := sequentialStore organization 1024

def oneByte : Objects := Function.update noObjects oneKey (some [1])

def oneByteBackup : RepositoryBackup where
  repositoryNamespace := organization
  createdAt := "2025-01-01T00:00:00.000Z"
  entries := [entryOf oneByteDigest oneKey.objectId [1]]

def alteredBackup : RepositoryBackup := { oneByteBackup with entries := [entryOf oneByteDigest oneKey.objectId [2]] }

theorem backsUp_oneByte : ∃ s', BacksUp oneByteDigest oneByteStore [oneKey.objectId] oneByteBackup.createdAt oneByte s'
    (.ok oneByteBackup) := by
  have hruns := runs_runWith (serve organization 1024) oneByte
    (backupRepository oneByteDigest organization [oneKey.objectId] oneByteBackup.createdAt).run
  have hresult : (runWith (serve organization 1024) oneByte
      (backupRepository oneByteDigest organization [oneKey.objectId] oneByteBackup.createdAt).run).1 = .ok oneByteBackup := by
    decide +kernel
  rw [hresult] at hruns
  exact ⟨_, hruns⟩

/-- A byte that is backed up can be restored to an empty store. -/
theorem oneByte_round_trip : RoundTrip oneByteDigest oneByteStore [oneKey.objectId] (oneByteStore.held oneByte) oneByteBackup
    noObjects ∧ ∀ received, Refuses oneByteDigest oneByteStore received noObjects :=
  backsUp_oneByte.elim fun s' hbackup => backup_round_trip oneByteDigest oneByteStore oneByteStore rfl [oneKey.objectId]
    oneByteBackup.createdAt oneByte s' oneByteBackup hbackup noObjects fun objectId _ found _ hfound => by
      have hnone : oneByteStore.held noObjects objectId = none := by
        cases hk : objectKey oneByteStore.organizationId objectId with
        | none => rw [OrganizationStore.held, hk, Option.bind_none]
        | some k =>
          rw [OrganizationStore.held, hk, Option.bind_some]
          rfl
      rw [hnone] at hfound
      cases hfound

/-- The bytes and the digest of the entry were altered together, and the altered byte is
restored. -/
theorem altered_together_accepted : (∃ s', BacksUp oneByteDigest oneByteStore [oneKey.objectId] oneByteBackup.createdAt oneByte s'
      (.ok oneByteBackup)) ∧ alteredBackup.entries.map BackupEntry.bytes ≠ oneByteBackup.entries.map BackupEntry.bytes ∧
    ∃ t', Restores oneByteDigest oneByteStore alteredBackup noObjects t' (.ok ⟨1, 0⟩) ∧
      oneByteStore.held t' oneKey.objectId = some [2] := by
  refine ⟨backsUp_oneByte, by decide +kernel, ?_⟩
  have hruns := runs_runWith (serve organization 1024) noObjects
    (restoreRepository oneByteDigest organization alteredBackup).run
  have hresult : (runWith (serve organization 1024) noObjects
      (restoreRepository oneByteDigest organization alteredBackup).run).1 = .ok ⟨1, 0⟩ := by decide +kernel
  rw [hresult] at hruns
  exact ⟨_, hruns, by decide +kernel⟩

end OneByte

end Repository
end Evllm
