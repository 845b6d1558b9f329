/-
# The store on the filesystem

`src/protected-bundles/storage/filesystem.ts`, with calls of any organizations that
overlap at every system call. `putIfAbsent` looks for the object, writes its source to
a file of its own under a random name, and links that file to the object's path; the
file's own name is removed at the end, however the call ends. Every system call may
fail, a write after any part of its bytes.

The root directory is the resolved one. Making a directory that exists changes nothing,
and no call removes one, so directories are not part of the disk.

Key definitions: `FilesystemStore`, `fileStep`, `filesystemStore`, `FileInvariant`.
Key theorems: `proceed_frame`, `fileInvariant_step`, `filesystemStore_atomic`,
`putIfAbsent_atomic`.
-/
import Evllm.Lib.FileSystem
import Evllm.Repository.MemoryStore

namespace Evllm
namespace Repository

open Lib

/-! ### Calls of the store -/

/-- The system call, or the source, that a call awaits. -/
inductive FileStage where
  | initializing
  | headInitializing
  | statting
  | unlinking
  | openingFile
  | reading (inode : ℕ) (value : Bytes)
  | creating
  | streaming (rest : List Bytes) (length : ℕ)
  | writing (chunk : Bytes) (rest : List Bytes) (length : ℕ)
  | syncing (length : ℕ)
  | closing (length : ℕ)
  | linking (length : ℕ)
  | losing
  | closingHandle (result : Option PutIfAbsentResult)
  | unlinkingTemporary (result : Option PutIfAbsentResult)
  | answered (result : ObjectResult)
  | threw
  deriving DecidableEq, Repr

/-- `handle` is the inode of the temporary file, `opened` what `readFile` has found at
the object's path. -/
structure FileCall where
  key : ObjectKey
  operation : ObjectOperation
  maxObjectBytes : ℕ
  temporary : String
  aborted : Bool
  handle : Option ℕ
  opened : Option (Option ℕ)
  stage : FileStage

structure FilesystemStore where
  disk : FileSystem
  calls : List FileCall

inductive FileEvent where
  | call (organizationId objectId : String) (operation : ObjectOperation) (maxObjectBytes : ℕ) (random : List UInt8)
      (aborted : Bool)
  | abort (call : ℕ)
  | advance (call : ℕ) (fault : Bool) (amount : ℕ)

section Operations

variable (rootDirectory : List Char)

def hexDigits : List Char := "0123456789abcdef".toList

/-- `bytes.toString("hex")`. -/
def hex (bytes : List UInt8) : List Char :=
  bytes.flatMap fun b => [hexDigits.getD (b.toNat / 16) '0', hexDigits.getD (b.toNat % 16) '0']

def objectPath (k : ObjectKey) : String := k.joined (rootDirectory ++ ['/']) '/'

def pendingName (random : List UInt8) : List Char := ".pending-".toList ++ hex random

def temporaryPath (k : ObjectKey) (random : List UInt8) : String :=
  String.ofList (rootDirectory ++ ['/'] ++ k.space ++ '/' :: pendingName random)

namespace FileCall

variable (c : FileCall)

def source : ByteStream :=
  match c.operation with
  | .putIfAbsent source => source
  | _ => ⟨[], none⟩

/-- What follows the first `initialize`. -/
def initialized : FileStage :=
  match c.operation with
  | .delete => .unlinking
  | .get => .openingFile
  | .head => .statting
  | .putIfAbsent _ => .headInitializing

/-- What follows `stat` in `head`. -/
def statted (found : Option Bytes) : FileStage :=
  match c.operation, found with
  | .putIfAbsent _, some existing => .answered (.put ⟨existing.length, .existing⟩)
  | .putIfAbsent _, none => .creating
  | _, found => .answered (.head (found.map headOf))

/-- The next turn of the loop over the source. -/
def nextChunk (length : ℕ) : List Bytes → FileStage
  | chunk :: rest =>
    if c.aborted then .closingHandle none
    else if length + chunk.length > c.maxObjectBytes then .closingHandle none
    else .writing chunk rest (length + chunk.length)
  | [] => if c.source.thrown.isSome then .closingHandle none else .syncing length

/-- The call goes on after an await that does not change the disk. -/
def awaited (disk : FileSystem) (fault : Bool) (amount : ℕ) : FileCall :=
  match c.stage with
  | .initializing => { c with stage := if fault then .threw else c.initialized }
  | .headInitializing => { c with stage := if fault then .threw else .statting }
  | .statting => { c with stage := if fault then .threw else c.statted (disk.contentAt (objectPath rootDirectory c.key)) }
  | .openingFile =>
    if fault then { c with stage := .threw }
    else
      match disk.files.get (objectPath rootDirectory c.key) with
      | none => { c with opened := some none, stage := .answered (.bytes none) }
      | some inode => { c with opened := some (some inode), stage := .reading inode [] }
  | .reading inode value =>
    if fault then { c with stage := .threw }
    else
      match (((disk.contentOf inode).getD []).drop value.length).take (amount + 1) with
      | [] => { c with stage := .answered (.bytes (some value)) }
      | part => { c with stage := .reading inode (value ++ part) }
  | .streaming rest length => { c with stage := c.nextChunk length rest }
  | .syncing length => { c with stage := if fault then .closingHandle none else .closing length }
  | .closing length => { c with stage := if fault then .closingHandle none else .linking length }
  | .losing =>
    { c with stage := if fault then .closingHandle none else
        .closingHandle ((disk.contentAt (objectPath rootDirectory c.key)).map fun winner => ⟨winner.length, .existing⟩) }
  | .closingHandle result => { c with stage := .unlinkingTemporary result }
  | _ => c

/-- After the `finally` block. -/
def settled : Option PutIfAbsentResult → FileStage
  | some result => .answered (.put result)
  | none => .threw

/-- The call goes on after its await. A write or a read is of `amount + 1` bytes at most. -/
def proceed (disk : FileSystem) (fault : Bool) (amount : ℕ) : FileSystem × FileCall :=
  match c.stage with
  | .unlinking =>
    if fault then (disk, { c with stage := .threw })
    else
      (disk.unlink (objectPath rootDirectory c.key),
        { c with stage := .answered (.deleted (disk.files.has (objectPath rootDirectory c.key))) })
  | .creating =>
    match if fault then none else disk.createExclusive c.temporary with
    | none => (disk, { c with stage := .threw })
    | some (disk', inode) => (disk', { c with handle := some inode, stage := .streaming c.source.chunks 0 })
  | .writing chunk rest length =>
    match fault, c.handle with
    | false, some inode =>
      (disk.append inode (chunk.take (amount + 1)),
        { c with stage := match chunk.drop (amount + 1) with
            | [] => .streaming rest length
            | left => .writing left rest length })
    | _, _ => (disk, { c with stage := .closingHandle none })
  | .linking length =>
    match if fault then .error .missing else disk.link c.temporary (objectPath rootDirectory c.key) with
    | .ok disk' => (disk', { c with stage := .closingHandle (some ⟨length, .created⟩) })
    | .error .exists => (disk, { c with stage := .losing })
    | .error .missing => (disk, { c with stage := .closingHandle none })
  | .unlinkingTemporary result =>
    (if fault then disk else disk.unlink c.temporary, { c with stage := settled result })
  | _ => (disk, c.awaited rootDirectory disk fault amount)

end FileCall

variable (s : FilesystemStore)

/-- `get` and `putIfAbsent` look at the signal first. -/
def fileBegin (operation : ObjectOperation) (aborted : Bool) : FileStage :=
  match operation, aborted with
  | .get, true => .threw
  | .putIfAbsent _, true => .threw
  | _, _ => .initializing

/-- A call with an invalid identifier makes no more than directories. -/
def fileCall (organizationId objectId : String) (operation : ObjectOperation) (maxObjectBytes : ℕ) (random : List UInt8)
    (aborted : Bool) : FilesystemStore :=
  match objectKey organizationId objectId with
  | none => s
  | some k =>
    { s with calls := s.calls ++ [⟨k, operation, maxObjectBytes, temporaryPath rootDirectory k random, aborted, none, none,
        fileBegin operation aborted⟩] }

def fileAdvance (i : ℕ) (fault : Bool) (amount : ℕ) : FilesystemStore :=
  match s.calls[i]? with
  | none => s
  | some c =>
    let (disk, c') := c.proceed rootDirectory s.disk fault amount
    ⟨disk, s.calls.set i c'⟩

def fileAbort (i : ℕ) : FilesystemStore :=
  match s.calls[i]? with
  | none => s
  | some c => { s with calls := s.calls.set i { c with aborted := true } }

def fileStep : FileEvent → FilesystemStore
  | .call organizationId objectId operation maxObjectBytes random aborted =>
    fileCall rootDirectory s organizationId objectId operation maxObjectBytes random aborted
  | .abort i => fileAbort s i
  | .advance i fault amount => fileAdvance rootDirectory s i fault amount

end Operations

/-! ### What its callers see -/

def FileStage.result : FileStage → Option ObjectResult
  | .closingHandle result => result.map .put
  | .unlinkingTemporary result => result.map .put
  | .answered result => some result
  | _ => none

namespace FileCall

/-- What is known of the call: what `readFile` has opened, or the answer that it gives
or will give once its own file is removed. -/
def effect (disk : FileSystem) (c : FileCall) : Option ObjectResult :=
  if c.operation = .get then c.opened.map fun inode => .bytes (inode.bind disk.contentOf) else c.stage.result

def outcome (c : FileCall) : CallOutcome :=
  match c.stage with
  | .answered result => .answered result
  | .threw => .threw
  | _ => .pending

def view (disk : FileSystem) (c : FileCall) : CallView := ⟨c.key, c.operation, c.effect disk, c.outcome⟩

end FileCall

def filesystemStore (rootDirectory : List Char) : ObjectMachine FilesystemStore FileEvent where
  start := ⟨FileSystem.empty, []⟩
  step := fileStep rootDirectory
  objects s k := s.disk.contentAt (objectPath rootDirectory k)
  calls s := s.calls.map (FileCall.view s.disk)

/-! ### The invariant -/

/-- The call may write to its handle, or link it. -/
def FileStage.writes : FileStage → Bool
  | .streaming .. | .writing .. | .syncing _ | .closing _ | .linking _ => true
  | _ => false

namespace FileCall

variable (disk : FileSystem) (c : FileCall)

def IsPut : Prop := ∃ source, c.operation = .putIfAbsent source

/-- The call's own file has its name still. -/
def Holds : Prop := ∃ inode, c.handle = some inode ∧ disk.files.get c.temporary = some inode

/-- The call's own file has its name still, and holds the bytes. -/
def Written (bytes : Bytes) : Prop :=
  ∃ inode, c.handle = some inode ∧ disk.files.get c.temporary = some inode ∧ disk.contentOf inode = some bytes

/-- What a call knows where it awaits. -/
def Sound : Prop :=
  match c.stage with
  | .initializing => c.opened = none
  | .headInitializing => c.IsPut
  | .statting => c.IsPut ∨ c.operation = .head
  | .unlinking => c.operation = .delete
  | .openingFile => c.operation = .get ∧ c.opened = none
  | .reading inode value => c.operation = .get ∧ c.opened = some (some inode) ∧
    ∃ content, disk.contentOf inode = some content ∧ value <+: content
  | .creating => c.IsPut
  | .streaming rest length => c.IsPut ∧ ∃ done, c.Written disk done.flatten ∧ done ++ rest = c.source.chunks ∧
    length = done.flatten.length
  | .writing chunk rest length => c.IsPut ∧ ∃ done part, c.Written disk (done.flatten ++ part) ∧
    done ++ (part ++ chunk) :: rest = c.source.chunks ∧ length = (done.flatten ++ (part ++ chunk)).length
  | .syncing length | .closing length | .linking length => c.IsPut ∧
    ∃ bytes, c.Written disk bytes ∧ Complete c.source bytes ∧ length = bytes.length
  | .losing => c.IsPut ∧ c.Holds disk
  | .closingHandle _ | .unlinkingTemporary _ => c.IsPut ∧ c.Holds disk
  | .answered result => c.operation = .get → ∃ inode, c.opened = some inode ∧ result = .bytes (inode.bind disk.contentOf)
  | .threw => True

end FileCall

/-- Nobody writes to the inode any more. -/
def Frozen (s : FilesystemStore) (inode : ℕ) : Prop :=
  inode < s.disk.inodes.length ∧ ∀ c ∈ s.calls, c.handle = some inode → c.stage.writes = false

structure FileInvariant (rootDirectory : List Char) (s : FilesystemStore) : Prop where
  sound : ∀ c ∈ s.calls, c.Sound s.disk
  temporaries : ∀ c ∈ s.calls, ∀ k, c.temporary ≠ objectPath rootDirectory k
  handles : ∀ c ∈ s.calls, ∀ inode, c.handle = some inode → inode < s.disk.inodes.length
  distinct : ∀ (i j : ℕ) (c d : FileCall) inode, s.calls[i]? = some c → s.calls[j]? = some d → c.handle = some inode →
    d.handle = some inode → i = j
  published : ∀ k inode, s.disk.files.get (objectPath rootDirectory k) = some inode → Frozen s inode
  opened : ∀ c ∈ s.calls, ∀ inode, c.opened = some (some inode) → Frozen s inode

/-! ### What one step does -/

variable {rootDirectory : List Char} {disk disk' : FileSystem} {c c' d : FileCall}

/-- What a call does to the disk, as the others see it. -/
structure Frame (rootDirectory : List Char) (disk : FileSystem) (c : FileCall) (disk' : FileSystem) (c' : FileCall) : Prop where
  key : c'.key = c.key
  operation : c'.operation = c.operation
  temporary : c'.temporary = c.temporary
  grows : disk.inodes.length ≤ disk'.inodes.length
  content : ∀ inode, inode < disk.inodes.length → (c.handle = some inode → c.stage.writes = false) →
    disk'.contentOf inode = disk.contentOf inode
  /-- It keeps its handle, and does not take to writing, or it opens a new one. -/
  handle : (c'.handle = c.handle ∧ (c'.stage.writes = true → c.stage.writes = true)) ∨
    (c'.handle = some disk.inodes.length ∧ disk.inodes.length < disk'.inodes.length)
  files : ∀ path inode, path ≠ objectPath rootDirectory c.key → disk.files.get path = some inode → c.handle ≠ some inode →
    disk'.files.get path = some inode
  objects : ∀ k, k ≠ c.key → disk'.files.get (objectPath rootDirectory k) = disk.files.get (objectPath rootDirectory k)
  object : ∀ inode, disk'.files.get (objectPath rootDirectory c.key) = some inode →
    disk.files.get (objectPath rootDirectory c.key) = some inode ∨ (c.handle = some inode ∧ c'.stage.writes = false)
  opened : ∀ inode, c'.opened = some (some inode) →
    c.opened = some (some inode) ∨ disk.files.get (objectPath rootDirectory c.key) = some inode

theorem objectPath_injective {k k' : ObjectKey} (h : objectPath rootDirectory k = objectPath rootDirectory k') : k = k' :=
  ObjectKey.joined_injective h

theorem temporaryPath_ne (k k' : ObjectKey) (random : List UInt8) :
    temporaryPath rootDirectory k random ≠ objectPath rootDirectory k' := by
  refine ObjectKey.joined_ne (c := '.') ?_ (by decide)
  exact List.mem_append_left _ (by decide)

/-- An await that does not change the disk. -/
theorem Frame.quiet (hkey : c'.key = c.key) (hoperation : c'.operation = c.operation) (htemporary : c'.temporary = c.temporary)
    (hhandle : c'.handle = c.handle) (hwrites : c'.stage.writes = true → c.stage.writes = true)
    (hopened : ∀ inode, c'.opened = some (some inode) →
      c.opened = some (some inode) ∨ disk.files.get (objectPath rootDirectory c.key) = some inode) :
    Frame rootDirectory disk c disk c' where
  key := hkey
  operation := hoperation
  temporary := htemporary
  grows := Nat.le_refl _
  content _ _ _ := rfl
  handle := Or.inl ⟨hhandle, hwrites⟩
  files _ _ _ hget _ := hget
  objects _ _ := rfl
  object _ hget := Or.inl hget
  opened := hopened

theorem awaited_frame (c : FileCall) (disk : FileSystem) (fault : Bool) (amount : ℕ) :
    Frame rootDirectory disk c disk (c.awaited rootDirectory disk fault amount) := by
  have hsame : ∀ stage : FileStage, (stage.writes = true → c.stage.writes = true) →
      Frame rootDirectory disk c disk { c with stage := stage } :=
    fun stage hwrites => .quiet rfl rfl rfl rfl hwrites fun _ => Or.inl
  cases hstage : c.stage with
  | initializing =>
    simp only [FileCall.awaited, hstage]
    refine hsame _ fun h => ?_
    unfold FileCall.initialized at h
    revert h
    cases fault <;> cases c.operation <;> exact nofun
  | statting =>
    simp only [FileCall.awaited, hstage]
    refine hsame _ fun h => ?_
    unfold FileCall.statted at h
    revert h
    cases fault <;> cases c.operation <;> cases disk.contentAt (objectPath rootDirectory c.key) <;> exact nofun
  | openingFile =>
    simp only [FileCall.awaited, hstage]
    split_ifs
    · exact hsame _ nofun
    · split
      · exact .quiet rfl rfl rfl rfl nofun nofun
      · rename_i inode hinode
        refine .quiet rfl rfl rfl rfl nofun fun inode' hopened => ?_
        obtain rfl := Option.some.inj (Option.some.inj hopened)
        exact Or.inr hinode
  | reading inode value =>
    simp only [FileCall.awaited, hstage]
    split_ifs
    · exact hsame _ nofun
    · split
      · exact hsame _ nofun
      · exact hsame _ nofun
  | streaming rest length =>
    simp only [FileCall.awaited, hstage]
    exact hsame _ fun _ => by rw [hstage]; rfl
  | syncing length =>
    simp only [FileCall.awaited, hstage]
    exact hsame _ fun _ => by rw [hstage]; rfl
  | closing length =>
    simp only [FileCall.awaited, hstage]
    exact hsame _ fun _ => by rw [hstage]; rfl
  | headInitializing =>
    simp only [FileCall.awaited, hstage]
    cases fault <;> exact hsame _ nofun
  | losing =>
    simp only [FileCall.awaited, hstage]
    cases fault <;> exact hsame _ nofun
  | closingHandle result =>
    simp only [FileCall.awaited, hstage]
    exact hsame _ nofun
  | _ =>
    simp only [FileCall.awaited, hstage]
    exact .quiet rfl rfl rfl rfl id fun _ => Or.inl

theorem proceed_frame (hsound : c.Sound disk) (htemporary : ∀ k, c.temporary ≠ objectPath rootDirectory k) (fault : Bool)
    (amount : ℕ) : Frame rootDirectory disk c (c.proceed rootDirectory disk fault amount).1
      (c.proceed rootDirectory disk fault amount).2 := by
  have hsame : ∀ stage : FileStage, (stage.writes = true → c.stage.writes = true) →
      Frame rootDirectory disk c disk { c with stage := stage } :=
    fun stage hwrites => .quiet rfl rfl rfl rfl hwrites fun _ => Or.inl
  cases hstage : c.stage with
  | unlinking =>
    simp only [FileCall.proceed, hstage]
    split_ifs
    · exact hsame _ fun hwrites => by cases hwrites
    · exact
        { key := rfl
          operation := rfl
          temporary := rfl
          grows := Nat.le_refl _
          content := fun _ _ _ => rfl
          handle := Or.inl ⟨rfl, fun hclosed => by cases hclosed⟩
          files := fun path inode hpath hget _ => by
            rwa [FileSystem.unlink, JsMap.get_delete, if_neg (Ne.symm hpath)]
          objects := fun k hk => by
            rw [FileSystem.unlink, JsMap.get_delete, if_neg fun h => hk (objectPath_injective h).symm]
          object := fun inode hget => by
            rw [FileSystem.unlink, JsMap.get_delete, if_pos rfl] at hget
            cases hget
          opened := fun _ => Or.inl }
  | creating =>
    simp only [FileCall.proceed, hstage]
    split
    · exact hsame _ fun hwrites => by cases hwrites
    · rename_i disk' inode hcreated
      have hcreate : disk.createExclusive c.temporary = some (disk', inode) := by
        split_ifs at hcreated
        exact hcreated
      obtain ⟨habsent, heq⟩ := FileSystem.createExclusive_eq_some hcreate
      obtain ⟨rfl, rfl⟩ := Prod.mk.inj heq
      exact
        { key := rfl
          operation := rfl
          temporary := rfl
          grows := by simp [FileSystem.create]
          content := fun inode hinode _ => FileSystem.contentOf_create hinode
          handle := Or.inr ⟨rfl, by simp [FileSystem.create]⟩
          files := fun path inode _ hget _ => by
            have hne : c.temporary ≠ path := fun h => by
              rw [← h, habsent] at hget
              cases hget
            rwa [FileSystem.create, JsMap.get_set_ne _ _ hne]
          objects := fun k _ => by rw [FileSystem.create, JsMap.get_set_ne _ _ (htemporary k)]
          object := fun inode hget => by
            rw [FileSystem.create, JsMap.get_set_ne _ _ (htemporary _)] at hget
            exact Or.inl hget
          opened := fun _ => Or.inl }
  | writing chunk rest length =>
    simp only [FileCall.proceed, hstage]
    split
    · rename_i inode hhandle
      exact
        { key := rfl
          operation := rfl
          temporary := rfl
          grows := Nat.le_of_eq FileSystem.length_append.symm
          content := fun inode' _ hquiet => by
            refine FileSystem.contentOf_append_ne fun h => ?_
            have := hquiet (h ▸ hhandle)
            rw [hstage] at this
            cases this
          handle := Or.inl ⟨rfl, fun _ => by rw [hstage]; rfl⟩
          files := fun _ _ _ hget _ => hget
          objects := fun _ _ => rfl
          object := fun _ => Or.inl
          opened := fun _ => Or.inl }
    · exact hsame _ fun hwrites => by cases hwrites
  | linking length =>
    simp only [FileCall.proceed, hstage]
    split
    · rename_i disk' hlinked
      have hlink : disk.link c.temporary (objectPath rootDirectory c.key) = .ok disk' := by
        split_ifs at hlinked
        exact hlinked
      obtain ⟨inode, htemp, hfree, rfl⟩ := FileSystem.link_eq_ok hlink
      have hown : c.handle = some inode := by
        rw [FileCall.Sound, hstage] at hsound
        obtain ⟨_, _, ⟨inode', hhandle, hget, _⟩, _⟩ := hsound
        rwa [htemp.symm.trans hget]
      exact
        { key := rfl
          operation := rfl
          temporary := rfl
          grows := Nat.le_refl _
          content := fun _ _ _ => rfl
          handle := Or.inl ⟨rfl, fun hclosed => by cases hclosed⟩
          files := fun path inode hpath hget _ => by rwa [JsMap.get_set_ne _ _ (Ne.symm hpath)]
          objects := fun k hk => JsMap.get_set_ne _ _ fun h => hk (objectPath_injective h).symm
          object := fun inode' hget => by
            rw [JsMap.get_set_self] at hget
            exact Or.inr ⟨hget ▸ hown, rfl⟩
          opened := fun _ => Or.inl }
    · exact hsame _ fun hwrites => by cases hwrites
    · exact hsame _ fun hwrites => by cases hwrites
  | unlinkingTemporary result =>
    simp only [FileCall.proceed, hstage]
    have hquiet : (FileCall.settled result).writes = false := by cases result <;> rfl
    split_ifs
    · exact hsame _ fun h => by rw [hquiet] at h; cases h
    · obtain ⟨_, own, hhandle, hown⟩ : c.IsPut ∧ c.Holds disk := by
        rwa [FileCall.Sound, hstage] at hsound
      exact
        { key := rfl
          operation := rfl
          temporary := rfl
          grows := Nat.le_refl _
          content := fun _ _ _ => rfl
          handle := Or.inl ⟨rfl, fun h => by rw [hquiet] at h; cases h⟩
          files := fun path inode _ hget hforeign => by
            have hne : c.temporary ≠ path := fun h => by
              rw [← h, hown] at hget
              exact hforeign (hget ▸ hhandle)
            rwa [FileSystem.unlink, JsMap.get_delete, if_neg hne]
          objects := fun k _ => by rw [FileSystem.unlink, JsMap.get_delete, if_neg (htemporary k)]
          object := fun inode hget => by
            rw [FileSystem.unlink, JsMap.get_delete, if_neg (htemporary _)] at hget
            exact Or.inl hget
          opened := fun _ => Or.inl }
  | _ =>
    simp only [FileCall.proceed, hstage]
    exact awaited_frame c disk fault amount

/-! ### What the call knows after it -/

theorem source_eq {source : ByteStream} (h : c.operation = .putIfAbsent source) : c.source = source := by
  rw [FileCall.source, h]

theorem nextChunk_sound {rest : List Bytes} {length : ℕ} (hput : c.IsPut) {done : List Bytes}
    (hwritten : c.Written disk done.flatten) (hread : done ++ rest = c.source.chunks) (hlength : length = done.flatten.length) :
    FileCall.Sound disk { c with stage := c.nextChunk length rest } := by
  obtain ⟨inode, hhandle, hget, _⟩ := id hwritten
  cases rest with
  | nil =>
    simp only [FileCall.nextChunk]
    split_ifs with hthrown
    · exact ⟨hput, inode, hhandle, hget⟩
    · rw [List.append_nil] at hread
      have hcomplete : Complete c.source done.flatten := ⟨by simpa using hthrown, by rw [hread]⟩
      exact ⟨hput, done.flatten, hwritten, hcomplete, hlength⟩
  | cons chunk rest =>
    simp only [FileCall.nextChunk]
    split_ifs
    · exact ⟨hput, inode, hhandle, hget⟩
    · exact ⟨hput, inode, hhandle, hget⟩
    · refine ⟨hput, done, [], ?_, hread, ?_⟩
      · rw [List.append_nil]
        exact hwritten
      · rw [List.nil_append, List.length_append, hlength]

theorem initialized_sound (hopened : c.opened = none) : FileCall.Sound disk { c with stage := c.initialized } := by
  cases hoperation : c.operation with
  | putIfAbsent source =>
    have hnext : c.initialized = .headInitializing := by rw [FileCall.initialized, hoperation]
    rw [hnext]
    exact ⟨source, rfl⟩
  | get =>
    have hnext : c.initialized = .openingFile := by rw [FileCall.initialized, hoperation]
    rw [hnext]
    exact ⟨rfl, hopened⟩
  | head =>
    have hnext : c.initialized = .statting := by rw [FileCall.initialized, hoperation]
    rw [hnext]
    exact Or.inr rfl
  | delete =>
    have hnext : c.initialized = .unlinking := by rw [FileCall.initialized, hoperation]
    rw [hnext]
    rfl

theorem statted_sound (h : c.IsPut ∨ c.operation = .head) (found : Option Bytes) :
    FileCall.Sound disk { c with stage := c.statted found } := by
  rcases h with ⟨source, hoperation⟩ | hoperation
  · cases found with
    | none =>
      have hnext : c.statted none = .creating := by simp only [FileCall.statted, hoperation]
      rw [hnext]
      exact ⟨source, hoperation⟩
    | some existing =>
      have hnext : c.statted (some existing) = .answered (.put ⟨existing.length, .existing⟩) := by
        simp only [FileCall.statted, hoperation]
      rw [hnext]
      exact fun hget => nomatch hoperation.symm.trans hget
  · have hnext : c.statted found = .answered (.head (found.map headOf)) := by simp only [FileCall.statted, hoperation]
    rw [hnext]
    exact fun hget => nomatch hoperation.symm.trans hget

theorem awaited_sound (hsound : c.Sound disk)
    (hpath : ∀ inode, disk.files.get (objectPath rootDirectory c.key) = some inode → inode < disk.inodes.length) (fault : Bool)
    (amount : ℕ) : (c.awaited rootDirectory disk fault amount).Sound disk := by
  cases hstage : c.stage with
  | initializing =>
    rw [FileCall.Sound, hstage] at hsound
    simp only [FileCall.awaited, hstage]
    cases fault with
    | true => trivial
    | false => exact initialized_sound hsound
  | headInitializing =>
    rw [FileCall.Sound, hstage] at hsound
    simp only [FileCall.awaited, hstage]
    cases fault with
    | true => trivial
    | false => exact Or.inl hsound
  | statting =>
    rw [FileCall.Sound, hstage] at hsound
    simp only [FileCall.awaited, hstage]
    cases fault with
    | true => trivial
    | false =>
      generalize disk.contentAt (objectPath rootDirectory c.key) = found
      exact statted_sound hsound found
  | openingFile =>
    rw [FileCall.Sound, hstage] at hsound
    simp only [FileCall.awaited, hstage]
    split_ifs
    · trivial
    · split
      · exact fun _ => ⟨none, rfl, rfl⟩
      · rename_i inode hinode
        have hcontent : disk.contentOf inode = some (disk.inodes.get ⟨inode, hpath inode hinode⟩) :=
          List.getElem?_eq_getElem (hpath inode hinode)
        exact ⟨hsound.1, rfl, _, hcontent, List.nil_prefix⟩
  | reading inode value =>
    rw [FileCall.Sound, hstage] at hsound
    obtain ⟨hoperation, hopened, content, hcontent, rest, rfl⟩ := hsound
    simp only [FileCall.awaited, hstage, hcontent, Option.getD_some, List.drop_left]
    split_ifs
    · trivial
    · split
      · rename_i hend
        have hrest : rest = [] := by
          cases rest with
          | nil => rfl
          | cons b rest => simp at hend
        rw [hrest, List.append_nil] at hcontent
        exact fun _ => ⟨some inode, hopened, congrArg ObjectResult.bytes hcontent.symm⟩
      · refine ⟨hoperation, hopened, _, hcontent, ?_⟩
        exact List.prefix_append_right_inj value |>.mpr (List.take_prefix _ _)
  | streaming rest length =>
    rw [FileCall.Sound, hstage] at hsound
    obtain ⟨hput, done, hwritten, hread, hlength⟩ := hsound
    simp only [FileCall.awaited, hstage]
    exact nextChunk_sound hput hwritten hread hlength
  | syncing length =>
    rw [FileCall.Sound, hstage] at hsound
    simp only [FileCall.awaited, hstage]
    cases fault with
    | true =>
      obtain ⟨hput, _, ⟨inode, hhandle, hget, _⟩, _⟩ := hsound
      exact ⟨hput, inode, hhandle, hget⟩
    | false => exact hsound
  | closing length =>
    rw [FileCall.Sound, hstage] at hsound
    simp only [FileCall.awaited, hstage]
    cases fault with
    | true =>
      obtain ⟨hput, _, ⟨inode, hhandle, hget, _⟩, _⟩ := hsound
      exact ⟨hput, inode, hhandle, hget⟩
    | false => exact hsound
  | losing =>
    rw [FileCall.Sound, hstage] at hsound
    simp only [FileCall.awaited, hstage]
    cases fault <;> exact hsound
  | closingHandle result =>
    rw [FileCall.Sound, hstage] at hsound
    simp only [FileCall.awaited, hstage]
    exact hsound
  | _ =>
    simp only [FileCall.awaited, hstage]
    exact hsound

theorem proceed_sound (hsound : c.Sound disk) (htemporary : ∀ k, c.temporary ≠ objectPath rootDirectory k)
    (hpath : ∀ inode, disk.files.get (objectPath rootDirectory c.key) = some inode → inode < disk.inodes.length) (fault : Bool)
    (amount : ℕ) :
    (c.proceed rootDirectory disk fault amount).2.Sound (c.proceed rootDirectory disk fault amount).1 := by
  have haround := hsound
  rw [FileCall.Sound] at haround
  cases hstage : c.stage with
  | unlinking =>
    rw [hstage] at haround
    simp only [FileCall.proceed, hstage]
    split_ifs
    · trivial
    · intro hget
      cases haround.symm.trans hget
  | creating =>
    rw [hstage] at haround
    simp only [FileCall.proceed, hstage]
    split
    · trivial
    · rename_i disk' inode hcreated
      have hcreate : disk.createExclusive c.temporary = some (disk', inode) := by
        split_ifs at hcreated
        exact hcreated
      obtain ⟨_, heq⟩ := FileSystem.createExclusive_eq_some hcreate
      obtain ⟨rfl, rfl⟩ := Prod.mk.inj heq
      refine ⟨haround, [], ⟨_, rfl, ?_, FileSystem.contentOf_create_new⟩, rfl, rfl⟩
      exact JsMap.get_set_self ..
  | writing chunk rest length =>
    rw [hstage] at haround
    obtain ⟨hput, done, part, ⟨own, hown, htemp, hcontent⟩, hread, hlength⟩ := haround
    simp only [FileCall.proceed, hstage]
    split
    · rename_i inode hhandle
      obtain rfl : own = inode := Option.some.inj (hown.symm.trans hhandle)
      have hwritten := @FileSystem.contentOf_append disk own (chunk.take (amount + 1)) _ hcontent
      have hchunk := List.take_append_drop (amount + 1) chunk
      generalize chunk.take (amount + 1) = now at hwritten hchunk ⊢
      generalize chunk.drop (amount + 1) = left at hchunk ⊢
      subst hchunk
      cases left with
      | nil =>
        rw [List.append_nil] at hread hlength
        refine ⟨hput, done ++ [part ++ now], ⟨own, hown, htemp, ?_⟩, ?_, ?_⟩
        · rw [hwritten]
          simp
        · rw [List.append_assoc]
          exact hread
        · rw [hlength]
          simp
      | cons b left =>
        rw [← List.append_assoc part] at hread hlength
        refine ⟨hput, done, part ++ now, ⟨own, hown, htemp, ?_⟩, hread, hlength⟩
        rw [hwritten, List.append_assoc]
    · exact ⟨hput, own, hown, htemp⟩
  | linking length =>
    rw [hstage] at haround
    obtain ⟨hput, bytes, ⟨own, hown, htemp, hcontent⟩, _⟩ := haround
    simp only [FileCall.proceed, hstage]
    split
    · rename_i disk' hlinked
      have hlink : disk.link c.temporary (objectPath rootDirectory c.key) = .ok disk' := by
        split_ifs at hlinked
        exact hlinked
      obtain ⟨inode, hget, _, rfl⟩ := FileSystem.link_eq_ok hlink
      refine ⟨hput, own, hown, ?_⟩
      exact (JsMap.get_set_ne _ _ (Ne.symm (htemporary c.key))).trans htemp
    · exact ⟨hput, own, hown, htemp⟩
    · exact ⟨hput, own, hown, htemp⟩
  | unlinkingTemporary result =>
    rw [hstage] at haround
    obtain ⟨⟨source, hoperation⟩, _⟩ := haround
    simp only [FileCall.proceed, hstage]
    cases result with
    | none => trivial
    | some result =>
      intro hget
      cases hoperation.symm.trans hget
  | _ =>
    simp only [FileCall.proceed, hstage]
    exact awaited_sound hsound hpath fault amount

/-- A call does not disturb what another knows. -/
theorem Frame.sound (hframe : Frame rootDirectory disk c disk' c') (hsound : d.Sound disk)
    (hforeign : ∀ inode, d.handle = some inode → c.handle ≠ some inode)
    (htemporary : ∀ k, d.temporary ≠ objectPath rootDirectory k)
    (hopened : ∀ inode, d.opened = some (some inode) → disk'.contentOf inode = disk.contentOf inode) : d.Sound disk' := by
  have hholds : d.Holds disk → d.Holds disk' := by
    rintro ⟨inode, hhandle, hget⟩
    exact ⟨inode, hhandle, hframe.files _ _ (htemporary _) hget (hforeign inode hhandle)⟩
  have hwritten : ∀ {bytes : Bytes}, d.Written disk bytes → d.Written disk' bytes := by
    rintro bytes ⟨inode, hhandle, hget, hcontent⟩
    refine ⟨inode, hhandle, hframe.files _ _ (htemporary _) hget (hforeign inode hhandle), ?_⟩
    rw [hframe.content inode (FileSystem.lt_of_contentOf hcontent) fun h => absurd h (hforeign inode hhandle), hcontent]
  unfold FileCall.Sound at hsound ⊢
  split at hsound
  · exact hsound
  · exact hsound
  · exact hsound
  · exact hsound
  · exact hsound
  · obtain ⟨hoperation, hinode, content, hcontent, hprefix⟩ := hsound
    exact ⟨hoperation, hinode, content, (hopened _ hinode).trans hcontent, hprefix⟩
  · exact hsound
  · obtain ⟨hput, done, hdone, hrest⟩ := hsound
    exact ⟨hput, done, hwritten hdone, hrest⟩
  · obtain ⟨hput, done, part, hdone, hrest⟩ := hsound
    exact ⟨hput, done, part, hwritten hdone, hrest⟩
  · obtain ⟨hput, bytes, hbytes, hrest⟩ := hsound
    exact ⟨hput, bytes, hwritten hbytes, hrest⟩
  · obtain ⟨hput, bytes, hbytes, hrest⟩ := hsound
    exact ⟨hput, bytes, hwritten hbytes, hrest⟩
  · obtain ⟨hput, bytes, hbytes, hrest⟩ := hsound
    exact ⟨hput, bytes, hwritten hbytes, hrest⟩
  · exact ⟨hsound.1, hholds hsound.2⟩
  · exact ⟨hsound.1, hholds hsound.2⟩
  · exact ⟨hsound.1, hholds hsound.2⟩
  · intro hget
    obtain ⟨inode, hinode, rfl⟩ := hsound hget
    refine ⟨inode, hinode, ?_⟩
    cases inode with
    | none => rfl
    | some inode => exact congrArg ObjectResult.bytes (hopened inode hinode).symm
  · trivial

/-! ### Every step keeps the invariant -/

section Step

variable {s : FilesystemStore} {i : ℕ} {inode : ℕ}

theorem Frame.frozen (hframe : Frame rootDirectory s.disk c disk' c') (hc : s.calls[i]? = some c) (h : Frozen s inode) :
    Frozen ⟨disk', s.calls.set i c'⟩ inode := by
  refine ⟨Nat.lt_of_lt_of_le h.1 hframe.grows, fun d hd hhandle => ?_⟩
  rcases List.mem_or_eq_of_mem_set hd with hd | rfl
  · exact h.2 d hd hhandle
  · rcases hframe.handle with ⟨hsame, hwrites⟩ | ⟨hfresh, _⟩
    · have hquiet := h.2 c (List.mem_of_getElem? hc) (hsame.symm.trans hhandle)
      by_contra hnot
      exact absurd (hwrites (eq_true_of_ne_false hnot)) (by rw [hquiet]; exact Bool.false_ne_true)
    · exact absurd (Option.some.inj (hfresh.symm.trans hhandle)) (Nat.ne_of_gt h.1)

theorem Frame.content_frozen (hframe : Frame rootDirectory s.disk c disk' c') (hc : s.calls[i]? = some c)
    (h : Frozen s inode) : disk'.contentOf inode = s.disk.contentOf inode :=
  hframe.content inode h.1 (h.2 c (List.mem_of_getElem? hc))

theorem FileInvariant.set (hI : FileInvariant rootDirectory s) (hc : s.calls[i]? = some c)
    (hframe : Frame rootDirectory s.disk c disk' c') (hsound : c'.Sound disk') :
    FileInvariant rootDirectory ⟨disk', s.calls.set i c'⟩ where
  sound d hd := by
    obtain ⟨j, hj⟩ := List.mem_iff_getElem?.mp hd
    rcases (getElem?_set_eq_some hc).mp hj with ⟨rfl, rfl⟩ | ⟨hne, hj⟩
    · exact hsound
    · have hd := List.mem_of_getElem? hj
      refine hframe.sound (hI.sound d hd) (fun inode hinode howned => hne ?_) (hI.temporaries d hd) fun inode hopened => ?_
      · exact hI.distinct _ _ _ _ inode hc hj howned hinode
      · exact hframe.content_frozen hc (hI.opened d hd inode hopened)
  temporaries d hd := by
    rcases List.mem_or_eq_of_mem_set hd with hd | rfl
    · exact hI.temporaries d hd
    · rw [hframe.temporary]
      exact hI.temporaries c (List.mem_of_getElem? hc)
  handles d hd inode hhandle := by
    rcases List.mem_or_eq_of_mem_set hd with hd | rfl
    · exact Nat.lt_of_lt_of_le (hI.handles d hd inode hhandle) hframe.grows
    · rcases hframe.handle with ⟨hsame, _⟩ | ⟨hfresh, hlt⟩
      · exact Nat.lt_of_lt_of_le (hI.handles c (List.mem_of_getElem? hc) inode (hsame.symm.trans hhandle)) hframe.grows
      · exact Option.some.inj (hfresh.symm.trans hhandle) ▸ hlt
  distinct j k d e inode hd he hdhandle hehandle := by
    -- only a handle that the step opened is not that of the call before
    have hother : ∀ {k : ℕ} {e : FileCall}, s.calls[k]? = some e → i ≠ k → e.handle = some inode → c'.handle ≠ some inode := by
      intro k e he hk hehandle hhandle
      rcases hframe.handle with ⟨hsame, _⟩ | ⟨hfresh, _⟩
      · exact hk (hI.distinct _ _ _ _ inode hc he (hsame.symm.trans hhandle) hehandle)
      · have hlt := hI.handles e (List.mem_of_getElem? he) inode hehandle
        exact absurd (Option.some.inj (hfresh.symm.trans hhandle)) (Nat.ne_of_gt hlt)
    rcases (getElem?_set_eq_some hc).mp hd with ⟨rfl, rfl⟩ | ⟨hj, hd'⟩
    · rcases (getElem?_set_eq_some hc).mp he with ⟨rfl, rfl⟩ | ⟨hk, he'⟩
      · rfl
      · exact absurd hdhandle (hother he' hk hehandle)
    · rcases (getElem?_set_eq_some hc).mp he with ⟨rfl, rfl⟩ | ⟨_, he'⟩
      · exact absurd hehandle (hother hd' hj hdhandle)
      · exact hI.distinct j k d e inode hd' he' hdhandle hehandle
  published k inode hget := by
    by_cases hk : k = c.key
    · subst hk
      rcases hframe.object inode hget with hbefore | ⟨hhandle, hquiet⟩
      · exact hframe.frozen hc (hI.published _ inode hbefore)
      · refine ⟨Nat.lt_of_lt_of_le (hI.handles c (List.mem_of_getElem? hc) inode hhandle) hframe.grows, fun d hd hdhandle => ?_⟩
        obtain ⟨j, hj⟩ := List.mem_iff_getElem?.mp hd
        rcases (getElem?_set_eq_some hc).mp hj with ⟨rfl, rfl⟩ | ⟨hne, hj⟩
        · exact hquiet
        · exact absurd (hI.distinct _ _ _ _ inode hc hj hhandle hdhandle) hne
    · exact hframe.frozen hc (hI.published k inode ((hframe.objects k hk).symm.trans hget))
  opened d hd inode hopened := by
    rcases List.mem_or_eq_of_mem_set hd with hd | rfl
    · exact hframe.frozen hc (hI.opened d hd inode hopened)
    · rcases hframe.opened inode hopened with hbefore | hget
      · exact hframe.frozen hc (hI.opened c (List.mem_of_getElem? hc) inode hbefore)
      · exact hframe.frozen hc (hI.published _ inode hget)

theorem effect_congr (h : ∀ inode, d.opened = some (some inode) → disk'.contentOf inode = disk.contentOf inode) :
    d.effect disk' = d.effect disk := by
  unfold FileCall.effect
  split_ifs
  · cases hopened : d.opened with
    | none => rfl
    | some found =>
      cases found with
      | none => rfl
      | some inode => exact congrArg (fun o => some (ObjectResult.bytes o)) (h inode hopened)
  · rfl

theorem view_map (hI : FileInvariant rootDirectory s) (hc : s.calls[i]? = some c)
    (hframe : Frame rootDirectory s.disk c disk' c') :
    (filesystemStore rootDirectory).calls ⟨disk', s.calls.set i c'⟩ =
      ((filesystemStore rootDirectory).calls s).set i (c'.view disk') := by
  have hview : ∀ d ∈ s.calls, d.view disk' = d.view s.disk := fun d hd => by
    rw [FileCall.view, FileCall.view, effect_congr fun inode hopened => hframe.content_frozen hc (hI.opened d hd inode hopened)]
  simp only [filesystemStore, List.map_set]
  rw [List.map_congr_left hview]

/-- A step that leaves the call's own object alone leaves every object alone. -/
theorem Frame.same_objects (hframe : Frame rootDirectory s.disk c disk' c') (hI : FileInvariant rootDirectory s)
    (hc : s.calls[i]? = some c)
    (hobject : disk'.files.get (objectPath rootDirectory c.key) = s.disk.files.get (objectPath rootDirectory c.key))
    (calls : List FileCall) :
    (filesystemStore rootDirectory).objects ⟨disk', calls⟩ = (filesystemStore rootDirectory).objects s := by
  funext k
  have hfiles : disk'.files.get (objectPath rootDirectory k) = s.disk.files.get (objectPath rootDirectory k) := by
    by_cases hk : k = c.key
    · rw [hk, hobject]
    · exact hframe.objects k hk
  simp only [filesystemStore, FileSystem.contentAt, hfiles]
  cases hget : s.disk.files.get (objectPath rootDirectory k) with
  | none => rfl
  | some inode => exact hframe.content_frozen hc (hI.published k inode hget)

/-- The step changes the call's own object only. -/
theorem Frame.update_objects (hframe : Frame rootDirectory s.disk c disk' c') (hI : FileInvariant rootDirectory s)
    (hc : s.calls[i]? = some c) {value : Option Bytes} (hvalue : disk'.contentAt (objectPath rootDirectory c.key) = value)
    (calls : List FileCall) :
    (filesystemStore rootDirectory).objects ⟨disk', calls⟩ =
      Function.update ((filesystemStore rootDirectory).objects s) c.key value := by
  funext k
  by_cases hk : k = c.key
  · subst hk
    rw [Function.update_self]
    exact hvalue
  · rw [Function.update_of_ne hk]
    simp only [filesystemStore, FileSystem.contentAt, hframe.objects k hk]
    cases hget : s.disk.files.get (objectPath rootDirectory k) with
    | none => rfl
    | some inode => exact hframe.content_frozen hc (hI.published k inode hget)

theorem awaited_takes (hI : FileInvariant rootDirectory s) (hc : s.calls[i]? = some c) (fault : Bool) (amount : ℕ) :
    let next := c.awaited rootDirectory s.disk fault amount
    next.effect s.disk = c.effect s.disk ∨
      c.effect s.disk = none ∧ ∃ result, next.effect s.disk = some result ∧
        Takes ((filesystemStore rootDirectory).objects s) ⟨c.key, c.operation, result⟩
          ((filesystemStore rootDirectory).objects s) := by
  have hsound := hI.sound c (List.mem_of_getElem? hc)
  have hquiet : ∀ stage : FileStage, stage.result = c.stage.result →
      ({ c with stage := stage } : FileCall).effect s.disk = c.effect s.disk := fun stage hresult => by
    rw [FileCall.effect, FileCall.effect, hresult]
  have hunknown : c.operation ≠ .get → c.stage.result = none → c.effect s.disk = none := fun hget hresult =>
    (if_neg hget).trans hresult
  have hknown : ∀ {stage : FileStage} {result : ObjectResult}, c.operation ≠ .get → stage.result = some result →
      ({ c with stage := stage } : FileCall).effect s.disk = some result := fun hget hresult => (if_neg hget).trans hresult
  rw [FileCall.Sound] at hsound
  cases hstage : c.stage with
  | initializing =>
    simp only [FileCall.awaited, hstage]
    refine Or.inl (hquiet _ ?_)
    rw [hstage, FileCall.initialized]
    cases fault <;> cases c.operation <;> rfl
  | headInitializing =>
    simp only [FileCall.awaited, hstage]
    refine Or.inl (hquiet _ ?_)
    rw [hstage]
    cases fault <;> rfl
  | statting =>
    rw [hstage] at hsound
    simp only [FileCall.awaited, hstage]
    cases fault with
    | true => exact Or.inl (hquiet _ (by rw [hstage]; rfl))
    | false =>
      have hcontent : (filesystemStore rootDirectory).objects s c.key = s.disk.contentAt (objectPath rootDirectory c.key) := rfl
      generalize s.disk.contentAt (objectPath rootDirectory c.key) = found at hcontent ⊢
      rcases hsound with ⟨source, hoperation⟩ | hoperation
      · cases found with
        | none => exact Or.inl (hquiet _ (by rw [hstage]; simp only [FileCall.statted, hoperation]; rfl))
        | some existing =>
          refine Or.inr ⟨hunknown (by simp [hoperation]) (by rw [hstage]; rfl), .put ⟨existing.length, .existing⟩,
            hknown (by simp [hoperation]) ?_, ?_⟩
          · show (c.statted (some existing)).result = _
            simp only [FileCall.statted, hoperation, FileStage.result]
          · rw [hoperation]
            refine ⟨?_, rfl⟩
            rw [hcontent, Option.map_some]
      · refine Or.inr ⟨hunknown (by simp [hoperation]) (by rw [hstage]; rfl), .head (found.map headOf),
          hknown (by simp [hoperation]) ?_, ?_⟩
        · show (c.statted found).result = _
          simp only [FileCall.statted, hoperation, FileStage.result]
        · rw [hoperation]
          exact ⟨by rw [hcontent], rfl⟩
  | openingFile =>
    rw [hstage] at hsound
    obtain ⟨hoperation, hopened⟩ := hsound
    have hbefore : c.effect s.disk = none := by rw [FileCall.effect, if_pos hoperation, hopened]; rfl
    simp only [FileCall.awaited, hstage]
    split_ifs
    · exact Or.inl (hquiet _ (by rw [hstage]; rfl))
    · split
      · rename_i hget
        refine Or.inr ⟨hbefore, .bytes none, if_pos hoperation, ?_⟩
        rw [hoperation]
        refine ⟨?_, rfl⟩
        simp only [filesystemStore, FileSystem.contentAt, hget, Option.bind_none]
      · rename_i inode hget
        refine Or.inr ⟨hbefore, .bytes (s.disk.contentOf inode), if_pos hoperation, ?_⟩
        rw [hoperation]
        refine ⟨?_, rfl⟩
        simp only [filesystemStore, FileSystem.contentAt, hget, Option.bind_some]
  | reading inode value =>
    rw [hstage] at hsound
    obtain ⟨hoperation, _⟩ := hsound
    have hread : ∀ stage : FileStage, ({ c with stage := stage } : FileCall).effect s.disk = c.effect s.disk := fun stage => by
      rw [FileCall.effect, FileCall.effect, if_pos hoperation, if_pos hoperation]
    simp only [FileCall.awaited, hstage]
    split_ifs
    · exact Or.inl (hread _)
    · split
      · exact Or.inl (hread _)
      · exact Or.inl (hread _)
  | streaming rest length =>
    simp only [FileCall.awaited, hstage]
    refine Or.inl (hquiet _ ?_)
    rw [hstage]
    cases rest with
    | nil =>
      simp only [FileCall.nextChunk]
      split_ifs <;> rfl
    | cons chunk rest =>
      simp only [FileCall.nextChunk]
      split_ifs <;> rfl
  | syncing length =>
    simp only [FileCall.awaited, hstage]
    refine Or.inl (hquiet _ ?_)
    rw [hstage]
    cases fault <;> rfl
  | closing length =>
    simp only [FileCall.awaited, hstage]
    refine Or.inl (hquiet _ ?_)
    rw [hstage]
    cases fault <;> rfl
  | losing =>
    rw [hstage] at hsound
    obtain ⟨⟨source, hoperation⟩, _⟩ := hsound
    simp only [FileCall.awaited, hstage]
    cases fault with
    | true => exact Or.inl (hquiet _ (by rw [hstage]; rfl))
    | false =>
      have hcontent : (filesystemStore rootDirectory).objects s c.key = s.disk.contentAt (objectPath rootDirectory c.key) := rfl
      generalize s.disk.contentAt (objectPath rootDirectory c.key) = found at hcontent ⊢
      cases found with
      | none => exact Or.inl (hquiet _ (by rw [hstage]; rfl))
      | some winner =>
        refine Or.inr ⟨hunknown (by simp [hoperation]) (by rw [hstage]; rfl), _, hknown (by simp [hoperation]) rfl, ?_⟩
        rw [hoperation]
        refine ⟨?_, rfl⟩
        rw [hcontent, Option.map_some]
  | closingHandle result =>
    simp only [FileCall.awaited, hstage]
    refine Or.inl (hquiet _ ?_)
    rw [hstage]
    rfl
  | _ =>
    simp only [FileCall.awaited, hstage]
    exact Or.inl trivial

/-- What the call does at once. -/
theorem proceed_takes (hI : FileInvariant rootDirectory s) (hc : s.calls[i]? = some c) (fault : Bool) (amount : ℕ) :
    let next := c.proceed rootDirectory s.disk fault amount
    let s' : FilesystemStore := ⟨next.1, s.calls.set i next.2⟩
    (next.2.effect next.1 = c.effect s.disk ∧
        (filesystemStore rootDirectory).objects s' = (filesystemStore rootDirectory).objects s) ∨
      c.effect s.disk = none ∧ ∃ result, next.2.effect next.1 = some result ∧
        Takes ((filesystemStore rootDirectory).objects s) ⟨c.key, c.operation, result⟩
          ((filesystemStore rootDirectory).objects s') := by
  intro next s'
  have hmem := List.mem_of_getElem? hc
  have hsound := hI.sound c hmem
  have hframe : Frame rootDirectory s.disk c next.1 next.2 := proceed_frame hsound (hI.temporaries c hmem) fault amount
  have hsame : next.1.files.get (objectPath rootDirectory c.key) = s.disk.files.get (objectPath rootDirectory c.key) →
      (filesystemStore rootDirectory).objects s' = (filesystemStore rootDirectory).objects s :=
    fun hobject => hframe.same_objects hI hc hobject _
  rw [FileCall.Sound] at hsound
  -- the calls that change the disk are no reads
  have hquiet : c.operation ≠ .get → next.2.stage.result = c.stage.result → next.2.effect next.1 = c.effect s.disk :=
    fun hget hresult => by
      rw [FileCall.effect, FileCall.effect, hframe.operation, if_neg hget, if_neg hget, hresult]
  cases hstage : c.stage with
  | unlinking =>
    rw [hstage] at hsound
    have hget : c.operation ≠ .get := by simp [hsound]
    cases fault with
    | true =>
      have hnext : next = (s.disk, { c with stage := .threw }) := by simp only [next, FileCall.proceed, hstage, if_true]
      exact Or.inl ⟨hquiet hget (by rw [hnext, hstage]; rfl), hsame (by rw [hnext])⟩
    | false =>
      have hnext : next = (s.disk.unlink (objectPath rootDirectory c.key),
          { c with stage := .answered (.deleted (s.disk.files.has (objectPath rootDirectory c.key))) }) := by
        simp only [next, FileCall.proceed, hstage, Bool.false_eq_true, if_false]
      have hgone : next.1.files.get (objectPath rootDirectory c.key) = none := by
        rw [hnext]
        exact (JsMap.get_delete ..).trans (if_pos rfl)
      refine Or.inr ⟨(if_neg hget).trans (by rw [hstage]; rfl),
        .deleted (s.disk.files.has (objectPath rootDirectory c.key)), ?_, ?_⟩
      · rw [hnext, FileCall.effect, if_neg hget]
        rfl
      · rw [hsound]
        cases hpath : s.disk.files.get (objectPath rootDirectory c.key) with
        | none =>
          rw [JsMap.has, hpath]
          refine ⟨?_, hsame (hgone.trans hpath.symm)⟩
          simp only [filesystemStore, FileSystem.contentAt, hpath, Option.bind_none]
        | some inode =>
          rw [JsMap.has, hpath]
          refine ⟨?_, hframe.update_objects hI hc ?_ _⟩
          · have hlt := (hI.published c.key inode hpath).1
            simp only [filesystemStore, FileSystem.contentAt, hpath, Option.bind_some, FileSystem.contentOf,
              List.getElem?_eq_getElem hlt, Option.isSome_some]
          · rw [FileSystem.contentAt, hgone]
            rfl
  | creating =>
    rw [hstage] at hsound
    obtain ⟨source, hoperation⟩ := hsound
    have hnext : next.2.stage.result = none ∧
        next.1.files.get (objectPath rootDirectory c.key) = s.disk.files.get (objectPath rootDirectory c.key) := by
      simp only [next, FileCall.proceed, hstage]
      split
      · exact ⟨rfl, rfl⟩
      · rename_i disk' inode hcreated
        have hcreate : s.disk.createExclusive c.temporary = some (disk', inode) := by
          split_ifs at hcreated
          exact hcreated
        obtain ⟨_, heq⟩ := FileSystem.createExclusive_eq_some hcreate
        obtain ⟨rfl, rfl⟩ := Prod.mk.inj heq
        exact ⟨rfl, JsMap.get_set_ne _ _ (hI.temporaries c hmem c.key)⟩
    exact Or.inl ⟨hquiet (by simp [hoperation]) (by rw [hnext.1, hstage]; rfl), hsame hnext.2⟩
  | writing chunk rest length =>
    rw [hstage] at hsound
    obtain ⟨⟨source, hoperation⟩, _⟩ := hsound
    have hnext : next.2.stage.result = none ∧ next.1.files = s.disk.files := by
      simp only [next, FileCall.proceed, hstage]
      split
      · refine ⟨?_, rfl⟩
        split <;> rfl
      · exact ⟨rfl, rfl⟩
    exact Or.inl ⟨hquiet (by simp [hoperation]) (by rw [hnext.1, hstage]; rfl), hsame (by rw [hnext.2])⟩
  | linking length =>
    rw [hstage] at hsound
    obtain ⟨⟨source, hoperation⟩, bytes, ⟨own, hown, htemp, hcontent⟩, hcomplete, hlength⟩ := hsound
    have hget : c.operation ≠ .get := by simp [hoperation]
    cases hlinked : (if fault then .error .missing else s.disk.link c.temporary (objectPath rootDirectory c.key)) with
    | error e =>
      have hnext : next.2.stage.result = none ∧ next.1 = s.disk := by
        simp only [next, FileCall.proceed, hstage, hlinked]
        cases e <;> exact ⟨rfl, rfl⟩
      exact Or.inl ⟨hquiet hget (by rw [hnext.1, hstage]; rfl), hsame (by rw [hnext.2])⟩
    | ok disk' =>
      have hnext : next = (disk', { c with stage := .closingHandle (some ⟨length, .created⟩) }) := by
        simp only [next, FileCall.proceed, hstage, hlinked]
      have hlink : s.disk.link c.temporary (objectPath rootDirectory c.key) = .ok disk' := by
        split_ifs at hlinked
        exact hlinked
      obtain ⟨inode, htemporary, hfree, hdisk⟩ := FileSystem.link_eq_ok hlink
      obtain rfl : own = inode := Option.some.inj (htemp.symm.trans htemporary)
      have hvalue : next.1.contentAt (objectPath rootDirectory c.key) = some bytes := by
        rw [hnext, hdisk, FileSystem.contentAt, JsMap.get_set_self]
        exact hcontent
      refine Or.inr ⟨(if_neg hget).trans (by rw [hstage]; rfl), .put ⟨length, .created⟩, ?_, ?_⟩
      · rw [hnext, FileCall.effect, if_neg hget]
        rfl
      · rw [source_eq hoperation] at hcomplete
        rw [hoperation]
        refine ⟨?_, bytes, hcomplete, hlength, hframe.update_objects hI hc hvalue _⟩
        simp only [filesystemStore, FileSystem.contentAt, hfree, Option.bind_none]
  | unlinkingTemporary result =>
    rw [hstage] at hsound
    obtain ⟨⟨source, hoperation⟩, _⟩ := hsound
    have hnext : next.2.stage.result = c.stage.result ∧
        next.1.files.get (objectPath rootDirectory c.key) = s.disk.files.get (objectPath rootDirectory c.key) := by
      simp only [next, FileCall.proceed, hstage]
      refine ⟨by cases result <;> rfl, ?_⟩
      split_ifs
      · rfl
      · exact (JsMap.get_delete ..).trans (if_neg (hI.temporaries c hmem c.key))
    exact Or.inl ⟨hquiet (by simp [hoperation]) hnext.1, hsame hnext.2⟩
  | _ =>
    have hnext : next = (s.disk, c.awaited rootDirectory s.disk fault amount) := by
      simp only [next, FileCall.proceed, hstage]
    rcases awaited_takes hI hc fault amount with hunchanged | ⟨hunknown, result, hknown, htakes⟩
    · exact Or.inl ⟨by rw [hnext]; exact hunchanged, hsame (by rw [hnext])⟩
    · refine Or.inr ⟨hunknown, result, by rw [hnext]; exact hknown, ?_⟩
      rw [hsame (by rw [hnext])]
      exact htakes

theorem view_at_call (hc : s.calls[i]? = some c) : ((filesystemStore rootDirectory).calls s)[i]? = some (c.view s.disk) := by
  simp only [filesystemStore, List.getElem?_map, hc, Option.map_some]

theorem Frame.atomic (hframe : Frame rootDirectory s.disk c disk' c') (hI : FileInvariant rootDirectory s)
    (hc : s.calls[i]? = some c)
    (h : let objects := (filesystemStore rootDirectory).objects
      (c'.effect disk' = c.effect s.disk ∧ objects ⟨disk', s.calls.set i c'⟩ = objects s) ∨
        c.effect s.disk = none ∧ ∃ result, c'.effect disk' = some result ∧
          Takes (objects s) ⟨c.key, c.operation, result⟩ (objects ⟨disk', s.calls.set i c'⟩)) :
    AtomicStep Takes (filesystemStore rootDirectory).objects (filesystemStore rootDirectory).effect s
      ⟨disk', s.calls.set i c'⟩ := by
  refine atomicStep_set (view_at_call hc) (view_map hI hc hframe) ?_
  rcases h with ⟨hsame, hobjects⟩ | ⟨hunknown, result, hknown, htakes⟩
  · refine Or.inl ⟨?_, hobjects⟩
    simp only [CallView.known, FileCall.view, hframe.key, hframe.operation, hsame]
  · refine Or.inr ⟨?_, ⟨c.key, c.operation, result⟩, ?_, htakes⟩
    · simp only [CallView.known, FileCall.view, hunknown, Option.map_none]
    · simp only [CallView.known, FileCall.view, hframe.key, hframe.operation, hknown, Option.map_some]

theorem abort_frame (c : FileCall) (disk : FileSystem) : Frame rootDirectory disk c disk { c with aborted := true } :=
  .quiet rfl rfl rfl rfl id fun _ => Or.inl

/-- A new call has no file yet. -/
theorem FileInvariant.call (hI : FileInvariant rootDirectory s) (hsound : c.Sound s.disk)
    (htemporary : ∀ k, c.temporary ≠ objectPath rootDirectory k) (hhandle : c.handle = none) (hopened : c.opened = none) :
    FileInvariant rootDirectory { s with calls := s.calls ++ [c] } := by
  have hmem : ∀ {d : FileCall}, d ∈ s.calls ++ [c] → d ∈ s.calls ∨ d = c := fun hd =>
    (List.mem_append.mp hd).imp id List.mem_singleton.mp
  have hfrozen : ∀ {inode : ℕ}, Frozen s inode → Frozen { s with calls := s.calls ++ [c] } inode := fun h =>
    ⟨h.1, fun d hd hdhandle => (hmem hd).elim (fun hd => h.2 d hd hdhandle) fun heq => by
      rw [heq, hhandle] at hdhandle
      cases hdhandle⟩
  have hold : ∀ {j : ℕ} {d : FileCall} {inode : ℕ}, (s.calls ++ [c])[j]? = some d → d.handle = some inode →
      s.calls[j]? = some d := fun hd hdhandle => (getElem?_concat_eq_some.mp hd).elim id fun h => by
    rw [h.2, hhandle] at hdhandle
    cases hdhandle
  exact
    { sound := fun d hd => (hmem hd).elim (hI.sound d) fun h => h ▸ hsound
      temporaries := fun d hd => (hmem hd).elim (hI.temporaries d) fun h => h ▸ htemporary
      handles := fun d hd inode hdhandle => (hmem hd).elim (fun hd => hI.handles d hd inode hdhandle) fun h => by
        rw [h, hhandle] at hdhandle
        cases hdhandle
      distinct := fun j k d e inode hd he hdhandle hehandle =>
        hI.distinct j k d e inode (hold hd hdhandle) (hold he hehandle) hdhandle hehandle
      published := fun k inode hget => hfrozen (hI.published k inode hget)
      opened := fun d hd inode hdopened => (hmem hd).elim (fun hd => hfrozen (hI.opened d hd inode hdopened)) fun h => by
        rw [h, hopened] at hdopened
        cases hdopened }

end Step

theorem fileCall_sound (k : ObjectKey) (operation : ObjectOperation) (maxObjectBytes : ℕ) (random : List UInt8) (aborted : Bool) :
    FileCall.Sound disk ⟨k, operation, maxObjectBytes, temporaryPath rootDirectory k random, aborted, none, none,
      fileBegin operation aborted⟩ := by
  unfold fileBegin
  split
  · trivial
  · trivial
  · rfl

theorem fileInvariant_step (s : FilesystemStore) (e : FileEvent) (hI : FileInvariant rootDirectory s) :
    FileInvariant rootDirectory (fileStep rootDirectory s e) := by
  cases e with
  | call organizationId objectId operation maxObjectBytes random aborted =>
    rw [fileStep, fileCall]
    split
    · exact hI
    · exact hI.call (fileCall_sound ..) (fun k => temporaryPath_ne _ k random) rfl rfl
  | abort i =>
    rw [fileStep, fileAbort]
    split
    · exact hI
    · rename_i c hc
      exact hI.set hc (abort_frame c s.disk) (hI.sound c (List.mem_of_getElem? hc))
  | advance i fault amount =>
    rw [fileStep, fileAdvance]
    split
    · exact hI
    · rename_i c hc
      have hmem := List.mem_of_getElem? hc
      exact hI.set hc (proceed_frame (hI.sound c hmem) (hI.temporaries c hmem) fault amount)
        (proceed_sound (hI.sound c hmem) (hI.temporaries c hmem) (fun inode hget => (hI.published _ inode hget).1) fault amount)

theorem fileStep_atomic (s : FilesystemStore) (e : FileEvent) (hI : FileInvariant rootDirectory s) :
    AtomicStep Takes (filesystemStore rootDirectory).objects (filesystemStore rootDirectory).effect s
      (fileStep rootDirectory s e) := by
  cases e with
  | call organizationId objectId operation maxObjectBytes random aborted =>
    rw [fileStep, fileCall]
    split
    · exact .silent rfl fun _ => rfl
    · refine atomicStep_append (List.map_append.trans rfl) (Or.inl ⟨?_, rfl⟩)
      cases operation <;> cases aborted <;> rfl
  | abort i =>
    rw [fileStep, fileAbort]
    split
    · exact .silent rfl fun _ => rfl
    · rename_i c hc
      exact atomicStep_set (view_at_call hc) (view_map hI hc (abort_frame c s.disk)) (Or.inl ⟨rfl, rfl⟩)
  | advance i fault amount =>
    rw [fileStep, fileAdvance]
    split
    · exact .silent rfl fun _ => rfl
    · rename_i c hc
      have hmem := List.mem_of_getElem? hc
      have hframe := proceed_frame (hI.sound c hmem) (hI.temporaries c hmem) fault amount
      exact hframe.atomic hI hc (proceed_takes hI hc fault amount)

theorem fileInvariant_start : FileInvariant rootDirectory (filesystemStore rootDirectory).start where
  sound _ h := absurd h List.not_mem_nil
  temporaries _ h := absurd h List.not_mem_nil
  handles _ h := absurd h List.not_mem_nil
  distinct i _ _ _ _ h := by simp [filesystemStore] at h
  published _ _ h := by simp [filesystemStore, FileSystem.empty] at h
  opened _ h := absurd h List.not_mem_nil

/-- **The store on the filesystem is atomic.** -/
theorem filesystemStore_atomic (rootDirectory : List Char) : ∃ history, (filesystemStore rootDirectory).Atomic history := by
  refine ⟨_, ObjectMachine.atomic fileInvariant_step fileInvariant_start rfl rfl fileStep_atomic
    (fun s hI v hv result houtcome => ?_) fun s _ v hv source hoperation houtcome => ?_⟩
  · obtain ⟨c, hc, rfl⟩ := List.mem_map.mp hv
    have hsound := hI.sound c hc
    have hstage : c.stage = .answered result := by
      simp only [FileCall.view, FileCall.outcome] at houtcome
      split at houtcome
      · rename_i result' hstage
        exact hstage.trans (congrArg FileStage.answered (CallOutcome.answered.inj houtcome))
      · cases houtcome
      · cases houtcome
    rw [FileCall.Sound, hstage] at hsound
    simp only [FileCall.view, FileCall.effect]
    split_ifs with hget
    · obtain ⟨inode, hopened, rfl⟩ := hsound hget
      rw [hopened]
      rfl
    · rw [hstage]
      rfl
  · obtain ⟨c, _, rfl⟩ := List.mem_map.mp hv
    have hstage : c.stage = .threw := by
      simp only [FileCall.view, FileCall.outcome] at houtcome
      split at houtcome
      · cases houtcome
      · assumption
      · cases houtcome
    have hput : c.operation = .putIfAbsent source := hoperation
    simp only [FileCall.view, FileCall.effect, hput, hstage]
    rfl

/-- The second of two writers finds the target of its link taken, after a part of its
file was written. -/
example :
    let put (byte : UInt8) : FileEvent := .call "urn:evllm:org:123e4567-e89b-42d3-a456-426614174000"
      "AAAAAAAAAAAAAAAAAAAAAAAAAAAAAAAAAAAAAAAAAAA" (.putIfAbsent ⟨[[byte, byte]], none⟩) 1024 [byte] false
    let turns (i n : ℕ) : List FileEvent := List.replicate n (.advance i false 0)
    ((filesystemStore "/var/store".toList).after
      ([put 1, put 2] ++ turns 1 6 ++ turns 0 14 ++ turns 1 9)).calls.map FileCall.outcome =
      [.answered (.put ⟨2, .created⟩), .answered (.put ⟨2, .existing⟩)] := by decide +kernel

/-- **`putIfAbsent` is atomic**, in memory and on the filesystem. -/
theorem putIfAbsent_atomic : (∃ history, memoryStore.Atomic history) ∧
    ∀ rootDirectory, ∃ history, (filesystemStore rootDirectory).Atomic history :=
  ⟨memoryStore_atomic, filesystemStore_atomic⟩

end Repository
end Evllm
