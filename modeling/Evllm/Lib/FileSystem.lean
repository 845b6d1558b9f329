/-
# Files with hard links

A directory entry names an inode, and an inode holds bytes. Each operation is one
system call that succeeds; `link` is atomic and fails where its target exists, and
an inode outlives its entries.

Key definitions: `FileSystem`, `createExclusive`, `append`, `link`, `unlink`.
Key theorems: `contentOf_append`, `contentOf_create`.
-/
import Evllm.Lib.JsMap

namespace Lib

structure FileSystem where
  files : JsMap String ℕ
  inodes : List (List UInt8)

namespace FileSystem

variable (disk : FileSystem)

def empty : FileSystem := ⟨JsMap.empty, []⟩

def contentOf (inode : ℕ) : Option (List UInt8) := disk.inodes[inode]?

/-- What the file holds. -/
def contentAt (path : String) : Option (List UInt8) := (disk.files.get path).bind disk.contentOf

/-- The disk after `open(path, "wx")`; the new inode is the last. -/
def create (path : String) : FileSystem := ⟨disk.files.set path disk.inodes.length, disk.inodes ++ [[]]⟩

/-- `open(path, "wx")`: the new disk, and the inode that is open. -/
def createExclusive (path : String) : Option (FileSystem × ℕ) :=
  if disk.files.has path then none else some (disk.create path, disk.inodes.length)

/-- A write at the end. -/
def append (inode : ℕ) (bytes : List UInt8) : FileSystem :=
  ⟨disk.files, disk.inodes.modify inode (· ++ bytes)⟩

inductive LinkError where
  | missing
  | exists
  deriving DecidableEq, Repr

def link (path target : String) : Except LinkError FileSystem :=
  match disk.files.get path with
  | none => .error .missing
  | some inode => if disk.files.has target then .error .exists else .ok ⟨disk.files.set target inode, disk.inodes⟩

def unlink (path : String) : FileSystem := ⟨disk.files.delete path, disk.inodes⟩

variable {disk} {path : String} {inode n : ℕ} {bytes : List UInt8}

theorem contentOf_create (h : n < disk.inodes.length) : (disk.create path).contentOf n = disk.contentOf n := by
  rw [contentOf, create, List.getElem?_append_left h, contentOf]

theorem contentOf_create_new : (disk.create path).contentOf disk.inodes.length = some [] := by
  rw [contentOf, create, List.getElem?_concat_length]

theorem contentOf_append_ne (h : inode ≠ n) : (disk.append inode bytes).contentOf n = disk.contentOf n := by
  simp [contentOf, append, h]

theorem contentOf_append {before : List UInt8} (h : disk.contentOf inode = some before) :
    (disk.append inode bytes).contentOf inode = some (before ++ bytes) := by
  rw [contentOf] at h
  simp [contentOf, append, h]

theorem length_append : (disk.append inode bytes).inodes.length = disk.inodes.length := List.length_modify ..

theorem lt_of_contentOf (h : disk.contentOf n = some bytes) : n < disk.inodes.length := (List.getElem?_eq_some_iff.mp h).1

theorem createExclusive_eq_some {created : FileSystem × ℕ} (h : disk.createExclusive path = some created) :
    disk.files.get path = none ∧ created = (disk.create path, disk.inodes.length) := by
  rw [createExclusive] at h
  split_ifs at h with hhas
  exact ⟨(JsMap.has_eq_false_iff ..).mp (Bool.eq_false_iff.mpr hhas), (Option.some.inj h).symm⟩

theorem link_eq_ok {target : String} {disk' : FileSystem} (h : disk.link path target = .ok disk') :
    ∃ inode, disk.files.get path = some inode ∧ disk.files.get target = none ∧
      disk' = ⟨disk.files.set target inode, disk.inodes⟩ := by
  rw [link] at h
  split at h
  · cases h
  · rename_i inode hinode
    split_ifs at h with hhas
    exact ⟨inode, hinode, (JsMap.has_eq_false_iff ..).mp (Bool.eq_false_iff.mpr hhas), (Except.ok.inj h).symm⟩

end FileSystem

end Lib
