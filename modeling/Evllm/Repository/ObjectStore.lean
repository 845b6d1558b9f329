/-
# Requests to object stores

`src/protected-bundles/storage/types.ts`: what a program may ask an
`OpaqueObjectStore`, and what it may be answered. Nothing is said here of what a
store does: an answer may be anything of its type, or fail. A request that is never
answered ends a run where it is made. A chunk is the bytes it holds when it is
yielded.

Key definitions: `StoreRequest`, `StoreAnswer`, `ByteStream`, `StoreProgram`.
-/
import Evllm.Lib.Chunks
import Evllm.Lib.Interaction

namespace Evllm
namespace Repository

open Lib

abbrev Bytes := List UInt8

structure ObjectHead where
  length : ℕ
  deriving DecidableEq, Repr

inductive PutStatus where
  | created
  | existing
  deriving DecidableEq, Repr

structure PutIfAbsentResult where
  length : ℕ
  status : PutStatus
  deriving DecidableEq, Repr

/-- What a reader gets of `get`: the chunks up to its end, or up to where it
throws. Of a stream that is not read to the end only what is read matters. -/
structure ByteStream where
  chunks : List Bytes
  thrown : Option String
  deriving DecidableEq, Repr

/-- The requests to stores that are named by `ς`. -/
inductive StoreRequest (ς : Type) where
  | head (store : ς) (objectId : String)
  | get (store : ς) (objectId : String)
  | putIfAbsent (store : ς) (objectId : String) (source : List Bytes)
  | delete (store : ς) (objectId : String)

/-- What a store may answer; it throws a message. -/
def StoreAnswer {ς : Type} : StoreRequest ς → Type
  | .head .. => Except String (Option ObjectHead)
  | .get .. => ByteStream
  | .putIfAbsent .. => Except String PutIfAbsentResult
  | .delete .. => Except String Bool

abbrev StoreProgram (ς ε α : Type) := Interaction.Throwing (StoreRequest ς) StoreAnswer ε α

abbrev StoreHistory (ς : Type) := List (Interaction.Exchange (@StoreAnswer ς))

section Requests

variable {ς ε : Type} (thrown : String → ε)

def StoreProgram.head (store : ς) (objectId : String) : StoreProgram ς ε (Option ObjectHead) :=
  Interaction.asks (.head store objectId) fun answer : Except String (Option ObjectHead) => answer.mapError thrown

def StoreProgram.putIfAbsent (store : ς) (objectId : String) (source : List Bytes) :
    StoreProgram ς ε PutIfAbsentResult :=
  Interaction.asks (.putIfAbsent store objectId source) fun answer : Except String PutIfAbsentResult =>
    answer.mapError thrown

/-- Reads the stream with `read`. -/
def StoreProgram.get {α : Type} (store : ς) (objectId : String) (read : ByteStream → Except ε α) : StoreProgram ς ε α :=
  Interaction.asks (.get store objectId) fun answer : ByteStream => read answer

end Requests

end Repository
end Evllm
