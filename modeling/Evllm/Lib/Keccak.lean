/-
# Keccak-256

The hash function of Ethereum, executable: a sponge over a state of 25 lanes of
64 bits that absorbs blocks of 136 bytes and is squeezed once. A message is
padded by a bit at either end of what its last block leaves free.

Key definitions: `Keccak.permute`, `Keccak.keccak256`.
-/
import Mathlib

namespace Lib
namespace Keccak

/-! ### The permutation -/

/-- The lane at `x` and `y`; `x` counts around. -/
def lane (state : List ℕ) (x y : ℕ) : ℕ := state.getD (x % 5 + 5 * y) 0

/-- The state with the lanes `f x y`. -/
def lanes (f : ℕ → ℕ → ℕ) : List ℕ := (List.range 25).map fun i => f (i % 5) (i / 5)

def laneMask : ℕ := 2 ^ 64 - 1

def rotate (x n : ℕ) : ℕ := ((x <<< n) ||| (x >>> (64 - n))) &&& laneMask

/-- How far each lane is rotated. -/
def offsets : List ℕ :=
  [0, 1, 62, 28, 27, 36, 44, 6, 55, 20, 3, 10, 43, 25, 39, 41, 45, 15, 21, 8, 18, 2, 61, 56, 14]

def roundConstants : List ℕ :=
  [0x0000000000000001, 0x0000000000008082, 0x800000000000808a, 0x8000000080008000, 0x000000000000808b,
    0x0000000080000001, 0x8000000080008081, 0x8000000000008009, 0x000000000000008a, 0x0000000000000088,
    0x0000000080008009, 0x000000008000000a, 0x000000008000808b, 0x800000000000008b, 0x8000000000008089,
    0x8000000000008003, 0x8000000000008002, 0x8000000000000080, 0x000000000000800a, 0x800000008000000a,
    0x8000000080008081, 0x8000000000008080, 0x0000000080000001, 0x8000000080008008]

/-- The parity of each column. -/
def parities (state : List ℕ) : List ℕ :=
  (List.range 5).map fun x =>
    lane state x 0 ^^^ lane state x 1 ^^^ lane state x 2 ^^^ lane state x 3 ^^^ lane state x 4

/-- The parities of two columns are added to each lane. -/
def theta (state : List ℕ) : List ℕ :=
  let c := parities state
  lanes fun x y => lane state x y ^^^ lane c (x + 4) 0 ^^^ rotate (lane c (x + 1) 0) 1

/-- The lanes are rotated and change their places. -/
def rhoPi (state : List ℕ) : List ℕ :=
  lanes fun x y => rotate (lane state (x + 3 * y) x) (lane offsets (x + 3 * y) x)

/-- The rows are combined, bit by bit. -/
def chi (state : List ℕ) : List ℕ :=
  lanes fun x y => lane state x y ^^^ ((lane state (x + 1) y ^^^ laneMask) &&& lane state (x + 2) y)

def round (state : List ℕ) (constant : ℕ) : List ℕ := (chi (rhoPi (theta state))).modifyHead (· ^^^ constant)

def permute (state : List ℕ) : List ℕ := roundConstants.foldl round state

/-! ### The sponge -/

/-- The number whose little-endian bytes are given. -/
def laneOfBytes (bytes : List UInt8) : ℕ := bytes.foldr (fun b n => b.toNat + 256 * n) 0

/-- The little-endian bytes of a lane, read as a big-endian number. -/
def reverseBytes : ℕ → ℕ → ℕ
  | 0, _ => 0
  | n + 1, x => x % 256 * 256 ^ n + reverseBytes n (x / 256)

def absorb (state : List ℕ) (block : List UInt8) : List ℕ :=
  permute ((List.range 25).map fun i => state.getD i 0 ^^^ laneOfBytes ((block.drop (8 * i)).take 8))

/-- The message filled up to whole blocks. -/
def pad (bytes : List UInt8) : List UInt8 :=
  let free := 136 - bytes.length % 136
  if free = 1 then bytes ++ [0x81] else bytes ++ [0x01] ++ List.replicate (free - 2) 0 ++ [0x80]

/-- The first `n` blocks. -/
def blocks : ℕ → List UInt8 → List (List UInt8)
  | 0, _ => []
  | n + 1, bytes => bytes.take 136 :: blocks n (bytes.drop 136)

/-- The hash, as the number that its 32 bytes write. -/
def keccak256 (bytes : List UInt8) : ℕ :=
  let state := (blocks (bytes.length / 136 + 1) (pad bytes)).foldl absorb (List.replicate 25 0)
  (List.range 4).foldl (fun n i => n * 2 ^ 64 + reverseBytes 8 (state.getD i 0)) 0

end Keccak
end Lib
