/-
# What the contracts share

Words, the call context, the errors a call can revert with, and the parts of
OpenZeppelin the contracts inherit. A contract function is a function of the
storage it reads and writes that returns `Except Revert _`: a revert undoes
every write of the call, so it carries no state.

The hash function and signature recovery are parameters (`Crypto`).
-/
import Mathlib.Data.BitVec
import Mathlib.Logic.Function.Basic
import Evllm.Lib.Except

namespace Evllm
namespace Contracts

open Lib

abbrev Bytes32 := BitVec 256
abbrev Uint256 := BitVec 256
abbrev Uint64 := BitVec 64
abbrev Address := BitVec 160
abbrev Bytes := List UInt8

/-- The sender of a call and the timestamp of its block. -/
structure Msg where
  sender : Address
  timestamp : ℕ

/-- `uint64(block.timestamp)`. -/
def Msg.timestamp64 (msg : Msg) : Uint64 := BitVec.ofNat 64 msg.timestamp

/-- The custom errors of the contracts (an error is known by its name, so the
contracts share those they name alike), those of the OpenZeppelin base
contracts, and the arithmetic panic. -/
inductive Revert where
  | alreadyAnchored
  | alreadyBound
  | alreadyDecisionCritical
  | alreadyRegistered
  | attestationReplay
  | bootstrapUnavailable
  | deadlineNotReached
  | expired
  | inactiveControllerOrganization
  | inactiveModule
  | invalidAttestation
  | invalidBoundary
  | invalidCommitment
  | invalidHierarchy
  | invalidIdentifier
  | invalidModule
  | invalidPayment
  | invalidPredecessor
  | invalidPriorVersion
  | invalidProposalState
  | invalidProtectedBundleLink
  | invalidReplicaReceipt
  | invalidState
  | invalidTimeRange
  | invalidVersion
  | lockedByAnotherMarketplace
  | notAggregateOrigin
  | notAuthorizedMarketplace
  | notController
  | notRegistrar
  | originAlreadyBound
  | proposalExpired
  | receiptReplay
  | replicaReceiptRequired
  | reviewDelayNotElapsed
  | selfVerification
  | terminalOrganization
  | unauthorized
  | unknownBattery
  | unknownBundle
  | ecdsaInvalidSignature
  | ecdsaInvalidSignatureLength
  | ecdsaInvalidSignatureS
  | ownableInvalidOwner
  | ownableUnauthorizedAccount
  | panicOverflow
  | reentrancyGuardReentrantCall
  deriving DecidableEq, Repr

/-- Checked addition. -/
def checkedAdd {w : ℕ} (x y : BitVec w) : Except Revert (BitVec w) :=
  if x.toNat + y.toNat < 2 ^ w then .ok (x + y) else .error .panicOverflow

theorem checkedAdd_eq_ok {w : ℕ} {x y z : BitVec w} (h : checkedAdd x y = .ok z) :
    z.toNat = x.toNat + y.toNat := by
  unfold checkedAdd at h
  split_ifs at h with hlt
  rw [← Except.ok.inj h, BitVec.toNat_add, Nat.mod_eq_of_lt hlt]

/-- `keccak256`, and the `ecrecover` precompile (zero where it fails). -/
structure Crypto where
  keccak256 : Bytes → Bytes32
  ecrecover : Bytes32 → BitVec 8 → Bytes32 → Bytes32 → Address

def utf8 (s : String) : Bytes := s.toUTF8.toList

def Crypto.hashText (crypto : Crypto) (s : String) : Bytes32 := crypto.keccak256 (utf8 s)

/-- The big-endian bytes of a number, `n` of them. -/
def bytesOfNat : ℕ → ℕ → Bytes
  | 0, _ => []
  | n + 1, x => bytesOfNat n (x / 256) ++ [UInt8.ofNat (x % 256)]

/-- The 32 bytes of a word. -/
def wordBytes (w : Bytes32) : Bytes := bytesOfNat 32 w.toNat

/-- `abi.encode` of static values, each already a word. -/
def abiEncode (words : List Bytes32) : Bytes := words.flatMap wordBytes

/-- The literal `bytes32("...")`: the characters, filled up with zeros. -/
def bytes32Literal (s : String) : Bytes32 :=
  BitVec.ofNat 256 (s.toList.foldl (fun n c => n * 256 + c.toNat) 0 * 256 ^ (32 - s.length))

/-- The number whose big-endian bytes are given. -/
def natOfBytes (bytes : Bytes) : ℕ := bytes.foldl (fun n b => n * 256 + b.toNat) 0

/-- Half the order of secp256k1, the largest `s` of a signature. -/
def secp256k1HalfN : ℕ := 0x7fffffffffffffffffffffffffffffff5d576e7357a4501ddfe92f46681b20a0

/-- OpenZeppelin's `ECDSA.recover`: a signature is the 65 bytes `r`, `s`, `v`. -/
def ecdsaRecover (crypto : Crypto) (hash : Bytes32) (signature : Bytes) : Except Revert Address := do
  throwIf (signature.length ≠ 65) .ecdsaInvalidSignatureLength
  let r := BitVec.ofNat 256 (natOfBytes (signature.take 32))
  let s := BitVec.ofNat 256 (natOfBytes ((signature.drop 32).take 32))
  let v := BitVec.ofNat 8 (natOfBytes (signature.drop 64))
  throwIf (secp256k1HalfN < s.toNat) .ecdsaInvalidSignatureS
  let signer := crypto.ecrecover hash v r s
  throwIf (signer = 0) .ecdsaInvalidSignature
  return signer

/-! ### `Ownable` -/

def onlyOwner (owner : Address) (msg : Msg) : Except Revert Unit :=
  throwIf (msg.sender ≠ owner) .ownableUnauthorizedAccount

/-- The owner after `transferOwnership`. -/
def transferOwnership (owner : Address) (msg : Msg) (newOwner : Address) : Except Revert Address := do
  onlyOwner owner msg
  throwIf (newOwner = 0) .ownableInvalidOwner
  return newOwner

/-- The owner after `renounceOwnership`. -/
def renounceOwnership (owner : Address) (msg : Msg) : Except Revert Address := do
  onlyOwner owner msg
  return 0

end Contracts
end Evllm
