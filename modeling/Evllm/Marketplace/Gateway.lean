/-
# The marketplace command gateway

`src/marketplace/gateway.ts`: a command is parsed, looked up among those that
have a result, checked against its window, verified, checked against the
policy and executed, and the result is recorded under its id. The lookup and
the recording are three awaits apart. A submission is therefore a call that
may settle at once or stays in flight, awaiting a callback (`Stage`); the
callbacks of the submissions in flight answer in any order (`Event`, `step`).

Every execution that gave a transaction hash is kept in the state
(`executions`), so that a run can be asked how often a command was executed.

Key definitions: `MarketplaceCommand`, `parse`, `start`, `Gateway`, `step`.
-/
import Mathlib
import Evllm.Lib.JsMap
import Evllm.Lib.Run

namespace Evllm
namespace Marketplace

open Lib

inductive CommandKind where
  | createListing
  | withdrawListing
  | submitOffer
  | withdrawOffer
  | rejectOffer
  | expireListing
  | expireOffer
  | selectOffer
  | confirmAgreement
  | fundAgreement
  | recordDispatch
  | recordDelivery
  | acceptDelivery
  | openDispute
  | resolveDispute
  | applyTimeout
  | settle
  | withdrawCredit
  deriving DecidableEq, Repr

/-- The kinds with their texts, in the order of the schema. -/
def commandKinds : List (String × CommandKind) :=
  [("create-listing", .createListing), ("withdraw-listing", .withdrawListing), ("submit-offer", .submitOffer),
    ("withdraw-offer", .withdrawOffer), ("reject-offer", .rejectOffer), ("expire-listing", .expireListing),
    ("expire-offer", .expireOffer), ("select-offer", .selectOffer), ("confirm-agreement", .confirmAgreement),
    ("fund-agreement", .fundAgreement), ("record-dispatch", .recordDispatch), ("record-delivery", .recordDelivery),
    ("accept-delivery", .acceptDelivery), ("open-dispute", .openDispute), ("resolve-dispute", .resolveDispute),
    ("apply-timeout", .applyTimeout), ("settle", .settle), ("withdraw-credit", .withdrawCredit)]

/-- An object with the fields of a command, of the types of its fields. -/
structure CommandInput (Payload : Type) where
  schema : String
  commandId : String
  kind : String
  signerActorId : String
  signerOrganizationId : String
  signerCredentialId : String
  signerAddress : String
  issuedAt : ℤ
  expiresAt : ℤ
  nonce : String
  idempotencyKeyHash : String
  payload : Payload
  signature : String
  deriving DecidableEq

structure MarketplaceCommand (Payload : Type) where
  commandId : String
  kind : CommandKind
  signerActorId : String
  signerOrganizationId : String
  signerCredentialId : String
  signerAddress : String
  issuedAt : ℤ
  expiresAt : ℤ
  nonce : String
  idempotencyKeyHash : String
  payload : Payload
  signature : String
  deriving DecidableEq

structure MarketplaceCommandResult where
  commandId : String
  transactionHash : String
  deriving DecidableEq, Repr

/-- The codes of `MarketplaceGatewayError`, and what a callback or
`canonicalJsonBytes` throws. -/
inductive GatewayError where
  | conflict
  | expired
  | invalid
  | signature
  | unknown
  | thrown
  deriving DecidableEq, Repr

/-! ### The schema -/

/-- The bytes of a text in UTF-8. The patterns of the schema are of ASCII
characters, so they are matched on these. -/
def octets (text : String) : List ℕ := text.toByteArray.data.toList.map UInt8.toNat

/-- `[0-9a-f]`. -/
def isHexDigit (b : ℕ) : Bool := (0x30 ≤ b && b ≤ 0x39) || (0x61 ≤ b && b ≤ 0x66)

/-- `/^0x[0-9a-f]{n}$/`. -/
def isHex (n : ℕ) (text : String) : Bool :=
  match octets text with
  | 0x30 :: 0x78 :: digits => digits.length = n && digits.all isHexDigit
  | _ => false

/-- Groups of hexadecimal digits of the given lengths, with hyphens between
them. -/
def isHexGroups : List ℕ → List ℕ → Bool
  | [], text => text.isEmpty
  | [n], text => text.length = n && text.all isHexDigit
  | n :: ns, text =>
    (text.take n).length = n && (text.take n).all isHexDigit && text[n]? = some 0x2D && isHexGroups ns (text.drop (n + 1))

/-- `urn(kind)`. -/
def isUrn (kind text : String) : Bool :=
  let start := octets ("urn:evllm:" ++ kind ++ ":")
  (octets text).take start.length = start && isHexGroups [8, 4, 4, 4, 12] ((octets text).drop start.length)

/-- `positiveSafeInteger`. -/
def isPositiveSafeInteger (n : ℤ) : Bool := 0 < n ∧ n ≤ 2 ^ 53 - 1

variable {Payload : Type}

/-- `marketplaceCommand.safeParse`. An input that is not an object with exactly
the fields of a command, of their types, is `none`. -/
def parse (input : Option (CommandInput Payload)) : Option (MarketplaceCommand Payload) :=
  match input with
  | none => none
  | some x =>
    match (commandKinds.find? fun entry => entry.1 = x.kind) with
    | none => none
    | some (_, kind) =>
      if x.schema = "EVLLM_MARKETPLACE_COMMAND_V1" ∧ isUrn "command" x.commandId ∧ isUrn "actor" x.signerActorId ∧
          isUrn "org" x.signerOrganizationId ∧ isUrn "credential" x.signerCredentialId ∧
          isHex 40 x.signerAddress ∧ isPositiveSafeInteger x.issuedAt ∧ isPositiveSafeInteger x.expiresAt ∧
          isHex 64 x.nonce ∧ isHex 64 x.idempotencyKeyHash ∧ isHex 130 x.signature ∧ x.issuedAt < x.expiresAt then
        some ⟨x.commandId, kind, x.signerActorId, x.signerOrganizationId, x.signerCredentialId, x.signerAddress,
          x.issuedAt, x.expiresAt, x.nonce, x.idempotencyKeyHash, x.payload, x.signature⟩
      else none

/-! ### Submissions -/

/-- What `#commands` has under an id. -/
structure Recorded where
  fingerprint : String
  result : MarketplaceCommandResult

/-- Where a submission is: awaiting one of the callbacks, or settled. -/
inductive Stage where
  | verifying
  | validating
  | executing
  | settled (outcome : Except GatewayError MarketplaceCommandResult)

def Stage.inFlight : Stage → Bool
  | .settled _ => false
  | _ => true

/-- A call of `submit` for a command that was parsed. -/
structure Submission (Payload : Type) where
  command : MarketplaceCommand Payload
  fingerprint : String
  stage : Stage

/-- An execution whose answer was a transaction hash. -/
structure Execution (Payload : Type) where
  command : MarketplaceCommand Payload
  transactionHash : String
  deriving DecidableEq

structure Gateway (Payload : Type) where
  commands : JsMap String Recorded
  submissions : List (Submission Payload)
  executions : List (Execution Payload)

def Gateway.new : Gateway Payload := ⟨.empty, [], []⟩

/-- How a submission begins: `none` where it is refused before there is a
command with a fingerprint. `fingerprint` is the digest of the command's
canonical JSON, `none` where that throws; `time` is what `now` answers. -/
def start (fingerprint : MarketplaceCommand Payload → Option String) (commands : JsMap String Recorded)
    (command : MarketplaceCommand Payload) (time : ℤ) : Option (Submission Payload) :=
  (fingerprint command).map fun mark =>
    match commands.get command.commandId with
    | some prior =>
      if prior.fingerprint ≠ mark then ⟨command, mark, .settled (.error .conflict)⟩
      else ⟨command, mark, .settled (.ok prior.result)⟩
    | none =>
      if time < command.issuedAt ∨ command.expiresAt ≤ time then ⟨command, mark, .settled (.error .expired)⟩
      else ⟨command, mark, .verifying⟩

/-- What happens to a gateway: a submission begins, or the callback that the
submission `index` awaits answers (`none` where it throws). -/
inductive Event (Payload : Type) where
  | submit (input : Option (CommandInput Payload)) (time : ℤ)
  | verified (index : ℕ) (answer : Option Bool)
  | validated (index : ℕ) (answer : Option Bool)
  | executed (index : ℕ) (answer : Option String)

/-- The stage after a check: its submission goes on, or fails. -/
def Stage.checked (next : Stage) : Option Bool → Stage
  | none => .settled (.error .thrown)
  | some false => .settled (.error .signature)
  | some true => next

namespace Gateway

/-- The submission `index` is now at `stage`. -/
def move (g : Gateway Payload) (index : ℕ) (stage : Stage) : Gateway Payload :=
  { g with submissions := g.submissions.modify index fun s => { s with stage := stage } }

/-- The end of `submit`: the hash is checked, and the result recorded. -/
def finish (g : Gateway Payload) (index : ℕ) (s : Submission Payload) : Option String → Gateway Payload
  | none => g.move index (.settled (.error .thrown))
  | some transactionHash =>
    if isHex 64 transactionHash then
      let result := ⟨s.command.commandId, transactionHash⟩
      let recorded := { g.move index (.settled (.ok result)) with
        commands := g.commands.set s.command.commandId ⟨s.fingerprint, result⟩ }
      { recorded with executions := g.executions ++ [⟨s.command, transactionHash⟩] }
    else g.move index (.settled (.error .invalid))

def result (g : Gateway Payload) (commandId : String) : Except GatewayError MarketplaceCommandResult :=
  match g.commands.get commandId with
  | none => .error .unknown
  | some recorded => .ok recorded.result

end Gateway

def step (fingerprint : MarketplaceCommand Payload → Option String) (g : Gateway Payload) :
    Event Payload → Gateway Payload
  | .submit input time =>
    match (parse input).bind fun command => start fingerprint g.commands command time with
    | none => g
    | some s => { g with submissions := g.submissions ++ [s] }
  | .verified index answer =>
    match g.submissions[index]? with
    | some ⟨_, _, .verifying⟩ => g.move index (Stage.validating.checked answer)
    | _ => g
  | .validated index answer =>
    match g.submissions[index]? with
    | some ⟨_, _, .validating⟩ => g.move index (Stage.executing.checked answer)
    | _ => g
  | .executed index answer =>
    match g.submissions[index]? with
    | some ⟨command, mark, .executing⟩ => g.finish index ⟨command, mark, .executing⟩ answer
    | _ => g

end Marketplace
end Evllm
