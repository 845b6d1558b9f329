/-
# Schemas of protected content

`src/schemas/crypto.ts`: the package that is encrypted, the data that is authenticated
with it, and the envelope. Each is read from a strict object, and reading what is
written down, whatever the order of the members, gives the same record.

Key definitions: `ProtectedPackage`, `ProtectedContentAad`, `ContentJwe`.
Key theorems: `ProtectedPackage.parse_sorted`, `ProtectedContentAad.parse_sorted`,
`ContentJwe.parse_sorted`.
-/
import Evllm.Schemas.Common

namespace Evllm
namespace Schemas

open Lib

/-! ### The package -/

structure ProtectedPackage where
  contentMediaType : Checked mediaType
  contentBytes : Checked base64Url
  contentCommitmentSalt : Checked base64Url32
  domainPayloadBytes : Checked base64Url
  domainPayloadCommitmentSalt : Checked base64Url32
  deriving DecidableEq

namespace ProtectedPackage

def members (contentMediaType contentBytes contentCommitmentSalt domainPayloadBytes domainPayloadCommitmentSalt : String) :
    List (String × Json) :=
  [("schema", .string "EVLLM_PROTECTED_PACKAGE_V1"), ("content_media_type", .string contentMediaType),
    ("content_bytes", .string contentBytes), ("content_commitment_salt", .string contentCommitmentSalt),
    ("domain_payload_bytes", .string domainPayloadBytes),
    ("domain_payload_commitment_salt", .string domainPayloadCommitmentSalt)]

def names : List String :=
  ["schema", "content_media_type", "content_bytes", "content_commitment_salt", "domain_payload_bytes",
    "domain_payload_commitment_salt"]

def parse (value : Json) : Option ProtectedPackage := do
  strict names value
  member "schema" (literal "EVLLM_PROTECTED_PACKAGE_V1") value
  let contentMediaType ← member "content_media_type" (checked mediaType) value
  let contentBytes ← member "content_bytes" (checked base64Url) value
  let contentCommitmentSalt ← member "content_commitment_salt" (checked base64Url32) value
  let domainPayloadBytes ← member "domain_payload_bytes" (checked base64Url) value
  let domainPayloadCommitmentSalt ← member "domain_payload_commitment_salt" (checked base64Url32) value
  return ⟨contentMediaType, contentBytes, contentCommitmentSalt, domainPayloadBytes, domainPayloadCommitmentSalt⟩

def toJson (p : ProtectedPackage) : Json :=
  .object (members p.contentMediaType.1 p.contentBytes.1 p.contentCommitmentSalt.1 p.domainPayloadBytes.1
    p.domainPayloadCommitmentSalt.1)

theorem distinct_members (a b c d e : String) : Json.Distinct (members a b c d e) := by simp [Json.Distinct, members]

theorem parse_sorted (p : ProtectedPackage) : parse p.toJson.sorted = some p := by
  simp only [parse, toJson, strict, Json.hasOnly_sorted, member_sorted (distinct_members _ _ _ _ _)]
  simp [members, names, Entries.lookup]

theorem parse_toJson (p : ProtectedPackage) : parse p.toJson = some p := by
  simp only [parse, toJson, strict, Json.hasOnly, member, Json.field]
  simp [members, names, Entries.lookup]

/-- What is read from the members is what was written in them. -/
theorem fields_of_parse {a b c d e : String} {p : ProtectedPackage} (h : parse (.object (members a b c d e)) = some p) :
    p.contentMediaType.1 = a ∧ p.contentBytes.1 = b ∧ p.contentCommitmentSalt.1 = c ∧ p.domainPayloadBytes.1 = d ∧
      p.domainPayloadCommitmentSalt.1 = e := by
  simp [parse, strict, Json.hasOnly, names, member, Json.field, members, Entries.lookup, Option.bind_eq_some_iff, -Subtype.exists] at h
  obtain ⟨_, ha, _, hb, _, hc, _, hd, _, he, rfl⟩ := h
  exact ⟨checked_eq_some ha, checked_eq_some hb, checked_eq_some hc, checked_eq_some hd, checked_eq_some he⟩

end ProtectedPackage

/-! ### The authenticated data -/

inductive BundleType where
  | evidence
  | verification
  | assessment
  | assistantSupport
  | listing
  | agreement
  | dispute
  | logistics
  | audit
  | authoritativeSource
  deriving DecidableEq, Repr

namespace BundleType

def text : BundleType → String
  | evidence => "evidence"
  | verification => "verification"
  | assessment => "assessment"
  | assistantSupport => "assistant-support"
  | listing => "listing"
  | agreement => "agreement"
  | dispute => "dispute"
  | logistics => "logistics"
  | audit => "audit"
  | authoritativeSource => "authoritative-source"

def all : List BundleType :=
  [evidence, verification, assessment, assistantSupport, listing, agreement, dispute, logistics, audit, authoritativeSource]

/-- `domainKindByBundleType`. -/
def domainKind : BundleType → IdentifierKind
  | evidence => .evidence
  | verification => .verification
  | assessment => .assessment
  | assistantSupport => .assistant
  | listing => .listing
  | agreement => .agreement
  | dispute => .dispute
  | logistics => .delivery
  | audit => .audit
  | authoritativeSource => .source

def parse : Json → Option BundleType
  | .string text' => all.find? fun bundleType => bundleType.text = text'
  | _ => none

theorem parse_text (bundleType : BundleType) : parse (.string bundleType.text) = some bundleType := by
  cases bundleType <;> decide +kernel

end BundleType

inductive CriticalityClass where
  | decisionCritical
  | supplementary
  deriving DecidableEq, Repr

namespace CriticalityClass

def text : CriticalityClass → String
  | decisionCritical => "decision-critical"
  | supplementary => "supplementary"

def parse : Json → Option CriticalityClass
  | .string text' => [decisionCritical, supplementary].find? fun criticality => criticality.text = text'
  | _ => none

theorem parse_text (criticality : CriticalityClass) : parse (.string criticality.text) = some criticality := by
  cases criticality <;> decide +kernel

end CriticalityClass

/-- The kind of the domain resource is that of the bundle's type. -/
structure ProtectedContentAad where
  bundleId : Urn .bundle
  bundleVersion : PositiveSafeInteger
  domainResourceVersion : PositiveSafeInteger
  domainPayloadCommitment : Digest
  custodyControllerOrgId : Urn .org
  primaryRepositoryId : Urn .repository
  contentSchemaId : Urn .schema
  contentSchemaVersion : Checked semver
  initialCriticalityClass : CriticalityClass
  criticalityProfileId : Urn .profile
  criticalityProfileVersion : PositiveSafeInteger
  bundleType : BundleType
  domainResourceId : Urn bundleType.domainKind

namespace ProtectedContentAad

def names : List String :=
  ["schema", "bundle_id", "bundle_version", "domain_resource_version", "domain_payload_commitment",
    "custody_controller_org_id", "primary_repository_id", "content_schema_id", "content_schema_version", "access_class",
    "initial_criticality_class", "criticality_profile_id", "criticality_profile_version", "bundle_type",
    "domain_resource_id"]

def parse (value : Json) : Option ProtectedContentAad := do
  let bundleType ← member "bundle_type" BundleType.parse value
  strict names value
  member "schema" (literal "EVLLM_PROTECTED_CONTENT_AAD_V1") value
  let bundleId ← member "bundle_id" (checked (urn .bundle)) value
  let bundleVersion ← member "bundle_version" positiveSafeInteger value
  let domainResourceVersion ← member "domain_resource_version" positiveSafeInteger value
  let domainPayloadCommitment ← member "domain_payload_commitment" Digest.parse value
  let custodyControllerOrgId ← member "custody_controller_org_id" (checked (urn .org)) value
  let primaryRepositoryId ← member "primary_repository_id" (checked (urn .repository)) value
  let contentSchemaId ← member "content_schema_id" (checked (urn .schema)) value
  let contentSchemaVersion ← member "content_schema_version" (checked semver) value
  member "access_class" (literal "restricted") value
  let initialCriticalityClass ← member "initial_criticality_class" CriticalityClass.parse value
  let criticalityProfileId ← member "criticality_profile_id" (checked (urn .profile)) value
  let criticalityProfileVersion ← member "criticality_profile_version" positiveSafeInteger value
  let domainResourceId ← member "domain_resource_id" (checked (urn bundleType.domainKind)) value
  return ⟨bundleId, bundleVersion, domainResourceVersion, domainPayloadCommitment, custodyControllerOrgId,
    primaryRepositoryId, contentSchemaId, contentSchemaVersion, initialCriticalityClass, criticalityProfileId,
    criticalityProfileVersion, bundleType, domainResourceId⟩

def members (a : ProtectedContentAad) : List (String × Json) :=
  [("schema", .string "EVLLM_PROTECTED_CONTENT_AAD_V1"), ("bundle_id", .string a.bundleId.1),
    ("bundle_version", .number (a.bundleVersion.1 : ℤ)),
    ("domain_resource_version", .number (a.domainResourceVersion.1 : ℤ)),
    ("domain_payload_commitment", a.domainPayloadCommitment.toJson),
    ("custody_controller_org_id", .string a.custodyControllerOrgId.1),
    ("primary_repository_id", .string a.primaryRepositoryId.1), ("content_schema_id", .string a.contentSchemaId.1),
    ("content_schema_version", .string a.contentSchemaVersion.1), ("access_class", .string "restricted"),
    ("initial_criticality_class", .string a.initialCriticalityClass.text),
    ("criticality_profile_id", .string a.criticalityProfileId.1),
    ("criticality_profile_version", .number (a.criticalityProfileVersion.1 : ℤ)),
    ("bundle_type", .string a.bundleType.text), ("domain_resource_id", .string a.domainResourceId.1)]

def toJson (a : ProtectedContentAad) : Json := .object a.members

theorem distinct_members (a : ProtectedContentAad) : Json.Distinct a.members := by simp [Json.Distinct, members]

theorem parse_sorted (a : ProtectedContentAad) : parse a.toJson.sorted = some a := by
  simp only [parse, toJson, strict, Json.hasOnly_sorted, member_sorted a.distinct_members]
  simp [members, names, Entries.lookup, positiveSafeInteger_number, Digest.parse_sorted, BundleType.parse_text,
    CriticalityClass.parse_text]

theorem parse_commitment {value : Json} {a : ProtectedContentAad} (h : parse value = some a) :
    member "domain_payload_commitment" Digest.parse value = some a.domainPayloadCommitment := by
  -- the members before it, and those after
  iterate 6 obtain ⟨_, -, h⟩ := Option.bind_eq_some_iff.mp h
  obtain ⟨commitment, hcommitment, h⟩ := Option.bind_eq_some_iff.mp h
  iterate 9 obtain ⟨_, -, h⟩ := Option.bind_eq_some_iff.mp h
  rw [hcommitment, ← Option.some.inj h]

/-- Different data are written differently. -/
theorem eq_of_sorted {a b : ProtectedContentAad} (h : a.toJson.sorted = b.toJson.sorted) : a = b := by
  have hparse := congrArg parse h
  rwa [parse_sorted, parse_sorted, Option.some.injEq] at hparse

end ProtectedContentAad

/-! ### The envelope -/

/-- The flattened JSON serialization. -/
structure ContentJwe where
  protectedHeader : Checked base64Url
  aad : Checked base64Url
  iv : Checked (base64UrlChars 16)
  ciphertext : Checked base64Url
  tag : Checked (base64UrlChars 22)
  deriving DecidableEq

namespace ContentJwe

def members (protectedHeader aad iv ciphertext tag : String) : List (String × Json) :=
  [("protected", .string protectedHeader), ("aad", .string aad), ("iv", .string iv), ("ciphertext", .string ciphertext),
    ("tag", .string tag)]

def parse (value : Json) : Option ContentJwe := do
  strict ["protected", "aad", "iv", "ciphertext", "tag"] value
  let protectedHeader ← member "protected" (checked base64Url) value
  let aad ← member "aad" (checked base64Url) value
  let iv ← member "iv" (checked (base64UrlChars 16)) value
  let ciphertext ← member "ciphertext" (checked base64Url) value
  let tag ← member "tag" (checked (base64UrlChars 22)) value
  return ⟨protectedHeader, aad, iv, ciphertext, tag⟩

def toJson (e : ContentJwe) : Json := .object (members e.protectedHeader.1 e.aad.1 e.iv.1 e.ciphertext.1 e.tag.1)

theorem distinct_members (a b c d e : String) : Json.Distinct (members a b c d e) := by simp [Json.Distinct, members]

theorem parse_sorted (e : ContentJwe) : parse e.toJson.sorted = some e := by
  simp only [parse, toJson, strict, Json.hasOnly_sorted, member_sorted (distinct_members _ _ _ _ _)]
  simp [members, Entries.lookup]

theorem parse_toJson (e : ContentJwe) : parse e.toJson = some e := by
  simp only [parse, toJson, strict, Json.hasOnly, member, Json.field]
  simp [members, Entries.lookup]

theorem fields_of_parse {a b c d e : String} {envelope : ContentJwe} (h : parse (.object (members a b c d e)) = some envelope) :
    envelope.protectedHeader.1 = a ∧ envelope.aad.1 = b ∧ envelope.iv.1 = c ∧ envelope.ciphertext.1 = d ∧
      envelope.tag.1 = e := by
  simp [parse, strict, Json.hasOnly, member, Json.field, members, Entries.lookup, Option.bind_eq_some_iff, -Subtype.exists] at h
  obtain ⟨_, ha, _, hb, _, hc, _, hd, _, he, rfl⟩ := h
  exact ⟨checked_eq_some ha, checked_eq_some hb, checked_eq_some hc, checked_eq_some hd, checked_eq_some he⟩

end ContentJwe

end Schemas
end Evllm
