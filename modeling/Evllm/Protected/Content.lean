/-
# Protected content

`src/protected-bundles/crypto/content.ts`: content and a domain payload are packed with
salts, encrypted under fresh data and put in an envelope; opening takes the envelope
apart and checks its form, its header, its authenticated data and both commitments. What
encrypts (`jose`) and the hash are parameters.

What was protected opens to what it was (`open_of_protect`). Whatever opens is bound to
what was expected, and its values are the only ones with those commitments, except that
the envelope is exact canonical JSON just if no byte order mark stands in front of it
(`protected_content_bound`): a mark is not seen (`marked_opens`).

Key definitions: `Jose`, `commitment`, `protectContent`, `openProtectedContent`, `Bound`.
Key theorems: `commitment_injective`, `open_of_protect`, `protected_content_bound`.
-/
import Evllm.Protected.Canonical
import Evllm.Schemas.Crypto
import Mathlib.Logic.Equiv.Basic

namespace Evllm
namespace Protected

open Lib Base64 Schemas

/-! ### The parts that are not the program's own -/

/-- What `FlattenedEncrypt` returns. -/
structure FlattenedJwe where
  protectedHeader : String
  aad : String
  iv : String
  ciphertext : String
  tag : String
  deriving DecidableEq, Repr

/-- What `flattenedDecrypt` is given. -/
def flattened (envelope : ContentJwe) : FlattenedJwe :=
  ⟨envelope.protectedHeader.1, envelope.aad.1, envelope.iv.1, envelope.ciphertext.1, envelope.tag.1⟩

structure Jose where
  encrypt : (plaintext : Bytes) → (header : Json) → (aad iv dek : Bytes) → Option FlattenedJwe
  decrypt : ContentJwe → (dek : Bytes) → Option Bytes

def protectedContentHeaderMembers : List (String × Json) :=
  [("alg", .string "dir"), ("cty", .string "application/vnd.evllm.protected-package+json"), ("enc", .string "A256GCM"),
    ("typ", .string "application/vnd.evllm.protected-content+jwe")]

def protectedContentHeader : Json := .object protectedContentHeaderMembers

/-- `JSON.stringify(protectedContentHeader)`. -/
def protectedContentHeaderText : String :=
  "\x7b\"alg\":\"dir\",\"cty\":\"application/vnd.evllm.protected-package+json\",\"enc\":\"A256GCM\",\"typ\":\"application/vnd.evllm.protected-content+jwe\"\x7d"

/-- The envelope's header and data are those that were set, and it decrypts to what was
encrypted. -/
structure Jose.Correct (J : Jose) : Prop where
  header : ∀ {plaintext aad iv dek : Bytes} {encrypted : FlattenedJwe},
    J.encrypt plaintext protectedContentHeader aad iv dek = some encrypted →
      encrypted.protectedHeader = toBase64Url (encodeUtf8 protectedContentHeaderText)
  aad : ∀ {plaintext aad iv dek : Bytes} {encrypted : FlattenedJwe},
    J.encrypt plaintext protectedContentHeader aad iv dek = some encrypted → encrypted.aad = toBase64Url aad
  decrypts : ∀ {plaintext aad iv dek : Bytes} {encrypted : FlattenedJwe} {envelope : ContentJwe},
    J.encrypt plaintext protectedContentHeader aad iv dek = some encrypted →
      flattened envelope = encrypted → J.decrypt envelope dek = some plaintext

/-! ### Operations -/

def contentCommitmentDomain : Bytes := encodeUtf8 "EVLLM_PROTECTED_CONTENT_COMMITMENT_V1"

def domainCommitmentDomain : Bytes := encodeUtf8 "EVLLM_DOMAIN_PAYLOAD_COMMITMENT_V1"

/-- `writeBigUInt64BE`. -/
def lengthBytes (length : ℕ) : Bytes := (List.range 8).map fun i => UInt8.ofNat (length / 256 ^ (7 - i))

def digestOf (hash : Bytes) : Except Failure Digest :=
  required .schema (Digest.parse (.object [("alg", .string "SHA-256"), ("value", .string (toBase64Url hash))]))

/-- What the random source returns, call after call. -/
structure Randomness where
  dek : Bytes
  iv : Bytes
  contentSalt : Bytes
  domainSalt : Bytes

def exactRandom (value : Bytes) (length : ℕ) : Except Failure Bytes := do
  throwIf (value.length ≠ length) (.type "Random source returned an invalid length")
  return value

structure ProtectContentInput where
  aad : List (String × Json)
  content : Bytes
  contentMediaType : String
  domainPayload : Bytes
  randomness : Randomness

structure ProtectedContentResult where
  aad : ProtectedContentAad
  contentCommitment : Digest
  contentEnvelopeDigest : Digest
  dek : Bytes
  domainPayloadCommitment : Digest
  envelopeBytes : Bytes
  packageBytes : Bytes

structure OpenedContent where
  content : Bytes
  domainPayload : Bytes
  deriving DecidableEq, Repr

section Operations

variable (C : JsonCodec) (J : Jose) (sha256 : Bytes → Bytes)

/-- The domain, a zero, the salt, the length and the value. -/
def preimage (domain salt value : Bytes) : Bytes := domain ++ 0 :: (salt ++ (lengthBytes value.length ++ value))

def commitment (domain salt value : Bytes) : Except Failure Digest := do
  throwIf (¬value.length < 2 ^ 64) .range
  digestOf (sha256 (preimage domain salt value))

def assertCanonicalDomainPayload (value : Bytes) : Except Failure Unit := do
  let _ ← C.parseExactCanonicalJson value
  return ()

def protectContent (input : ProtectContentInput) : Except Failure ProtectedContentResult := do
  assertCanonicalDomainPayload C input.domainPayload
  let dek ← exactRandom input.randomness.dek 32
  let iv ← exactRandom input.randomness.iv 12
  let contentSalt ← exactRandom input.randomness.contentSalt 32
  let domainSalt ← exactRandom input.randomness.domainSalt 32
  let contentCommitment ← commitment sha256 contentCommitmentDomain contentSalt input.content
  let domainPayloadCommitment ← commitment sha256 domainCommitmentDomain domainSalt input.domainPayload
  let aad ← required .schema (ProtectedContentAad.parse
    (.object (Entries.assign "domain_payload_commitment" domainPayloadCommitment.toJson input.aad)))
  let packageObject ← required .schema (ProtectedPackage.parse (.object (ProtectedPackage.members input.contentMediaType
    (toBase64Url input.content) (toBase64Url contentSalt) (toBase64Url input.domainPayload) (toBase64Url domainSalt))))
  let packageBytes ← C.canonicalJsonBytes packageObject.toJson
  let aadBytes ← C.canonicalJsonBytes aad.toJson
  let encrypted ← required .cipher (J.encrypt packageBytes protectedContentHeader aadBytes iv dek)
  let envelope ← required .schema (ContentJwe.parse (.object (ContentJwe.members encrypted.protectedHeader encrypted.aad
    encrypted.iv encrypted.ciphertext encrypted.tag)))
  let envelopeBytes ← C.canonicalJsonBytes envelope.toJson
  let contentEnvelopeDigest ← digestOf (sha256 envelopeBytes)
  return ⟨aad, contentCommitment, contentEnvelopeDigest, dek, domainPayloadCommitment, envelopeBytes, packageBytes⟩

/-- The envelope's form, its header and its authenticated data. -/
def readEnvelope (envelopeBytes : Bytes) (expectedAad : ProtectedContentAad) :
    Except Failure (ContentJwe × ProtectedContentAad) := do
  let envelope ← required .schema (ContentJwe.parse (← C.parseExactCanonicalJson envelopeBytes))
  let header ← C.parseExactCanonicalJson (ofBase64 envelope.protectedHeader.1)
  let headerBytes ← C.canonicalJsonBytes header
  let fixedBytes ← C.canonicalJsonBytes protectedContentHeader
  throwIf (headerBytes ≠ fixedBytes) (.type "Protected content header does not match the fixed profile")
  let aad ← required .schema (ProtectedContentAad.parse (← C.parseExactCanonicalJson (ofBase64 envelope.aad.1)))
  let aadBytes ← C.canonicalJsonBytes aad.toJson
  let expectedBytes ← C.canonicalJsonBytes expectedAad.toJson
  throwIf (aadBytes ≠ expectedBytes) (.type "Protected content AAD does not match the expected context")
  return (envelope, aad)

/-- The package's form and its commitments. -/
def readPackage (plaintext : Bytes) (aad : ProtectedContentAad) (expectedContentCommitment : Digest) :
    Except Failure OpenedContent := do
  let packageObject ← required .schema (ProtectedPackage.parse (← C.parseExactCanonicalJson plaintext))
  let content := ofBase64 packageObject.contentBytes.1
  let domainPayload := ofBase64 packageObject.domainPayloadBytes.1
  assertCanonicalDomainPayload C domainPayload
  let contentCommitment ← commitment sha256 contentCommitmentDomain (ofBase64 packageObject.contentCommitmentSalt.1) content
  let domainCommitment ←
    commitment sha256 domainCommitmentDomain (ofBase64 packageObject.domainPayloadCommitmentSalt.1) domainPayload
  throwIf (domainCommitment.value ≠ aad.domainPayloadCommitment.value ∨
    contentCommitment.alg ≠ expectedContentCommitment.alg ∨ contentCommitment.value ≠ expectedContentCommitment.value)
    (.type "Protected package commitment mismatch")
  return ⟨content, domainPayload⟩

def openProtectedContent (envelopeBytes dek : Bytes) (expectedAad : ProtectedContentAad)
    (expectedContentCommitment : Digest) : Except Failure OpenedContent := do
  throwIf (dek.length ≠ 32) (.type "A256GCM requires a 32-byte DEK")
  let (envelope, aad) ← readEnvelope C envelopeBytes expectedAad
  let plaintext ← required .cipher (J.decrypt envelope dek)
  readPackage C sha256 plaintext aad expectedContentCommitment

end Operations

/-! ### Commitments -/

theorem lengthBytes_length (n : ℕ) : (lengthBytes n).length = 8 := by rw [lengthBytes, List.length_map, List.length_range]

/-- Salts of one length, and lengths of eight bytes, leave no two ways to read a preimage. -/
theorem preimage_injective {domain salt salt' value value' : Bytes} (hlength : salt.length = salt'.length)
    (h : preimage domain salt value = preimage domain salt' value') : salt = salt' ∧ value = value' := by
  rw [preimage, preimage, List.append_cancel_left_eq, List.cons_inj_right] at h
  obtain ⟨hsalt, hrest⟩ := List.append_inj h hlength
  have hlengths : (lengthBytes value.length).length = (lengthBytes value'.length).length := by
    rw [lengthBytes_length, lengthBytes_length]
  exact ⟨hsalt, (List.append_inj hrest hlengths).2⟩

theorem digestOf_injective {hash hash' : Bytes} {d : Digest} (h : digestOf hash = .ok d) (h' : digestOf hash' = .ok d) :
    hash = hash' := by
  have hvalue := Digest.parse_value (required_eq_ok.mp h)
  have hvalue' := Digest.parse_value (required_eq_ok.mp h')
  have htext : toBase64Url hash = toBase64Url hash' := hvalue.symm.trans hvalue'
  rw [← ofBase64_toBase64Url hash, htext, ofBase64_toBase64Url]

theorem commitment_injective {sha256 : Bytes → Bytes} (hsha : Function.Injective sha256)
    {domain salt salt' value value' : Bytes} {d : Digest} (hlength : salt.length = salt'.length)
    (h : commitment sha256 domain salt value = .ok d) (h' : commitment sha256 domain salt' value' = .ok d) :
    salt = salt' ∧ value = value' := by
  obtain ⟨_, -, hdigest⟩ := bind_eq_ok.mp h
  obtain ⟨_, -, hdigest'⟩ := bind_eq_ok.mp h'
  exact preimage_injective hlength (hsha (digestOf_injective hdigest hdigest'))

/-! ### What was protected opens -/

section RoundTrip

variable {C : JsonCodec} {J : Jose} {sha256 : Bytes → Bytes}

/-- The fixed header has its members in order. -/
theorem sorted_protectedContentHeader : protectedContentHeader.sorted = protectedContentHeader := by
  rw [protectedContentHeader, protectedContentHeaderMembers, Json.sorted_object]
  rfl

/-- An envelope with the fixed header, over data that are written canonically, is read
as such. -/
theorem readEnvelope_of_canonical (hC : C.Rfc8785) {envelope : ContentJwe} {aad : ProtectedContentAad}
    {headerBytes aadBytes bytes : Bytes} (hbytes : C.parseExactCanonicalJson bytes = .ok envelope.toJson.sorted)
    (hheader : C.canonicalJsonBytes protectedContentHeader = .ok headerBytes)
    (hprotected : ofBase64 envelope.protectedHeader.1 = headerBytes)
    (haad : C.canonicalJsonBytes aad.toJson = .ok aadBytes) (haadText : ofBase64 envelope.aad.1 = aadBytes) :
    readEnvelope C bytes aad = .ok (envelope, aad) := by
  have hheaderRead := JsonCodec.parse_canonicalJsonBytes hC hheader
  have haadRead := JsonCodec.parse_canonicalJsonBytes hC haad
  rw [sorted_protectedContentHeader] at hheaderRead
  subst hprotected haadText
  simp only [readEnvelope, bind_eq_ok, pure_eq_ok, required_eq_ok, throwIf_eq_ok]
  exact ⟨_, hbytes, envelope, ContentJwe.parse_sorted envelope, _, hheaderRead, _, hheader, _, hheader, ⟨⟩, fun h => h rfl,
    _, haadRead, aad, ProtectedContentAad.parse_sorted aad, _, haad, _, haad, ⟨⟩, fun h => h rfl, rfl⟩

/-- A package of content and payload, under salts that give the commitments. -/
theorem readPackage_of_canonical (hC : C.Rfc8785) {p : ProtectedPackage} {plaintext content domainPayload : Bytes}
    {aad : ProtectedContentAad} {contentCommitment : Digest} (hplaintext : C.canonicalJsonBytes p.toJson = .ok plaintext)
    (hcontent : ofBase64 p.contentBytes.1 = content) (hpayload : ofBase64 p.domainPayloadBytes.1 = domainPayload)
    (hcanonical : assertCanonicalDomainPayload C domainPayload = .ok ())
    (hcontentCommitment :
      commitment sha256 contentCommitmentDomain (ofBase64 p.contentCommitmentSalt.1) content = .ok contentCommitment)
    (hdomainCommitment : commitment sha256 domainCommitmentDomain (ofBase64 p.domainPayloadCommitmentSalt.1) domainPayload =
      .ok aad.domainPayloadCommitment) :
    readPackage C sha256 plaintext aad contentCommitment = .ok ⟨content, domainPayload⟩ := by
  have hread := JsonCodec.parse_canonicalJsonBytes hC hplaintext
  subst hcontent hpayload
  simp only [readPackage, bind_eq_ok, pure_eq_ok, required_eq_ok, throwIf_eq_ok]
  exact ⟨_, hread, p, ProtectedPackage.parse_sorted p, (), hcanonical, _, hcontentCommitment, _, hdomainCommitment, ⟨⟩,
    by simp [Digest.alg], rfl⟩

theorem exactRandom_eq_ok {value value' : Bytes} {length : ℕ} :
    exactRandom value length = .ok value' ↔ value.length = length ∧ value = value' := by
  simp only [exactRandom, bind_eq_ok, pure_eq_ok, throwIf_eq_ok, not_not]
  constructor
  · rintro ⟨_, hlength, heq⟩
    exact ⟨hlength, heq⟩
  · rintro ⟨hlength, heq⟩
    exact ⟨⟨⟩, hlength, heq⟩

theorem envelopeBytes_canonical {input : ProtectContentInput} {result : ProtectedContentResult}
    (h : protectContent C J sha256 input = .ok result) : ∃ value, C.canonicalJsonBytes value = .ok result.envelopeBytes := by
  simp only [protectContent, bind_eq_ok, pure_eq_ok] at h
  obtain ⟨_, -, _, -, _, -, _, -, _, -, _, -, _, -, _, -, _, -, _, -, _, -, _, -, envelope, -, _, henvelopeBytes, _, -, rfl⟩ := h
  exact ⟨envelope.toJson, henvelopeBytes⟩

/-- What was protected opens, from any bytes that are read as its envelope. -/
theorem open_of_protect (hC : C.Rfc8785) (hheader : C.canonicalize protectedContentHeader = some protectedContentHeaderText)
    (hJ : J.Correct) {input : ProtectContentInput} {result : ProtectedContentResult}
    (h : protectContent C J sha256 input = .ok result) {bytes : Bytes}
    (hbytes : C.parseExactCanonicalJson bytes = C.parseExactCanonicalJson result.envelopeBytes) :
    openProtectedContent C J sha256 bytes result.dek result.aad result.contentCommitment =
      .ok ⟨input.content, input.domainPayload⟩ := by
  simp only [protectContent, bind_eq_ok, pure_eq_ok, required_eq_ok, exactRandom_eq_ok] at h
  obtain ⟨_, hcanonical, dek, ⟨hdek, rfl⟩, iv, ⟨-, rfl⟩, contentSalt, ⟨-, rfl⟩, domainSalt, ⟨-, rfl⟩, contentCommitment,
    hcontentCommitment, domainCommitment, hdomainCommitment, aad, haad, p, hp, packageBytes, hpackageBytes, aadBytes, haadBytes,
    encrypted, hencrypted, envelope, henvelope, envelopeBytes, henvelopeBytes, _, -, rfl⟩ := h
  obtain ⟨-, hcontent, hcontentSalt, hpayload, hdomainSalt⟩ := ProtectedPackage.fields_of_parse hp
  obtain ⟨hprotected, haadText, hiv, hciphertext, htag⟩ := ContentJwe.fields_of_parse henvelope
  have hcommitted : aad.domainPayloadCommitment = domainCommitment := by
    have hmember := ProtectedContentAad.parse_commitment haad
    rw [member, Json.field, Entries.lookup_assign, if_pos rfl, Option.bind_some, Digest.parse_toJson] at hmember
    exact (Option.some.inj hmember).symm
  have hheaderBytes : C.canonicalJsonBytes protectedContentHeader = .ok (encodeUtf8 protectedContentHeaderText) :=
    JsonCodec.canonicalJsonBytes_eq_ok.mpr ⟨_, hheader, rfl⟩
  have hread : C.parseExactCanonicalJson bytes = .ok envelope.toJson.sorted :=
    hbytes.trans (JsonCodec.parse_canonicalJsonBytes hC henvelopeBytes)
  have hopened : readEnvelope C bytes aad = .ok (envelope, aad) := by
    refine readEnvelope_of_canonical hC hread hheaderBytes ?_ haadBytes ?_
    · rw [hprotected, hJ.header hencrypted, ofBase64_toBase64Url]
    · rw [haadText, hJ.aad hencrypted, ofBase64_toBase64Url]
  have hdecrypted : J.decrypt envelope input.randomness.dek = some packageBytes := by
    refine hJ.decrypts hencrypted ?_
    rw [flattened, hprotected, haadText, hiv, hciphertext, htag]
  have hpackage : readPackage C sha256 packageBytes aad contentCommitment = .ok ⟨input.content, input.domainPayload⟩ := by
    refine readPackage_of_canonical hC hpackageBytes ?_ ?_ hcanonical ?_ ?_
    · rw [hcontent, ofBase64_toBase64Url]
    · rw [hpayload, ofBase64_toBase64Url]
    · rw [hcontentSalt, ofBase64_toBase64Url]
      exact hcontentCommitment
    · rw [hdomainSalt, ofBase64_toBase64Url, hcommitted]
      exact hdomainCommitment
  simp only [openProtectedContent, bind_eq_ok, required_eq_ok, throwIf_eq_ok, not_not]
  exact ⟨⟨⟩, hdek, (envelope, aad), hopened, packageBytes, hdecrypted, hpackage⟩

/-- A mark in front of the envelope is not seen. -/
theorem marked_opens (hC : C.Rfc8785) (hheader : C.canonicalize protectedContentHeader = some protectedContentHeaderText)
    (hJ : J.Correct) {input : ProtectContentInput} {result : ProtectedContentResult}
    (h : protectContent C J sha256 input = .ok result) :
    openProtectedContent C J sha256 (byteOrderMark ++ result.envelopeBytes) result.dek result.aad result.contentCommitment =
      .ok ⟨input.content, input.domainPayload⟩ := by
  refine open_of_protect hC hheader hJ h ?_
  obtain ⟨value, hvalue⟩ := envelopeBytes_canonical h
  rw [JsonCodec.parseExactCanonicalJson_marked hC hvalue, JsonCodec.parse_canonicalJsonBytes hC hvalue]

end RoundTrip

/-! ### What opens is bound -/

section Bound

variable {C : JsonCodec} {J : Jose} {sha256 : Bytes → Bytes}

/-- The envelope has the fixed header and the data. -/
def IsEnvelope (C : JsonCodec) (value : Json) (aad : ProtectedContentAad) : Prop :=
  ∃ envelope aadValue, ContentJwe.parse value = some envelope ∧
    C.parseExactCanonicalJson (ofBase64 envelope.protectedHeader.1) = .ok protectedContentHeader ∧
    C.parseExactCanonicalJson (ofBase64 envelope.aad.1) = .ok aadValue ∧ ProtectedContentAad.parse aadValue = some aad

/-- Content and payload have the commitments, under salts of thirty-two bytes. -/
def Commits (sha256 : Bytes → Bytes) (contentCommitment domainPayloadCommitment : Digest) (opened : OpenedContent) : Prop :=
  ∃ contentSalt domainSalt : Bytes, contentSalt.length = 32 ∧ domainSalt.length = 32 ∧
    commitment sha256 contentCommitmentDomain contentSalt opened.content = .ok contentCommitment ∧
    commitment sha256 domainCommitmentDomain domainSalt opened.domainPayload = .ok domainPayloadCommitment

/-- What opening an envelope promises. -/
structure Bound (C : JsonCodec) (sha256 : Bytes → Bytes) (envelopeBytes : Bytes) (expectedAad : ProtectedContentAad)
    (expectedContentCommitment : Digest) (opened : OpenedContent) : Prop where
  exact : ∃ value, C.canonicalJsonBytes value = .ok envelopeBytes ∧ IsEnvelope C value expectedAad
  committed : Commits sha256 expectedContentCommitment expectedAad.domainPayloadCommitment opened
  only : ∀ other, Commits sha256 expectedContentCommitment expectedAad.domainPayloadCommitment other → other = opened

theorem readEnvelope_eq_ok (hC : C.Rfc8785) {envelopeBytes : Bytes} {expectedAad aad : ProtectedContentAad} {envelope : ContentJwe}
    (h : readEnvelope C envelopeBytes expectedAad = .ok (envelope, aad)) :
    aad = expectedAad ∧ ∃ value, C.parseExactCanonicalJson envelopeBytes = .ok value ∧ IsEnvelope C value expectedAad := by
  simp only [readEnvelope, bind_eq_ok, pure_eq_ok, required_eq_ok, throwIf_eq_ok, not_not] at h
  obtain ⟨value, hvalue, envelope', henvelope, header, hheader, headerBytes, hheaderBytes, fixedBytes, hfixed, _, rfl, aadValue,
    haadValue, aad', haad, aadBytes, haadBytes, expectedBytes, hexpected, _, rfl, heq⟩ := h
  obtain ⟨rfl, rfl⟩ := Prod.mk.inj heq
  have hfixedHeader : header = protectedContentHeader := by
    rw [← JsonCodec.sorted_of_parse hC hheader, JsonCodec.sorted_eq hC hheaderBytes hfixed, sorted_protectedContentHeader]
  have haadEq : aad' = expectedAad := ProtectedContentAad.eq_of_sorted (JsonCodec.sorted_eq hC haadBytes hexpected)
  subst hfixedHeader haadEq
  exact ⟨rfl, value, hvalue, envelope', aadValue, henvelope, hheader, haadValue, haad⟩

theorem readPackage_eq_ok {plaintext : Bytes} {aad : ProtectedContentAad} {expectedContentCommitment : Digest}
    {opened : OpenedContent} (h : readPackage C sha256 plaintext aad expectedContentCommitment = .ok opened) :
    Commits sha256 expectedContentCommitment aad.domainPayloadCommitment opened := by
  simp only [readPackage, bind_eq_ok, pure_eq_ok, required_eq_ok, throwIf_eq_ok, not_or, not_not] at h
  obtain ⟨_, -, p, -, _, -, contentCommitment, hcontent, domainCommitment, hdomain, _, ⟨hdomainEq, -, hcontentEq⟩, rfl⟩ := h
  have hcontentDigest : contentCommitment = expectedContentCommitment := by rw [Digest.mk.injEq, hcontentEq]
  have hdomainDigest : domainCommitment = aad.domainPayloadCommitment := by rw [Digest.mk.injEq, hdomainEq]
  subst hcontentDigest hdomainDigest
  exact ⟨_, _, salt_length p.contentCommitmentSalt, salt_length p.domainPayloadCommitmentSalt, hcontent, hdomain⟩

/-- No other content and payload have both commitments. -/
theorem Commits.unique (hsha : Function.Injective sha256) {contentCommitment domainPayloadCommitment : Digest}
    {opened opened' : OpenedContent} (h : Commits sha256 contentCommitment domainPayloadCommitment opened)
    (h' : Commits sha256 contentCommitment domainPayloadCommitment opened') : opened' = opened := by
  obtain ⟨contentSalt, domainSalt, hcontentLength, hdomainLength, hcontent, hdomain⟩ := h
  obtain ⟨contentSalt', domainSalt', hcontentLength', hdomainLength', hcontent', hdomain'⟩ := h'
  have hcontents := commitment_injective hsha (hcontentLength'.trans hcontentLength.symm) hcontent' hcontent
  have hpayloads := commitment_injective hsha (hdomainLength'.trans hdomainLength.symm) hdomain' hdomain
  cases opened
  cases opened'
  rw [OpenedContent.mk.injEq]
  exact ⟨hcontents.2, hpayloads.2⟩

/-- Bytes that open are bound but for a mark in front of them. -/
theorem bound_iff (hC : C.Rfc8785) (hsha : Function.Injective sha256) {envelopeBytes dek : Bytes}
    {expectedAad : ProtectedContentAad} {expectedContentCommitment : Digest} {opened : OpenedContent}
    (h : openProtectedContent C J sha256 envelopeBytes dek expectedAad expectedContentCommitment = .ok opened) :
    Bound C sha256 envelopeBytes expectedAad expectedContentCommitment opened ↔ ¬HasByteOrderMark envelopeBytes := by
  simp only [openProtectedContent, bind_eq_ok, required_eq_ok, throwIf_eq_ok] at h
  obtain ⟨_, -, ⟨envelope, aad⟩, hread, plaintext, -, hpackage⟩ := h
  obtain ⟨rfl, value, hvalue, henvelope⟩ := readEnvelope_eq_ok hC hread
  have hcommits := readPackage_eq_ok hpackage
  constructor
  · rintro ⟨⟨value', hcanonical, -⟩, -, -⟩
    exact JsonCodec.canonicalJsonBytes_unmarked hC hcanonical
  · intro hmark
    exact ⟨⟨value, (JsonCodec.exact_iff hC hvalue).mpr hmark, henvelope⟩, hcommits, fun other hother => hcommits.unique hsha hother⟩

end Bound

/-- What was protected opens to what it was, and what opens is bound to what was
expected just if its envelope bears no byte order mark. -/
theorem protected_content_bound {C : JsonCodec} {J : Jose} {sha256 : Bytes → Bytes} (hC : C.Rfc8785)
    (hheader : C.canonicalize protectedContentHeader = some protectedContentHeaderText) (hJ : J.Correct)
    (hsha : Function.Injective sha256) :
    (∀ input result, protectContent C J sha256 input = .ok result →
      openProtectedContent C J sha256 result.envelopeBytes result.dek result.aad result.contentCommitment =
        .ok ⟨input.content, input.domainPayload⟩) ∧
    ∀ envelopeBytes dek expectedAad expectedContentCommitment opened,
      openProtectedContent C J sha256 envelopeBytes dek expectedAad expectedContentCommitment = .ok opened →
        (Bound C sha256 envelopeBytes expectedAad expectedContentCommitment opened ↔ ¬HasByteOrderMark envelopeBytes) :=
  ⟨fun _ _ h => open_of_protect hC hheader hJ h rfl, fun _ _ _ _ _ h => bound_iff hC hsha h⟩

/-! ### One content -/

section Sample

/-- The first characters of a text tell where it begins. -/
theorem key_of_append {first rest : String} (h : 4 ≤ first.toList.length) :
    ((first ++ rest).toList.drop 2).take 2 = (first.toList.drop 2).take 2 ∧ (first ++ rest).toList.head? = first.toList.head? := by
  have hne : first.toList ≠ [] := fun hnil => by simp [hnil] at h
  rw [String.toList_append, List.drop_append_of_le_length (by omega), List.take_append_of_le_length (by rw [List.length_drop]; omega),
    List.head?_append_of_ne_nil _ hne]
  exact ⟨rfl, rfl⟩

def sampleUrn (kind : String) : String := "urn:evllm:" ++ kind ++ ":00000000-0000-0000-0000-000000000001"

def sampleContentHash : Bytes :=
  [124, 174, 255, 55, 68, 67, 125, 238, 146, 220, 202, 217, 51, 248, 99, 178, 35, 86, 209, 236, 108, 119, 65, 243, 142, 197, 90, 66, 186, 93, 253, 82]

def sampleDomainHash : Bytes :=
  [2, 191, 184, 160, 153, 169, 95, 82, 72, 235, 196, 215, 64, 210, 70, 88, 80, 148, 5, 46, 85, 110, 213, 235, 30, 153, 63, 227, 170, 42, 229, 202]

def sampleEnvelopeHash : Bytes :=
  [240, 8, 213, 1, 255, 250, 172, 207, 223, 4, 116, 240, 167, 32, 147, 179, 238, 144, 240, 164, 82, 113, 46, 68, 157, 45, 120, 214, 82, 56, 63, 121]

def sampleAad : ProtectedContentAad where
  bundleId := ⟨sampleUrn "bundle", by decide +kernel⟩
  bundleVersion := ⟨1, by decide⟩
  domainResourceVersion := ⟨1, by decide⟩
  domainPayloadCommitment := .ofHash sampleDomainHash rfl
  custodyControllerOrgId := ⟨sampleUrn "org", by decide +kernel⟩
  primaryRepositoryId := ⟨sampleUrn "repository", by decide +kernel⟩
  contentSchemaId := ⟨sampleUrn "schema", by decide +kernel⟩
  contentSchemaVersion := ⟨"1.0.0", by decide +kernel⟩
  initialCriticalityClass := .supplementary
  criticalityProfileId := ⟨sampleUrn "profile", by decide +kernel⟩
  criticalityProfileVersion := ⟨1, by decide⟩
  bundleType := .evidence
  domainResourceId := ⟨sampleUrn "evidence", by decide +kernel⟩

/-- The content is "hi", the payload an empty object. -/
def sampleInput : ProtectContentInput where
  aad := sampleAad.members.eraseP fun m => m.1 = "domain_payload_commitment"
  content := encodeUtf8 "hi"
  contentMediaType := "text/plain"
  domainPayload := encodeUtf8 "\x7b\x7d"
  randomness := ⟨List.replicate 32 1, List.replicate 12 2, List.replicate 32 3, List.replicate 32 4⟩

def samplePackage : ProtectedPackage where
  contentMediaType := ⟨sampleInput.contentMediaType, by decide +kernel⟩
  contentBytes := ⟨toBase64Url sampleInput.content, base64Url_toBase64Url _⟩
  contentCommitmentSalt := ⟨toBase64Url sampleInput.randomness.contentSalt, base64Url32_toBase64Url rfl⟩
  domainPayloadBytes := ⟨toBase64Url sampleInput.domainPayload, base64Url_toBase64Url _⟩
  domainPayloadCommitmentSalt := ⟨toBase64Url sampleInput.randomness.domainSalt, base64Url32_toBase64Url rfl⟩

def sampleAadText : String :=
  "\x7b\"access_class\":\"restricted\",\"bundle_id\":\"" ++ sampleUrn "bundle" ++
    "\",\"bundle_type\":\"evidence\",\"bundle_version\":1,\"content_schema_id\":\"" ++ sampleUrn "schema" ++
    "\",\"content_schema_version\":\"1.0.0\",\"criticality_profile_id\":\"" ++ sampleUrn "profile" ++
    "\",\"criticality_profile_version\":1,\"custody_controller_org_id\":\"" ++ sampleUrn "org" ++
    "\",\"domain_payload_commitment\":\x7b\"alg\":\"SHA-256\",\"value\":\"" ++ toBase64Url sampleDomainHash ++
    "\"\x7d,\"domain_resource_id\":\"" ++ sampleUrn "evidence" ++
    "\",\"domain_resource_version\":1,\"initial_criticality_class\":\"supplementary\",\"primary_repository_id\":\"" ++
    sampleUrn "repository" ++ "\",\"schema\":\"EVLLM_PROTECTED_CONTENT_AAD_V1\"\x7d"

def samplePackageText : String :=
  "\x7b\"content_bytes\":\"" ++ samplePackage.contentBytes.1 ++ "\",\"content_commitment_salt\":\"" ++
    samplePackage.contentCommitmentSalt.1 ++ "\",\"content_media_type\":\"text/plain\",\"domain_payload_bytes\":\"" ++
    samplePackage.domainPayloadBytes.1 ++ "\",\"domain_payload_commitment_salt\":\"" ++
    samplePackage.domainPayloadCommitmentSalt.1 ++ "\",\"schema\":\"EVLLM_PROTECTED_PACKAGE_V1\"\x7d"

def sampleCiphertext : Bytes := ofBase64
  ("fPSqJiQjpJOnk96xKMKxkJiXsKiAk6FTvuiOjx2VACAUEHNaBBvOiilaDZr-SyhZkFefoOoenFGGB_LFLnAM_Tmg0JXrjlwfPBMOz61YK" ++
    "VZGMxpWBux18ss5VbwRYv02PyoiMF04A8eNAC0WbYe2tAJ5qCsrzoufNnbwyEClBcNOQWFRsqpq9nOwayRorMVwvtperamvHkozVji2kQ" ++
    "wg_DPeq1rJjqWQiOhvOY4fNH-3LujkbtWILA2vXtLvYDIpYDY_LG42xm0ZozGGquTspbbShDzyALD4SwDaci6krRGed-v-HJ6IuzVsyGk" ++
    "mmouCnDAIgQ1rnl9gEBDRWiBaCJmpYZZkYaXZihISt68V183kJhs")

def sampleTag : Bytes := [208, 2, 138, 65, 168, 163, 49, 101, 144, 132, 28, 105, 110, 1, 141, 88]

def sampleEnvelope : ContentJwe where
  protectedHeader := ⟨toBase64Url (encodeUtf8 protectedContentHeaderText), base64Url_toBase64Url _⟩
  aad := ⟨toBase64Url (encodeUtf8 sampleAadText), base64Url_toBase64Url _⟩
  iv := ⟨toBase64Url sampleInput.randomness.iv, base64UrlChars_toBase64Url rfl⟩
  ciphertext := ⟨toBase64Url sampleCiphertext, base64Url_toBase64Url _⟩
  tag := ⟨toBase64Url sampleTag, base64UrlChars_toBase64Url rfl⟩

def sampleEnvelopeText : String :=
  "\x7b\"aad\":\"" ++ sampleEnvelope.aad.1 ++ "\",\"ciphertext\":\"" ++ sampleEnvelope.ciphertext.1 ++ "\",\"iv\":\"" ++
    sampleEnvelope.iv.1 ++ "\",\"protected\":\"" ++ sampleEnvelope.protectedHeader.1 ++ "\",\"tag\":\"" ++ sampleEnvelope.tag.1 ++
    "\"\x7d"

def sampleTable : List (List (String × Json) × String) :=
  [([], "\x7b\x7d"), (protectedContentHeaderMembers, protectedContentHeaderText), (sampleAad.members, sampleAadText),
    (ProtectedPackage.members samplePackage.contentMediaType.1 samplePackage.contentBytes.1 samplePackage.contentCommitmentSalt.1
      samplePackage.domainPayloadBytes.1 samplePackage.domainPayloadCommitmentSalt.1, samplePackageText),
    (ContentJwe.members sampleEnvelope.protectedHeader.1 sampleEnvelope.aad.1 sampleEnvelope.iv.1 sampleEnvelope.ciphertext.1
      sampleEnvelope.tag.1, sampleEnvelopeText)]

def sampleCodec : JsonCodec := tableCodec sampleTable

theorem sampleAadText_key : (sampleAadText.toList.drop 2).take 2 = ['a', 'c'] ∧ sampleAadText.toList.head? = some '\x7b' := by
  unfold sampleAadText
  simp only [String.append_assoc]
  exact (key_of_append (by decide)).imp (fun h => h.trans (by decide)) fun h => h.trans (by decide)

theorem samplePackageText_key : (samplePackageText.toList.drop 2).take 2 = ['c', 'o'] ∧ samplePackageText.toList.head? = some '\x7b' := by
  unfold samplePackageText
  simp only [String.append_assoc]
  exact (key_of_append (by decide)).imp (fun h => h.trans (by decide)) fun h => h.trans (by decide)

theorem sampleEnvelopeText_key : (sampleEnvelopeText.toList.drop 2).take 2 = ['a', 'a'] ∧ sampleEnvelopeText.toList.head? = some '\x7b' := by
  unfold sampleEnvelopeText
  simp only [String.append_assoc]
  exact (key_of_append (by decide)).imp (fun h => h.trans (by decide)) fun h => h.trans (by decide)

theorem sampleTable_values : (sampleTable.map fun e =>
    ["enc", "bundle_id", "content_bytes", "tag"].map fun name => (Entries.lookup name e.1).isSome).Nodup := by
  simp [sampleTable, Entries.lookup, protectedContentHeaderMembers, ProtectedContentAad.members, ProtectedPackage.members,
    ContentJwe.members]

theorem sampleTable_separated : Separated ["enc", "bundle_id", "content_bytes", "tag"] sampleTable where
  distinct := by
    simp only [sampleTable, List.forall_mem_cons]
    exact ⟨List.nodup_nil, by decide, sampleAad.distinct_members, ProtectedPackage.distinct_members _ _ _ _ _,
      ContentJwe.distinct_members _ _ _ _ _, by simp⟩
  values := sampleTable_values
  texts := by
    simp [sampleTable, sampleAadText_key, samplePackageText_key, sampleEnvelopeText_key, protectedContentHeaderText]
  unmarked := by
    simp only [sampleTable, List.forall_mem_cons, sampleAadText_key, samplePackageText_key, sampleEnvelopeText_key]
    exact ⟨by decide, by simp [protectedContentHeaderText], by decide, by decide, by decide, by simp⟩

theorem sampleCodec_bytes {members : List (String × Json)} {text : String} (h : (members, text) ∈ sampleTable) :
    sampleCodec.canonicalJsonBytes (.object members) = .ok (encodeUtf8 text) :=
  JsonCodec.canonicalJsonBytes_eq_ok.mpr ⟨text, sampleTable_separated.canonicalize h, rfl⟩

/-- It encrypts the one package. -/
def sampleJose : Jose where
  encrypt plaintext header aad iv dek :=
    if plaintext = encodeUtf8 samplePackageText ∧ header = protectedContentHeader ∧ aad = encodeUtf8 sampleAadText ∧
        iv = sampleInput.randomness.iv ∧ dek = sampleInput.randomness.dek then some (flattened sampleEnvelope) else none
  decrypt envelope dek :=
    if envelope = sampleEnvelope ∧ dek = sampleInput.randomness.dek then some (encodeUtf8 samplePackageText) else none

theorem flattened_injective {envelope envelope' : ContentJwe} (h : flattened envelope = flattened envelope') : envelope = envelope' := by
  obtain ⟨⟨_, _⟩, ⟨_, _⟩, ⟨_, _⟩, ⟨_, _⟩, ⟨_, _⟩⟩ := envelope
  obtain ⟨⟨_, _⟩, ⟨_, _⟩, ⟨_, _⟩, ⟨_, _⟩, ⟨_, _⟩⟩ := envelope'
  cases h
  rfl

theorem sampleJose_encrypt {plaintext aad iv dek : Bytes} {encrypted : FlattenedJwe}
    (h : sampleJose.encrypt plaintext protectedContentHeader aad iv dek = some encrypted) :
    plaintext = encodeUtf8 samplePackageText ∧ aad = encodeUtf8 sampleAadText ∧ dek = sampleInput.randomness.dek ∧
      encrypted = flattened sampleEnvelope := by
  obtain ⟨⟨hplaintext, -, haad, -, hdek⟩, hencrypted⟩ := Option.ite_none_right_eq_some.mp h
  exact ⟨hplaintext, haad, hdek, (Option.some.inj hencrypted).symm⟩

theorem sampleJose_correct : sampleJose.Correct where
  header h := by
    rw [(sampleJose_encrypt h).2.2.2]
    rfl
  aad h := by
    obtain ⟨-, haad, -, hencrypted⟩ := sampleJose_encrypt h
    rw [haad, hencrypted]
    rfl
  decrypts h heq := by
    obtain ⟨hplaintext, -, hdek, hencrypted⟩ := sampleJose_encrypt h
    simp only [sampleJose, flattened_injective (heq.trans hencrypted), hdek, hplaintext, and_self, if_true]

def sampleContentPreimage : Bytes := preimage contentCommitmentDomain sampleInput.randomness.contentSalt sampleInput.content

def sampleDomainPreimage : Bytes := preimage domainCommitmentDomain sampleInput.randomness.domainSalt sampleInput.domainPayload

/-- It has the three digests. -/
def sampleSha256 : Equiv.Perm Bytes :=
  (Equiv.swap (encodeUtf8 sampleEnvelopeText) sampleEnvelopeHash).trans
    ((Equiv.swap sampleDomainPreimage sampleDomainHash).trans (Equiv.swap sampleContentPreimage sampleContentHash))

theorem sampleEnvelopeBytes_head : (encodeUtf8 sampleEnvelopeText).head? = some 123 := by
  unfold sampleEnvelopeText
  simp only [String.append_assoc]
  rw [encodeUtf8_append, List.head?_append_of_ne_nil _ (by decide)]
  decide

theorem ne_sampleEnvelope {bytes : Bytes} (h : bytes.head? ≠ some 123) : bytes ≠ encodeUtf8 sampleEnvelopeText := by
  rintro rfl
  exact h sampleEnvelopeBytes_head

theorem sampleSha256_content : sampleSha256 sampleContentPreimage = sampleContentHash := by
  have houter : Equiv.swap (encodeUtf8 sampleEnvelopeText) sampleEnvelopeHash sampleContentPreimage = sampleContentPreimage :=
    Equiv.swap_apply_of_ne_of_ne (ne_sampleEnvelope (by decide)) (by decide)
  have hmiddle : Equiv.swap sampleDomainPreimage sampleDomainHash sampleContentPreimage = sampleContentPreimage :=
    Equiv.swap_apply_of_ne_of_ne (by decide) (by decide)
  rw [sampleSha256, Equiv.trans_apply, Equiv.trans_apply, houter, hmiddle, Equiv.swap_apply_left]

theorem sampleSha256_domain : sampleSha256 sampleDomainPreimage = sampleDomainHash := by
  have houter : Equiv.swap (encodeUtf8 sampleEnvelopeText) sampleEnvelopeHash sampleDomainPreimage = sampleDomainPreimage :=
    Equiv.swap_apply_of_ne_of_ne (ne_sampleEnvelope (by decide)) (by decide)
  have hinner : Equiv.swap sampleContentPreimage sampleContentHash sampleDomainHash = sampleDomainHash :=
    Equiv.swap_apply_of_ne_of_ne (by decide) (by decide)
  rw [sampleSha256, Equiv.trans_apply, Equiv.trans_apply, houter, Equiv.swap_apply_left, hinner]

theorem sampleSha256_envelope : sampleSha256 (encodeUtf8 sampleEnvelopeText) = sampleEnvelopeHash := by
  have hmiddle : Equiv.swap sampleDomainPreimage sampleDomainHash sampleEnvelopeHash = sampleEnvelopeHash :=
    Equiv.swap_apply_of_ne_of_ne (by decide) (by decide)
  have hinner : Equiv.swap sampleContentPreimage sampleContentHash sampleEnvelopeHash = sampleEnvelopeHash :=
    Equiv.swap_apply_of_ne_of_ne (by decide) (by decide)
  rw [sampleSha256, Equiv.trans_apply, Equiv.trans_apply, Equiv.swap_apply_left, hmiddle, hinner]

theorem digestOf_eq {hash : Bytes} (h : hash.length = 32) : digestOf hash = .ok (.ofHash hash h) :=
  required_eq_ok.mpr (Digest.parse_toJson (.ofHash hash h))

def sampleResult : ProtectedContentResult where
  aad := sampleAad
  contentCommitment := .ofHash sampleContentHash rfl
  contentEnvelopeDigest := .ofHash sampleEnvelopeHash rfl
  dek := sampleInput.randomness.dek
  domainPayloadCommitment := .ofHash sampleDomainHash rfl
  envelopeBytes := encodeUtf8 sampleEnvelopeText
  packageBytes := encodeUtf8 samplePackageText

theorem sampleAad_parse :
    ProtectedContentAad.parse (.object (Entries.assign "domain_payload_commitment" sampleAad.domainPayloadCommitment.toJson
      sampleInput.aad)) = some sampleAad := by
  simp only [ProtectedContentAad.parse, strict, Json.hasOnly, member, Json.field]
  simp [sampleInput, ProtectedContentAad.members, ProtectedContentAad.names, Entries.assign, Entries.lookup,
    positiveSafeInteger_number, Digest.parse_toJson, BundleType.parse_text, CriticalityClass.parse_text]

theorem sample_protected : protectContent sampleCodec sampleJose sampleSha256 sampleInput = .ok sampleResult := by
  have hpayload : sampleCodec.parseExactCanonicalJson sampleInput.domainPayload = .ok (Json.object []).sorted :=
    JsonCodec.parse_canonicalJsonBytes sampleTable_separated.rfc8785 (sampleCodec_bytes (by simp [sampleTable]))
  have hcontent : commitment sampleSha256 contentCommitmentDomain sampleInput.randomness.contentSalt sampleInput.content =
      .ok sampleResult.contentCommitment := by
    refine bind_eq_ok.mpr ⟨⟨⟩, throwIf_eq_ok.mpr (not_not.mpr (by decide)), ?_⟩
    exact (congrArg digestOf sampleSha256_content).trans (digestOf_eq rfl)
  have hdomain : commitment sampleSha256 domainCommitmentDomain sampleInput.randomness.domainSalt sampleInput.domainPayload =
      .ok sampleResult.domainPayloadCommitment := by
    refine bind_eq_ok.mpr ⟨⟨⟩, throwIf_eq_ok.mpr (not_not.mpr (by decide)), ?_⟩
    exact (congrArg digestOf sampleSha256_domain).trans (digestOf_eq rfl)
  have henvelope : digestOf (sampleSha256 (encodeUtf8 sampleEnvelopeText)) = .ok sampleResult.contentEnvelopeDigest :=
    (congrArg digestOf sampleSha256_envelope).trans (digestOf_eq rfl)
  have hencrypted : sampleJose.encrypt (encodeUtf8 samplePackageText) protectedContentHeader (encodeUtf8 sampleAadText)
      sampleInput.randomness.iv sampleInput.randomness.dek = some (flattened sampleEnvelope) := by
    simp only [sampleJose, and_self, if_true]
  simp only [protectContent, assertCanonicalDomainPayload, bind_eq_ok, pure_eq_ok, required_eq_ok, exactRandom_eq_ok]
  exact ⟨(), ⟨_, hpayload, trivial⟩, _, ⟨rfl, rfl⟩, _, ⟨rfl, rfl⟩, _, ⟨rfl, rfl⟩, _, ⟨rfl, rfl⟩, _, hcontent, _, hdomain, _,
    sampleAad_parse, _, ProtectedPackage.parse_toJson samplePackage, _, sampleCodec_bytes (by simp [sampleTable]), _,
    sampleCodec_bytes (by simp [sampleTable]), _, hencrypted, _, ContentJwe.parse_toJson sampleEnvelope, _,
    sampleCodec_bytes (by simp [sampleTable]), _, henvelope, rfl⟩

theorem sampleCodec_header : sampleCodec.canonicalize protectedContentHeader = some protectedContentHeaderText :=
  sampleTable_separated.canonicalize (List.mem_cons_of_mem _ List.mem_cons_self)

theorem sampleEnvelope_unmarked : ¬HasByteOrderMark sampleResult.envelopeBytes := by
  obtain ⟨value, hvalue⟩ := envelopeBytes_canonical sample_protected
  exact JsonCodec.canonicalJsonBytes_unmarked sampleTable_separated.rfc8785 hvalue

theorem sample_bound : ∃ result opened, protectContent sampleCodec sampleJose sampleSha256 sampleInput = .ok result ∧
    openProtectedContent sampleCodec sampleJose sampleSha256 result.envelopeBytes result.dek result.aad result.contentCommitment =
      .ok opened ∧ opened = ⟨sampleInput.content, sampleInput.domainPayload⟩ ∧
    Bound sampleCodec sampleSha256 result.envelopeBytes result.aad result.contentCommitment opened := by
  obtain ⟨hround, hbound⟩ := protected_content_bound sampleTable_separated.rfc8785 sampleCodec_header sampleJose_correct
    sampleSha256.injective
  have hopened := hround sampleInput sampleResult sample_protected
  exact ⟨sampleResult, _, sample_protected, hopened, rfl, (hbound _ _ _ _ _ hopened).mpr sampleEnvelope_unmarked⟩

/-- With a mark in front of it the envelope opens as well. -/
theorem sample_marked_opens : sampleCodec.Rfc8785 ∧
    sampleCodec.canonicalize protectedContentHeader = some protectedContentHeaderText ∧ sampleJose.Correct ∧
    Function.Injective sampleSha256 ∧
    ∃ opened, openProtectedContent sampleCodec sampleJose sampleSha256 (byteOrderMark ++ sampleResult.envelopeBytes)
        sampleResult.dek sampleResult.aad sampleResult.contentCommitment = .ok opened ∧
      ¬Bound sampleCodec sampleSha256 (byteOrderMark ++ sampleResult.envelopeBytes) sampleResult.aad
        sampleResult.contentCommitment opened := by
  have hopened := marked_opens sampleTable_separated.rfc8785 sampleCodec_header sampleJose_correct sample_protected
  refine ⟨sampleTable_separated.rfc8785, sampleCodec_header, sampleJose_correct, sampleSha256.injective, _, hopened, fun hbound => ?_⟩
  exact (bound_iff sampleTable_separated.rfc8785 sampleSha256.injective hopened).mp hbound (List.prefix_append _ _)

end Sample

end Protected
end Evllm
