/-
# Schemas of common fields

`src/schemas/common.ts`, for the fields that the schemas modelled here have. A schema
reads a JSON value, and what it returns passed its check: identifiers, encoded bytes,
media types and versions are strings that carry the proof of their form.

Key definitions: `Checked`, `checked`, `member`, `urn`, `base64Url`, `base64Url32`, `Digest`.
Key theorems: `member_sorted`, `Digest.parse_sorted`, `salt_length`.
-/
import Evllm.Lib.Base64
import Evllm.Lib.Json
import Evllm.Repository.Validation
import Mathlib.Algebra.Ring.Rat

namespace Evllm
namespace Schemas

open Lib Base64 Repository

/-! ### Reading members -/

/-- The strings that pass a check. -/
abbrev Checked (check : String → Bool) : Type := {text : String // check text = true}

/-- `z.string()` with a check. -/
def checked (check : String → Bool) : Json → Option (Checked check)
  | .string text => if h : check text = true then some ⟨text, h⟩ else none
  | _ => none

/-- `z.literal(text)`. -/
def literal (text : String) : Json → Option Unit
  | .string text' => if text' = text then some () else none
  | _ => none

/-- `strict()`. -/
def strict (names : List String) (value : Json) : Option Unit := if value.hasOnly names = true then some () else none

/-- A member of an object, read by its schema. -/
def member {α : Type} (name : String) (schema : Json → Option α) (value : Json) : Option α :=
  (value.field name).bind schema

@[simp] theorem checked_string {check : String → Bool} (x : Checked check) : checked check (.string x.1) = some x :=
  dif_pos x.2

theorem checked_eq_some {check : String → Bool} {text : String} {x : Checked check} (h : checked check (.string text) = some x) :
    x.1 = text := by
  rw [checked] at h
  split_ifs at h
  rw [← Option.some.inj h]

@[simp] theorem literal_string (text : String) : literal text (.string text) = some () := if_pos rfl

theorem member_sorted {α : Type} {members : List (String × Json)} (h : Json.Distinct members) (name : String)
    (schema : Json → Option α) :
    member name schema (.sorted (.object members)) = (Entries.lookup name members).bind fun v => schema v.sorted := by
  rw [member, Json.field_sorted h, Json.field, Option.bind_map]
  rfl

/-! ### Identifiers, numbers and versions -/

inductive IdentifierKind where
  | org
  | evidence
  | bundle
  | verification
  | assessment
  | repository
  | profile
  | source
  | listing
  | agreement
  | delivery
  | dispute
  | assistant
  | audit
  | schema
  deriving DecidableEq, Repr

def IdentifierKind.name : IdentifierKind → String
  | org => "org"
  | evidence => "evidence"
  | bundle => "bundle"
  | verification => "verification"
  | assessment => "assessment"
  | repository => "repository"
  | profile => "profile"
  | source => "source"
  | listing => "listing"
  | agreement => "agreement"
  | delivery => "delivery"
  | dispute => "dispute"
  | assistant => "assistant"
  | audit => "audit"
  | schema => "schema"

def urnStart (kind : IdentifierKind) : List Char := "urn:evllm:".toList ++ kind.name.toList ++ [':']

def urn (kind : IdentifierKind) (text : String) : Bool :=
  (urnStart kind).isPrefixOf text.toList && isUuid (text.toList.drop (urnStart kind).length)

abbrev Urn (kind : IdentifierKind) : Type := Checked (urn kind)

abbrev PositiveSafeInteger : Type := {n : ℕ // 0 < n ∧ (n : ℤ) ≤ Json.maxSafeInteger}

def positiveSafeInteger (value : Json) : Option PositiveSafeInteger :=
  value.safeInteger.bind fun n =>
    if h : 0 < n.toNat ∧ (n.toNat : ℤ) ≤ Json.maxSafeInteger then some ⟨n.toNat, h⟩ else none

theorem positiveSafeInteger_number (n : PositiveSafeInteger) : positiveSafeInteger (.number (n.1 : ℚ)) = some n := by
  rw [← Int.cast_natCast]
  have hsafe : Json.SafeInteger (n.1 : ℤ) := ⟨by unfold Json.maxSafeInteger; omega, n.2.2⟩
  have hn : ((n.1 : ℤ)).toNat = n.1 := Int.toNat_natCast n.1
  rw [positiveSafeInteger, Json.safeInteger_number hsafe, Option.bind_some, dif_pos (by rw [hn]; exact n.2)]
  rw [Option.some.injEq]
  exact Subtype.ext hn

/-- `0|[1-9][0-9]*`. -/
def isNumeral : List Char → Bool
  | [] => false
  | c :: cs => c.isDigit && cs.all Char.isDigit && (c != '0' || cs.isEmpty)

def semver (text : String) : Bool :=
  match text.toList.splitOn '.' with
  | [major, minor, patch] => isNumeral major && isNumeral minor && isNumeral patch
  | _ => false

/-! ### Media types -/

def isMediaStart (c : Char) : Bool := c.isDigit || ('a' ≤ c && c ≤ 'z')

def isMediaChar (c : Char) : Bool := isMediaStart c || "!#$&^_.+-".toList.contains c

def isMediaName : List Char → Bool
  | [] => false
  | c :: cs => isMediaStart c && cs.all isMediaChar

def isMediaToken (cs : List Char) : Bool := !cs.isEmpty && cs.all isMediaChar

/-- A type and a subtype, then parameters, none of which has a delimiter in it. -/
def mediaType (text : String) : Bool :=
  match text.toList.splitOn ';' with
  | [] => false
  | essence :: parameters =>
    (match essence.splitOn '/' with
      | [type, subtype] => isMediaName type && isMediaName subtype
      | _ => false) &&
    parameters.all fun parameter =>
      match parameter.splitOn '=' with
      | [name, value] => isMediaToken name && isMediaToken value
      | _ => false

/-! ### Encoded bytes -/

def isBase64UrlChars (cs : List Char) : Bool := cs.all (urlAlphabet.contains ·)

/-- `Buffer.from(value, "base64url").toString("base64url") === value`. -/
def isCanonicalBase64Url (text : String) : Bool := toBase64Url (ofBase64 text) == text

def base64Url (text : String) : Bool :=
  isBase64UrlChars text.toList && text.toList.length % 4 != 1 && isCanonicalBase64Url text

/-- `^[A-Za-z0-9_-]{length}$`. -/
def base64UrlChars (length : ℕ) (text : String) : Bool := text.toList.length == length && isBase64UrlChars text.toList

def base64Url32 (text : String) : Bool := base64UrlChars 43 text && isCanonicalBase64Url text

theorem isBase64UrlChars_toBase64Url (bytes : List UInt8) : isBase64UrlChars (toBase64Url bytes).toList = true :=
  List.all_eq_true.mpr fun c hc => List.contains_iff_mem.mpr (toBase64Url_chars bytes c hc)

theorem isCanonical_toBase64Url (bytes : List UInt8) : isCanonicalBase64Url (toBase64Url bytes) = true := by
  rw [isCanonicalBase64Url, ofBase64_toBase64Url, beq_self_eq_true]

/-- What is encoded passes the check of what is read. -/
theorem base64Url_toBase64Url (bytes : List UInt8) : base64Url (toBase64Url bytes) = true := by
  have hlength : (bytes.length * 4 + 2) / 3 % 4 ≠ 1 := by omega
  rw [base64Url, isBase64UrlChars_toBase64Url, isCanonical_toBase64Url, toBase64Url_length, Bool.true_and, Bool.and_true,
    bne_iff_ne]
  exact hlength

theorem base64UrlChars_toBase64Url {bytes : List UInt8} {length : ℕ} (h : (bytes.length * 4 + 2) / 3 = length) :
    base64UrlChars length (toBase64Url bytes) = true := by
  rw [base64UrlChars, isBase64UrlChars_toBase64Url, toBase64Url_length, h, beq_self_eq_true, Bool.and_self]

theorem base64Url32_toBase64Url {bytes : List UInt8} (h : bytes.length = 32) : base64Url32 (toBase64Url bytes) = true := by
  rw [base64Url32, base64UrlChars_toBase64Url (by rw [h]), isCanonical_toBase64Url, Bool.and_self]

/-- Forty-three characters code thirty-two bytes. -/
theorem salt_length (salt : Checked base64Url32) : (ofBase64 salt.1).length = 32 := by
  have h := salt.2
  simp only [base64Url32, base64UrlChars, isBase64UrlChars, Bool.and_eq_true, beq_iff_eq, List.all_eq_true] at h
  rw [ofBase64_length fun c hc => List.contains_iff_mem.mp (h.1.2 c hc), h.1.1]

structure Digest where
  value : Checked base64Url32
  deriving DecidableEq

namespace Digest

def alg (_ : Digest) : String := "SHA-256"

def parse (value : Json) : Option Digest := do
  strict ["alg", "value"] value
  member "alg" (literal "SHA-256") value
  let value ← member "value" (checked base64Url32) value
  return ⟨value⟩

/-- The digest that a hash of thirty-two bytes is. -/
def ofHash (hash : List UInt8) (h : hash.length = 32) : Digest := ⟨⟨toBase64Url hash, base64Url32_toBase64Url h⟩⟩

def toJson (d : Digest) : Json := .object [("alg", .string d.alg), ("value", .string d.value.1)]

theorem parse_sorted (d : Digest) : parse d.toJson.sorted = some d := by
  have hdistinct : Json.Distinct [("alg", .string d.alg), ("value", .string d.value.1)] := by simp [Json.Distinct]
  rw [parse, toJson, strict, Json.hasOnly_sorted, member_sorted hdistinct, member_sorted hdistinct]
  simp [Entries.lookup, alg]

theorem parse_toJson (d : Digest) : parse d.toJson = some d := by
  simp [parse, toJson, strict, Json.hasOnly, member, Json.field, Entries.lookup, alg]

/-- What is read is what was written in the member. -/
theorem parse_value {text : String} {d : Digest} (h : parse (.object [("alg", .string "SHA-256"), ("value", .string text)]) = some d) :
    d.value.1 = text := by
  simp [parse, strict, Json.hasOnly, member, Json.field, Entries.lookup, Option.bind_eq_some_iff, -Subtype.exists] at h
  obtain ⟨value, hvalue, rfl⟩ := h
  exact checked_eq_some hvalue

end Digest

end Schemas
end Evllm
