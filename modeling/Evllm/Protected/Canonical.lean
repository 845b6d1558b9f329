/-
# Exact canonical JSON

`src/protected-bundles/crypto/canonical.ts`. A value is written as its RFC 8785 text,
and bytes are read only where the value that they hold would be written as the same
text. `JSON.parse` and the `canonicalize` package are parameters; texts with lone
surrogates, which have no canonical form, are no texts here.

The text is compared, not the bytes: a byte order mark in front of a canonical text is
taken away by the decoder and accepted (`parseExactCanonicalJson_marked`), and is all
that can differ (`exact_iff`).

Key definitions: `JsonCodec`, `canonicalJsonBytes`, `parseExactCanonicalJson`.
Key theorems: `JsonCodec.parse_canonicalJsonBytes`, `JsonCodec.exact_iff`.
-/
import Evllm.Lib.Except
import Evllm.Lib.Json
import Evllm.Lib.Utf8

namespace Evllm
namespace Protected

open Lib

abbrev Bytes : Type := List UInt8

/-- A `TypeError` of the code, or what its parts throw. -/
inductive Failure where
  | type (message : String)
  | undecodable
  | malformed
  | range
  | schema
  | cipher
  deriving DecidableEq, Repr

/-- What is there, or else a failure. -/
def required {α : Type} (failure : Failure) : Option α → Except Failure α
  | some a => .ok a
  | none => .error failure

@[simp] theorem required_eq_ok {α : Type} {failure : Failure} {x : Option α} {a : α} :
    required failure x = .ok a ↔ x = some a := by
  cases x with
  | none => simp [required]
  | some a => simp [required]

/-- `JSON.parse`, and `canonicalize`. -/
structure JsonCodec where
  parse : String → Option Json
  canonicalize : Json → Option String

namespace JsonCodec

section Operations

variable (C : JsonCodec)

def canonicalJson (value : Json) : Except Failure String :=
  required (.type "Value cannot be represented as canonical JSON") (C.canonicalize value)

def canonicalJsonBytes (value : Json) : Except Failure Bytes := do
  return encodeUtf8 (← C.canonicalJson value)

def parseExactCanonicalJson (bytes : Bytes) : Except Failure Json := do
  let text ← required .undecodable (decodeUtf8 bytes)
  let parsed ← required .malformed (C.parse text)
  let canonical ← C.canonicalJson parsed
  throwIf (canonical ≠ text) (.type "JSON bytes are not exact RFC 8785 form")
  return parsed

end Operations

/-- A canonical text is that of the value with its members in order, and is read as
that; it begins with no mark. -/
structure Rfc8785 (C : JsonCodec) : Prop where
  parse_canonicalize : ∀ {value : Json} {text : String}, C.canonicalize value = some text → C.parse text = some value.sorted
  canonicalize_sorted : ∀ {value : Json} {text : String},
    C.canonicalize value = some text → C.canonicalize value.sorted = some text
  unmarked : ∀ {value : Json} {text : String}, C.canonicalize value = some text → text.toList.head? ≠ some '\uFEFF'

variable {C : JsonCodec} {value : Json} {bytes : Bytes}

theorem canonicalJsonBytes_eq_ok :
    C.canonicalJsonBytes value = .ok bytes ↔ ∃ text, C.canonicalize value = some text ∧ encodeUtf8 text = bytes := by
  simp only [canonicalJsonBytes, canonicalJson, bind_eq_ok, pure_eq_ok, required_eq_ok]

theorem parseExactCanonicalJson_eq_ok :
    C.parseExactCanonicalJson bytes = .ok value ↔
      ∃ text, decodeUtf8 bytes = some text ∧ C.parse text = some value ∧ C.canonicalize value = some text := by
  simp only [parseExactCanonicalJson, canonicalJson, bind_eq_ok, pure_eq_ok, required_eq_ok, throwIf_eq_ok, not_not]
  constructor
  · rintro ⟨text, htext, _, hparsed, canonical, hcanonical, -, rfl, rfl⟩
    exact ⟨canonical, htext, hparsed, hcanonical⟩
  · rintro ⟨text, htext, hparsed, hcanonical⟩
    exact ⟨text, htext, value, hparsed, text, hcanonical, ⟨⟩, rfl, rfl⟩

theorem canonicalJsonBytes_sorted (hC : C.Rfc8785) (h : C.canonicalJsonBytes value = .ok bytes) :
    C.canonicalJsonBytes value.sorted = .ok bytes := by
  obtain ⟨text, htext, rfl⟩ := canonicalJsonBytes_eq_ok.mp h
  exact canonicalJsonBytes_eq_ok.mpr ⟨text, hC.canonicalize_sorted htext, rfl⟩

/-- What is written is read back. -/
theorem parse_canonicalJsonBytes (hC : C.Rfc8785) (h : C.canonicalJsonBytes value = .ok bytes) :
    C.parseExactCanonicalJson bytes = .ok value.sorted := by
  obtain ⟨text, htext, rfl⟩ := canonicalJsonBytes_eq_ok.mp h
  exact parseExactCanonicalJson_eq_ok.mpr
    ⟨text, decodeUtf8_encodeUtf8 (hC.unmarked htext), hC.parse_canonicalize htext, hC.canonicalize_sorted htext⟩

/-- Values that are written as the same bytes are the same but for the order of members. -/
theorem sorted_eq (hC : C.Rfc8785) {value' : Json} (h : C.canonicalJsonBytes value = .ok bytes)
    (h' : C.canonicalJsonBytes value' = .ok bytes) : value.sorted = value'.sorted := by
  have hread := parse_canonicalJsonBytes hC h
  rw [parse_canonicalJsonBytes hC h'] at hread
  exact (Except.ok.inj hread).symm

/-- A value that is read has its members in order. -/
theorem sorted_of_parse (hC : C.Rfc8785) (h : C.parseExactCanonicalJson bytes = .ok value) : value.sorted = value := by
  obtain ⟨text, -, hparsed, hcanonical⟩ := parseExactCanonicalJson_eq_ok.mp h
  rw [hC.parse_canonicalize hcanonical, Option.some.injEq] at hparsed
  exact hparsed

theorem canonicalJsonBytes_unmarked (hC : C.Rfc8785) (h : C.canonicalJsonBytes value = .ok bytes) : ¬HasByteOrderMark bytes := by
  obtain ⟨text, htext, rfl⟩ := canonicalJsonBytes_eq_ok.mp h
  exact fun hmark => hC.unmarked htext (head_of_hasByteOrderMark hmark)

/-- Bytes that are read are the canonical bytes just if they bear no mark. -/
theorem exact_iff (hC : C.Rfc8785) (h : C.parseExactCanonicalJson bytes = .ok value) :
    C.canonicalJsonBytes value = .ok bytes ↔ ¬HasByteOrderMark bytes := by
  obtain ⟨text, htext, -, hcanonical⟩ := parseExactCanonicalJson_eq_ok.mp h
  rw [← encodeUtf8_eq_iff htext (hC.unmarked hcanonical), canonicalJsonBytes_eq_ok]
  constructor
  · rintro ⟨text', htext', hbytes⟩
    rw [hcanonical, Option.some.injEq] at htext'
    rwa [htext']
  · exact fun hbytes => ⟨text, hcanonical, hbytes⟩

theorem parseExactCanonicalJson_marked (hC : C.Rfc8785) (h : C.canonicalJsonBytes value = .ok bytes) :
    C.parseExactCanonicalJson (byteOrderMark ++ bytes) = .ok value.sorted := by
  obtain ⟨text, htext, rfl⟩ := canonicalJsonBytes_eq_ok.mp h
  exact parseExactCanonicalJson_eq_ok.mpr
    ⟨text, decodeUtf8_marked text, hC.parse_canonicalize htext, hC.canonicalize_sorted htext⟩

end JsonCodec

/-! ### Codecs of finitely many texts -/

section Table

/-- A codec that knows the texts of some objects. -/
def tableCodec (table : List (List (String × Json) × String)) : JsonCodec :=
  ⟨fun text => (table.find? fun e => e.2 = text).map fun e => (Json.object e.1).sorted,
    fun value => (table.find? fun e => (Json.object e.1).sorted = value.sorted).map Prod.snd⟩

/-- The objects are told apart by some of their names, the texts by their first characters. -/
structure Separated (names : List String) (table : List (List (String × Json) × String)) : Prop where
  distinct : ∀ e ∈ table, Json.Distinct e.1
  values : (table.map fun e => names.map fun name => (Entries.lookup name e.1).isSome).Nodup
  texts : (table.map fun e => (e.2.toList.drop 2).take 2).Nodup
  unmarked : ∀ e ∈ table, e.2.toList.head? ≠ some '\uFEFF'

theorem find?_key {α κ : Type} [DecidableEq κ] {f : α → κ} : ∀ {entries : List α} {a : α}, (∀ b ∈ entries, f b = f a → b = a) →
    a ∈ entries → (entries.find? fun b => f b = f a) = some a
  | [], _, _, ha => absurd ha List.not_mem_nil
  | b :: rest, a, hf, ha => by
    by_cases hb : f b = f a
    · simp only [List.find?_cons, decide_true, hf b List.mem_cons_self hb]
    · simp only [List.find?_cons, hb, decide_false]
      refine find?_key (fun c hc => hf c (List.mem_cons_of_mem b hc)) ((List.mem_cons.mp ha).resolve_left ?_)
      exact fun heq => hb (heq ▸ rfl)

variable {names : List String} {table : List (List (String × Json) × String)}

theorem Separated.eq_of_value (h : Separated names table) {e e' : List (String × Json) × String} (he : e ∈ table) (he' : e' ∈ table)
    (heq : (Json.object e.1).sorted = (Json.object e'.1).sorted) : e = e' := by
  refine List.inj_on_of_nodup_map h.values he he' (List.map_congr_left fun name _ => ?_)
  have hfield := congrArg (Json.field name) heq
  rw [Json.field_sorted (h.distinct e he), Json.field_sorted (h.distinct e' he'), Json.field, Json.field] at hfield
  rw [← Option.isSome_map, hfield, Option.isSome_map]

theorem Separated.eq_of_text (h : Separated names table) {e e' : List (String × Json) × String} (he : e ∈ table) (he' : e' ∈ table)
    (heq : e.2 = e'.2) : e = e' := by
  refine List.inj_on_of_nodup_map h.texts he he' ?_
  rw [heq]

theorem Separated.canonicalize (h : Separated names table) {e : List (String × Json) × String} (he : e ∈ table) :
    (tableCodec table).canonicalize (.object e.1) = some e.2 := by
  have hfound := find?_key (f := fun e : List (String × Json) × String => (Json.object e.1).sorted) (fun b hb heq => h.eq_of_value hb he heq) he
  exact (congrArg (Option.map Prod.snd) hfound)

theorem Separated.rfc8785 (h : Separated names table) : (tableCodec table).Rfc8785 := by
  have hentry : ∀ {value : Json} {text : String}, (tableCodec table).canonicalize value = some text →
      ∃ e ∈ table, (Json.object e.1).sorted = value.sorted ∧ e.2 = text := by
    intro value text hvalue
    obtain ⟨e, he, htext⟩ := Option.map_eq_some_iff.mp hvalue
    have hsorted := List.find?_some (p := fun e : List (String × Json) × String => decide ((Json.object e.1).sorted = value.sorted)) he
    exact ⟨e, List.mem_of_find?_eq_some he, of_decide_eq_true hsorted, htext⟩
  constructor
  · intro value text hvalue
    obtain ⟨e, he, hsorted, rfl⟩ := hentry hvalue
    have hfound := find?_key (f := Prod.snd) (fun b hb heq => h.eq_of_text hb he heq) he
    rw [← hsorted]
    exact congrArg (Option.map fun e => (Json.object e.1).sorted) hfound
  · intro value text hvalue
    have hsame : (tableCodec table).canonicalize value.sorted = (tableCodec table).canonicalize value := by
      change Option.map Prod.snd (table.find? fun e => decide ((Json.object e.1).sorted = value.sorted.sorted)) = _
      rw [Json.sorted_sorted]
      rfl
    rw [hsame, hvalue]
  · intro value text hvalue
    obtain ⟨e, he, -, rfl⟩ := hentry hvalue
    exact h.unmarked e he

end Table

end Protected
end Evllm
