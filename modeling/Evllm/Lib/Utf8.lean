/-
# UTF-8

`TextEncoder` and `TextDecoder` as code uses them: the encoder writes the bytes of
the characters, the decoder, with `fatal`, refuses what is not well formed, and takes
away one byte order mark that the bytes begin with.

Key definitions: `encodeUtf8`, `decodeUtf8`, `HasByteOrderMark`.
Key theorems: `decodeUtf8_eq_some`, `decodeUtf8_encodeUtf8`, `decodeUtf8_marked`.
-/
import Mathlib.Tactic.Common

namespace Lib

/-- `new TextEncoder().encode(text)`. -/
def encodeUtf8 (text : String) : List UInt8 := text.toByteArray.data.toList

def byteOrderMark : List UInt8 := [0xEF, 0xBB, 0xBF]

def HasByteOrderMark (bytes : List UInt8) : Prop := byteOrderMark <+: bytes

instance (bytes : List UInt8) : Decidable (HasByteOrderMark bytes) := inferInstanceAs (Decidable (_ <+: _))

def withoutByteOrderMark (bytes : List UInt8) : List UInt8 := if HasByteOrderMark bytes then bytes.drop 3 else bytes

/-- `new TextDecoder("utf-8", { fatal: true }).decode(bytes)`. -/
def decodeUtf8 (bytes : List UInt8) : Option String := String.fromUTF8? ⟨(withoutByteOrderMark bytes).toArray⟩

theorem encodeUtf8_injective {text text' : String} (h : encodeUtf8 text = encodeUtf8 text') : text = text' := by
  rw [encodeUtf8, encodeUtf8, Array.toList_inj] at h
  exact String.toByteArray_inj.mp (ByteArray.ext h)

theorem encodeUtf8_append (text text' : String) : encodeUtf8 (text ++ text') = encodeUtf8 text ++ encodeUtf8 text' := by
  rw [encodeUtf8, String.toByteArray_append, ByteArray.data_append, Array.toList_append]
  rfl

/-- The decoder accepts the encodings of texts, after a mark or not. -/
theorem decodeUtf8_eq_some {bytes : List UInt8} {text : String} :
    decodeUtf8 bytes = some text ↔ withoutByteOrderMark bytes = encodeUtf8 text := by
  rw [decodeUtf8, String.fromUTF8?]
  constructor
  · intro h
    split_ifs at h with hvalid
    obtain rfl := Option.some.inj h
    rfl
  · intro h
    have hbytes : (⟨(withoutByteOrderMark bytes).toArray⟩ : ByteArray) = text.toByteArray := by rw [h, encodeUtf8]
    have hvalid : ByteArray.IsValidUTF8 ⟨(withoutByteOrderMark bytes).toArray⟩ := hbytes ▸ text.isValidUTF8
    rw [dif_pos hvalid, Option.some.injEq]
    exact String.toByteArray_inj.mp hbytes

/-- Bytes that begin with the mark are those of a text that begins with its character. -/
theorem head_of_hasByteOrderMark {text : String} (h : HasByteOrderMark (encodeUtf8 text)) :
    text.toList.head? = some '\uFEFF' := by
  obtain ⟨rest, hrest⟩ := h
  have hmark : byteOrderMark = String.utf8EncodeChar '\uFEFF' := by decide +kernel
  have hbytes : text.toByteArray = (String.utf8EncodeChar '\uFEFF').toByteArray ++ rest.toByteArray := by
    refine ByteArray.ext (Array.toList_inj.mp ?_)
    rw [ByteArray.data_append, Array.toList_append, List.data_toByteArray, List.data_toByteArray, ← hmark]
    exact hrest.symm
  have hfirst : text.toByteArray.utf8DecodeChar? 0 = some '\uFEFF' := by
    rw [hbytes, ByteArray.utf8DecodeChar?_utf8EncodeChar_append]
  rw [← String.ofList_toList (s := text), String.toByteArray_ofList] at hfirst
  cases hchars : text.toList with
  | nil =>
    rw [hchars] at hfirst
    exact absurd hfirst (by decide +kernel)
  | cons c cs =>
    rw [hchars, List.utf8DecodeChar?_utf8Encode_cons] at hfirst
    exact hfirst

theorem withoutByteOrderMark_of_not {bytes : List UInt8} (h : ¬HasByteOrderMark bytes) : withoutByteOrderMark bytes = bytes :=
  if_neg h

theorem decodeUtf8_encodeUtf8 {text : String} (h : text.toList.head? ≠ some '\uFEFF') : decodeUtf8 (encodeUtf8 text) = some text :=
  decodeUtf8_eq_some.mpr (withoutByteOrderMark_of_not fun hmark => h (head_of_hasByteOrderMark hmark))

/-- A mark in front of a text is not seen. -/
theorem decodeUtf8_marked (text : String) : decodeUtf8 (byteOrderMark ++ encodeUtf8 text) = some text :=
  decodeUtf8_eq_some.mpr (if_pos (List.prefix_append _ _))

/-- What is decoded is the text's own bytes just if they bear no mark. -/
theorem encodeUtf8_eq_iff {bytes : List UInt8} {text : String} (h : decodeUtf8 bytes = some text)
    (hhead : text.toList.head? ≠ some '\uFEFF') : encodeUtf8 text = bytes ↔ ¬HasByteOrderMark bytes := by
  have hbytes := decodeUtf8_eq_some.mp h
  constructor
  · rintro rfl hmark
    exact hhead (head_of_hasByteOrderMark hmark)
  · intro hnot
    rw [← hbytes, withoutByteOrderMark_of_not hnot]

end Lib
