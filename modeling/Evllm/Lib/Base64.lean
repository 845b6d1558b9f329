/-
# Base64

Groups of three bytes as four sextets, written in one of two alphabets: the standard
one, padded to whole groups, and that for URLs, not padded. Reading accepts both
alphabets, skips any other character and ends at the first `=`, as `Buffer.from` does.

Key definitions: `sextets`, `octets`, `toBase64`, `toBase64Url`, `ofBase64`.
Key theorems: `octets_sextets`, `ofBase64_toBase64`, `ofBase64_toBase64Url`, `ofBase64_length`.
-/
import Mathlib.Data.List.TakeWhile

namespace Lib
namespace Base64

/-! ### Bytes and sextets -/

def sextets : List UInt8 → List ℕ
  | [] => []
  | [a] => [a.toNat / 4, a.toNat % 4 * 16]
  | [a, b] => [a.toNat / 4, a.toNat % 4 * 16 + b.toNat / 16, b.toNat % 16 * 4]
  | a :: b :: c :: rest =>
    a.toNat / 4 :: (a.toNat % 4 * 16 + b.toNat / 16) :: (b.toNat % 16 * 4 + c.toNat / 64) :: c.toNat % 64 :: sextets rest

/-- A last group of one sextet holds no byte. -/
def octets : List ℕ → List UInt8
  | p :: q :: r :: s :: rest =>
    UInt8.ofNat (p * 4 + q / 16) :: UInt8.ofNat (q % 16 * 16 + r / 4) :: UInt8.ofNat (r % 4 * 64 + s) :: octets rest
  | [p, q, r] => [UInt8.ofNat (p * 4 + q / 16), UInt8.ofNat (q % 16 * 16 + r / 4)]
  | [p, q] => [UInt8.ofNat (p * 4 + q / 16)]
  | _ => []

/-- The first byte of a group, from its first two sextets. -/
theorem first_octet (a : UInt8) {low : ℕ} (h : low < 16) :
    UInt8.ofNat (a.toNat / 4 * 4 + (a.toNat % 4 * 16 + low) / 16) = a := by
  have hsum : a.toNat / 4 * 4 + (a.toNat % 4 * 16 + low) / 16 = a.toNat := by omega
  rw [hsum, UInt8.ofNat_toNat]

theorem second_octet (b : UInt8) {high low : ℕ} (h : low < 4) :
    UInt8.ofNat ((high * 16 + b.toNat / 16) % 16 * 16 + (b.toNat % 16 * 4 + low) / 4) = b := by
  have hlt := b.toNat_lt
  have hsum : (high * 16 + b.toNat / 16) % 16 * 16 + (b.toNat % 16 * 4 + low) / 4 = b.toNat := by omega
  rw [hsum, UInt8.ofNat_toNat]

theorem third_octet (c : UInt8) (high : ℕ) : UInt8.ofNat ((high * 4 + c.toNat / 64) % 4 * 64 + c.toNat % 64) = c := by
  have hlt := c.toNat_lt
  have hsum : (high * 4 + c.toNat / 64) % 4 * 64 + c.toNat % 64 = c.toNat := by omega
  rw [hsum, UInt8.ofNat_toNat]

theorem octets_sextets (bytes : List UInt8) : octets (sextets bytes) = bytes := by
  induction bytes using sextets.induct with
  | case1 => rfl
  | case2 a =>
    have ha := @first_octet a 0 (by omega)
    rw [Nat.add_zero] at ha
    simp only [sextets, octets, ha]
  | case3 a b =>
    have hlt := b.toNat_lt
    have hb := @second_octet b (a.toNat % 4) 0 (by omega)
    rw [Nat.add_zero] at hb
    simp only [sextets, octets, first_octet a (show b.toNat / 16 < 16 by omega), hb]
  | case4 a b c rest ih =>
    have hb := b.toNat_lt
    have hc := c.toNat_lt
    simp only [sextets, octets, first_octet a (show b.toNat / 16 < 16 by omega),
      second_octet b (show c.toNat / 64 < 4 by omega), third_octet, ih]

theorem sextets_lt (bytes : List UInt8) : ∀ n ∈ sextets bytes, n < 64 := by
  induction bytes using sextets.induct with
  | case1 => exact fun n hn => absurd hn List.not_mem_nil
  | case2 a =>
    have ha := a.toNat_lt
    simp only [sextets, List.mem_cons, List.not_mem_nil, or_false, forall_eq_or_imp, forall_eq]
    omega
  | case3 a b =>
    have ha := a.toNat_lt
    have hb := b.toNat_lt
    simp only [sextets, List.mem_cons, List.not_mem_nil, or_false, forall_eq_or_imp, forall_eq]
    omega
  | case4 a b c rest ih =>
    have ha := a.toNat_lt
    have hb := b.toNat_lt
    have hc := c.toNat_lt
    simp only [sextets, List.mem_cons, forall_eq_or_imp]
    refine ⟨?_, ?_, ?_, ?_, ih⟩ <;> omega

/-! ### Sextets and characters -/

def standardAlphabet : List Char := "ABCDEFGHIJKLMNOPQRSTUVWXYZabcdefghijklmnopqrstuvwxyz0123456789+/".toList

def urlAlphabet : List Char := "ABCDEFGHIJKLMNOPQRSTUVWXYZabcdefghijklmnopqrstuvwxyz0123456789-_".toList

def sextetOf (c : Char) : Option ℕ :=
  if c = '-' then some 62 else if c = '_' then some 63 else standardAlphabet.idxOf? c

def encode (alphabet : List Char) (bytes : List UInt8) : List Char := (sextets bytes).map fun n => alphabet.getD n 'A'

def decode (text : List Char) : List UInt8 := octets ((text.takeWhile (· ≠ '=')).filterMap sextetOf)

/-- `bytes.toString("base64")`. -/
def toBase64 (bytes : List UInt8) : String :=
  String.ofList (encode standardAlphabet bytes ++
    List.replicate ((4 - (encode standardAlphabet bytes).length % 4) % 4) '=')

/-- `bytes.toString("base64url")`. -/
def toBase64Url (bytes : List UInt8) : String := String.ofList (encode urlAlphabet bytes)

/-- `Buffer.from(text, "base64")`, and the same with "base64url". -/
def ofBase64 (text : String) : List UInt8 := decode text.toList

/-- Reading a character of the alphabet gives its place. -/
def Reads (alphabet : List Char) : Prop :=
  ∀ n < 64, alphabet.getD n 'A' ≠ '=' ∧ sextetOf (alphabet.getD n 'A') = some n

theorem reads_standard : Reads standardAlphabet := by
  unfold Reads
  decide +kernel

theorem reads_url : Reads urlAlphabet := by
  unfold Reads
  decide +kernel

theorem read_encode {alphabet : List Char} (h : Reads alphabet) : ∀ {ns : List ℕ}, (∀ n ∈ ns, n < 64) →
    ((ns.map fun n => alphabet.getD n 'A').filterMap sextetOf) = ns
  | [], _ => rfl
  | n :: ns, hns => by
    rw [List.map_cons, List.filterMap_cons_some (h n (hns n List.mem_cons_self)).2,
      read_encode h fun m hm => hns m (List.mem_cons_of_mem n hm)]

theorem encode_ne_pad {alphabet : List Char} (h : Reads alphabet) (bytes : List UInt8) : ∀ c ∈ encode alphabet bytes, c ≠ '=' := by
  intro c hc
  obtain ⟨n, hn, rfl⟩ := List.mem_map.mp hc
  exact (h n (sextets_lt bytes n hn)).1

theorem decode_encode {alphabet : List Char} (h : Reads alphabet) (bytes : List UInt8) (pad : ℕ) :
    decode (encode alphabet bytes ++ List.replicate pad '=') = bytes := by
  have htake : (encode alphabet bytes ++ List.replicate pad '=').takeWhile (· ≠ '=') = encode alphabet bytes := by
    rw [List.takeWhile_append_of_pos fun c hc => decide_eq_true (encode_ne_pad h bytes c hc)]
    cases pad with
    | zero => exact List.append_nil _
    | succ n => simp [List.replicate_succ]
  rw [decode, htake, encode, read_encode h (sextets_lt bytes), octets_sextets]

theorem ofBase64_toBase64 (bytes : List UInt8) : ofBase64 (toBase64 bytes) = bytes := by
  rw [ofBase64, toBase64, String.toList_ofList]
  exact decode_encode reads_standard bytes _

theorem ofBase64_toBase64Url (bytes : List UInt8) : ofBase64 (toBase64Url bytes) = bytes := by
  have h := decode_encode reads_url bytes 0
  rw [List.replicate_zero, List.append_nil] at h
  rw [ofBase64, toBase64Url, String.toList_ofList]
  exact h

/-! ### Lengths -/

theorem octets_length : ∀ ns : List ℕ, (octets ns).length = ns.length / 4 * 3 + (ns.length % 4 - 1)
  | [] => rfl
  | [_] => by simp [octets]
  | [_, _] => by simp [octets]
  | [_, _, _] => by simp [octets]
  | p :: q :: r :: s :: rest => by
    simp only [octets, List.length_cons, octets_length rest]
    omega

theorem sextets_length (bytes : List UInt8) : (sextets bytes).length = (bytes.length * 4 + 2) / 3 := by
  induction bytes using sextets.induct with
  | case1 => rfl
  | case2 a => simp [sextets]
  | case3 a b => simp [sextets]
  | case4 a b c rest ih =>
    simp only [sextets, List.length_cons, ih]
    omega

theorem toBase64Url_length (bytes : List UInt8) : (toBase64Url bytes).toList.length = (bytes.length * 4 + 2) / 3 := by
  rw [toBase64Url, String.toList_ofList, encode, List.length_map, sextets_length]

theorem getD_urlAlphabet {n : ℕ} (hn : n < urlAlphabet.length) : urlAlphabet.getD n 'A' = urlAlphabet[n] := by
  rw [List.getD_eq_getElem?_getD, List.getElem?_eq_getElem hn, Option.getD_some]

theorem mem_urlAlphabet {n : ℕ} (hn : n < 64) : urlAlphabet.getD n 'A' ∈ urlAlphabet := by
  have hlt : n < urlAlphabet.length := hn
  rw [getD_urlAlphabet hlt]
  exact List.getElem_mem hlt

theorem toBase64Url_chars (bytes : List UInt8) : ∀ c ∈ (toBase64Url bytes).toList, c ∈ urlAlphabet := by
  intro c hc
  rw [toBase64Url, String.toList_ofList] at hc
  obtain ⟨n, hn, rfl⟩ := List.mem_map.mp hc
  exact mem_urlAlphabet (sextets_lt bytes n hn)

theorem reads_urlAlphabet {c : Char} (hc : c ∈ urlAlphabet) : c ≠ '=' ∧ (sextetOf c).isSome = true := by
  obtain ⟨n, hn, rfl⟩ := List.mem_iff_getElem.mp hc
  have hread := reads_url n hn
  rw [getD_urlAlphabet hn] at hread
  exact ⟨hread.1, Option.isSome_of_eq_some hread.2⟩

/-- Each character of the alphabet is a sextet. -/
theorem ofBase64_length {text : String} (h : ∀ c ∈ text.toList, c ∈ urlAlphabet) :
    (ofBase64 text).length = text.toList.length / 4 * 3 + (text.toList.length % 4 - 1) := by
  have htake : text.toList.takeWhile (· ≠ '=') = text.toList :=
    List.takeWhile_eq_self_iff.mpr fun c hc => decide_eq_true (reads_urlAlphabet (h c hc)).1
  have hlength : (text.toList.filterMap sextetOf).length = text.toList.length :=
    List.filterMap_length_eq_length.mpr fun c hc => (reads_urlAlphabet (h c hc)).2
  rw [ofBase64, decode, htake, octets_length, hlength]

example : toBase64 [104, 105, 33, 63] = "aGkhPw==" := by decide +kernel

end Base64
end Lib
