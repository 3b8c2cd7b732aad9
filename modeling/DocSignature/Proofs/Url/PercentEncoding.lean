import DocSignature.Url.Percent
import Mathlib.Tactic.IntervalCases

/-!
# Percent-encoding loses nothing

A byte stands in a URL as itself or as `%` and two digits.  Where `%` and all bytes outside ASCII
are encoded, what encodes some bytes decodes to them, so no two rows of bytes are encoded alike.
Text without a character that has to be encoded is left as it is.
-/

set_option autoImplicit false

namespace DocSignature

namespace Text

/-- A text is encoded character by character. -/
theorem utf8Bytes_ofList (cs : List Char) :
    utf8Bytes (String.ofList cs) = cs.flatMap String.utf8EncodeChar := by
  have hbytes : (String.ofList cs).toUTF8 = cs.utf8Encode := String.toByteArray_ofList
  rw [utf8Bytes, hbytes, List.utf8Encode]
  exact List.toList_data_toByteArray

/-- A hexadecimal digit has the value that it was written for. -/
theorem hexValue?_upperHexDigit {d : Nat} (h : d < 16) : hexValue? (upperHexDigit d) = some d := by
  interval_cases d <;> rfl

end Text

namespace Url

open Text

/-! ## Characters and their bytes -/

/-- A character of ASCII is encoded as one byte. -/
theorem utf8EncodeChar_of_ascii {c : Char} (h : c.toNat < 128) :
    String.utf8EncodeChar c = [byteOf c] := by
  have hval : c.val.toNat ≤ 127 := Nat.le_of_lt_succ h
  simp only [String.utf8EncodeChar, if_pos hval]
  rfl

/-- The byte of a character of ASCII is its code point. -/
theorem toNat_byteOf {c : Char} (h : c.toNat < 128) : (byteOf c).toNat = c.toNat := by
  rw [byteOf, UInt8.toNat_ofNat']
  omega

/-- The character of a byte below 128 has the byte as its code point. -/
theorem toNat_ofNat_byte {b : UInt8} (h : b.toNat < 128) :
    (Char.ofNat b.toNat).toNat = b.toNat := by
  have hvalid : b.toNat.isValidChar := .inl (by omega)
  rw [Char.ofNat, dif_pos hvalid]
  rfl

/-- The byte of the character of a byte below 128 is that byte. -/
theorem byteOf_ofNat_byte {b : UInt8} (h : b.toNat < 128) : byteOf (Char.ofNat b.toNat) = b := by
  rw [byteOf, toNat_ofNat_byte h]
  exact UInt8.ofNat_toNat

/-- The bytes that are no control characters. -/
theorem controlSet_eq_false_iff {b : UInt8} :
    controlSet b = false ↔ 32 ≤ b.toNat ∧ b.toNat < 127 := by
  simp [controlSet, UInt8.lt_iff_toNat_lt, UInt8.le_iff_toNat_le]

/-- A character is one that encoding with a set leaves as it is. -/
def StandsFor (set : EncodeSet) (c : Char) : Prop :=
  c.toNat < 128 ∧ set (byteOf c) = false

/-- Characters that stand for themselves are left as they are. -/
theorem encodeChars_of_standsFor {set : EncodeSet} {cs : List Char}
    (h : ∀ c ∈ cs, StandsFor set c) : encodeChars set cs = cs := by
  rw [encodeChars, utf8Bytes_ofList, encodeBytes]
  induction cs with
  | nil => rfl
  | cons c cs ih =>
    obtain ⟨hascii, hset⟩ := h c List.mem_cons_self
    have hself : encodeByte set (byteOf c) = [c] := by
      simp [encodeByte, hset, toNat_byteOf hascii]
    have hrest := ih fun c hc => h c (List.mem_cons_of_mem _ hc)
    rw [List.flatMap_cons, List.flatMap_append, hrest, utf8EncodeChar_of_ascii hascii,
      List.flatMap_singleton, hself, List.singleton_append]

/-- What encodes a byte is `%`, a digit, or the byte itself. -/
theorem mem_encodeByte {set : EncodeSet} {b : UInt8} {c : Char} (h : c ∈ encodeByte set b) :
    c = '%' ∨ (∃ d < 16, c = upperHexDigit d) ∨ set b = false ∧ c = Char.ofNat b.toNat := by
  have hbyte := b.toNat_lt
  unfold encodeByte at h
  split at h
  · have hc : c = '%' ∨ c = upperHexDigit (b.toNat / 16) ∨ c = upperHexDigit (b.toNat % 16) := by
      simpa using h
    rcases hc with hc | hc | hc
    · exact .inl hc
    · exact .inr (.inl ⟨_, by omega, hc⟩)
    · exact .inr (.inl ⟨_, by omega, hc⟩)
  · next hset => exact .inr (.inr ⟨by simpa using hset, by simpa using h⟩)

/-- Every byte is encoded as something. -/
theorem encodeBytes_ne_nil {set : EncodeSet} {bytes : List UInt8} (h : bytes ≠ []) :
    encodeBytes set bytes ≠ [] := by
  obtain ⟨b, rest, rfl⟩ := List.exists_cons_of_ne_nil h
  rw [encodeBytes, List.flatMap_cons, encodeByte]
  split <;> simp

/-! ## Decoding -/

/-- A character other than `%` stands for its own bytes. -/
theorem decodeBytes_cons_of_ne {c : Char} (h : c ≠ '%') (rest : List Char) :
    decodeBytes (c :: rest) = utf8Bytes (String.singleton c) ++ decodeBytes rest := by
  rw [decodeBytes]
  intro a b rest' hc
  exact absurd hc h

/-- The two digits of a byte spell the byte. -/
theorem hexByte?_digits (b : UInt8) :
    hexByte? (upperHexDigit (b.toNat / 16)) (upperHexDigit (b.toNat % 16)) = some b := by
  have hbyte := b.toNat_lt
  have hvalue : b.toNat / 16 * 16 + b.toNat % 16 = b.toNat := by omega
  simp only [hexByte?, hexValue?_upperHexDigit (show b.toNat / 16 < 16 by omega),
    hexValue?_upperHexDigit (show b.toNat % 16 < 16 by omega), Option.bind_eq_bind,
    Option.bind_some, Option.pure_def, hvalue, UInt8.ofNat_toNat]

section

variable {set : EncodeSet} (hascii : ∀ b, set b = false → b.toNat < 128)
  (hpercent : set (byteOf '%') = true)

include hascii hpercent

/-- An encoded byte is decoded to that byte, whatever follows. -/
theorem decodeBytes_encodeByte_append (b : UInt8) (rest : List Char) :
    decodeBytes (encodeByte set b ++ rest) = b :: decodeBytes rest := by
  unfold encodeByte
  split
  · have hdigits := hexByte?_digits b
    simp only [List.cons_append, List.nil_append, decodeBytes, hdigits]
  · next hset =>
    have hset : set b = false := by simpa using hset
    have hb := hascii b hset
    have hne : Char.ofNat b.toNat ≠ '%' := by
      intro hc
      have hbyte : byteOf '%' = b := by rw [← hc, byteOf_ofNat_byte hb]
      rw [hbyte, hset] at hpercent
      simp at hpercent
    have hself : utf8Bytes (String.singleton (Char.ofNat b.toNat)) = [b] := by
      have hchar : (Char.ofNat b.toNat).toNat < 128 := by rwa [toNat_ofNat_byte hb]
      rw [String.singleton_eq_ofList, utf8Bytes_ofList, List.flatMap_singleton,
        utf8EncodeChar_of_ascii hchar, byteOf_ofNat_byte hb]
    rw [List.singleton_append, decodeBytes_cons_of_ne hne, hself, List.singleton_append]

/-- Encoded bytes decode to what they were. -/
theorem decodeBytes_encodeBytes (bytes : List UInt8) :
    decodeBytes (encodeBytes set bytes) = bytes := by
  induction bytes with
  | nil => rfl
  | cons b bytes ih =>
    rw [encodeBytes, List.flatMap_cons, decodeBytes_encodeByte_append hascii hpercent]
    exact congrArg (b :: ·) ih

end

end Url

end DocSignature
