import AnswerStream.Text.Utf8
import Mathlib.Data.List.Basic

/-!
Texts and their octets. Decoding is the inverse of encoding, and an ASCII octet stands in the octets
of a text only for its own character, so that line feeds and carriage returns can be looked for in
either.
-/

namespace AnswerStream.Utf8

theorem encode_eq_flatMap (s : String) : encode s = s.toList.flatMap String.utf8EncodeChar := by
  rw [encode, String.toUTF8_eq_toByteArray, ← String.utf8Encode_toList]
  simp [List.utf8Encode]

@[simp] theorem encode_append (s t : String) : encode (s ++ t) = encode s ++ encode t := by
  simp [encode_eq_flatMap]

theorem decode?_eq_some_iff {bytes : List UInt8} {s : String} :
    decode? bytes = some s ↔ bytes = encode s := by
  have hencode : bytes = encode s ↔ (⟨bytes.toArray⟩ : ByteArray) = s.toByteArray := by
    rw [encode, String.toUTF8_eq_toByteArray, ByteArray.ext_iff, ← Array.toList_inj]
  rw [hencode, decode?, String.fromUTF8?]
  constructor
  · intro h
    split at h
    · rw [← Option.some.inj h]
      rfl
    · cases h
  · intro h
    have hv : ByteArray.IsValidUTF8 ⟨bytes.toArray⟩ := h ▸ s.isValidUTF8
    rw [dif_pos hv, Option.some.injEq, ← String.toByteArray_inj, ← h]
    rfl

@[simp] theorem decode?_encode (s : String) : decode? (encode s) = some s :=
  decode?_eq_some_iff.mpr rfl

theorem encodeChar_of_lt {c : Char} (h : c.toNat < 128) :
    String.utf8EncodeChar c = [UInt8.ofNat c.toNat] :=
  if_pos (show c.toNat ≤ 127 by omega)

theorem le_of_mem_encodeChar {c : Char} (h : 128 ≤ c.toNat) {b : UInt8}
    (hb : b ∈ String.utf8EncodeChar c) : 128 ≤ b.toNat := by
  have hc : ¬ c.val.toNat ≤ 127 := show ¬ c.toNat ≤ 127 by omega
  simp only [String.utf8EncodeChar, hc, if_false] at hb
  split_ifs at hb <;> simp only [List.mem_cons, List.mem_nil_iff, or_false] at hb <;>
    rcases hb with rfl | rfl | rfl | rfl <;> simp only [UInt8.toNat_ofNat'] <;> omega

/-- An octet below 128 is the whole of the character that it stands in. -/
theorem mem_encodeChar_iff {b : UInt8} {c : Char} (hlt : b.toNat < 128) :
    b ∈ String.utf8EncodeChar c ↔ c.toNat = b.toNat := by
  by_cases h : c.toNat < 128
  · rw [encodeChar_of_lt h, List.mem_singleton, ← UInt8.toNat_inj, UInt8.toNat_ofNat']
    omega
  · constructor
    · intro hb
      have := le_of_mem_encodeChar (by omega) hb
      omega
    · omega

theorem mem_encode_iff {s : String} {b : UInt8} {c : Char} (hc : c.toNat = b.toNat)
    (hlt : b.toNat < 128) : b ∈ encode s ↔ c ∈ s.toList := by
  simp only [encode_eq_flatMap, List.mem_flatMap, mem_encodeChar_iff hlt, ← hc, Char.toNat_inj,
    exists_eq_right]

theorem getLast?_encode_iff {s : String} {b : UInt8} {c : Char} (hc : c.toNat = b.toNat)
    (hlt : b.toNat < 128) : (encode s).getLast? = some b ↔ s.toList.getLast? = some c := by
  rw [encode_eq_flatMap]
  obtain hs | ⟨init, d, hs⟩ := List.eq_nil_or_concat s.toList
  · simp [hs]
  · have hlast : (init ++ [d]).flatMap String.utf8EncodeChar =
        init.flatMap String.utf8EncodeChar ++ String.utf8EncodeChar d := by simp
    rw [hs, List.concat_eq_append, hlast, List.getLast?_concat, Option.some.injEq,
      List.getLast?_append_of_ne_nil _ String.utf8EncodeChar_ne_nil]
    constructor
    · intro h
      have hd := (mem_encodeChar_iff hlt).mp (List.mem_of_getLast? h)
      exact Char.toNat_inj.mp (hd.trans hc.symm)
    · rintro rfl
      rw [encodeChar_of_lt (by omega), hc, UInt8.ofNat_toNat]
      rfl

end AnswerStream.Utf8
