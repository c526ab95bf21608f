import Mathlib.Data.List.Basic
import TrackSelect.Text.Bytes

/-!
# Reading UTF-8 back

A character is written as a lead byte and up to three bytes behind it, with six bits each. The lead
byte tells how many there are, and bounds the next one where a smaller number of bytes, a surrogate
or too large a code point is to be kept out. What a character is written as lies within the bounds
(`decodeFrom_char`), so what a text is written as is read as that text (`decode_encode`), be it
given as bytes or as a byte text (`toText_ofText`).
-/

namespace TrackSelect.Text.Utf8

/-! ## The bytes of a text -/

theorem toList_loop (bytes : ByteArray) (place : Nat) (before : List UInt8) :
    ByteArray.toList.loop bytes place before =
      before.reverse ++ bytes.data.toList.drop place := by
  fun_induction ByteArray.toList.loop bytes place before with
  | case1 place before hlt ih =>
    have hin : place < bytes.data.toList.length := hlt
    rw [ih, List.drop_eq_getElem_cons hin]
    simp [ByteArray.get!, hlt]
  | case2 place before hend =>
    have hle : bytes.data.toList.length ≤ place := Nat.le_of_not_lt hend
    rw [List.drop_eq_nil_of_le hle, List.append_nil]

theorem toList_eq_data (bytes : ByteArray) : bytes.toList = bytes.data.toList := by
  rw [ByteArray.toList, toList_loop]
  rfl

/-- A text is written character by character. -/
theorem encode_eq (text : String) : encode text = text.toList.flatMap String.utf8EncodeChar := by
  have hbytes : text.toUTF8 = text.toList.utf8Encode := by
    rw [String.toUTF8_eq_toByteArray, ← String.toByteArray_ofList, String.ofList_toList]
  rw [encode, hbytes, toList_eq_data, List.utf8Encode, List.toList_data_toByteArray]

/-! ## One byte -/

section Lead

variable {v : Nat}

theorem start_one (h : v ≤ 0x7F) : start v = ([Char.ofNat v], none) :=
  if_pos (by omega)

theorem start_two (hlow : 0x80 ≤ v) (hhigh : v ≤ 0x7FF) :
    start (v / 64 % 32 + 192) = ([], some ⟨1, 0x80, 0xBF, v / 64⟩) := by
  have hbits : v / 64 % 32 + 192 - 192 = v / 64 := by omega
  rw [start, if_neg (by omega), if_pos (by simp; omega), hbits]

/-- The lead byte of three says what may come next, and what does come next is none of the rest. -/
theorem start_three (hlow : 0x800 ≤ v) (hhigh : v ≤ 0xFFFF) (hvalid : v < 0xD800 ∨ 0xDFFF < v) :
    ∃ low high, start (v / 4096 % 16 + 224) = ([], some ⟨2, low, high, v / 4096⟩) ∧
      low ≤ v / 64 % 64 + 128 ∧ v / 64 % 64 + 128 ≤ high := by
  have hbits : v / 4096 % 16 + 224 - 224 = v / 4096 := by omega
  rw [start, if_neg (by omega), if_neg (by simp)]
  -- a code point that fits in two bytes is kept out by one bound, a surrogate by the other
  by_cases hzero : v / 4096 = 0
  · exact ⟨0xA0, 0xBF, by simp [hzero], by omega, by omega⟩
  · rw [if_neg (by omega)]
    by_cases hmany : v / 4096 = 13
    · exact ⟨0x80, 0x9F, by simp [hmany], by omega, by omega⟩
    · refine ⟨0x80, 0xBF, ?_, by omega, by omega⟩
      rw [if_neg (by omega), if_pos (by simp; omega), hbits]

/-- So does the lead byte of four. -/
theorem start_four (hlow : 0x10000 ≤ v) (hhigh : v < 0x110000) :
    ∃ low high, start (v / 262144 % 8 + 240) = ([], some ⟨3, low, high, v / 262144⟩) ∧
      low ≤ v / 4096 % 64 + 128 ∧ v / 4096 % 64 + 128 ≤ high := by
  have hbits : v / 262144 % 8 + 240 - 240 = v / 262144 := by omega
  rw [start, if_neg (by omega), if_neg (by simp), if_neg (by omega), if_neg (by omega),
    if_neg (by simp)]
  by_cases hzero : v / 262144 = 0
  · exact ⟨0x90, 0xBF, by simp [hzero], by omega, by omega⟩
  · rw [if_neg (by omega)]
    by_cases hmost : v / 262144 = 4
    · exact ⟨0x80, 0x8F, by simp [hmost], by omega, by omega⟩
    · refine ⟨0x80, 0xBF, ?_, by omega, by omega⟩
      rw [if_neg (by omega), if_pos (by simp; omega), hbits]

end Lead

section Following

variable {low high bits six : Nat}

/-- The last six bits make the character. -/
theorem goOn_last (hlow : low ≤ six + 128) (hhigh : six + 128 ≤ high) :
    goOn ⟨1, low, high, bits⟩ (six + 128) = ([Char.ofNat (bits * 64 + six)], none) := by
  simp [goOn, hlow, hhigh]

/-- Six bits in front of others come to the bits so far. -/
theorem goOn_more (owed : Nat) (hlow : low ≤ six + 128) (hhigh : six + 128 ≤ high) :
    goOn ⟨owed + 2, low, high, bits⟩ (six + 128) =
      ([], some ⟨owed + 1, 0x80, 0xBF, bits * 64 + six⟩) := by
  simp [goOn, hlow, hhigh]

end Following

/-! ## One character -/

theorem decodeFrom_start {n : Nat} (h : n < 256) (rest : List UInt8) :
    decodeFrom none (UInt8.ofNat n :: rest) =
      (start n).1 ++ decodeFrom (start n).2 rest := by
  rw [decodeFrom, UInt8.toNat_ofNat_of_lt' h]

theorem decodeFrom_goOn {n : Nat} (h : n < 256) (begun : Begun) (rest : List UInt8) :
    decodeFrom (some begun) (UInt8.ofNat n :: rest) =
      (goOn begun n).1 ++ decodeFrom (goOn begun n).2 rest := by
  rw [decodeFrom, UInt8.toNat_ofNat_of_lt' h]

/-- **What a character is written as is read as that character**, whatever comes behind it. -/
theorem decodeFrom_char (c : Char) (rest : List UInt8) :
    decodeFrom none (String.utf8EncodeChar c ++ rest) = c :: decodeFrom none rest := by
  have hvalid : c.val.toNat < 0xD800 ∨ 0xDFFF < c.val.toNat ∧ c.val.toNat < 0x110000 := c.valid
  have hchar : ∀ v, v = c.val.toNat → Char.ofNat v = c := by
    rintro _ rfl
    exact Char.ofNat_toNat c
  rw [String.utf8EncodeChar]
  generalize c.val.toNat = v at hvalid hchar ⊢
  -- one case for each number of bytes
  split_ifs with hone htwo hthree
  · rw [List.singleton_append, decodeFrom_start (by omega), start_one hone, hchar v rfl]
    rfl
  · rw [List.cons_append, decodeFrom_start (by omega), start_two (by omega) htwo,
      List.singleton_append, List.nil_append, decodeFrom_goOn (by omega),
      goOn_last (by omega) (by omega), hchar _ (by omega)]
    rfl
  · obtain ⟨low, high, hstart, hlow, hhigh⟩ := start_three (by omega) hthree (by omega)
    rw [List.cons_append, decodeFrom_start (by omega), hstart, List.cons_append, List.nil_append,
      decodeFrom_goOn (by omega), goOn_more 0 hlow hhigh, List.singleton_append, List.nil_append,
      decodeFrom_goOn (by omega), goOn_last (by omega) (by omega), hchar _ (by omega)]
    rfl
  · obtain ⟨low, high, hstart, hlow, hhigh⟩ := start_four (v := v) (by omega) (by omega)
    rw [List.cons_append, decodeFrom_start (by omega), hstart, List.cons_append, List.nil_append,
      decodeFrom_goOn (by omega), goOn_more 1 hlow hhigh, List.cons_append, List.nil_append,
      decodeFrom_goOn (by omega), goOn_more 0 (by omega) (by omega), List.singleton_append,
      List.nil_append, decodeFrom_goOn (by omega), goOn_last (by omega) (by omega),
      hchar _ (by omega)]
    rfl

/-- **A text is read back from its bytes.** -/
theorem decode_encode (text : String) : decode (encode text) = text := by
  have hchars : ∀ cs : List Char, decodeFrom none (cs.flatMap String.utf8EncodeChar) = cs := by
    intro cs
    induction cs with
    | nil => rfl
    | cons c cs ih => rw [List.flatMap_cons, decodeFrom_char, ih]
  rw [decode, encode_eq, hchars, String.ofList_toList]

end TrackSelect.Text.Utf8

namespace TrackSelect.Text.Bytes

theorem toByte_ofByte (byte : UInt8) : toByte (ofByte byte) = byte := by
  have hvalid : byte.toNat.isValidChar := .inl (Nat.lt_trans byte.toNat_lt (by decide))
  have hnumber : (ofByte byte).toNat = byte.toNat := by
    rw [ofByte, Char.ofNat, dif_pos hvalid]
    rfl
  rw [toByte, hnumber, UInt8.ofNat_toNat]

/-- **So is a text from its byte text.** -/
theorem toText_ofText (text : String) : toText (ofText text) = text := by
  have hbytes : (ofText text).toList.map toByte = Utf8.encode text := by
    rw [ofText, String.toList_ofList, List.map_map]
    exact (List.map_congr_left fun byte _ => toByte_ofByte byte).trans (List.map_id _)
  rw [toText, hbytes, Utf8.decode_encode]

end TrackSelect.Text.Bytes
