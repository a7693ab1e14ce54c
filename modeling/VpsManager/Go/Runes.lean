import VpsManager.Go.Text

namespace VpsManager.Go

theorem bytes_append (left right : String) : bytes (left ++ right) = bytes left ++ bytes right := by
  simp [bytes]

theorem bytes_eq_flatMap (text : String) :
    bytes text = text.toList.flatMap String.utf8EncodeChar := by
  have same : text.toByteArray = text.toList.utf8Encode := by
    rw [← String.toByteArray_ofList, String.ofList_toList]
  change text.toByteArray.data.toList = _
  rw [same]
  simp [List.utf8Encode]

theorem toNat_byte {n : Nat} (small : n < 256) : (UInt8.ofNat n).toNat = n := by
  rw [UInt8.toNat_ofNat', Nat.mod_eq_of_lt small]

theorem isContinuation_iff (b : UInt8) :
    isContinuation b = true ↔ 128 ≤ b.toNat ∧ b.toNat < 192 := by
  simp [isContinuation, UInt8.le_iff_toNat_le, UInt8.lt_iff_toNat_lt]

section Runes

variable {a b c d : UInt8} {v : Nat} (rest : Bytes)

theorem decodeRune_one (first : a.toNat = v) (range : v ≤ 127) :
    decodeRune (a :: rest) = some (Char.ofNat v, rest) := by
  have small : a < 0x80 := by
    rw [UInt8.lt_iff_toNat_lt]
    change a.toNat < 128
    omega
  rw [← first]
  exact if_pos small

theorem decodeRune_two (first : a.toNat = v / 64 % 32 + 192) (second : b.toNat = v % 64 + 128)
    (range : 128 ≤ v ∧ v ≤ 2047) :
    decodeRune (a :: b :: rest) = some (Char.ofNat v, rest) := by
  simp only [decodeRune, Bool.and_eq_true, decide_eq_true_eq, isContinuation_iff,
    UInt8.le_iff_toNat_le, UInt8.lt_iff_toNat_lt, first, second, UInt8.reduceToNat]
  rw [if_neg (by omega), if_pos (by omega)]
  congr 3
  omega

theorem decodeRune_three (first : a.toNat = v / 4096 % 16 + 224)
    (second : b.toNat = v / 64 % 64 + 128) (third : c.toNat = v % 64 + 128)
    (range : 2048 ≤ v ∧ v ≤ 65535) (scalar : v < 0xD800 ∨ 0xE000 ≤ v) :
    decodeRune (a :: b :: c :: rest) = some (Char.ofNat v, rest) := by
  have sum : (v / 4096 % 16 + 224) % 16 * 4096 + (v / 64 % 64 + 128) % 64 * 64 +
      (v % 64 + 128) % 64 = v := by omega
  simp only [decodeRune, Bool.and_eq_true, Bool.or_eq_true, decide_eq_true_eq, isContinuation_iff,
    UInt8.le_iff_toNat_le, UInt8.lt_iff_toNat_lt, first, second, third, UInt8.reduceToNat, sum]
  rw [if_neg (by omega), if_neg (by omega), if_pos (by omega)]

theorem decodeRune_four (first : a.toNat = v / 262144 % 8 + 240)
    (second : b.toNat = v / 4096 % 64 + 128) (third : c.toNat = v / 64 % 64 + 128)
    (fourth : d.toNat = v % 64 + 128) (range : 65536 ≤ v ∧ v < 0x110000) :
    decodeRune (a :: b :: c :: d :: rest) = some (Char.ofNat v, rest) := by
  have sum : (v / 262144 % 8 + 240) % 8 * 262144 + (v / 4096 % 64 + 128) % 64 * 4096 +
      (v / 64 % 64 + 128) % 64 * 64 + (v % 64 + 128) % 64 = v := by omega
  simp only [decodeRune, Bool.and_eq_true, Bool.or_eq_true, decide_eq_true_eq, isContinuation_iff,
    UInt8.le_iff_toNat_le, UInt8.lt_iff_toNat_lt, first, second, third, fourth,
    UInt8.reduceToNat, sum]
  rw [if_neg (by omega), if_neg (by omega), if_neg (by omega), if_pos (by omega)]

end Runes

theorem decodeRune_utf8EncodeChar (c : Char) (rest : Bytes) :
    decodeRune (String.utf8EncodeChar c ++ rest) = some (c, rest) := by
  have scalar : c.toNat < 0xD800 ∨ 0xDFFF < c.toNat ∧ c.toNat < 0x110000 := c.valid
  have whole : Char.ofNat c.toNat = c := Char.ofNat_toNat c
  have code : c.val.toNat = c.toNat := rfl
  rw [String.utf8EncodeChar]
  simp only [code]
  generalize c.toNat = v at *
  subst whole
  split
  · exact decodeRune_one rest (toNat_byte (by omega)) (by omega)
  split
  · exact decodeRune_two rest (toNat_byte (by omega)) (toNat_byte (by omega)) (by omega)
  split
  · exact decodeRune_three rest (toNat_byte (by omega)) (toNat_byte (by omega))
      (toNat_byte (by omega)) (by omega) (by omega)
  · exact decodeRune_four rest (toNat_byte (by omega)) (toNat_byte (by omega))
      (toNat_byte (by omega)) (toNat_byte (by omega)) (by omega)

end VpsManager.Go
