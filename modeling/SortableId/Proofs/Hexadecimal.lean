import SortableId.Identifier.Components
import SortableId.Proofs.Characters
import SortableId.Proofs.Numerals

/-!
# Hexadecimal text is read back

Bytes are read from the digits that write them.  A number that is filled up with zeros to two digits
for each byte is the text of these bytes, so it never has an odd number of digits.
-/

namespace SortableId.Text.Hex

/-! ## Bytes -/

theorem utf8_digitChar {value : Nat} (small : value < 16) :
    ∃ byte, String.utf8EncodeChar (Nat.digitChar value) = [byte] ∧
      digit? byte = some (BitVec.ofNat 4 value) := by
  have check : ∀ value < 16, String.utf8EncodeChar (Nat.digitChar value) =
      [(Nat.digitChar value).val.toUInt8] ∧
        digit? (Nat.digitChar value).val.toUInt8 = some (BitVec.ofNat 4 value) := by decide
  exact ⟨_, check value small⟩

/-- A byte is put together again from its halves. -/
theorem append_halves (byte : UInt8) :
    UInt8.ofBitVec (BitVec.ofNat 4 (byte.toNat / 16) ++ BitVec.ofNat 4 (byte.toNat % 16)) =
      byte := by
  have bound : byte.toNat < 256 := byte.toNat_lt
  have halves : (BitVec.ofNat 4 (byte.toNat / 16) ++ BitVec.ofNat 4 (byte.toNat % 16)).toNat =
      byte.toNat := by
    rw [BitVec.toNat_append, ← Nat.shiftLeft_add_eq_or_of_lt (BitVec.isLt _), Nat.shiftLeft_eq,
      BitVec.toNat_ofNat, BitVec.toNat_ofNat]
    omega
  exact UInt8.toNat_inj.mp halves

/-- The first two digits write the first byte. -/
theorem exists_digits_cons (byte : UInt8) (rest : List UInt8) :
    ∃ high low, utf8 ((byte :: rest).flatMap encodeByte) =
        high :: low :: utf8 (rest.flatMap encodeByte) ∧
      digit? high = some (BitVec.ofNat 4 (byte.toNat / 16)) ∧
      digit? low = some (BitVec.ofNat 4 (byte.toNat % 16)) := by
  have bound : byte.toNat < 256 := byte.toNat_lt
  obtain ⟨high, encodedHigh, readHigh⟩ := utf8_digitChar (by omega : byte.toNat / 16 < 16)
  obtain ⟨low, encodedLow, readLow⟩ := utf8_digitChar (by omega : byte.toNat % 16 < 16)
  refine ⟨high, low, ?_, readHigh, readLow⟩
  simp only [utf8, encodeByte, List.flatMap_cons, List.cons_append, List.nil_append, encodedHigh,
    encodedLow]

theorem length_utf8_encode (bytes : List UInt8) :
    (utf8 (bytes.flatMap encodeByte)).length = 2 * bytes.length := by
  induction bytes with
  | nil => rfl
  | cons byte rest ih =>
      obtain ⟨high, low, digits, _⟩ := exists_digits_cons byte rest
      rw [digits, List.length_cons, List.length_cons, ih, List.length_cons]
      omega

theorem readPairs_encode (position : Nat) (bytes : List UInt8) :
    readPairs position (utf8 (bytes.flatMap encodeByte)) = .ok bytes := by
  induction bytes generalizing position with
  | nil => rfl
  | cons byte rest ih =>
      obtain ⟨high, low, digits, readHigh, readLow⟩ := exists_digits_cons byte rest
      rw [digits, readPairs, readDigit, readHigh, readDigit, readLow]
      simp only [bind, Except.bind, ih, append_halves]
      rfl

theorem decode_encode (bytes : List UInt8) : decode (encode bytes) = .ok bytes := by
  have even : ¬(utf8 (encode bytes).toList).length % 2 = 1 := by
    rw [encode, String.toList_ofList, length_utf8_encode]
    omega
  rw [decode, if_neg even, encode, String.toList_ofList]
  exact readPairs_encode 0 bytes

/-! ## Numbers -/

/-- The last digit of a number that is filled up. -/
theorem leftpad_toDigits_succ {width value : Nat} (positive : 0 < width) :
    (Nat.toDigits 16 value).leftpad (width + 1) '0' =
      (Nat.toDigits 16 (value / 16)).leftpad width '0' ++ [Nat.digitChar (value % 16)] := by
  by_cases single : value < 16
  · have high : value / 16 = 0 := Nat.div_eq_of_lt single
    have filled : List.replicate width '0' = List.replicate (width - 1) '0' ++ ['0'] := by
      rw [← List.replicate_succ', Nat.sub_add_cancel positive]
    rw [high, Nat.mod_eq_of_lt single, Nat.toDigits_of_lt_base single, Nat.toDigits_zero]
    simp [List.leftpad, filled]
  · rw [Nat.toDigits_of_base_le (by decide) (Nat.le_of_not_lt single)]
    simp [List.leftpad]

theorem leftpad_toDigits_one {value : Nat} (single : value < 16) :
    (Nat.toDigits 16 value).leftpad 1 '0' = [Nat.digitChar value] := by
  rw [Nat.toDigits_of_lt_base single]
  rfl

/-- A number filled up to two digits for each byte is the text of its bytes. -/
theorem number_eq_encode {bytes : List UInt8} (some_bytes : bytes ≠ []) :
    number (2 * bytes.length) (Chunks.number (bytes.map UInt8.toBitVec)) = encode bytes := by
  rw [number, encode]
  congr 1
  induction bytes using List.reverseRecOn with
  | nil => contradiction
  | append_singleton front byte ih =>
      have bound : byte.toNat < 256 := byte.toNat_lt
      rw [List.map_append, List.map_singleton, Chunks.number_concat, List.length_append,
        List.length_singleton, List.flatMap_append, List.flatMap_singleton, encodeByte]
      change (Nat.toDigits 16 (Chunks.number _ * 256 + byte.toNat)).leftpad _ '0' = _
      by_cases first : front = []
      · subst first
        have single : byte.toNat / 16 < 16 := by omega
        simp only [List.map_nil, Chunks.number_nil, Nat.zero_mul, Nat.zero_add, List.length_nil,
          List.flatMap_nil, List.nil_append]
        rw [leftpad_toDigits_succ Nat.one_pos, leftpad_toDigits_one single]
        rfl
      · have positive : 0 < 2 * front.length := by
          have length := List.length_pos_of_ne_nil first
          omega
        generalize Chunks.number (front.map UInt8.toBitVec) = value at ih ⊢
        have last : (value * 256 + byte.toNat) % 16 = byte.toNat % 16 := by omega
        have next : (value * 256 + byte.toNat) / 16 % 16 = byte.toNat / 16 := by omega
        have before : (value * 256 + byte.toNat) / 16 / 16 = value := by omega
        rw [Nat.mul_add, leftpad_toDigits_succ (Nat.succ_pos _), leftpad_toDigits_succ positive,
          last, next, before, ih first, List.append_assoc]
        rfl

theorem map_toBitVec_ofBitVec (chunks : List (BitVec 8)) :
    (chunks.map UInt8.ofBitVec).map UInt8.toBitVec = chunks := by
  rw [List.map_map]
  exact List.map_id chunks

/-- A word that is filled up to two digits for each of its bytes is the text of them. -/
theorem number_toNat_eq_encode {count : Nat} (positive : 0 < count) (word : BitVec (8 * count)) :
    number (2 * count) word.toNat = encode ((Chunks.split 8 count word).map UInt8.ofBitVec) := by
  have some_bytes : (Chunks.split 8 count word).map UInt8.ofBitVec ≠ [] := by
    rw [Ne, List.map_eq_nil_iff, ← List.length_eq_zero_iff, Chunks.length_split]
    exact Nat.ne_of_gt positive
  have written := number_eq_encode some_bytes
  rwa [map_toBitVec_ofBitVec, Chunks.number_split, Nat.mod_eq_of_lt word.isLt, List.length_map,
    Chunks.length_split] at written

theorem decode_number {count : Nat} (positive : 0 < count) (word : BitVec (8 * count)) :
    decode (number (2 * count) word.toNat) =
      .ok ((Chunks.split 8 count word).map UInt8.ofBitVec) := by
  rw [number_toNat_eq_encode positive, decode_encode]

theorem isAlphanum_of_mem_encode {bytes : List UInt8} {c : Char}
    (member : c ∈ (encode bytes).toList) : c.isAlphanum = true := by
  have digits : ∀ value < 16, (Nat.digitChar value).isAlphanum = true := by decide
  rw [encode, String.toList_ofList, List.mem_flatMap] at member
  obtain ⟨byte, _, written⟩ := member
  have bound : byte.toNat < 256 := byte.toNat_lt
  simp only [encodeByte, List.mem_cons, List.not_mem_nil, or_false] at written
  obtain rfl | rfl := written
  · exact digits _ (by omega)
  · exact digits _ (by omega)

end SortableId.Text.Hex

namespace SortableId.Components

/-- The low bits of a word survive its hexadecimal text. -/
theorem withRandomHex_number (components : Components) (word : BitVec 64) :
    components.withRandomHex (Text.Hex.number 16 word.toNat) =
      .ok { components with random := (word.setWidth 60).setWidth 64 } := by
  have read : Text.Hex.decode (Text.Hex.number 16 word.toNat) =
      .ok ((Chunks.split 8 8 word).map UInt8.ofBitVec) :=
    Text.Hex.decode_number (by decide : 0 < 8) word
  have fits : 64 = 8 * 8 := rfl
  simp only [withRandomHex, read, randomOfBytes, Text.Hex.map_toBitVec_ofBitVec,
    Chunks.join_split fits]

end SortableId.Components
