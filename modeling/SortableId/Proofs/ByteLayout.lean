import SortableId.Identifier.Bytes
import SortableId.Proofs.Hexadecimal
import SortableId.Proofs.Records

/-!
# The layout in bytes

The bytes of words, with fields that meet inside a byte, write the number of the words, each cut down
to its field and shifted to its place.  Fields and bodies are determined by this number and ordered
by it, so the bytes are those of the body, words and bytes determine each other, and words that fit
are in the order of their bytes.
-/

namespace SortableId

/-- A stored body is read back. -/
theorem Body.ofBytes_bytes (body : Body) : ofBytes body.bytes = body := by
  rw [ofBytes, bytes, Text.Hex.map_toBitVec_ofBitVec]
  exact Chunks.join_split bits_eq_bytes body

/-- Bits below the places that a shift makes free are added. -/
theorem toNat_shiftLeft_or {width places : Nat} {high low : BitVec width}
    (lowFits : low.toNat < 2 ^ places) (room : high.toNat * 2 ^ places < 2 ^ width) :
    (high <<< places ||| low).toNat = high.toNat * 2 ^ places + low.toNat := by
  rw [BitVec.toNat_or, BitVec.toNat_shiftLeft, Nat.shiftLeft_eq, Nat.mod_eq_of_lt room,
    Nat.mul_comm, ← Nat.two_pow_add_eq_or_of_lt lowFits]

namespace Words

/-! ## The number of words -/

/-- The number that words stand for, each without its high bits and shifted to its place. -/
def number (words : Words) : Nat :=
  words.time.toNat % 2 ^ 48 * 2 ^ 112 + words.flags.bits.toNat * 2 ^ 104 +
    words.tenant.toNat * 2 ^ 88 + words.seq.toNat % 2 ^ 12 * 2 ^ 76 +
    words.shard.toNat * 2 ^ 60 + words.random.toNat % 2 ^ 60

/-- Words without the high bits that have no place in a body. -/
def reduced (words : Words) : Words :=
  { words with
    time := BitVec.ofNat 64 (words.time.toNat % 2 ^ 48)
    seq := BitVec.ofNat 16 (words.seq.toNat % 2 ^ 12)
    random := BitVec.ofNat 64 (words.random.toNat % 2 ^ 60) }

/-- Words that have no such bits. -/
structure Fits (words : Words) : Prop where
  time : words.time.toNat < 2 ^ 48
  seq : words.seq.toNat < 2 ^ 12
  random : words.random.toNat < 2 ^ 60

/-- The fields that words are cut down to. -/
def fields (words : Words) : Fields :=
  Fields.truncate words.time words.flags words.tenant words.seq words.shard words.random

theorem number_fields (words : Words) : words.fields.number = words.number := by
  simp only [fields, Fields.truncate, Fields.number, BitVec.toNat_setWidth]
  rfl

theorem toNat_pack_eq (words : Words) : words.pack.toNat = words.number := by
  rw [pack, Fields.toNat_pack]
  exact number_fields words

theorem words_fields (words : Words) : words.fields.words = words.reduced := by
  have cut {width low : Nat} (word : BitVec width) :
      (word.setWidth low).setWidth width = BitVec.ofNat width (word.toNat % 2 ^ low) := by
    rw [← BitVec.toNat_setWidth, BitVec.ofNat_toNat]
  simp only [fields, Fields.truncate, Fields.words, reduced, cut]

theorem words_fields_of_fits {words : Words} (fits : words.Fits) : words.fields.words = words := by
  simp only [fields, Fields.truncate, Fields.words, setWidth_setWidth_of_lt fits.time,
    setWidth_setWidth_of_lt fits.seq, setWidth_setWidth_of_lt fits.random]

/-- Words that fit are determined by their number. -/
theorem eq_unpack {words : Words} (fits : words.Fits) {body : Body}
    (written : words.number = body.toNat) : words = unpack body := by
  have same : words.fields = Fields.unpack body := by
    rw [← Fields.number_inj, number_fields, written, Fields.number_unpack]
  rw [unpack, ← same, words_fields_of_fits fits]

/-! ## Bytes of words -/

theorem toNat_nibbles {high low : Nat} (frontWide : 8 ≤ high) (backWide : 4 ≤ low)
    (front : BitVec high) (back : BitVec low) :
    (nibbles front back).toNat = front.toNat % 16 * 16 + back.toNat % 16 := by
  have frontRoom : 2 ^ 8 ≤ 2 ^ high := Nat.pow_le_pow_right (by decide) frontWide
  have backRoom : 2 ^ 4 ≤ 2 ^ low := Nat.pow_le_pow_right (by decide) backWide
  have frontMask : (0x0f : BitVec high).toNat = 2 ^ 4 - 1 :=
    (BitVec.toNat_ofNat _ _).trans (Nat.mod_eq_of_lt (Nat.lt_of_lt_of_le (by decide) frontRoom))
  have backMask : (0x0f : BitVec low).toNat = 2 ^ 4 - 1 :=
    (BitVec.toNat_ofNat _ _).trans (Nat.mod_eq_of_lt (Nat.lt_of_lt_of_le (by decide) backRoom))
  have backFits : back.toNat % 2 ^ 4 < 2 ^ 4 := Nat.mod_lt _ (by decide)
  have frontFits : front.toNat % 2 ^ 4 * 2 ^ 4 < 2 ^ 8 := by omega
  have joined := Nat.two_pow_add_eq_or_of_lt backFits (front.toNat % 2 ^ 4)
  rw [nibbles, BitVec.toNat_or, BitVec.toNat_setWidth, BitVec.toNat_setWidth,
    BitVec.toNat_shiftLeft, toNat_and_mask frontMask, toNat_and_mask backMask, Nat.shiftLeft_eq,
    Nat.mod_eq_of_lt (Nat.lt_of_lt_of_le frontFits frontRoom), Nat.mod_eq_of_lt frontFits,
    Nat.mod_eq_of_lt (Nat.lt_trans backFits (by decide)), Nat.mul_comm, ← joined]
  omega

/-- The bytes in the middle write the sequence number, the shard and the highest random bits. -/
theorem number_middle {seq shard : BitVec 16} {random : BitVec 64} (seqFits : seq.toNat < 2 ^ 12)
    (randomFits : random.toNat < 2 ^ 60) :
    Chunks.number [(seq >>> 4).setWidth 8, nibbles seq (shard >>> 12), (shard >>> 4).setWidth 8,
        nibbles shard (random >>> 56)] =
      seq.toNat * 2 ^ 20 + shard.toNat * 2 ^ 4 + random.toNat / 2 ^ 56 := by
  have shardFits : shard.toNat < 2 ^ 16 := shard.isLt
  simp only [Chunks.number_cons, Chunks.number_nil, List.length_cons, List.length_nil,
    BitVec.toNat_setWidth, BitVec.toNat_ushiftRight, Nat.shiftRight_eq_div_pow,
    toNat_nibbles (by decide : 8 ≤ 16) (by decide : 4 ≤ 16),
    toNat_nibbles (by decide : 8 ≤ 16) (by decide : 4 ≤ 64)]
  omega

/-- The bytes of words write the number of the words. -/
theorem number_bytes (words : Words) : Chunks.number words.bytes.toList = words.number := by
  have time : (words.time &&& timeMask).toNat = words.time.toNat % 2 ^ 48 := toNat_and_mask rfl _
  have seq : (words.seq &&& seqMask).toNat = words.seq.toNat % 2 ^ 12 := toNat_and_mask rfl _
  have random : (words.random &&& randomMask).toNat = words.random.toNat % 2 ^ 60 :=
    toNat_and_mask rfl _
  have tenantFits : words.tenant.toNat < 2 ^ 16 := words.tenant.isLt
  have seqFits : (words.seq &&& seqMask).toNat < 2 ^ 12 := by omega
  have randomFits : (words.random &&& randomMask).toNat < 2 ^ 60 := by omega
  have flags : Chunks.number [words.flags.bits] = words.flags.bits.toNat := by
    simp [Chunks.number]
  simp only [bytes, Vector.toList_mk, Chunks.number_append, Chunks.number_drop,
    Chunks.number_split, flags, number_middle seqFits randomFits, time, seq, random,
    Chunks.length_split, List.length_append, List.length_drop, List.length_cons, List.length_nil,
    number]
  omega

theorem bytes_eq (words : Words) :
    words.bytes.toList = Chunks.split 8 Body.byteCount words.pack := by
  apply Chunks.number_injective
  · rw [Chunks.length_split, Vector.length_toList]
    rfl
  · rw [number_bytes, Chunks.number_split, ← toNat_pack_eq]
    exact (Nat.mod_eq_of_lt words.pack.isLt).symm

/-- Words that fit into their fields are in the order of their bytes. -/
theorem compare_bytes {left right : Words} (leftFits : left.Fits) (rightFits : right.Fits) :
    compare left.bytes.toList right.bytes.toList = compare left right := by
  have cut {width low : Nat} {first second : BitVec width} (firstFits : first.toNat < 2 ^ low)
      (secondFits : second.toNat < 2 ^ low) :
      compare (first.setWidth low) (second.setWidth low) = compare first second := by
    rw [compare_eq_compare_toNat, compare_eq_compare_toNat, BitVec.toNat_setWidth,
      BitVec.toNat_setWidth, Nat.mod_eq_of_lt firstFits, Nat.mod_eq_of_lt secondFits]
  rw [bytes_eq, bytes_eq, Chunks.compare_split Body.bits_eq_bytes]
  change compare left.fields.pack right.fields.pack = _
  rw [Fields.compare_pack]
  change (compare (left.time.setWidth 48) (right.time.setWidth 48)).then
    ((compare left.flags right.flags).then
    ((compare left.tenant right.tenant).then
    ((compare (left.seq.setWidth 12) (right.seq.setWidth 12)).then
    ((compare left.shard right.shard).then
    (compare (left.random.setWidth 60) (right.random.setWidth 60)))))) = _
  rw [cut leftFits.time rightFits.time, cut leftFits.seq rightFits.seq,
    cut leftFits.random rightFits.random]
  rfl

/-! ## Words of bytes -/

section OfBytes

variable (bytes : Vector (BitVec 8) 20)

theorem number_toList_lt : Chunks.number bytes.toList < 2 ^ 160 := by
  have bound := Chunks.number_lt bytes.toList
  rwa [Vector.length_toList] at bound

theorem toNat_ofBytes :
    (Body.ofBytes (bytes.toList.map UInt8.ofBitVec)).toNat = Chunks.number bytes.toList := by
  rw [Body.ofBytes, Text.Hex.map_toBitVec_ofBitVec, Chunks.toNat_join]
  exact Nat.mod_eq_of_lt (number_toList_lt bytes)

theorem toNat_time_ofBytes :
    (ofBytes bytes).time.toNat = Chunks.number bytes.toList / 2 ^ 112 := by
  have bound := number_toList_lt bytes
  have front : Chunks.number (0 :: 0 :: bytes.toList.take 6) =
      Chunks.number bytes.toList / 2 ^ 112 := by
    have zero : (0 : BitVec 8).toNat = 0 := rfl
    rw [Chunks.number_cons, Chunks.number_cons, zero, Nat.zero_mul, Nat.zero_mul, Nat.zero_add,
      Nat.zero_add, Chunks.number_take, Vector.length_toList]
  rw [ofBytes, Chunks.toNat_join, front]
  omega

theorem toNat_tenant_ofBytes :
    (ofBytes bytes).tenant.toNat = Chunks.number bytes.toList / 2 ^ 88 % 2 ^ 16 := by
  have high := Chunks.toNat_vector_getElem bytes 7 (by decide)
  have low := Chunks.toNat_vector_getElem bytes 8 (by decide)
  rw [ofBytes, Chunks.toNat_join]
  simp only [Chunks.number_cons, Chunks.number_nil, List.length_cons, List.length_nil]
  omega

theorem toNat_seq_ofBytes :
    (ofBytes bytes).seq.toNat = Chunks.number bytes.toList / 2 ^ 76 % 2 ^ 12 := by
  have high := Chunks.toNat_vector_getElem bytes 9 (by decide)
  have low := Chunks.toNat_vector_getElem bytes 10 (by decide)
  have highWide : (bytes[9].setWidth 16).toNat = bytes[9].toNat :=
    BitVec.toNat_setWidth_of_le (by decide)
  have lowWide : ((bytes[10] >>> 4).setWidth 16).toNat = bytes[10].toNat / 2 ^ 4 := by
    rw [BitVec.toNat_setWidth_of_le (by decide), BitVec.toNat_ushiftRight,
      Nat.shiftRight_eq_div_pow]
  rw [ofBytes, toNat_shiftLeft_or (by omega) (by omega)]
  omega

theorem toNat_shard_ofBytes :
    (ofBytes bytes).shard.toNat = Chunks.number bytes.toList / 2 ^ 60 % 2 ^ 16 := by
  have first := Chunks.toNat_vector_getElem bytes 10 (by decide)
  have second := Chunks.toNat_vector_getElem bytes 11 (by decide)
  have third := Chunks.toNat_vector_getElem bytes 12 (by decide)
  have firstWide : ((bytes[10] &&& 0x0f).setWidth 16).toNat = bytes[10].toNat % 2 ^ 4 :=
    (BitVec.toNat_setWidth_of_le (by decide)).trans (toNat_and_mask rfl _)
  have secondWide : (bytes[11].setWidth 16).toNat = bytes[11].toNat :=
    BitVec.toNat_setWidth_of_le (by decide)
  have thirdWide : ((bytes[12] >>> 4).setWidth 16).toNat = bytes[12].toNat / 2 ^ 4 := by
    rw [BitVec.toNat_setWidth_of_le (by decide), BitVec.toNat_ushiftRight,
      Nat.shiftRight_eq_div_pow]
  have lower : (bytes[11].setWidth 16 <<< 4 ||| (bytes[12] >>> 4).setWidth 16).toNat =
      bytes[11].toNat * 2 ^ 4 + bytes[12].toNat / 2 ^ 4 := by
    rw [toNat_shiftLeft_or (by omega) (by omega), secondWide, thirdWide]
  rw [ofBytes, BitVec.or_assoc, toNat_shiftLeft_or (by omega) (by omega), lower]
  omega

theorem toNat_random_ofBytes :
    (ofBytes bytes).random.toNat = Chunks.number bytes.toList % 2 ^ 60 := by
  have first := Chunks.toNat_vector_getElem bytes 12 (by decide)
  have masked : (bytes[12] &&& 0x0f).toNat = bytes[12].toNat % 2 ^ 4 := toNat_and_mask rfl _
  rw [ofBytes, Chunks.toNat_join, Chunks.number_cons, Chunks.number_drop, List.length_drop,
    Vector.length_toList, masked]
  omega

theorem fits_ofBytes : (ofBytes bytes).Fits where
  time := by
    have bound := number_toList_lt bytes
    rw [toNat_time_ofBytes]
    omega
  seq := by
    rw [toNat_seq_ofBytes]
    exact Nat.mod_lt _ (by decide)
  random := by
    rw [toNat_random_ofBytes]
    exact Nat.mod_lt _ (by decide)

/-- The words of bytes write the number of the bytes. -/
theorem number_ofBytes : (ofBytes bytes).number = Chunks.number bytes.toList := by
  have bound := number_toList_lt bytes
  have flags : (ofBytes bytes).flags.bits.toNat =
      Chunks.number bytes.toList / 2 ^ (8 * (20 - (6 + 1))) % 2 ^ 8 :=
    Chunks.toNat_vector_getElem bytes 6 (by decide)
  rw [number, flags, toNat_time_ofBytes, toNat_tenant_ofBytes, toNat_seq_ofBytes,
    toNat_shard_ofBytes, toNat_random_ofBytes]
  omega

theorem ofBytes_eq : ofBytes bytes = unpack (Body.ofBytes (bytes.toList.map UInt8.ofBitVec)) := by
  apply eq_unpack (fits_ofBytes bytes)
  rw [number_ofBytes, toNat_ofBytes]

theorem bytes_ofBytes : (ofBytes bytes).bytes = bytes := by
  apply Vector.toList_inj.mp
  apply Chunks.number_injective
  · rw [Vector.length_toList, Vector.length_toList]
  · rw [number_bytes, number_ofBytes]

end OfBytes

theorem map_bytes (words : Words) : words.bytes.toList.map UInt8.ofBitVec = words.pack.bytes := by
  rw [bytes_eq]
  rfl

theorem ofBytes_bytes (words : Words) : ofBytes words.bytes = words.reduced := by
  rw [ofBytes_eq, map_bytes, Body.ofBytes_bytes, ← words_fields]
  exact Fields.unpack_pack_words words.fields

/-- Words are stored as the numeral of their number in base 256 and read back without the high bits
that have no place in it, every 20 bytes are those of the words that they hold, both directions go
through the same body, and words that fit are in the order of their bytes. -/
theorem layout_of_bytes :
    (∀ words : Words, Chunks.number words.bytes.toList = words.number ∧
      ofBytes words.bytes = words.reduced ∧
      words.bytes.toList.map UInt8.ofBitVec = words.pack.bytes) ∧
    (∀ bytes : Vector (BitVec 8) 20, (ofBytes bytes).bytes = bytes ∧
      ofBytes bytes = unpack (Body.ofBytes (bytes.toList.map UInt8.ofBitVec))) ∧
    ∀ left right : Words, left.Fits → right.Fits →
      compare left.bytes.toList right.bytes.toList = compare left right := by
  refine ⟨?_, ?_, ?_⟩
  · intro words
    exact ⟨number_bytes words, ofBytes_bytes words, map_bytes words⟩
  · intro bytes
    exact ⟨bytes_ofBytes bytes, ofBytes_eq bytes⟩
  · intro left right leftFits rightFits
    exact compare_bytes leftFits rightFits

/-- Words whose sequence number shares a byte with the shard. -/
def sharing (seq shard : BitVec 16) : Words where
  time := 5
  flags := ⟨0x20⟩
  tenant := 12
  seq
  shard
  random := 7

/-- The number decides within the shared byte, although the shards are in the other order. -/
theorem layout_of_bytes_sharing :
    (sharing 0x0f0 0xffff).Fits ∧ (sharing 0x0f1 0).Fits ∧
      compare (sharing 0x0f0 0xffff).bytes.toList (sharing 0x0f1 0).bytes.toList =
        compare (sharing 0x0f0 0xffff) (sharing 0x0f1 0) := by
  have leftFits : (sharing 0x0f0 0xffff).Fits := ⟨by decide, by decide, by decide⟩
  have rightFits : (sharing 0x0f1 0).Fits := ⟨by decide, by decide, by decide⟩
  exact ⟨leftFits, rightFits, layout_of_bytes.2.2 _ _ leftFits rightFits⟩

end Words

end SortableId
