import SortableId.Identifier.Record

/-!
# Words in bytes

Words are stored in 20 bytes, the most significant first.  The time, the flags, the tenant and most of
the random field fill bytes of their own.  The sequence number, the shard and the random field meet
inside the bytes 10 and 12, which hold four bits of each neighbour.
-/

namespace SortableId.Words

/-- The byte that holds the four low bits of one word above the four low bits of another. -/
def nibbles {high low : Nat} (front : BitVec high) (back : BitVec low) : BitVec 8 :=
  ((front &&& 0x0f) <<< 4).setWidth 8 ||| (back &&& 0x0f).setWidth 8

/-- The bytes of words, which are masked first. -/
def bytes (words : Words) : Vector (BitVec 8) 20 :=
  let time := words.time &&& timeMask
  let seq := words.seq &&& seqMask
  let random := words.random &&& randomMask
  ⟨((Chunks.split 8 8 time).drop 2 ++
      ([words.flags.bits] ++ (Chunks.split 8 2 words.tenant ++
        ([(seq >>> 4).setWidth 8, nibbles seq (words.shard >>> 12), (words.shard >>> 4).setWidth 8,
            nibbles words.shard (random >>> 56)] ++
          (Chunks.split 8 8 random).drop 1)))).toArray, by simp⟩

/-- The words that 20 bytes hold. -/
def ofBytes (bytes : Vector (BitVec 8) 20) : Words where
  time := Chunks.join 64 (0 :: 0 :: bytes.toList.take 6)
  flags := ⟨bytes[6]⟩
  tenant := Chunks.join 16 [bytes[7], bytes[8]]
  seq := bytes[9].setWidth 16 <<< 4 ||| (bytes[10] >>> 4).setWidth 16
  shard :=
    (bytes[10] &&& 0x0f).setWidth 16 <<< 12 ||| bytes[11].setWidth 16 <<< 4 |||
      (bytes[12] >>> 4).setWidth 16
  random := Chunks.join 64 ((bytes[12] &&& 0x0f) :: bytes.toList.drop 13)

/-- Words are ordered by the first one that differs. -/
instance : Ord Words where
  compare left right :=
    (compare left.time right.time).then <|
    (compare left.flags right.flags).then <|
    (compare left.tenant right.tenant).then <|
    (compare left.seq right.seq).then <|
    (compare left.shard right.shard).then <|
    compare left.random right.random

end SortableId.Words
