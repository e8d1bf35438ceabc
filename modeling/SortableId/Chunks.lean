/-!
# Words cut into equal chunks

A word of `count * width` bits is read as `count` chunks of `width` bits, the most significant
chunk first.  Bytes, symbols and the four characters of a checksum are all cut this way, so the
facts about cutting and joining are stated once, for every width.
-/

namespace SortableId.Chunks

/-- The `count` lowest chunks of a word, the most significant of them first. -/
def split {bits : Nat} (width count : Nat) (word : BitVec bits) : List (BitVec width) :=
  (List.range count).map fun index => word.extractLsb' (width * (count - 1 - index)) width

/-- The word whose chunks are given, most significant first.  Chunks that find no room are
shifted out at the top. -/
def join {width : Nat} (bits : Nat) (chunks : List (BitVec width)) : BitVec bits :=
  chunks.foldl (fun word chunk => word <<< width ||| chunk.setWidth bits) 0

@[simp] theorem length_split {bits : Nat} (width count : Nat) (word : BitVec bits) :
    (split width count word).length = count := by
  simp [split]

@[simp] theorem join_nil {width : Nat} (bits : Nat) :
    join bits ([] : List (BitVec width)) = 0 := rfl

/-- Joining takes the last chunk at the bottom. -/
@[simp] theorem join_concat {width bits : Nat} (chunks : List (BitVec width))
    (chunk : BitVec width) :
    join bits (chunks ++ [chunk]) = join bits chunks <<< width ||| chunk.setWidth bits := by
  simp [join]

end SortableId.Chunks
