import SortableId.Checksum.Basic

/-!
# Checksums over bytes

The register is a word of 32 bits, and symbols arrive as bytes.  What leaves the word is fed back
one bit after the other, and the characters of a checksum are taken from the word itself.
-/

namespace SortableId

/-- The byte that holds a symbol. -/
def Symbol.asByte (symbol : Symbol) : UInt8 := ⟨symbol.setWidth 8⟩

namespace Checksum

/-- What leaves a word when it moves up. -/
def leaving (word : BitVec 32) : BitVec 32 := word >>> 25

/-- What stays of a word, moved up by five bits. -/
def moved (word : BitVec 32) : BitVec 32 := (word &&& 0x01ffffff) <<< 5

/-- Feeds a generator back if its bit is set among those that leave. -/
def feedBack (top word : BitVec 32) : BitVec 32 × Nat → BitVec 32
  | (generator, index) => if (top >>> index) &&& 1 = 1 then word ^^^ generator else word

/-- A word with a byte below what stays of it, before anything is fed back. -/
def entered (word : BitVec 32) (byte : UInt8) : BitVec 32 :=
  moved word ^^^ byte.toBitVec.setWidth 32

/-- Feeds one byte. -/
def feed (word : BitVec 32) (byte : UInt8) : BitVec 32 :=
  generators.zipIdx.foldl (feedBack (leaving word)) (entered word byte)

/-- The word after the given bytes, starting from one. -/
def polymod (bytes : List UInt8) : BitVec 32 := bytes.foldl feed 1

/-- The bytes that a label is fed as. -/
def expandBytes (label : List UInt8) : List UInt8 :=
  label.map (fun byte : UInt8 => byte >>> 5) ++ 0 :: label.map (fun byte : UInt8 => byte &&& 0x1f)

/-- The bytes that are fed for a label and the symbols behind it. -/
def fedBytes (label symbols : List UInt8) : List UInt8 :=
  expandBytes label ++ symbols ++ List.replicate symbolCount 0

/-- The checksum of a label and the symbols behind it, in the low bits of a word. -/
def wordOfBytes (label symbols : List UInt8) : BitVec 32 := polymod (fedBytes label symbols) ^^^ 1

/-- The written form of the low bits of a word. -/
def wordText (word : BitVec 32) : String :=
  String.ofList <| (List.range symbolCount).map fun index =>
    let byte : BitVec 8 := (word >>> (5 * (symbolCount - 1 - index))).setWidth 8
    Symbol.toChar ((byte &&& 0x1f).setWidth 5)

end Checksum

end SortableId
