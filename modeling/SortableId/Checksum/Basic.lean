import SortableId.Chunks
import SortableId.Symbol

/-!
# Checksums

A checksum is a word of 20 bits, written as four symbols.  It is what a shift register with linear
feedback holds after it was fed the label of an identifier, the symbols of its payload and four
zeros.  The label (the kind and the separator behind it) is spread over symbols in two passes, the
three high bits of every byte before the five low ones.
-/

namespace SortableId

/-- The 20 bits that guard an identifier against slips. -/
abbrev Checksum := BitVec 20

namespace Checksum

/-- The number of symbols in a written checksum. -/
def symbolCount : Nat := 4

/-- What is fed back into the register for each of the five bits that leave it, lowest first. -/
def generators : List (BitVec 32) :=
  [0x3b6a57b2, 0x26508e6d, 0x1ea119fa, 0x3d4233dd, 0x2a1462b3]

/-- What is fed back for the bits that leave the register together. -/
def feedback (leaving : BitVec 32) : BitVec 32 :=
  (generators.zipIdx.map fun (generator, index) =>
    if leaving.getLsbD index then generator else 0).foldl (· ^^^ ·) 0

/-- Feeds one symbol: the register moves up by five bits, of 30, and the symbol enters below. -/
def step (register : BitVec 32) (symbol : Symbol) : BitVec 32 :=
  ((register &&& 0x01ffffff) <<< 5) ^^^ symbol.setWidth 32 ^^^ feedback (register >>> 25)

/-- The register after the given symbols, starting from one. -/
def register (symbols : List Symbol) : BitVec 32 := symbols.foldl step 1

/-- The symbols that a label is fed as. -/
def expand (label : List UInt8) : List Symbol :=
  label.map (fun byte => byte.toBitVec.extractLsb' 5 3 |>.setWidth 5) ++
    0 :: label.map (fun byte => byte.toBitVec.setWidth 5)

/-- The checksum of a label and the symbols behind it. -/
def ofSymbols (label : List UInt8) (symbols : List Symbol) : Checksum :=
  (register (expand label ++ symbols ++ List.replicate symbolCount 0) ^^^ 1).setWidth 20

/-- The symbols of a checksum, most significant first. -/
def symbols (checksum : Checksum) : List Symbol := Chunks.split 5 symbolCount checksum

/-- The written form of a checksum. -/
def toChars (checksum : Checksum) : List Char := checksum.symbols.map Symbol.toChar

/-- The written form of a checksum. -/
def text (checksum : Checksum) : String := String.ofList checksum.toChars

/-- Whether a text spells the checksum in any mixture of cases. -/
def spelledBy (checksum : Checksum) (given : List Char) : Bool :=
  given.map Char.toLower == checksum.toChars

@[simp] theorem length_symbols (checksum : Checksum) : checksum.symbols.length = 4 := by
  simp [symbols, symbolCount]

@[simp] theorem length_toChars (checksum : Checksum) : checksum.toChars.length = 4 := by
  simp [toChars]

end Checksum

end SortableId
