import SortableId.Chunks
import SortableId.Symbol

/-!
# Bodies

The body of an identifier is a word of 160 bits.  It is written as 32 symbols and stored as 20
bytes, the most significant first in both.
-/

namespace SortableId

/-- The 160 bits that an identifier carries besides its kind. -/
abbrev Body := BitVec 160

namespace Body

/-- The number of symbols in a written body. -/
def symbolCount : Nat := 32

/-- The number of bytes in a stored body. -/
def byteCount : Nat := 20

/-- The symbols of a body, most significant first. -/
def symbols (body : Body) : List Symbol := Chunks.split 5 symbolCount body

/-- The body with the given symbols, most significant first. -/
def ofSymbols (symbols : List Symbol) : Body := Chunks.join 160 symbols

/-- The bytes of a body, most significant first. -/
def bytes (body : Body) : List UInt8 := (Chunks.split 8 byteCount body).map UInt8.ofBitVec

/-- The body with the given bytes, most significant first. -/
def ofBytes (bytes : List UInt8) : Body := Chunks.join 160 (bytes.map UInt8.toBitVec)

end Body

end SortableId
