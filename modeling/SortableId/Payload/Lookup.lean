import SortableId.Payload.Accumulator

/-!
# Symbols looked up byte by byte

A byte is looked up in a table of 256 values, where one value that no symbol has marks the bytes
that stand for none.  The table is filled from the alphabet, in both cases, and then from the
letters that look like digits.
-/

namespace SortableId

namespace Symbol

/-- The value of a byte that stands for no symbol. -/
def unused : BitVec 8 := 0xff

/-- The letters that look like a digit, with the value of the digit. -/
def lookalikes : List (Char × BitVec 8) :=
  [('i', 1), ('I', 1), ('l', 1), ('L', 1), ('o', 0), ('O', 0)]

/-- The values of all bytes. -/
def table : Vector (BitVec 8) 256 :=
  let letters := alphabet.zipIdx.foldl
    (fun table (c, value) =>
      (table.setIfInBounds c.toNat (BitVec.ofNat 8 value)).setIfInBounds c.toUpper.toNat
        (BitVec.ofNat 8 value))
    (Vector.replicate 256 unused)
  lookalikes.foldl (fun table (c, value) => table.setIfInBounds c.toNat value) letters

/-- The symbol that a byte stands for by the table. -/
def look? (byte : UInt8) : Option Symbol :=
  let value := table.get byte.toFin
  if value = unused then none else some (value.setWidth 5)

end Symbol

namespace Payload

-- Facts about payloads never depend on how a byte is looked up.
attribute [local irreducible] Symbol.look?

/-- The symbols of bytes of a payload, of which the first has the given position. -/
def lookUp (payload : List Char) (position : Nat) : List UInt8 → Except IdError (List Symbol)
  | [] => .ok []
  | byte :: rest =>
      match Symbol.look? byte with
      | none => .error (faultAt payload position)
      | some symbol => (lookUp payload (position + 1) rest).map (symbol :: ·)

theorem lookUp_cons_of_none {byte : UInt8} (absent : Symbol.look? byte = none)
    (payload : List Char) (position : Nat) (rest : List UInt8) :
    lookUp payload position (byte :: rest) = .error (faultAt payload position) := by
  rw [lookUp, absent]

theorem lookUp_cons_of_some {byte : UInt8} {symbol : Symbol}
    (found : Symbol.look? byte = some symbol) (payload : List Char) (position : Nat)
    (rest : List UInt8) :
    lookUp payload position (byte :: rest) =
      (lookUp payload (position + 1) rest).map (symbol :: ·) := by
  rw [lookUp, found]

/-- The symbols that a payload of any length spells. -/
def toSymbols (payload : List Char) : Except IdError (List Symbol) :=
  lookUp payload 0 (Text.utf8 payload)

end Payload

end SortableId
