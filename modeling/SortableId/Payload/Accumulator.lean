import Mathlib
import SortableId.Payload

/-!
# Payloads and bytes through an accumulator

Bytes are cut into symbols, and symbols into bytes, in one pass: each digit is shifted into a word
of 32 bits, and a chunk is written as soon as the bits that none has yet fill it.  The word is never
cleared, so its old bits are lost at the top.
-/

namespace SortableId

/-- Where a pass over digits stands: the word that they are shifted into, the number of its low bits
that no chunk has yet, and the chunks, of which the first ones are written. -/
structure Accumulator (width size : Nat) where
  word : BitVec 32 := 0
  pending : Nat := 0
  output : Vector (BitVec width) size := Vector.replicate size 0
  written : Nat := 0

namespace Accumulator

variable {taken width size : Nat}

/-- A digit is taken in at the bottom. -/
def take (acc : Accumulator width size) (digit : BitVec taken) : Accumulator width size :=
  { acc with word := acc.word <<< taken ||| digit.setWidth 32, pending := acc.pending + taken }

/-- The highest pending bits become the next chunk.  This fails if there is no room for it, or if
they would stand beyond the word. -/
def write? (acc : Accumulator width size) : Option (Accumulator width size) :=
  let pending := acc.pending - width
  if room : acc.written < size ∧ pending < 32 then
    let chunk := (acc.word >>> pending).setWidth width
    some { acc with
      pending
      output := acc.output.set acc.written chunk room.1
      written := acc.written + 1 }
  else
    none

theorem pending_lt_of_write? [NeZero width] {acc later : Accumulator width size}
    (full : width ≤ acc.pending) (wrote : acc.write? = some later) :
    later.pending < acc.pending := by
  have positive := Nat.pos_of_neZero width
  simp only [write?] at wrote
  split at wrote
  · cases wrote
    exact Nat.sub_lt (Nat.lt_of_lt_of_le positive full) positive
  · contradiction

/-- Chunks are written while the pending bits fill one. -/
def writeAll? [NeZero width] (acc : Accumulator width size) : Option (Accumulator width size) :=
  if full : width ≤ acc.pending then
    match wrote : acc.write? with
    | none => none
    | some later =>
        have := pending_lt_of_write? full wrote
        writeAll? later
  else
    some acc
termination_by acc.pending

/-- One chunk is written if the pending bits fill it. -/
def writeOne? (acc : Accumulator width size) : Option (Accumulator width size) :=
  if width ≤ acc.pending then acc.write? else some acc

/-- Digits are taken in one by one, and chunks are written behind each of them. -/
def feed? (settle? : Accumulator width size → Option (Accumulator width size))
    (acc : Accumulator width size) (digits : List (BitVec taken)) :
    Option (Accumulator width size) :=
  digits.foldlM (fun acc digit => settle? (acc.take digit)) acc

end Accumulator

/-- What a text holds from one of its bytes on, unless the byte stands within a character or behind
the end. -/
def Text.fromByte? : List Char → Nat → Option (List Char)
  | text, 0 => some text
  | [], _ + 1 => none
  | c :: rest, position + 1 =>
      if c.utf8Size ≤ position + 1 then fromByte? rest (position + 1 - c.utf8Size) else none

namespace Payload

-- Facts about payloads never depend on how a byte is looked up.
attribute [local irreducible] Symbol.ofByte?

/-- The symbols of bytes.  A write that fails and bits that are left over leave no result. -/
def symbolsOfBytes? (bytes : Vector (BitVec 8) 20) : Option (Vector Symbol 32) := do
  let acc ← Accumulator.feed? Accumulator.writeAll? {} bytes.toList
  if acc.pending = 0 then some acc.output else none

/-- The payload of bytes. -/
def ofBytes? (bytes : Vector (BitVec 8) 20) : Option (List Char) :=
  (symbolsOfBytes? bytes).map fun symbols => symbols.toList.map Symbol.toChar

/-- The error about the byte at a position, with the character that begins there, if one does. -/
def faultAt (payload : List Char) (position : Nat) : IdError :=
  .invalidSymbol position (((Text.fromByte? payload position).bind List.head?).getD '\uFFFD')

/-- The symbols of a payload, from the byte at a position on, are taken in one by one. -/
def takeBytes? (payload : List Char) (position : Nat) :
    List UInt8 → Accumulator 8 20 → Option (Except IdError (Accumulator 8 20))
  | [], acc => some (.ok acc)
  | byte :: rest, acc =>
      match Symbol.ofByte? byte with
      | none => some (.error (faultAt payload position))
      | some symbol =>
          (acc.take symbol).writeOne?.bind (takeBytes? payload (position + 1) rest)

theorem takeBytes?_cons_of_none {byte : UInt8} (absent : Symbol.ofByte? byte = none)
    (payload : List Char) (position : Nat) (rest : List UInt8) (acc : Accumulator 8 20) :
    takeBytes? payload position (byte :: rest) acc = some (.error (faultAt payload position)) := by
  rw [takeBytes?, absent]

theorem takeBytes?_cons_of_some {byte : UInt8} {symbol : Symbol}
    (found : Symbol.ofByte? byte = some symbol) (payload : List Char) (position : Nat)
    (rest : List UInt8) (acc : Accumulator 8 20) :
    takeBytes? payload position (byte :: rest) acc =
      (acc.take symbol).writeOne?.bind (takeBytes? payload (position + 1) rest) := by
  rw [takeBytes?, found]

/-- The bytes that a payload spells.  A write that fails leaves no result. -/
def toBytes? (payload : List Char) : Option (Except IdError (Vector (BitVec 8) 20)) :=
  let bytes := Text.utf8 payload
  if bytes.length ≠ 32 then
    some (.error (.payloadLength bytes.length))
  else
    (takeBytes? payload 0 bytes {}).map fun outcome => outcome.bind fun acc =>
      if acc.written ≠ 20 ∨ acc.pending ≠ 0 then
        .error (.payloadLength bytes.length)
      else
        .ok acc.output

end Payload

end SortableId
