import SortableId.Body
import SortableId.Error
import SortableId.Text.Utf8

/-!
# Payloads

A payload is the written form of a body: 32 characters, one for each symbol.  Symbols are also read
from texts of any length, because a checksum covers whatever stands behind the separator.
-/

namespace SortableId.Payload

-- Facts about payloads never depend on how a character is looked up.
attribute [local irreducible] Symbol.ofChar?

/-- The written form of a body. -/
def encode (body : Body) : List Char := body.symbols.map Symbol.toChar

/-- The symbols that a text spells.  The text starts `position` bytes behind the start of the
payload, and the first character that stands for no symbol is the error. -/
def readSymbols (position : Nat) : List Char → Except IdError (List Symbol)
  | [] => .ok []
  | c :: rest =>
      match Symbol.ofChar? c with
      | none => .error (.invalidSymbol position c)
      | some symbol => (readSymbols (position + c.utf8Size) rest).map (symbol :: ·)

/-- The body that a payload spells. -/
def decode (payload : List Char) : Except IdError Body :=
  if Text.utf8Length payload ≠ Body.symbolCount then
    .error (.payloadLength (Text.utf8Length payload))
  else
    (readSymbols 0 payload).map Body.ofSymbols

@[simp] theorem length_encode (body : Body) : (encode body).length = 32 := by
  simp [encode, Body.symbols, Body.symbolCount]

end SortableId.Payload
