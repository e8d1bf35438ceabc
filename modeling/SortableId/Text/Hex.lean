import SortableId.Text.Quoted
import SortableId.Text.Utf8

/-!
# Hexadecimal text

Bytes are written as two lowercase digits each, the higher four bits first, and read from digits of
either case.  A text that is no such sequence is refused with the first fault, where an odd number
of bytes is a fault of the text as a whole and comes before any other.
-/

namespace SortableId.Text.Hex

/-- Why a text is no sequence of hexadecimal bytes. -/
inductive Fault where
  | oddLength
  | notDigit (byte : UInt8) (position : Nat)
  deriving DecidableEq, Repr

namespace Fault

/-- The wording of a fault.  A byte that is no digit is shown as the character of that number. -/
def message : Fault → String
  | oddLength => "Odd number of digits"
  | notDigit byte position =>
      "Invalid character " ++ Quoted.char (Char.ofNat byte.toNat) ++ " at position " ++
        toString position

end Fault

/-- The value of a hexadecimal digit. -/
def digit? (byte : UInt8) : Option (BitVec 4) :=
  if 0x30 ≤ byte ∧ byte ≤ 0x39 then some (BitVec.ofNat 4 (byte.toNat - 0x30))
  else if 0x41 ≤ byte ∧ byte ≤ 0x46 then some (BitVec.ofNat 4 (byte.toNat - 0x37))
  else if 0x61 ≤ byte ∧ byte ≤ 0x66 then some (BitVec.ofNat 4 (byte.toNat - 0x57))
  else none

/-- The value of the digit at a position, or the fault of that position. -/
def readDigit (position : Nat) (byte : UInt8) : Except Fault (BitVec 4) :=
  match digit? byte with
  | some value => .ok value
  | none => .error (.notDigit byte position)

/-- The bytes written by the digits from `position` on. -/
def readPairs (position : Nat) : List UInt8 → Except Fault (List UInt8)
  | high :: low :: rest => do
      let high ← readDigit position high
      let low ← readDigit (position + 1) low
      let bytes ← readPairs (position + 2) rest
      return UInt8.ofBitVec (high ++ low) :: bytes
  | _ => .ok []

/-- The bytes that a text writes. -/
def decode (text : String) : Except Fault (List UInt8) :=
  let digits := utf8 text.toList
  if digits.length % 2 = 1 then .error .oddLength else readPairs 0 digits

/-- The two digits of a byte. -/
def encodeByte (byte : UInt8) : List Char :=
  [Nat.digitChar (byte.toNat / 16), Nat.digitChar (byte.toNat % 16)]

/-- The text that writes the given bytes. -/
def encode (bytes : List UInt8) : String :=
  String.ofList (bytes.flatMap encodeByte)

/-- A number in lowercase hexadecimal, filled with zeros on the left up to the given width. -/
def number (width value : Nat) : String :=
  String.ofList ((Nat.toDigits 16 value).leftpad width '0')

end SortableId.Text.Hex
