/-!
# Decimal integers

A decimal integer is an optional sign followed by at least one ASCII digit.  A minus sign is
accepted only where the range has negative numbers.  The text is read from the left, so the first
character that is no digit and the first digit that takes the value out of the range compete, and
whichever comes first is the fault.
-/

namespace SortableId.Text.Integer

/-- Why a text is no integer of a range. -/
inductive Fault where
  | empty
  | notDigit
  | tooLarge
  | tooSmall
  deriving DecidableEq, Repr

namespace Fault

/-- The wording of a fault. -/
def message : Fault → String
  | empty => "cannot parse integer from empty string"
  | notDigit => "invalid digit found in string"
  | tooLarge => "number too large to fit in target type"
  | tooSmall => "number too small to fit in target type"

end Fault

/-- The value of an ASCII decimal digit. -/
def digit? (c : Char) : Option Nat :=
  if c.isDigit then some (c.toNat - '0'.toNat) else none

/-- The value of `value` followed by the given digits, as long as it stays at most `limit`. -/
def readDigits (limit : Nat) (beyond : Fault) (value : Nat) : List Char → Except Fault Nat
  | [] => .ok value
  | c :: rest =>
      match digit? c with
      | none => .error .notDigit
      | some digit =>
          if value * 10 + digit ≤ limit then
            readDigits limit beyond (value * 10 + digit) rest
          else
            .error beyond

/-- The digits behind a sign: there has to be at least one. -/
def readSigned (limit : Nat) (beyond : Fault) : List Char → Except Fault Nat
  | [] => .error .notDigit
  | digits => readDigits limit beyond 0 digits

/-- The integer that a text writes, if it is at least `-low` and at most `high`. -/
def read (low high : Nat) (text : String) : Except Fault Int :=
  match text.toList with
  | [] => .error .empty
  | '+' :: digits => (readSigned high .tooLarge digits).map Int.ofNat
  | '-' :: digits =>
      if low = 0 then .error .notDigit
      else (readSigned low .tooSmall digits).map fun value => -Int.ofNat value
  | digits => (readDigits high .tooLarge 0 digits).map Int.ofNat

/-- The word of the given width that a text writes without a minus sign. -/
def readWord (width : Nat) (text : String) : Except Fault (BitVec width) :=
  (read 0 (BitVec.allOnes width).toNat text).map (BitVec.ofInt width)

end SortableId.Text.Integer
