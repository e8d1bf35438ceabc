import SortableId.Json.Error

/-!
# Numbers in JSON texts

A number is read digit by digit into a significand of 64 bits.  Digits that find no room only move
the decimal point.  A whole number that found room is kept exactly; any other number is the rounded
product or quotient of the rounded significand and a rounded power of ten, and it has to be finite.
-/

namespace SortableId.Json

/-- The digits of a number as they accumulate: the significand, and the power of ten by which it
has to be multiplied. -/
structure Significand where
  value : Nat := 0
  exponent : Int := 0
  deriving DecidableEq, Repr

namespace Significand

/-- Significands stay below this bound. -/
def bound : Nat := UInt64.size

/-- The value of a decimal digit. -/
def digit (c : Char) : Nat := c.toNat - '0'.toNat

/-- Takes digits as long as there is room for them and returns the others. -/
def take (value : Nat) : List Char → Nat × List Char
  | [] => (value, [])
  | c :: rest =>
      if value * 10 + digit c < bound then take (value * 10 + digit c) rest
      else (value, c :: rest)

/-- The digits before the point.  Digits without room raise the exponent. -/
def ofWhole (digits : List Char) : Significand :=
  let (value, others) := take 0 digits
  { value, exponent := others.length }

/-- The digits behind the point.  Every digit with room lowers the exponent, and the others are
dropped. -/
def withFraction (significand : Significand) (digits : List Char) : Significand :=
  let (value, others) := take significand.value digits
  { value
    exponent := significand.exponent - (digits.length - others.length : Nat) }

/-- The exponent as it was written. -/
def withExponent (significand : Significand) (negative : Bool) (digits : List Char) :
    Significand :=
  let written : Int := digits.foldl (fun value c => value * 10 + digit c) 0
  { significand with
    exponent := if negative then significand.exponent - written
      else significand.exponent + written }

/-- The greatest power of ten that a binary number can hold. -/
def greatestPower : Nat := 308

/-- The product of a number and a power of ten, unless it is too large.  Divisors beyond the
greatest power of ten are applied in steps. -/
def scale (x : Binary64) (exponent : Int) : Option Binary64 :=
  if exponent.natAbs ≤ greatestPower then do
    let power ← Binary64.powerOfTen exponent.natAbs
    if 0 ≤ exponent then x.mul power else x.div power
  else if x = .zero then
    some x
  else if 0 ≤ exponent then
    none
  else do
    let power ← Binary64.powerOfTen greatestPower
    scale (← x.div power) (exponent + greatestPower)
termination_by exponent.natAbs
decreasing_by simp only [greatestPower] at *; omega

/-- The binary number that a significand stands for, unless it is too large. -/
def toBinary (significand : Significand) : Option Binary64 := do
  scale (← Binary64.ofRatio significand.value 1) significand.exponent

end Significand

/-- A number that was written with a point or an exponent, or whose digits found no room. -/
def Number.ofSignificand (negative : Bool) (significand : Significand) : Except Error Number :=
  match significand.toBinary with
  | some magnitude => .ok (.binary negative magnitude)
  | none => .error .malformed

/-- A number that was written as digits alone.  A negative one is kept as an integer if it fits a
signed word and is not zero. -/
def Number.ofDigits (negative : Bool) (significand : Significand) : Except Error Number :=
  if significand.exponent = 0 then
    if negative then
      if 0 < significand.value ∧ significand.value ≤ (BitVec.intMin 64).toNat then
        .ok (.integer (-(significand.value : Int)))
      else
        ofSignificand negative significand
    else
      .ok (.integer significand.value)
  else
    ofSignificand negative significand

/-- The digits at the front of a text, of which there has to be at least one, and the rest. -/
def readDigits (text : List Char) : Except Error (List Char × List Char) :=
  match text.span Char.isDigit with
  | ([], []) => .error .truncated
  | ([], _ :: _) => .error .malformed
  | (digits, rest) => .ok (digits, rest)

/-- The digits before the point: no zero stands in front of another digit. -/
def readWhole (text : List Char) : Except Error (List Char × List Char) := do
  let (digits, rest) ← readDigits text
  match digits with
  | '0' :: _ :: _ => .error .malformed
  | _ => .ok (digits, rest)

/-- The exponent behind its letter: an optional sign and digits. -/
def readExponent (text : List Char) : Except Error ((Bool × List Char) × List Char) :=
  match text with
  | '+' :: rest => do
      let (digits, rest) ← readDigits rest
      return ((false, digits), rest)
  | '-' :: rest => do
      let (digits, rest) ← readDigits rest
      return ((true, digits), rest)
  | _ => do
      let (digits, rest) ← readDigits text
      return ((false, digits), rest)

/-- The rest of a number that may end with an exponent. -/
def readScaled (negative : Bool) (significand : Significand) (text : List Char) :
    Except Error (Number × List Char) :=
  match text with
  | c :: rest =>
      if c = 'e' ∨ c = 'E' then do
        let ((lowers, digits), rest) ← readExponent rest
        return (← Number.ofSignificand negative (significand.withExponent lowers digits), rest)
      else do
        return (← Number.ofSignificand negative significand, text)
  | [] => do
      return (← Number.ofSignificand negative significand, text)

/-- A number without its minus sign. -/
def readMagnitude (negative : Bool) (text : List Char) : Except Error (Number × List Char) := do
  let (digits, rest) ← readWhole text
  let whole := Significand.ofWhole digits
  match rest with
  | '.' :: behind => do
      let (fraction, rest) ← readDigits behind
      readScaled negative (whole.withFraction fraction) rest
  | c :: _ =>
      if c = 'e' ∨ c = 'E' then
        readScaled negative whole rest
      else do
        return (← Number.ofDigits negative whole, rest)
  | [] => do
      return (← Number.ofDigits negative whole, rest)

/-- A number at the front of a text. -/
def readNumber (text : List Char) : Except Error (Number × List Char) :=
  match text with
  | '-' :: rest => readMagnitude true rest
  | _ => readMagnitude false text

/-- Digits at the front of a text that is skipped; that there are none is an error of the text,
also at its end. -/
def skipDigits (text : List Char) : Except Error (List Char) :=
  match text.span Char.isDigit with
  | ([], _) => .error .malformed
  | (_, rest) => .ok rest

/-- The exponent, if there is one, of a number that is skipped. -/
def skipExponent (text : List Char) : Except Error (List Char) :=
  match text with
  | c :: rest =>
      if c = 'e' ∨ c = 'E' then
        match rest with
        | '+' :: digits => skipDigits digits
        | '-' :: digits => skipDigits digits
        | _ => skipDigits rest
      else
        .ok text
  | [] => .ok text

/-- A number that is skipped.  Its size does not matter. -/
def skipNumber (text : List Char) : Except Error (List Char) := do
  let unsigned := match text with
    | '-' :: rest => rest
    | _ => text
  match unsigned with
  | '0' :: c :: _ => if c.isDigit then .error .malformed else pure ()
  | _ => pure ()
  match ← skipDigits unsigned with
  | '.' :: fraction => do skipExponent (← skipDigits fraction)
  | rest => skipExponent rest

end SortableId.Json
