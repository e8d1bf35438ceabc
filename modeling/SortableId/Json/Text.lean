import SortableId.Json.Error
import SortableId.Text.Utf8

/-!
# Quoted texts in JSON

What stands between the quotes is read up to the closing quote.  A character outside the basic
plane may be written as two escaped surrogates; a surrogate that stands alone is an error where the
text is read, and goes unnoticed where it is skipped.
-/

namespace SortableId.Json

/-- The value of a hexadecimal digit. -/
def hexDigit? (c : Char) : Option Nat :=
  if c.isDigit then some (c.toNat - '0'.toNat)
  else if 'a' ≤ c ∧ c ≤ 'f' then some (c.toNat - 'a'.toNat + 10)
  else if 'A' ≤ c ∧ c ≤ 'F' then some (c.toNat - 'A'.toNat + 10)
  else none

/-- The value of four hexadecimal digits. -/
def unit? (a b c d : Char) : Option Nat := do
  return (← hexDigit? a) * 4096 + (← hexDigit? b) * 256 + (← hexDigit? c) * 16 + (← hexDigit? d)

/-- The error of an escape whose four digits are cut short: the text has to go on for four bytes
before it can be malformed. -/
def shortUnit (text : List Char) : Error :=
  if SortableId.Text.utf8Length text < 4 then .truncated else .malformed

/-- The character that a letter behind a backslash stands for. -/
def unescape? : Char → Option Char
  | '"' => some '"'
  | '\\' => some '\\'
  | '/' => some '/'
  | 'b' => some '\x08'
  | 'f' => some '\x0c'
  | 'n' => some '\n'
  | 'r' => some '\r'
  | 't' => some '\t'
  | _ => none

/-- Whether a unit is the first of two surrogates. -/
def isHighSurrogate (unit : Nat) : Bool := decide (0xD800 ≤ unit ∧ unit ≤ 0xDBFF)

/-- Whether a unit is the second of two surrogates. -/
def isLowSurrogate (unit : Nat) : Bool := decide (0xDC00 ≤ unit ∧ unit ≤ 0xDFFF)

/-- The character that two surrogates stand for. -/
def ofSurrogates (high low : Nat) : Char :=
  Char.ofNat (0x10000 + (high - 0xD800) * 0x400 + (low - 0xDC00))

/-- Puts a character in front of a text that is read further. -/
def push (c : Char) : Except Error (List Char × List Char) → Except Error (List Char × List Char)
  | .ok (content, rest) => .ok (c :: content, rest)
  | .error error => .error error

/-- The content of a text whose opening quote has been read, and what follows the closing quote. -/
def readContent : List Char → Except Error (List Char × List Char)
  | [] => .error .truncated
  | '"' :: rest => .ok ([], rest)
  | '\\' :: 'u' :: a :: b :: c :: d :: rest =>
      match unit? a b c d with
      | none => .error .malformed
      | some unit =>
          if isLowSurrogate unit then
            .error .malformed
          else if isHighSurrogate unit then
            match rest with
            | [] => .error .truncated
            | ['\\'] => .error .truncated
            | '\\' :: 'u' :: a :: b :: c :: d :: rest =>
                match unit? a b c d with
                | none => .error .malformed
                | some low =>
                    if isLowSurrogate low then push (ofSurrogates unit low) (readContent rest)
                    else .error .malformed
            | '\\' :: 'u' :: short => .error (shortUnit short)
            | _ => .error .malformed
          else
            push (Char.ofNat unit) (readContent rest)
  | '\\' :: 'u' :: short => .error (shortUnit short)
  | ['\\'] => .error .truncated
  | '\\' :: letter :: rest =>
      match unescape? letter with
      | some c => push c (readContent rest)
      | none => .error .malformed
  | c :: rest => if c.toNat < 0x20 then .error .malformed else push c (readContent rest)

/-- What follows the closing quote of a text that is skipped. -/
def skipContent : List Char → Except Error (List Char)
  | [] => .error .truncated
  | '"' :: rest => .ok rest
  | '\\' :: 'u' :: a :: b :: c :: d :: rest =>
      if (unit? a b c d).isSome then skipContent rest else .error .malformed
  | '\\' :: 'u' :: short => .error (shortUnit short)
  | ['\\'] => .error .truncated
  | '\\' :: letter :: rest =>
      if (unescape? letter).isSome then skipContent rest else .error .malformed
  | c :: rest => if c.toNat < 0x20 then .error .malformed else skipContent rest

end SortableId.Json
