/-!
# Base-32 symbols

A symbol is a five-bit value.  It is written as a digit or as a lowercase letter other than `i`,
`l`, `o` and `u`; letters that look like a digit are read as that digit, and case does not matter.
-/

namespace SortableId

/-- A five-bit value. -/
abbrev Symbol := BitVec 5

namespace Symbol

/-- The written form of each symbol, in increasing order of value and of character. -/
def alphabet : List Char :=
  ['0', '1', '2', '3', '4', '5', '6', '7', '8', '9', 'a', 'b', 'c', 'd', 'e', 'f',
   'g', 'h', 'j', 'k', 'm', 'n', 'p', 'q', 'r', 's', 't', 'v', 'w', 'x', 'y', 'z']

@[simp] theorem length_alphabet : alphabet.length = 32 := rfl

/-- The character that a symbol is written as. -/
def toChar (symbol : Symbol) : Char :=
  alphabet.get ⟨symbol.toNat, symbol.isLt⟩

/-- The one spelling that stands for all accepted spellings of a symbol: letters become lowercase,
`i` and `l` become `1`, and `o` becomes `0`. -/
def fold (c : Char) : Char :=
  match c.toLower with
  | 'i' => '1'
  | 'l' => '1'
  | 'o' => '0'
  | lower => lower

/-- The symbol that a character stands for, if any. -/
def ofChar? (c : Char) : Option Symbol :=
  (alphabet.idxOf? (fold c)).map (BitVec.ofNat 5)

/-- The symbol that a byte stands for.  Only bytes of one-byte characters stand for one, so a byte
may be looked up as the character of the same number. -/
def ofByte? (byte : UInt8) : Option Symbol :=
  ofChar? (Char.ofNat byte.toNat)

/-- A character is accepted if it stands for a symbol. -/
def Accepted (c : Char) : Prop := (ofChar? c).isSome

instance (c : Char) : Decidable (Accepted c) := inferInstanceAs (Decidable (_ = true))

/-- Every symbol is read back from the character it is written as. -/
@[simp] theorem ofChar?_toChar (symbol : Symbol) : ofChar? symbol.toChar = some symbol := by
  revert symbol
  decide

end Symbol

end SortableId
