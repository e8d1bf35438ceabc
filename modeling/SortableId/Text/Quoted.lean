import SortableId.Text.Glyph

/-!
# Quoted characters and texts

A character or a text is shown between quotes.  The quote itself, the backslash and four controls
are written with a backslash and one more character; every other character without a glyph of its
own is written as its code point in hexadecimal.
-/

namespace SortableId.Text.Quoted

/-- The letter that stands behind a backslash for a character with a short escape. -/
def letter? : Char → Option Char
  | '\x00' => some '0'
  | '\t' => some 't'
  | '\n' => some 'n'
  | '\r' => some 'r'
  | '\\' => some '\\'
  | _ => none

/-- A character by its code point: `\u`, then the lowercase hexadecimal digits in braces. -/
def codePoint (c : Char) : List Char :=
  ['\\', 'u', '\x7b'] ++ Nat.toDigits 16 c.toNat ++ ['\x7d']

/-- A character as it is shown between two of the given quotes. -/
def escape (quote c : Char) : List Char :=
  match letter? c with
  | some letter => ['\\', letter]
  | none =>
      if c = quote then ['\\', c]
      else if Glyph.isVisible c then [c]
      else codePoint c

/-- A character between single quotes. -/
def char (c : Char) : String :=
  String.ofList ('\'' :: escape '\'' c ++ ['\''])

/-- A text between double quotes. -/
def text (content : String) : String :=
  String.ofList ('"' :: content.toList.flatMap (escape '"') ++ ['"'])

end SortableId.Text.Quoted
