import SortableId.Text.Ranges

/-!
# White space

The characters with the Unicode property White_Space, and the removal of such characters from both
ends of a text.
-/

namespace SortableId.Text.Blank

/-- The code points with the property White_Space. -/
def ranges : Ranges :=
  [(0x09, 0x0D), (0x20, 0x20), (0x85, 0x85), (0xA0, 0xA0), (0x1680, 0x1680), (0x2000, 0x200A),
   (0x2028, 0x2029), (0x202F, 0x202F), (0x205F, 0x205F), (0x3000, 0x3000)]

example : ranges.ordered = true := by decide

/-- Whether a character is white space. -/
def isBlank (c : Char) : Bool := ranges.holds c

/-- The text without the white space at its front. -/
def trimLeft (text : List Char) : List Char := text.dropWhile isBlank

/-- The text without the white space at its back. -/
def trimRight (text : List Char) : List Char := (trimLeft text.reverse).reverse

/-- The text without the white space at either end. -/
def trim (text : List Char) : List Char := trimRight (trimLeft text)

end SortableId.Text.Blank
