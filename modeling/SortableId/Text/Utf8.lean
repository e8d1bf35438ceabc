/-!
# Texts as UTF-8 bytes

Lengths and positions in a text are counted in the bytes of its UTF-8 form.
-/

namespace SortableId.Text

/-- The UTF-8 bytes of a text. -/
def utf8 (text : List Char) : List UInt8 := text.flatMap String.utf8EncodeChar

/-- The number of UTF-8 bytes of a text. -/
def utf8Length (text : List Char) : Nat := 
  text.foldr (fun c length => c.utf8Size + length) 0

@[simp] theorem utf8Length_nil : utf8Length [] = 0 := rfl

@[simp] theorem utf8Length_cons (c : Char) (rest : List Char) :
    utf8Length (c :: rest) = c.utf8Size + utf8Length rest := rfl

@[simp] theorem utf8Length_append (front back : List Char) :
    utf8Length (front ++ back) = utf8Length front + utf8Length back := by
  induction front with
  | nil => simp
  | cons c rest ih => simp [ih, Nat.add_assoc]

/-- The length counts the bytes. -/
theorem length_utf8 (text : List Char) : (utf8 text).length = utf8Length text := by
  induction text with
  | nil => rfl
  | cons c rest ih =>
      have rest_length : (rest.flatMap String.utf8EncodeChar).length = utf8Length rest := ih
      simp [utf8, rest_length]

end SortableId.Text
