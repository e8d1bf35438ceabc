import SortableId.Json.Number
import SortableId.Json.Text

/-!
# Readers

A reader takes a value of one type from the front of a JSON text and leaves the rest.  Readers work
from left to right and stop at the first problem, so a value of the wrong type is reported even if
the text behind it is no JSON.
-/

namespace SortableId.Json

/-- Reads a value from the front of a text. -/
abbrev Reader := StateT (List Char) (Except Error)

namespace Reader

/-- Whether a character may stand between tokens. -/
def isBlank (c : Char) : Bool := c == ' ' || c == '\n' || c == '\t' || c == '\r'

/-- The rest of a text from its next token on. -/
def fromToken (text : List Char) : List Char := text.dropWhile isBlank

/-- Fails with an error. -/
def fail {α : Type} (error : Error) : Reader α := fun _ => .error error

/-- Fails because the value is not of the wanted type. -/
def refuse {α : Type} (cause : Mismatch) : Reader α := fail (.mismatch cause)

/-- Takes the given characters. -/
def expect : List Char → Reader Unit
  | [], rest => .ok ((), rest)
  | _ :: _, [] => .error .truncated
  | wanted :: more, c :: rest => if c = wanted then expect more rest else .error .malformed

/-- The first token of the next value. -/
def head : Reader Head := fun text =>
  match fromToken text with
  | [] => .error .truncated
  | '"' :: rest => do
      let (content, rest) ← readContent rest
      return (.text (String.ofList content), rest)
  | '[' :: rest => .ok (.list, rest)
  | '\x7b' :: rest => .ok (.record, rest)
  | 'n' :: rest => do
      let ((), rest) ← expect ['u', 'l', 'l'] rest
      return (.null, rest)
  | 't' :: rest => do
      let ((), rest) ← expect ['r', 'u', 'e'] rest
      return (.boolean true, rest)
  | 'f' :: rest => do
      let ((), rest) ← expect ['a', 'l', 's', 'e'] rest
      return (.boolean false, rest)
  | c :: rest =>
      if c = '-' ∨ c.isDigit then do
        let (value, rest) ← readNumber (c :: rest)
        return (.number value, rest)
      else
        .error .malformed

/-- A boolean. -/
def boolean : Reader Bool := do
  match ← head with
  | .boolean value => return value
  | found => refuse (.wrongType found "a boolean")

/-- A text. -/
def text : Reader String := do
  match ← head with
  | .text value => return value
  | found => refuse (.wrongType found "a string")

/-- A natural number that fits a word of the given width. -/
def word (width : Nat) : Reader (BitVec width) := do
  let wanted := "u" ++ toString width
  match ← head with
  | .number (.integer value) =>
      let word := BitVec.ofInt width value
      if word.toNat = value then return word
      else refuse (.outOfRange value wanted)
  | found => refuse (.wrongType found wanted)

/-- Whether a list has another item.  Behind an item that has to be a comma and the item, in front
of the first one just the item; the bracket that closes the list is taken. -/
def moreItems (first : Bool) : Reader Bool := fun text =>
  match fromToken text with
  | [] => .error .truncated
  | ']' :: rest => .ok (false, rest)
  | c :: rest =>
      if first then
        .ok (true, c :: rest)
      else if c = ',' then
        match fromToken rest with
        | [] => .error .truncated
        | ']' :: _ => .error .malformed
        | next => .ok (true, next)
      else
        .error .malformed

/-- The items of a list from the next one on, at most `fuel` of them. -/
def items {α : Type} (item : Reader α) (fuel : Nat) (first : Bool) : Reader (List α) :=
  match fuel with
  | 0 => fail .malformed
  | fuel + 1 => do
      if ← moreItems first then
        let value ← item
        let rest ← items item fuel false
        return value :: rest
      else
        return []

/-- A list of any length.  Every item takes at least one character, so the length of the text
bounds their number. -/
def list {α : Type} (item : Reader α) : Reader (List α) := do
  match ← head with
  | .list => fun text => items item (text.length + 1) true text
  | found => refuse (.wrongType found "a sequence")

/-- The name of the next member of a record, if there is another one; otherwise the brace that
closes the record is taken. -/
def moreMembers (first : Bool) : Reader (Option String) := fun text =>
  match fromToken text with
  | [] => .error .truncated
  | '\x7d' :: rest => .ok (none, rest)
  | c :: rest =>
      if first then
        name (c :: rest)
      else if c = ',' then
        match fromToken rest with
        | [] => .error .truncated
        | next => name next
      else
        .error .malformed
where
  /-- The name of a member. -/
  name : Reader (Option String)
    | '"' :: rest => do
        let (content, rest) ← readContent rest
        return (some (String.ofList content), rest)
    | _ => .error .malformed

/-- Takes the colon behind the name of a member. -/
def colon : Reader Unit := fun text => expect [':'] (fromToken text)

/-- Runs a reader on a whole text, which may hold nothing else. -/
def run {α : Type} (reader : Reader α) (text : String) : Except Error α := do
  let (value, rest) ← StateT.run reader text.toList
  if (fromToken rest).isEmpty then return value else throw .malformed

end Reader

end SortableId.Json
