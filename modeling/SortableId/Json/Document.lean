/-!
# JSON documents and their written forms

A document is a tree of booleans, natural numbers, texts, lists and records whose members keep
their order.  It is written without any blank, or with every item on a line of its own, indented by
two spaces for each level.  Both forms differ only in the blanks that they put between tokens.
-/

namespace SortableId

/-- A JSON value that this library writes. -/
inductive Json where
  | boolean (value : Bool)
  | number (value : Nat)
  | text (value : String)
  | list (items : List Json)
  | record (members : List (String × Json))

namespace Json

/-- How blanks are put between tokens. -/
inductive Layout where
  /-- No blank at all. -/
  | compact
  /-- Every item on a line of its own. -/
  | indented
  deriving DecidableEq

/-- The blanks before an item at the given depth. -/
def Layout.lineBreak : Layout → Nat → List Char
  | compact, _ => []
  | indented, depth => '\n' :: List.replicate (2 * depth) ' '

/-- What stands between the name of a member and its value. -/
def Layout.colon : Layout → List Char
  | compact => [':']
  | indented => [':', ' ']

/-- A character inside a quoted text.  Only the quote, the backslash and the controls below the
space are escaped. -/
def escape (c : Char) : List Char :=
  match c with
  | '"' => ['\\', '"']
  | '\\' => ['\\', '\\']
  | '\x08' => ['\\', 'b']
  | '\x0c' => ['\\', 'f']
  | '\n' => ['\\', 'n']
  | '\r' => ['\\', 'r']
  | '\t' => ['\\', 't']
  | _ =>
      if c.toNat < 0x20 then
        ['\\', 'u', '0', '0', Nat.digitChar (c.toNat / 16), Nat.digitChar (c.toNat % 16)]
      else
        [c]

/-- A quoted text. -/
def quote (content : String) : List Char :=
  '"' :: content.toList.flatMap escape ++ ['"']

/-- Pieces between brackets, separated by commas; each piece stands on a line of its own if the
layout has lines. -/
def Layout.bracket (layout : Layout) (depth : Nat) (opening closing : Char) :
    List (List Char) → List Char
  | [] => [opening, closing]
  | pieces =>
      opening :: [','].intercalate (pieces.map (layout.lineBreak (depth + 1) ++ ·)) ++
        layout.lineBreak depth ++ [closing]

mutual

/-- The characters of a document that stands at the given depth. -/
def toChars (layout : Layout) (depth : Nat) : Json → List Char
  | boolean true => ['t', 'r', 'u', 'e']
  | boolean false => ['f', 'a', 'l', 's', 'e']
  | number value => Nat.toDigits 10 value
  | text value => quote value
  | list items => layout.bracket depth '[' ']' (itemsToChars layout (depth + 1) items)
  | record members =>
      layout.bracket depth '\x7b' '\x7d' (membersToChars layout (depth + 1) members)

/-- The characters of each item of a list. -/
def itemsToChars (layout : Layout) (depth : Nat) : List Json → List (List Char)
  | [] => []
  | item :: rest => toChars layout depth item :: itemsToChars layout depth rest

/-- The characters of each member of a record. -/
def membersToChars (layout : Layout) (depth : Nat) : List (String × Json) → List (List Char)
  | [] => []
  | (name, value) :: rest =>
      (quote name ++ layout.colon ++ toChars layout depth value) ::
        membersToChars layout depth rest

end

/-- The written form of a document. -/
def render (layout : Layout) (document : Json) : String :=
  String.ofList (document.toChars layout 0)

end Json

end SortableId
