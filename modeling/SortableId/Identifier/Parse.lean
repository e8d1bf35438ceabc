import SortableId.Identifier.Basic
import SortableId.Text.Blank

/-!
# Reading identifiers

White space around a written identifier is ignored.  Behind the last hyphen, if there is one, stands
the checksum, which is verified before anything else is looked at; the kind, the length of the
payload and its symbols follow in this order.
-/

namespace SortableId.Identifier

/-- Reads a text that carries no checksum. -/
def parseBase (base : List Char) : Except IdError Identifier :=
  match Text.splitFirst '_' base with
  | none => .error .missingSeparator
  | some ([], _) => .error .missingSeparator
  | some (name, payload) =>
      match Kind.ofString? (String.ofList name) with
      | none => .error (.invalidKind (String.ofList name))
      | some kind =>
          (Payload.decode payload).map fun body => ⟨kind, Fields.unpack body⟩

/-- Checks the characters behind the last hyphen against the text before it. -/
def checkSuffix (base given : List Char) : Except IdError Unit :=
  if Text.utf8Length given ≠ Checksum.symbolCount then
    .error (.checksumLength (Text.utf8Length given))
  else
    match Checksum.compute base with
    | .error error => .error error
    | .ok computed =>
        if computed.spelledBy given then .ok ()
        else .error (.checksumMismatch computed (String.ofList given))

/-- Reads a text without white space around it. -/
def parseTrimmed (text : List Char) : Except IdError Identifier :=
  if text.isEmpty then
    .error .empty
  else
    match Text.splitLast '-' text with
    | none => parseBase text
    | some (base, given) =>
        match checkSuffix base given with
        | .error error => .error error
        | .ok () => parseBase base

/-- Reads a written identifier. -/
def parse (input : String) : Except IdError Identifier :=
  parseTrimmed (Text.Blank.trim input.toList)

end SortableId.Identifier
