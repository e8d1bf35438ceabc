import SortableId.Payload
import SortableId.Text.Split

/-!
# Checksums of written identifiers

The checksum of a text is computed without checking its kind or the length of its payload: whatever
stands up to the first underscore is the label, in lowercase, and whatever stands behind it has to
spell symbols.
-/

namespace SortableId.Checksum

/-- The bytes of the label with the given name. -/
def label (name : List Char) : List UInt8 := Text.utf8 (name ++ ['_'])

/-- The checksum of a text without its own checksum. -/
def compute (base : List Char) : Except IdError Checksum :=
  match Text.splitFirst '_' base with
  | none => .error .missingSeparator
  | some ([], _) => .error .missingSeparator
  | some (name, payload) =>
      (Payload.readSymbols 0 payload).map (ofSymbols (label (name.map Char.toLower)))

/-- Whether a text has a checksum and the given characters spell it. -/
def verify (base given : List Char) : Bool :=
  match compute base with
  | .ok checksum => checksum.spelledBy given
  | .error _ => false

end SortableId.Checksum
