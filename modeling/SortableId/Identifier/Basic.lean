import SortableId.Checksum.Verify
import SortableId.Fields

/-!
# Identifiers

An identifier is a kind and the fields of a body.  It is written as the kind, an underscore and the
payload, optionally followed by a hyphen and the checksum.
-/

namespace SortableId

/-- A decoded identifier. -/
structure Identifier where
  kind : Kind
  fields : Fields
  deriving DecidableEq

namespace Identifier

/-- The 160 bits of an identifier. -/
def body (id : Identifier) : Body := id.fields.pack

/-- The written body. -/
def payload (id : Identifier) : List Char := Payload.encode id.body

/-- The checksum over the kind and the body. -/
def checksum (id : Identifier) : Checksum :=
  Checksum.ofSymbols (Checksum.label id.kind.name.toList) id.body.symbols

/-- The characters of the written form without a checksum. -/
def baseChars (id : Identifier) : List Char := id.kind.name.toList ++ '_' :: id.payload

/-- The characters of the written form, with or without a checksum. -/
def toChars (id : Identifier) (withChecksum : Bool) : List Char :=
  if withChecksum then id.baseChars ++ '-' :: id.checksum.toChars else id.baseChars

/-- The written form, with or without a checksum. -/
def encode (id : Identifier) (withChecksum : Bool) : String :=
  String.ofList (id.toChars withChecksum)

/-- An identifier is shown without its checksum. -/
instance : ToString Identifier := ⟨fun id => id.encode false⟩

/-- The instant of creation in milliseconds since 1970. -/
def unixMs (id : Identifier) : Nat := id.fields.time.toUnixMs

/-- Identifiers are ordered by kind, then by the fields. -/
instance : Ord Identifier where
  compare left right :=
    (compare left.kind right.kind).then (compare left.fields right.fields)

/-- The identifiers in increasing order. -/
def sort (ids : List Identifier) : List Identifier :=
  ids.mergeSort fun left right => (compare left right).isLE

end Identifier

end SortableId
