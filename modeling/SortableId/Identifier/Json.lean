import SortableId.Identifier.Basic
import SortableId.Json.Document

/-!
# Identifiers as JSON

A decoded identifier is a record of its kind, its instant in milliseconds since 1970 and its other
fields.
-/

namespace SortableId

/-- The document of flags is their number. -/
def Flags.toJson (flags : Flags) : Json := .number flags.bits.toNat

/-- The document of a decoded identifier. -/
def Identifier.toJson (id : Identifier) : Json :=
  .record [
    ("prefix", .text id.kind.name),
    ("time_ms", .number id.unixMs),
    ("flags", id.fields.flags.toJson),
    ("tenant", .number id.fields.tenant.toNat),
    ("seq", .number id.fields.seq.toNat),
    ("shard", .number id.fields.shard.toNat),
    ("random", .number id.fields.random.toNat)]

end SortableId
