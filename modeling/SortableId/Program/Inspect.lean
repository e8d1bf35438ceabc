import SortableId.Calendar
import SortableId.Identifier.Parse
import SortableId.Json.Document
import SortableId.Program.Failure
import SortableId.Program.Invocation
import SortableId.Table

/-!
# Inspecting identifiers on the command line

An identifier is read and its parts are printed, as a table of names and values or as JSON.
-/

namespace SortableId.Program

/-- An identifier and the text that it was read from, without white space around it. -/
structure Inspection where
  text : String
  id : Identifier
  deriving DecidableEq

namespace Inspection

/-- Flags as they are printed: two hexadecimal digits behind a mark. -/
def flags (inspection : Inspection) : String :=
  "0x" ++ Text.Hex.number 2 inspection.id.fields.flags.bits.toNat

/-- The random field as it is printed: sixteen hexadecimal digits behind a mark. -/
def random (inspection : Inspection) : String :=
  "0x" ++ Text.Hex.number 16 inspection.id.fields.random.toNat

/-- The instant of creation as it is printed. -/
def time (inspection : Inspection) : String := Calendar.timestamp inspection.id.unixMs

/-- The names and values of the printed parts. -/
def rows (inspection : Inspection) : List (List String) :=
  let fields := inspection.id.fields
  [ ["id", inspection.text],
    ["prefix", inspection.id.kind.name],
    ["time (ms)", toString inspection.id.unixMs],
    ["time (iso)", inspection.time],
    ["flags", inspection.flags],
    ["tenant", toString fields.tenant.toNat],
    ["seq", toString fields.seq.toNat],
    ["shard", toString fields.shard.toNat],
    ["random60", inspection.random] ]

/-- The document of an inspection. -/
def toJson (inspection : Inspection) : Json :=
  let fields := inspection.id.fields
  .record [
    ("id", .text inspection.text),
    ("prefix", .text inspection.id.kind.name),
    ("time_ms", .number inspection.id.unixMs),
    ("time", .text inspection.time),
    ("flags", .text inspection.flags),
    ("version", .number fields.flags.version.toNat),
    ("privacy_bucketed", .boolean fields.flags.bucketed),
    ("tenant", .number fields.tenant.toNat),
    ("seq", .number fields.seq.toNat),
    ("shard", .number fields.shard.toNat),
    ("random60", .text inspection.random)]

/-- An inspection as it is printed. -/
def render (format : Format) (inspection : Inspection) : String :=
  match format with
  | .json => inspection.toJson.render .indented
  | .table => { header := ["Field", "Value"], rows := inspection.rows : Table }.plain

/-- The inspection of a written identifier. -/
def ofText (text : String) : Except IdError Inspection :=
  (Identifier.parse text).map fun id => ⟨String.ofList (Text.Blank.trim text.toList), id⟩

end Inspection

/-- Reads an identifier and prints its parts. -/
def runParse (format : Format) (text : String) : Output :=
  match Inspection.ofText text with
  | .ok inspection => .line (inspection.render format)
  | .error error => (Failure.id error).toOutput ""

end SortableId.Program
