import SortableId.Calendar
import SortableId.Generator
import SortableId.Identifier.Parse
import SortableId.Json.Document
import SortableId.Program.Failure
import SortableId.Program.Invocation
import SortableId.Table

/-!
# Making identifiers on the command line

As many identifiers as ordered are made by one generator, read back, and printed as a table or as
JSON.
-/

namespace SortableId.Program

/-- A printed identifier: its written form and what it reads as. -/
structure Row where
  encoded : String
  id : Identifier
  deriving DecidableEq

namespace Row

/-- The instant of creation as it is printed. -/
def time (row : Row) : String := Calendar.timestamp row.id.unixMs

/-- The cells of a row. -/
def cells (row : Row) : List String :=
  [row.encoded, row.time, toString row.id.fields.tenant.toNat, toString row.id.fields.shard.toNat,
    toString row.id.fields.seq.toNat]

/-- The document of a row. -/
def toJson (row : Row) : Json :=
  .record [
    ("id", .text row.encoded),
    ("time", .text row.time),
    ("tenant", .number row.id.fields.tenant.toNat),
    ("shard", .number row.id.fields.shard.toNat),
    ("seq", .number row.id.fields.seq.toNat)]

/-- Rows as they are printed. -/
def render (format : Format) (rows : List Row) : String :=
  match format with
  | .json => (Json.list (rows.map toJson)).render .indented
  | .table =>
      if rows.isEmpty then "No items found."
      else
        { header := ["ID", "Time", "Tenant", "Shard", "Seq"]
          rows := rows.map cells : Table }.bordered

end Row

/-- The rows of the given number of calls; the call with the given index comes first and reads its
own reading. -/
def generateRows (kind : String) (options : Options) (readings : Nat → Reading)
    (generator : Generator) (index : Nat) : Nat → Except Failure (List Row)
  | 0 => .ok []
  | count + 1 =>
      match generator.generate { kind, options, reading := readings index } with
      | (.error error, _) => .error (.id error)
      | (.ok encoded, after) =>
          match Identifier.parse encoded with
          | .error error => .error (.notReadBack encoded error)
          | .ok id =>
              (generateRows kind options readings after (index + 1) count).map (⟨encoded, id⟩ :: ·)

/-- Makes the ordered identifiers and prints them. -/
def runGenerate (format : Format) (order : Order) (defaults : Options)
    (readings : Nat → Reading) : Output :=
  match generateRows order.kind (order.options defaults) readings {} 0 order.count with
  | .ok rows => .line (Row.render format rows)
  | .error failure => failure.toOutput ""

end SortableId.Program
