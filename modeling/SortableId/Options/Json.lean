import SortableId.Json.Document
import SortableId.Json.Record
import SortableId.Options

/-!
# Options as JSON

Options are a record of four fields, each of which may be absent.
-/

namespace SortableId.Options

/-- The document of options. -/
def toJson (options : Options) : Json :=
  .record [
    ("tenant", .number options.tenant.toNat),
    ("shard", .number options.shard.toNat),
    ("checksum", .boolean options.checksum),
    ("bucket_seconds", .number options.bucketSeconds.toNat)]

/-- How options are read. -/
def shape : Json.Shape Options where
  name := "Options"
  initial := {}
  fields := [
    .of "tenant" (Json.Reader.word 16) fun tenant options => { options with tenant },
    .of "shard" (Json.Reader.word 16) fun shard options => { options with shard },
    .of "checksum" Json.Reader.boolean fun checksum options => { options with checksum },
    .of "bucket_seconds" (Json.Reader.word 32) fun bucketSeconds options =>
      { options with bucketSeconds }]

/-- The options that a text holds. -/
def ofJson (text : String) : Except Json.Error Options := shape.read.run text

end SortableId.Options
