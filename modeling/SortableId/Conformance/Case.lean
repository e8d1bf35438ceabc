import SortableId.Identifier.Components
import SortableId.Json.Document
import SortableId.Json.Record

/-!
# Conformance cases

A case states the values of an identifier and the canonical text that they have to encode to, or a
text that has to be refused.  A suite is a list of cases, kept as JSON.
-/

namespace SortableId.Conformance

/-- One conformance case.  The text carries a checksum exactly if it holds a hyphen. -/
structure Case where
  description : String := ""
  kind : String := ""
  unixMs : BitVec 64 := 0
  flags : BitVec 8 := 0
  tenant : BitVec 16 := 0
  seq : BitVec 16 := 0
  shard : BitVec 16 := 0
  randomHex : String := ""
  id : String := ""
  expectError : Bool := false
  deriving DecidableEq

namespace Case

/-- Whether the text of a case carries a checksum. -/
def withChecksum (item : Case) : Bool := item.id.toList.contains '-'

/-- The components that a case states. -/
def components (item : Case) : Except IdError Components :=
  let plain : Components := {
    kind := item.kind
    unixMs := item.unixMs
    flags := ⟨item.flags⟩
    tenant := item.tenant
    seq := item.seq
    shard := item.shard }
  plain.withRandomHex item.randomHex

/-- The text that the values of a case encode to. -/
def encode (item : Case) : Except IdError String := do
  let id ← Identifier.ofComponents (← item.components)
  return id.encode item.withChecksum

/-- The document of a case. -/
def toJson (item : Case) : Json :=
  .record [
    ("desc", .text item.description),
    ("prefix", .text item.kind),
    ("time_ms", .number item.unixMs.toNat),
    ("flags", .number item.flags.toNat),
    ("tenant", .number item.tenant.toNat),
    ("seq", .number item.seq.toNat),
    ("shard", .number item.shard.toNat),
    ("random_hex", .text item.randomHex),
    ("id", .text item.id),
    ("expect_error", .boolean item.expectError)]

/-- How a case is read.  Every field may be absent. -/
def shape : Json.Shape Case where
  name := "Vector"
  initial := {}
  fields := [
    .of "desc" Json.Reader.text fun description item => { item with description },
    .of "prefix" Json.Reader.text fun kind item => { item with kind },
    .of "time_ms" (Json.Reader.word 64) fun unixMs item => { item with unixMs },
    .of "flags" (Json.Reader.word 8) fun flags item => { item with flags },
    .of "tenant" (Json.Reader.word 16) fun tenant item => { item with tenant },
    .of "seq" (Json.Reader.word 16) fun seq item => { item with seq },
    .of "shard" (Json.Reader.word 16) fun shard item => { item with shard },
    .of "random_hex" Json.Reader.text fun randomHex item => { item with randomHex },
    .of "id" Json.Reader.text fun id item => { item with id },
    .of "expect_error" Json.Reader.boolean fun expectError item => { item with expectError }]

end Case

/-- The cases of a file. -/
structure Suite where
  cases : List Case := []
  deriving DecidableEq

namespace Suite

/-- The document of a suite. -/
def toJson (suite : Suite) : Json :=
  .record [("vectors", .list (suite.cases.map Case.toJson))]

/-- How a suite is read.  The cases may not be absent. -/
def shape : Json.Shape Suite where
  name := "VectorFile"
  initial := {}
  fields := [
    (.of "vectors" (Json.Reader.list Case.shape.read) fun cases suite =>
      { suite with cases } : Json.Field Suite).asRequired]

/-- The suite that a text holds. -/
def ofJson (text : String) : Except Json.Error Suite := shape.read.run text

end Suite

end SortableId.Conformance
