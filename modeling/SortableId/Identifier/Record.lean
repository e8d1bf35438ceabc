import SortableId.Generator
import SortableId.Identifier.Components

/-!
# Identifiers in machine words

A record holds an identifier in words of 8, 16 and 64 bits, which are wider than some fields of a
body.  Constructors mask the words that they are given and add the epoch to the time; the masked
words are taken back out of a record by subtracting it.  Both wrap, as machine arithmetic does.
-/

namespace SortableId

/-- The fields of a body in machine words. -/
structure Words where
  time : BitVec 64
  flags : Flags
  tenant : BitVec 16
  seq : BitVec 16
  shard : BitVec 16
  random : BitVec 64
  deriving DecidableEq, Repr, Inhabited

/-- The fields of a body, each in the word that holds it. -/
def Fields.words (fields : Fields) : Words where
  time := fields.time.setWidth 64
  flags := fields.flags
  tenant := fields.tenant
  seq := fields.seq.setWidth 16
  shard := fields.shard
  random := fields.random.setWidth 64

namespace Words

def timeMask : BitVec 64 := 0xffffffffffff

def seqMask : BitVec 16 := 0xfff

def randomMask : BitVec 64 := 0xfffffffffffffff

/-- The body that holds the words, without the high bits that have no place in it. -/
def pack (words : Words) : Body :=
  (Fields.truncate words.time words.flags words.tenant words.seq words.shard words.random).pack

/-- The words that a body holds. -/
def unpack (body : Body) : Words := (Fields.unpack body).words

end Words

namespace Time

/-- The epoch as a machine word. -/
def epochWord : BitVec 64 := 1577836800000

/-- The milliseconds from the epoch to an instant.  Instants before it count as the epoch. -/
def sinceEpoch (unixMs : BitVec 64) : BitVec 64 :=
  if unixMs < epochWord then 0 else unixMs - epochWord

end Time

/-- The words that are put into an identifier with the given components. -/
def Components.words (components : Components) : Words where
  time := Time.sinceEpoch components.unixMs &&& Words.timeMask
  flags := components.flags
  tenant := components.tenant
  seq := components.seq &&& Words.seqMask
  shard := components.shard
  random := components.random &&& Words.randomMask

namespace Call

/-- The instant that a call stamps: what the clock says, rounded down if a bucket is asked for. -/
def instant (call : Call) : BitVec 64 :=
  match call.options.bucketMs with
  | none => call.reading.nowMs
  | some width => Generator.quantize width call.reading.nowMs

/-- The words that a call puts into its identifier, given the sequence number and the entropy. -/
def words (call : Call) (seq : BitVec 12) (entropy : BitVec 64) : Words where
  time := Time.sinceEpoch call.instant &&& Words.timeMask
  flags := if call.options.bucketMs.isSome then Flags.first.withBucketed else .first
  tenant := call.options.tenant
  seq := seq.setWidth 16
  shard := call.options.shard
  random := entropy &&& Words.randomMask

end Call

/-- An identifier in machine words: the name of its kind, its instant in milliseconds since 1970,
and words for the other fields. -/
structure Record where
  kind : String
  unixMs : BitVec 64
  flags : Flags
  tenant : BitVec 16
  seq : BitVec 16
  shard : BitVec 16
  random : BitVec 64
  deriving DecidableEq

namespace Record

/-- The record with the given words, whose time counts from the epoch. -/
def ofWords (kind : String) (words : Words) : Record where
  kind
  unixMs := Time.epochWord + words.time
  flags := words.flags
  tenant := words.tenant
  seq := words.seq
  shard := words.shard
  random := words.random

/-- The words of a record, with the time counted from the epoch. -/
def words (record : Record) : Words where
  time := record.unixMs - Time.epochWord
  flags := record.flags
  tenant := record.tenant
  seq := record.seq
  shard := record.shard
  random := record.random

/-- The 160 bits of a record. -/
def body (record : Record) : Body := record.words.pack

/-- The values of a record, stated as components. -/
def components (record : Record) : Components where
  kind := record.kind
  unixMs := record.unixMs
  flags := record.flags
  tenant := record.tenant
  seq := record.seq
  shard := record.shard
  random := record.random

section

variable {Instant : Type}

/-- The instant of a record, if it is a signed word and the given calendar reaches that far. -/
def instant? (ofMillis : Int → Option Instant) (record : Record) : Option Instant :=
  if record.unixMs.msb then none else ofMillis record.unixMs.toInt

/-- The instant of a record, or the last one of the calendar. -/
def createdAt (ofMillis : Int → Option Instant) (last : Instant) (record : Record) : Instant :=
  (record.instant? ofMillis).getD last

end

end Record

/-- The record of an identifier. -/
def Identifier.record (id : Identifier) : Record where
  kind := id.kind.name
  unixMs := BitVec.ofNat 64 id.unixMs
  flags := id.fields.flags
  tenant := id.fields.tenant
  seq := id.fields.seq.setWidth 16
  shard := id.fields.shard
  random := id.fields.random.setWidth 64

end SortableId
