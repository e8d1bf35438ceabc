import SortableId.Body
import SortableId.Flags
import SortableId.Time

/-!
# Fields of a body

A body is the concatenation of six fields, most significant first:

| field  | bits | meaning                                   |
|--------|------|-------------------------------------------|
| time   | 48   | milliseconds since the epoch of the clock |
| flags  | 8    | version and bucketing                     |
| tenant | 16   | assigned by the caller                    |
| seq    | 12   | counts identifiers of one instant         |
| shard  | 16   | assigned by the caller                    |
| random | 60   | from an entropy source                    |

Time comes first, so bodies are ordered by creation time, then by sequence number within a tenant.
-/

namespace SortableId

/-- The fields of a body, each exactly as wide as its place. -/
structure Fields where
  time : Time
  flags : Flags
  tenant : BitVec 16
  seq : BitVec 12
  shard : BitVec 16
  random : BitVec 60
  deriving DecidableEq, Repr, Inhabited

namespace Fields

/-- Fields cut down from machine words: the high bits of a word that is too wide are dropped. -/
def truncate (time : BitVec 64) (flags : Flags) (tenant seq shard : BitVec 16)
    (random : BitVec 64) : Fields where
  time := time.setWidth 48
  flags := flags
  tenant := tenant
  seq := seq.setWidth 12
  shard := shard
  random := random.setWidth 60

/-- The body that holds the given fields. -/
def pack (fields : Fields) : Body :=
  fields.time ++ fields.flags.bits ++ fields.tenant ++ fields.seq ++ fields.shard ++ fields.random

/-- The fields that a body holds. -/
def unpack (body : Body) : Fields where
  time := body.extractLsb' 112 48
  flags := ⟨body.extractLsb' 104 8⟩
  tenant := body.extractLsb' 88 16
  seq := body.extractLsb' 76 12
  shard := body.extractLsb' 60 16
  random := body.extractLsb' 0 60

/-- Fields are ordered by the first one that differs. -/
instance : Ord Fields where
  compare left right :=
    (compare left.time right.time).then <|
    (compare left.flags right.flags).then <|
    (compare left.tenant right.tenant).then <|
    (compare left.seq right.seq).then <|
    (compare left.shard right.shard).then <|
    compare left.random right.random

end Fields

end SortableId
