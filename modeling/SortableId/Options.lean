/-!
# Options

What a caller chooses about the identifiers that a generator makes: tenant, shard, whether the
checksum is written, and the width of the buckets that times are rounded down to.
-/

namespace SortableId

/-- What a caller chooses about new identifiers.  A bucket of zero seconds means exact times. -/
structure Options where
  tenant : BitVec 16 := 0
  shard : BitVec 16 := 0
  checksum : Bool := false
  bucketSeconds : BitVec 32 := 0
  deriving DecidableEq, Repr, Inhabited

namespace Options

/-- The width of the buckets in milliseconds, if there are any. -/
def bucketMs (options : Options) : Option (BitVec 64) :=
  if options.bucketSeconds = 0 then none else some (options.bucketSeconds.setWidth 64 * 1000)

/-- One step of the hash of a key: multiply, then mix the byte in at the bottom. -/
def hashStep (hash : BitVec 32) (byte : UInt8) : BitVec 32 :=
  (hash * 16777619) ^^^ byte.toBitVec.setWidth 32

/-- The shard of a key: the low half of its hash. -/
def shardOfBytes (key : List UInt8) : BitVec 16 := (key.foldl hashStep 0).setWidth 16

/-- The options with the shard of a key. -/
def withShardOfBytes (options : Options) (key : List UInt8) : Options :=
  { options with shard := shardOfBytes key }

@[simp] theorem bucketMs_eq_none_iff {options : Options} :
    options.bucketMs = none ↔ options.bucketSeconds = 0 := by
  simp [bucketMs]

end Options

end SortableId
