import SortableId.Identifier.Basic
import SortableId.Options
import SortableId.Sequence

/-!
# Generators

A generator keeps a sequence of the times that it has stamped.  What it reads from outside, the
clock and the entropy source, is passed to every call as a value, so a run of calls is a function
of its readings.
-/

namespace SortableId

/-- What one call reads from outside: the clock, in milliseconds since 1970, and eight bytes of
entropy, most significant first, or the reason why there are none. -/
structure Reading where
  nowMs : BitVec 64
  entropy : Except String (BitVec 64)

/-- The state of a generator. -/
structure Generator where
  sequence : Sequence Time := {}
  deriving DecidableEq

/-- One call of a generator: what the caller asks for and what the call reads. -/
structure Call where
  kind : String
  options : Options
  reading : Reading

namespace Generator

/-- An instant rounded down to a multiple of the width. -/
def quantize (width instant : BitVec 64) : BitVec 64 := instant / width * width

/-- The time and the flags that are stamped on an identifier made at the given instant. -/
def stamp (options : Options) (nowMs : BitVec 64) : Time × Flags :=
  match options.bucketMs with
  | none => (Time.ofUnixMs nowMs, .first)
  | some width => (Time.ofUnixMs (quantize width nowMs), Flags.first.withBucketed)

/-- Makes an identifier.  The kind is checked before anything changes; a sequence number is used
up even if there is no entropy. -/
def generateId (generator : Generator) (call : Call) :
    Except IdError Identifier × Generator :=
  match Kind.ofString? call.kind with
  | none => (.error (.invalidKind call.kind), generator)
  | some kind =>
      let (time, flags) := stamp call.options call.reading.nowMs
      let (seq, sequence) := generator.sequence.next time
      let outcome :=
        match call.reading.entropy with
        | .error reason => .error (.entropyFailure reason)
        | .ok random =>
            .ok {
              kind
              fields := {
                time, flags, seq
                tenant := call.options.tenant
                shard := call.options.shard
                random := random.setWidth 60 } }
      (outcome, { sequence })

/-- Makes the written form of an identifier. -/
def generate (generator : Generator) (call : Call) : Except IdError String × Generator :=
  let (outcome, after) := generator.generateId call
  (outcome.map fun id => id.encode call.options.checksum, after)

/-- The outcomes of a run of calls, and the generator after it. -/
def run (generator : Generator) : List Call → List (Except IdError Identifier) × Generator
  | [] => ([], generator)
  | call :: later =>
      let (outcome, after) := generator.generateId call
      let (outcomes, final) := after.run later
      (outcome :: outcomes, final)

/-- A call with an invalid kind leaves the generator as it was. -/
theorem generateId_of_invalid {generator : Generator} {call : Call}
    (invalid : Kind.ofString? call.kind = none) :
    generator.generateId call = (.error (.invalidKind call.kind), generator) := by
  simp [generateId, invalid]

end Generator

end SortableId
