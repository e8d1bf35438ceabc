import SortableId.Identifier.Basic

/-!
# Identifiers from explicit values

Components are what a caller states about an identifier: the name of its kind, the instant in
milliseconds since 1970, and words for the fields.  Words that are too wide for their field lose
their high bits.
-/

namespace SortableId

/-- The values that a caller states about an identifier. -/
structure Components where
  kind : String
  unixMs : BitVec 64 := 0
  flags : Flags := .first
  tenant : BitVec 16 := 0
  seq : BitVec 16 := 0
  shard : BitVec 16 := 0
  random : BitVec 64 := 0
  deriving DecidableEq

namespace Components

/-- The random field that hexadecimal bytes of any number stand for: the low 60 bits of the number
that they write. -/
def randomOfBytes (bytes : List UInt8) : BitVec 60 :=
  (Chunks.join 64 (bytes.map UInt8.toBitVec)).setWidth 60

/-- The same components with the random field given in hexadecimal. -/
def withRandomHex (components : Components) (hex : String) : Except IdError Components :=
  match Text.Hex.decode hex with
  | .error fault => .error (.invalidRandomHex fault)
  | .ok bytes => .ok { components with random := (randomOfBytes bytes).setWidth 64 }

/-- The fields that components stand for. -/
def fields (components : Components) : Fields where
  time := Time.ofUnixMs components.unixMs
  flags := components.flags
  tenant := components.tenant
  seq := components.seq.setWidth 12
  shard := components.shard
  random := components.random.setWidth 60

end Components

/-- The identifier with the given components. -/
def Identifier.ofComponents (components : Components) : Except IdError Identifier :=
  match Kind.ofString? components.kind with
  | none => .error (.invalidKind components.kind)
  | some kind => .ok ⟨kind, components.fields⟩

end SortableId
