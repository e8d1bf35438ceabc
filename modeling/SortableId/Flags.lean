/-!
# Flags

Eight bits: the two highest hold the version of the layout, bit 5 says that the time was rounded
down to the start of a bucket, and the others are reserved and carried unchanged.
-/

namespace SortableId

/-- The flags of an identifier. -/
structure Flags where
  bits : BitVec 8
  deriving DecidableEq, Repr, Inhabited

namespace Flags

/-- The first version of the layout, with no other bit set. -/
def first : Flags := ⟨0⟩

/-- The version of the layout, zero for the first. -/
def version (flags : Flags) : BitVec 2 := flags.bits.extractLsb' 6 2

/-- Whether the time is the start of a bucket. -/
def bucketed (flags : Flags) : Bool := flags.bits.getLsbD 5

/-- The same flags, marked as bucketed. -/
def withBucketed (flags : Flags) : Flags := ⟨flags.bits ||| 0x20⟩

/-- Flags are ordered as numbers. -/
instance : Ord Flags := ⟨fun left right => compare left.bits right.bits⟩

@[simp] theorem bucketed_first : first.bucketed = false := rfl

@[simp] theorem version_first : first.version = 0 := rfl

@[simp] theorem bucketed_withBucketed (flags : Flags) : flags.withBucketed.bucketed = true := by
  simp [withBucketed, bucketed]

end Flags

end SortableId
