/-!
# Times

An identifier counts milliseconds from the start of 2020, while clocks count from the start of
1970.  Instants before 2020 count as its start, and the count wraps after 48 bits.
-/

namespace SortableId

/-- Milliseconds since 2020-01-01T00:00:00Z. -/
abbrev Time := BitVec 48

namespace Time

/-- 2020-01-01T00:00:00Z in milliseconds since 1970. -/
def epochMs : Nat := 1577836800000

/-- The first instant in milliseconds since 1970 that 48 bits cannot count. -/
def endMs : Nat := epochMs + 281474976710656

/-- The time of an instant given in milliseconds since 1970. -/
def ofUnixMs (unixMs : BitVec 64) : Time := BitVec.ofNat 48 (unixMs.toNat - epochMs)

/-- The instant of a time in milliseconds since 1970. -/
def toUnixMs (time : Time) : Nat := epochMs + time.toNat

theorem epochMs_le_toUnixMs (time : Time) : epochMs ≤ time.toUnixMs :=
  Nat.le_add_right _ _

theorem toUnixMs_lt (time : Time) : time.toUnixMs < endMs :=
  Nat.add_lt_add_left time.isLt _

/-- An instant from the epoch on that 48 bits can count is kept exactly. -/
theorem toUnixMs_ofUnixMs {unixMs : BitVec 64} (fromEpoch : epochMs ≤ unixMs.toNat)
    (inRange : unixMs.toNat < endMs) : (ofUnixMs unixMs).toUnixMs = unixMs.toNat := by
  have counted : unixMs.toNat - epochMs < 281474976710656 := by
    unfold endMs at inRange
    omega
  rw [ofUnixMs, toUnixMs, BitVec.toNat_ofNat, Nat.mod_eq_of_lt counted]
  omega

end Time

end SortableId
