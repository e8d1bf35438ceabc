/-!
# Sets of characters as ranges

A property of characters is carried as the list of its ranges of code points, both ends included,
in increasing order and with a gap between neighbours.
-/

namespace SortableId.Text

/-- A set of code points: closed ranges, in increasing order and apart. -/
abbrev Ranges := List (Nat × Nat)

namespace Ranges

/-- Whether the character's code point lies in one of the ranges. -/
def holds (ranges : Ranges) (c : Char) : Bool :=
  ranges.any fun range => decide (range.1 ≤ c.toNat ∧ c.toNat ≤ range.2)

/-- The check that ranges are in increasing order, nonempty and apart. -/
def ordered : Ranges → Bool
  | [] => true
  | [range] => decide (range.1 ≤ range.2)
  | range :: next :: rest =>
      decide (range.1 ≤ range.2 ∧ range.2 + 1 < next.1) && ordered (next :: rest)

end Ranges

end SortableId.Text
