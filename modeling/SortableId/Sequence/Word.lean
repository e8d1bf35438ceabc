import SortableId.Identifier.Record

/-!
# Sequence numbers in a machine word

The number of the last event is held in a word of 16 bits, which counts further than to 4095.  It is
masked after every increment.
-/

namespace SortableId

/-- The instant of the last event and the word that holds the number that it got. -/
structure SequenceWord (Instant : Type) where
  last : Option Instant := none
  counter : BitVec 16 := 0
  deriving DecidableEq, Repr

namespace SequenceWord

variable {Instant : Type} [DecidableEq Instant]

/-- The number of the next event, and the words after it. -/
def next (words : SequenceWord Instant) (instant : Instant) :
    BitVec 16 × SequenceWord Instant :=
  let counter := if words.last = some instant then (words.counter + 1) &&& Words.seqMask else 0
  (counter, { last := some instant, counter })

/-- The numbers of a history of events, and the words after it. -/
def run (words : SequenceWord Instant) :
    List Instant → List (BitVec 16) × SequenceWord Instant
  | [] => ([], words)
  | instant :: later =>
      let (number, afterwards) := words.next instant
      let (numbers, final) := afterwards.run later
      (number :: numbers, final)

end SequenceWord

/-- A sequence in machine words. -/
def Sequence.word {Instant : Type} (sequence : Sequence Instant) : SequenceWord Instant where
  last := sequence.last
  counter := sequence.counter.setWidth 16

end SortableId
