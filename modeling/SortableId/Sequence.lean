/-!
# Sequence numbers

Events of one instant are told apart by a number that counts them, from zero, modulo 4096.  Only
the instant of the last event is remembered: an instant that comes back after another one starts
again at zero.
-/

namespace SortableId

/-- The instant of the last event and the number that it got. -/
structure Sequence (Instant : Type) where
  last : Option Instant := none
  counter : BitVec 12 := 0
  deriving DecidableEq, Repr

namespace Sequence

variable {Instant : Type} [DecidableEq Instant]

/-- The number of the next event, and the sequence after it. -/
def next (sequence : Sequence Instant) (instant : Instant) : BitVec 12 × Sequence Instant :=
  let counter := if sequence.last = some instant then sequence.counter + 1 else 0
  (counter, { last := some instant, counter })

/-- The numbers of a history of events, and the sequence after it. -/
def run (sequence : Sequence Instant) : List Instant → List (BitVec 12) × Sequence Instant
  | [] => ([], sequence)
  | instant :: later =>
      let (number, afterwards) := sequence.next instant
      let (numbers, final) := afterwards.run later
      (number :: numbers, final)

@[simp] theorem last_next (sequence : Sequence Instant) (instant : Instant) :
    (sequence.next instant).2.last = some instant := rfl

@[simp] theorem counter_next (sequence : Sequence Instant) (instant : Instant) :
    (sequence.next instant).2.counter = (sequence.next instant).1 := rfl

/-- Another event of the same instant gets the next number. -/
theorem next_next (sequence : Sequence Instant) (instant : Instant) :
    ((sequence.next instant).2.next instant).1 = (sequence.next instant).1 + 1 := by
  simp [next]

/-- The first event of an instant gets zero. -/
theorem next_of_ne {sequence : Sequence Instant} {instant : Instant}
    (fresh : sequence.last ≠ some instant) : (sequence.next instant).1 = 0 := by
  simp [next, fresh]

end Sequence

end SortableId
