import SortableId.Proofs.Records
import SortableId.Sequence.Word

/-!
# Counting events

Over any history of events, however its instants repeat and return, the number of an event is the
length of the streak of its instant directly before it, modulo 4096, and the sequence keeps the last
instant and the last number.  A machine word counts in the same way: the mask takes back each carry
out of twelve bits, so no word is ever near its own end.
-/

namespace SortableId

variable {Instant : Type} [DecidableEq Instant]

namespace Sequence

/-- From the end of a history on, each event gets the streak of its instant up to there. -/
theorem AtEnd.numbers_run {sequence : Sequence Instant} {before : List Instant}
    (atEnd : sequence.AtEnd before) (history : List Instant) :
    (sequence.run history).1 = history.mapIdx fun index instant =>
      BitVec.ofNat 12 (streak (before ++ history.take index) instant) := by
  induction history generalizing sequence before with
  | nil => rfl
  | cons instant later ih =>
      have first : (sequence.next instant).1 = BitVec.ofNat 12 (streak before instant) :=
        atEnd instant
      have others := ih (atEnd.next instant)
      rw [List.mapIdx_cons]
      simp only [run, first, others, List.take_zero, List.append_nil, List.take_succ_cons,
        List.append_assoc, List.singleton_append]

/-- A run leaves the last instant and the last number, if there was any event. -/
theorem state_run (sequence : Sequence Instant) (history : List Instant) :
    (sequence.run history).2 =
      { last := history.getLast?.or sequence.last
        counter := (sequence.run history).1.getLast?.getD sequence.counter } := by
  induction history generalizing sequence with
  | nil => rfl
  | cons instant later ih =>
      simp only [run, ih, last_next, counter_next, List.getLast?_cons, Option.getD_some, mk.injEq,
        and_true]
      cases later.getLast? with
      | none => rfl
      | some last => rfl

end Sequence

namespace SequenceWord

/-- The masked word follows the number of twelve bits. -/
theorem increment_eq (counter : BitVec 12) :
    (counter.setWidth 16 + 1) &&& Words.seqMask = (counter + 1).setWidth 16 := by
  have masked : (counter.setWidth 16 + 1) &&& Words.seqMask =
      ((counter.setWidth 16 + 1).setWidth 12).setWidth 16 := and_eq_setWidth rfl _
  rw [masked, BitVec.setWidth_add _ _ (by decide), BitVec.setWidth_setWidth_of_le _ (by decide)]
  simp

theorem next_word (sequence : Sequence Instant) (instant : Instant) :
    sequence.word.next instant =
      ((sequence.next instant).1.setWidth 16, (sequence.next instant).2.word) := by
  by_cases same : sequence.last = some instant
  · simp only [next, Sequence.next, Sequence.word, same, if_true, increment_eq]
  · simp [next, Sequence.next, Sequence.word, same]

theorem run_word (sequence : Sequence Instant) (history : List Instant) :
    sequence.word.run history =
      ((sequence.run history).1.map (·.setWidth 16), (sequence.run history).2.word) := by
  induction history generalizing sequence with
  | nil => rfl
  | cons instant later ih => simp only [run, Sequence.run, next_word, ih, List.map_cons]

section Bounds

omit [DecidableEq Instant]

variable (sequence : Sequence Instant)

theorem toNat_counter_word : sequence.word.counter.toNat = sequence.counter.toNat :=
  BitVec.toNat_setWidth_of_le (by decide)

theorem counter_word_le : sequence.word.counter.toNat ≤ 4095 := by
  rw [toNat_counter_word]
  exact Nat.le_of_lt_succ sequence.counter.isLt

/-- The word of a sequence is never at its own end. -/
theorem uaddOverflow_word : BitVec.uaddOverflow sequence.word.counter 1 = false := by
  have bound := counter_word_le sequence
  rw [BitVec.uaddOverflow]
  apply decide_eq_false
  change ¬sequence.word.counter.toNat + 1 ≥ 65536
  omega

end Bounds

/-- What a fresh sequence in machine words does over a history: the number of each event counts the
events of its instant directly before it, modulo 4096, and the last instant and the last number
remain.  The words are those of the sequence of twelve bits, and the next increment does not
overflow. -/
theorem numbers_of_history (history : List Instant) :
    (run {} history).1.map BitVec.toNat =
        history.mapIdx (fun index instant =>
          Sequence.streak (history.take index) instant % 4096) ∧
      (run {} history).2.last = history.getLast? ∧
      (run {} history).2.counter = (run {} history).1.getLast?.getD 0 ∧
      (run {} history).2.counter.toNat ≤ 4095 ∧
      BitVec.uaddOverflow (run {} history).2.counter 1 = false ∧
      (run {} history).1 = (Sequence.run {} history).1.map (·.setWidth 16) ∧
      (run {} history).2 = (Sequence.run {} history).2.word := by
  have words : run {} history =
      ((Sequence.run {} history).1.map (·.setWidth 16), (Sequence.run {} history).2.word) :=
    run_word {} history
  have state := Sequence.state_run {} history
  rw [words]
  refine ⟨?_, ?_, ?_, counter_word_le _, uaddOverflow_word _, rfl, rfl⟩
  · have reduced (count : Nat) :
        ((BitVec.ofNat 12 count).setWidth 16).toNat = count % 4096 :=
      BitVec.toNat_setWidth_of_le (by decide)
    rw [Sequence.atEnd_nil.numbers_run]
    apply List.ext_getElem?
    intro index
    simp only [List.getElem?_map, List.getElem?_mapIdx, Option.map_map, Function.comp_def, reduced,
      List.nil_append]
  · rw [state, Sequence.word, Option.or_none]
  · rw [state, Sequence.word, List.getLast?_map]
    cases (Sequence.run {} history).1.getLast? with
    | none => rfl
    | some last => rfl

example : (run {} [7, 7, 3, 7]).1 = [0, 1, 0, 0] := by decide

end SequenceWord

end SortableId
