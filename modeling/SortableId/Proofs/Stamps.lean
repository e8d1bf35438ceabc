import SortableId.Proofs.CreationOrder

/-!
# Stamps

The stamp of an identifier is its time together with its sequence number.  Of two identifiers with
one time the later one gets the higher number, unless a call in between was stamped with another
time.  After such an interruption the numbering starts again, so a stamp can come back even if the
clock never goes back: calls that round to a bucket and calls that do not have to take turns.  With
one bucket width no stamp is given twice.
-/

namespace SortableId

namespace Generator

variable {calls : List Call} {earlier later : Nat} {first second : Identifier}

/-- The times that are stamped between two calls of a run. -/
def timesBetween (calls : List Call) (earlier later : Nat) : List Time :=
  stampedTimes ((calls.take later).drop (earlier + 1))

theorem StampedAt.stampedTimes_take {call : Call} (stamped : StampedAt calls earlier call)
    (inOrder : earlier < later) :
    stampedTimes (calls.take later) =
      stampedTimes (calls.take earlier) ++ [call.time] ++ timesBetween calls earlier later := by
  have front : calls.take (earlier + 1) = (calls.take later).take (earlier + 1) := by
    rw [List.take_take, Nat.min_eq_left inOrder]
  rw [← stamped.take_succ, timesBetween, ← stampedTimes_append, front, List.take_append_drop]

/-- As long as there are numbers enough, none is reduced. -/
theorem toNat_seq_of_run {index : Nat} {id : Identifier}
    (atMost : ∀ time, (stampedTimes calls).count time ≤ 4096)
    (made : (run {} calls).1[index]? = some (.ok id)) :
    ∃ call, StampedAt calls index call ∧ call.time = id.fields.time ∧
      id.fields.seq.toNat =
        Sequence.streak (stampedTimes (calls.take index)) id.fields.time := by
  rcases makes_of_run made with ⟨call, found, makes, seq_eq⟩
  have stamped : StampedAt calls index call := ⟨found, makes.isStamped⟩
  refine ⟨call, stamped, makes.time.symm, ?_⟩
  have upToHere := Nat.le_trans
    ((stampedTimes_sublist (List.take_sublist (index + 1) calls)).count_le call.time)
    (atMost call.time)
  rw [stamped.take_succ, List.count_append, List.count_singleton_self] at upToHere
  have streakLe := Sequence.streak_le_count (stampedTimes (calls.take index)) call.time
  rw [seq_eq, BitVec.toNat_ofNat, makes.time]
  exact Nat.mod_eq_of_lt (Nat.lt_of_le_of_lt streakLe upToHere)

section OneTime

variable (atMost : ∀ time, (stampedTimes calls).count time ≤ 4096) (inOrder : earlier < later)
  (firstMade : (run {} calls).1[earlier]? = some (.ok first))
  (secondMade : (run {} calls).1[later]? = some (.ok second))
  (sameTime : first.fields.time = second.fields.time)

include atMost inOrder firstMade secondMade sameTime

/-- Without an interruption the numbers go on. -/
theorem toNat_seq_of_uninterrupted
    (uninterrupted : ∀ time ∈ timesBetween calls earlier later, time = first.fields.time) :
    second.fields.seq.toNat =
      first.fields.seq.toNat + 1 + (timesBetween calls earlier later).length := by
  rcases toNat_seq_of_run atMost firstMade with ⟨firstCall, stamped, time_eq, first_eq⟩
  rcases toNat_seq_of_run atMost secondMade with ⟨_, _, _, second_eq⟩
  rw [second_eq, first_eq, ← sameTime, stamped.stampedTimes_take inOrder, time_eq,
    Sequence.streak_append_of_forall_eq uninterrupted, Sequence.streak_concat_self]

/-- After an interruption nothing before it counts. -/
theorem toNat_seq_of_interrupted
    (interrupted : ∃ time ∈ timesBetween calls earlier later, time ≠ first.fields.time) :
    second.fields.seq.toNat =
      Sequence.streak (timesBetween calls earlier later) first.fields.time := by
  rcases toNat_seq_of_run atMost firstMade with ⟨firstCall, stamped, _, _⟩
  rcases toNat_seq_of_run atMost secondMade with ⟨_, _, _, second_eq⟩
  rw [second_eq, ← sameTime, stamped.stampedTimes_take inOrder,
    Sequence.streak_append_of_exists_ne interrupted]

/-- Of two identifiers of a run with one time the later one gets the higher number, unless a call
in between was stamped with another time.  Then its number counts the calls since the last such
call. -/
theorem seq_of_sameTime :
    ((∀ time ∈ timesBetween calls earlier later, time = first.fields.time) →
      first.fields.seq < second.fields.seq) ∧
    ((∃ time ∈ timesBetween calls earlier later, time ≠ first.fields.time) →
      second.fields.seq.toNat =
        Sequence.streak (timesBetween calls earlier later) first.fields.time) := by
  constructor
  · intro uninterrupted
    have number :=
      toNat_seq_of_uninterrupted atMost inOrder firstMade secondMade sameTime uninterrupted
    rw [BitVec.lt_def]
    omega
  · exact toNat_seq_of_interrupted atMost inOrder firstMade secondMade sameTime

end OneTime

/-- The calls of the first and the last order share their time with everything in between. -/
theorem seq_of_sameTime_passingEpoch :
    (run {} passingEpoch).1[0]? = some (.ok (orderAtEpoch 0 7)) ∧
      (run {} passingEpoch).1[4]? = some (.ok (orderAtEpoch 3 1)) ∧
      timesBetween passingEpoch 0 4 = [0, 0] ∧
      (orderAtEpoch 0 7).fields.seq < (orderAtEpoch 3 1).fields.seq := by
  have firstMade : (run {} passingEpoch).1[0]? = some (.ok (orderAtEpoch 0 7)) := by rfl
  have secondMade : (run {} passingEpoch).1[4]? = some (.ok (orderAtEpoch 3 1)) := by rfl
  have between : timesBetween passingEpoch 0 4 = [0, 0] := by decide +kernel
  have uninterrupted : ∀ time ∈ timesBetween passingEpoch 0 4,
      time = (orderAtEpoch 0 7).fields.time := by simp [between, orderAtEpoch]
  have numbers := seq_of_sameTime steady_passingEpoch.atMost (by decide) firstMade secondMade rfl
  exact ⟨firstMade, secondMade, between, numbers.1 uninterrupted⟩

/-- An order at one instant, rounded to the minute, exact, and rounded again. -/
def takingTurns : List Call :=
  let reading : Reading := ⟨1757869157707, .ok 0⟩
  [⟨"order", { bucketSeconds := 60 }, reading⟩,
    ⟨"order", {}, reading⟩,
    ⟨"order", { bucketSeconds := 60 }, reading⟩]

/-- The first and the third order of that run. -/
def orderInMinute : Identifier where
  kind := (orderAtEpoch 0 0).kind
  fields := ⟨180032340000, Flags.first.withBucketed, 0, 0, 0, 0⟩

/-- The clock stands still in the range of the times and three calls are few, but the first and the
third call get one stamp. -/
theorem sameStamp_takingTurns :
    (takingTurns.Pairwise fun earlier later => earlier.reading.nowMs ≤ later.reading.nowMs) ∧
      (∀ call ∈ takingTurns,
        Time.epochMs ≤ call.reading.nowMs.toNat ∧ call.reading.nowMs.toNat < Time.endMs) ∧
      (∀ time, (stampedTimes takingTurns).count time ≤ 4096) ∧
      (run {} takingTurns).1[0]? = some (.ok orderInMinute) ∧
      (run {} takingTurns).1[2]? = some (.ok orderInMinute) := by
  refine ⟨by decide +kernel, by decide +kernel, ?_, by rfl, by rfl⟩
  intro time
  exact Nat.le_trans List.count_le_length (by decide +kernel)

/-- While time only goes on, an interruption never comes between two calls with one time. -/
theorem Steady.uninterrupted (steady : Steady calls) (inOrder : earlier < later)
    {firstCall secondCall : Call} (firstStamped : StampedAt calls earlier firstCall)
    (secondStamped : StampedAt calls later secondCall)
    (sameTime : firstCall.time = secondCall.time) :
    ∀ time ∈ timesBetween calls earlier later, time = firstCall.time := by
  have sorted := steady.sorted.sublist (stampedTimes_sublist (List.take_sublist later calls))
  rw [firstStamped.stampedTimes_take inOrder] at sorted
  intro time member
  have atLeast : firstCall.time ≤ time :=
    (List.pairwise_append.mp sorted).2.2 firstCall.time (by simp) time member
  have atMost : time ≤ secondCall.time := by
    apply steady.le_time secondStamped
    rw [firstStamped.stampedTimes_take inOrder]
    exact List.mem_append_right _ member
  rw [← sameTime] at atMost
  exact BitVec.le_antisymm atMost atLeast

/-- In a steady run of a fresh generator no stamp is given twice, whatever the kinds and the
tenants. -/
theorem Steady.stamp_ne (steady : Steady calls) (inOrder : earlier < later)
    (firstMade : (run {} calls).1[earlier]? = some (.ok first))
    (secondMade : (run {} calls).1[later]? = some (.ok second)) :
    (first.fields.time, first.fields.seq) ≠ (second.fields.time, second.fields.seq) := by
  intro sameStamp
  rcases Prod.mk.inj sameStamp with ⟨sameTime, sameSeq⟩
  rcases toNat_seq_of_run steady.atMost firstMade with ⟨firstCall, firstStamped, firstTime, _⟩
  rcases toNat_seq_of_run steady.atMost secondMade with ⟨secondCall, secondStamped, secondTime, _⟩
  have uninterrupted := steady.uninterrupted inOrder firstStamped secondStamped
    (by rw [firstTime, secondTime, sameTime])
  rw [firstTime] at uninterrupted
  have number :=
    toNat_seq_of_uninterrupted steady.atMost inOrder firstMade secondMade sameTime uninterrupted
  rw [sameSeq] at number
  omega

end Generator

end SortableId
