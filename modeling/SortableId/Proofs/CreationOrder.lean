import SortableId.Proofs.Histories
import SortableId.Proofs.Order

/-!
# Order of creation

As long as the clock does not go back, the bucket width stays the same and no time is stamped more
often than there are sequence numbers, identifiers of one kind and tenant come out of a generator in
increasing order.  A later call has a later time, or the same time and a higher number, and nothing
that is compared before the number differs.
-/

namespace SortableId

theorem Options.bucketMs_eq {first second : Options}
    (sameBucket : first.bucketSeconds = second.bucketSeconds) :
    first.bucketMs = second.bucketMs := by
  rw [bucketMs, bucketMs, sameBucket]

namespace Generator

/-! ## Times of stamps -/

/-- The instant that is counted from the epoch: the clock itself, or the start of its bucket. -/
def stampMs (options : Options) (nowMs : BitVec 64) : Nat :=
  match options.bucketMs with
  | none => nowMs.toNat
  | some width => nowMs.toNat / width.toNat * width.toNat

/-- Rounding down never wraps around. -/
theorem toNat_quantize (width instant : BitVec 64) :
    (quantize width instant).toNat = instant.toNat / width.toNat * width.toNat := by
  have atMost : instant.toNat / width.toNat * width.toNat ≤ instant.toNat :=
    Nat.div_mul_le_self _ _
  rw [quantize, BitVec.toNat_mul, BitVec.toNat_udiv]
  exact Nat.mod_eq_of_lt (Nat.lt_of_le_of_lt atMost instant.isLt)

theorem stampMs_le (options : Options) (nowMs : BitVec 64) :
    stampMs options nowMs ≤ nowMs.toNat := by
  unfold stampMs
  split
  · exact Nat.le_refl _
  · exact Nat.div_mul_le_self _ _

/-- In the range of the clock the time counts from the epoch, and instants before it count as
the epoch. -/
theorem toNat_stamp {options : Options} {nowMs : BitVec 64} (inRange : nowMs.toNat < Time.endMs) :
    (stamp options nowMs).1.toNat = stampMs options nowMs - Time.epochMs := by
  have stamped : (stamp options nowMs).1 =
      BitVec.ofNat 48 (stampMs options nowMs - Time.epochMs) := by
    unfold stamp stampMs
    cases options.bucketMs with
    | none => rfl
    | some width =>
        change Time.ofUnixMs (quantize width nowMs) = _
        rw [Time.ofUnixMs, toNat_quantize]
  have atMost := stampMs_le options nowMs
  rw [stamped, BitVec.toNat_ofNat, Nat.mod_eq_of_lt]
  unfold Time.endMs at inRange
  omega

/-- Options with one bucket width round later instants to later times. -/
theorem stamp_le_stamp {earlier later : Options} {before after : BitVec 64}
    (sameBucket : earlier.bucketSeconds = later.bucketSeconds) (inOrder : before ≤ after)
    (inRange : after.toNat < Time.endMs) :
    (stamp earlier before).1 ≤ (stamp later after).1 := by
  have ordered : before.toNat ≤ after.toNat := inOrder
  have rounded : stampMs earlier before ≤ stampMs later after := by
    unfold stampMs
    rw [Options.bucketMs_eq sameBucket]
    cases later.bucketMs with
    | none => exact ordered
    | some width => exact Nat.mul_le_mul_right _ (Nat.div_le_div_right ordered)
  rw [BitVec.le_def, toNat_stamp (Nat.lt_of_le_of_lt ordered inRange), toNat_stamp inRange]
  exact Nat.sub_le_sub_right rounded _

theorem stamp_flags_eq {earlier later : Options} (before after : BitVec 64)
    (sameBucket : earlier.bucketSeconds = later.bucketSeconds) :
    (stamp earlier before).2 = (stamp later after).2 := by
  unfold stamp
  rw [Options.bucketMs_eq sameBucket]
  cases later.bucketMs with
  | none => rfl
  | some width => rfl

/-! ## Steady runs -/

/-- Runs in which time only goes on.  Calls with an invalid kind do not count, because they read
no clock; calls that fail later do. -/
structure Steady (calls : List Call) : Prop where
  bucket : ∀ earlier ∈ stampedCalls calls, ∀ later ∈ stampedCalls calls,
    earlier.options.bucketSeconds = later.options.bucketSeconds
  clock : (stampedCalls calls).Pairwise fun earlier later =>
    earlier.reading.nowMs ≤ later.reading.nowMs
  inRange : ∀ call ∈ stampedCalls calls, call.reading.nowMs.toNat < Time.endMs
  /-- No time is stamped more often than there are sequence numbers. -/
  atMost : ∀ time, (stampedTimes calls).count time ≤ 4096

theorem Steady.sorted {calls : List Call} (steady : Steady calls) :
    (stampedTimes calls).Pairwise (· ≤ ·) := by
  rw [stampedTimes, List.pairwise_map]
  refine List.Pairwise.imp_of_mem ?_ steady.clock
  intro earlier later earlierMem laterMem inOrder
  exact stamp_le_stamp (steady.bucket earlier earlierMem later laterMem) inOrder
    (steady.inRange later laterMem)

variable {calls : List Call}

theorem Steady.le_time (steady : Steady calls) {index : Nat} {call : Call}
    (stamped : StampedAt calls index call) :
    ∀ earlier ∈ stampedTimes (calls.take index), earlier ≤ call.time := by
  have sorted := steady.sorted.sublist (stampedTimes_sublist (List.take_sublist (index + 1) calls))
  rw [stamped.take_succ] at sorted
  intro earlier member
  exact (List.pairwise_append.mp sorted).2.2 earlier member call.time (by simp)

/-- The calls of one time are numbered from zero, and there are numbers enough. -/
theorem Steady.toNat_seq (steady : Steady calls) {index : Nat} {call : Call}
    (stamped : StampedAt calls index call) :
    (BitVec.ofNat 12 (Sequence.streak (stampedTimes (calls.take index)) call.time)).toNat =
      (stampedTimes (calls.take index)).count call.time := by
  have sorted := steady.sorted.sublist (stampedTimes_sublist (List.take_sublist index calls))
  have upToHere : (stampedTimes (calls.take (index + 1))).count call.time ≤ 4096 :=
    Nat.le_trans
      ((stampedTimes_sublist (List.take_sublist (index + 1) calls)).count_le call.time)
      (steady.atMost call.time)
  rw [stamped.take_succ, List.count_append, List.count_singleton_self] at upToHere
  rw [Sequence.streak_eq_count sorted (steady.le_time stamped), BitVec.toNat_ofNat]
  exact Nat.mod_eq_of_lt upToHere

section TwoCalls

variable {earlier later : Nat} {firstCall secondCall : Call}

theorem StampedAt.sublist (first : StampedAt calls earlier firstCall) (inOrder : earlier < later) :
    (stampedTimes (calls.take earlier) ++ [firstCall.time]).Sublist
      (stampedTimes (calls.take later)) := by
  rw [← first.take_succ]
  exact stampedTimes_sublist (List.take_sublist_take_left inOrder)

theorem Steady.time_le_time (steady : Steady calls) (inOrder : earlier < later)
    (first : StampedAt calls earlier firstCall) (second : StampedAt calls later secondCall) :
    firstCall.time ≤ secondCall.time := by
  apply steady.le_time second
  apply (first.sublist inOrder).subset
  exact List.mem_append_right _ (List.mem_singleton_self _)

/-- Of two calls with one time the later one gets the higher number. -/
theorem Steady.streak_lt_streak (steady : Steady calls) (inOrder : earlier < later)
    (first : StampedAt calls earlier firstCall) (second : StampedAt calls later secondCall)
    (sameTime : firstCall.time = secondCall.time) :
    (BitVec.ofNat 12 (Sequence.streak (stampedTimes (calls.take earlier)) firstCall.time)).toNat <
      (BitVec.ofNat 12
        (Sequence.streak (stampedTimes (calls.take later)) secondCall.time)).toNat := by
  have counted := (first.sublist inOrder).count_le firstCall.time
  rw [List.count_append, List.count_singleton_self] at counted
  rw [steady.toNat_seq first, steady.toNat_seq second, ← sameTime]
  exact counted

end TwoCalls

/-- In a steady run of a fresh generator, of two identifiers of one kind and tenant the one made
earlier comes first, as a record and in its written forms. -/
theorem Steady.increasing (steady : Steady calls) {earlier later : Nat}
    {first second : Identifier} (inOrder : earlier < later)
    (firstMade : (run {} calls).1[earlier]? = some (.ok first))
    (secondMade : (run {} calls).1[later]? = some (.ok second))
    (sameKind : first.kind = second.kind)
    (sameTenant : first.fields.tenant = second.fields.tenant) :
    compare first second = .lt ∧
      Text.compareBytes (first.encode false) (second.encode false) = .lt ∧
      Text.compareBytes (first.encode true) (second.encode true) = .lt := by
  rcases makes_of_run firstMade with ⟨firstCall, firstFound, firstMakes, firstSeq⟩
  rcases makes_of_run secondMade with ⟨secondCall, secondFound, secondMakes, secondSeq⟩
  have firstStamped : StampedAt calls earlier firstCall := ⟨firstFound, firstMakes.isStamped⟩
  have secondStamped : StampedAt calls later secondCall := ⟨secondFound, secondMakes.isStamped⟩
  have timeLe : first.fields.time ≤ second.fields.time := by
    rw [firstMakes.time, secondMakes.time]
    exact steady.time_le_time inOrder firstStamped secondStamped
  have fieldsLt : compare first.fields second.fields = .lt := by
    rcases Nat.lt_or_eq_of_le (BitVec.le_def.mp timeLe) with earlierTime | sameTime
    · exact Fields.compare_eq_lt_of_time earlierTime
    · have time_eq : first.fields.time = second.fields.time := BitVec.eq_of_toNat_eq sameTime
      have flags_eq : first.fields.flags = second.fields.flags := by
        rw [firstMakes.flags, secondMakes.flags]
        apply stamp_flags_eq
        exact steady.bucket firstCall firstStamped.mem secondCall secondStamped.mem
      have seqLt : first.fields.seq.toNat < second.fields.seq.toNat := by
        rw [firstSeq, secondSeq]
        rw [firstMakes.time, secondMakes.time] at time_eq
        exact steady.streak_lt_streak inOrder firstStamped secondStamped time_eq
      exact Fields.compare_eq_lt_of_seq time_eq flags_eq sameTenant seqLt
  have recordLt : compare first second = .lt := by
    rw [Identifier.compare_eq_compare_fields sameKind, fieldsLt]
  refine ⟨recordLt, ?_, ?_⟩
  · rw [Identifier.compareBytes_encode sameKind, recordLt]
  · rw [Identifier.compareBytes_encode sameKind, recordLt]

/-- A run in minutes that starts before the epoch.  One call has an invalid kind, one has no
entropy, one asks for another kind, and the clock passes the epoch within the first minute. -/
def passingEpoch : List Call :=
  let options : Options := { bucketSeconds := 60 }
  [⟨"order", options, ⟨5, .ok 7⟩⟩,
    ⟨"Order", options, ⟨0, .ok 7⟩⟩,
    ⟨"order", options, ⟨1577836799999, .error "drained"⟩⟩,
    ⟨"user", options, ⟨1577836800000, .ok 7⟩⟩,
    ⟨"order", options, ⟨1577836800001, .ok 1⟩⟩]

theorem steady_passingEpoch : Steady passingEpoch where
  bucket := by decide +kernel
  clock := by decide +kernel
  inRange := by decide +kernel
  atMost := by
    intro time
    exact Nat.le_trans List.count_le_length (by decide +kernel)

/-- An order of that run. -/
def orderAtEpoch (seq : BitVec 12) (random : BitVec 60) : Identifier where
  kind := ⟨"order", by decide⟩
  fields := ⟨0, Flags.first.withBucketed, 0, seq, 0, random⟩

theorem increasing_passingEpoch :
    Steady passingEpoch ∧ 0 < 4 ∧
      (run {} passingEpoch).1[0]? = some (.ok (orderAtEpoch 0 7)) ∧
      (run {} passingEpoch).1[4]? = some (.ok (orderAtEpoch 3 1)) ∧
      compare (orderAtEpoch 0 7) (orderAtEpoch 3 1) = .lt ∧
      Text.compareBytes ((orderAtEpoch 0 7).encode false) ((orderAtEpoch 3 1).encode false) =
        .lt ∧
      Text.compareBytes ((orderAtEpoch 0 7).encode true) ((orderAtEpoch 3 1).encode true) =
        .lt := by
  have firstMade : (run {} passingEpoch).1[0]? = some (.ok (orderAtEpoch 0 7)) := by rfl
  have secondMade : (run {} passingEpoch).1[4]? = some (.ok (orderAtEpoch 3 1)) := by rfl
  exact ⟨steady_passingEpoch, by decide, firstMade, secondMade,
    Steady.increasing steady_passingEpoch (by decide) firstMade secondMade rfl rfl⟩

end Generator

end SortableId
