import SortableId.Proofs.Privacy
import SortableId.Proofs.Records

/-!
# Arithmetic of buckets

Buckets are counted from 1970 but times from 2020, so a bucket may start before the first time that
there is.  An identifier has the start of the bucket that the clock stands in, or the epoch where the
bucket starts earlier, and in the range of the clock this is never later than the clock nor a whole
bucket before it.  The machine words that hold the numbers on the way never wrap.
-/

namespace SortableId

namespace Call

/-- The width of the buckets of a call in milliseconds. -/
def bucketWidth (call : Call) : Nat := call.options.bucketSeconds.toNat * 1000

/-- The start of the bucket that the clock stands in, in milliseconds since 1970. -/
def bucketStart (call : Call) : Nat :=
  call.reading.nowMs.toNat / call.bucketWidth * call.bucketWidth

/-- No machine operation on the way from the clock to an identifier, and none on the way back to the
time that is counted from the epoch, wraps or divides by zero. -/
structure Exact (call : Call) : Prop where
  width : BitVec.umulOverflow (call.options.bucketSeconds.setWidth 64) 1000 = false
  divisor : ∀ width, call.options.bucketMs = some width → width ≠ 0
  product : ∀ width, call.options.bucketMs = some width →
    BitVec.umulOverflow (call.reading.nowMs / width) width = false
  /-- The difference from the epoch stops at zero. -/
  difference : (Time.sinceEpoch call.instant).toNat = call.instant.toNat - Time.epochMs
  sum : BitVec.uaddOverflow Time.epochWord (Time.sinceEpoch call.instant &&& Words.timeMask) = false
  back : BitVec.usubOverflow
    (Time.epochWord + (Time.sinceEpoch call.instant &&& Words.timeMask)) Time.epochWord = false

/-- What an identifier has from a call that rounds to buckets. -/
structure Rounds (call : Call) (id : Identifier) : Prop where
  onlyFlag : ∀ place, id.fields.flags.bits.getLsbD place = decide (place = 5)
  fromStart : Time.epochMs ≤ call.bucketStart →
    id.unixMs = call.bucketStart ∧ call.bucketWidth ∣ id.unixMs
  fromEpoch : call.bucketStart < Time.epochMs → id.unixMs = Time.epochMs
  beforeEpoch : call.reading.nowMs.toNat < Time.epochMs → id.unixMs = Time.epochMs
  withinBucket : Time.epochMs ≤ call.reading.nowMs.toNat →
    id.unixMs ≤ call.reading.nowMs.toNat ∧ call.reading.nowMs.toNat < id.unixMs + call.bucketWidth

/-! ## Machine words -/

theorem umulOverflow_width (call : Call) :
    BitVec.umulOverflow (call.options.bucketSeconds.setWidth 64) 1000 = false := by
  have bound := call.options.bucketSeconds.isLt
  have widened : (call.options.bucketSeconds.setWidth 64).toNat =
      call.options.bucketSeconds.toNat := BitVec.toNat_setWidth_of_le (by decide)
  have thousand : (1000 : BitVec 64).toNat = 1000 := rfl
  rw [BitVec.umulOverflow, widened, thousand]
  exact decide_eq_false (by omega)

/-- A width of zero means that there are no buckets. -/
theorem width_ne_zero {call : Call} {width : BitVec 64}
    (bucketed : call.options.bucketMs = some width) : width ≠ 0 := by
  rintro rfl
  have zero : call.options.bucketSeconds.toNat * 1000 = 0 :=
    (Options.toNat_of_bucketMs bucketed).symm
  have absent : call.options.bucketSeconds = 0 := BitVec.eq_of_toNat_eq (by simpa using zero)
  rw [Options.bucketMs_eq_none_iff.mpr absent] at bucketed
  contradiction

theorem umulOverflow_udiv (width instant : BitVec 64) :
    BitVec.umulOverflow (instant / width) width = false := by
  have atMost : instant.toNat / width.toNat * width.toNat ≤ instant.toNat := Nat.div_mul_le_self _ _
  rw [BitVec.umulOverflow, BitVec.toNat_udiv]
  exact decide_eq_false (Nat.not_le_of_lt (Nat.lt_of_le_of_lt atMost instant.isLt))

theorem toNat_masked (instant : BitVec 64) :
    (Time.sinceEpoch instant &&& Words.timeMask).toNat = (Time.ofUnixMs instant).toNat := by
  rw [Time.sinceEpoch_and_timeMask]
  exact BitVec.toNat_setWidth_of_le (by decide)

theorem epochMs_add_lt (time : Time) : Time.epochMs + time.toNat < 2 ^ 64 := by
  have bound := time.isLt
  unfold Time.epochMs
  omega

/-- Adding the epoch to the time of an instant does not wrap. -/
theorem toNat_epochWord_add (instant : BitVec 64) :
    (Time.epochWord + (Time.sinceEpoch instant &&& Words.timeMask)).toNat =
      (Time.ofUnixMs instant).toUnixMs := by
  rw [BitVec.toNat_add, toNat_masked, Time.toNat_epochWord]
  exact Nat.mod_eq_of_lt (epochMs_add_lt _)

theorem exact (call : Call) : call.Exact := by
  refine ⟨call.umulOverflow_width, fun _ => width_ne_zero, ?_, Time.toNat_sinceEpoch _, ?_, ?_⟩
  · exact fun width _ => umulOverflow_udiv width call.reading.nowMs
  · rw [BitVec.uaddOverflow, toNat_masked]
    exact decide_eq_false (Nat.not_le_of_lt (epochMs_add_lt _))
  · rw [BitVec.usubOverflow, toNat_epochWord_add, Time.toNat_epochWord]
    exact decide_eq_false (Nat.not_lt_of_le (Time.epochMs_le_toUnixMs _))

/-- The sum of the epoch and the masked time is the instant of the identifier. -/
theorem Makes.toNat_epochWord_add {call : Call} {id : Identifier} (makes : call.Makes id) :
    (Time.epochWord + (Time.sinceEpoch call.instant &&& Words.timeMask)).toNat = id.unixMs := by
  rw [Call.toNat_epochWord_add, Identifier.unixMs, makes.time, Call.time, stamp_eq]

/-! ## Rounded instants -/

section

variable {call : Call} (bucketed : 0 < call.options.bucketSeconds.toNat)
include bucketed

theorem exists_bucketMs :
    ∃ width, call.options.bucketMs = some width ∧ width.toNat = call.bucketWidth := by
  cases found : call.options.bucketMs with
  | none =>
      rw [Options.bucketMs_eq_none_iff.mp found] at bucketed
      contradiction
  | some width => exact ⟨width, rfl, Options.toNat_of_bucketMs found⟩

theorem stampMs_eq_bucketStart :
    Generator.stampMs call.options call.reading.nowMs = call.bucketStart := by
  obtain ⟨width, found, width_eq⟩ := exists_bucketMs bucketed
  rw [Generator.stampMs, found]
  dsimp only
  rw [width_eq, bucketStart]

/-- The clock stands less than a bucket behind the start of its bucket. -/
theorem lt_bucketStart_add :
    call.reading.nowMs.toNat < call.bucketStart + call.bucketWidth := by
  have positive : 0 < call.bucketWidth := Nat.mul_pos bucketed (by decide)
  exact Nat.lt_div_mul_add positive

theorem Makes.rounds {id : Identifier} (makes : call.Makes id)
    (inRange : call.reading.nowMs.toNat < Time.endMs) : call.Rounds id := by
  obtain ⟨width, found, _⟩ := exists_bucketMs bucketed
  have flags_eq : id.fields.flags = Flags.first.withBucketed := by
    rw [makes.flags, Generator.stamp, found]
  have atMost : call.bucketStart ≤ call.reading.nowMs.toNat := Nat.div_mul_le_self _ _
  have behind := lt_bucketStart_add bucketed
  have unixMs_eq : id.unixMs = Time.epochMs + (call.bucketStart - Time.epochMs) := by
    rw [Identifier.unixMs, Time.toUnixMs, makes.time, Call.time, Generator.toNat_stamp inRange,
      stampMs_eq_bucketStart bucketed]
  refine ⟨?_, ?_, ?_, ?_, ?_⟩
  · intro place
    have bits_eq : id.fields.flags.bits = BitVec.twoPow 8 5 := by rw [flags_eq]; rfl
    simp [bits_eq, BitVec.getLsbD_twoPow, eq_comm]
  · intro counted
    rw [unixMs_eq, Nat.add_sub_cancel' counted]
    exact ⟨rfl, Nat.dvd_mul_left _ _⟩
  · intro early
    rw [unixMs_eq, Nat.sub_eq_zero_of_le (Nat.le_of_lt early), Nat.add_zero]
  · intro early
    rw [unixMs_eq, Nat.sub_eq_zero_of_le (Nat.le_of_lt (Nat.lt_of_le_of_lt atMost early)),
      Nat.add_zero]
  · intro counted
    omega

end

end Call

namespace Generator

/-- A call with a valid kind and with entropy makes an identifier.  If it rounds to buckets, the
identifier has the start of the bucket that the clock stands in, or the epoch.  With one width of
buckets a later clock never yields an earlier instant, whatever generators the identifiers come from.
All of it is computed in machine words that do not wrap, wherever the clock stands. -/
theorem rounds_to_buckets :
    (∀ call : Call, call.Exact) ∧
    (∀ (generator : Generator) (call : Call) (id : Identifier),
      (generator.generateId call).1 = .ok id →
        (Time.epochWord + (Time.sinceEpoch call.instant &&& Words.timeMask)).toNat = id.unixMs) ∧
    (∀ (generator : Generator) (kind : Kind) (call : Call) (entropy : BitVec 64),
      kind.name = call.kind → call.reading.entropy = .ok entropy →
        ∃ id, (generator.generateId call).1 = .ok id) ∧
    (∀ (generator : Generator) (call : Call) (id : Identifier),
      (generator.generateId call).1 = .ok id → 0 < call.options.bucketSeconds.toNat →
        call.reading.nowMs.toNat < Time.endMs → call.Rounds id) ∧
    ∀ (first second : Generator) (before after : Call) (earlier later : Identifier),
      (first.generateId before).1 = .ok earlier → (second.generateId after).1 = .ok later →
        before.options.bucketSeconds = after.options.bucketSeconds →
          before.reading.nowMs ≤ after.reading.nowMs →
            after.reading.nowMs.toNat < Time.endMs → earlier.unixMs ≤ later.unixMs := by
  refine ⟨Call.exact, ?_, ?_, ?_, ?_⟩
  · intro generator call id made
    exact (makes_of_generateId made).1.toNat_epochWord_add
  · intro generator kind call entropy named read
    have found : Kind.ofString? call.kind = some kind := Kind.ofString?_eq_some_iff.mpr named
    rw [generateId_of_valid found, read]
    exact ⟨_, rfl⟩
  · intro generator call id made bucketed inRange
    exact (makes_of_generateId made).1.rounds bucketed inRange
  · intro first second before after earlier later madeEarlier madeLater sameBucket inOrder inRange
    have ordered := stamp_le_stamp sameBucket inOrder inRange
    rw [Identifier.unixMs, Identifier.unixMs, Time.toUnixMs, Time.toUnixMs,
      (makes_of_generateId madeEarlier).1.time, (makes_of_generateId madeLater).1.time]
    exact Nat.add_le_add_left ordered _

/-- A session at the given instant, with buckets of the given number of seconds. -/
def sessionAt (seconds : BitVec 32) (nowMs : BitVec 64) : Call :=
  ⟨"session", { bucketSeconds := seconds }, ⟨nowMs, .ok 5⟩⟩

/-- Two sessions in one hour, and one in buckets so wide that theirs starts in 1970. -/
theorem rounds_to_buckets_sessions :
    ∃ first second third,
      (({} : Generator).generateId (sessionAt 3600 1757869157707)).1 = .ok first ∧
      (({} : Generator).generateId (sessionAt 3600 1757869199999)).1 = .ok second ∧
      (({} : Generator).generateId (sessionAt 0xffffffff 1757869157707)).1 = .ok third ∧
      first.unixMs = 1757865600000 ∧ first.unixMs ≤ second.unixMs ∧
      third.unixMs = Time.epochMs := by
  obtain ⟨_, _, makes, rounds, monotone⟩ := rounds_to_buckets
  let session : Kind := ⟨"session", by decide⟩
  obtain ⟨first, madeFirst⟩ := makes {} session (sessionAt 3600 1757869157707) 5 rfl rfl
  obtain ⟨second, madeSecond⟩ := makes {} session (sessionAt 3600 1757869199999) 5 rfl rfl
  obtain ⟨third, madeThird⟩ := makes {} session (sessionAt 0xffffffff 1757869157707) 5 rfl rfl
  have hour := rounds {} _ first madeFirst (by decide) (by decide)
  have whole := rounds {} _ third madeThird (by decide) (by decide)
  have inOrder := monotone {} {} _ _ first second madeFirst madeSecond rfl (by decide) (by decide)
  exact ⟨first, second, third, madeFirst, madeSecond, madeThird, (hour.fromStart (by decide)).1,
    inOrder, whole.fromEpoch (by decide)⟩

end Generator

end SortableId
