import SortableId.Proofs.CreationOrder

/-!
# Privacy of buckets

A call that rounds to buckets reads the clock only through the bucket that the clock stands in.  So
nothing that comes out of a generator, and nothing that stays behind in it, tells two instants of a
bucket apart: not in the call itself and not in any later call, whether that one rounds or not.
-/

namespace SortableId

theorem Options.toNat_of_bucketMs {options : Options} {width : BitVec 64}
    (bucketed : options.bucketMs = some width) :
    width.toNat = options.bucketSeconds.toNat * 1000 := by
  have bound := options.bucketSeconds.isLt
  unfold bucketMs at bucketed
  split at bucketed
  · contradiction
  · rw [← Option.some.inj bucketed, BitVec.toNat_mul, BitVec.toNat_setWidth]
    change _ % 2 ^ 64 * 1000 % 2 ^ 64 = _
    omega

/-- Two readings of the clock that a caller with the given options must not be able to tell apart:
without buckets they are equal, and with buckets they stand in the same one. -/
def Options.SameInstant (options : Options) (left right : BitVec 64) : Prop :=
  if options.bucketSeconds = 0 then left = right
  else left.toNat / (options.bucketSeconds.toNat * 1000) =
    right.toNat / (options.bucketSeconds.toNat * 1000)

instance (options : Options) (left right : BitVec 64) :
    Decidable (options.SameInstant left right) := by
  unfold Options.SameInstant
  exact inferInstance

/-- Calls that differ at most in where the clock stands within a bucket. -/
structure Call.SameInBuckets (left right : Call) : Prop where
  kind : left.kind = right.kind
  options : left.options = right.options
  entropy : left.reading.entropy = right.reading.entropy
  clock : left.options.SameInstant left.reading.nowMs right.reading.nowMs

namespace Generator

/-- The form in which a caller asks for an identifier. -/
inductive Form where
  | record
  | written
  deriving DecidableEq, Repr

/-- What a caller gets: an identifier or its written form, or the error. -/
inductive Answer where
  | record (outcome : Except IdError Identifier)
  | written (outcome : Except IdError String)

/-- Serves one call in the form that was asked for. -/
def answer (generator : Generator) (form : Form) (call : Call) : Answer × Generator :=
  match form with
  | .record => (.record (generator.generateId call).1, (generator.generateId call).2)
  | .written => (.written (generator.generate call).1, (generator.generate call).2)

/-- Everything that can be seen of a run: each answer, and the generator behind it. -/
def trace (generator : Generator) : List (Form × Call) → List (Answer × Generator)
  | [] => []
  | (form, call) :: later =>
      generator.answer form call :: (generator.answer form call).2.trace later

/-- Instants of one bucket are stamped alike. -/
theorem stamp_eq_of_sameInstant {options : Options} {left right : BitVec 64}
    (same : options.SameInstant left right) : stamp options left = stamp options right := by
  unfold Options.SameInstant at same
  cases bucketed : options.bucketMs with
  | none =>
      rw [if_pos (Options.bucketMs_eq_none_iff.mp bucketed)] at same
      rw [same]
  | some width =>
      have present : options.bucketSeconds ≠ 0 := by
        intro absent
        rw [Options.bucketMs_eq_none_iff.mpr absent] at bucketed
        contradiction
      rw [if_neg present, ← Options.toNat_of_bucketMs bucketed] at same
      have rounded : quantize width left = quantize width right := by
        apply BitVec.eq_of_toNat_eq
        rw [toNat_quantize, toNat_quantize, same]
      simp only [stamp, bucketed, rounded]

variable {left right : Call}

/-- One call, record or error, and the generator after it. -/
theorem generateId_eq_of_sameInBuckets (generator : Generator) (same : left.SameInBuckets right) :
    generator.generateId left = generator.generateId right := by
  have stamps : stamp left.options left.reading.nowMs = stamp right.options right.reading.nowMs := by
    rw [← same.options]
    exact stamp_eq_of_sameInstant same.clock
  unfold generateId
  rw [same.kind, stamps, same.options, same.entropy]

theorem answer_eq_of_sameInBuckets (generator : Generator) (form : Form)
    (same : left.SameInBuckets right) :
    generator.answer form left = generator.answer form right := by
  have step := generateId_eq_of_sameInBuckets generator same
  cases form with
  | record => simp only [answer, step]
  | written => simp only [answer, generate, step, same.options]

/-- Two runs from one state, of calls in the same forms that differ at most in where the clock
stands within a bucket, cannot be told apart: every answer and every state is the same. -/
theorem trace_eq_of_sameInBuckets (generator : Generator) {left right : List (Form × Call)}
    (same : List.Forall₂ (fun one other => one.1 = other.1 ∧ one.2.SameInBuckets other.2)
      left right) :
    generator.trace left = generator.trace right := by
  induction same generalizing generator with
  | nil => rfl
  | @cons one other _ _ first _ ih =>
      rcases one with ⟨form, call⟩
      rcases other with ⟨otherForm, otherCall⟩
      rcases first with ⟨rfl, sameCall⟩
      simp only [trace]
      rw [answer_eq_of_sameInBuckets generator form sameCall, ih]

/-- A run at the given instants: minutes before and behind an exact call, a call without entropy
and one of an invalid kind, and a clock that goes back. -/
def mixedRun (first second third fourth : BitVec 64) : List (Form × Call) :=
  let minutes : Options := { tenant := 7, checksum := true, bucketSeconds := 60 }
  [(.record, ⟨"order", minutes, ⟨first, .ok 5⟩⟩),
    (.written, ⟨"order", minutes, ⟨second, .error "drained"⟩⟩),
    (.record, ⟨"order", {}, ⟨1757869140000, .ok 5⟩⟩),
    (.written, ⟨"Order", minutes, ⟨third, .ok 5⟩⟩),
    (.written, ⟨"order", minutes, ⟨fourth, .ok 5⟩⟩)]

/-- The instants differ by up to a minute, and the last one is long before the epoch. -/
theorem trace_eq_of_sameInBuckets_mixedRun :
    List.Forall₂ (fun one other => one.1 = other.1 ∧ one.2.SameInBuckets other.2)
        (mixedRun 1757869140000 1757869157707 18446744073709551615 0)
        (mixedRun 1757869199999 1757869140001 18446744073709551000 59999) ∧
      trace {} (mixedRun 1757869140000 1757869157707 18446744073709551615 0) =
        trace {} (mixedRun 1757869199999 1757869140001 18446744073709551000 59999) := by
  have same : List.Forall₂ (fun one other => one.1 = other.1 ∧ one.2.SameInBuckets other.2)
      (mixedRun 1757869140000 1757869157707 18446744073709551615 0)
      (mixedRun 1757869199999 1757869140001 18446744073709551000 59999) :=
    .cons ⟨rfl, rfl, rfl, rfl, by decide⟩ <| .cons ⟨rfl, rfl, rfl, rfl, by decide⟩ <|
      .cons ⟨rfl, rfl, rfl, rfl, by decide⟩ <| .cons ⟨rfl, rfl, rfl, rfl, by decide⟩ <|
      .cons ⟨rfl, rfl, rfl, rfl, by decide⟩ .nil
  exact ⟨same, trace_eq_of_sameInBuckets {} same⟩

end Generator

end SortableId
