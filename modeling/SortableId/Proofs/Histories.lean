import Mathlib
import SortableId.Generator
import SortableId.Proofs.Reading

/-!
# Histories of a generator

The number that a sequence gives to an event counts the events of the same instant directly before
it.  A generator asks its sequence once for every call with a valid kind, at the time that the call
is stamped with, so the outcome of each call in a run depends on the stamped times before it only.
-/

namespace SortableId

namespace Sequence

variable {Instant : Type} [DecidableEq Instant]

/-- How many events at the end of a history are of the given instant, without interruption. -/
def streak (history : List Instant) (instant : Instant) : Nat :=
  (history.reverse.takeWhile fun earlier => decide (earlier = instant)).length

@[simp] theorem streak_concat_self (history : List Instant) (instant : Instant) :
    streak (history ++ [instant]) instant = streak history instant + 1 := by
  simp [streak]

theorem streak_concat_of_ne {instant other : Instant} (different : instant ≠ other)
    (history : List Instant) : streak (history ++ [instant]) other = 0 := by
  simp [streak, different]

/-- Events of one instant go on with its streak. -/
theorem streak_append_of_forall_eq {later : List Instant} {instant : Instant}
    (same : ∀ event ∈ later, event = instant) (history : List Instant) :
    streak (history ++ later) instant = streak history instant + later.length := by
  have uninterrupted : ∀ event ∈ later.reverse, decide (event = instant) = true := by
    simpa using same
  rw [streak, List.reverse_append, List.takeWhile_append_of_pos uninterrupted,
    List.length_append, List.length_reverse, streak, Nat.add_comm]

/-- An event of another instant ends a streak, and what came before it no longer counts. -/
theorem streak_append_of_exists_ne {later : List Instant} {instant : Instant}
    (interrupted : ∃ event ∈ later, event ≠ instant) (history : List Instant) :
    streak (history ++ later) instant = streak later instant := by
  rcases interrupted with ⟨event, member, different⟩
  have ended : (later.reverse.takeWhile fun earlier => decide (earlier = instant)).length ≠
      later.reverse.length := by
    intro full
    have whole := (List.takeWhile_prefix _).eq_of_length full
    have same := List.takeWhile_eq_self_iff.mp whole event (List.mem_reverse.mpr member)
    exact different (of_decide_eq_true same)
  rw [streak, List.reverse_append, List.takeWhile_append, if_neg ended, streak]

theorem streak_le_count (history : List Instant) (instant : Instant) :
    streak history instant ≤ history.count instant := by
  induction history using List.reverseRecOn with
  | nil => exact Nat.le_refl _
  | append_singleton history last ih =>
      by_cases same : last = instant
      · subst same
        rw [streak_concat_self, List.count_append, List.count_singleton_self]
        exact Nat.succ_le_succ ih
      · rw [streak_concat_of_ne same]
        exact Nat.zero_le _

/-- A sequence is at the end of a history if the next number of every instant is the streak of
that instant, modulo the numbers that there are. -/
def AtEnd (sequence : Sequence Instant) (history : List Instant) : Prop :=
  ∀ instant, (sequence.next instant).1 = BitVec.ofNat 12 (streak history instant)

theorem atEnd_nil : AtEnd ({} : Sequence Instant) [] := by
  intro instant
  rfl

/-- One event moves a sequence to the end of the longer history. -/
theorem AtEnd.next {sequence : Sequence Instant} {history : List Instant}
    (atEnd : sequence.AtEnd history) (instant : Instant) :
    (sequence.next instant).2.AtEnd (history ++ [instant]) := by
  intro other
  by_cases same : instant = other
  · subst same
    rw [next_next, atEnd instant, streak_concat_self, BitVec.ofNat_add]
    rfl
  · have fresh : (sequence.next instant).2.last ≠ some other := by
      rw [last_next]
      intro equal
      exact same (Option.some.inj equal)
    rw [next_of_ne fresh, streak_concat_of_ne same]
    rfl

/-- In a history in order an instant occurs only in one streak. -/
theorem streak_eq_count [LE Instant] [Std.IsPartialOrder Instant] {history : List Instant}
    {instant : Instant} (sorted : history.Pairwise (· ≤ ·))
    (upTo : ∀ earlier ∈ history, earlier ≤ instant) :
    streak history instant = history.count instant := by
  induction history using List.reverseRecOn with
  | nil => rfl
  | append_singleton history last ih =>
      rcases List.pairwise_append.mp sorted with ⟨sortedFront, _, frontLe⟩
      have frontUpTo : ∀ earlier ∈ history, earlier ≤ instant := by
        intro earlier member
        exact upTo earlier (List.mem_append_left _ member)
      by_cases same : last = instant
      · subst same
        rw [streak_concat_self, ih sortedFront frontUpTo]
        simp
      · have absent : instant ∉ history ++ [last] := by
          intro member
          have inFront : instant ∈ history := by
            rcases List.mem_append.mp member with inFront | isLast
            · exact inFront
            · exact absurd (List.mem_singleton.mp isLast).symm same
          have atMost : last ≤ instant := upTo last (by simp)
          have atLeast : instant ≤ last := frontLe instant inFront last (by simp)
          exact same (Std.le_antisymm atMost atLeast)
        rw [streak_concat_of_ne same, List.count_eq_zero_of_not_mem absent]

end Sequence

namespace Call

/-- Whether the kind is valid, so that the call goes on to read the clock. -/
def isStamped (call : Call) : Bool := (Kind.ofString? call.kind).isSome

/-- The time that a call is stamped with. -/
def time (call : Call) : Time := (Generator.stamp call.options call.reading.nowMs).1

/-- What an identifier has from the call that made it, apart from its sequence number. -/
structure Makes (call : Call) (id : Identifier) : Prop where
  isStamped : call.isStamped = true
  kind : id.kind.name = call.kind
  time : id.fields.time = call.time
  flags : id.fields.flags = (Generator.stamp call.options call.reading.nowMs).2
  tenant : id.fields.tenant = call.options.tenant
  shard : id.fields.shard = call.options.shard

/-- The identifier that a call makes with the given sequence number and entropy. -/
def identifier (call : Call) (kind : Kind) (seq : BitVec 12) (entropy : BitVec 64) :
    Identifier where
  kind
  fields := {
    time := call.time
    flags := (Generator.stamp call.options call.reading.nowMs).2
    tenant := call.options.tenant
    seq
    shard := call.options.shard
    random := entropy.setWidth 60 }

end Call

namespace Generator

/-- A call with a valid kind uses up the next number of its time, with or without entropy. -/
theorem generateId_of_valid {generator : Generator} {call : Call} {kind : Kind}
    (named : Kind.ofString? call.kind = some kind) :
    generator.generateId call =
      ((call.reading.entropy.mapError IdError.entropyFailure).map
          (call.identifier kind (generator.sequence.next call.time).1),
        ⟨(generator.sequence.next call.time).2⟩) := by
  simp only [generateId, named]
  cases call.reading.entropy with
  | error reason => rfl
  | ok entropy => rfl

/-- The calls of a run that read the clock. -/
def stampedCalls (calls : List Call) : List Call := calls.filter Call.isStamped

/-- The times that the calls of a run are stamped with, failing calls included. -/
def stampedTimes (calls : List Call) : List Time := (stampedCalls calls).map Call.time

@[simp] theorem stampedTimes_nil : stampedTimes [] = [] := rfl

theorem stampedTimes_append (front back : List Call) :
    stampedTimes (front ++ back) = stampedTimes front ++ stampedTimes back := by
  simp [stampedTimes, stampedCalls]

theorem stampedTimes_of_isStamped {call : Call} (isStamped : call.isStamped = true) :
    stampedTimes [call] = [call.time] := by
  simp [stampedTimes, stampedCalls, isStamped]

/-- At the given place of a run stands the given call, and it reads the clock. -/
structure StampedAt (calls : List Call) (index : Nat) (call : Call) : Prop where
  found : calls[index]? = some call
  isStamped : call.isStamped = true

theorem StampedAt.mem {calls : List Call} {index : Nat} {call : Call}
    (stamped : StampedAt calls index call) : call ∈ stampedCalls calls :=
  List.mem_filter.mpr ⟨List.mem_of_getElem? stamped.found, stamped.isStamped⟩

theorem stampedTimes_sublist {front calls : List Call} (sublist : front.Sublist calls) :
    (stampedTimes front).Sublist (stampedTimes calls) :=
  (sublist.filter Call.isStamped).map Call.time

theorem StampedAt.take_succ {calls : List Call} {index : Nat} {call : Call}
    (stamped : StampedAt calls index call) :
    stampedTimes (calls.take (index + 1)) = stampedTimes (calls.take index) ++ [call.time] := by
  rw [List.take_add_one, stamped.found, stampedTimes_append,
    ← stampedTimes_of_isStamped stamped.isStamped]
  rfl

/-- One call moves the sequence by the time that it is stamped with, if any, whatever the entropy
source does. -/
theorem atEnd_generateId {generator : Generator} {history : List Time}
    (atEnd : generator.sequence.AtEnd history) (call : Call) :
    (generator.generateId call).2.sequence.AtEnd (history ++ stampedTimes [call]) := by
  cases named : Kind.ofString? call.kind with
  | none =>
      have notStamped : stampedTimes [call] = [] := by
        simp [stampedTimes, stampedCalls, Call.isStamped, named]
      rw [generateId_of_invalid named, notStamped, List.append_nil]
      exact atEnd
  | some kind =>
      have isStamped : call.isStamped = true := by rw [Call.isStamped, named]; rfl
      rw [generateId_of_valid named, stampedTimes_of_isStamped isStamped]
      exact atEnd.next call.time

/-- A run moves the sequence by all the times that its calls are stamped with. -/
theorem atEnd_run {generator : Generator} {history : List Time}
    (atEnd : generator.sequence.AtEnd history) (calls : List Call) :
    (generator.run calls).2.sequence.AtEnd (history ++ stampedTimes calls) := by
  induction calls generalizing generator history with
  | nil =>
      rw [stampedTimes_nil, List.append_nil]
      exact atEnd
  | cons call later ih =>
      rw [← List.singleton_append, stampedTimes_append, ← List.append_assoc]
      exact ih (atEnd_generateId atEnd call)

/-- A call is answered from the state that the calls before it have left. -/
theorem getElem?_run (generator : Generator) (calls : List Call) (index : Nat) :
    (generator.run calls).1[index]? =
      calls[index]?.map fun call =>
        ((generator.run (calls.take index)).2.generateId call).1 := by
  induction calls generalizing generator index with
  | nil => rfl
  | cons call later ih =>
      cases index with
      | zero => rfl
      | succ index => exact ih (generator.generateId call).2 index

/-- An identifier carries what its call asks for and reads, and the next number of the sequence. -/
theorem makes_of_generateId {generator : Generator} {call : Call} {id : Identifier}
    (made : (generator.generateId call).1 = .ok id) :
    call.Makes id ∧ id.fields.seq = (generator.sequence.next call.time).1 := by
  cases named : Kind.ofString? call.kind with
  | none =>
      rw [generateId_of_invalid named] at made
      contradiction
  | some kind =>
      rw [generateId_of_valid named] at made
      rcases map_eq_ok_iff.mp made with ⟨entropy, _, rfl⟩
      have isStamped : call.isStamped = true := by rw [Call.isStamped, named]; rfl
      exact ⟨⟨isStamped, Kind.ofString?_eq_some_iff.mp named, rfl, rfl, rfl, rfl⟩, rfl⟩

/-- In a run of a fresh generator the sequence number of an identifier counts the calls that were
stamped with its time directly before. -/
theorem makes_of_run {calls : List Call} {index : Nat} {id : Identifier}
    (made : (run {} calls).1[index]? = some (.ok id)) :
    ∃ call, calls[index]? = some call ∧ call.Makes id ∧
      id.fields.seq =
        BitVec.ofNat 12 (Sequence.streak (stampedTimes (calls.take index)) call.time) := by
  rw [getElem?_run, Option.map_eq_some_iff] at made
  rcases made with ⟨call, found, outcome⟩
  rcases makes_of_generateId outcome with ⟨makes, seq_eq⟩
  have fresh : ({} : Generator).sequence.AtEnd [] := Sequence.atEnd_nil
  have atEnd := atEnd_run fresh (calls.take index)
  rw [List.nil_append] at atEnd
  exact ⟨call, found, makes, seq_eq.trans (atEnd call.time)⟩

end Generator

end SortableId
