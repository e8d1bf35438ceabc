import SortableId.Proofs.Privacy

/-!
# Failed calls

A call fails in two ways.  With an invalid kind it fails before anything happens, so it can be left
out of a run without a trace.  Without entropy it fails after its sequence number was taken: the
entropy decides on nothing but the random field of its own call, or whether there is an identifier
at all, and every other call and every state is the same.
-/

namespace SortableId

/-- The same call with another outcome of the entropy source. -/
def Call.withEntropy (call : Call) (entropy : Except String (BitVec 64)) : Call :=
  { call with reading := { call.reading with entropy } }

/-- The same identifier with another random field. -/
def Identifier.withRandom (id : Identifier) (random : BitVec 60) : Identifier :=
  { id with fields := { id.fields with random } }

namespace Generator

/-- An outcome in the form that was asked for. -/
def Answer.of (form : Form) (options : Options) (outcome : Except IdError Identifier) : Answer :=
  match form with
  | .record => .record outcome
  | .written => .written (outcome.map fun id => id.encode options.checksum)

theorem answer_eq (generator : Generator) (form : Form) (call : Call) :
    generator.answer form call =
      (.of form call.options (generator.generateId call).1, (generator.generateId call).2) := by
  cases form with
  | record => rfl
  | written => rfl

/-- The generator after a run. -/
def final (generator : Generator) (requests : List (Form × Call)) : Generator :=
  requests.foldl (fun generator request => (generator.answer request.1 request.2).2) generator

theorem final_cons (generator : Generator) (request : Form × Call)
    (later : List (Form × Call)) :
    generator.final (request :: later) =
      (generator.answer request.1 request.2).2.final later := rfl

theorem trace_cons (generator : Generator) (request : Form × Call) (later : List (Form × Call)) :
    generator.trace (request :: later) =
      generator.answer request.1 request.2 ::
        (generator.answer request.1 request.2).2.trace later := rfl

/-- A request is served by the generator that the requests before it have left. -/
theorem getElem?_trace (generator : Generator) (requests : List (Form × Call)) (index : Nat) :
    (generator.trace requests)[index]? = requests[index]?.map fun request =>
      (generator.final (requests.take index)).answer request.1 request.2 := by
  induction requests generalizing generator index with
  | nil => rfl
  | cons request later ih =>
      cases index with
      | zero => rfl
      | succ index => exact ih (generator.answer request.1 request.2).2 index

/-! ## Invalid kinds -/

/-- Whether the kind of a request is valid. -/
def isServed (request : Form × Call) : Bool := request.2.isStamped

theorem answer_of_invalid (generator : Generator) {request : Form × Call}
    (invalid : isServed request = false) :
    generator.answer request.1 request.2 =
      (.of request.1 request.2.options (.error (.invalidKind request.2.kind)), generator) := by
  have unknown : Kind.ofString? request.2.kind = none := by
    simpa [isServed, Call.isStamped] using invalid
  rw [answer_eq, generateId_of_invalid unknown]

/-- Requests with an invalid kind do not move the generator. -/
theorem final_filter (generator : Generator) (requests : List (Form × Call)) :
    generator.final (requests.filter isServed) = generator.final requests := by
  induction requests generalizing generator with
  | nil => rfl
  | cons request later ih =>
      cases served : isServed request with
      | true => rw [List.filter_cons_of_pos served, final_cons, final_cons, ih]
      | false =>
          rw [List.filter_cons_of_neg (by simp [served]), final_cons,
            answer_of_invalid generator served, ih]

/-- Without the requests with an invalid kind, the others are served as before. -/
theorem trace_filter (generator : Generator) (requests : List (Form × Call)) :
    generator.trace (requests.filter isServed) =
      ((requests.zip (generator.trace requests)).filter fun served => isServed served.1).map
        Prod.snd := by
  induction requests generalizing generator with
  | nil => rfl
  | cons request later ih =>
      cases served : isServed request with
      | true =>
          simp only [List.filter_cons, served, if_true, trace_cons, List.zip_cons_cons,
            List.map_cons, ih]
      | false =>
          simp only [List.filter_cons, served, Bool.false_eq_true, if_false, trace_cons,
            List.zip_cons_cons, answer_of_invalid generator served, ih]

/-! ## Entropy -/

/-- A call with a valid kind: the identifier that it would make, up to the random field, and the
generator after it do not depend on the entropy. -/
structure Prepares (generator : Generator) (call : Call) (id : Identifier) (after : Generator) :
    Prop where
  made : ∀ random, generator.generateId (call.withEntropy (.ok random)) =
    (.ok (id.withRandom (random.setWidth 60)), after)
  failed : ∀ reason, generator.generateId (call.withEntropy (.error reason)) =
    (.error (.entropyFailure reason), after)
  /-- The number of the identifier is used up in either case. -/
  sequence : after.sequence = { last := some id.fields.time, counter := id.fields.seq }

theorem exists_prepares (generator : Generator) {call : Call} (isStamped : call.isStamped = true) :
    ∃ id after, generator.Prepares call id after := by
  rcases Option.isSome_iff_exists.mp isStamped with ⟨kind, named⟩
  have named' (entropy : Except String (BitVec 64)) :
      Kind.ofString? (call.withEntropy entropy).kind = some kind := named
  refine ⟨call.identifier kind (generator.sequence.next call.time).1 0,
    ⟨(generator.sequence.next call.time).2⟩, ?_, ?_, rfl⟩
  · intro random
    rw [generateId_of_valid (named' _)]
    rfl
  · intro reason
    rw [generateId_of_valid (named' _)]
    rfl

/-- The state after a call does not depend on the entropy. -/
theorem generateId_withEntropy (generator : Generator) (call : Call)
    (entropy : Except String (BitVec 64)) :
    (generator.generateId (call.withEntropy entropy)).2 = (generator.generateId call).2 := by
  cases named : Kind.ofString? call.kind with
  | none =>
      have named' : Kind.ofString? (call.withEntropy entropy).kind = none := named
      rw [generateId_of_invalid named, generateId_of_invalid named']
  | some kind =>
      have named' : Kind.ofString? (call.withEntropy entropy).kind = some kind := named
      rw [generateId_of_valid named, generateId_of_valid named']
      rfl

/-- A request of which nothing is known about the entropy. -/
def withoutEntropy (request : Form × Call) : Form × Call :=
  (request.1, request.2.withEntropy (.error ""))

theorem final_map_withoutEntropy (generator : Generator) (requests : List (Form × Call)) :
    generator.final (requests.map withoutEntropy) = generator.final requests := by
  induction requests generalizing generator with
  | nil => rfl
  | cons request later ih =>
      rw [List.map_cons, final_cons, final_cons, ih, withoutEntropy, answer_eq, answer_eq,
        generateId_withEntropy]

section OneCall

variable {requests : List (Form × Call)} {index : Nat} {form : Form} {call : Call}
  (found : requests[index]? = some (form, call))

include found

/-- The run in which one call gets another entropy. -/
theorem map_withoutEntropy_set (entropy : Except String (BitVec 64)) :
    (requests.set index (form, call.withEntropy entropy)).map withoutEntropy =
      requests.map withoutEntropy := by
  have same : withoutEntropy (form, call.withEntropy entropy) = withoutEntropy (form, call) := rfl
  rw [List.map_set, same]
  apply List.ext_getElem?
  intro other
  by_cases here : index = other
  · subst here
    rw [List.getElem?_set_self', List.getElem?_map, found]
    rfl
  · rw [List.getElem?_set_ne here]

theorem final_take_set (generator : Generator) (entropy : Except String (BitVec 64)) (count : Nat) :
    generator.final ((requests.set index (form, call.withEntropy entropy)).take count) =
      generator.final (requests.take count) := by
  rw [← final_map_withoutEntropy, List.map_take, map_withoutEntropy_set found, ← List.map_take,
    final_map_withoutEntropy]

theorem final_set (generator : Generator) (entropy : Except String (BitVec 64)) :
    generator.final (requests.set index (form, call.withEntropy entropy)) =
      generator.final requests := by
  rw [← final_map_withoutEntropy, map_withoutEntropy_set found, final_map_withoutEntropy]

theorem getElem?_trace_set (generator : Generator) (entropy : Except String (BitVec 64)) :
    (generator.trace (requests.set index (form, call.withEntropy entropy)))[index]? =
      some ((generator.final (requests.take index)).answer form (call.withEntropy entropy)) := by
  rcases List.getElem?_eq_some_iff.mp found with ⟨inBounds, _⟩
  rw [getElem?_trace, final_take_set found, List.getElem?_set_self inBounds]
  rfl

theorem getElem?_trace_set_of_ne (generator : Generator) (entropy : Except String (BitVec 64))
    {other : Nat} (different : other ≠ index) :
    (generator.trace (requests.set index (form, call.withEntropy entropy)))[other]? =
      (generator.trace requests)[other]? := by
  rw [getElem?_trace, getElem?_trace, final_take_set found,
    List.getElem?_set_ne (Ne.symm different)]

end OneCall

/-! ## Runs -/

/-- The entropy of one call of a run decides on that call only: on the random field of its
identifier, or whether there is one.  The number that an identifier would carry is used up in either
case. -/
structure EntropyConfined (generator : Generator) (requests : List (Form × Call)) (index : Nat)
    (form : Form) (call : Call) : Prop where
  final : ∀ entropy,
    generator.final (requests.set index (form, call.withEntropy entropy)) =
      generator.final requests
  others : ∀ entropy, ∀ other, other ≠ index →
    (generator.trace (requests.set index (form, call.withEntropy entropy)))[other]? =
      (generator.trace requests)[other]?
  state : ∀ entropy,
    (generator.trace (requests.set index (form, call.withEntropy entropy)))[index]?.map Prod.snd =
      (generator.trace requests)[index]?.map Prod.snd
  answer : call.isStamped = true → ∃ id : Identifier, ∃ after : Generator,
    after.sequence = { last := some id.fields.time, counter := id.fields.seq } ∧
    (∀ random,
      (generator.trace (requests.set index (form, call.withEntropy (.ok random))))[index]? =
        some (.of form call.options (.ok (id.withRandom (random.setWidth 60))), after)) ∧
    ∀ reason,
      (generator.trace (requests.set index (form, call.withEntropy (.error reason))))[index]? =
        some (.of form call.options (.error (.entropyFailure reason)), after)

theorem entropyConfined (generator : Generator) {requests : List (Form × Call)} {index : Nat}
    {form : Form} {call : Call} (found : requests[index]? = some (form, call)) :
    EntropyConfined generator requests index form call where
  final := final_set found generator
  others entropy _ := getElem?_trace_set_of_ne found generator entropy
  state entropy := by
    rw [getElem?_trace_set found, getElem?_trace, found, Option.map_some, Option.map_some,
      Option.map_some, answer_eq, answer_eq, generateId_withEntropy]
  answer isStamped := by
    rcases exists_prepares (generator.final (requests.take index)) isStamped with
      ⟨id, after, prepares⟩
    refine ⟨id, after, prepares.sequence, ?_, ?_⟩
    · intro random
      rw [getElem?_trace_set found, answer_eq, prepares.made]
      rfl
    · intro reason
      rw [getElem?_trace_set found, answer_eq, prepares.failed]
      rfl

/-- Failed calls do not disturb a run.  A call with an invalid kind says so and leaves the generator
as it was, so the run without all such calls gives every other answer and every other state.  What
the entropy source does for one call is seen in the outcome of that call only. -/
theorem trace_undisturbed (generator : Generator) (requests : List (Form × Call)) :
    (∀ index form call, requests[index]? = some (form, call) → call.isStamped = false →
      (generator.trace requests)[index]? =
        some (.of form call.options (.error (.invalidKind call.kind)),
          generator.final (requests.take index))) ∧
      generator.trace (requests.filter isServed) =
        ((requests.zip (generator.trace requests)).filter fun served => isServed served.1).map
          Prod.snd ∧
      generator.final (requests.filter isServed) = generator.final requests ∧
      ∀ index form call, requests[index]? = some (form, call) →
        EntropyConfined generator requests index form call := by
  refine ⟨?_, trace_filter generator requests, final_filter generator requests, ?_⟩
  · intro index form call found invalid
    have served : isServed (form, call) = false := invalid
    rw [getElem?_trace, found, Option.map_some, answer_of_invalid _ served]
  · intro index form call found
    exact entropyConfined generator found

end Generator

end SortableId
