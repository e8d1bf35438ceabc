import SortableId.Proofs.Directions
import SortableId.Proofs.Documents
import SortableId.Proofs.Histories
import SortableId.Proofs.Order
import SortableId.TypedId.Json

/-!
# Typed identifiers

A typed identifier is an identifier of one kind, however it came about.  The generator of a kind
makes what the untyped generator makes, a text is read as what the untyped reader reads, and every
way of reading a text gives the same: an identifier of another kind is a mismatch, and any other
error is that of the untyped reader.  Within one kind the order is that of the written forms.
-/

namespace SortableId

/-! ## Errors of the untyped reader -/

/-- Whether an identifier of another kind was found than was asked for. -/
def IdError.isKindMismatch : IdError → Bool
  | kindMismatch _ _ => true
  | _ => false

theorem Payload.isKindMismatch_of_readSymbols {position : Nat} {text : List Char} {error : IdError}
    (failed : readSymbols position text = .error error) : error.isKindMismatch = false := by
  induction text generalizing position with
  | nil => contradiction
  | cons c rest ih =>
      unfold readSymbols at failed
      split at failed
      · cases failed
        rfl
      · exact ih (map_eq_error_iff.mp failed)

theorem Payload.isKindMismatch_of_decode {payload : List Char} {error : IdError}
    (failed : decode payload = .error error) : error.isKindMismatch = false := by
  unfold decode at failed
  split at failed
  · cases failed
    rfl
  · exact isKindMismatch_of_readSymbols (map_eq_error_iff.mp failed)

theorem Checksum.isKindMismatch_of_compute {base : List Char} {error : IdError}
    (failed : compute base = .error error) : error.isKindMismatch = false := by
  unfold compute at failed
  split at failed
  · cases failed
    rfl
  · cases failed
    rfl
  · exact Payload.isKindMismatch_of_readSymbols (map_eq_error_iff.mp failed)

namespace Identifier

theorem isKindMismatch_of_checkSuffix {base given : List Char} {error : IdError}
    (failed : checkSuffix base given = .error error) : error.isKindMismatch = false := by
  unfold checkSuffix at failed
  split at failed
  · cases failed
    rfl
  · split at failed
    next other computed =>
      cases failed
      exact Checksum.isKindMismatch_of_compute computed
    next =>
      split at failed
      · contradiction
      · cases failed
        rfl

theorem isKindMismatch_of_parseBase {base : List Char} {error : IdError}
    (failed : parseBase base = .error error) : error.isKindMismatch = false := by
  unfold parseBase at failed
  split at failed
  · cases failed
    rfl
  · cases failed
    rfl
  · split at failed
    · cases failed
      rfl
    · exact Payload.isKindMismatch_of_decode (map_eq_error_iff.mp failed)

/-- The untyped reader has no kind to compare with. -/
theorem isKindMismatch_of_parse {input : String} {error : IdError}
    (failed : parse input = .error error) : error.isKindMismatch = false := by
  unfold parse parseTrimmed at failed
  split at failed
  · cases failed
    rfl
  · split at failed
    · exact isKindMismatch_of_parseBase failed
    · split at failed
      next other checked =>
        cases failed
        exact isKindMismatch_of_checkSuffix checked
      next => exact isKindMismatch_of_parseBase failed

end Identifier

theorem mapError_eq_ok_iff {fault other α : Type} {outcome : Except fault α}
    {image : fault → other} {value : α} :
    outcome.mapError image = .ok value ↔ outcome = .ok value := by
  cases outcome with
  | error => simp [Except.mapError]
  | ok => simp [Except.mapError]

/-- A text holds a value if a reader takes the value and leaves only blanks. -/
theorem Json.Reader.run_eq_ok_iff {α : Type} {reader : Json.Reader α} {text : String} {value : α} :
    reader.run text = .ok value ↔
      ∃ rest, reader text.toList = .ok (value, rest) ∧ (fromToken rest).isEmpty = true := by
  simp only [run, StateT.run]
  cases read : reader text.toList with
  | error error => simp [bind, Except.bind]
  | ok result =>
      rcases result with ⟨found, rest⟩
      by_cases ended : fromToken rest = []
      · simp [bind, Except.bind, ended, pure, Except.pure]
      · simp [bind, Except.bind, ended, throw, throwThe, MonadExceptOf.throw]

namespace TypedId

variable {kind : Kind} {input : String}

/-! ## Wrapping -/

theorem ofIdentifier_eq_ok_iff {id : Identifier} {typed : TypedId kind} :
    ofIdentifier kind id = .ok typed ↔ typed.id = id := by
  constructor
  · intro wrapped
    unfold ofIdentifier at wrapped
    split at wrapped
    · cases wrapped
      rfl
    · contradiction
  · rintro rfl
    exact ofIdentifier_id typed

theorem ofIdentifier_eq_error_iff {id : Identifier} {error : IdError} :
    ofIdentifier kind id = .error error ↔ id.kind ≠ kind ∧ error = .kindMismatch kind id.kind := by
  unfold ofIdentifier
  split
  next same => simp [same]
  next other => simp [other, eq_comm]

theorem parse_eq_bind (kind : Kind) (input : String) :
    parse kind input = (Identifier.parse input).bind (ofIdentifier kind) := rfl

theorem parse_of_parse_eq_ok {id : Identifier} (read : Identifier.parse input = .ok id) :
    parse kind input = ofIdentifier kind id := by
  rw [parse_eq_bind, read]
  rfl

/-- Errors of the untyped reader are passed on. -/
theorem parse_of_parse_eq_error {error : IdError} (failed : Identifier.parse input = .error error) :
    parse kind input = .error error := by
  rw [parse_eq_bind, failed]
  rfl

theorem parse_eq_ok_iff {typed : TypedId kind} :
    parse kind input = .ok typed ↔ Identifier.parse input = .ok typed.id := by
  cases read : Identifier.parse input with
  | error error => simp [parse_of_parse_eq_error read]
  | ok id => rw [parse_of_parse_eq_ok read, ofIdentifier_eq_ok_iff, Except.ok.injEq, eq_comm]

/-- A mismatch is an identifier of another kind, and nothing else. -/
theorem parse_eq_kindMismatch_iff {expected actual : Kind} :
    parse kind input = .error (.kindMismatch expected actual) ↔
      expected = kind ∧ actual ≠ kind ∧
        ∃ id, Identifier.parse input = .ok id ∧ id.kind = actual := by
  cases read : Identifier.parse input with
  | error error =>
      rw [parse_of_parse_eq_error read]
      refine iff_of_false ?_ (by simp)
      intro same
      cases same
      exact absurd (Identifier.isKindMismatch_of_parse read) (by simp [IdError.isKindMismatch])
  | ok id =>
      rw [parse_of_parse_eq_ok read, ofIdentifier_eq_error_iff]
      simp only [IdError.kindMismatch.injEq, Except.ok.injEq, exists_eq_left']
      constructor
      · rintro ⟨other, rfl, rfl⟩
        exact ⟨rfl, other, rfl⟩
      · rintro ⟨rfl, other, rfl⟩
        exact ⟨other, rfl, rfl⟩

/-! ## Generating -/

variable (kind) in
/-- The untyped generator is asked for the kind, so the typed one has nothing to refuse. -/
theorem kind_of_generateId {generator : Generator} {options : Options} {reading : Reading}
    {id : Identifier} (made : (generator.generateId ⟨kind.name, options, reading⟩).1 = .ok id) :
    id.kind = kind := by
  rcases Generator.makes_of_generateId made with ⟨makes, _⟩
  exact Kind.eq_of_name_eq makes.kind

theorem map_id_bind_ofIdentifier {outcome : Except IdError Identifier}
    (ofKind : ∀ id, outcome = .ok id → id.kind = kind) :
    (outcome.bind (ofIdentifier kind)).map TypedId.id = outcome := by
  cases outcome with
  | error error => rfl
  | ok id =>
      have wrapped : ofIdentifier kind id = .ok ⟨id, ofKind id rfl⟩ :=
        ofIdentifier_eq_ok_iff.mpr rfl
      simp only [Except.bind, wrapped]
      rfl

/-! ## Documents -/

/-- How an error of the library is told by a reader of documents. -/
def refusal (error : IdError) : Json.Error := .mismatch (.refused error.message)

/-- Behind a text, the reader of typed identifiers only looks at what the text says. -/
theorem reader_eq_of_text {source rest : List Char}
    (read : Json.Reader.text source = .ok (input, rest)) :
    reader kind source = ((parse kind input).mapError refusal).map (·, rest) := by
  rw [reader, Json.Reader.bind_eq_of_ok read]
  cases parse kind input with
  | error error => rfl
  | ok typed => rfl

/-- A document that holds a text is decoded by reading the text. -/
theorem ofJson_of_run_text {document : String}
    (decoded : Json.Reader.text.run document = .ok input) :
    ofJson kind document = (parse kind input).mapError refusal := by
  rcases Json.Reader.run_eq_ok_iff.mp decoded with ⟨rest, read, ended⟩
  simp only [ofJson, Json.Reader.run, StateT.run, reader_eq_of_text read]
  cases parse kind input with
  | error error => rfl
  | ok typed => simp only [Except.mapError, Except.map, bind, Except.bind, ended, if_true]; rfl

/-- Only a document that holds a text is decoded. -/
theorem run_text_of_ofJson {document : String} {typed : TypedId kind}
    (decoded : ofJson kind document = .ok typed) :
    ∃ input, Json.Reader.text.run document = .ok input ∧ parse kind input = .ok typed := by
  rcases Json.Reader.run_eq_ok_iff.mp decoded with ⟨rest, read, ended⟩
  cases content : Json.Reader.text document.toList with
  | error error =>
      simp only [reader, bind, StateT.bind, content, Except.bind] at read
      contradiction
  | ok result =>
      rcases result with ⟨input, behind⟩
      rw [reader_eq_of_text content] at read
      rcases map_eq_ok_iff.mp read with ⟨found, accepted, same⟩
      rcases Prod.mk.inj same with ⟨rfl, rfl⟩
      exact ⟨input, Json.Reader.run_eq_ok_iff.mpr ⟨behind, content, ended⟩,
        mapError_eq_ok_iff.mp accepted⟩

theorem run_text_render (layout : Json.Layout) (content : String) :
    Json.Reader.text.run ((Json.text content).render layout) = .ok content := by
  have read := (Json.Reader.reads_text content).run layout Json.blanks_nil
  rwa [String.ofList_nil, String.append_empty] at read

/-! ## Agreement -/

/-- What becomes of a text as an identifier of a kind: what the untyped reader says of it, by every
way of reading it. -/
structure ReadsUntyped (kind : Kind) (input : String) : Prop where
  value : ∀ typed : TypedId kind,
    parse kind input = .ok typed ↔ Identifier.parse input = .ok typed.id
  success : (∃ typed, parse kind input = .ok typed) ↔
    ∃ id, Identifier.parse input = .ok id ∧ id.kind = kind
  mismatch : ∀ expected actual, parse kind input = .error (.kindMismatch expected actual) ↔
    expected = kind ∧ actual ≠ kind ∧ ∃ id, Identifier.parse input = .ok id ∧ id.kind = actual
  failure : ∀ error, Identifier.parse input = .error error → parse kind input = .error error
  converted : ofString kind input = parse kind input
  wrapped : (Identifier.parse input).bind (ofIdentifier kind) = parse kind input
  /-- The text can be written as a document. -/
  document : ∀ layout, Json.Reader.text.run ((Json.text input).render layout) = .ok input
  /-- Decoding any document of the text tells an error in the words of the library. -/
  decoded : ∀ document, Json.Reader.text.run document = .ok input →
    ofJson kind document = (parse kind input).mapError refusal

theorem readsUntyped (kind : Kind) (input : String) : ReadsUntyped kind input where
  value _ := parse_eq_ok_iff
  success := by
    constructor
    · rintro ⟨typed, read⟩
      exact ⟨typed.id, parse_eq_ok_iff.mp read, typed.kind_eq⟩
    · rintro ⟨id, read, ofKind⟩
      exact ⟨⟨id, ofKind⟩, parse_eq_ok_iff.mpr read⟩
  mismatch _ _ := parse_eq_kindMismatch_iff
  failure _ := parse_of_parse_eq_error
  converted := rfl
  wrapped := rfl
  document layout := run_text_render layout input
  decoded _ := ofJson_of_run_text

/-- What a generator of a kind makes: what the untyped generator makes, which is of the kind. -/
structure GeneratesUntyped (kind : Kind) (generator : Generator) (options : Options)
    (reading : Reading) : Prop where
  outcome : (generate kind generator options reading).1.map id =
    (generator.generateId ⟨kind.name, options, reading⟩).1
  ofKind : ∀ id, (generator.generateId ⟨kind.name, options, reading⟩).1 = .ok id → id.kind = kind
  state : (generate kind generator options reading).2 =
    (generator.generateId ⟨kind.name, options, reading⟩).2

theorem generatesUntyped (kind : Kind) (generator : Generator) (options : Options)
    (reading : Reading) : GeneratesUntyped kind generator options reading where
  outcome := map_id_bind_ofIdentifier fun _ made => kind_of_generateId kind made
  ofKind _ made := kind_of_generateId kind made
  state := rfl

/-- A typed identifier is an identifier of its kind, however it came about: generated, wrapped, read
in any way, or decoded from any document.  What it is written as in a document is decoded as the
same, and identifiers of one kind are ordered as they are shown. -/
theorem agrees_with_untyped (kind : Kind) :
    (∀ generator options reading, GeneratesUntyped kind generator options reading) ∧
      (∀ id : Identifier, (∃ typed, ofIdentifier kind id = .ok typed) ↔ id.kind = kind) ∧
      (∀ input, ReadsUntyped kind input) ∧
      (∀ document, ∀ typed : TypedId kind, ofJson kind document = .ok typed →
        ∃ input, Json.Reader.text.run document = .ok input ∧ parse kind input = .ok typed) ∧
      (∀ layout, ∀ typed : TypedId kind, ofJson kind (typed.toJson.render layout) = .ok typed) ∧
      ∀ left right : TypedId kind,
        compare left right = Text.compareBytes (toString left) (toString right) := by
  refine ⟨generatesUntyped kind, ?_, readsUntyped kind, fun _ _ => run_text_of_ofJson, ?_, ?_⟩
  · intro id
    constructor
    · rintro ⟨typed, wrapped⟩
      rw [← ofIdentifier_eq_ok_iff.mp wrapped]
      exact typed.kind_eq
    · intro ofKind
      exact ⟨⟨id, ofKind⟩, ofIdentifier_eq_ok_iff.mpr rfl⟩
  · intro layout typed
    have written : Identifier.parse (typed.encode false) = .ok typed.id :=
      Identifier.parse_eq_ok_of_encode typed.id rfl
    rw [toJson, ofJson_of_run_text (run_text_render layout _), parse_eq_ok_iff.mpr written]
    rfl
  · intro left right
    have sameKind : left.id.kind = right.id.kind := left.kind_eq.trans right.kind_eq.symm
    exact (Identifier.compareBytes_encode sameKind false).symm

end TypedId

end SortableId
