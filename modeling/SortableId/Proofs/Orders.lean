import SortableId.Program.Ids
import SortableId.Proofs.Histories
import SortableId.Proofs.Printouts
import SortableId.Proofs.Settings
import SortableId.Proofs.Timestamps

/-!
# Ordered identifiers

A command line that orders identifiers leads to as many printed rows as it asks for, unless a
variable or the kind is not as it should be.  The argument follows a row from the order to the
printout: the options that flags and variables give, the identifier that one call makes from them,
the rows of a run by induction on their number, and what the printed text shows of them.
-/

namespace SortableId

/-- The text ends in a hyphen and the checksum of what stands before it. -/
def EndsInChecksum (text : String) : Prop :=
  ∃ base checksum, Checksum.compute base = .ok checksum ∧
    text.toList = base ++ '-' :: checksum.toChars

theorem Identifier.endsInChecksum_encode_iff (id : Identifier) (withChecksum : Bool) :
    EndsInChecksum (id.encode withChecksum) ↔ withChecksum = true := by
  constructor
  · rintro ⟨base, checksum, _, shape⟩
    rw [← id.hyphen_mem_encode_iff, shape]
    exact List.mem_append_right _ List.mem_cons_self
  · rintro rfl
    exact ⟨id.baseChars, id.checksum, id.compute_baseChars, String.toList_ofList⟩

theorem Identifier.plain_encode (id : Identifier) (withChecksum : Bool) :
    Table.Plain (id.encode withChecksum) := by
  have wellFormed := wellFormed_spelling id withChecksum
  have shape : (id.encode withChecksum).toList = (id.spelling withChecksum).chars := by
    rw [encode, String.toList_ofList, chars_spelling]
  refine ⟨?_, ?_, ?_⟩
  · rw [shape]
    exact Spelling.chars_ne_nil _
  · rw [shape]
    exact Spelling.isBlank_of_mem_chars wellFormed
  · rw [shape]
    intro bar
    rcases Spelling.isAlphanum_or_eq_of_mem_chars wellFormed bar with alphanum | equal | equal <;>
      contradiction

theorem Call.Makes.bucketed_iff {call : Call} {id : Identifier} (makes : call.Makes id) :
    id.fields.flags.bucketed = true ↔ 0 < call.options.bucketSeconds.toNat := by
  have positive : 0 < call.options.bucketSeconds.toNat ↔ call.options.bucketMs ≠ none := by
    rw [Ne, Options.bucketMs_eq_none_iff, Nat.pos_iff_ne_zero, Ne, BitVec.toNat_eq]
    rfl
  rw [makes.flags, positive]
  cases bucket : call.options.bucketMs with
  | none => simp [Generator.stamp, bucket]
  | some width => simp [Generator.stamp, bucket]

namespace Program

open Settings (Gives GivesOptions AsksForChecksum AnyMisset)

/-! ## Options of an order -/

/-- The word is the one that is stated, or else the one that the variable gives. -/
def Chosen {width : Nat} (stated : Option (BitVec width)) (lookup : String → Option String)
    (name : String) (word : BitVec width) : Prop :=
  match stated with
  | some value => word = value
  | none => Gives lookup name word

theorem chosen_getD {width : Nat} (stated : Option (BitVec width))
    {lookup : String → Option String} {name : String} {default : BitVec width}
    (gives : Gives lookup name default) : Chosen stated lookup name (stated.getD default) := by
  cases stated with
  | none => exact gives
  | some value => rfl

/-! ## Rows of a run -/

/-- What a row has from the kind and the options of the run that it comes from. -/
structure Row.Answers (row : Row) (kind : Kind) (options : Options) : Prop where
  encoded : row.id.encode options.checksum = row.encoded
  kind : row.id.kind = kind
  tenant : row.id.fields.tenant = options.tenant
  shard : row.id.fields.shard = options.shard
  bucketed : row.id.fields.flags.bucketed = true ↔ 0 < options.bucketSeconds.toNat

/-- A call with a valid kind and with entropy makes an identifier. -/
theorem exists_generate (generator : Generator) {kind : Kind} (call : Call)
    (named : kind.name = call.kind) {entropy : BitVec 64}
    (read : call.reading.entropy = .ok entropy) :
    ∃ id after, generator.generate call = (.ok (id.encode call.options.checksum), after) ∧
      call.Makes id := by
  have found : Kind.ofString? call.kind = some kind := Kind.ofString?_eq_some_iff.mpr named
  have made : generator.generateId call =
      (.ok (call.identifier kind (generator.sequence.next call.time).1 entropy),
        ⟨(generator.sequence.next call.time).2⟩) := by
    rw [Generator.generateId_of_valid found, read]
    rfl
  refine ⟨_, (generator.generateId call).2, ?_,
    (Generator.makes_of_generateId (congrArg Prod.fst made)).1⟩
  rw [Generator.generate, made]
  rfl

variable {readings : Nat → Reading}

theorem exists_generateRows (kind : Kind) (options : Options) (count : Nat)
    (generator : Generator) (index : Nat)
    (read : ∀ place < count, ∃ entropy, (readings (index + place)).entropy = .ok entropy) :
    ∃ rows, generateRows kind.name options readings generator index count = .ok rows ∧
      rows.length = count ∧ ∀ row ∈ rows, row.Answers kind options := by
  induction count generalizing generator index with
  | zero => exact ⟨[], rfl, rfl, List.forall_mem_nil _⟩
  | succ count ih =>
      rcases read 0 (Nat.succ_pos count) with ⟨entropy, readNow⟩
      rcases exists_generate generator ⟨kind.name, options, readings index⟩ rfl readNow with
        ⟨id, after, made, makes⟩
      have readLater : ∀ place < count,
          ∃ entropy, (readings (index + 1 + place)).entropy = .ok entropy := by
        intro place early
        rw [Nat.add_assoc, Nat.add_comm 1]
        exact read (place + 1) (Nat.succ_lt_succ early)
      rcases ih after (index + 1) readLater with ⟨rows, later, length_eq, answer⟩
      refine ⟨⟨id.encode options.checksum, id⟩ :: rows, ?_, ?_, ?_⟩
      · simp only [generateRows, made, Identifier.parse_eq_ok_of_encode id rfl, later]
        rfl
      · rw [List.length_cons, length_eq]
      · rw [List.forall_mem_cons]
        exact ⟨⟨rfl, Kind.eq_of_name_eq makes.kind, makes.tenant, makes.shard, makes.bucketed_iff⟩,
          answer⟩

theorem generateRows_of_invalid {kind : String} (invalid : Kind.ofString? kind = none)
    (options : Options) (generator : Generator) (index count : Nat) :
    generateRows kind options readings generator index (count + 1) =
      .error (.id (.invalidKind kind)) := by
  have refused : generator.generateId ⟨kind, options, readings index⟩ =
      (.error (.invalidKind kind), generator) := Generator.generateId_of_invalid invalid
  simp only [generateRows, Generator.generate, refused]
  rfl

/-! ## From the command line to the printed text -/

/-- The printed row shows an identifier that is as the order and the variables ask for. -/
structure Fulfils (row : Printed) (id : Identifier) (order : Order)
    (lookup : String → Option String) : Prop where
  read : Identifier.parse row.id = .ok id
  kind : id.kind.name = order.kind
  tenant : Chosen order.tenant lookup "ORDERLYID_TENANT" id.fields.tenant
  shard :
    match order.shardFrom with
    | some key => id.fields.shard = Options.shardOfBytes (Text.utf8 key.toList)
    | none => Chosen order.shard lookup "ORDERLYID_SHARD" id.fields.shard
  checksum : EndsInChecksum row.id ↔ order.checksum = true ∨ AsksForChecksum lookup
  bucketed : ∃ seconds : BitVec 32,
    Chosen order.bucketSeconds lookup "ORDERLYID_BUCKET_SECONDS" seconds ∧
      (id.fields.flags.bucketed = true ↔ 0 < seconds.toNat)
  timeColumn : Calendar.read? row.time = some id.unixMs
  tenantColumn : row.tenant = id.fields.tenant
  shardColumn : row.shard = id.fields.shard
  seqColumn : row.seq = id.fields.seq.setWidth 16

variable {lookup : String → Option String} {order : Order} {defaults : Options}

theorem Row.Answers.fulfils {row : Row} {kind : Kind} (named : kind.name = order.kind)
    (gives : GivesOptions lookup defaults) (answers : row.Answers kind (order.options defaults)) :
    Fulfils row.printed row.id order lookup where
  read := Identifier.parse_eq_ok_of_encode row.id answers.encoded
  kind := by rw [answers.kind, named]
  tenant := by
    rw [answers.tenant]
    exact chosen_getD order.tenant gives.tenant
  shard := by
    rw [answers.shard, Order.options]
    cases order.shardFrom with
    | some key => rfl
    | none => exact chosen_getD order.shard gives.shard
  checksum := by
    rw [printed, ← answers.encoded, Identifier.endsInChecksum_encode_iff, ← gives.checksum]
    exact Bool.or_eq_true_iff
  bucketed := ⟨_, chosen_getD order.bucketSeconds gives.bucketSeconds, answers.bucketed⟩
  timeColumn := Calendar.read?_timestamp row.id.unixMs
  tenantColumn := rfl
  shardColumn := rfl
  seqColumn := rfl

/-- The run failed without printing anything. -/
structure Fails (output : Output) : Prop where
  code : output.code = 1
  stdout : output.stdout = ""

/-- The run printed as many rows as ordered, each with an identifier that fulfils the order. -/
structure Delivers (output : Output) (format : Format) (order : Order)
    (lookup : String → Option String) : Prop where
  code : output.code = 0
  rows : ∃ rows, Shows format output.stdout rows ∧ rows.length = order.count ∧
    ∀ row ∈ rows, ∃ id, Fulfils row id order lookup

/-- What keeps an order from being carried out: a variable that is not set as it should be, or a
name that is not that of a kind. -/
def Hindered (order : Order) (lookup : String → Option String) : Prop :=
  AnyMisset lookup ∨ ∀ kind : Kind, kind.name ≠ order.kind

theorem fails_of_invalid (unknown : ∀ kind : Kind, kind.name ≠ order.kind)
    (positive : 0 < order.count) (format : Format) (defaults : Options) (readings : Nat → Reading) :
    Fails (runGenerate format order defaults readings) := by
  have invalid : Kind.ofString? order.kind = none := by
    rw [Option.eq_none_iff_forall_ne_some]
    intro kind found
    exact unknown kind (Kind.ofString?_eq_some_iff.mp found)
  rcases Nat.exists_eq_succ_of_ne_zero (Nat.ne_zero_of_lt positive) with ⟨count, count_eq⟩
  rw [runGenerate, count_eq, generateRows_of_invalid invalid]
  exact ⟨rfl, rfl⟩

theorem delivers_of_valid {kind : Kind} (named : kind.name = order.kind)
    (gives : GivesOptions lookup defaults) (positive : 0 < order.count)
    (read : ∀ index < order.count, ∃ entropy, (readings index).entropy = .ok entropy)
    (format : Format) :
    Delivers (runGenerate format order defaults readings) format order lookup := by
  have readFromZero : ∀ place < order.count,
      ∃ entropy, (readings (0 + place)).entropy = .ok entropy := by
    intro place early
    rw [Nat.zero_add]
    exact read place early
  rcases exists_generateRows kind (order.options defaults) order.count {} 0 readFromZero with
    ⟨rows, made, length_eq, answer⟩
  have notEmpty : rows ≠ [] := List.ne_nil_of_length_pos (by rw [length_eq]; exact positive)
  have plain : ∀ row ∈ rows, Table.Plain row.encoded := by
    intro row member
    rw [← (answer row member).encoded]
    exact row.id.plain_encode _
  rw [runGenerate, ← named, made]
  refine ⟨rfl, rows.map Row.printed, Row.shows_render notEmpty plain format, ?_, ?_⟩
  · rw [List.length_map, length_eq]
  · intro shown member
    rcases List.mem_map.mp member with ⟨row, inRows, rfl⟩
    exact ⟨row.id, (answer row inRows).fulfils named gives⟩

namespace Ids

/-- Variables of which two hold numbers, one of them with a plus sign. -/
def twoVariables (name : String) : Option String :=
  if name = "ORDERLYID_TENANT" then "+7"
  else if name = "ORDERLYID_BUCKET_SECONDS" then "60"
  else none

/-- A clock that stands still, with working entropy. -/
def stillReadings (index : Nat) : Reading where
  nowMs := 1757869157707
  entropy := .ok (BitVec.ofNat 64 index)

/-- The words of a command line that overrides a bucket by zero and takes its shard from a key. -/
def orderWords : List String :=
  ["generate", "order", "-n", "2", "--bucket=0", "--shard-from", "ab", "--checksum"]

/-- The order that these words state. -/
def orderOfWords : Order where
  kind := "order"
  shardFrom := some "ab"
  checksum := true
  bucketSeconds := some 0
  count := 2

end Ids

end Program

end SortableId
