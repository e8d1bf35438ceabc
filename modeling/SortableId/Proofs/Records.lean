import SortableId.Calendar
import SortableId.Identifier.Record
import SortableId.Proofs.Directions
import SortableId.Proofs.Histories

/-!
# Records that identifiers can have

A record of machine words can hold values that no identifier has.  The records of identifiers are
those with a well-formed kind, an instant that 48 bits can count from the epoch, and words that fit
into the fields; every constructor stays within them and every one of them is constructed.  The
argument goes through the exact fields: each constructor puts the words of some fields together,
and on the words of fields no machine operation wraps or drops a bit.
-/

namespace SortableId

/-! ## Words that hold fields -/

theorem toNat_and_mask {width low : Nat} {mask : BitVec width}
    (ones : mask.toNat = 2 ^ low - 1) (word : BitVec width) :
    (word &&& mask).toNat = word.toNat % 2 ^ low := by
  rw [BitVec.toNat_and, ones, Nat.and_two_pow_sub_one_eq_mod]

/-- Masking a word cuts it down to the bits of the mask. -/
theorem and_eq_setWidth {width low : Nat} {mask : BitVec width}
    (ones : mask.toNat = 2 ^ low - 1) (word : BitVec width) :
    word &&& mask = (word.setWidth low).setWidth width := by
  apply BitVec.eq_of_toNat_eq
  have fits : word.toNat % 2 ^ low < 2 ^ width :=
    Nat.lt_of_le_of_lt (Nat.mod_le _ _) word.isLt
  rw [toNat_and_mask ones, BitVec.toNat_setWidth, BitVec.toNat_setWidth, Nat.mod_eq_of_lt fits]

/-- A word that fits into a field is the same after it is cut down to it. -/
theorem setWidth_setWidth_of_lt {width low : Nat} {word : BitVec width}
    (fits : word.toNat < 2 ^ low) : (word.setWidth low).setWidth width = word := by
  apply BitVec.eq_of_toNat_eq
  rw [BitVec.toNat_setWidth, BitVec.toNat_setWidth, Nat.mod_eq_of_lt fits,
    Nat.mod_eq_of_lt word.isLt]

namespace Time

theorem toNat_epochWord : epochWord.toNat = epochMs := rfl

theorem toNat_sinceEpoch (unixMs : BitVec 64) :
    (sinceEpoch unixMs).toNat = unixMs.toNat - epochMs := by
  unfold sinceEpoch
  split
  case isTrue before =>
    have before : unixMs.toNat < epochMs := before
    rw [Nat.sub_eq_zero_of_le (Nat.le_of_lt before)]
    rfl
  case isFalse after =>
    have after : epochWord ≤ unixMs := BitVec.not_lt.mp after
    rw [BitVec.toNat_sub_of_le after, toNat_epochWord]

/-- The masked time of an instant is the word of its time. -/
theorem sinceEpoch_and_timeMask (unixMs : BitVec 64) :
    sinceEpoch unixMs &&& Words.timeMask = (ofUnixMs unixMs).setWidth 64 := by
  have masked : sinceEpoch unixMs &&& Words.timeMask =
      ((sinceEpoch unixMs).setWidth 48).setWidth 64 := and_eq_setWidth rfl _
  have time_eq : (sinceEpoch unixMs).setWidth 48 = ofUnixMs unixMs := by
    rw [ofUnixMs, ← toNat_sinceEpoch, BitVec.ofNat_toNat]
  rw [masked, time_eq]

/-- The instant of a time does not overflow a machine word. -/
theorem toNat_ofNat_toUnixMs (time : Time) :
    (BitVec.ofNat 64 time.toUnixMs).toNat = time.toUnixMs := by
  have bound := time.toUnixMs_lt
  have small : endMs < 2 ^ 64 := by decide
  rw [BitVec.toNat_ofNat, Nat.mod_eq_of_lt (Nat.lt_trans bound small)]

theorem ofUnixMs_toUnixMs (time : Time) : ofUnixMs (BitVec.ofNat 64 time.toUnixMs) = time :=
  ofUnixMs_of_toUnixMs_eq (toNat_ofNat_toUnixMs time).symm

end Time

namespace Fields

/-- What was widened is cut down to the same. -/
theorem truncate_words (fields : Fields) :
    truncate fields.words.time fields.words.flags fields.words.tenant fields.words.seq
      fields.words.shard fields.words.random = fields := by
  cases fields
  simp [truncate, words]

theorem pack_words (fields : Fields) : fields.words.pack = fields.pack := by
  rw [Words.pack, truncate_words]

theorem unpack_pack_words (fields : Fields) : Words.unpack fields.pack = fields.words := by
  rw [Words.unpack, unpack_pack]

end Fields

/-! ## The record of an identifier -/

namespace Identifier

theorem toNat_unixMs_record (id : Identifier) : id.record.unixMs.toNat = id.unixMs :=
  Time.toNat_ofNat_toUnixMs id.fields.time

theorem toNat_time_words (id : Identifier) : id.fields.words.time.toNat = id.fields.time.toNat :=
  BitVec.toNat_setWidth_of_le (by decide)

/-- The epoch and the time of an identifier add up to its instant, within the word. -/
theorem uaddOverflow_time (id : Identifier) :
    BitVec.uaddOverflow Time.epochWord id.fields.words.time = false := by
  have inWord := id.record.unixMs.isLt
  rw [toNat_unixMs_record] at inWord
  rw [BitVec.uaddOverflow, toNat_time_words]
  exact decide_eq_false (Nat.not_le_of_lt inWord)

theorem epochWord_add_time (id : Identifier) :
    Time.epochWord + id.fields.words.time = id.record.unixMs := by
  apply BitVec.eq_of_toNat_eq
  have inWord := id.record.unixMs.isLt
  rw [toNat_unixMs_record] at inWord
  rw [BitVec.toNat_add, toNat_time_words, toNat_unixMs_record]
  exact Nat.mod_eq_of_lt inWord

theorem ofWords_words (id : Identifier) :
    Record.ofWords id.kind.name id.fields.words = id.record := by
  rw [Record.ofWords, epochWord_add_time]
  rfl

theorem words_record (id : Identifier) : id.record.words = id.fields.words := by
  rw [Record.words, ← epochWord_add_time, BitVec.add_comm, BitVec.add_sub_cancel]
  rfl

theorem body_record (id : Identifier) : id.record.body = id.body := by
  rw [Record.body, words_record, Fields.pack_words, body]

theorem ofComponents_components_record (id : Identifier) :
    ofComponents id.record.components = .ok id := by
  have fields_eq : id.record.components.fields = id.fields := by
    have time_eq := Time.ofUnixMs_toUnixMs id.fields.time
    rcases id with ⟨kind, fields⟩
    cases fields
    simpa [Components.fields, Record.components, record, unixMs] using time_eq
  have named : Kind.ofString? id.record.components.kind = some id.kind :=
    Kind.ofString?_name id.kind
  simp only [ofComponents, named, fields_eq]

end Identifier

/-! ## Constructors -/

theorem Components.words_eq (components : Components) :
    components.words = components.fields.words := by
  simp only [words, Fields.words, fields, Time.sinceEpoch_and_timeMask, Words.mk.injEq]
  exact ⟨trivial, trivial, trivial, and_eq_setWidth rfl _, trivial, and_eq_setWidth rfl _⟩

/-- The time and the flags of a call are those of its instant and its bucket. -/
theorem Call.stamp_eq (call : Call) :
    Generator.stamp call.options call.reading.nowMs = (Time.ofUnixMs call.instant,
      if call.options.bucketMs.isSome then Flags.first.withBucketed else .first) := by
  cases bucket : call.options.bucketMs with
  | none => simp only [Generator.stamp, instant, bucket]; rfl
  | some width => simp only [Generator.stamp, instant, bucket]; rfl

theorem Generator.random_of_generateId {generator : Generator} {call : Call} {id : Identifier}
    {entropy : BitVec 64} (read : call.reading.entropy = .ok entropy)
    (made : (generator.generateId call).1 = .ok id) :
    id.fields.random = entropy.setWidth 60 := by
  cases named : Kind.ofString? call.kind with
  | none =>
      rw [generateId_of_invalid named] at made
      contradiction
  | some kind =>
      rw [generateId_of_valid named, read] at made
      cases Except.ok.inj made
      rfl

theorem Call.words_eq {generator : Generator} {call : Call} {id : Identifier}
    {entropy : BitVec 64} (read : call.reading.entropy = .ok entropy)
    (made : (generator.generateId call).1 = .ok id) :
    call.words id.fields.seq entropy = id.fields.words := by
  have makes := (Generator.makes_of_generateId made).1
  have time_eq : id.fields.time = Time.ofUnixMs call.instant := by
    rw [makes.time, time, stamp_eq]
  have flags_eq : id.fields.flags =
      if call.options.bucketMs.isSome then Flags.first.withBucketed else .first := by
    rw [makes.flags, stamp_eq]
  have random_eq : entropy &&& Words.randomMask = (entropy.setWidth 60).setWidth 64 :=
    and_eq_setWidth rfl _
  rw [words, Fields.words, Time.sinceEpoch_and_timeMask, ← time_eq, ← flags_eq, makes.tenant,
    makes.shard, random_eq, Generator.random_of_generateId read made]

namespace Identifier

/-- An identifier comes out of one of the constructors, which puts the given words behind the given
name: those of the components, those of the body that was read, or those of the call. -/
inductive Constructed : Identifier → String → Words → Prop
  | ofComponents (components : Components) {id : Identifier}
      (made : Identifier.ofComponents components = .ok id) :
      Constructed id components.kind components.words
  | parse (input : String) {id : Identifier} (read : Identifier.parse input = .ok id) :
      Constructed id id.kind.name (Words.unpack id.body)
  | generateId (generator : Generator) (call : Call) {id : Identifier} {entropy : BitVec 64}
      (read : call.reading.entropy = .ok entropy)
      (made : (generator.generateId call).1 = .ok id) :
      Constructed id call.kind (call.words id.fields.seq entropy)

/-- A constructor puts the words of the fields behind the name of the kind. -/
theorem Constructed.eq {id : Identifier} {name : String} {words : Words}
    (constructed : Constructed id name words) : name = id.kind.name ∧ words = id.fields.words := by
  cases constructed with
  | ofComponents components made =>
      unfold Identifier.ofComponents at made
      split at made
      · contradiction
      · next kind named =>
          cases Except.ok.inj made
          exact ⟨(Kind.ofString?_eq_some_iff.mp named).symm, components.words_eq⟩
  | parse input read => exact ⟨rfl, Fields.unpack_pack_words id.fields⟩
  | generateId generator call read made =>
      exact ⟨(Generator.makes_of_generateId made).1.kind.symm, Call.words_eq read made⟩

end Identifier

/-! ## The last year -/

namespace Date

/-- The last day that 48 bits can count lies in August 10939. -/
theorem year_le_of_day_le {unixDay : Nat} (counted : unixDay ≤ 3276074) :
    (ofUnixDay unixDay).year ≤ 10939 := by
  unfold ofUnixDay ofMarch daysBeforeUnix
  dsimp only
  split <;> split <;> omega

theorem year_le_of_lt_endMs {unixMs : Nat} (inRange : unixMs < Time.endMs) :
    (ofUnixDay (unixMs / 86400000)).year ≤ 10939 := by
  apply year_le_of_day_le
  unfold Time.endMs Time.epochMs at inRange
  omega

end Date

/-- A calendar has every instant from 1970 on to the end of the given year. -/
def Calendar.Covers {Instant : Type} (year : Nat) (ofMillis : Int → Option Instant) : Prop :=
  ∀ unixMs : Nat, (Date.ofUnixDay (unixMs / 86400000)).year ≤ year → (ofMillis unixMs).isSome

/-! ## Well-formed records -/

namespace Record

/-- What the words of a record must satisfy to be those of an identifier. -/
structure WellFormed (record : Record) : Prop where
  /-- The name is a lowercase letter and one to thirty lowercase letters or digits. -/
  kind : ∃ first rest, record.kind.toList = first :: rest ∧ first.isLower = true ∧
    (∀ c ∈ rest, c.isLower = true ∨ c.isDigit = true) ∧ 1 ≤ rest.length ∧ rest.length ≤ 30
  fromEpoch : Time.epochMs ≤ record.unixMs.toNat
  inRange : record.unixMs.toNat < Time.epochMs + 2 ^ 48
  seq : record.seq.toNat < 4096
  random : record.random.toNat < 2 ^ 60

theorem wellFormed_record (id : Identifier) : id.record.WellFormed where
  kind := Kind.accepts_iff.mp id.kind.wellFormed
  fromEpoch := by
    rw [id.toNat_unixMs_record]
    exact id.fields.time.epochMs_le_toUnixMs
  inRange := by
    rw [id.toNat_unixMs_record]
    exact id.fields.time.toUnixMs_lt
  seq := by
    have seq_eq : id.record.seq.toNat = id.fields.seq.toNat :=
      BitVec.toNat_setWidth_of_le (by decide)
    rw [seq_eq]
    exact id.fields.seq.isLt
  random := by
    have random_eq : id.record.random.toNat = id.fields.random.toNat :=
      BitVec.toNat_setWidth_of_le (by decide)
    rw [random_eq]
    exact id.fields.random.isLt

/-- A well-formed record is that of an identifier. -/
theorem exists_record_eq {record : Record} (wellFormed : record.WellFormed) :
    ∃ id : Identifier, id.record = record := by
  have accepted := Kind.accepts_iff.mpr wellFormed.kind
  have unixMs_eq := Time.toUnixMs_ofUnixMs wellFormed.fromEpoch wellFormed.inRange
  have seq_eq : (record.seq.setWidth 12).setWidth 16 = record.seq :=
    setWidth_setWidth_of_lt wellFormed.seq
  have random_eq : (record.random.setWidth 60).setWidth 64 = record.random :=
    setWidth_setWidth_of_lt wellFormed.random
  refine ⟨⟨⟨record.kind, accepted⟩, record.components.fields⟩, ?_⟩
  cases record
  simp_all [Identifier.record, Identifier.unixMs, Components.fields, components]

/-- No operation on a record wraps, drops a bit or falls back on a default. -/
structure Safe {Instant : Type} (ofMillis : Int → Option Instant) (last : Instant)
    (record : Record) : Prop where
  noUnderflow : BitVec.usubOverflow record.unixMs Time.epochWord = false
  noOverflow : BitVec.uaddOverflow Time.epochWord record.words.time = false
  reassembled : ofWords record.kind record.words = record
  untruncated : Words.unpack record.body = record.words
  instant_eq : record.instant? ofMillis = ofMillis record.unixMs.toNat
  dated : record.instant? ofMillis = some (record.createdAt ofMillis last)
  rebuilt : (Identifier.ofComponents record.components).map Identifier.record = .ok record

variable {Instant : Type} {ofMillis : Int → Option Instant}

/-- The instant of an identifier is not negative as a signed word. -/
theorem instant?_record (id : Identifier) :
    id.record.instant? ofMillis = ofMillis id.record.unixMs.toNat := by
  have inRange := (wellFormed_record id).inRange
  have signed : 2 * id.record.unixMs.toNat < 2 ^ 64 := by
    unfold Time.epochMs at inRange
    omega
  have positive : id.record.unixMs.msb = false := BitVec.msb_eq_false_iff_two_mul_lt.mpr signed
  rw [instant?, positive, BitVec.toInt_eq_toNat_of_msb positive]
  rfl

theorem safe_record (covers : Calendar.Covers 10939 ofMillis) (last : Instant) (id : Identifier) :
    id.record.Safe ofMillis last where
  noUnderflow := by
    rw [BitVec.usubOverflow, Time.toNat_epochWord]
    exact decide_eq_false (Nat.not_lt_of_le (wellFormed_record id).fromEpoch)
  noOverflow := by
    rw [id.words_record]
    exact id.uaddOverflow_time
  reassembled := by
    rw [id.words_record]
    exact id.ofWords_words
  untruncated := by
    rw [id.body_record, id.words_record]
    exact Fields.unpack_pack_words id.fields
  instant_eq := instant?_record id
  dated := by
    have covered := covers _ (Date.year_le_of_lt_endMs (wellFormed_record id).inRange)
    rcases Option.isSome_iff_exists.mp covered with ⟨instant, found⟩
    rw [createdAt, instant?_record, found]
    rfl
  rebuilt := by
    rw [id.ofComponents_components_record]
    rfl

/-- The records that constructors yield are exactly the well-formed ones, and both stated components
and written texts yield all of them.  A constructor adds the epoch to the time without overflow, and
on every record that it yields each operation keeps all bits. -/
theorem constructed_iff_wellFormed_and_safe (covers : Calendar.Covers 10939 ofMillis)
    (last : Instant) :
    (∀ record : Record, record.WellFormed ↔
        ∃ id name words, Identifier.Constructed id name words ∧ id.record = record) ∧
      (∀ record : Record, record.WellFormed →
        ∃ input id, Identifier.parse input = .ok id ∧ id.record = record) ∧
      (∀ id name words, Identifier.Constructed id name words →
        BitVec.uaddOverflow Time.epochWord words.time = false ∧ ofWords name words = id.record) ∧
      ∀ record : Record, record.WellFormed → record.Safe ofMillis last := by
  refine ⟨?_, ?_, ?_, ?_⟩
  · intro record
    constructor
    · intro wellFormed
      rcases exists_record_eq wellFormed with ⟨id, rfl⟩
      exact ⟨id, _, _, .ofComponents _ id.ofComponents_components_record, rfl⟩
    · rintro ⟨id, _, _, _, rfl⟩
      exact wellFormed_record id
  · intro record wellFormed
    rcases exists_record_eq wellFormed with ⟨id, rfl⟩
    exact ⟨id.encode false, id, id.parse_eq_ok_of_encode rfl, rfl⟩
  · intro id name words constructed
    rcases constructed.eq with ⟨rfl, rfl⟩
    exact ⟨id.uaddOverflow_time, id.ofWords_words⟩
  · intro record wellFormed
    rcases exists_record_eq wellFormed with ⟨id, rfl⟩
    exact safe_record covers last id

end Record

namespace Calendar

/-- A calendar from the year -262143 to the year 262142, whose instants are their own dates. -/
def ofMillis (unixMs : Int) : Option Int :=
  if -8334601228800000 ≤ unixMs ∧ unixMs ≤ 8210266876799999 then some unixMs else none

theorem covers_ofMillis : Covers 10939 ofMillis := by
  intro unixMs early
  have era_le : 400 * ((unixMs / 86400000 + Date.daysBeforeUnix) / 146097) ≤ 10939 := by
    refine Nat.le_trans ?_ early
    unfold Date.ofUnixDay Date.ofMarch
    dsimp only
    omega
  have reached : -8334601228800000 ≤ (unixMs : Int) ∧ (unixMs : Int) ≤ 8210266876799999 := by
    unfold Date.daysBeforeUnix at era_le
    omega
  rw [ofMillis, if_pos reached]
  rfl

end Calendar

namespace Record

/-- The record whose words are the greatest that fit. -/
def greatest : Record where
  kind := "zz"
  unixMs := 283052813510655
  flags := ⟨0xff⟩
  tenant := 0xffff
  seq := 0xfff
  shard := 0xffff
  random := 0xfffffffffffffff

theorem wellFormed_greatest : greatest.WellFormed where
  kind := Kind.accepts_iff.mp (by decide)
  fromEpoch := by decide
  inRange := by decide
  seq := by decide
  random := by decide

/-- The greatest record is safe in a calendar that ends in the year 262142. -/
theorem safe_greatest :
    Calendar.Covers 10939 Calendar.ofMillis ∧ greatest.WellFormed ∧
      greatest.Safe Calendar.ofMillis 8210266876799999 :=
  ⟨Calendar.covers_ofMillis, wellFormed_greatest,
    (constructed_iff_wellFormed_and_safe Calendar.covers_ofMillis 8210266876799999).2.2.2 greatest
      wellFormed_greatest⟩

end Record

end SortableId
