import SortableId.Proofs.Reading

/-!
# The grammar of written identifiers

A spelling is the parts of a written identifier, described without the reader: which characters
may stand where, and which number the payload writes in base 32.  The main statement says that the
reader accepts exactly the spellings, in any white space, and returns what they denote.
-/

namespace SortableId

/-- The value of a character as a digit in base 32: letters that look like a digit count as that
digit, and any other character counts as its place in the alphabet, in either case. -/
def Symbol.digit (c : Char) : Nat :=
  if c ∈ ['i', 'I', 'l', 'L'] then 1
  else if c ∈ ['o', 'O'] then 0
  else alphabet.idxOf c.toLower

/-- The number that a payload writes in base 32, most significant digit first. -/
def Payload.numeral (payload : List Char) : Nat :=
  payload.foldl (fun number c => number * 32 + Symbol.digit c) 0

/-- The parts of a written identifier: the name of a kind, the payload, and what stands behind the
hyphen if there is one. -/
structure Spelling where
  name : List Char
  payload : List Char
  suffix : Option (List Char)
  deriving DecidableEq

namespace Spelling

def base (spelling : Spelling) : List Char := spelling.name ++ '_' :: spelling.payload

def chars (spelling : Spelling) : List Char :=
  match spelling.suffix with
  | none => spelling.base
  | some given => spelling.base ++ '-' :: given

/-- What the grammar asks of the parts. -/
structure WellFormed (spelling : Spelling) : Prop where
  /-- The name is a lowercase letter and one to thirty lowercase letters or digits. -/
  name : ∃ first rest, spelling.name = first :: rest ∧ first.isLower = true ∧
    (∀ c ∈ rest, c.isLower = true ∨ c.isDigit = true) ∧ 1 ≤ rest.length ∧ rest.length ≤ 30
  length_payload : spelling.payload.length = 32
  /-- The payload consists of ASCII letters and digits other than `u`. -/
  payload : ∀ c ∈ spelling.payload, c.isAlphanum = true ∧ c ≠ 'u' ∧ c ≠ 'U'
  /-- The suffix is the checksum of what stands before it, in any mixture of cases. -/
  suffix : ∀ given ∈ spelling.suffix, given.length = 4 ∧
    ∃ checksum, Checksum.compute spelling.base = .ok checksum ∧
      given.map Char.toLower = checksum.toChars.map Char.toLower

/-- The text is the spelling with any white space around it. -/
def StandsIn (spelling : Spelling) (input : String) : Prop :=
  ∃ front back, input.toList = front ++ spelling.chars ++ back ∧
    (∀ c ∈ front, Text.Blank.isBlank c = true) ∧ ∀ c ∈ back, Text.Blank.isBlank c = true

/-- The identifier has the kind of that name, and its fields are those of the number that the
payload writes; its instant counts from the epoch. -/
structure Denotes (spelling : Spelling) (id : Identifier) : Prop where
  kind : id.kind.name.toList = spelling.name
  fields : id.fields.number = Payload.numeral spelling.payload
  unixMs : id.unixMs = Time.epochMs + Payload.numeral spelling.payload / 2 ^ 112

end Spelling

/-! ## Digits -/

theorem Symbol.toNat_of_ofChar?_eq_some {c : Char} {symbol : Symbol}
    (found : ofChar? c = some symbol) : symbol.toNat = digit c := by
  have ascii : c.toNat < 128 := by
    apply toNat_lt_of_accepted
    rw [Accepted, found]
    rfl
  have check := Text.of_ascii
    (fun c => ((ofChar? c).all fun symbol => symbol.toNat == digit c) = true)
    (by decide +kernel) ascii
  rw [found] at check
  exact beq_iff_eq.mp check

namespace Payload

/-- A payload writes the number of its symbols. -/
theorem numeral_eq_number {payload : List Char} {symbols : List Symbol}
    (read : payload.map Symbol.ofChar? = symbols.map some) :
    numeral payload = Chunks.number symbols := by
  have continued (start : Nat) :
      payload.foldl (fun number c => number * 32 + Symbol.digit c) start =
        symbols.foldl (fun number symbol => number * 2 ^ 5 + symbol.toNat) start := by
    induction payload generalizing symbols start with
    | nil =>
        cases symbols with
        | nil => rfl
        | cons => simp at read
    | cons c rest ih =>
        cases symbols with
        | nil => simp at read
        | cons symbol symbols =>
            rw [List.map_cons, List.map_cons, List.cons.injEq] at read
            rw [List.foldl_cons, List.foldl_cons, Symbol.toNat_of_ofChar?_eq_some read.1]
            exact ih read.2 _
  exact continued 0

/-- Items that all stand for a symbol, be they characters or bytes. -/
theorem exists_symbols {Item : Type} {lookUp : Item → Option Symbol} {items : List Item}
    (accepted : ∀ item ∈ items, (lookUp item).isSome) :
    ∃ symbols : List Symbol, items.map lookUp = symbols.map some := by
  induction items with
  | nil => exact ⟨[], rfl⟩
  | cons item rest ih =>
      rcases Option.isSome_iff_exists.mp (accepted item (by simp)) with ⟨symbol, found⟩
      rcases ih fun other member => accepted other (by simp [member]) with ⟨symbols, read⟩
      exact ⟨symbol :: symbols, by rw [List.map_cons, List.map_cons, found, read]⟩

/-- A payload is decoded exactly when it has 32 accepted characters, and gives the body of the
number that they write. -/
theorem decode_eq_ok_iff_numeral {payload : List Char} {body : Body} :
    decode payload = .ok body ↔
      payload.length = 32 ∧ (∀ c ∈ payload, Symbol.Accepted c) ∧
        body.toNat = numeral payload := by
  rw [decode_eq_ok_iff]
  constructor
  · intro decoded
    rcases decoded with ⟨length_eq, read⟩
    refine ⟨length_eq, accepted_of_map_eq read, ?_⟩
    rw [numeral_eq_number read, Body.number_symbols]
  · intro written
    rcases written with ⟨length_eq, accepted, number_eq⟩
    rcases exists_symbols accepted with ⟨symbols, read⟩
    have same : symbols = body.symbols := by
      apply Chunks.number_injective
      · rw [← length_eq_of_map_eq read, length_eq, Body.length_symbols]
        rfl
      · rw [Body.number_symbols, number_eq, numeral_eq_number read]
    rw [← same]
    exact ⟨length_eq, read⟩

end Payload

theorem Kind.accepts_iff {name : List Char} :
    accepts name = true ↔ ∃ first rest, name = first :: rest ∧ first.isLower = true ∧
      (∀ c ∈ rest, c.isLower = true ∨ c.isDigit = true) ∧
        1 ≤ rest.length ∧ rest.length ≤ 30 := by
  cases name with
  | nil => simp [accepts]
  | cons first rest => simp [accepts, and_assoc]

theorem Kind.lower_or_digit_of_accepts {name : List Char} (wellFormed : accepts name = true) :
    ∀ c ∈ name, c.isLower = true ∨ c.isDigit = true := by
  rcases accepts_iff.mp wellFormed with ⟨first, rest, rfl, head, tail, _⟩
  intro c member
  rcases List.mem_cons.mp member with rfl | later
  · exact .inl head
  · exact tail c later

namespace Spelling

/-! ## Spellings and the reader -/

theorem accepts_name {spelling : Spelling} (wellFormed : spelling.WellFormed) :
    Kind.accepts spelling.name = true :=
  Kind.accepts_iff.mpr wellFormed.name

theorem accepted_payload {spelling : Spelling} (wellFormed : spelling.WellFormed) :
    ∀ c ∈ spelling.payload, Symbol.Accepted c := by
  intro c member
  exact Symbol.accepted_iff.mpr (wellFormed.payload c member)

/-- Nothing but letters, digits and the underscore stands before the checksum. -/
theorem isAlphanum_or_eq_of_mem_base {spelling : Spelling} (wellFormed : spelling.WellFormed)
    {c : Char} (member : c ∈ spelling.base) : c.isAlphanum = true ∨ c = '_' := by
  rcases List.mem_append.mp member with inName | inRest
  · exact .inl (Kind.isAlphanum_of_accepts (accepts_name wellFormed) c inName)
  · rcases List.mem_cons.mp inRest with equal | inPayload
    · exact .inr equal
    · exact .inl (wellFormed.payload c inPayload).1

/-- Beside letters and digits only the two separators occur in a spelling. -/
theorem isAlphanum_or_eq_of_mem_chars {spelling : Spelling} (wellFormed : spelling.WellFormed)
    {c : Char} (member : c ∈ spelling.chars) : c.isAlphanum = true ∨ c = '_' ∨ c = '-' := by
  have inBase (within : c ∈ spelling.base) : c.isAlphanum = true ∨ c = '_' ∨ c = '-' :=
    (isAlphanum_or_eq_of_mem_base wellFormed within).imp_right .inl
  unfold chars at member
  cases suffixEq : spelling.suffix with
  | none =>
      rw [suffixEq] at member
      exact inBase member
  | some given =>
      rw [suffixEq] at member
      rcases wellFormed.suffix given suffixEq with ⟨_, checksum, _, spelled⟩
      rw [Checksum.map_toLower_toChars] at spelled
      rcases List.mem_append.mp member with before | behind
      · exact inBase before
      · rcases List.mem_cons.mp behind with equal | inGiven
        · exact .inr (.inr equal)
        · exact .inl (Checksum.isAlphanum_of_map_toLower_eq spelled c inGiven)

theorem isBlank_of_mem_chars {spelling : Spelling} (wellFormed : spelling.WellFormed) :
    ∀ c ∈ spelling.chars, Text.Blank.isBlank c = false := by
  intro c member
  rcases isAlphanum_or_eq_of_mem_chars wellFormed member with alphanum | rfl | rfl
  · exact Text.isBlank_of_isAlphanum alphanum
  · rfl
  · rfl

theorem chars_ne_nil (spelling : Spelling) : spelling.chars ≠ [] := by
  unfold chars base
  cases spelling.suffix with
  | none => simp
  | some given => simp

/-- A text holds a spelling exactly when trimming leaves its characters. -/
theorem standsIn_iff {spelling : Spelling} (wellFormed : spelling.WellFormed) {input : String} :
    spelling.StandsIn input ↔ Text.Blank.trim input.toList = spelling.chars := by
  have visible := isBlank_of_mem_chars wellFormed
  constructor
  · intro stands
    rcases stands with ⟨front, back, shape, frontBlank, backBlank⟩
    rw [shape]
    exact Text.Blank.trim_append spelling.chars_ne_nil frontBlank backBlank
      (visible _ (List.head_mem _)) (visible _ (List.getLast_mem _))
  · intro trimmed
    have shape := Text.Blank.exists_eq_append_trim input.toList
    rw [trimmed] at shape
    exact shape

theorem hyphen_not_mem_base {spelling : Spelling} (wellFormed : spelling.WellFormed) :
    '-' ∉ spelling.base := by
  intro member
  rcases isAlphanum_or_eq_of_mem_base wellFormed member with alphanum | equal
  · contradiction
  · contradiction

/-- The checksum of a spelling is accepted, so the rest decides. -/
theorem parseTrimmed_chars {spelling : Spelling} (wellFormed : spelling.WellFormed) :
    Identifier.parseTrimmed spelling.chars = Identifier.parseBase spelling.base := by
  cases suffixEq : spelling.suffix with
  | none =>
      have chars_eq : spelling.chars = spelling.base := by rw [chars, suffixEq]
      have nonempty : spelling.base ≠ [] := by
        rw [← chars_eq]
        exact spelling.chars_ne_nil
      rw [chars_eq]
      exact Identifier.parseTrimmed_of_not_mem nonempty (hyphen_not_mem_base wellFormed)
  | some given =>
      have chars_eq : spelling.chars = spelling.base ++ '-' :: given := by rw [chars, suffixEq]
      rcases wellFormed.suffix given suffixEq with ⟨_, checksum, computed, spelled⟩
      rw [Checksum.map_toLower_toChars] at spelled
      rw [chars_eq]
      exact Identifier.parseTrimmed_of_checkSuffix
        (Identifier.checkSuffix_eq_ok_iff.mpr ⟨checksum, computed, spelled⟩)

theorem decode_payload_iff {spelling : Spelling} (wellFormed : spelling.WellFormed)
    {id : Identifier} :
    Payload.decode spelling.payload = .ok id.body ↔
      id.fields.number = Payload.numeral spelling.payload := by
  rw [Payload.decode_eq_ok_iff_numeral, Identifier.body, Fields.toNat_pack]
  constructor
  · intro decoded
    exact decoded.2.2
  · intro number_eq
    exact ⟨wellFormed.length_payload, accepted_payload wellFormed, number_eq⟩

theorem unixMs_eq (id : Identifier) : id.unixMs = Time.epochMs + id.fields.number / 2 ^ 112 := by
  have bounds := id.fields.toNat_lt
  rw [Identifier.unixMs, Time.toUnixMs, Fields.number]
  omega

/-- The rest of a spelling is read as what the spelling denotes. -/
theorem parseBase_eq_ok_iff_denotes {spelling : Spelling} (wellFormed : spelling.WellFormed)
    {id : Identifier} :
    Identifier.parseBase spelling.base = .ok id ↔ spelling.Denotes id := by
  rw [Identifier.parseBase_eq_ok_iff]
  constructor
  · intro read
    rcases read with ⟨payload, shape, decoded⟩
    -- Both texts are split at the same underscore.
    have parts := Kind.splitFirst_of_accepts spelling.payload (accepts_name wellFormed)
    rw [base] at shape
    rw [shape, Kind.splitFirst_of_accepts payload id.kind.wellFormed, Option.some.injEq,
      Prod.mk.injEq] at parts
    rw [parts.2, decode_payload_iff wellFormed] at decoded
    exact ⟨parts.1, decoded, by rw [unixMs_eq, decoded]⟩
  · intro denotes
    refine ⟨spelling.payload, ?_, (decode_payload_iff wellFormed).mpr denotes.fields⟩
    rw [denotes.kind]
    rfl

theorem exists_denotes {spelling : Spelling} (wellFormed : spelling.WellFormed) :
    ∃ id, spelling.Denotes id := by
  rcases Payload.exists_symbols (accepted_payload wellFormed) with ⟨symbols, read⟩
  have bound : Payload.numeral spelling.payload < 2 ^ 160 := by
    rw [Payload.numeral_eq_number read]
    have limit := Chunks.number_lt symbols
    rw [← Payload.length_eq_of_map_eq read, wellFormed.length_payload] at limit
    exact limit
  have named : Kind.accepts (String.ofList spelling.name).toList = true := by
    rw [String.toList_ofList]
    exact accepts_name wellFormed
  let id : Identifier :=
    ⟨⟨String.ofList spelling.name, named⟩,
      Fields.unpack (BitVec.ofNat 160 (Payload.numeral spelling.payload))⟩
  have number_eq : id.fields.number = Payload.numeral spelling.payload := by
    rw [Fields.number_unpack, BitVec.toNat_ofNat]
    exact Nat.mod_eq_of_lt bound
  exact ⟨id, String.toList_ofList, number_eq, by rw [unixMs_eq, number_eq]⟩

/-- What is read consists of the parts of a spelling. -/
theorem exists_of_parseTrimmed {text : List Char} {id : Identifier}
    (read : Identifier.parseTrimmed text = .ok id) :
    ∃ spelling : Spelling, spelling.WellFormed ∧ text = spelling.chars := by
  rcases Identifier.exists_base_of_parseTrimmed read with ⟨base, readBase, parts⟩
  rcases Identifier.parseBase_eq_ok_iff.mp readBase with ⟨payload, shape, decoded⟩
  rcases Payload.decode_eq_ok_iff_numeral.mp decoded with ⟨length_eq, accepted, _⟩
  have letters : ∀ c ∈ payload, c.isAlphanum = true ∧ c ≠ 'u' ∧ c ≠ 'U' := by
    intro c member
    exact Symbol.accepted_iff.mp (accepted c member)
  have named := Kind.accepts_iff.mp id.kind.wellFormed
  rcases parts with alone | withSuffix
  · refine ⟨⟨id.kind.name.toList, payload, none⟩, ⟨named, length_eq, letters, ?_⟩, ?_⟩
    · intro given absent
      contradiction
    · rw [alone, shape]
      rfl
  · rcases withSuffix with ⟨given, whole, checked⟩
    rcases Identifier.checkSuffix_eq_ok_iff.mp checked with ⟨checksum, computed, spelled⟩
    refine ⟨⟨id.kind.name.toList, payload, some given⟩, ⟨named, length_eq, letters, ?_⟩, ?_⟩
    · intro found present
      cases present
      refine ⟨?_, checksum, ?_, ?_⟩
      · exact Checksum.length_of_map_toLower_eq spelled
      · rw [← computed, shape]
        rfl
      · rw [spelled, Checksum.map_toLower_toChars]
    · rw [whole, shape]
      rfl

theorem parse_eq_ok_iff {spelling : Spelling} (wellFormed : spelling.WellFormed)
    {input : String} (stands : spelling.StandsIn input) {id : Identifier} :
    Identifier.parse input = .ok id ↔ spelling.Denotes id := by
  rw [Identifier.parse, (standsIn_iff wellFormed).mp stands, parseTrimmed_chars wellFormed]
  exact parseBase_eq_ok_iff_denotes wellFormed

/-- What is read is, inside its white space, a spelling that denotes the identifier. -/
theorem exists_of_parse {input : String} {id : Identifier}
    (read : Identifier.parse input = .ok id) :
    ∃ spelling : Spelling, spelling.WellFormed ∧
      Text.Blank.trim input.toList = spelling.chars ∧ spelling.Denotes id := by
  rcases exists_of_parseTrimmed read with ⟨spelling, wellFormed, shape⟩
  have stands := (standsIn_iff wellFormed).mpr shape
  exact ⟨spelling, wellFormed, shape, (parse_eq_ok_iff wellFormed stands).mp read⟩

end Spelling

/-- The reader accepts exactly the spellings in any white space, and reads a spelling as the
identifier that it denotes. -/
theorem Identifier.parse_spelling (input : String) :
    ((∃ id, parse input = .ok id) ↔
      ∃ spelling : Spelling, spelling.WellFormed ∧ spelling.StandsIn input) ∧
    ∀ (spelling : Spelling) (id : Identifier), spelling.WellFormed → spelling.StandsIn input →
      (parse input = .ok id ↔ spelling.Denotes id) := by
  constructor
  · constructor
    · intro accepted
      rcases accepted with ⟨id, read⟩
      rcases Spelling.exists_of_parseTrimmed read with ⟨spelling, wellFormed, shape⟩
      exact ⟨spelling, wellFormed, (Spelling.standsIn_iff wellFormed).mpr shape⟩
    · intro spelled
      rcases spelled with ⟨spelling, wellFormed, stands⟩
      rcases Spelling.exists_denotes wellFormed with ⟨id, denotes⟩
      exact ⟨id, (Spelling.parse_eq_ok_iff wellFormed stands).mpr denotes⟩
  · intro spelling id wellFormed stands
    exact Spelling.parse_eq_ok_iff wellFormed stands

/-- A spelling in both cases, with letters for zeros. -/
def Spelling.mixedCase : Spelling where
  name := "order".toList
  payload := "OoMYNGY59C0003000DFK59MG3E36J3rr".toList
  suffix := some "9XgG".toList

theorem Spelling.wellFormed_mixedCase : mixedCase.WellFormed where
  name := Kind.accepts_iff.mp (by decide)
  length_payload := by decide
  payload := by
    have check : mixedCase.payload.all
        (fun c => decide (c.isAlphanum = true ∧ c ≠ 'u' ∧ c ≠ 'U')) = true := by decide
    intro c member
    exact of_decide_eq_true (List.all_eq_true.mp check c member)
  suffix := by
    intro given present
    cases present
    exact ⟨by decide, 325136, by decide +kernel, by decide⟩

theorem Spelling.standsIn_mixedCase :
    mixedCase.StandsIn "\u3000order_OoMYNGY59C0003000DFK59MG3E36J3rr-9XgG\n" :=
  ⟨['\u3000'], ['\n'], by decide, List.all_eq_true.mp (by decide), List.all_eq_true.mp (by decide)⟩

/-- Padding, case and look-alike letters do not hide an identifier. -/
theorem Identifier.parse_spelling_mixedCase :
    Spelling.mixedCase.WellFormed ∧
      Spelling.mixedCase.StandsIn "\u3000order_OoMYNGY59C0003000DFK59MG3E36J3rr-9XgG\n" ∧
      ∃ id, parse "\u3000order_OoMYNGY59C0003000DFK59MG3E36J3rr-9XgG\n" = .ok id ∧
        Spelling.mixedCase.Denotes id := by
  have stands := Spelling.standsIn_mixedCase
  have wellFormed := Spelling.wellFormed_mixedCase
  obtain ⟨accepted, read⟩ :=
    parse_spelling "\u3000order_OoMYNGY59C0003000DFK59MG3E36J3rr-9XgG\n"
  rcases accepted.mpr ⟨Spelling.mixedCase, wellFormed, stands⟩ with ⟨id, parsed⟩
  exact ⟨wellFormed, stands, id, parsed, (read _ id wellFormed stands).mp parsed⟩

end SortableId
