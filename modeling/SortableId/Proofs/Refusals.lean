import SortableId.Proofs.Folding

/-!
# Refusals

A text that is no identifier may be wrong in several ways at once, and is refused for one of them:
the error of the first check that finds one.  The checks are described on the parts of a text,
without the reader, and their order depends on whether a checksum is given.  A given checksum is
verified before the kind and the length of the payload are looked at, and for that the symbols are
looked at first, whatever their number.
-/

namespace SortableId

/-! ## The first byte that stands for no symbol -/

namespace Symbol

theorem ofByte?_of_le_toNat {byte : UInt8} (beyond : 128 ≤ byte.toNat) : ofByte? byte = none := by
  have notAccepted : ¬Accepted (Char.ofNat byte.toNat) := by
    intro accepted
    have ascii := toNat_lt_of_accepted accepted
    have valid : byte.toNat.isValidChar := .inl (Nat.lt_trans byte.toNat_lt (by decide))
    rw [Char.toNat_ofNat, if_pos valid] at ascii
    omega
  exact Option.not_isSome_iff_eq_none.mp notAccepted

theorem ofByte?_toUInt8 {c : Char} (ascii : c.toNat < 128) : ofByte? c.val.toUInt8 = ofChar? c :=
  Text.of_ascii (fun c => ofByte? c.val.toUInt8 = ofChar? c) (by decide +kernel) ascii

/-- The first byte of a character stands for what the character stands for. -/
theorem exists_ofByte?_eq (c : Char) (rest : List Char) :
    ∃ first others, Text.utf8 (c :: rest) = first :: others ∧ ofByte? first = ofChar? c := by
  by_cases ascii : c.toNat < 128
  · exact ⟨_, _, Text.utf8_cons_of_ascii ascii rest, ofByte?_toUInt8 ascii⟩
  · have notAccepted : ofChar? c = none :=
      Option.not_isSome_iff_eq_none.mp fun accepted => ascii (toNat_lt_of_accepted accepted)
    obtain ⟨first, others, bytes, beyond⟩ :=
      Text.exists_utf8_cons_of_le_toNat (Nat.le_of_not_lt ascii) rest
    exact ⟨first, others, bytes, (ofByte?_of_le_toNat beyond).trans notAccepted.symm⟩

theorem utf8Size_of_accepted {c : Char} (accepted : Accepted c) : c.utf8Size = 1 :=
  Text.utf8Size_of_isAlphanum (accepted_iff.mp accepted).1

end Symbol

namespace Payload

/-- The first byte of a text that stands for no symbol has the given position, and the given
character begins there. -/
structure FirstFault (text : List Char) (position : Nat) (symbol : Char) : Prop where
  byte : (Text.utf8 text).findIdx? (fun byte => (Symbol.ofByte? byte).isNone) = some position
  character : ∃ front rest, text = front ++ symbol :: rest ∧ Text.utf8Length front = position

variable {text rest : List Char} {c symbol : Char} {position : Nat}

theorem not_firstFault_nil : ¬FirstFault [] position symbol := by
  intro fault
  have found := fault.byte
  contradiction

/-- A character that stands for no symbol is itself the fault. -/
theorem firstFault_cons_of_none (absent : Symbol.ofChar? c = none) :
    FirstFault (c :: rest) position symbol ↔ position = 0 ∧ symbol = c := by
  obtain ⟨first, others, bytes, same⟩ := Symbol.exists_ofByte?_eq c rest
  have atFront : (Text.utf8 (c :: rest)).findIdx? (fun byte => (Symbol.ofByte? byte).isNone) =
      some 0 := by
    rw [bytes, List.findIdx?_cons, same, absent]
    rfl
  constructor
  · rintro ⟨byte, front, behind, shape, length⟩
    rw [atFront, Option.some.injEq] at byte
    cases front with
    | nil => exact ⟨byte.symm, (List.cons.inj shape).1.symm⟩
    | cons other front =>
        have positive := other.utf8Size_pos
        rw [Text.utf8Length_cons] at length
        omega
  · rintro ⟨rfl, rfl⟩
    exact ⟨atFront, [], rest, rfl, rfl⟩

/-- Behind a character that stands for a symbol, the fault is that of the rest, one byte on. -/
theorem firstFault_cons_of_accepted (accepted : Symbol.Accepted c) :
    FirstFault (c :: rest) position symbol ↔
      ∃ offset, position = offset + 1 ∧ FirstFault rest offset symbol := by
  have size : c.utf8Size = 1 := Symbol.utf8Size_of_accepted accepted
  have ascii := Symbol.toNat_lt_of_accepted accepted
  have bytes := Text.utf8_cons_of_ascii ascii rest
  have present : (Symbol.ofByte? c.val.toUInt8).isNone = false := by
    rw [Symbol.ofByte?_toUInt8 ascii]
    exact Option.isNone_eq_false_iff.mpr accepted
  have moved : (Text.utf8 (c :: rest)).findIdx? (fun byte => (Symbol.ofByte? byte).isNone) =
      ((Text.utf8 rest).findIdx? fun byte => (Symbol.ofByte? byte).isNone).map (· + 1) := by
    rw [bytes, List.findIdx?_cons, present]
    rfl
  constructor
  · rintro ⟨byte, front, behind, shape, length⟩
    rw [moved] at byte
    obtain ⟨offset, found, rfl⟩ := Option.map_eq_some_iff.mp byte
    cases front with
    | nil => contradiction
    | cons other front =>
        obtain ⟨rfl, restShape⟩ := List.cons.inj shape
        rw [Text.utf8Length_cons, size] at length
        exact ⟨offset, rfl, found, front, behind, restShape, by omega⟩
  · rintro ⟨offset, rfl, found, front, behind, rfl, length⟩
    refine ⟨by rw [moved, found]; rfl, c :: front, behind, rfl, ?_⟩
    rw [Text.utf8Length_cons, size, length, Nat.add_comm]

/-- Reading symbols fails exactly at the first byte that stands for none. -/
theorem readSymbols_eq_error_iff {start : Nat} {error : IdError} :
    readSymbols start text = .error error ↔
      ∃ offset symbol, FirstFault text offset symbol ∧
        error = .invalidSymbol (start + offset) symbol := by
  induction text generalizing start with
  | nil => simp [readSymbols, not_firstFault_nil]
  | cons c rest ih =>
      cases found : Symbol.ofChar? c with
      | none => simp [readSymbols, found, firstFault_cons_of_none found, eq_comm]
      | some value =>
          have accepted : Symbol.Accepted c := by rw [Symbol.Accepted, found]; rfl
          have size : c.utf8Size = 1 := Symbol.utf8Size_of_accepted accepted
          simp only [readSymbols, found, map_eq_error_iff, ih, size,
            firstFault_cons_of_accepted accepted]
          constructor
          · rintro ⟨offset, symbol, fault, rfl⟩
            exact ⟨offset + 1, symbol, ⟨offset, rfl, fault⟩, by rw [Nat.add_assoc, Nat.add_comm 1]⟩
          · rintro ⟨_, symbol, ⟨offset, rfl, fault⟩, rfl⟩
            exact ⟨offset, symbol, fault, by rw [Nat.add_assoc, Nat.add_comm 1]⟩

end Payload

/-! ## Checks and their order -/

/-- What the error of a reader can be: every cause but those of other operations. -/
inductive IdError.OfReader : IdError → Prop where
  | empty : OfReader .empty
  | missingSeparator : OfReader .missingSeparator
  | invalidKind (name : String) : OfReader (.invalidKind name)
  | payloadLength (bytes : Nat) : OfReader (.payloadLength bytes)
  | invalidSymbol (position : Nat) (symbol : Char) : OfReader (.invalidSymbol position symbol)
  | checksumLength (bytes : Nat) : OfReader (.checksumLength bytes)
  | checksumMismatch (computed : Checksum) (given : String) :
      OfReader (.checksumMismatch computed given)

namespace Refusal

/-- A text is cut at its last hyphen, if it has one: the checksum is given behind it. -/
inductive Cut : List Char → List Char → Option (List Char) → Prop where
  | whole {base : List Char} : '-' ∉ base → Cut base base none
  | atHyphen {base given : List Char} : '-' ∉ given → Cut (base ++ '-' :: given) base (some given)

/-- What can be wrong with a text. -/
inductive Check where
  | blank
  | checksumLength
  | separator
  | symbols
  | checksum
  | kind
  | payloadLength
  deriving DecidableEq

/-- The checks in the order in which their errors count, without and with a given checksum. -/
def order : Option (List Char) → List Check
  | none => [.blank, .separator, .kind, .payloadLength, .symbols]
  | some _ => [.blank, .checksumLength, .separator, .symbols, .checksum, .kind, .payloadLength]

/-- A check finds an error in a text that is cut into a base and perhaps a given checksum. -/
inductive Finds (base : List Char) (suffix : Option (List Char)) : Check → IdError → Prop where
  | blank : base = [] → suffix = none → Finds base suffix .blank .empty
  | checksumLength {given : List Char} : suffix = some given → Text.utf8Length given ≠ 4 →
      Finds base suffix .checksumLength (.checksumLength (Text.utf8Length given))
  /-- There is no underscore, or nothing before it. -/
  | separator : '_' ∉ base ∨ base.head? = some '_' →
      Finds base suffix .separator .missingSeparator
  | symbols {name payload : List Char} {position : Nat} {symbol : Char} :
      base = name ++ '_' :: payload → '_' ∉ name → Payload.FirstFault payload position symbol →
      Finds base suffix .symbols (.invalidSymbol position symbol)
  | checksum {given : List Char} {computed : Checksum} : suffix = some given →
      Checksum.compute base = .ok computed → ¬Text.CaseVariant given computed.toChars →
      Finds base suffix .checksum (.checksumMismatch computed (String.ofList given))
  | kind {name payload : List Char} : base = name ++ '_' :: payload → '_' ∉ name →
      (∀ kind : Kind, kind.name.toList ≠ name) →
      Finds base suffix .kind (.invalidKind (String.ofList name))
  | payloadLength {name payload : List Char} : base = name ++ '_' :: payload → '_' ∉ name →
      Text.utf8Length payload ≠ 32 →
      Finds base suffix .payloadLength (.payloadLength (Text.utf8Length payload))

/-- The error is the one of the first of the checks that finds any. -/
inductive First (base : List Char) (suffix : Option (List Char)) : List Check → IdError → Prop where
  | here {check : Check} {later : List Check} {error : IdError} :
      Finds base suffix check error → First base suffix (check :: later) error
  | later {check : Check} {later : List Check} {error : IdError} :
      (∀ other, ¬Finds base suffix check other) → First base suffix later error →
      First base suffix (check :: later) error

variable {base given name payload : List Char} {suffix : Option (List Char)} {error : IdError}

theorem not_first_nil : ¬First base suffix [] error := nofun

theorem first_cons_iff {check : Check} {later : List Check} :
    First base suffix (check :: later) error ↔
      Finds base suffix check error ∨
        (∀ other, ¬Finds base suffix check other) ∧ First base suffix later error := by
  constructor
  · intro first
    cases first with
    | here found => exact .inl found
    | later silent first => exact .inr ⟨silent, first⟩
  · rintro (found | ⟨silent, first⟩)
    · exact .here found
    · exact .later silent first

/-- A check that finds nothing may be left out. -/
theorem first_cons_of_silent {check : Check} {later : List Check}
    (silent : ∀ other, ¬Finds base suffix check other) :
    First base suffix (check :: later) error ↔ First base suffix later error := by
  rw [first_cons_iff, or_iff_right (silent error), and_iff_right silent]

theorem first_singleton_iff {check : Check} :
    First base suffix [check] error ↔ Finds base suffix check error := by
  rw [first_cons_iff, or_iff_left fun last => not_first_nil last.2]

theorem first_append_iff {front back : List Check} :
    First base suffix (front ++ back) error ↔
      First base suffix front error ∨
        (∀ other, ¬First base suffix front other) ∧ First base suffix back error := by
  induction front with
  | nil => simp [not_first_nil]
  | cons check front ih =>
      simp only [List.cons_append, first_cons_iff, ih]
      grind

/-! ## Checks of a base -/

theorem finds_blank_iff : Finds base suffix .blank error ↔
    base = [] ∧ suffix = none ∧ error = .empty := by
  constructor
  · rintro ⟨empty, absent⟩
    exact ⟨empty, absent, rfl⟩
  · rintro ⟨empty, absent, rfl⟩
    exact .blank empty absent

theorem finds_separator_iff : Finds base suffix .separator error ↔
    ('_' ∉ base ∨ base.head? = some '_') ∧ error = .missingSeparator := by
  constructor
  · rintro ⟨⟩
    exact ⟨‹_›, rfl⟩
  · rintro ⟨unseparated, rfl⟩
    exact .separator unseparated

/-- A base whose first underscore stands behind a name. -/
structure Parts (base name payload : List Char) : Prop where
  shape : base = name ++ '_' :: payload
  absent : '_' ∉ name
  named : name ≠ []

theorem unseparated_or_exists_parts (base : List Char) :
    ('_' ∉ base ∨ base.head? = some '_') ∨ ∃ name payload, Parts base name payload := by
  cases found : Text.splitFirst '_' base with
  | none => exact .inl (.inl (Text.splitFirst_eq_none_iff.mp found))
  | some parts =>
      obtain ⟨shape, absent⟩ := Text.splitFirst_eq_some_iff.mp found
      by_cases named : parts.1 = []
      · exact .inl (.inr (by rw [shape, named]; rfl))
      · exact .inr ⟨parts.1, parts.2, shape, absent, named⟩

namespace Parts

theorem splitFirst_eq (parts : Parts base name payload) :
    Text.splitFirst '_' base = some (name, payload) :=
  Text.splitFirst_eq_some_iff.mpr ⟨parts.shape, parts.absent⟩

theorem eq_of_shape (parts : Parts base name payload) {otherName otherPayload : List Char}
    (shape : base = otherName ++ '_' :: otherPayload) (absent : '_' ∉ otherName) :
    otherName = name ∧ otherPayload = payload := by
  have same := parts.splitFirst_eq
  rw [Text.splitFirst_eq_some_iff.mpr ⟨shape, absent⟩, Option.some.injEq, Prod.mk.injEq] at same
  exact same

theorem separated (parts : Parts base name payload) (error : IdError) :
    ¬Finds base suffix .separator error := by
  rw [finds_separator_iff, parts.shape]
  rintro ⟨missing | front, _⟩
  · exact missing (List.mem_append_right _ List.mem_cons_self)
  · cases name with
    | nil => exact parts.named rfl
    | cons first rest =>
        rw [List.cons_append, List.head?_cons, Option.some.injEq] at front
        exact parts.absent (front ▸ List.mem_cons_self)

theorem finds_symbols_iff (parts : Parts base name payload) :
    Finds base suffix .symbols error ↔ Payload.readSymbols 0 payload = .error error := by
  rw [Payload.readSymbols_eq_error_iff]
  constructor
  · rintro ⟨⟩
    next position symbol shape absent fault =>
      obtain ⟨rfl, rfl⟩ := parts.eq_of_shape shape absent
      exact ⟨position, symbol, fault, by rw [Nat.zero_add]⟩
  · rintro ⟨position, symbol, fault, rfl⟩
    rw [Nat.zero_add]
    exact .symbols parts.shape parts.absent fault

theorem finds_kind_iff (parts : Parts base name payload) :
    Finds base suffix .kind error ↔
      Kind.ofString? (String.ofList name) = none ∧ error = .invalidKind (String.ofList name) := by
  have unknown : (∀ kind : Kind, kind.name.toList ≠ name) ↔
      Kind.ofString? (String.ofList name) = none := by
    rw [Option.eq_none_iff_forall_ne_some]
    refine forall_congr' fun kind => not_congr ?_
    rw [Kind.ofString?_ofList_eq_some_iff, eq_comm]
  rw [← unknown]
  constructor
  · rintro ⟨⟩
    next shape absent other =>
      obtain ⟨rfl, rfl⟩ := parts.eq_of_shape shape absent
      exact ⟨other, rfl⟩
  · rintro ⟨other, rfl⟩
    exact .kind parts.shape parts.absent other

theorem finds_payloadLength_iff (parts : Parts base name payload) :
    Finds base suffix .payloadLength error ↔
      Text.utf8Length payload ≠ 32 ∧ error = .payloadLength (Text.utf8Length payload) := by
  constructor
  · rintro ⟨⟩
    next shape absent other =>
      obtain ⟨rfl, rfl⟩ := parts.eq_of_shape shape absent
      exact ⟨other, rfl⟩
  · rintro ⟨other, rfl⟩
    exact .payloadLength parts.shape parts.absent other

theorem compute_eq (parts : Parts base name payload) :
    Checksum.compute base =
      (Payload.readSymbols 0 payload).map
        (Checksum.ofSymbols (Checksum.label (name.map Char.toLower))) := by
  have named := parts.named
  rw [Checksum.compute, parts.splitFirst_eq]
  cases name with
  | nil => contradiction
  | cons => rfl

theorem parseBase_eq (parts : Parts base name payload) :
    Identifier.parseBase base =
      match Kind.ofString? (String.ofList name) with
      | none => .error (.invalidKind (String.ofList name))
      | some kind => (Payload.decode payload).map fun body => ⟨kind, Fields.unpack body⟩ := by
  have named := parts.named
  rw [Identifier.parseBase, parts.splitFirst_eq]
  cases name with
  | nil => contradiction
  | cons => rfl

end Parts

/-! ## The reader -/

section Unseparated

variable (unseparated : '_' ∉ base ∨ base.head? = some '_')
include unseparated

theorem compute_of_unseparated : Checksum.compute base = .error .missingSeparator := by
  unfold Checksum.compute
  rcases unseparated with absent | front
  · rw [Text.splitFirst_eq_none_iff.mpr absent]
  · obtain ⟨rest, rfl⟩ := List.head?_eq_some_iff.mp front
    rfl

theorem parseBase_of_unseparated : Identifier.parseBase base = .error .missingSeparator := by
  unfold Identifier.parseBase
  rcases unseparated with absent | front
  · rw [Text.splitFirst_eq_none_iff.mpr absent]
  · obtain ⟨rest, rfl⟩ := List.head?_eq_some_iff.mp front
    rfl

/-- Nothing is checked behind an absent separator. -/
theorem first_separator_of_unseparated (later : List Check) :
    First base suffix (.separator :: later) error ↔ error = .missingSeparator := by
  simp [first_cons_iff, finds_separator_iff, unseparated]

end Unseparated

variable (suffix) in
theorem compute_eq_error_iff :
    Checksum.compute base = .error error ↔
      First base suffix [.separator, .symbols] error := by
  rcases unseparated_or_exists_parts base with unseparated | ⟨name, payload, parts⟩
  · rw [compute_of_unseparated unseparated, first_separator_of_unseparated unseparated,
      Except.error.injEq, eq_comm]
  · rw [first_cons_of_silent parts.separated, parts.compute_eq, map_eq_error_iff]
    rw [first_singleton_iff, parts.finds_symbols_iff]

variable (suffix) in
theorem parseBase_eq_error_iff :
    Identifier.parseBase base = .error error ↔
      First base suffix [.separator, .kind, .payloadLength, .symbols] error := by
  rcases unseparated_or_exists_parts base with unseparated | ⟨name, payload, parts⟩
  · rw [parseBase_of_unseparated unseparated, first_separator_of_unseparated unseparated,
      Except.error.injEq, eq_comm]
  · rw [first_cons_of_silent parts.separated, parts.parseBase_eq]
    simp only [first_cons_iff, parts.finds_kind_iff, parts.finds_payloadLength_iff,
      parts.finds_symbols_iff, not_first_nil]
    cases Kind.ofString? (String.ofList name) with
    | none => simp [eq_comm]
    | some kind =>
        simp only [map_eq_error_iff, Payload.decode]
        by_cases length : Text.utf8Length payload = 32
        · simp [length, Body.symbolCount, map_eq_error_iff]
        · simp [length, Body.symbolCount, eq_comm]

theorem spelledBy_iff_caseVariant {checksum : Checksum} :
    checksum.spelledBy given = true ↔ Text.CaseVariant given checksum.toChars := by
  rw [Checksum.spelledBy_iff, Text.caseVariant_iff (Checksum.map_toLower_toChars checksum)]

theorem finds_checksumLength_iff : Finds base (some given) .checksumLength error ↔
    Text.utf8Length given ≠ 4 ∧ error = .checksumLength (Text.utf8Length given) := by
  constructor
  · rintro ⟨⟩
    next same other =>
      cases same
      exact ⟨other, rfl⟩
  · rintro ⟨other, rfl⟩
    exact .checksumLength rfl other

theorem finds_checksum_iff : Finds base (some given) .checksum error ↔
    ∃ computed, Checksum.compute base = .ok computed ∧ computed.spelledBy given = false ∧
      error = .checksumMismatch computed (String.ofList given) := by
  simp only [← Bool.not_eq_true, spelledBy_iff_caseVariant]
  constructor
  · rintro ⟨⟩
    next same computed other =>
      cases same
      exact ⟨_, computed, other, rfl⟩
  · rintro ⟨computed, found, other, rfl⟩
    exact .checksum rfl found other

/-- A given checksum is refused by what is checked before the kind. -/
theorem checkSuffix_eq_error_iff :
    Identifier.checkSuffix base given = .error error ↔
      First base (some given) [.checksumLength, .separator, .symbols, .checksum] error := by
  have cut : [Check.checksumLength, .separator, .symbols, .checksum] =
      .checksumLength :: ([.separator, .symbols] ++ [.checksum]) := rfl
  rw [cut, first_cons_iff, first_append_iff]
  simp only [← compute_eq_error_iff, first_singleton_iff, finds_checksumLength_iff,
    finds_checksum_iff, Identifier.checkSuffix, Checksum.symbolCount]
  by_cases length : Text.utf8Length given = 4
  · simp only [length, ne_eq, not_true_eq_false, if_false, false_and, false_or, not_false_eq_true,
      implies_true, true_and]
    cases Checksum.compute base with
    | error other => simp
    | ok checksum =>
        cases spelled : checksum.spelledBy given with
        | true => simp [spelled]
        | false => simp [spelled, @eq_comm _ error]
  · simp only [length, ne_eq, not_false_eq_true, if_true, Except.error.injEq, true_and]
    grind

/-- Where a checksum could be computed, the separator and the symbols are right. -/
theorem first_of_compute {checksum : Checksum} (computed : Checksum.compute base = .ok checksum) :
    First base suffix [.separator, .kind, .payloadLength, .symbols] error ↔
      First base suffix [.kind, .payloadLength] error := by
  have noError (other : IdError) : ¬First base suffix [.separator, .symbols] other := by
    rw [← compute_eq_error_iff suffix, computed]
    exact nofun
  have separated (other : IdError) : ¬Finds base suffix .separator other :=
    fun found => noError other (.here found)
  have spelled (other : IdError) : ¬First base suffix [.symbols] other :=
    fun found => noError other (.later separated found)
  have cut : [Check.kind, .payloadLength, .symbols] = [.kind, .payloadLength] ++ [.symbols] := rfl
  rw [first_cons_of_silent separated, cut, first_append_iff, or_iff_left]
  exact fun last => spelled error last.2

theorem parseTrimmed_eq_error_iff_of_whole (whole : '-' ∉ base) :
    Identifier.parseTrimmed base = .error error ↔ First base none (order none) error := by
  rw [order, first_cons_iff]
  by_cases empty : base = []
  · subst empty
    simp [Identifier.parseTrimmed, finds_blank_iff, eq_comm]
  · simp only [Identifier.parseTrimmed_of_not_mem empty whole, parseBase_eq_error_iff none,
      finds_blank_iff, empty, false_and, not_false_eq_true, implies_true, true_and, false_or]

/-- With a given checksum, what it is refused for comes before the kind and the length. -/
theorem first_order_some_iff :
    First base (some given) (order (some given)) error ↔
      Identifier.checkSuffix base given = .error error ∨
        (∀ other, Identifier.checkSuffix base given ≠ .error other) ∧
          First base (some given) [.kind, .payloadLength] error := by
  have notBlank (other : IdError) : ¬Finds base (some given) .blank other := by
    simp [finds_blank_iff]
  have cut : [Check.checksumLength, .separator, .symbols, .checksum, .kind, .payloadLength] =
      [.checksumLength, .separator, .symbols, .checksum] ++ [.kind, .payloadLength] := rfl
  rw [order, first_cons_of_silent notBlank, cut, first_append_iff]
  simp only [← checkSuffix_eq_error_iff, ne_eq]

theorem parseTrimmed_eq_error_iff_of_atHyphen (behind : '-' ∉ given) :
    Identifier.parseTrimmed (base ++ '-' :: given) = .error error ↔
      First base (some given) (order (some given)) error := by
  rw [first_order_some_iff, Identifier.parseTrimmed_append behind]
  cases checked : Identifier.checkSuffix base given with
  | error other => simp [Except.bind]
  | ok =>
      obtain ⟨checksum, computed, _⟩ := Identifier.checkSuffix_eq_ok_iff.mp checked
      simp only [Except.bind, parseBase_eq_error_iff (some given), first_of_compute computed,
        ne_eq, reduceCtorEq, not_false_eq_true, implies_true, true_and, false_or]

theorem Cut.exists (text : List Char) : ∃ base suffix, Cut text base suffix := by
  cases found : Text.splitLast '-' text with
  | none => exact ⟨text, none, .whole (Text.splitLast_eq_none_iff.mp found)⟩
  | some parts =>
      obtain ⟨shape, behind⟩ := Text.splitLast_eq_some_iff.mp found
      exact ⟨parts.1, some parts.2, shape ▸ .atHyphen behind⟩

/-- The reader refuses a text with the error of the first check that finds any. -/
theorem Cut.parseTrimmed_eq_error_iff {text : List Char} (cut : Cut text base suffix) :
    Identifier.parseTrimmed text = .error error ↔ First base suffix (order suffix) error := by
  cases cut with
  | whole whole => exact parseTrimmed_eq_error_iff_of_whole whole
  | atHyphen behind => exact parseTrimmed_eq_error_iff_of_atHyphen behind

theorem First.ofReader {checks : List Check} (first : First base suffix checks error) :
    error.OfReader := by
  induction first with
  | here found => cases found <;> constructor
  | later _ _ ih => exact ih

theorem checkSuffix_of_verify (verified : Checksum.verify base given = true) :
    Identifier.checkSuffix base given = .ok () := by
  rw [Identifier.checkSuffix_eq_ok_iff]
  unfold Checksum.verify at verified
  cases computed : Checksum.compute base with
  | error other =>
      rw [computed] at verified
      contradiction
  | ok checksum =>
      rw [computed] at verified
      exact ⟨checksum, rfl, Checksum.spelledBy_iff.mp verified⟩

/-- Behind a checksum that is verified, only the kind and the length of the payload can be wrong. -/
theorem kind_or_payloadLength_of_verify (verified : Checksum.verify base given = true)
    (first : First base (some given) (order (some given)) error) :
    (∃ name, error = .invalidKind name) ∨ ∃ bytes, error = .payloadLength bytes := by
  rw [first_order_some_iff, checkSuffix_of_verify verified] at first
  obtain refused | ⟨_, first⟩ := first
  · contradiction
  · rw [first_cons_iff, first_singleton_iff] at first
    rcases first with found | ⟨_, found⟩
    · cases found
      exact .inl ⟨_, rfl⟩
    · cases found
      exact .inr ⟨_, rfl⟩

end Refusal

namespace Identifier

/-- Whatever is wrong with a text, it is refused with the error of the first check, in the order
that belongs to whether it has a hyphen, and no other error is ever returned.  Once a given checksum
is verified, the kind or the length of the payload is all that is left to be refused. -/
theorem parse_refuses_in_order (input : String) :
    (∃ base suffix, Refusal.Cut (Text.Blank.trim input.toList) base suffix) ∧
    ∀ base suffix, Refusal.Cut (Text.Blank.trim input.toList) base suffix →
      (∀ error, parse input = .error error ↔
        Refusal.First base suffix (Refusal.order suffix) error) ∧
      (∀ error, parse input = .error error → error.OfReader) ∧
      ∀ given, suffix = some given → Checksum.verify base given = true →
        ∀ error, parse input = .error error →
          (∃ name, error = .invalidKind name) ∨ ∃ bytes, error = .payloadLength bytes := by
  refine ⟨Refusal.Cut.exists _, ?_⟩
  intro base suffix cut
  have first (error : IdError) : parse input = .error error ↔
      Refusal.First base suffix (Refusal.order suffix) error :=
    cut.parseTrimmed_eq_error_iff
  refine ⟨first, ?_, ?_⟩
  · intro error refused
    exact ((first error).mp refused).ofReader
  · rintro given rfl verified error refused
    exact Refusal.kind_or_payloadLength_of_verify verified ((first error).mp refused)

/-- Two texts with a payload that is too short and a kind in uppercase: one is refused for its first
byte that stands for no symbol, the other, whose checksum is its own, for its kind. -/
theorem parse_refuses_in_order_severalFaults :
    Refusal.First "Order_0u".toList (some "abcd".toList) (Refusal.order (some "abcd".toList))
        (.invalidSymbol 1 'u') ∧
      Checksum.verify "Order_00".toList "HGTM".toList = true ∧
      Refusal.First "Order_00".toList (some "HGTM".toList) (Refusal.order (some "HGTM".toList))
        (.invalidKind "Order") ∧
      ((∃ name, IdError.invalidKind "Order" = .invalidKind name) ∨
        ∃ bytes, IdError.invalidKind "Order" = .payloadLength bytes) := by
  have unspelled : Refusal.Cut (Text.Blank.trim "Order_0u-abcd".toList) "Order_0u".toList
      (some "abcd".toList) := by
    have trimmed : Text.Blank.trim "Order_0u-abcd".toList =
        "Order_0u".toList ++ '-' :: "abcd".toList := by decide +kernel
    exact trimmed ▸ .atHyphen (by decide)
  have unnamed : Refusal.Cut (Text.Blank.trim "Order_00-HGTM".toList) "Order_00".toList
      (some "HGTM".toList) := by
    have trimmed : Text.Blank.trim "Order_00-HGTM".toList =
        "Order_00".toList ++ '-' :: "HGTM".toList := by decide +kernel
    exact trimmed ▸ .atHyphen (by decide)
  have refusedSymbol : parse "Order_0u-abcd" = .error (.invalidSymbol 1 'u') := by decide +kernel
  have refusedKind : parse "Order_00-HGTM" = .error (.invalidKind "Order") := by decide +kernel
  have verified : Checksum.verify "Order_00".toList "HGTM".toList = true := by decide +kernel
  obtain ⟨_, first⟩ := parse_refuses_in_order "Order_0u-abcd"
  obtain ⟨_, second⟩ := parse_refuses_in_order "Order_00-HGTM"
  obtain ⟨ordered, _, late⟩ := second _ _ unnamed
  exact ⟨((first _ _ unspelled).1 _).mp refusedSymbol, verified, (ordered _).mp refusedKind,
    late _ rfl verified _ refusedKind⟩

end Identifier

end SortableId
