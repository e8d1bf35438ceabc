import SortableId.Proofs.Directions
import SortableId.Proofs.Numerals

/-!
# Random fields in hexadecimal

A random field may be stated as a hexadecimal text of any width.  The bytes of the text are shifted
into a word of 64 bits one after another, so the first ones are lost, and 60 bits are kept.  As 60
bits are 15 digits, what counts of the number that the text writes are its last 15 digits.
-/

namespace SortableId

namespace Text.Hex

/-! ## Digits -/

/-- The digits, with letters of either case. -/
def IsDigit (c : Char) : Prop :=
  c.isDigit = true ∨ ('a' ≤ c ∧ c ≤ 'f') ∨ ('A' ≤ c ∧ c ≤ 'F')

instance (c : Char) : Decidable (IsDigit c) := inferInstanceAs (Decidable (_ ∨ _))

/-- What a digit counts. -/
def digitValue (c : Char) : Nat :=
  ['0', '1', '2', '3', '4', '5', '6', '7', '8', '9', 'a', 'b', 'c', 'd', 'e', 'f'].idxOf c.toLower

/-- The number that digits write, most significant first. -/
def value (digits : List Char) : Nat := Nat.ofDigits 16 (digits.map digitValue).reverse

/-- A text of digits that fill bytes. -/
structure WellFormed (text : String) : Prop where
  even : (utf8 text.toList).length % 2 = 0
  digits : ∀ c ∈ text.toList, IsDigit c

theorem toNat_lt_of_isDigit {c : Char} (digit : IsDigit c) : c.toNat < 128 := by
  rcases digit with decimal | ⟨_, lower⟩ | ⟨_, upper⟩
  · exact toNat_lt_of_isAlphanum (by simp [Char.isAlphanum, decimal])
  · exact Nat.lt_of_le_of_lt (Char.le_def.mp lower) (by decide)
  · exact Nat.lt_of_le_of_lt (Char.le_def.mp upper) (by decide)

theorem digit?_of_isDigit {c : Char} (digit : IsDigit c) :
    digit? c.val.toUInt8 = some (BitVec.ofNat 4 (digitValue c)) :=
  of_ascii (fun c => IsDigit c → digit? c.val.toUInt8 = some (BitVec.ofNat 4 (digitValue c)))
    (by decide +kernel) (toNat_lt_of_isDigit digit) digit

theorem digitValue_lt {c : Char} (digit : IsDigit c) : digitValue c < 16 :=
  of_ascii (fun c => IsDigit c → digitValue c < 16) (by decide +kernel)
    (toNat_lt_of_isDigit digit) digit

theorem isDigit_of_digit? {c : Char} (ascii : c.toNat < 128)
    (read : (digit? c.val.toUInt8).isSome = true) : IsDigit c :=
  of_ascii (fun c => (digit? c.val.toUInt8).isSome = true → IsDigit c) (by decide +kernel) ascii
    read

theorem digit?_of_le_toNat {byte : UInt8} (beyond : 128 ≤ byte.toNat) : digit? byte = none := by
  have above (bound : UInt8) (small : bound.toNat < 128) : ¬byte ≤ bound := by
    rw [UInt8.le_iff_toNat_le]
    omega
  simp only [digit?, above 0x39 (by decide), above 0x46 (by decide), above 0x66 (by decide),
    and_false, if_false]

/-- Bytes of digits are bytes of characters that are digits. -/
theorem forall_digit?_utf8_iff {text : List Char} :
    (∀ byte ∈ utf8 text, (digit? byte).isSome = true) ↔ ∀ c ∈ text, IsDigit c := by
  induction text with
  | nil => simp [utf8]
  | cons c rest ih =>
      rw [List.forall_mem_cons, ← ih]
      by_cases ascii : c.toNat < 128
      · rw [utf8_cons_of_ascii ascii, List.forall_mem_cons]
        refine and_congr_left fun _ => ⟨isDigit_of_digit? ascii, fun digit => ?_⟩
        rw [digit?_of_isDigit digit]
        rfl
      · obtain ⟨first, others, bytes, beyond⟩ :=
          exists_utf8_cons_of_le_toNat (Nat.le_of_not_lt ascii) rest
        constructor
        · intro read
          have found := read first (by rw [bytes]; exact List.mem_cons_self)
          rw [digit?_of_le_toNat beyond] at found
          contradiction
        · rintro ⟨digit, _⟩
          exact absurd (toNat_lt_of_isDigit digit) ascii

/-! ## Pairs of digits -/

/-- The digits of bytes, two for each. -/
def halves (bytes : List UInt8) : List (BitVec 4) :=
  bytes.flatMap fun byte => Chunks.split 4 2 byte.toBitVec

theorem split_append (high low : BitVec 4) : Chunks.split 4 2 (high ++ low) = [high, low] := by
  revert high low
  decide

theorem readDigit_eq_ok_iff {position : Nat} {byte : UInt8} {digit : BitVec 4} :
    readDigit position byte = .ok digit ↔ digit? byte = some digit := by
  unfold readDigit
  cases digit? byte with
  | none => simp
  | some found => simp

/-- The bytes that are read have the digits of the text. -/
theorem map_digit?_of_readPairs {position : Nat} {digits bytes : List UInt8}
    (even : digits.length % 2 = 0) (read : readPairs position digits = .ok bytes) :
    digits.map digit? = (halves bytes).map some := by
  induction position, digits using readPairs.induct generalizing bytes with
  | case1 position high low rest ih =>
      rw [readPairs] at read
      simp only [bind_eq_ok_iff] at read
      obtain ⟨first, readHigh, second, readLow, others, readRest, made⟩ := read
      cases Except.ok.inj made
      have remaining : rest.length % 2 = 0 := by
        rw [List.length_cons, List.length_cons] at even
        omega
      rw [List.map_cons, List.map_cons, readDigit_eq_ok_iff.mp readHigh,
        readDigit_eq_ok_iff.mp readLow, ih remaining readRest, halves, halves, List.flatMap_cons,
        split_append]
      rfl
  | case2 digits position short =>
      cases digits with
      | nil =>
          cases read
          rfl
      | cons first rest =>
          cases rest with
          | nil => contradiction
          | cons second rest => exact absurd rfl (short _ _ _)

theorem exists_readPairs {digits : List UInt8} (position : Nat)
    (accepted : ∀ byte ∈ digits, (digit? byte).isSome = true) :
    ∃ bytes, readPairs position digits = .ok bytes := by
  induction position, digits using readPairs.induct with
  | case1 position high low rest ih =>
      obtain ⟨first, readHigh⟩ := Option.isSome_iff_exists.mp (accepted high (by simp))
      obtain ⟨second, readLow⟩ := Option.isSome_iff_exists.mp (accepted low (by simp))
      obtain ⟨others, readRest⟩ := ih fun byte member => accepted byte (by simp [member])
      refine ⟨UInt8.ofBitVec (first ++ second) :: others, ?_⟩
      rw [readPairs]
      simp only [bind_eq_ok_iff]
      exact ⟨first, readDigit_eq_ok_iff.mpr readHigh, second, readDigit_eq_ok_iff.mpr readLow,
        others, readRest, rfl⟩
  | case2 digits position short => exact ⟨[], readPairs.eq_2 position digits short⟩

theorem length_halves (bytes : List UInt8) : (halves bytes).length = 2 * bytes.length := by
  simp [halves, Nat.mul_comm]

/-- Bytes and their digits write one number. -/
theorem number_halves (bytes : List UInt8) :
    Chunks.number (halves bytes) = Chunks.number (bytes.map UInt8.toBitVec) := by
  induction bytes with
  | nil => rfl
  | cons byte rest ih =>
      have whole : Chunks.number (Chunks.split 4 2 byte.toBitVec) = byte.toNat := by
        rw [Chunks.number_split]
        exact Nat.mod_eq_of_lt byte.toNat_lt
      have parts : halves (byte :: rest) = Chunks.split 4 2 byte.toBitVec ++ halves rest := rfl
      rw [parts, Chunks.number_append, whole, ih, length_halves, List.map_cons, Chunks.number_cons,
        List.length_map, ← Nat.mul_assoc]
      rfl

/-! ## Texts -/

theorem decode_eq_ok_iff {text : String} {bytes : List UInt8} :
    decode text = .ok bytes ↔
      (utf8 text.toList).length % 2 = 0 ∧ readPairs 0 (utf8 text.toList) = .ok bytes := by
  unfold decode
  by_cases odd : (utf8 text.toList).length % 2 = 1
  · simp [odd]
  · simp [Nat.mod_two_ne_one.mp odd]

theorem exists_decode_iff {text : String} :
    (∃ bytes, decode text = .ok bytes) ↔ WellFormed text := by
  simp only [decode_eq_ok_iff]
  constructor
  · rintro ⟨bytes, even, read⟩
    refine ⟨even, forall_digit?_utf8_iff.mp ?_⟩
    intro byte member
    have found : digit? byte ∈ (halves bytes).map some :=
      map_digit?_of_readPairs even read ▸ List.mem_map_of_mem member
    obtain ⟨digit, _, present⟩ := List.mem_map.mp found
    rw [← present]
    rfl
  · rintro ⟨even, digits⟩
    obtain ⟨bytes, read⟩ := exists_readPairs 0 (forall_digit?_utf8_iff.mpr digits)
    exact ⟨bytes, even, read⟩

/-- The bytes of digits stand for what the digits count. -/
theorem map_digit?_utf8 {text : List Char} (digits : ∀ c ∈ text, IsDigit c) :
    (utf8 text).map digit? = (text.map fun c => BitVec.ofNat 4 (digitValue c)).map some := by
  have ascii : ∀ c ∈ text, c.toNat < 128 :=
    fun c member => toNat_lt_of_isDigit (digits c member)
  rw [utf8_of_ascii ascii, List.map_map, List.map_map]
  exact List.map_congr_left fun c member => digit?_of_isDigit (digits c member)

theorem number_digits {text : List Char} (digits : ∀ c ∈ text, IsDigit c) :
    Chunks.number (text.map fun c => BitVec.ofNat 4 (digitValue c)) = value text := by
  rw [Chunks.number_eq_ofDigits, List.map_map, value]
  congr 2
  exact List.map_congr_left fun c member => Nat.mod_eq_of_lt (digitValue_lt (digits c member))

/-- The bytes write the number of the text. -/
theorem number_of_decode {text : String} {bytes : List UInt8} (read : decode text = .ok bytes) :
    Chunks.number (bytes.map UInt8.toBitVec) = value text.toList := by
  have digits := (exists_decode_iff.mp ⟨bytes, read⟩).digits
  obtain ⟨even, pairs⟩ := decode_eq_ok_iff.mp read
  have looked := map_digit?_of_readPairs even pairs
  rw [map_digit?_utf8 digits] at looked
  have same := List.map_injective_iff.mpr (Option.some_injective (BitVec 4)) looked
  rw [← number_halves, ← same, number_digits digits]

/-! ## Low digits -/

theorem WellFormed.append {front back : String} (frontWellFormed : WellFormed front)
    (backWellFormed : WellFormed back) : WellFormed (front ++ back) where
  even := by
    have frontEven := frontWellFormed.even
    have backEven := backWellFormed.even
    rw [length_utf8] at frontEven backEven
    rw [length_utf8, String.toList_append, utf8Length_append]
    omega
  digits := by
    rw [String.toList_append]
    exact List.forall_mem_append.mpr ⟨frontWellFormed.digits, backWellFormed.digits⟩

theorem value_append (front back : List Char) :
    value (front ++ back) = value front * 16 ^ back.length + value back := by
  rw [value, List.map_append, List.reverse_append, Nat.ofDigits_append, List.length_reverse,
    List.length_map, Nat.add_comm, Nat.mul_comm]
  rfl

/-- The last digits of a text, which is filled with zeros on the left if it has not as many. -/
def lastDigits (count : Nat) (digits : List Char) : List Char :=
  (digits.leftpad count '0').rtake count

/-- The last digits write what is left of the number below their places. -/
theorem value_lastDigits {digits : List Char} (wellFormed : ∀ c ∈ digits, IsDigit c) (count : Nat) :
    value (lastDigits count digits) = value digits % 16 ^ count := by
  have filled : value (digits.leftpad count '0') = value digits := by
    have zeros : value (List.replicate (count - digits.length) '0') = 0 := by
      rw [value, List.map_replicate, List.reverse_replicate]
      exact Nat.ofDigits_replicate_zero
    rw [List.leftpad, value_append, zeros, Nat.zero_mul, Nat.zero_add]
  have small : ∀ digit ∈ ((digits.leftpad count '0').map digitValue).reverse, digit < 16 := by
    intro digit member
    obtain ⟨c, inside, rfl⟩ := List.mem_map.mp (List.mem_reverse.mp member)
    rcases List.mem_append.mp inside with zero | old
    · rw [List.eq_of_mem_replicate zero]
      decide
    · exact digitValue_lt (wellFormed c old)
  rw [← filled, value, value, Nat.ofDigits_mod_pow_eq_ofDigits_take _ (by decide) _ small,
    lastDigits, List.rtake_eq_reverse_take_reverse, List.map_reverse, List.reverse_reverse,
    List.map_take, List.map_reverse]

end Text.Hex

namespace Components

theorem toNat_randomOfBytes (bytes : List UInt8) :
    (randomOfBytes bytes).toNat = Chunks.number (bytes.map UInt8.toBitVec) % 2 ^ 60 := by
  have low : 2 ^ 60 ∣ 2 ^ 64 := Nat.pow_dvd_pow 2 (by decide)
  rw [randomOfBytes, BitVec.toNat_setWidth, Chunks.toNat_join, Nat.mod_mod_of_dvd _ low]

/-- A text gives the random field exactly if it is well-formed, and then the low bits of its number.
-/
theorem withRandomHex_eq_ok_iff {components result : Components} {hex : String} :
    components.withRandomHex hex = .ok result ↔
      Text.Hex.WellFormed hex ∧
        result = { components with
          random := BitVec.ofNat 64 (Text.Hex.value hex.toList % 2 ^ 60) } := by
  rw [← Text.Hex.exists_decode_iff]
  cases read : Text.Hex.decode hex with
  | error fault => simp [withRandomHex, read]
  | ok bytes =>
      have random : (randomOfBytes bytes).setWidth 64 =
          BitVec.ofNat 64 (Text.Hex.value hex.toList % 2 ^ 60) := by
        rw [← Text.Hex.number_of_decode read, ← toNat_randomOfBytes,
          BitVec.ofNat_toNat]
      simp [withRandomHex, read, random, eq_comm]

theorem withRandomHex_of_wellFormed (components : Components) {hex : String}
    (wellFormed : Text.Hex.WellFormed hex) :
    components.withRandomHex hex =
      .ok { components with random := BitVec.ofNat 64 (Text.Hex.value hex.toList % 2 ^ 60) } :=
  withRandomHex_eq_ok_iff.mpr ⟨wellFormed, rfl⟩

/-- Texts with the same low bits state the same random field. -/
theorem withRandomHex_congr (components : Components) {first second : String}
    (firstWellFormed : Text.Hex.WellFormed first) (secondWellFormed : Text.Hex.WellFormed second)
    (low : Text.Hex.value first.toList % 2 ^ 60 = Text.Hex.value second.toList % 2 ^ 60) :
    components.withRandomHex first = components.withRandomHex second := by
  rw [withRandomHex_of_wellFormed components firstWellFormed,
    withRandomHex_of_wellFormed components secondWellFormed, low]

/-- Digits in front of 15 or more others do not count. -/
theorem withRandomHex_append (components : Components) {front hex : String}
    (frontWellFormed : Text.Hex.WellFormed front) (wellFormed : Text.Hex.WellFormed hex)
    (long : 15 ≤ hex.toList.length) :
    components.withRandomHex (front ++ hex) = components.withRandomHex hex := by
  apply withRandomHex_congr components (frontWellFormed.append wellFormed) wellFormed
  obtain ⟨above, places⟩ : 2 ^ 60 ∣ 16 ^ hex.toList.length :=
    Nat.pow_dvd_pow 16 long
  rw [String.toList_append, Text.Hex.value_append, places, Nat.mul_left_comm, Nat.mul_add_mod]

end Components

namespace Conformance.Case

variable {item : Case} {first second : String}

/-- A case reads its text for the random field in no other way. -/
theorem encode_eq_of_withRandomHex
    (same : ∀ components : Components,
      components.withRandomHex first = components.withRandomHex second) :
    { item with randomHex := first }.encode = { item with randomHex := second }.encode := by
  have stated : { item with randomHex := first }.components =
      { item with randomHex := second }.components := same _
  rw [encode_eq_map, encode_eq_map, identifier, identifier, stated]
  rfl

/-- A case of a kind encodes if its text for the random field is well-formed. -/
theorem exists_encode_of_wellFormed {kind : Kind} (named : kind.name = item.kind)
    (wellFormed : Text.Hex.WellFormed item.randomHex) : ∃ text, item.encode = .ok text := by
  obtain ⟨components, stated⟩ : ∃ components, item.components = .ok components :=
    ⟨_, Components.withRandomHex_eq_ok_iff.mpr ⟨wellFormed, rfl⟩⟩
  have made : item.identifier = .ok ⟨kind, item.fields components.random⟩ :=
    (identifier_eq_ok_iff stated).mpr ⟨named, rfl⟩
  exact ⟨_, encode_eq_ok_iff.mpr ⟨_, made, rfl⟩⟩

end Conformance.Case

namespace Components

/-- A text of any width states a random field exactly if it is digits that fill bytes, and then the
low 60 bits of the number that they write.  Further digits on the left of 15 do not change it, and
cases whose texts have the same last 15 digits encode to the same identifier. -/
theorem random_of_hex :
    (∀ (components : Components) (hex : String),
      (∃ result, components.withRandomHex hex = .ok result) ↔ Text.Hex.WellFormed hex) ∧
    (∀ (components result : Components) (hex : String),
      components.withRandomHex hex = .ok result →
        result = { components with
          random := BitVec.ofNat 64 (Text.Hex.value hex.toList % 2 ^ 60) }) ∧
    (∀ (components : Components) (front hex : String),
      Text.Hex.WellFormed front → Text.Hex.WellFormed hex → 15 ≤ hex.toList.length →
        components.withRandomHex (front ++ hex) = components.withRandomHex hex) ∧
    ∀ (item : Conformance.Case) (first second : String),
      Text.Hex.WellFormed first → Text.Hex.WellFormed second →
      Text.Hex.value (Text.Hex.lastDigits 15 first.toList) =
        Text.Hex.value (Text.Hex.lastDigits 15 second.toList) →
      { item with randomHex := first }.encode = { item with randomHex := second }.encode ∧
        ∀ kind : Kind, kind.name = item.kind →
          ∃ text, { item with randomHex := first }.encode = .ok text := by
  refine ⟨?_, ?_, ?_, ?_⟩
  · intro components hex
    constructor
    · rintro ⟨result, stated⟩
      exact (withRandomHex_eq_ok_iff.mp stated).1
    · intro wellFormed
      exact ⟨_, withRandomHex_of_wellFormed components wellFormed⟩
  · intro components result hex stated
    exact (withRandomHex_eq_ok_iff.mp stated).2
  · intro components front hex frontWellFormed wellFormed long
    exact withRandomHex_append components frontWellFormed wellFormed long
  · intro item first second firstWellFormed secondWellFormed agree
    rw [Text.Hex.value_lastDigits firstWellFormed.digits,
      Text.Hex.value_lastDigits secondWellFormed.digits] at agree
    constructor
    · exact Conformance.Case.encode_eq_of_withRandomHex fun components =>
        withRandomHex_congr components firstWellFormed secondWellFormed agree
    · intro kind named
      exact Conformance.Case.exists_encode_of_wellFormed named firstWellFormed

/-- Two texts for an order, of which one has fewer digits than count and one has more than fit. -/
theorem random_of_hex_widths :
    Text.Hex.WellFormed "6901B86690f18a" ∧ Text.Hex.WellFormed "FfeeDDccBBa06901b86690F18A" ∧
      { kind := "order", randomHex := "6901B86690f18a" : Conformance.Case }.encode =
        { kind := "order", randomHex := "FfeeDDccBBa06901b86690F18A" : Conformance.Case }.encode ∧
      ∃ text, { kind := "order", randomHex := "6901B86690f18a" : Conformance.Case }.encode =
        .ok text := by
  have narrow : Text.Hex.WellFormed "6901B86690f18a" :=
    ⟨by decide, List.all_iff_forall_prop.mp (by decide)⟩
  have wide : Text.Hex.WellFormed "FfeeDDccBBa06901b86690F18A" :=
    ⟨by decide, List.all_iff_forall_prop.mp (by decide)⟩
  have agree : Text.Hex.value (Text.Hex.lastDigits 15 "6901B86690f18a".toList) =
      Text.Hex.value (Text.Hex.lastDigits 15 "FfeeDDccBBa06901b86690F18A".toList) := by
    decide +kernel
  obtain ⟨same, encodes⟩ :=
    random_of_hex.2.2.2 { kind := "order" } _ _ narrow wide agree
  exact ⟨narrow, wide, same, encodes ⟨"order", Identifier.accepts_order⟩ rfl⟩

end Components

end SortableId
