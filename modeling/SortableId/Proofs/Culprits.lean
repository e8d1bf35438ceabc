import SortableId.Payload.Lookup
import SortableId.Proofs.Regrouping

/-!
# The first byte at fault

A payload is looked up byte by byte, while its errors name a whole character.  All bytes before the
first one at fault are characters of their own, so that byte is the first of a character, and the
character is the one to blame.  The two loops over the bytes of a payload, one of which also
collects bits, find the same fault or the same symbols.
-/

namespace SortableId

namespace Symbol

/-- The bytes of the accepted characters: digits and letters of ASCII, except `u` in either case. -/
def AcceptedByte (byte : UInt8) : Prop :=
  ((0x30 ≤ byte ∧ byte ≤ 0x39) ∨ (0x41 ≤ byte ∧ byte ≤ 0x5a) ∨ (0x61 ≤ byte ∧ byte ≤ 0x7a)) ∧
    byte ≠ 0x55 ∧ byte ≠ 0x75

instance (byte : UInt8) : Decidable (AcceptedByte byte) := inferInstanceAs (Decidable (_ ∧ _))

/-- The table holds what each byte stands for as a character. -/
theorem look?_eq_ofByte? (byte : UInt8) : look? byte = ofByte? byte := by
  obtain ⟨bits⟩ := byte
  revert bits
  decide +kernel

theorem isNone_ofByte?_iff {byte : UInt8} :
    (ofByte? byte).isNone = true ↔ ¬AcceptedByte byte := by
  obtain ⟨bits⟩ := byte
  revert bits
  decide +kernel

end Symbol

namespace Payload

variable {payload : List Char} {position : Nat} {symbol : Char}

/-- The positions of the bytes of a payload that are not accepted. -/
def culprits (payload : List Char) : Set Nat :=
  {position | ∃ byte, (Text.utf8 payload)[position]? = some byte ∧ ¬Symbol.AcceptedByte byte}

/-- A position and a character are those of the first byte at fault. -/
structure PointsAt (payload : List Char) (position : Nat) (symbol : Char) : Prop where
  least : IsLeast (culprits payload) position
  /-- The position is the beginning of the character. -/
  whole : ∃ front rest, payload = front ++ symbol :: rest ∧ Text.utf8Length front = position
  /-- The character is found there, so nothing has to stand in for it. -/
  found : (Text.fromByte? payload position).bind List.head? = some symbol

theorem FirstFault.pointsAt (fault : FirstFault payload position symbol) :
    PointsAt payload position symbol where
  least := by
    obtain ⟨inBounds, bad, before⟩ := List.findIdx?_eq_some_iff_getElem.mp fault.byte
    constructor
    · exact ⟨_, List.getElem?_eq_getElem inBounds, Symbol.isNone_ofByte?_iff.mp bad⟩
    · rintro other ⟨byte, there, notAccepted⟩
      obtain ⟨otherBounds, rfl⟩ := List.getElem?_eq_some_iff.mp there
      by_contra earlier
      exact before other (Nat.lt_of_not_le earlier) (Symbol.isNone_ofByte?_iff.mpr notAccepted)
  whole := fault.character
  found := by
    obtain ⟨front, rest, shape, length⟩ := fault.character
    rw [shape, ← length, fromByte?_append]
    rfl

/-- Behind characters that were read, the bytes are looked up as the characters that they encode. -/
theorem lookUp_utf8 (front rest : List Char) :
    lookUp (front ++ rest) (Text.utf8Length front) (Text.utf8 rest) =
      readSymbols (Text.utf8Length front) rest := by
  induction rest generalizing front with
  | nil => rfl
  | cons c rest ih =>
      cases read : Symbol.ofChar? c with
      | none =>
          obtain ⟨first, others, bytes, same⟩ := Symbol.exists_ofByte?_eq c rest
          have absent : Symbol.look? first = none := by rw [Symbol.look?_eq_ofByte?, same, read]
          rw [bytes, lookUp_cons_of_none absent, faultAt_append, readSymbols, read]
      | some value =>
          have accepted : Symbol.Accepted c := by rw [Symbol.Accepted, read]; rfl
          have ascii := Symbol.toNat_lt_of_accepted accepted
          have size : c.utf8Size = 1 := Symbol.utf8Size_of_accepted accepted
          have later := ih (front ++ [c])
          rw [List.append_assoc, List.singleton_append, Text.utf8Length_append,
            Text.utf8Length_cons, Text.utf8Length_nil, size] at later
          have found : Symbol.look? c.val.toUInt8 = some value := by
            rw [Symbol.look?_eq_ofByte?, Symbol.ofByte?_toUInt8 ascii, read]
          rw [Text.utf8_cons_of_ascii ascii, lookUp_cons_of_some found, readSymbols, read, size]
          exact congrArg (Except.map (value :: ·)) later

/-- Looking up bytes is reading characters. -/
theorem toSymbols_eq_readSymbols (payload : List Char) :
    toSymbols payload = readSymbols 0 payload :=
  lookUp_utf8 [] payload

theorem exists_pointsAt_of_toSymbols {error : IdError} (failed : toSymbols payload = .error error) :
    ∃ position symbol, error = .invalidSymbol position symbol ∧
      PointsAt payload position symbol := by
  rw [toSymbols_eq_readSymbols, readSymbols_eq_error_iff] at failed
  obtain ⟨position, symbol, fault, rfl⟩ := failed
  exact ⟨position, symbol, by rw [Nat.zero_add], fault.pointsAt⟩

/-- A payload with a byte at fault is refused. -/
theorem exists_error_of_not_accepted {byte : UInt8} (member : byte ∈ Text.utf8 payload)
    (notAccepted : ¬Symbol.AcceptedByte byte) : ∃ error, toSymbols payload = .error error := by
  rw [toSymbols_eq_readSymbols]
  cases read : readSymbols 0 payload with
  | error error => exact ⟨error, rfl⟩
  | ok symbols =>
      have characters := readSymbols_eq_ok_iff.mp read
      have bytes := (map_ofByte?_utf8 (accepted_of_map_eq characters)).trans characters
      have found : Symbol.ofByte? byte ∈ symbols.map some := bytes ▸ List.mem_map_of_mem member
      obtain ⟨value, _, present⟩ := List.mem_map.mp found
      have absent := Symbol.isNone_ofByte?_iff.mpr notAccepted
      rw [← present] at absent
      contradiction

theorem toBytes?_eq_error_iff_toSymbols (length_eq : (Text.utf8 payload).length = 32)
    {error : IdError} :
    toBytes? payload = some (.error error) ↔ toSymbols payload = .error error := by
  have right : ¬Text.utf8Length payload ≠ Body.symbolCount :=
    not_not.mpr ((Text.length_utf8 payload).symm.trans length_eq)
  rw [toBytes?_eq_error_iff, toSymbols_eq_readSymbols, decode, if_neg right, map_eq_error_iff]

/-- The bytes of a payload are cut into the symbols that were looked up. -/
theorem exists_toBytes?_of_toSymbols (length_eq : (Text.utf8 payload).length = 32)
    {symbols : List Symbol} (read : toSymbols payload = .ok symbols) :
    ∃ bytes written, toBytes? payload = some (.ok bytes) ∧
      symbolsOfBytes? bytes = some written ∧ written.toList = symbols := by
  rw [toSymbols_eq_readSymbols, readSymbols_eq_ok_iff] at read
  have spelled := (map_ofByte?_utf8 (accepted_of_map_eq read)).trans read
  obtain ⟨bytes, found, number⟩ := exists_toBytes?_of_symbols length_eq spelled
  obtain ⟨written, cut, written_eq⟩ := exists_symbolsOfBytes? bytes
  refine ⟨bytes, written, found, cut, ?_⟩
  apply Chunks.number_injective
  · rw [Vector.length_toList, ← length_eq_of_map_eq spelled, length_eq]
  · rw [written_eq, Body.number_symbols, Body.toNat_ofVector, number]

/-- A payload of any length is refused exactly if one of its bytes is not accepted, and then for the
first such byte and the character that begins with it.  A payload of 32 bytes is decoded to bytes or
refused with the same error, and the bytes are cut into the same symbols again. -/
theorem points_at_culprit (payload : List Char) :
    ((∃ error, toSymbols payload = .error error) ↔
      ∃ byte ∈ Text.utf8 payload, ¬Symbol.AcceptedByte byte) ∧
    (∀ error, toSymbols payload = .error error →
      ∃ position symbol, error = .invalidSymbol position symbol ∧
        PointsAt payload position symbol) ∧
    ((Text.utf8 payload).length = 32 →
      (∀ error, toBytes? payload = some (.error error) ↔ toSymbols payload = .error error) ∧
      ∀ symbols, toSymbols payload = .ok symbols →
        ∃ bytes written, toBytes? payload = some (.ok bytes) ∧
          symbolsOfBytes? bytes = some written ∧ written.toList = symbols) := by
  refine ⟨⟨?_, ?_⟩, fun _ failed => exists_pointsAt_of_toSymbols failed, fun length_eq =>
    ⟨fun _ => toBytes?_eq_error_iff_toSymbols length_eq, fun _ read =>
      exists_toBytes?_of_toSymbols length_eq read⟩⟩
  · rintro ⟨error, failed⟩
    obtain ⟨position, symbol, _, points⟩ := exists_pointsAt_of_toSymbols failed
    obtain ⟨byte, there, notAccepted⟩ := points.least.1
    exact ⟨byte, List.mem_of_getElem? there, notAccepted⟩
  · rintro ⟨byte, member, notAccepted⟩
    exact exists_error_of_not_accepted member notAccepted

/-- A character of three bytes is found behind nine characters, of which two look like digits, and
in front of an unaccepted letter. -/
theorem points_at_culprit_euro :
    (Text.utf8 "OlMYNGY59€003000DFK59MG3u36J3r".toList).length = 32 ∧
      toSymbols "OlMYNGY59€003000DFK59MG3u36J3r".toList = .error (.invalidSymbol 9 '€') ∧
      PointsAt "OlMYNGY59€003000DFK59MG3u36J3r".toList 9 '€' ∧
      toBytes? "OlMYNGY59€003000DFK59MG3u36J3r".toList =
        some (.error (.invalidSymbol 9 '€')) := by
  have length_eq : (Text.utf8 "OlMYNGY59€003000DFK59MG3u36J3r".toList).length = 32 := by
    decide +kernel
  have failed : toSymbols "OlMYNGY59€003000DFK59MG3u36J3r".toList =
      .error (.invalidSymbol 9 '€') := by
    decide +kernel
  obtain ⟨_, points, together⟩ := points_at_culprit "OlMYNGY59€003000DFK59MG3u36J3r".toList
  obtain ⟨position, symbol, same, pointsAt⟩ := points _ failed
  cases same
  exact ⟨length_eq, failed, pointsAt, ((together length_eq).1 _).mpr failed⟩

end Payload

end SortableId
