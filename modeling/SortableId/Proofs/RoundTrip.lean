import SortableId.Proofs.Grammar

/-!
# Round trip

An identifier is written as a spelling that denotes it, with and without the checksum, so reading
what was written gives the same identifier.
-/

namespace SortableId

namespace Payload

@[simp] theorem decode_encode (body : Body) : decode (encode body) = .ok body := by
  rw [decode_eq_ok_iff]
  constructor
  · exact length_encode body
  · rw [encode, List.map_map]
    apply List.map_congr_left
    intro symbol _
    exact Symbol.ofChar?_toChar symbol

end Payload

namespace Kind

theorem toLower_of_lower_or_digit {c : Char} (plain : c.isLower = true ∨ c.isDigit = true) :
    c.toLower = c := by
  have ascii := Text.toNat_lt_of_isAlphanum (isAlphanum_of_lower_or_digit plain)
  exact Text.of_ascii (fun c => c.isLower = true ∨ c.isDigit = true → c.toLower = c)
    (by decide) ascii plain

/-- The name of a kind has no uppercase letter, so its label is that of the name itself. -/
theorem map_toLower_of_accepts {name : List Char} (wellFormed : accepts name = true) :
    name.map Char.toLower = name := by
  rcases accepts_iff.mp wellFormed with ⟨first, rest, rfl, head, tail, _⟩
  have unchanged : rest.map Char.toLower = rest.map id := by
    apply List.map_congr_left
    intro c member
    exact toLower_of_lower_or_digit (tail c member)
  rw [List.map_cons, toLower_of_lower_or_digit (.inl head), unchanged, List.map_id]

end Kind

namespace Identifier

/-- A text that is read has the checksum of the identifier that it is read as, whatever the
spelling of its payload. -/
theorem compute_of_parseBase {base : List Char} {id : Identifier}
    (read : parseBase base = .ok id) : Checksum.compute base = .ok id.checksum := by
  rcases parseBase_eq_ok_iff.mp read with ⟨payload, rfl, decoded⟩
  have symbols : Payload.readSymbols 0 payload = .ok id.body.symbols :=
    Payload.readSymbols_eq_ok_iff.mpr (Payload.decode_eq_ok_iff.mp decoded).2
  rw [Checksum.compute_append id.kind.wellFormed, symbols,
    Kind.map_toLower_of_accepts id.kind.wellFormed]
  rfl

theorem parseBase_baseChars (id : Identifier) : parseBase id.baseChars = .ok id :=
  parseBase_eq_ok_iff.mpr ⟨id.payload, rfl, Payload.decode_encode id.body⟩

/-- Different identifiers are written differently, even without a checksum. -/
theorem eq_of_baseChars_eq {left right : Identifier} (same : left.baseChars = right.baseChars) :
    left = right := by
  have read := parseBase_baseChars left
  rw [same, parseBase_baseChars right] at read
  exact (Except.ok.inj read).symm

/-- The checksum of the written form is the checksum of the identifier. -/
theorem compute_baseChars (id : Identifier) :
    Checksum.compute id.baseChars = .ok id.checksum :=
  compute_of_parseBase (parseBase_baseChars id)

/-- The parts that an identifier is written with. -/
def spelling (id : Identifier) (withChecksum : Bool) : Spelling where
  name := id.kind.name.toList
  payload := id.payload
  suffix := if withChecksum then some id.checksum.toChars else none

theorem chars_spelling (id : Identifier) (withChecksum : Bool) :
    (id.spelling withChecksum).chars = id.toChars withChecksum := by
  cases withChecksum with
  | false => rfl
  | true => rfl

theorem wellFormed_spelling (id : Identifier) (withChecksum : Bool) :
    (id.spelling withChecksum).WellFormed := by
  have decoded := Payload.decode_eq_ok_iff_numeral.mp (Payload.decode_encode id.body)
  refine ⟨Kind.accepts_iff.mp id.kind.wellFormed, decoded.1, ?_, ?_⟩
  · intro c member
    exact Symbol.accepted_iff.mp (decoded.2.1 c member)
  · intro given present
    cases withChecksum with
    | false => contradiction
    | true =>
        cases present
        exact ⟨Checksum.length_toChars _, id.checksum, compute_baseChars id, rfl⟩

/-- The written form denotes the identifier that it was made from. -/
theorem denotes_spelling (id : Identifier) (withChecksum : Bool) :
    (id.spelling withChecksum).Denotes id := by
  have decoded : Payload.decode id.payload = .ok id.body := Payload.decode_encode id.body
  have number_eq : id.fields.number = Payload.numeral id.payload :=
    (Spelling.decode_payload_iff (wellFormed_spelling id withChecksum)).mp decoded
  exact ⟨rfl, number_eq, by rw [Spelling.unixMs_eq, number_eq]; rfl⟩

/-- Every identifier is read back from its written form, with and without the checksum, and is
shown as its written form without one. -/
theorem parse_encode (id : Identifier) (withChecksum : Bool) :
    parse (id.encode withChecksum) = .ok id ∧ toString id = id.encode false := by
  constructor
  · have stands : (id.spelling withChecksum).StandsIn (id.encode withChecksum) := by
      refine ⟨[], [], ?_, by simp, by simp⟩
      rw [chars_spelling, encode, String.toList_ofList, List.nil_append, List.append_nil]
    rw [Spelling.parse_eq_ok_iff (wellFormed_spelling id withChecksum) stands]
    exact denotes_spelling id withChecksum
  · rfl

end Identifier

end SortableId
