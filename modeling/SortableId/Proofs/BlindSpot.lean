import SortableId.Proofs.Folding
import SortableId.Proofs.Syndromes

/-!
# The blind spot of the checksum

The last two symbols of a payload are the ten low bits of the random field.  They still stand in the
high bits of the register when the checksum is taken from its low ones.  So identifiers that agree
in everything else have the same checksum, and the last two characters of a payload may be replaced
by any accepted ones: the text is still read, and only these bits change.
-/

namespace SortableId

/-- The text after its characters were replaced one after the other, each at its position. -/
def Text.replace (text : List Char) (replacements : List (Nat × Char)) : List Char :=
  replacements.foldl (fun text replacement => text.set replacement.1 replacement.2) text

namespace Identifier

/-- Two identifiers that differ at most in the ten low bits of the random field. -/
structure Twins (left right : Identifier) : Prop where
  kind : left.kind = right.kind
  fields : { left.fields with random := right.fields.random } = right.fields
  random : left.fields.random >>> 10 = right.fields.random >>> 10

end Identifier

/-! ## Symbols and bits -/

/-- All symbols of a body but the last two write its bits but the ten lowest. -/
theorem Body.number_take_symbols (body : Body) :
    Chunks.number (body.symbols.take 30) = body.toNat / 2 ^ 10 := by
  rw [Chunks.number_take, length_symbols, number_symbols]
  rfl

theorem Body.take_symbols_eq_iff {left right : Body} :
    left.symbols.take 30 = right.symbols.take 30 ↔ left.toNat / 2 ^ 10 = right.toNat / 2 ^ 10 := by
  rw [← number_take_symbols, ← number_take_symbols]
  constructor
  · intro same
    rw [same]
  · intro same
    apply Chunks.number_injective _ same
    rw [List.length_take, List.length_take, length_symbols, length_symbols]

/-- The fields of two bodies agree but for ten bits of the random field exactly when their numbers
agree but for the ten lowest bits. -/
theorem Fields.number_div_eq_iff {left right : Fields} :
    left.number / 2 ^ 10 = right.number / 2 ^ 10 ↔
      { left with random := right.random } = right ∧
        left.random >>> 10 = right.random >>> 10 := by
  have leftBounds := left.toNat_lt
  have rightBounds := right.toNat_lt
  rw [← number_inj, ← BitVec.toNat_inj, BitVec.toNat_ushiftRight, BitVec.toNat_ushiftRight,
    Nat.shiftRight_eq_div_pow, Nat.shiftRight_eq_div_pow]
  simp only [number]
  omega

namespace Identifier

variable {id left right : Identifier}

theorem twins_iff :
    Twins left right ↔
      left.kind = right.kind ∧ left.body.symbols.take 30 = right.body.symbols.take 30 := by
  rw [Body.take_symbols_eq_iff, body, body, Fields.toNat_pack, Fields.toNat_pack,
    Fields.number_div_eq_iff]
  constructor
  · intro twins
    exact ⟨twins.kind, twins.fields, twins.random⟩
  · intro same
    exact ⟨same.1, same.2.1, same.2.2⟩

theorem Twins.checksum_eq (twins : Twins left right) : left.checksum = right.checksum := by
  obtain ⟨kind, symbols⟩ := twins_iff.mp twins
  rw [checksum, checksum, kind]
  exact Checksum.ofSymbols_eq_of_take _ (Body.length_symbols _) (Body.length_symbols _) symbols

/-! ## Replaced characters -/

/-- The spelling of an identifier with its checksum, where the last two characters of the payload
are given. -/
def ending (id : Identifier) (last : List Char) : Spelling :=
  { id.spelling true with payload := id.payload.take 30 ++ last }

theorem length_take_payload (id : Identifier) : (id.payload.take 30).length = 30 := by
  rw [List.length_take, payload, Payload.length_encode]
  rfl

theorem length_drop_payload (id : Identifier) : (id.payload.drop 30).length = 2 := by
  rw [List.length_drop, payload, Payload.length_encode]

theorem chars_ending (id : Identifier) (last : List Char) :
    (id.ending last).chars =
      (id.kind.name.toList ++ '_' :: id.payload.take 30) ++ (last ++ '-' :: id.checksum.toChars) := by
  simp [Spelling.chars, Spelling.base, ending, spelling]

theorem toChars_eq_ending (id : Identifier) :
    id.toChars true = (id.ending (id.payload.drop 30)).chars := by
  rw [← chars_spelling, ending, List.take_append_drop]
  rfl

/-- One of the last two characters is replaced, and nothing else. -/
theorem set_chars_ending {last : List Char} (two : last.length = 2) {position : Nat}
    (place : position = id.kind.name.toList.length + 31 ∨
      position = id.kind.name.toList.length + 32) (c : Char) :
    (id.ending last).chars.set position c =
      (id.ending (last.set (position - (id.kind.name.toList.length + 31)) c)).chars := by
  have front : (id.kind.name.toList ++ '_' :: id.payload.take 30).length =
      id.kind.name.toList.length + 31 := by
    rw [List.length_append, List.length_cons, length_take_payload]
  rw [chars_ending, chars_ending, List.set_append_right _ _ (by omega), front,
    List.set_append_left _ _ (by omega)]

/-- However often the last two characters are replaced, they are accepted ones, and nothing else
changes. -/
theorem exists_ending_of_replace {replacements : List (Nat × Char)}
    (places : ∀ position c, (position, c) ∈ replacements →
      (position = id.kind.name.toList.length + 31 ∨
        position = id.kind.name.toList.length + 32) ∧ Symbol.Accepted c)
    {last : List Char} (two : last.length = 2) (accepted : ∀ c ∈ last, Symbol.Accepted c) :
    ∃ final : List Char, final.length = 2 ∧ (∀ c ∈ final, Symbol.Accepted c) ∧
      Text.replace (id.ending last).chars replacements = (id.ending final).chars := by
  induction replacements generalizing last with
  | nil => exact ⟨last, two, accepted, rfl⟩
  | cons replacement rest ih =>
      cases replacement with
      | mk position c =>
          obtain ⟨place, letter⟩ := places position c (by simp)
          have first : Text.replace (id.ending last).chars ((position, c) :: rest) =
              Text.replace ((id.ending last).chars.set position c) rest := rfl
          rw [first, set_chars_ending two place]
          apply ih
          · intro later d member
            exact places later d (by simp [member])
          · rw [List.length_set, two]
          · intro d member
            cases List.mem_or_eq_of_mem_set member with
            | inl before => exact accepted d before
            | inr equal => rwa [equal]

/-- The payload spells the first 30 symbols and two others. -/
theorem exists_symbols_ending (id : Identifier) {last : List Char}
    (accepted : ∀ c ∈ last, Symbol.Accepted c) :
    ∃ symbols : List Symbol, symbols.length = last.length ∧
      (id.ending last).payload.map Symbol.ofChar? =
        (id.body.symbols.take 30 ++ symbols).map some := by
  obtain ⟨symbols, read⟩ := Payload.exists_symbols accepted
  have written : id.payload.map Symbol.ofChar? = id.body.symbols.map some :=
    (Payload.decode_eq_ok_iff.mp (Payload.decode_encode id.body)).2
  refine ⟨symbols, (Payload.length_eq_of_map_eq read).symm, ?_⟩
  rw [ending, List.map_append, List.map_take, written, read, List.map_append, List.map_take]

section Ending

variable {last : List Char} (two : last.length = 2) (accepted : ∀ c ∈ last, Symbol.Accepted c)
include two accepted

theorem compute_ending : Checksum.compute (id.ending last).base = .ok id.checksum := by
  obtain ⟨symbols, count, read⟩ := exists_symbols_ending id accepted
  have length_body : id.body.symbols.length = 32 := Body.length_symbols id.body
  have same : Checksum.ofSymbols (Checksum.label id.kind.name.toList)
      (id.body.symbols.take 30 ++ symbols) = id.checksum := by
    apply Checksum.ofSymbols_eq_of_take
    · rw [List.length_append, List.length_take, length_body, count, two]
      rfl
    · exact length_body
    · exact List.take_append_of_le_length (by simp [length_body]) |>.trans (by simp)
  have base : (id.ending last).base =
      id.kind.name.toList ++ '_' :: (id.ending last).payload := rfl
  rw [base, Checksum.compute_append id.kind.wellFormed, Payload.readSymbols_eq_ok_iff.mpr read,
    Kind.map_toLower_of_accepts id.kind.wellFormed, ← same]
  rfl

theorem wellFormed_ending : (id.ending last).WellFormed := by
  have written := id.wellFormed_spelling true
  refine ⟨written.name, ?_, ?_, ?_⟩
  · rw [ending, List.length_append, length_take_payload, two]
  · intro c member
    cases List.mem_append.mp member with
    | inl before => exact written.payload c (List.mem_of_mem_take before)
    | inr behind => exact Symbol.accepted_iff.mp (accepted c behind)
  · intro given present
    cases present
    exact ⟨Checksum.length_toChars _, id.checksum, compute_ending two accepted, rfl⟩

/-- With any accepted characters in the last two places the text is read as a twin. -/
theorem exists_twin_of_ending :
    ∃ read, parse (String.ofList (id.ending last).chars) = .ok read ∧ Twins id read := by
  have wellFormed : (id.ending last).WellFormed := wellFormed_ending two accepted
  obtain ⟨read, denotes⟩ := Spelling.exists_denotes wellFormed
  have stands : (id.ending last).StandsIn (String.ofList (id.ending last).chars) := by
    refine ⟨[], [], ?_, by simp, by simp⟩
    rw [String.toList_ofList, List.nil_append, List.append_nil]
  obtain ⟨symbols, _, spelled⟩ := exists_symbols_ending id accepted
  have decoded := (Spelling.decode_payload_iff wellFormed).mpr denotes.fields
  have symbols_eq : id.body.symbols.take 30 ++ symbols = read.body.symbols := by
    rw [(Payload.decode_eq_ok_iff.mp decoded).2] at spelled
    exact (List.map_injective_iff.mpr (Option.some_injective Symbol) spelled).symm
  refine ⟨read, (Spelling.parse_eq_ok_iff wellFormed stands).mpr denotes, twins_iff.mpr ⟨?_, ?_⟩⟩
  · apply Kind.eq_of_name_eq
    apply String.toList_injective
    exact denotes.kind.symm
  · rw [← symbols_eq, List.take_append_of_le_length (by simp [Body.symbolCount])]
    simp

end Ending

theorem accepted_drop_payload (id : Identifier) : ∀ c ∈ id.payload.drop 30, Symbol.Accepted c := by
  intro c member
  exact Spelling.accepted_payload (id.wellFormed_spelling true) c (List.mem_of_mem_drop member)

/-- Replacing two characters reaches every identifier that differs at most in these bits. -/
theorem exists_replace_of_twins {other : Identifier} (twins : Twins id other) :
    ∃ first second, Symbol.Accepted first ∧ Symbol.Accepted second ∧
      Text.replace (id.encode true).toList
        [(id.kind.name.toList.length + 31, first), (id.kind.name.toList.length + 32, second)] =
          (other.encode true).toList := by
  obtain ⟨kind, symbols⟩ := twins_iff.mp twins
  obtain ⟨first, second, behind⟩ := List.length_eq_two.mp (length_drop_payload other)
  obtain ⟨before, after, old⟩ := List.length_eq_two.mp (length_drop_payload id)
  have front : other.payload.take 30 = id.payload.take 30 := by
    rw [payload, payload, Payload.encode, Payload.encode, ← List.map_take, ← List.map_take,
      symbols]
  have written : other.toChars true = (id.ending [first, second]).chars := by
    rw [toChars_eq_ending, behind, chars_ending, chars_ending, front, kind, twins.checksum_eq]
  have next : id.kind.name.toList.length + 32 - (id.kind.name.toList.length + 31) = 1 := by omega
  have accepted : ∀ c ∈ [first, second], Symbol.Accepted c := by
    rw [← behind]
    exact accepted_drop_payload other
  refine ⟨first, second, accepted first (by simp), accepted second (by simp), ?_⟩
  rw [encode, encode, String.toList_ofList, String.toList_ofList, written, toChars_eq_ending, old]
  simp only [Text.replace, List.foldl_cons, List.foldl_nil]
  rw [set_chars_ending rfl (.inl rfl), Nat.sub_self, set_chars_ending rfl (.inr rfl), next]
  rfl

/-- Identifiers that differ at most in the ten low bits of the random field have the same checksum,
and replacing the last two characters of the payload leads from the text of one to that of the other.
If any of these two characters of a text with its checksum are replaced by accepted ones, the text is
still read, and the identifier read differs at most in these bits. -/
theorem blind_spot (id : Identifier) :
    (∀ other, Twins id other → other.checksum = id.checksum ∧
      ∃ first second, Symbol.Accepted first ∧ Symbol.Accepted second ∧
        Text.replace (id.encode true).toList
          [(id.kind.name.toList.length + 31, first), (id.kind.name.toList.length + 32, second)] =
            (other.encode true).toList) ∧
    ∀ replacements : List (Nat × Char),
      (∀ position c, (position, c) ∈ replacements →
        (position = id.kind.name.toList.length + 31 ∨
          position = id.kind.name.toList.length + 32) ∧ Symbol.Accepted c) →
      ∃ read, parse (String.ofList (Text.replace (id.encode true).toList replacements)) = .ok read ∧
        Twins id read := by
  constructor
  · intro other twins
    exact ⟨twins.checksum_eq.symm, exists_replace_of_twins twins⟩
  · intro replacements places
    obtain ⟨final, twoFinal, acceptedFinal, shape⟩ :=
      exists_ending_of_replace places (length_drop_payload id) (accepted_drop_payload id)
    rw [encode, String.toList_ofList, toChars_eq_ending, shape]
    exact exists_twin_of_ending twoFinal acceptedFinal

/-- All ten bits change, and both characters are replaced, by one in uppercase and one that looks
like a digit. -/
theorem blind_spot_mixedCaseOrder :
    let other : Identifier := { mixedCaseOrder with
      fields := { mixedCaseOrder.fields with random := 0x2a6901b86690ce7 } }
    Twins mixedCaseOrder other ∧ other.checksum = mixedCaseOrder.checksum ∧
      ∃ read, parse "order_00myngy59c0003000dfk59mg3e36j3Xl-9xgg" = .ok read ∧
        Twins mixedCaseOrder read := by
  intro other
  have twins : Twins mixedCaseOrder other := ⟨rfl, rfl, by decide⟩
  have places : ∀ position c, (position, c) ∈ [(36, 'X'), (37, 'l')] →
      (position = mixedCaseOrder.kind.name.toList.length + 31 ∨
        position = mixedCaseOrder.kind.name.toList.length + 32) ∧ Symbol.Accepted c := by
    intro position c member
    simp only [List.mem_cons, Prod.mk.injEq, List.not_mem_nil, or_false] at member
    obtain ⟨rfl, rfl⟩ | ⟨rfl, rfl⟩ := member
    · exact ⟨by decide, by decide +kernel⟩
    · exact ⟨by decide, by decide +kernel⟩
  have replaced : String.ofList (Text.replace (mixedCaseOrder.encode true).toList
      [(36, 'X'), (37, 'l')]) = "order_00myngy59c0003000dfk59mg3e36j3Xl-9xgg" := by
    decide +kernel
  obtain ⟨shared, accepted⟩ := blind_spot mixedCaseOrder
  have read := accepted [(36, 'X'), (37, 'l')] places
  rw [replaced] at read
  exact ⟨twins, (shared other twins).1, read⟩

end Identifier

end SortableId
