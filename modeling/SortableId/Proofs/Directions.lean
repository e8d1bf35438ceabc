import SortableId.Proofs.Canonical
import SortableId.Proofs.Regeneration

/-!
# The two directions of a check

A case is checked by writing its values and by reading its text.  If writing passes, then reading
can only fail on the time, which is clamped and wraps when it is written.  If reading passes, then
the values can be written, and they give the text back exactly when it is in canonical form.
-/

namespace SortableId

namespace Time

/-- The instants that a time can count: from the epoch on, as far as 48 bits reach. -/
def InRange (unixMs : BitVec 64) : Prop := epochMs ≤ unixMs.toNat ∧ unixMs.toNat < endMs

instance (unixMs : BitVec 64) : Decidable (InRange unixMs) :=
  inferInstanceAs (Decidable (_ ∧ _))

theorem toUnixMs_ofUnixMs_eq_iff {unixMs : BitVec 64} :
    (ofUnixMs unixMs).toUnixMs = unixMs.toNat ↔ InRange unixMs := by
  constructor
  · intro same
    rw [InRange, ← same]
    exact ⟨epochMs_le_toUnixMs _, toUnixMs_lt _⟩
  · intro inRange
    exact toUnixMs_ofUnixMs inRange.1 inRange.2

theorem ofUnixMs_of_toUnixMs_eq {time : Time} {unixMs : BitVec 64}
    (same : time.toUnixMs = unixMs.toNat) : ofUnixMs unixMs = time := by
  have counted : unixMs.toNat - epochMs = time.toNat := by
    rw [← same, toUnixMs]
    omega
  rw [ofUnixMs, counted, BitVec.ofNat_toNat, BitVec.setWidth_eq]

end Time

namespace Text.Blank

theorem mem_trim_iff {c : Char} (visible : isBlank c = false) {text : List Char} :
    c ∈ trim text ↔ c ∈ text := by
  rcases exists_eq_append_trim text with ⟨front, back, shape, frontBlank, backBlank⟩
  have notFront : c ∉ front := by
    intro member
    rw [frontBlank c member] at visible
    contradiction
  have notBack : c ∉ back := by
    intro member
    rw [backBlank c member] at visible
    contradiction
  constructor
  · intro member
    rw [shape]
    simp [member]
  · intro member
    rw [shape] at member
    simpa [notFront, notBack] using member

end Text.Blank

namespace Identifier

/-- What is written is read back. -/
theorem parse_eq_ok_of_encode (id : Identifier) {withChecksum : Bool} {text : String}
    (written : id.encode withChecksum = text) : parse text = .ok id := by
  have stands : (id.spelling withChecksum).StandsIn text := by
    rw [Spelling.standsIn_iff (wellFormed_spelling id withChecksum), chars_spelling, ← written,
      encode, String.toList_ofList, ← chars_spelling]
    exact Text.Blank.trim_of_visible
      (Spelling.isBlank_of_mem_chars (wellFormed_spelling id withChecksum))
  rw [Spelling.parse_eq_ok_iff (wellFormed_spelling id withChecksum) stands]
  exact denotes_spelling id withChecksum

/-- The canonical form of a text: nothing stands around the identifier, no letter is in uppercase,
and no letter of the payload looks like a digit. -/
structure CanonicalForm (text : String) : Prop where
  bare : Text.Blank.trim text.toList = text.toList
  lower : ∀ c ∈ text.toList, c.isUpper = false
  plain : ∀ c ∈ (Spelling.ofString text).payload, c ≠ 'i' ∧ c ≠ 'l' ∧ c ≠ 'o'

/-- An identifier that was read is written as its text, with a checksum if the text has a hyphen,
exactly when the text is in canonical form. -/
theorem encode_eq_iff_canonicalForm {text : String} {id : Identifier}
    (read : parse text = .ok id) :
    id.encode (decide ('-' ∈ text.toList)) = text ↔ CanonicalForm text := by
  rcases Spelling.exists_of_parse read with ⟨spelling, wellFormed, shape, denotes⟩
  have parts : Spelling.ofString text = spelling := by
    rw [Spelling.ofString, shape, Spelling.ofText_chars wellFormed]
  have flag : decide ('-' ∈ text.toList) = decide ('-' ∈ spelling.chars) := by
    rw [← shape, decide_eq_decide, Text.Blank.mem_trim_iff rfl]
  rw [flag, Spelling.encode_eq_ofList_folded wellFormed denotes,
    Spelling.ofList_folded_eq_iff wellFormed denotes shape, Spelling.folded_eq_self_iff wellFormed]
  constructor
  · rintro ⟨bare, lower, plain⟩
    exact ⟨shape.trans bare, bare ▸ lower, parts ▸ plain⟩
  · intro canonical
    have bare := shape.symm.trans canonical.bare
    exact ⟨bare, bare.symm ▸ canonical.lower, parts ▸ canonical.plain⟩

end Identifier

namespace Conformance.Case

/-- The fields that a case states, with the random field given. -/
def fields (item : Case) (random : BitVec 64) : Fields where
  time := Time.ofUnixMs item.unixMs
  flags := ⟨item.flags⟩
  tenant := item.tenant
  seq := item.seq.setWidth 12
  shard := item.shard
  random := random.setWidth 60

theorem components_eq {item : Case} {components : Components}
    (stated : item.components = .ok components) :
    components.kind = item.kind ∧ components.fields = item.fields components.random := by
  unfold Case.components Components.withRandomHex at stated
  split at stated
  · contradiction
  · cases Except.ok.inj stated
    exact ⟨rfl, rfl⟩

/-- The values of a case stand for the identifier of its kind with its fields. -/
theorem identifier_eq_ok_iff {item : Case} {components : Components}
    (stated : item.components = .ok components) {id : Identifier} :
    item.identifier = .ok id ↔
      id.kind.name = item.kind ∧ id.fields = item.fields components.random := by
  rcases components_eq stated with ⟨kind_eq, fields_eq⟩
  rw [identifier, stated, ← kind_eq, ← fields_eq]
  change Identifier.ofComponents components = .ok id ↔ _
  unfold Identifier.ofComponents
  cases named : Kind.ofString? components.kind with
  | none =>
      simp only [reduceCtorEq, false_iff, not_and]
      intro kind_name
      rw [← kind_name, Kind.ofString?_name] at named
      contradiction
  | some kind =>
      rw [Kind.ofString?_eq_some_iff] at named
      simp only [Except.ok.injEq]
      constructor
      · rintro rfl
        exact ⟨named, rfl⟩
      · rintro ⟨kind_name, fields_eq⟩
        have same : kind = id.kind := by
          have found := Kind.ofString?_name id.kind
          rw [kind_name, ← named, Kind.ofString?_name] at found
          exact Option.some.inj found
        rw [same, ← fields_eq]

theorem exists_components {item : Case} {id : Identifier} (made : item.identifier = .ok id) :
    ∃ components, item.components = .ok components := by
  cases stated : item.components with
  | error =>
      rw [identifier, stated] at made
      contradiction
  | ok components => exact ⟨components, rfl⟩

/-- The time of an identifier beside the instant of a case. -/
def timeComparison (item : Case) (id : Identifier) : Comparison where
  part := .time
  got := toString id.unixMs
  want := toString item.unixMs.toNat
  equal := id.unixMs == item.unixMs.toNat

variable {item : Case} {id : Identifier} {random : BitVec 64}

/-- Where kind and fields agree, the time is the only part that can differ. -/
theorem find?_comparisons_of_fields_eq (kind_eq : id.kind.name = item.kind)
    (fields_eq : id.fields = item.fields random) :
    ((item.comparisons id random).find? fun part => !part.equal) =
      if Time.InRange item.unixMs then none else some (item.timeComparison id) := by
  have time_eq : (id.unixMs == item.unixMs.toNat) = decide (Time.InRange item.unixMs) := by
    rw [Identifier.unixMs, fields_eq, Bool.eq_iff_iff, beq_iff_eq, decide_eq_true_iff]
    exact Time.toUnixMs_ofUnixMs_eq_iff
  by_cases inRange : Time.InRange item.unixMs
  · simp [comparisons, kind_eq, fields_eq, fields, time_eq, inRange]
  · simp [comparisons, kind_eq, timeComparison, time_eq, inRange]

/-- Where no part differs, kind and fields agree. -/
theorem fields_eq_of_find?_comparisons
    (same : ((item.comparisons id random).find? fun part => !part.equal) = none) :
    id.kind.name = item.kind ∧ id.fields = item.fields random := by
  simp only [comparisons, List.find?_eq_none, List.forall_mem_cons, Bool.not_eq_true',
    Bool.not_eq_false, beq_iff_eq] at same
  rcases same with ⟨kind_eq, time_eq, flags_eq, tenant_eq, seq_eq, shard_eq, random_eq, _⟩
  refine ⟨kind_eq, ?_⟩
  rcases id with ⟨kind, time, flags, tenant, seq, shard, idRandom⟩
  simp only [fields, Fields.mk.injEq]
  refine ⟨?_, ?_, ?_, ?_, ?_, random_eq⟩
  · exact (Time.ofUnixMs_of_toUnixMs_eq time_eq).symm
  · exact congrArg Flags.mk flags_eq
  · exact BitVec.eq_of_toNat_eq tenant_eq
  · exact BitVec.eq_of_toNat_eq seq_eq
  · exact BitVec.eq_of_toNat_eq shard_eq

/-- A case that encodes to its text reads as its values, unless its time is out of range. -/
theorem checkParse_of_encode (encoded : item.encode = .ok item.id) :
    item.checkParse =
      if Time.InRange item.unixMs then .pass
      else .fail (.otherPart .time (toString (Time.ofUnixMs item.unixMs).toUnixMs)
        (toString item.unixMs.toNat)) := by
  rcases encode_eq_ok_iff.mp encoded with ⟨id, made, written⟩
  rcases exists_components made with ⟨components, stated⟩
  rcases (identifier_eq_ok_iff stated).mp made with ⟨kind_eq, fields_eq⟩
  have got : (Time.ofUnixMs item.unixMs).toUnixMs = id.unixMs := by
    rw [Identifier.unixMs, fields_eq]
    rfl
  simp only [checkParse, Identifier.parse_eq_ok_of_encode id written, stated,
    find?_comparisons_of_fields_eq kind_eq fields_eq, got]
  by_cases inRange : Time.InRange item.unixMs
  · simp [inRange]
  · simp [inRange, timeComparison]

/-- A case whose text reads as its values reads as the identifier that they stand for. -/
theorem exists_identifier_of_checkParse (passes : item.checkParse = .pass) :
    ∃ id, Identifier.parse item.id = .ok id ∧ item.identifier = .ok id := by
  cases read : Identifier.parse item.id with
  | error error => simp [checkParse, read] at passes
  | ok id =>
      cases stated : item.components with
      | error error => simp [checkParse, read, stated] at passes
      | ok components =>
          cases found :
              (item.comparisons id components.random).find? fun part => !part.equal with
          | some part => simp [checkParse, read, stated, found] at passes
          | none =>
              exact ⟨id, rfl,
                (identifier_eq_ok_iff stated).mpr (fields_eq_of_find?_comparisons found)⟩

/-- The directions of a check agree.  Where encoding passes, reading passes exactly for a time in
range, and fails on the time otherwise.  Where reading passes, there is something to encode, and
encoding passes exactly for a text in canonical form. -/
theorem directions_of_check (noError : item.expectError = false) :
    ∃ encode parse, item.check = { encode := some encode, parse } ∧
      (encode = .pass →
        (parse = .pass ↔ Time.InRange item.unixMs) ∧
          (¬Time.InRange item.unixMs →
            parse = .fail (.otherPart .time (toString (Time.ofUnixMs item.unixMs).toUnixMs)
              (toString item.unixMs.toNat)))) ∧
      (parse = .pass →
        (∀ error, encode ≠ .fail (.notEncoded error)) ∧
          (encode = .pass ↔ Identifier.CanonicalForm item.id)) := by
  refine ⟨item.checkEncode, item.checkParse, by simp [check, noError], ?_, ?_⟩
  · intro passes
    rw [checkParse_of_encode (checkEncode_eq_pass_iff.mp passes)]
    by_cases inRange : Time.InRange item.unixMs
    · simp [inRange]
    · simp [inRange]
  · intro passes
    rcases exists_identifier_of_checkParse passes with ⟨id, read, made⟩
    have flag : item.withChecksum = decide ('-' ∈ item.id.toList) := by
      rw [Bool.eq_iff_iff, withChecksum_iff, decide_eq_true_iff]
    have encoded : item.encode = .ok (id.encode (decide ('-' ∈ item.id.toList))) := by
      rw [← flag]
      exact encode_eq_ok_iff.mpr ⟨id, made, rfl⟩
    constructor
    · intro error
      simp only [checkEncode, encoded]
      split
      · simp
      · simp
    · rw [checkEncode_eq_pass_iff, encoded, Except.ok.injEq]
      exact Identifier.encode_eq_iff_canonicalForm read

/-- An order before the epoch, with a sequence number and a random field that are too wide. -/
def early : Case where
  kind := "order"
  unixMs := 5
  seq := 0xf001
  randomHex := "AB0000000000000001"
  id := "order_00000000000000002000000000000001-7gc2"

/-- An order whose text is not in canonical form. -/
def mixedCase : Case where
  kind := "order"
  unixMs := 1757869157707
  tenant := 12
  seq := 0xf000
  shard := 13811
  randomHex := "02a6901b86690f18"
  id := "order_OoMYNGY59C0003000DFK59MG3E36J3rr-9XgG"

/-- The first order encodes to its text and reads as another time; the second reads as its values
and encodes to another text. -/
theorem directions_of_check_early_mixedCase :
    early.expectError = false ∧
      early.check = {
        encode := some .pass
        parse := .fail (.otherPart .time "1577836800000" "5") } ∧
      mixedCase.expectError = false ∧ mixedCase.check.parse = .pass ∧
      (mixedCase.check.encode = some .pass ↔ Identifier.CanonicalForm mixedCase.id) := by
  refine ⟨rfl, ?_, rfl, ?_⟩
  · obtain ⟨encode, parse, checked, written, _⟩ :=
      directions_of_check (rfl : early.expectError = false)
    have passes : early.check.encode = some .pass := by decide +kernel
    rw [checked] at passes
    have encode_eq : encode = .pass := Option.some.inj passes
    rw [checked, encode_eq, (written encode_eq).2 (by decide)]
    decide +kernel
  · obtain ⟨encode, parse, checked, _, read⟩ :=
      directions_of_check (rfl : mixedCase.expectError = false)
    have passes : mixedCase.check.parse = .pass := by decide +kernel
    have parse_eq : parse = .pass := by rw [checked] at passes; exact passes
    rw [checked, parse_eq, ← (read parse_eq).2]
    simp

end Conformance.Case

end SortableId
