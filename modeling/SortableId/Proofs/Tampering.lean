import SortableId.Proofs.Canonical
import SortableId.Proofs.Slips

/-!
# Tampering with one character

Replacing one character of an identifier that is written with its checksum is noticed, unless the
character is one of the last two of the payload.  What is still read afterwards has the same
identifier in another spelling.  The character may be replaced by any other one: one that is no part
of the grammar at that place takes the text out of the grammar, and one that is leaves the other
parts as they are, so that the checksum decides.
-/

namespace SortableId

/-- Where an entry was replaced in two parts around a separator that still stands between them. -/
theorem parts_of_set_eq {α : Type} {front back newFront newBack : List α} {separator entry : α}
    {index : Nat} (sameLength : newFront.length = front.length)
    (shape : (front ++ separator :: back).set index entry = newFront ++ separator :: newBack) :
    (index < front.length ∧ newFront = front.set index entry ∧ newBack = back) ∨
      (index = front.length ∧ entry = separator ∧ newFront = front ∧ newBack = back) ∨
      (front.length < index ∧ newFront = front ∧
        newBack = back.set (index - (front.length + 1)) entry) := by
  rcases Nat.lt_trichotomy index front.length with below | at_separator | above
  · rw [List.set_append_left _ _ below] at shape
    rcases List.append_inj shape (by rw [List.length_set, sameLength]) with ⟨fronts, backs⟩
    exact .inl ⟨below, fronts.symm, (List.cons.inj backs).2.symm⟩
  · rw [at_separator, List.set_append_right _ _ (Nat.le_refl _), Nat.sub_self,
      List.set_cons_zero] at shape
    rcases List.append_inj shape sameLength.symm with ⟨fronts, backs⟩
    rcases List.cons.inj backs with ⟨entry_eq, rest⟩
    exact .inr (.inl ⟨at_separator, entry_eq, fronts.symm, rest.symm⟩)
  · have place : index - front.length = index - (front.length + 1) + 1 := by omega
    rw [List.set_append_right _ _ (Nat.le_of_lt above), place, List.set_cons_succ] at shape
    rcases List.append_inj shape sameLength.symm with ⟨fronts, backs⟩
    exact .inr (.inr ⟨above, fronts.symm, (List.cons.inj backs).2.symm⟩)

namespace Identifier

theorem toChars_true (id : Identifier) :
    id.toChars true = id.baseChars ++ '-' :: id.checksum.toChars := rfl

theorem length_baseChars (id : Identifier) :
    id.baseChars.length = id.kind.name.toList.length + 33 := by
  have payload : id.payload.length = 32 := Payload.length_encode id.body
  rw [baseChars, List.length_append, List.length_cons, payload]

end Identifier

namespace Spelling

variable {spelling : Spelling} {id read : Identifier} {position : Nat} {c : Char}

/-- A text in the grammar keeps the hyphen of the text that it was made from. -/
theorem isSome_suffix_of_set (wellFormed : spelling.WellFormed)
    (shape : (id.toChars true).set position c = spelling.chars) :
    spelling.suffix.isSome = true := by
  by_contra absent
  have alone : spelling.suffix = none := by simpa using absent
  by_cases hyphen : position = id.baseChars.length
  · -- Without the hyphen the checksum would belong to the payload.
    rw [Identifier.toChars_true, hyphen, List.set_append_right _ _ (Nat.le_refl _), Nat.sub_self,
      List.set_cons_zero, chars_of_suffix_eq_none alone, Identifier.baseChars, base,
      List.append_assoc, List.cons_append] at shape
    have split := Kind.splitFirst_of_accepts spelling.payload (accepts_name wellFormed)
    rw [← shape, Kind.splitFirst_of_accepts _ id.kind.wellFormed, Option.some.injEq,
      Prod.mk.injEq] at split
    have length := wellFormed.length_payload
    have payload : id.payload.length = 32 := Payload.length_encode id.body
    rw [← split.2, List.length_append, payload] at length
    simp at length
  · have kept : spelling.chars[id.baseChars.length]? = some '-' := by
      rw [← shape, List.getElem?_set_ne hyphen, Identifier.toChars_true,
        List.getElem?_append_right (Nat.le_refl _), Nat.sub_self]
      rfl
    exact absent ((hyphen_mem_chars_iff wellFormed).mp (List.mem_of_getElem? kept))

/-- A text in the grammar has its parts in the same places as the text that it was made from. -/
theorem exists_suffix_of_set (wellFormed : spelling.WellFormed)
    (shape : (id.toChars true).set position c = spelling.chars) :
    ∃ given, spelling.suffix = some given ∧
      spelling.name.length = id.kind.name.toList.length ∧
      spelling.base.length = id.baseChars.length ∧
      (id.baseChars ++ '-' :: id.checksum.toChars).set position c =
        spelling.base ++ '-' :: given := by
  rcases Option.isSome_iff_exists.mp (isSome_suffix_of_set wellFormed shape) with ⟨given, present⟩
  have parts := shape
  rw [Identifier.toChars_true, chars_of_suffix_eq_some present] at parts
  have given_length : given.length = 4 := (wellFormed.suffix given present).1
  have base_length : spelling.base.length = spelling.name.length + 33 := by
    rw [base, List.length_append, List.length_cons, wellFormed.length_payload]
  have length := congrArg List.length parts
  rw [List.length_set, List.length_append, List.length_append, List.length_cons, List.length_cons,
    Checksum.length_toChars, given_length] at length
  have sameBase : spelling.base.length = id.baseChars.length := by omega
  rw [base_length, Identifier.length_baseChars] at sameBase
  exact ⟨given, present, by omega, by omega, parts⟩

theorem checksum_eq_of_suffix (wellFormed : spelling.WellFormed) (denotes : spelling.Denotes read)
    (present : spelling.suffix = some id.checksum.toChars) : read.checksum = id.checksum := by
  have spelled := map_toLower_suffix wellFormed denotes present
  rw [Checksum.map_toLower_toChars] at spelled
  exact (Checksum.toChars_injective spelled).symm

theorem body_eq_of_payload (wellFormed : spelling.WellFormed) (denotes : spelling.Denotes read)
    (written : spelling.payload = id.payload) : read.body = id.body := by
  have decoded := (decode_payload_iff wellFormed).mpr denotes.fields
  rw [written, Identifier.payload, Payload.decode_encode] at decoded
  exact (Except.ok.inj decoded).symm

/-- With the checksum and the payload as they were, the kind is as it was. -/
theorem name_eq_of_set (wellFormed : spelling.WellFormed) (denotes : spelling.Denotes read)
    (present : spelling.suffix = some id.checksum.toChars) (written : spelling.payload = id.payload)
    (inside : position < id.kind.name.toList.length)
    (changed : spelling.name = id.kind.name.toList.set position c) :
    spelling.name = id.kind.name.toList := by
  have same := checksum_eq_of_suffix wellFormed denotes present
  have renamed := accepts_name wellFormed
  rw [Identifier.checksum, Identifier.checksum, denotes.kind, changed,
    body_eq_of_payload wellFormed denotes written] at same
  rw [changed] at renamed ⊢
  exact Checksum.set_eq_self_of_ofSymbols_label inside id.kind.wellFormed renamed
    (Body.length_symbols id.body) same

/-- With the checksum and the kind as they were, a covered symbol is as it was. -/
theorem body_eq_of_set (wellFormed : spelling.WellFormed) (denotes : spelling.Denotes read)
    (present : spelling.suffix = some id.checksum.toChars)
    (named : spelling.name = id.kind.name.toList) (covered : position + 3 ≤ 32)
    (changed : spelling.payload = id.payload.set position c) : read.body = id.body := by
  have count : id.body.symbols.length = 32 := Body.length_symbols id.body
  have written : id.payload.map Symbol.ofChar? = id.body.symbols.map some :=
    (Payload.decode_eq_ok_iff.mp (Payload.decode_encode id.body)).2
  have decoded := (decode_payload_iff wellFormed).mpr denotes.fields
  have inside : position < id.payload.length := by
    rw [Identifier.payload, Payload.length_encode]
    omega
  have accepted : Symbol.Accepted c := by
    apply accepted_payload wellFormed
    rw [changed]
    exact List.mem_set inside c
  rcases Option.isSome_iff_exists.mp accepted with ⟨symbol, found⟩
  have symbols_eq : read.body.symbols = id.body.symbols.set position symbol := by
    have spelled := (Payload.decode_eq_ok_iff.mp decoded).2
    rw [changed, List.map_set, written, found, ← List.map_set] at spelled
    exact (List.map_injective_iff.mpr (Option.some_injective Symbol) spelled).symm
  have same := checksum_eq_of_suffix wellFormed denotes present
  rw [Identifier.checksum, Identifier.checksum, denotes.kind, named, symbols_eq] at same
  rw [Checksum.set_eq_self_of_ofSymbols (by omega) (by omega) same] at symbols_eq
  rw [← Body.ofSymbols_symbols read.body, symbols_eq, Body.ofSymbols_symbols]

theorem eq_of_name_of_body (denotes : spelling.Denotes read)
    (named : spelling.name = id.kind.name.toList) (bodies : read.body = id.body) : read = id := by
  apply Identifier.eq_of_baseChars_eq
  rw [Identifier.baseChars, Identifier.baseChars, Identifier.payload, Identifier.payload,
    denotes.kind, named, bodies]

/-- What is read from a text in the grammar that differs in one covered character is the same
identifier. -/
theorem eq_of_set (wellFormed : spelling.WellFormed) (denotes : spelling.Denotes read)
    (covered : position ≠ id.kind.name.toList.length + 31 ∧
      position ≠ id.kind.name.toList.length + 32)
    (shape : (id.toChars true).set position c = spelling.chars) : read = id := by
  rcases exists_suffix_of_set wellFormed shape with
    ⟨given, present, name_length, base_length, parts⟩
  rcases parts_of_set_eq base_length parts with
    ⟨inBase, base_eq, rfl⟩ | ⟨_, _, base_eq, _⟩ | ⟨_, base_eq, _⟩
  · rw [base, Identifier.baseChars] at base_eq
    rcases parts_of_set_eq name_length base_eq.symm with
      ⟨inName, changed, written⟩ | ⟨_, _, named, written⟩ | ⟨_, named, changed⟩
    · exact eq_of_name_of_body denotes
        (name_eq_of_set wellFormed denotes present written inName changed)
        (body_eq_of_payload wellFormed denotes written)
    · exact eq_of_name_of_body denotes named (body_eq_of_payload wellFormed denotes written)
    · rw [Identifier.length_baseChars] at inBase
      exact eq_of_name_of_body denotes named
        (body_eq_of_set wellFormed denotes present named (by omega) changed)
  -- Outside the base the kind and the payload are those of the identifier itself.
  all_goals
    rw [base, Identifier.baseChars] at base_eq
    rcases List.append_inj base_eq name_length with ⟨named, rest⟩
    exact eq_of_name_of_body denotes named
      (body_eq_of_payload wellFormed denotes (List.cons.inj rest).2)

end Spelling

namespace Identifier

/-- If a text that differs from an identifier written with its checksum in one character, outside
the last two of the payload, is still read, then it is read as the same identifier, and the
character was replaced by itself, by its other case, or by one that looks like it. -/
theorem eq_of_parse_set {id read : Identifier} {position : Nat} {c : Char}
    (covered : position ≠ id.kind.name.toList.length + 31 ∧
      position ≠ id.kind.name.toList.length + 32)
    (visible : Text.Blank.isBlank c = false)
    (accepted : parse (String.ofList ((id.encode true).toList.set position c)) = .ok read) :
    read = id ∧ ∀ old, (id.encode true).toList[position]? = some old →
      Symbol.fold c = Symbol.fold old := by
  rw [encode, String.toList_ofList] at accepted ⊢
  rcases Spelling.exists_of_parse accepted with ⟨spelling, wellFormed, shape, denotes⟩
  have allVisible : ∀ d ∈ (id.toChars true).set position c, Text.Blank.isBlank d = false := by
    intro d member
    rcases List.mem_or_eq_of_mem_set member with before | rfl
    · rw [← chars_spelling] at before
      exact Spelling.isBlank_of_mem_chars (wellFormed_spelling id true) d before
    · exact visible
  rw [String.toList_ofList, Text.Blank.trim_of_visible allVisible] at shape
  have same : read = id := Spelling.eq_of_set wellFormed denotes covered shape
  refine ⟨same, ?_⟩
  intro old found
  have folded : ((id.toChars true).map Symbol.fold) =
      ((id.toChars true).map Symbol.fold).set position (Symbol.fold c) := by
    have canonical := Spelling.map_fold_folded wellFormed
    rw [Spelling.folded_eq_spelling wellFormed denotes,
      Spelling.isSome_suffix_of_set wellFormed shape, chars_spelling, same, ← shape,
      List.map_set] at canonical
    exact canonical
  have inside : position < ((id.toChars true).map Symbol.fold).length := by
    rw [List.length_map]
    exact (List.getElem?_eq_some_iff.mp found).1
  have entry := congrArg (·[position]?) folded
  rw [List.getElem?_set_self inside, List.getElem?_map, found] at entry
  exact (Option.some.inj entry).symm

/-- The letter in place of the first digit of the payload. -/
theorem eq_of_parse_set_lookalike :
    Text.Blank.isBlank 'O' = false ∧
      parse "order_O0myngy59c0003000dfk59mg3e36j3rr-9xgg" = .ok mixedCaseOrder ∧
      (mixedCaseOrder.encode true).toList[6]? = some '0' ∧
      Symbol.fold 'O' = Symbol.fold '0' := by
  have visible : Text.Blank.isBlank 'O' = false := by decide +kernel
  have replaced : String.ofList ((mixedCaseOrder.encode true).toList.set 6 'O') =
      "order_O0myngy59c0003000dfk59mg3e36j3rr-9xgg" := by decide +kernel
  have accepted : parse "order_O0myngy59c0003000dfk59mg3e36j3rr-9xgg" = .ok mixedCaseOrder := by
    decide +kernel
  have found : (mixedCaseOrder.encode true).toList[6]? = some '0' := by decide +kernel
  have covered : 6 ≠ mixedCaseOrder.kind.name.toList.length + 31 ∧
      6 ≠ mixedCaseOrder.kind.name.toList.length + 32 := by decide +kernel
  rw [← replaced] at accepted
  have looksAlike := (eq_of_parse_set covered visible accepted).2 '0' found
  rw [replaced] at accepted
  exact ⟨visible, accepted, found, looksAlike⟩

end Identifier

end SortableId
