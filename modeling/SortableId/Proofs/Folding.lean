import SortableId.Proofs.RoundTrip

/-!
# Folding

An identifier is read from many spellings: the payload may mix cases and use letters that look like
digits, and the checksum may mix cases.  A payload folds to the payload that is written for its
body, so the checksum that is computed from a text agrees with the one that is computed from the
identifier, for every spelling.
-/

namespace SortableId

namespace Text

theorem toUpper_of_le_toNat {c : Char} (beyond : 128 ≤ c.toNat) : c.toUpper = c := by
  have notLower : ¬(c.val ≥ 'a'.val ∧ c.val ≤ 'z'.val) := by
    intro lower
    have atMost : c.toNat ≤ 122 := UInt32.le_iff_toNat_le.mp lower.2
    omega
  rw [Char.toUpper, dif_neg notLower]

theorem toLower_toUpper (c : Char) : c.toUpper.toLower = c.toLower := by
  by_cases ascii : c.toNat < 128
  · exact of_ascii (fun c => c.toUpper.toLower = c.toLower) (by decide) ascii
  · rw [toUpper_of_le_toNat (Nat.le_of_not_lt ascii)]

@[simp] theorem toLower_toLower (c : Char) : c.toLower.toLower = c.toLower := by
  by_cases ascii : c.toNat < 128
  · exact of_ascii (fun c => c.toLower.toLower = c.toLower) (by decide) ascii
  · rw [toLower_of_le_toNat (Nat.le_of_not_lt ascii),
      toLower_of_le_toNat (Nat.le_of_not_lt ascii)]

/-- A character has its own case or the upper case of its lowercase letter. -/
theorem eq_toLower_or_eq_toUpper (c : Char) : c = c.toLower ∨ c = c.toLower.toUpper := by
  by_cases ascii : c.toNat < 128
  · exact of_ascii (fun c => c = c.toLower ∨ c = c.toLower.toUpper) (by decide) ascii
  · exact .inl (toLower_of_le_toNat (Nat.le_of_not_lt ascii)).symm

/-- The text, with any of its letters in upper case. -/
def CaseVariant (given text : List Char) : Prop :=
  List.Forall₂ (fun c plain => c = plain ∨ c = plain.toUpper) given text

/-- The case variants of a lowercase text are the texts that fold to it. -/
theorem caseVariant_iff {given text : List Char} (lower : text.map Char.toLower = text) :
    CaseVariant given text ↔ given.map Char.toLower = text := by
  constructor
  · intro variant
    rw [← lower]
    clear lower
    induction variant with
    | nil => rfl
    | cons first _ ih =>
        rw [List.map_cons, List.map_cons, ih]
        rcases first with same | upper
        · rw [same]
        · rw [upper, toLower_toUpper]
  · rintro rfl
    clear lower
    induction given with
    | nil => exact .nil
    | cons c rest ih => exact .cons (eq_toLower_or_eq_toUpper c) ih

end Text

namespace Checksum

/-- The checksum guards a text: it is the one computed from the text, and exactly its case variants
verify. -/
structure Guards (checksum : Checksum) (base : List Char) : Prop where
  compute : compute base = .ok checksum
  verify : ∀ given, verify base given = true ↔ Text.CaseVariant given checksum.toChars

theorem guards_of_compute {checksum : Checksum} {base : List Char}
    (computed : Checksum.compute base = .ok checksum) : checksum.Guards base where
  compute := computed
  verify := by
    intro given
    rw [Text.caseVariant_iff (map_toLower_toChars checksum), ← spelledBy_iff]
    simp only [Checksum.verify, computed]

end Checksum

namespace Spelling

/-- A spelling has the checksum of the identifier that it denotes. -/
theorem compute_base {spelling : Spelling} (wellFormed : spelling.WellFormed) {id : Identifier}
    (denotes : spelling.Denotes id) : Checksum.compute spelling.base = .ok id.checksum :=
  Identifier.compute_of_parseBase ((parseBase_eq_ok_iff_denotes wellFormed).mpr denotes)

theorem map_toLower_suffix {spelling : Spelling} (wellFormed : spelling.WellFormed)
    {id : Identifier} (denotes : spelling.Denotes id) {given : List Char}
    (present : spelling.suffix = some given) :
    given.map Char.toLower = id.checksum.toChars := by
  rcases wellFormed.suffix given present with ⟨_, checksum, computed, spelled⟩
  rw [compute_base wellFormed denotes] at computed
  rw [spelled, Checksum.map_toLower_toChars, Except.ok.inj computed]

theorem isAlphanum_of_mem_suffix {spelling : Spelling} (wellFormed : spelling.WellFormed)
    {given : List Char} (present : spelling.suffix = some given) :
    ∀ c ∈ given, c.isAlphanum = true := by
  rcases wellFormed.suffix given present with ⟨_, checksum, _, spelled⟩
  rw [Checksum.map_toLower_toChars] at spelled
  exact Checksum.isAlphanum_of_map_toLower_eq spelled

theorem chars_of_suffix_eq_none {spelling : Spelling} (absent : spelling.suffix = none) :
    spelling.chars = spelling.base := by
  rw [chars, absent]

theorem chars_of_suffix_eq_some {spelling : Spelling} {given : List Char}
    (present : spelling.suffix = some given) :
    spelling.chars = spelling.base ++ '-' :: given := by
  rw [chars, present]

theorem hyphen_mem_chars_iff {spelling : Spelling} (wellFormed : spelling.WellFormed) :
    '-' ∈ spelling.chars ↔ spelling.suffix.isSome = true := by
  cases suffixEq : spelling.suffix with
  | none =>
      rw [chars_of_suffix_eq_none suffixEq]
      simp [hyphen_not_mem_base wellFormed]
  | some given =>
      rw [chars_of_suffix_eq_some suffixEq]
      simp

/-- No other hyphen stands in a spelling than the one in front of the suffix. -/
theorem eq_of_chars_eq_append {spelling : Spelling} (wellFormed : spelling.WellFormed)
    {base given : List Char} (shape : spelling.chars = base ++ '-' :: given) :
    spelling.base = base ∧ spelling.suffix = some given := by
  have present : spelling.suffix.isSome = true := by
    rw [← hyphen_mem_chars_iff wellFormed, shape]
    simp
  rcases Option.isSome_iff_exists.mp present with ⟨found, suffixEq⟩
  have behind : '-' ∉ found :=
    Text.not_mem_of_isAlphanum rfl (isAlphanum_of_mem_suffix wellFormed suffixEq)
  rw [chars_of_suffix_eq_some suffixEq,
    List.append_cons_inj_of_notMem (hyphen_not_mem_base wellFormed) behind] at shape
  rw [suffixEq, shape.2.2]
  exact ⟨shape.1, rfl⟩

end Spelling

namespace Identifier

/-- The checksum that is computed from a text is that of the identifier that the text is read as.
-/
theorem guards_of_parse (id : Identifier) :
    (∀ base : String, '-' ∉ base.toList → Text.Blank.trim base.toList = base.toList →
      parse base = .ok id →
        id.checksum.Guards base.toList ∧ id.checksum.Guards (id.encode false).toList) ∧
    ∀ (input : String) (base given : List Char), parse input = .ok id →
      Text.Blank.trim input.toList = base ++ '-' :: given →
        given.map Char.toLower = id.checksum.toChars ∧ id.checksum.Guards base := by
  constructor
  · intro base noHyphen bare read
    rcases Spelling.exists_of_parse read with ⟨spelling, wellFormed, shape, denotes⟩
    rw [bare] at shape
    have alone : spelling.suffix = none := by
      rw [shape, Spelling.hyphen_mem_chars_iff wellFormed] at noHyphen
      simpa using noHyphen
    rw [shape, Spelling.chars_of_suffix_eq_none alone, encode, String.toList_ofList]
    exact ⟨Checksum.guards_of_compute (Spelling.compute_base wellFormed denotes),
      Checksum.guards_of_compute (compute_baseChars id)⟩
  · intro input base given read shape
    rcases Spelling.exists_of_parse read with ⟨spelling, wellFormed, chars_eq, denotes⟩
    rw [chars_eq] at shape
    rcases Spelling.eq_of_chars_eq_append wellFormed shape with ⟨rfl, present⟩
    exact ⟨Spelling.map_toLower_suffix wellFormed denotes present,
      Checksum.guards_of_compute (Spelling.compute_base wellFormed denotes)⟩

theorem accepts_order : Kind.accepts "order".toList = true := by decide

/-- The order of the mixed spelling. -/
def mixedCaseOrder : Identifier where
  kind := ⟨"order", accepts_order⟩
  fields := ⟨180032357707, .first, 12, 0, 13811, 0x2a6901b86690f18⟩

theorem parse_mixedCaseOrder :
    parse "\u3000order_OoMYNGY59C0003000DFK59MG3E36J3rr-9XgG\n" = .ok mixedCaseOrder := by
  decide +kernel

theorem parse_bareMixedCaseOrder :
    parse "order_OoMYNGY59C0003000DFK59MG3E36J3rr" = .ok mixedCaseOrder := by
  decide +kernel

/-- The mixed spelling without its suffix, and with it between white space. -/
theorem guards_of_parse_mixedCase :
    '-' ∉ "order_OoMYNGY59C0003000DFK59MG3E36J3rr".toList ∧
      parse "order_OoMYNGY59C0003000DFK59MG3E36J3rr" = .ok mixedCaseOrder ∧
      mixedCaseOrder.checksum.Guards "order_OoMYNGY59C0003000DFK59MG3E36J3rr".toList ∧
      mixedCaseOrder.checksum.Guards (mixedCaseOrder.encode false).toList ∧
      parse "\u3000order_OoMYNGY59C0003000DFK59MG3E36J3rr-9XgG\n" = .ok mixedCaseOrder ∧
      ['9', 'X', 'g', 'G'].map Char.toLower = mixedCaseOrder.checksum.toChars := by
  have noHyphen : '-' ∉ "order_OoMYNGY59C0003000DFK59MG3E36J3rr".toList := by decide +kernel
  have bare : Text.Blank.trim "order_OoMYNGY59C0003000DFK59MG3E36J3rr".toList =
      "order_OoMYNGY59C0003000DFK59MG3E36J3rr".toList := by decide +kernel
  obtain ⟨alone, suffixed⟩ := guards_of_parse mixedCaseOrder
  obtain ⟨guarded, written⟩ := alone _ noHyphen bare parse_bareMixedCaseOrder
  have spelled := suffixed _ "order_OoMYNGY59C0003000DFK59MG3E36J3rr".toList ['9', 'X', 'g', 'G']
    parse_mixedCaseOrder (by decide +kernel)
  exact ⟨noHyphen, parse_bareMixedCaseOrder, guarded, written, parse_mixedCaseOrder, spelled.1⟩

end Identifier

end SortableId
