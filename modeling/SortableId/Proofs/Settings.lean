import SortableId.Program.Settings
import SortableId.Proofs.Reading

/-!
# What variables give

A variable that is to hold a number holds a decimal numeral of its range, with or without a plus
sign; a minus sign has no place in front of a number without negative values, not even of zero.
Variables that are not set give zero.  The variables are read if and only if none of the three
numbers is set to anything else.
-/

namespace SortableId

namespace Text.Integer

/-- The text behind a plus sign, if it has one. -/
def withoutPlus : List Char → List Char
  | '+' :: rest => rest
  | text => text

/-- The text is a decimal numeral of the value: one or more ASCII digits, behind a plus sign or
alone. -/
structure Writes (text : String) (value : Nat) : Prop where
  notEmpty : withoutPlus text.toList ≠ []
  digits : ∀ c ∈ withoutPlus text.toList, c.isDigit = true
  value_eq : Nat.ofDigitChars 10 (withoutPlus text.toList) 0 = value

theorem le_ofDigitChars (digits : List Char) (value : Nat) :
    value ≤ Nat.ofDigitChars 10 digits value := by
  induction digits generalizing value with
  | nil => exact Nat.le_refl value
  | cons c rest ih =>
      rw [Nat.ofDigitChars_cons]
      exact Nat.le_trans (by omega) (ih _)

/-- Digits are read to the end as long as the value stays within the limit, and it only grows. -/
theorem readDigits_eq_ok_iff {limit value result : Nat} {beyond : Fault} {text : List Char}
    (within : value ≤ limit) :
    readDigits limit beyond value text = .ok result ↔
      (∀ c ∈ text, c.isDigit = true) ∧ Nat.ofDigitChars 10 text value = result ∧
        result ≤ limit := by
  induction text generalizing value with
  | nil =>
      rw [readDigits, Except.ok.injEq]
      constructor
      · rintro rfl
        exact ⟨List.forall_mem_nil _, rfl, within⟩
      · exact fun holds => holds.2.1
  | cons c rest ih =>
      rw [readDigits, digit?, List.forall_mem_cons, Nat.ofDigitChars_cons]
      cases digit : c.isDigit with
      | false => simp
      | true =>
          simp only [if_true, true_and, Nat.mul_comm value 10]
          split
          next smaller => exact ih smaller
          next larger =>
            constructor
            · intro failed
              contradiction
            · rintro ⟨_, rfl, atMost⟩
              exact absurd (Nat.le_trans (le_ofDigitChars rest _) atMost) larger

theorem readSigned_of_ne_nil {limit : Nat} {beyond : Fault} {digits : List Char}
    (notEmpty : digits ≠ []) :
    readSigned limit beyond digits = readDigits limit beyond 0 digits := by
  cases digits with
  | nil => contradiction
  | cons => rfl

theorem readSigned_eq_ok_iff {limit result : Nat} {beyond : Fault} {digits : List Char} :
    readSigned limit beyond digits = .ok result ↔
      digits ≠ [] ∧ (∀ c ∈ digits, c.isDigit = true) ∧ Nat.ofDigitChars 10 digits 0 = result ∧
        result ≤ limit := by
  by_cases empty : digits = []
  · subst empty
    simp [readSigned]
  · rw [readSigned_of_ne_nil empty, readDigits_eq_ok_iff (Nat.zero_le limit)]
    exact (and_iff_right empty).symm

/-- Only a plus sign may stand in front of the digits if there are no negative values. -/
theorem read_eq_ok_iff {high : Nat} {text : String} {result : Int} :
    read 0 high text = .ok result ↔ ∃ value : Nat, value = result ∧ value ≤ high ∧
      Writes text value := by
  have unsigned {digits : List Char} (bare : withoutPlus text.toList = digits) :
      (readSigned high .tooLarge digits).map Int.ofNat = .ok result ↔
        ∃ value : Nat, value = result ∧ value ≤ high ∧ Writes text value := by
    subst bare
    simp only [map_eq_ok_iff, readSigned_eq_ok_iff]
    constructor
    · rintro ⟨value, ⟨notEmpty, digits, value_eq, atMost⟩, rfl⟩
      exact ⟨value, rfl, atMost, notEmpty, digits, value_eq⟩
    · rintro ⟨value, rfl, atMost, writes⟩
      exact ⟨value, ⟨writes.notEmpty, writes.digits, writes.value_eq, atMost⟩, rfl⟩
  unfold read
  split
  next empty =>
    have bare : withoutPlus text.toList = [] := by rw [empty]; rfl
    constructor
    · intro read
      contradiction
    · rintro ⟨value, _, _, writes⟩
      exact absurd bare writes.notEmpty
  next digits shape => exact unsigned (by rw [shape]; rfl)
  next digits shape =>
    have bare : withoutPlus text.toList = '-' :: digits := by rw [shape]; rfl
    constructor
    · intro read
      contradiction
    · rintro ⟨value, _, _, writes⟩
      have digit := writes.digits '-' (by rw [bare]; exact List.mem_cons_self)
      contradiction
  next notEmpty notPlus _ =>
    have bare : withoutPlus text.toList = text.toList := by
      unfold withoutPlus
      split
      next rest shape => exact absurd shape (notPlus rest)
      next => rfl
    rw [← readSigned_of_ne_nil notEmpty]
    exact unsigned bare

/-- A word is read from a numeral of its value and from nothing else. -/
theorem readWord_eq_ok_iff {width : Nat} {text : String} {word : BitVec width} :
    readWord width text = .ok word ↔ Writes text word.toNat := by
  rw [readWord, map_eq_ok_iff]
  constructor
  · rintro ⟨result, read, rfl⟩
    rcases read_eq_ok_iff.mp read with ⟨value, rfl, atMost, writes⟩
    have fits : value < 2 ^ width := by
      rw [BitVec.toNat_allOnes] at atMost
      exact Nat.lt_of_le_pred (Nat.two_pow_pos width) atMost
    rw [BitVec.ofInt_natCast, BitVec.toNat_ofNat, Nat.mod_eq_of_lt fits]
    exact writes
  · intro writes
    have atMost : word.toNat ≤ (BitVec.allOnes width).toNat := by
      rw [BitVec.toNat_allOnes]
      exact Nat.le_pred_of_lt word.isLt
    refine ⟨word.toNat, read_eq_ok_iff.mpr ⟨word.toNat, rfl, atMost, writes⟩, ?_⟩
    rw [BitVec.ofInt_natCast, BitVec.ofNat_toNat, BitVec.setWidth_eq]

theorem writes_toString (value : Nat) : Writes (toString value) value := by
  have shape : (toString value).toList = Nat.toDigits 10 value := by
    rw [Nat.toString_eq_ofList_toDigits, String.toList_ofList]
  have digits : ∀ c ∈ Nat.toDigits 10 value, c.isDigit = true := by
    intro c member
    exact Nat.isDigit_of_mem_toDigits (by decide) (by decide) member
  have unsigned : withoutPlus (toString value).toList = Nat.toDigits 10 value := by
    rw [shape]
    unfold withoutPlus
    split
    next rest plus =>
      have digit := digits '+' (by rw [plus]; exact List.mem_cons_self)
      contradiction
    next => rfl
  refine ⟨?_, ?_, ?_⟩
  · rw [unsigned]
    exact Nat.toDigits_ne_nil
  · rw [unsigned]
    exact digits
  · rw [unsigned, Nat.ofDigitChars_ten_toDigits]

/-- A word is read back from its own numeral. -/
theorem readWord_toString {width : Nat} (word : BitVec width) :
    readWord width (toString word.toNat) = .ok word :=
  readWord_eq_ok_iff.mpr (writes_toString word.toNat)

end Text.Integer

namespace Program.Settings

open Text.Integer (Writes readWord readWord_eq_ok_iff)

variable {lookup : String → Option String}

/-- The word that a variable gives: the value of the numeral that it is set to, or zero if it is not
set. -/
def Gives (lookup : String → Option String) (name : String) {width : Nat}
    (word : BitVec width) : Prop :=
  match lookup name with
  | none => word = 0
  | some text => Writes text word.toNat

/-- The variable is set to a text that is no numeral in the range of a word. -/
def Misset (lookup : String → Option String) (name : String) (width : Nat) : Prop :=
  ∃ text, lookup name = some text ∧ ∀ value < 2 ^ width, ¬ Writes text value

/-- The variable for checksums asks for them: it is the digit one, or `true` in any case. -/
def AsksForChecksum (lookup : String → Option String) : Prop :=
  ∃ text, lookup "ORDERLYID_CHECKSUM" = some text ∧
    (text = "1" ∨ text.toList.map Char.toLower = ['t', 'r', 'u', 'e'])

/-- One of the variables that are to hold numbers does not. -/
def AnyMisset (lookup : String → Option String) : Prop :=
  Misset lookup "ORDERLYID_TENANT" 16 ∨ Misset lookup "ORDERLYID_SHARD" 16 ∨
    Misset lookup "ORDERLYID_BUCKET_SECONDS" 32

/-- The options are those that the variables give. -/
structure GivesOptions (lookup : String → Option String) (options : Options) : Prop where
  tenant : Gives lookup "ORDERLYID_TENANT" options.tenant
  shard : Gives lookup "ORDERLYID_SHARD" options.shard
  checksum : options.checksum = true ↔ AsksForChecksum lookup
  bucketSeconds : Gives lookup "ORDERLYID_BUCKET_SECONDS" options.bucketSeconds

theorem number_eq_ok_iff {width : Nat} {name range : String} {word : BitVec width} :
    number width lookup name range = .ok word ↔ Gives lookup name word := by
  unfold number Gives
  cases lookup name with
  | none => simp only [Except.ok.injEq, eq_comm]
  | some text =>
      simp only [← readWord_eq_ok_iff]
      cases readWord width text with
      | error fault => simp
      | ok value => simp only [Except.ok.injEq]

/-- Exactly a variable that is not set as it should be gives no word. -/
theorem misset_iff {name : String} {width : Nat} :
    Misset lookup name width ↔ ¬ ∃ word : BitVec width, Gives lookup name word := by
  unfold Misset Gives
  cases lookup name with
  | none => simp
  | some text =>
      simp only [Option.some.injEq, exists_eq_left', not_exists]
      constructor
      · exact fun never word => never word.toNat word.isLt
      · intro never value fits writes
        apply never (BitVec.ofNat width value)
        rw [BitVec.toNat_ofNat, Nat.mod_eq_of_lt fits]
        exact writes

theorem any_saysYes_iff :
    (lookup "ORDERLYID_CHECKSUM").any saysYes = true ↔ AsksForChecksum lookup := by
  simp [AsksForChecksum, Option.any_eq_true, saysYes]

theorem read_eq_ok_iff {options : Options} :
    read lookup = .ok options ↔ GivesOptions lookup options := by
  simp only [read, bind_eq_ok_iff, number_eq_ok_iff]
  constructor
  · rintro ⟨tenant, givesTenant, shard, givesShard, bucketSeconds, givesBucket, made⟩
    cases made
    exact ⟨givesTenant, givesShard, any_saysYes_iff, givesBucket⟩
  · intro gives
    refine ⟨_, gives.tenant, _, gives.shard, _, gives.bucketSeconds, ?_⟩
    have checksum : (lookup "ORDERLYID_CHECKSUM").any saysYes = options.checksum := by
      rw [Bool.eq_iff_iff, any_saysYes_iff, gives.checksum]
    rw [checksum]
    rfl

/-- The variables give options unless one of them is not set as it should be. -/
theorem anyMisset_iff :
    AnyMisset lookup ↔ ¬ ∃ options, GivesOptions lookup options := by
  rw [AnyMisset, misset_iff, misset_iff, misset_iff]
  constructor
  · rintro (noTenant | noShard | noBucket) ⟨options, gives⟩
    · exact noTenant ⟨_, gives.tenant⟩
    · exact noShard ⟨_, gives.shard⟩
    · exact noBucket ⟨_, gives.bucketSeconds⟩
  · intro noOptions
    by_contra all
    push Not at all
    rcases all with ⟨⟨tenant, givesTenant⟩, ⟨shard, givesShard⟩, bucketSeconds, givesBucket⟩
    apply noOptions
    exact ⟨{ tenant, shard, bucketSeconds, checksum := (lookup "ORDERLYID_CHECKSUM").any saysYes },
      givesTenant, givesShard, any_saysYes_iff, givesBucket⟩

end Program.Settings

end SortableId
